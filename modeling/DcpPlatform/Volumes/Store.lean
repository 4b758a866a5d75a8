import DcpPlatform.Foundation.Query
import DcpPlatform.Foundation.Money

/-!
# Rentable volumes

A renter has one row, which a new rental reuses. Rows keep the order of their
ids. The money that statements move is kept in `movements`, and the periods
that have been granted in `rentals`; the source has neither list.
-/

namespace DcpPlatform.Volumes

open Foundation

inductive VolumeStatus where
  | active | released | suspended
  deriving DecidableEq

structure Volume where
  bucket : String
  renterId : Nat
  sizeGb : Nat
  status : VolumeStatus
  priceHalalaPerMonth : Int
  rentedAt : Int
  currentPeriodStart : Int
  currentPeriodEnd : Int
  lastBilledAt : Option Int
  releasedAt : Option Int

structure Renter where
  id : Nat
  balanceHalala : Int

/-! ## Movements and rentals -/

inductive MovementKind where
  | debit | refund | topUp
  deriving DecidableEq

/-- A statement that has changed the balance of a renter, with the balance it
left behind. -/
structure Movement where
  kind : MovementKind
  renterId : Nat
  amount : Int
  remaining : Int

def Movement.taken (movement : Movement) : Int :=
  match movement.kind with
  | .debit => movement.amount
  | .refund => -movement.amount
  | .topUp => 0

def Movement.debits (movement : Movement) : Int :=
  match movement.kind with
  | .debit => 1
  | .refund => -1
  | .topUp => 0

def Movement.toppedUp (movement : Movement) : Int :=
  match movement.kind with
  | .topUp => movement.amount
  | .debit | .refund => 0

def Movement.sumOf (amount : Movement → Int) (renterId : Nat) (movements : List Movement) : Int :=
  ((movements.filter (fun movement =>
    movement.renterId = renterId)).map amount).sum

structure Rental where
  bucket : String
  renterId : Nat
  priceHalala : Int
  rentedAt : Int
  periods : Nat

namespace Rental

def charge (rental : Rental) : Int :=
  rental.priceHalala * rental.periods

def extend (rental : Rental) : Rental :=
  { rental with periods := rental.periods + 1 }

def extendLatest (bucket : String) : List Rental → List Rental
  | [] => []
  | rental :: rentals =>
    if rental.bucket = bucket then rental.extend :: rentals
    else rental :: extendLatest bucket rentals

def latest (bucket : String) (rentals : List Rental) : Option Rental :=
  rentals.find? (fun rental => rental.bucket = bucket)

def sumOf (amount : Rental → Int) (renterId : Nat) (rentals : List Rental) : Int :=
  ((rentals.filter (fun rental => rental.renterId = renterId)).map amount).sum

end Rental

structure Database where
  renters : Table Renter Renter.id
  volumes : Table Volume Volume.bucket
  movements : List Movement
  rentals : List Rental

namespace Database

def takenFrom (db : Database) (renterId : Nat) : Int :=
  Movement.sumOf Movement.taken renterId db.movements

/-- The number of debits that have not been returned. -/
def debitsOf (db : Database) (renterId : Nat) : Int :=
  Movement.sumOf Movement.debits renterId db.movements

def toppedUpBy (db : Database) (renterId : Nat) : Int :=
  Movement.sumOf Movement.toppedUp renterId db.movements

/-- What the rentals of a renter have cost: the price of a period times the
periods granted. -/
def chargedFor (db : Database) (renterId : Nat) : Int :=
  Rental.sumOf Rental.charge renterId db.rentals

def periodsGrantedTo (db : Database) (renterId : Nat) : Int :=
  Rental.sumOf (fun rental => rental.periods) renterId db.rentals

def balanceOf (db : Database) (renterId : Nat) : Int :=
  ((db.renters.lookup renterId).map Renter.balanceHalala).getD 0

def activePoolGb (db : Database) : Nat :=
  ((db.volumes.select (fun volume => volume.status = .active)).map Volume.sizeGb).sum

def activeVolume (db : Database) (renterId : Nat) : Option Volume :=
  (db.volumes.select (fun volume =>
    volume.renterId = renterId ∧ volume.status = .active)).head?

end Database

def Renter.addBalance (amount : Int) (renter : Renter) : Renter :=
  { renter with balanceHalala := renter.balanceHalala + amount }

@[simp]
theorem Renter.addBalance_id (amount : Int) (renter : Renter) :
    (renter.addBalance amount).id = renter.id :=
  rfl

namespace Volume

def setRented (sizeGb : Nat) (priceHalala now periodEnd : Int) (volume : Volume) : Volume :=
  { volume with
    sizeGb := sizeGb
    status := .active
    priceHalalaPerMonth := priceHalala
    rentedAt := now
    currentPeriodStart := now
    currentPeriodEnd := periodEnd
    lastBilledAt := some now
    releasedAt := none }

@[simp]
theorem setRented_bucket (sizeGb : Nat) (priceHalala now periodEnd : Int) (volume : Volume) :
    (setRented sizeGb priceHalala now periodEnd volume).bucket =
      volume.bucket :=
  rfl

def setReleased (now : Int) (volume : Volume) : Volume :=
  { volume with status := .released, releasedAt := some now }

@[simp]
theorem setReleased_bucket (now : Int) (volume : Volume) :
    (setReleased now volume).bucket = volume.bucket :=
  rfl

def setSuspended (volume : Volume) : Volume :=
  { volume with status := .suspended }

@[simp]
theorem setSuspended_bucket (volume : Volume) :
    (setSuspended volume).bucket = volume.bucket :=
  rfl

end Volume

namespace Database

def move (db : Database) (kind : MovementKind) (renter : Renter) (amount : Int) : Database :=
  { db with
    renters := db.renters.update renter.id (Renter.addBalance amount) (Renter.addBalance_id amount)
    movements := db.movements ++
      [{ kind := kind
         renterId := renter.id
         amount := if kind = .debit then -amount else amount
         remaining := renter.balanceHalala + amount }] }

def debit (db : Database) (renterId : Nat) (amount : Int) :
    Option Database :=
  match db.renters.lookup renterId with
  | none => none
  | some renter =>
    if amount ≤ renter.balanceHalala then
      some (db.move .debit renter (-amount))
    else
      none

def credit (db : Database) (kind : MovementKind) (renterId : Nat) (amount : Int) : Database :=
  match db.renters.lookup renterId with
  | none => db
  | some renter => db.move kind renter amount

end Database

end DcpPlatform.Volumes
