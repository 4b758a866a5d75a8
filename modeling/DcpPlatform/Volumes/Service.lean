import DcpPlatform.Volumes.Store

/-!
# Renting, releasing and billing volumes

A rental debits the first month, provisions the bucket and writes the row;
when one of the last two fails, the debit is returned. `billRenterVolumes`
renews, suspends or releases the volumes whose paid period has ended.
-/

namespace DcpPlatform.Volumes

open Foundation

def volumeSizesGb : List Nat :=
  [10, 20, 30]

def poolCeilingGb : Nat := 100

def dayMs : Int := 86400000

def periodMs : Int := 30 * dayMs

def graceMs : Int := 7 * dayMs

def halalaPerGbMonth : ℚ := 5 / 100 * (375 / 100) * 100

def monthlyHalala (sizeGb : Nat) : Int :=
  mathRound (sizeGb * halalaPerGbMonth)

def bucketFor (renterId : Nat) : String :=
  "dcp-vol-r" ++ toString renterId

def datetime (instant : Int) : Int :=
  instant / 1000 * 1000

inductive Outcome where
  | rented | provisionFailed | persistFailed

inductive VolumeError where
  | invalidSize
  | alreadyRented
  | poolFull (availableGb : Nat)
  | paymentRequired (requiredHalala balanceHalala : Int)
  | provisionFailed
  | persistFailed
  | noActiveVolume

def newVolume (renterId sizeGb : Nat) (now : Int) : Volume :=
  { bucket := bucketFor renterId
    renterId := renterId
    sizeGb := sizeGb
    status := .active
    priceHalalaPerMonth := monthlyHalala sizeGb
    rentedAt := now
    currentPeriodStart := now
    currentPeriodEnd := now + periodMs
    lastBilledAt := some now
    releasedAt := none }

def newRental (renterId : Nat) (priceHalala now : Int) : Rental :=
  { bucket := bucketFor renterId
    renterId := renterId
    priceHalala := priceHalala
    rentedAt := now
    periods := 1 }

/-- The row of an earlier rental is reused. -/
def persistRental (db : Database) (renterId sizeGb : Nat) (now : Int) :
    Database :=
  let rental := newRental renterId (monthlyHalala sizeGb) now
  if fresh : db.volumes.lookup (bucketFor renterId) = none then
    { db with
      volumes := db.volumes.insert (newVolume renterId sizeGb now) fresh
      rentals := rental :: db.rentals }
  else
    { db with
      volumes := db.volumes.update (bucketFor renterId)
        (Volume.setRented sizeGb (monthlyHalala sizeGb) now (now + periodMs))
        (Volume.setRented_bucket _ _ _ _)
      rentals := rental :: db.rentals }

def rentVolume (db : Database) (renterId : Nat) (requestedGb : ℚ)
    (outcome : Outcome) (now : Int) : Database × Option VolumeError :=
  match volumeSizesGb.find? (fun size : Nat =>
    decide ((size : ℚ) = requestedGb)) with
  | none => (db, some .invalidSize)
  | some sizeGb =>
    if (db.activeVolume renterId).isSome then
      (db, some .alreadyRented)
    else if poolCeilingGb < db.activePoolGb + sizeGb then
      (db, some (.poolFull (poolCeilingGb - db.activePoolGb)))
    else
      match db.debit renterId (monthlyHalala sizeGb) with
      | none =>
        (db, some (.paymentRequired (monthlyHalala sizeGb)
          (max 0 (((db.renters.lookup renterId).map Renter.balanceHalala).getD 0))))
      | some debited =>
        match outcome with
        | .rented => (persistRental debited renterId sizeGb now, none)
        | .provisionFailed =>
          (debited.credit .refund renterId (monthlyHalala sizeGb), some .provisionFailed)
        | .persistFailed =>
          (debited.credit .refund renterId (monthlyHalala sizeGb), some .persistFailed)

def releaseVolume (db : Database) (renterId : Nat) (now : Int) :
    Database × Option VolumeError :=
  match db.activeVolume renterId with
  | none => (db, some .noActiveVolume)
  | some volume =>
    ({ db with
      volumes := db.volumes.update volume.bucket (Volume.setReleased now)
        (Volume.setReleased_bucket now) }, none)

namespace Volume

def IsDue (now : Int) (volume : Volume) : Prop :=
  volume.status ≠ .released ∧ datetime volume.currentPeriodEnd ≤ datetime now
deriving Decidable

def HasLapsed (now : Int) (volume : Volume) : Prop :=
  volume.status = .suspended ∧ graceMs ≤ now - volume.currentPeriodEnd
deriving Decidable

def renewalPrice (volume : Volume) : Int :=
  max 0 volume.priceHalalaPerMonth

def setRenewed (now : Int) (volume : Volume) : Volume :=
  { volume with
    status := .active
    currentPeriodStart := volume.currentPeriodEnd
    currentPeriodEnd := datetime volume.currentPeriodEnd + periodMs
    lastBilledAt := some now }

@[simp]
theorem setRenewed_bucket (now : Int) (volume : Volume) :
    (setRenewed now volume).bucket = volume.bucket :=
  rfl

end Volume

def dueVolumes (db : Database) (now : Int) : List Volume :=
  (db.volumes.select (Volume.IsDue now)).take 50

def renewVolume (db : Database) (volume : Volume) (now : Int) : Database :=
  { db with
    volumes :=
      db.volumes.update volume.bucket (Volume.setRenewed now) (Volume.setRenewed_bucket now)
    rentals := Rental.extendLatest volume.bucket db.rentals }

def chargeRenewal (db : Database) (volume : Volume) (now : Int) :
    Option Database :=
  if 0 < volume.renewalPrice then
    (db.debit volume.renterId volume.renewalPrice).map
      (fun debited => renewVolume debited volume now)
  else
    some (renewVolume db volume now)

def billVolume (now : Int) (db : Database) (volume : Volume) : Database :=
  if volume.HasLapsed now then
    { db with
      volumes := db.volumes.updateWhere volume.bucket
        (fun row => row.status = .suspended) (Volume.setReleased now)
        (Volume.setReleased_bucket now) }
  else
    match chargeRenewal db volume now with
    | some charged => charged
    | none =>
      if volume.status = .active then
        { db with
          volumes := db.volumes.updateWhere volume.bucket
            (fun row => row.status = .active) Volume.setSuspended
            Volume.setSuspended_bucket }
      else
        db

def billRenterVolumes (db : Database) (now : Int) : Database :=
  (dueVolumes db now).foldl (billVolume now) db

inductive VolumeAction where
  | rent (renterId : Nat) (requestedGb : ℚ) (outcome : Outcome) (now : Int)
  | release (renterId : Nat) (now : Int)
  | topUp (renterId amount : Nat)
  | billRenterVolumes (now : Int)

def volumeNext (db : Database) : VolumeAction → Option Database
  | .rent renterId requestedGb outcome now =>
    some (rentVolume db renterId requestedGb outcome now).1
  | .release renterId now => some (releaseVolume db renterId now).1
  | .topUp renterId amount => some (db.credit .topUp renterId amount)
  | .billRenterVolumes now => some (billRenterVolumes db now)

end DcpPlatform.Volumes
