import DcpPlatform.Foundation.Money
import DcpPlatform.Foundation.Outcome
import DcpPlatform.Foundation.Serial

/-!
# The tables of the billing engine

A row of the reservations and of the sessions is numbered by the store, for
the random identifiers of the source. No caller passes an idempotency key to
the wallet, so every debit and every credit makes a row of its own.
-/

namespace DcpPlatform.Sessions

open Foundation

inductive TransactionType where
  | debit | credit
  deriving DecidableEq

structure Transaction where
  userId : Nat
  type : TransactionType
  amountHalala : Int
  reason : String
  jobId : Nat
  createdAt : Int

inductive ReservationStatus where
  | held | settled | released
  deriving DecidableEq

structure Reservation where
  id : Nat
  userId : Nat
  amountHalala : Int
  jobId : Nat
  status : ReservationStatus
  actualAmountHalala : Option Int
  settledAt : Option Int
  createdAt : Int

inductive SessionStatus where
  | active | closing | closed
  deriving DecidableEq

structure BillingSession where
  id : Nat
  jobId : Nat
  renterId : Nat
  providerId : Nat
  ratePerHourHalala : Int
  startedAt : Int
  endedAt : Option Int
  reservationId : Nat
  reservedAmountHalala : Int
  status : SessionStatus
  deriving DecidableEq

structure BillingTick where
  sessionId : Nat
  tickNumber : Nat
  elapsedMinutes : Int
  incrementMinutes : Int
  renterChargeHalala : Int
  providerCreditHalala : Int
  dc1RevenueHalala : Int
  recordedAt : Int

structure BillingReceipt where
  sessionId : Nat
  jobId : Nat
  totalMinutes : Int
  renterChargedTotalHalala : Int
  providerPayoutTotalHalala : Int
  dc1RevenueTotalHalala : Int
  closedAt : Int

inductive PayoutStatus where
  | pending | processing | completed

structure PayoutRecord where
  providerId : Nat
  sessionId : Nat
  amountHalala : Int
  status : PayoutStatus
  createdAt : Int

def PayoutRecord.owner (payout : PayoutRecord) : Nat × Nat :=
  (payout.providerId, payout.sessionId)

/-- The `session_id` of a receipt is unique. -/
structure Store where
  transactions : List Transaction
  reservations : Serial Reservation Reservation.id
  sessions : Serial BillingSession BillingSession.id
  ticks : List BillingTick
  receipts : Table BillingReceipt BillingReceipt.sessionId
  payouts : Table PayoutRecord PayoutRecord.owner

def Reservation.resolve (actualAmountHalala now : Int) (reservation : Reservation) : Reservation :=
  { reservation with
    status := if 0 < actualAmountHalala then .settled else .released
    actualAmountHalala := some actualAmountHalala
    settledAt := some now }

@[simp]
theorem Reservation.resolve_id (actualAmountHalala now : Int) (reservation : Reservation) :
    (reservation.resolve actualAmountHalala now).id = reservation.id :=
  rfl

namespace BillingSession

def setClosing (session : BillingSession) : BillingSession :=
  { session with status := .closing }

@[simp]
theorem setClosing_id (session : BillingSession) :
    session.setClosing.id = session.id :=
  rfl

def setClosed (now : Int) (session : BillingSession) : BillingSession :=
  { session with status := .closed, endedAt := some now }

@[simp]
theorem setClosed_id (now : Int) (session : BillingSession) :
    (session.setClosed now).id = session.id :=
  rfl

def IsOpen (session : BillingSession) : Prop :=
  session.status = .active ∨ session.status = .closing
deriving Decidable

end BillingSession

/-! ## Reads -/

namespace Store

variable (store : Store)

def totalOf (type : TransactionType) (userId : Nat) : Int :=
  ((store.transactions.filter (fun transaction =>
    transaction.userId = userId ∧ transaction.type = type)).map Transaction.amountHalala).sum

def heldFor (userId : Nat) : Int :=
  ((store.reservations.table.rows.filter (fun reservation =>
    reservation.userId = userId ∧ reservation.status = .held)).map Reservation.amountHalala).sum

def available (userId : Nat) : Int :=
  store.totalOf .credit userId - store.totalOf .debit userId - store.heldFor userId

def openSession (jobId : Nat) : Option BillingSession :=
  store.sessions.table.rows.find? (fun session =>
    session.jobId = jobId ∧ session.IsOpen)

def ticksOf (sessionId : Nat) : List BillingTick :=
  store.ticks.filter (fun tick => tick.sessionId = sessionId)

end Store

def laterTick (best : Option BillingTick) (tick : BillingTick) :
    Option BillingTick :=
  match best with
  | none => some tick
  | some other => if other.tickNumber < tick.tickNumber then some tick else best

/-- `ORDER BY tick_number DESC LIMIT 1`. -/
def lastTick (ticks : List BillingTick) : Option BillingTick :=
  ticks.foldl laterTick none

/-! ## Writes

A write is refused where a constraint of its table is violated. -/

inductive StoreError where
  | insufficientBalance (available needed : Int)
  | constraint

namespace Store

variable (store : Store)

def insertTransaction (type : TransactionType) (userId : Nat)
    (amountHalala : Int) (reason : String) (jobId : Nat) (now : Int) :
    Except StoreError Store := do
  require (0 < amountHalala) .constraint
  pure { store with
    transactions := store.transactions ++ [⟨userId, type, amountHalala, reason, jobId, now⟩] }

def debitWalletAtomic (userId : Nat) (amountHalala : Int)
    (reason : String) (jobId : Nat) (now : Int) :
    Except StoreError Store := do
  require (amountHalala ≤ store.available userId)
    (.insufficientBalance (store.available userId) amountHalala)
  store.insertTransaction .debit userId amountHalala reason jobId now

def reservationRow (userId : Nat) (amountHalala : Int) (jobId : Nat) (now : Int) : Reservation :=
  { id := store.reservations.last + 1
    userId := userId
    amountHalala := amountHalala
    jobId := jobId
    status := .held
    actualAmountHalala := none
    settledAt := none
    createdAt := now }

theorem reservationRow_id (userId : Nat) (amountHalala : Int) (jobId : Nat) (now : Int) :
    (store.reservationRow userId amountHalala jobId now).id = store.reservations.last + 1 :=
  rfl

def insertReservation (userId : Nat) (amountHalala : Int) (jobId : Nat)
    (now : Int) : Except StoreError (Reservation × Store) := do
  require (0 < amountHalala) .constraint
  pure (store.reservationRow userId amountHalala jobId now, { store with
    reservations := store.reservations.append (store.reservationRow userId amountHalala jobId now)
      (store.reservationRow_id userId amountHalala jobId now) })

structure NewSession where
  jobId : Nat
  renterId : Nat
  providerId : Nat
  ratePerHourHalala : Int
  startedAt : Int
  reservationId : Nat
  reservedAmountHalala : Int

def sessionRow (values : NewSession) : BillingSession :=
  { id := store.sessions.last + 1
    jobId := values.jobId
    renterId := values.renterId
    providerId := values.providerId
    ratePerHourHalala := values.ratePerHourHalala
    startedAt := values.startedAt
    endedAt := none
    reservationId := values.reservationId
    reservedAmountHalala := values.reservedAmountHalala
    status := .active }

theorem sessionRow_id (values : NewSession) :
    (store.sessionRow values).id = store.sessions.last + 1 :=
  rfl

def insertSession (values : NewSession) :
    BillingSession × Store :=
  (store.sessionRow values, { store with
    sessions := store.sessions.append (store.sessionRow values) (store.sessionRow_id values) })

def insertTick (tick : BillingTick) : Except StoreError Store := do
  require (∀ other ∈ store.ticks,
    ¬ (other.sessionId = tick.sessionId ∧ other.tickNumber = tick.tickNumber))
    .constraint
  pure { store with ticks := store.ticks ++ [tick] }

def updateSession (sessionId : Nat) (change : BillingSession → BillingSession)
    (keeps : ∀ session, (change session).id = session.id) : Store :=
  { store with
    sessions := store.sessions.update sessionId change keeps }

def setClosing (sessionId : Nat) : Store :=
  store.updateSession sessionId BillingSession.setClosing BillingSession.setClosing_id

def setClosed (sessionId : Nat) (now : Int) : Store :=
  store.updateSession sessionId (BillingSession.setClosed now) (BillingSession.setClosed_id now)

def resolveReservation (reservationId : Nat) (actualAmountHalala now : Int) : Store :=
  { store with
    reservations := store.reservations.update reservationId
      (Reservation.resolve actualAmountHalala now)
      (Reservation.resolve_id actualAmountHalala now) }

def insertReceipt (receipt : BillingReceipt) : Except StoreError Store :=
  if store.receipts.lookup receipt.sessionId = none then
    .ok { store with receipts := store.receipts.insertIfNew receipt }
  else
    .error .constraint

def insertPayout (payout : PayoutRecord) : Except StoreError Store :=
  if store.payouts.lookup payout.owner = none then
    .ok { store with payouts := store.payouts.insertIfNew payout }
  else
    .error .constraint

end Store

end DcpPlatform.Sessions
