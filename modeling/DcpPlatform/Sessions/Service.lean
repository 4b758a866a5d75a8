import DcpPlatform.Sessions.Store

/-!
# The billing engine

A session bills the minutes of a job: each tick the minutes since the one
before, the close what the total leaves over. Charges are rounded to the
nearest halala. The functions below are calls that nothing interrupts, at the
time `now`.
-/

namespace DcpPlatform.Sessions

open Foundation

def PROVIDER_SHARE : Int := 75

def DEFAULT_RESERVE_HOURS : Int := 24

def sarToHalala (sar : ℚ) : Int :=
  mathRound (sar * 100)

def costForMinutes (minutes ratePerHourHalala : Int) : Int :=
  mathRound ((minutes * ratePerHourHalala : ℚ) / 60)

structure Split where
  provider : Int
  dc1 : Int

def splitCost (totalHalala : Int) : Split :=
  let provider := mathRound ((totalHalala * PROVIDER_SHARE : ℚ) / 100)
  { provider := provider
    dc1 := totalHalala - provider }

theorem splitCost_sum (totalHalala : Int) :
    totalHalala = (splitCost totalHalala).provider + (splitCost totalHalala).dc1 := by
  exact (add_sub_cancel _ totalHalala).symm

def minutesBetween (start finish : Int) : Int :=
  mathRound ((finish - start : ℚ) / 60000)

inductive BillingError where
  | sessionNotFound (sessionId : Nat)
  | notActive (sessionId : Nat) (status : SessionStatus)
  | noNewMinutes
  | cannotReserve (available needed : Int)
  | reservationNotFound (reservationId : Nat)
  | noReceipt (sessionId : Nat)
  | debitFailed (error : StoreError)
  | creditFailed (error : StoreError)
  | reserveFailed (error : StoreError)
  | tickFailed (error : StoreError)
  | receiptFailed (error : StoreError)
  | payoutFailed (error : StoreError)

namespace Store

variable (store : Store)

def debit (userId : Nat) (amountHalala : Int) (reason : String)
    (jobId : Nat) (now : Int) : Except BillingError Store :=
  (store.debitWalletAtomic userId amountHalala reason jobId now).mapError .debitFailed

def credit (userId : Nat) (amountHalala : Int) (reason : String)
    (jobId : Nat) (now : Int) : Except BillingError Store :=
  (store.insertTransaction .credit userId amountHalala reason jobId now).mapError .creditFailed

def reserve (userId : Nat) (amountHalala : Int) (jobId : Nat)
    (now : Int) : Except BillingError (Reservation × Store) := do
  require (amountHalala ≤ store.available userId)
    (.cannotReserve (store.available userId) amountHalala)
  (store.insertReservation userId amountHalala jobId now).mapError .reserveFailed

def releaseReservation (reservationId : Nat)
    (actualAmountHalala now : Int) : Except BillingError Store := do
  let reservation ← orFail (.reservationNotFound reservationId)
    (store.reservations.lookup reservationId)
  if reservation.status = .held then
    pure (store.resolveReservation reservationId actualAmountHalala now)
  else
    pure store

def getSession (sessionId : Nat) : Except BillingError BillingSession :=
  orFail (.sessionNotFound sessionId) (store.sessions.lookup sessionId)

end Store

def newSession (jobId renterId providerId : Nat) (ratePerHourSar : ℚ)
    (reservationId : Nat) (now : Int) : Store.NewSession :=
  { jobId := jobId
    renterId := renterId
    providerId := providerId
    ratePerHourHalala := sarToHalala ratePerHourSar
    startedAt := now
    reservationId := reservationId
    reservedAmountHalala := sarToHalala ratePerHourSar * DEFAULT_RESERVE_HOURS }

def startBillingSession (store : Store)
    (jobId renterId providerId : Nat) (ratePerHourSar : ℚ) (now : Int) :
    Except BillingError (BillingSession × Store) :=
  match store.openSession jobId with
  | some existing => .ok (existing, store)
  | none => do
      let (reservation, reserved) ← store.reserve renterId
        (sarToHalala ratePerHourSar * DEFAULT_RESERVE_HOURS) jobId now
      pure (reserved.insertSession
        (newSession jobId renterId providerId ratePerHourSar reservation.id now))

def nextTickNumber (ticks : List BillingTick) : Nat :=
  ((lastTick ticks).map BillingTick.tickNumber).getD 0 + 1

def previouslyBilledMinutes (ticks : List BillingTick) : Int :=
  ((lastTick ticks).map BillingTick.elapsedMinutes).getD 0

def tickRow (session : BillingSession) (ticks : List BillingTick) (now : Int) : BillingTick :=
  let totalElapsedMinutes := minutesBetween session.startedAt now
  let incrementMinutes := totalElapsedMinutes - previouslyBilledMinutes ticks
  let renterCharge := costForMinutes incrementMinutes session.ratePerHourHalala
  { sessionId := session.id
    tickNumber := nextTickNumber ticks
    elapsedMinutes := totalElapsedMinutes
    incrementMinutes := incrementMinutes
    renterChargeHalala := renterCharge
    providerCreditHalala := (splitCost renterCharge).provider
    dc1RevenueHalala := (splitCost renterCharge).dc1
    recordedAt := now }

def tickDebitReason (tickNumber jobId : Nat) : String :=
  s!"Billing tick #{tickNumber} for job {jobId}"

def tickCreditReason (tickNumber jobId : Nat) : String :=
  s!"Provider credit tick #{tickNumber} for job {jobId}"

def recordBillingTick (store : Store) (sessionId : Nat) (now : Int) :
    Except BillingError (BillingTick × Store) := do
  let session ← store.getSession sessionId
  require (session.status = .active) (.notActive sessionId session.status)
  let tick := tickRow session (store.ticksOf sessionId) now
  require (0 < tick.incrementMinutes) .noNewMinutes
  let debited ← store.debit session.renterId tick.renterChargeHalala
    (tickDebitReason tick.tickNumber session.jobId) session.jobId now
  let credited ← debited.credit session.providerId tick.providerCreditHalala
    (tickCreditReason tick.tickNumber session.jobId) session.jobId now
  let recorded ← (credited.insertTick tick).mapError .tickFailed
  pure (tick, recorded)

def receiptRow (session : BillingSession) (now : Int) : BillingReceipt :=
  let totalMinutes := minutesBetween session.startedAt now
  let totalRenterCharge := costForMinutes totalMinutes session.ratePerHourHalala
  { sessionId := session.id
    jobId := session.jobId
    totalMinutes := totalMinutes
    renterChargedTotalHalala := totalRenterCharge
    providerPayoutTotalHalala := (splitCost totalRenterCharge).provider
    dc1RevenueTotalHalala := (splitCost totalRenterCharge).dc1
    closedAt := now }

def remainRenter (receipt : BillingReceipt) (ticks : List BillingTick) :
    Int :=
  receipt.renterChargedTotalHalala - (ticks.map BillingTick.renterChargeHalala).sum

def remainProvider (receipt : BillingReceipt) (ticks : List BillingTick) : Int :=
  receipt.providerPayoutTotalHalala - (ticks.map BillingTick.providerCreditHalala).sum

def finalDebitReason (jobId : Nat) : String :=
  s!"Final settlement for job {jobId}"

def finalCreditReason (jobId : Nat) : String :=
  s!"Final provider credit for job {jobId}"

namespace Store

variable (store : Store)

def settleRenter (session : BillingSession) (amountHalala now : Int) :
    Except BillingError Store :=
  if 0 < amountHalala then
    store.debit session.renterId amountHalala (finalDebitReason session.jobId) session.jobId now
  else
    .ok store

def settleProvider (session : BillingSession) (amountHalala now : Int) :
    Except BillingError Store :=
  if 0 < amountHalala then
    store.credit session.providerId amountHalala (finalCreditReason session.jobId) session.jobId now
  else
    .ok store

def existingReceipt (session : BillingSession) : Option BillingReceipt :=
  if session.status = .closed then
    store.receipts.lookup session.id
  else
    none

def settle (session : BillingSession) (now : Int) :
    Except BillingError (BillingReceipt × Store) := do
  let closing := store.setClosing session.id
  let receipt := receiptRow session now
  let ticks := closing.ticksOf session.id
  let debited ← closing.settleRenter session (remainRenter receipt ticks) now
  let credited ← debited.settleProvider session (remainProvider receipt ticks) now
  let released ← credited.releaseReservation session.reservationId
    receipt.renterChargedTotalHalala now
  let receipted ← (released.insertReceipt receipt).mapError .receiptFailed
  pure (receipt, receipted.setClosed session.id now)

end Store

def closeBillingSession (store : Store) (sessionId : Nat) (now : Int) :
    Except BillingError (BillingReceipt × Store) := do
  let session ← store.getSession sessionId
  match store.existingReceipt session with
  | some receipt => pure (receipt, store)
  | none => store.settle session now

def payoutRow (providerId sessionId : Nat) (receipt : BillingReceipt) (now : Int) : PayoutRecord :=
  { providerId := providerId
    sessionId := sessionId
    amountHalala := receipt.providerPayoutTotalHalala
    status := .pending
    createdAt := now }

def processProviderPayout (store : Store) (providerId sessionId : Nat)
    (now : Int) : Except BillingError (PayoutRecord × Store) :=
  match store.payouts.lookup (providerId, sessionId) with
  | some existing => .ok (existing, store)
  | none => do
      let receipt ← orFail (.noReceipt sessionId) (store.receipts.lookup sessionId)
      let payout := payoutRow providerId sessionId receipt now
      let recorded ← (store.insertPayout payout).mapError .payoutFailed
      pure (payout, recorded)

end DcpPlatform.Sessions
