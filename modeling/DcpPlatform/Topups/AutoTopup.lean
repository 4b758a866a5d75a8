import DcpPlatform.Topups.Store

/-!
# Automatic top-ups

`startTrigger` decides whether to charge the saved card and records the
attempt, `resumeTrigger` continues with the answer of the gateway. A charge
that asks for 3-D Secure is finished by the webhook through
`finalizeFrom3dsCallback`.
-/

namespace DcpPlatform.Topups

open Foundation

def maxConsecutiveFailures : Nat := 3

def pauseAfterFailuresHours : Int := 24

structure Clock where
  now : Int
  monthStart : Int
  deriving DecidableEq

inductive TriggerRefusal where
  | renterNotFound
  | notEnabled
  | noCardOnFile
  | noAmount
  | aboveThreshold
  | paused
  | monthlyCapReached
  | softLockInWindow

/-- A `maybeTrigger` that waits for the charge it has asked for. -/
structure TriggerCall where
  attemptId : Nat
  renterId : Nat
  amountHalala : Int
  now : Int
  chargeId : Option Nat
  answered : Bool

/-! ## Row updates -/

namespace Renter

def ShouldResetMonthly (clock : Clock) (renter : Renter) : Prop :=
  ∀ resetAt ∈ renter.monthlyResetAt, resetAt < clock.monthStart
deriving Decidable

def IsPaused (now : Int) (renter : Renter) : Prop :=
  ∃ until_ ∈ renter.pausedUntil, now < until_
deriving Decidable

def rollMonth (clock : Clock) (renter : Renter) : Renter :=
  if ShouldResetMonthly clock renter then
    { renter with
      monthlyUsedHalala := 0
      monthlyResetAt := some clock.monthStart }
  else
    renter

@[simp]
theorem rollMonth_id (clock : Clock) (renter : Renter) :
    (renter.rollMonth clock).id = renter.id := by
  unfold rollMonth
  split <;> rfl

@[simp]
theorem rollMonth_balance (clock : Clock) (renter : Renter) :
    (renter.rollMonth clock).balanceHalala = renter.balanceHalala := by
  unfold rollMonth
  split <;> rfl

def CapReached (renter : Renter) : Prop :=
  0 < renter.monthlyCapHalala ∧
    renter.monthlyCapHalala - renter.monthlyUsedHalala < renter.topupAmountHalala
deriving Decidable

def SoftLocked (now : Int) (renter : Renter) : Prop :=
  ∃ lastAttemptAt ∈ renter.lastAttemptAt, now - lastAttemptAt < 60 * 1000
deriving Decidable

def setLastAttemptAt (now : Int) (renter : Renter) : Renter :=
  { renter with lastAttemptAt := some now }

@[simp]
theorem setLastAttemptAt_id (now : Int) (renter : Renter) :
    (renter.setLastAttemptAt now).id = renter.id :=
  rfl

/-- A successful recharge counts against the cap and ends the failures. -/
def setRecharged (amountHalala : Int) (renter : Renter) : Renter :=
  { renter with
    monthlyUsedHalala := renter.monthlyUsedHalala + amountHalala
    consecutiveFailures := 0
    pausedUntil := none }

@[simp]
theorem setRecharged_id (amountHalala : Int) (renter : Renter) :
    (renter.setRecharged amountHalala).id = renter.id :=
  rfl

def setFailed (now : Int) (renter : Renter) : Renter :=
  { renter with
    consecutiveFailures := renter.consecutiveFailures + 1
    pausedUntil :=
      if maxConsecutiveFailures ≤ renter.consecutiveFailures + 1 then
        some (now + pauseAfterFailuresHours * 3600 * 1000)
      else
        none }

@[simp]
theorem setFailed_id (now : Int) (renter : Renter) :
    (renter.setFailed now).id = renter.id :=
  rfl

end Renter

namespace Attempt

def setFinished (status : AttemptStatus) (moyasarPaymentId : Option Nat)
    (balanceAfterHalala : Option Int) (now : Int) (attempt : Attempt) :
    Attempt :=
  { attempt with
    status := status
    moyasarPaymentId := moyasarPaymentId
    balanceAfterHalala := balanceAfterHalala
    completedAt := some now }

@[simp]
theorem setFinished_id (status : AttemptStatus)
    (moyasarPaymentId : Option Nat) (balanceAfterHalala : Option Int)
    (now : Int) (attempt : Attempt) :
    (attempt.setFinished status moyasarPaymentId balanceAfterHalala now).id =
      attempt.id :=
  rfl

/-- A failure keeps the gateway id of the attempt, if there is one. -/
def setFailed (now : Int) (attempt : Attempt) : Attempt :=
  { attempt with status := .failed, completedAt := some now }

@[simp]
theorem setFailed_id (now : Int) (attempt : Attempt) :
    (attempt.setFailed now).id = attempt.id :=
  rfl

def setConfirmed (balanceAfterHalala now : Int) (attempt : Attempt) :
    Attempt :=
  { attempt with
    status := .paid
    balanceAfterHalala := some balanceAfterHalala
    completedAt := some now }

@[simp]
theorem setConfirmed_id (balanceAfterHalala now : Int) (attempt : Attempt) :
    (attempt.setConfirmed balanceAfterHalala now).id = attempt.id :=
  rfl

end Attempt

namespace Database

def updateRenter (db : Database) (renterId : Nat) (change : Renter → Renter)
    (keeps : ∀ row, (change row).id = row.id) : Database :=
  { db with renters := db.renters.update renterId change keeps }

def updateAttempt (db : Database) (attemptId : Nat) (change : Attempt → Attempt)
    (keeps : ∀ row, (change row).id = row.id) : Database :=
  { db with attempts := db.attempts.update attemptId change keeps }

def insertOrIgnore (db : Database) (payment : Payment) (moyasarId : Nat) :
    Database :=
  if boundTo db moyasarId = none then
    { db with payments := db.payments.insertIfNew payment }
  else
    db

end Database

def startTrigger (db : Database) (renterId : Nat) (clock : Clock)
    (attemptId : Nat) : Database × Except TriggerRefusal Int :=
  match db.renters.lookup renterId with
  | none => (db, .error .renterNotFound)
  | some renter =>
    if renter.autoTopupEnabled = false then
      (db, .error .notEnabled)
    else if renter.cardToken.getD "" = "" then
      (db, .error .noCardOnFile)
    else if renter.topupAmountHalala ≤ 0 then
      (db, .error .noAmount)
    else if renter.thresholdHalala ≤ renter.balanceHalala then
      (db, .error .aboveThreshold)
    else if renter.IsPaused clock.now then
      (db, .error .paused)
    else
      let rolled := db.updateRenter renterId (Renter.rollMonth clock) (Renter.rollMonth_id clock)
      let attempt : Attempt :=
        { id := attemptId, renterId := renterId
          amountHalala := renter.topupAmountHalala, status := .initiated
          moyasarPaymentId := none
          balanceBeforeHalala := renter.balanceHalala
          balanceAfterHalala := none, createdAt := clock.now
          completedAt := none }
      if (renter.rollMonth clock).CapReached then
        ({ rolled with
          attempts := rolled.attempts.insertIfNew { attempt with
            status := .capped
            balanceAfterHalala := some renter.balanceHalala
            completedAt := some clock.now } },
          .error .monthlyCapReached)
      else if renter.SoftLocked clock.now then
        (rolled, .error .softLockInWindow)
      else
        let stamped := rolled.updateRenter renterId (Renter.setLastAttemptAt clock.now)
            (Renter.setLastAttemptAt_id clock.now)
        ({ stamped with
          attempts := stamped.attempts.insertIfNew attempt },
          .ok renter.topupAmountHalala)

def autoPayment (call : TriggerCall) (chargeId : Nat) (status : PaymentStatus) : Payment :=
  { paymentId := .auto call.attemptId, moyasarId := some chargeId
    renterId := call.renterId, amountHalala := call.amountHalala
    status := status, sourceType := .autoTopup, createdAt := call.now
    confirmedAt := if status = .paid then some call.now else none
    refundedAt := none, refundAmountHalala := none }

def finalizePaid (db : Database) (call : TriggerCall) (chargeId : Nat) :
    Database :=
  let credited := (db.credit ⟨.auto call.attemptId, chargeId, call.renterId,
      call.amountHalala⟩).updateRenter call.renterId (Renter.setRecharged call.amountHalala)
        (Renter.setRecharged_id call.amountHalala)
  let balanceAfter := ((credited.renters.lookup call.renterId).map Renter.balanceHalala).getD 0
  (credited.updateAttempt call.attemptId
    (Attempt.setFinished .paid (some chargeId) (some balanceAfter) call.now)
    (Attempt.setFinished_id _ _ _ _)).insertOrIgnore (autoPayment call chargeId .paid) chargeId

def finalizeFailure (db : Database) (call : TriggerCall) : Database :=
  (db.updateRenter call.renterId (Renter.setFailed call.now)
    (Renter.setFailed_id call.now)).updateAttempt call.attemptId
      (Attempt.setFailed call.now) (Attempt.setFailed_id call.now)

/-- The row through which the webhook finds the charge after 3-D Secure. -/
def requireThreeDs (db : Database) (call : TriggerCall) (chargeId : Nat) :
    Database :=
  (db.insertOrIgnore (autoPayment call chargeId .initiated) chargeId).updateAttempt call.attemptId
    (Attempt.setFinished .threeDsRequired (some chargeId) none call.now)
    (Attempt.setFinished_id _ _ _ _)

def recordUnexpected (db : Database) (call : TriggerCall) (chargeId : Nat) : Database :=
  db.updateAttempt call.attemptId (Attempt.setFinished .failed (some chargeId) none call.now)
    (Attempt.setFinished_id _ _ _ _)

def resumeTrigger (db : Database) (call : TriggerCall) (chargeId : Nat)
    (status : ChargeStatus) : Database :=
  match status with
  | .paid => finalizePaid db call chargeId
  | .initiated => requireThreeDs db call chargeId
  | .failed => finalizeFailure db call
  | .refunded | .other => recordUnexpected db call chargeId

def IsOpenAttempt (attempt : Attempt) : Prop :=
  attempt.status = .threeDsRequired ∨ attempt.status = .initiated
deriving Decidable

def openAttempt (db : Database) (moyasarPaymentId : Option Nat) :
    Option Attempt :=
  moyasarPaymentId.bind (fun chargeId =>
    db.attempts.rows.find? (fun attempt =>
      attempt.moyasarPaymentId = some chargeId ∧ IsOpenAttempt attempt))

def finalizeFrom3dsCallback (db : Database)
    (moyasarPaymentId : Option Nat) (now : Int) : Database :=
  match openAttempt db moyasarPaymentId with
  | none => db
  | some attempt =>
    match db.renters.lookup attempt.renterId with
    | none => db
    | some renter =>
      (db.updateAttempt attempt.id (Attempt.setConfirmed renter.balanceHalala now)
        (Attempt.setConfirmed_id _ _)).updateRenter renter.id
          (Renter.setRecharged attempt.amountHalala)
          (Renter.setRecharged_id _)

/-- No payment row, credit or balance changes. -/
structure Quiet (before after : Database) : Prop where
  payments : after.payments = before.payments
  credits : after.credits = before.credits
  accounted : Accounted before after

namespace Quiet

theorem refl (db : Database) : Quiet db db :=
  ⟨rfl, rfl, Accounted.refl db⟩

theorem trans {first second third : Database}
    (earlier : Quiet first second) (later : Quiet second third) :
    Quiet first third :=
  ⟨later.payments.trans earlier.payments, later.credits.trans earlier.credits,
    earlier.accounted.trans later.accounted⟩

theorem of_updateRenter (db : Database) (renterId : Nat) {change : Renter → Renter}
    (keeps : ∀ row, (change row).id = row.id)
    (same : ∀ row, (change row).balanceHalala = row.balanceHalala) :
    Quiet db (db.updateRenter renterId change keeps) :=
  ⟨rfl, rfl, Accounted.of_renter keeps same rfl rfl rfl⟩

theorem of_attempts (db : Database) (attempts : Table Attempt Attempt.id) :
    Quiet db { db with attempts := attempts } :=
  ⟨rfl, rfl, Accounted.of_same rfl rfl rfl⟩

end Quiet

theorem startTrigger_quiet (db : Database) (renterId : Nat) (clock : Clock) (attemptId : Nat) :
    Quiet db (startTrigger db renterId clock attemptId).1 := by
  have rolled :=
    Quiet.of_updateRenter db renterId (Renter.rollMonth_id clock) (Renter.rollMonth_balance clock)
  unfold startTrigger
  split
  · exact Quiet.refl db
  · split
    · exact Quiet.refl db
    · split
      · exact Quiet.refl db
      · split
        · exact Quiet.refl db
        · split
          · exact Quiet.refl db
          · split
            · exact Quiet.refl db
            · split
              · exact rolled.trans (Quiet.of_attempts _ _)
              · split
                · exact rolled
                · have stamped := Quiet.of_updateRenter
                      (db.updateRenter renterId (Renter.rollMonth clock)
                        (Renter.rollMonth_id clock)) renterId
                      (Renter.setLastAttemptAt_id clock.now)
                      (fun _ => rfl)
                  exact (rolled.trans stamped).trans (Quiet.of_attempts _ _)

theorem finalizeFailure_quiet (db : Database) (call : TriggerCall) :
    Quiet db (finalizeFailure db call) :=
  (Quiet.of_updateRenter db call.renterId (Renter.setFailed_id call.now)
    (fun _ => rfl)).trans (Quiet.of_attempts _ _)

theorem finalizeFrom3dsCallback_quiet (db : Database) (moyasarPaymentId : Option Nat) (now : Int) :
    Quiet db (finalizeFrom3dsCallback db moyasarPaymentId now) := by
  unfold finalizeFrom3dsCallback
  split
  · exact Quiet.refl db
  · split
    · exact Quiet.refl db
    · exact (Quiet.of_attempts db _).trans
        (Quiet.of_updateRenter _ _ (Renter.setRecharged_id _) (fun _ => rfl))

end DcpPlatform.Topups
