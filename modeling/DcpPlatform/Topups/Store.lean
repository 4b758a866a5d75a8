import DcpPlatform.Foundation.Query
import DcpPlatform.Topups.Gateway
import Mathlib.Tactic.Ring

/-!
# Payment rows and wallets

The `payments` table, the wallet and auto-top-up columns of `renters`, and
`auto_topup_attempts`. The platform's own payment ids never coincide with ids
of the gateway. Every credit also records its charge.
-/

namespace DcpPlatform.Topups

open Foundation Table

inductive PaymentKey where
  | topup (number : Nat)
  | bankTransfer (number : Nat)
  | auto (attemptId : Nat)
  deriving DecidableEq

inductive PaymentStatus where
  | pending | initiated | paid | failed | refunded
  deriving DecidableEq

/-- Credited, and perhaps refunded since. -/
def PaymentStatus.settled : PaymentStatus → Bool
  | .paid | .refunded => true
  | _ => false

inductive SourceType where
  | creditcard | applepay | bankTransfer | autoTopup
  deriving DecidableEq

structure Payment where
  paymentId : PaymentKey
  moyasarId : Option Nat
  renterId : Nat
  amountHalala : Int
  status : PaymentStatus
  sourceType : SourceType
  createdAt : Int
  confirmedAt : Option Int
  refundedAt : Option Int
  refundAmountHalala : Option Int
  deriving DecidableEq

structure Renter where
  id : Nat
  balanceHalala : Int
  cardToken : Option String
  autoTopupEnabled : Bool
  thresholdHalala : Int
  topupAmountHalala : Int
  monthlyCapHalala : Int
  monthlyUsedHalala : Int
  monthlyResetAt : Option Int
  consecutiveFailures : Nat
  pausedUntil : Option Int
  lastAttemptAt : Option Int
  deriving DecidableEq

inductive AttemptStatus where
  | initiated | paid | failed | threeDsRequired | capped
  deriving DecidableEq

structure Attempt where
  id : Nat
  renterId : Nat
  amountHalala : Int
  status : AttemptStatus
  moyasarPaymentId : Option Nat
  balanceBeforeHalala : Int
  balanceAfterHalala : Option Int
  createdAt : Int
  completedAt : Option Int

structure Credit where
  paymentId : PaymentKey
  chargeId : Nat
  renterId : Nat
  amountHalala : Int
  deriving DecidableEq

structure Withdrawal where
  renterId : Nat
  amountHalala : Int

structure Database where
  payments : Table Payment Payment.paymentId
  renters : Table Renter Renter.id
  attempts : Table Attempt Attempt.id
  credits : List Credit
  withdrawals : List Withdrawal

namespace Payment

def setMoyasarId (moyasarId : Nat) (payment : Payment) : Payment :=
  { payment with moyasarId := some moyasarId }

@[simp]
theorem setMoyasarId_paymentId (moyasarId : Nat) (payment : Payment) :
    (payment.setMoyasarId moyasarId).paymentId = payment.paymentId :=
  rfl

def setPaid (now : Int) (payment : Payment) : Payment :=
  { payment with status := .paid, confirmedAt := some now }

@[simp]
theorem setPaid_paymentId (now : Int) (payment : Payment) :
    (payment.setPaid now).paymentId = payment.paymentId :=
  rfl

def setRefunded (refundAmountHalala now : Int) (payment : Payment) :
    Payment :=
  { payment with
    status := .refunded
    refundedAt := some now
    refundAmountHalala := some refundAmountHalala }

@[simp]
theorem setRefunded_paymentId (refundAmountHalala now : Int) (payment : Payment) :
    (payment.setRefunded refundAmountHalala now).paymentId =
      payment.paymentId :=
  rfl

def setStatus (status : PaymentStatus) (payment : Payment) : Payment :=
  { payment with status := status }

@[simp]
theorem setStatus_paymentId (status : PaymentStatus) (payment : Payment) :
    (payment.setStatus status).paymentId = payment.paymentId :=
  rfl

end Payment

def Renter.addBalance (amount : Int) (renter : Renter) : Renter :=
  { renter with balanceHalala := renter.balanceHalala + amount }

@[simp]
theorem Renter.addBalance_id (amount : Int) (renter : Renter) :
    (renter.addBalance amount).id = renter.id :=
  rfl

namespace Database

def credit (db : Database) (credit : Credit) : Database :=
  { db with
    renters := db.renters.update credit.renterId (Renter.addBalance credit.amountHalala)
      (Renter.addBalance_id credit.amountHalala)
    credits := db.credits ++ [credit] }

/-- Take from the balance of a renter what `taken` says of it. -/
def withdraw (db : Database) (renterId : Nat) (taken : Int → Int) :
    Database :=
  match db.renters.lookup renterId with
  | none => db
  | some renter =>
    { db with
      renters := db.renters.update renterId (Renter.addBalance (-taken renter.balanceHalala))
        (Renter.addBalance_id _)
      withdrawals := db.withdrawals ++ [⟨renterId, taken renter.balanceHalala⟩] }

def refundTaken (amount balance : Int) : Int :=
  balance - max 0 (balance - amount)

def usageTaken (amount balance : Int) : Int :=
  if amount ≤ balance then amount else 0

end Database

def IsCreditable (payment : Payment) : Prop :=
  payment.status = .pending ∨ payment.status = .initiated ∨ payment.status = .failed
deriving Decidable

variable {payment : Payment}

theorem isCreditable_iff :
    IsCreditable payment ↔ payment.status.settled = false := by
  unfold IsCreditable
  cases payment.status <;> decide

def IsRefundable (payment : Payment) : Prop :=
  payment.status = .paid ∧ payment.refundedAt = none
deriving Decidable

def IsAwaited (payment : Payment) : Prop :=
  payment.status = .pending ∨ payment.status = .initiated
deriving Decidable

def markPaymentPaidOnce (db : Database) (credit : Credit) (now : Int) :
    Database × Bool :=
  if db.payments.changes credit.paymentId IsCreditable then
    ({ db with
      payments := db.payments.updateWhere credit.paymentId IsCreditable
        (Payment.setPaid now) (Payment.setPaid_paymentId now) }.credit
      credit, true)
  else
    (db, false)

def markPaymentRefundedOnce (db : Database) (paymentId : PaymentKey)
    (renterId : Nat) (refundAmountHalala now : Int) : Database × Bool :=
  if db.payments.changes paymentId IsRefundable then
    ({ db with
      payments := db.payments.updateWhere paymentId IsRefundable
        (Payment.setRefunded refundAmountHalala now)
        (Payment.setRefunded_paymentId refundAmountHalala now) }.withdraw
      renterId (Database.refundTaken refundAmountHalala), true)
  else
    (db, false)

def boundTo (db : Database) (moyasarId : Nat) : Option Payment :=
  db.payments.rows.find? (fun payment =>
    payment.moyasarId = some moyasarId)

variable {db : Database} {moyasarId : Nat}

theorem boundTo_eq_some (found : boundTo db moyasarId = some payment) :
    db.payments.lookup payment.paymentId = some payment ∧ payment.moyasarId = some moyasarId := by
  have member := List.mem_of_find?_eq_some found
  exact ⟨lookup_of_mem member, by simpa using List.find?_some found⟩

theorem boundTo_eq_none (absent : boundTo db moyasarId = none) {key : PaymentKey}
    (found : db.payments.lookup key = some payment) :
    payment.moyasarId ≠ some moyasarId := by
  have unbound := List.find?_eq_none.mp absent payment (lookup_mem found)
  simpa using unbound

namespace Database

def credited (db : Database) (renterId : Nat) : Int :=
  (db.credits.map (fun credit =>
    if credit.renterId = renterId then credit.amountHalala else 0)).sum

def withdrawn (db : Database) (renterId : Nat) : Int :=
  (db.withdrawals.map (fun withdrawal =>
    if withdrawal.renterId = renterId then
      withdrawal.amountHalala
    else
      0)).sum

end Database

/-- Every balance moves by what was credited to it and taken from it. -/
def Accounted (before after : Database) : Prop :=
  ∀ renterId renter, before.renters.lookup renterId = some renter →
    ∃ later, after.renters.lookup renterId = some later ∧
      later.balanceHalala - after.credited renterId + after.withdrawn renterId =
        renter.balanceHalala - before.credited renterId + before.withdrawn renterId

namespace Accounted

theorem refl (db : Database) : Accounted db db :=
  fun _ renter found => ⟨renter, found, rfl⟩

theorem trans {first second third : Database}
    (earlier : Accounted first second) (later : Accounted second third) :
    Accounted first third := by
  intro renterId renter found
  obtain ⟨middle, middleFound, one⟩ := earlier renterId renter found
  obtain ⟨last, lastFound, two⟩ := later renterId middle middleFound
  exact ⟨last, lastFound, two.trans one⟩

theorem of_same {before after : Database} (renters : after.renters = before.renters)
    (credits : after.credits = before.credits)
    (withdrawals : after.withdrawals = before.withdrawals) :
    Accounted before after := by
  intro renterId renter found
  refine ⟨renter, ?_, ?_⟩
  · rw [renters]
    exact found
  · simp [Database.credited, Database.withdrawn, credits, withdrawals]

theorem of_renter {before after : Database} {renterId : Nat}
    {change : Renter → Renter} (keeps : ∀ row, (change row).id = row.id)
    (same : ∀ row, (change row).balanceHalala = row.balanceHalala)
    (renters : after.renters = before.renters.update renterId change keeps)
    (credits : after.credits = before.credits)
    (withdrawals : after.withdrawals = before.withdrawals) :
    Accounted before after := by
  intro other renter found
  by_cases here : other = renterId
  · subst here
    refine ⟨change renter, ?_, ?_⟩
    · rw [renters]
      exact lookup_update_of_some _ change keeps found
    · simp [Database.credited, Database.withdrawn, credits, withdrawals, same]
  · refine ⟨renter, ?_, ?_⟩
    · rw [renters, lookup_update_of_ne _ keeps here]
      exact found
    · simp [Database.credited, Database.withdrawn, credits, withdrawals]

theorem of_credit (db : Database) (credit : Credit) :
    Accounted db (db.credit credit) := by
  intro other renter found
  have credited : (db.credit credit).credited other = db.credited other +
      if credit.renterId = other then credit.amountHalala else 0 := by
    simp [Database.credited, Database.credit]
  have withdrawn : (db.credit credit).withdrawn other = db.withdrawn other := rfl
  rw [credited, withdrawn]
  by_cases here : other = credit.renterId
  · subst here
    refine ⟨renter.addBalance credit.amountHalala, ?_, ?_⟩
    · exact lookup_update_of_some _ _ (Renter.addBalance_id credit.amountHalala) found
    · simp only [Renter.addBalance, if_true]
      ring
  · refine ⟨renter, ?_, ?_⟩
    · exact (lookup_update_of_ne _ (Renter.addBalance_id credit.amountHalala) here).trans found
    · rw [if_neg (Ne.symm here), add_zero]

theorem of_withdraw (db : Database) (renterId : Nat) (taken : Int → Int) :
    Accounted db (db.withdraw renterId taken) := by
  unfold Database.withdraw
  split
  · exact refl db
  · rename_i withdrawing withdrawingFound
    intro other renter found
    generalize taken withdrawing.balanceHalala = amount
    have withdrawn : ((db.withdrawals ++ [(⟨renterId, amount⟩ : Withdrawal)]).map (fun withdrawal =>
        if withdrawal.renterId = other then
          withdrawal.amountHalala
        else
          0)).sum =
          db.withdrawn other + if renterId = other then amount else 0 := by
      simp [Database.withdrawn]
    simp only [Database.credited] at withdrawn ⊢
    by_cases here : other = renterId
    · subst here
      refine ⟨renter.addBalance (-amount), ?_, ?_⟩
      · exact lookup_update_of_some _ _ (Renter.addBalance_id (-amount)) found
      · rw [Database.withdrawn, withdrawn, if_pos rfl, Renter.addBalance]
        ring
    · refine ⟨renter, ?_, ?_⟩
      · exact (lookup_update_of_ne _ (Renter.addBalance_id (-amount)) here).trans found
      · rw [Database.withdrawn, withdrawn, if_neg (Ne.symm here), add_zero]

end Accounted

end DcpPlatform.Topups
