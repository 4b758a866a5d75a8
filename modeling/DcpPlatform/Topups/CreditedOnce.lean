import DcpPlatform.Topups.Bindings

/-!
# A hosted top-up is credited once

A top-up has one credit when its row is settled and none before, in every
run and whichever of the webhook, `GET /verify` and `reconcilePendingTopups`
settles the row.
-/

namespace DcpPlatform.Topups

open Foundation

def IsCreditOf (number : Nat) (credit : Credit) : Prop :=
  credit.paymentId = .topup number
deriving Decidable

/-- How often the wallet was credited for a top-up. -/
def creditsOf (db : Database) (number : Nat) : Nat :=
  (db.credits.filter (fun credit => IsCreditOf number credit)).length

def SettledTopup (db : Database) (number : Nat) : Prop :=
  ∃ payment, db.payments.lookup (.topup number) = some payment ∧ payment.status.settled = true

structure CreditedOnce (db : Database) (number : Nat) : Prop where
  settled : SettledTopup db number → creditsOf db number = 1
  unsettled : ¬ SettledTopup db number → creditsOf db number = 0

variable {before after : Database}

theorem creditsOf_append {credit : Credit}
    (credits : after.credits = before.credits ++ [credit]) (number : Nat) :
    creditsOf after number = creditsOf before number +
      if IsCreditOf number credit then 1 else 0 := by
  unfold creditsOf
  rw [credits, List.filter_append, List.length_append]
  by_cases own : IsCreditOf number credit <;> simp [own]

theorem creditsOf_eq (credits : after.credits = before.credits) (number : Nat) :
    creditsOf after number = creditsOf before number := by
  unfold creditsOf
  rw [credits]

theorem CreditedOnce.of_same {before after : Database} {number : Nat}
    (once : CreditedOnce before number)
    (row : after.payments.lookup (.topup number) = before.payments.lookup (.topup number))
    (credits : creditsOf after number = creditsOf before number) :
    CreditedOnce after number := by
  have same : SettledTopup after number ↔ SettledTopup before number := by
    unfold SettledTopup
    rw [row]
  constructor
  · intro settled
    rw [credits]
    exact once.settled (same.mp settled)
  · intro unsettled
    rw [credits]
    exact once.unsettled (fun settled => unsettled (same.mpr settled))

variable {db : Database} {number : Nat}

theorem settledTopup_iff {payment : Payment}
    (found : db.payments.lookup (.topup number) = some payment) :
    SettledTopup db number ↔ payment.status.settled = true := by
  constructor
  · rintro ⟨other, otherFound, settled⟩
    rw [found] at otherFound
    cases otherFound
    exact settled
  · intro settled
    exact ⟨payment, found, settled⟩

theorem PaymentStep.creditedOnce (step : PaymentStep before after)
    (once : CreditedOnce before number) : CreditedOnce after number := by
  cases step with
  | quiet quiet =>
    exact once.of_same (by rw [quiet.payments]) (creditsOf_eq quiet.credits number)
  | @inserted payment fresh inserted unsettled credits _ =>
    have count := creditsOf_eq credits number
    by_cases here : payment.paymentId = .topup number
    · rw [here] at fresh
      have stored : after.payments.lookup (.topup number) = some payment := by
        rw [inserted, Table.lookup_insert, if_pos here]
      have none_ : ¬ SettledTopup before number := by
        rintro ⟨other, found, _⟩
        rw [fresh] at found
        cases found
      constructor
      · intro settled
        have value := (settledTopup_iff stored).mp settled
        rw [unsettled] at value
        cases value
      · intro _
        rw [count]
        exact once.unsettled none_
    · refine once.of_same ?_ count
      rw [inserted]
      exact Table.lookup_insert_of_ne _ _ here
  | @moved payment changed rewrites settled credits _ =>
    have count := creditsOf_eq credits number
    by_cases here : PaymentKey.topup number = payment.paymentId
    · have found := rewrites.found
      have stored := rewrites.stored
      rw [← here] at found stored
      have same : SettledTopup after number ↔ SettledTopup before number := by
        rw [settledTopup_iff found, settledTopup_iff stored, settled]
      constructor
      · intro now
        rw [count]
        exact once.settled (same.mp now)
      · intro now
        rw [count]
        exact once.unsettled (fun earlier => now (same.mpr earlier))
    · exact once.of_same (rewrites.others _ here) count
  | @credited payment changed credit rewrites unsettled settled key credits _ =>
    have count := creditsOf_append credits number
    by_cases here : PaymentKey.topup number = payment.paymentId
    · have found := rewrites.found
      have stored := rewrites.stored
      rw [← here] at found stored
      have own : IsCreditOf number credit := key.trans here.symm
      have none_ : ¬ SettledTopup before number := by
        rw [settledTopup_iff found, unsettled]
        exact Bool.false_ne_true
      rw [if_pos own, once.unsettled none_] at count
      constructor
      · intro _
        exact count
      · intro now
        exact absurd ((settledTopup_iff stored).mpr settled) now
    · have foreign : ¬ IsCreditOf number credit := by
        intro own
        exact here (own.symm.trans key)
      rw [if_neg foreign, Nat.add_zero] at count
      exact once.of_same (rewrites.others _ here) count
  | @recharged credit attemptId key others credits _ =>
    have count := creditsOf_append credits number
    have foreign : ¬ IsCreditOf number credit := by
      intro own
      have both := own.symm.trans key
      cases both
    have different : PaymentKey.topup number ≠ credit.paymentId := by
      rw [key]
      exact nofun
    rw [if_neg foreign, Nat.add_zero] at count
    exact once.of_same (others _ different) count

theorem PaymentStep.settledTopup (step : PaymentStep before after)
    (settled : SettledTopup before number) :
    SettledTopup after number := by
  obtain ⟨row, found, rowSettled⟩ := settled
  cases step with
  | quiet quiet =>
    refine ⟨row, ?_, rowSettled⟩
    rw [quiet.payments]
    exact found
  | inserted fresh inserted _ _ _ =>
    refine ⟨row, ?_, rowSettled⟩
    rw [inserted]
    exact Table.lookup_insert_of_some _ fresh found
  | @moved payment changed rewrites same _ _ =>
    by_cases here : PaymentKey.topup number = payment.paymentId
    · have stored := rewrites.stored
      have current := rewrites.found
      rw [← here] at stored current
      rw [found] at current
      cases current
      exact ⟨changed, stored, same.trans rowSettled⟩
    · refine ⟨row, ?_, rowSettled⟩
      rw [rewrites.others _ here]
      exact found
  | @credited payment changed credit rewrites unsettled _ _ _ _ =>
    have different : PaymentKey.topup number ≠ payment.paymentId := by
      intro here
      have current := rewrites.found
      rw [← here, found] at current
      cases current
      rw [rowSettled] at unsettled
      cases unsettled
    refine ⟨row, ?_, rowSettled⟩
    rw [rewrites.others _ different]
    exact found
  | @recharged credit attemptId key others _ _ =>
    have different : PaymentKey.topup number ≠ credit.paymentId := by
      rw [key]
      exact nofun
    refine ⟨row, ?_, rowSettled⟩
    rw [others _ different]
    exact found

theorem creditedOnce_of_run {start finish : State}
    {actions : List TopupAction} (initial : start.Initial)
    (run : Run (Fires nextTopups) start actions finish) (number : Nat) :
    CreditedOnce finish.db number := by
  have initially : CreditedOnce start.db number := by
    constructor
    · rintro ⟨payment, found, _⟩
      rw [initial.noPayments] at found
      cases found
    · intro _
      rw [creditsOf, initial.noCredits]
      rfl
  exact run.invariant (CreditedOnce ·.db number)
    (fun once fires => (nextTopups_step fires).creditedOnce once) initially

theorem CreditedOnce.le_one (once : CreditedOnce db number) : creditsOf db number ≤ 1 := by
  by_cases settled : SettledTopup db number
  · exact (once.settled settled).le
  · rw [once.unsettled settled]
    exact Nat.zero_le 1

end DcpPlatform.Topups
