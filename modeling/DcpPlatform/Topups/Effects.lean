import DcpPlatform.Topups.System

/-!
# What a step does to the payments

`PaymentStep` lists what any step does to the payment rows and the credits:
nothing, a new row, a row rewritten on its side of being settled, or a row
settled together with the one credit for it. `WebhookEffect` also says which
row an event finds.
-/

namespace DcpPlatform.Topups

open Foundation Table

structure Rewrites (before after : Database) (payment changed : Payment) :
    Prop where
  found : before.payments.lookup payment.paymentId = some payment
  stored : after.payments.lookup payment.paymentId = some changed
  others : ∀ key, key ≠ payment.paymentId → after.payments.lookup key = before.payments.lookup key
  paymentId : changed.paymentId = payment.paymentId
  renter : changed.renterId = payment.renterId
  amount : changed.amountHalala = payment.amountHalala

namespace Rewrites

theorem of_update {before after : Database} {payment : Payment} {change : Payment → Payment}
    (keeps : ∀ row, (change row).paymentId = row.paymentId)
    (found : before.payments.lookup payment.paymentId = some payment)
    (renter : (change payment).renterId = payment.renterId)
    (amount : (change payment).amountHalala = payment.amountHalala)
    (updated : after.payments = before.payments.update payment.paymentId change keeps) :
    Rewrites before after payment (change payment) where
  found := found
  stored := by
    rw [updated]
    exact lookup_update_of_some _ change keeps found
  others := by
    intro key different
    rw [updated]
    exact lookup_update_of_ne _ keeps different
  paymentId := keeps payment
  renter := renter
  amount := amount

theorem refl {db : Database} {payment : Payment}
    (found : db.payments.lookup payment.paymentId = some payment) :
    Rewrites db db payment payment :=
  ⟨found, found, fun _ _ => rfl, rfl, rfl, rfl⟩

theorem trans {first second third : Database} {payment middle changed : Payment}
    (earlier : Rewrites first second payment middle)
    (later : Rewrites second third middle changed) :
    Rewrites first third payment changed where
  found := earlier.found
  stored := by
    rw [← earlier.paymentId]
    exact later.stored
  others := by
    intro key different
    have apart : key ≠ middle.paymentId := by
      rw [earlier.paymentId]
      exact different
    exact (later.others key apart).trans (earlier.others key different)
  paymentId := later.paymentId.trans earlier.paymentId
  renter := later.renter.trans earlier.renter
  amount := later.amount.trans earlier.amount

theorem congr {before middle after : Database} {payment changed : Payment}
    (rewrites : Rewrites before middle payment changed)
    (same : after.payments = middle.payments) :
    Rewrites before after payment changed where
  found := rewrites.found
  stored := by
    rw [same]
    exact rewrites.stored
  others := by
    rw [same]
    exact rewrites.others
  paymentId := rewrites.paymentId
  renter := rewrites.renter
  amount := rewrites.amount

end Rewrites

inductive PaymentStep (before after : Database) : Prop
  | quiet : Quiet before after → PaymentStep before after
  | inserted {payment : Payment} (fresh : before.payments.lookup payment.paymentId = none) :
      after.payments = before.payments.insert payment fresh →
      payment.status.settled = false →
      after.credits = before.credits →
      Accounted before after → PaymentStep before after
  | moved {payment changed : Payment} :
      Rewrites before after payment changed →
      changed.status.settled = payment.status.settled →
      after.credits = before.credits →
      Accounted before after → PaymentStep before after
  | credited {payment changed : Payment} {credit : Credit} :
      Rewrites before after payment changed →
      payment.status.settled = false →
      changed.status.settled = true →
      credit.paymentId = payment.paymentId →
      after.credits = before.credits ++ [credit] →
      Accounted before after → PaymentStep before after
  | recharged {credit : Credit} {attemptId : Nat} :
      credit.paymentId = .auto attemptId →
      (∀ key, key ≠ credit.paymentId → after.payments.lookup key = before.payments.lookup key) →
      after.credits = before.credits ++ [credit] →
      Accounted before after → PaymentStep before after

variable {before after : Database}

theorem PaymentStep.accounted (step : PaymentStep before after) : Accounted before after := by
  cases step with
  | quiet quiet => exact quiet.accounted
  | inserted _ _ _ _ accounted | moved _ _ _ accounted | credited _ _ _ _ _ accounted
  | recharged _ _ _ accounted => exact accounted

theorem credit_accounted_of_payments (db : Database)
    (payments : Table Payment Payment.paymentId) (credit : Credit) :
    Accounted db ({ db with payments := payments }.credit credit) := by
  have moved : Accounted db { db with payments := payments } := Accounted.of_same rfl rfl rfl
  exact moved.trans (Accounted.of_credit _ credit)

theorem markPaymentPaidOnce_of_unsettled {db : Database}
    {credit : Credit} {payment : Payment} (now : Int)
    (found : db.payments.lookup credit.paymentId = some payment)
    (unsettled : payment.status.settled = false) :
    markPaymentPaidOnce db credit now = ({ db with
      payments := db.payments.update credit.paymentId
        (Payment.setPaid now) (Payment.setPaid_paymentId now) }.credit
      credit, true) := by
  have creditable := isCreditable_iff.mpr unsettled
  have changes : db.payments.changes credit.paymentId IsCreditable := ⟨payment, found, creditable⟩
  rw [markPaymentPaidOnce, if_pos changes, updateWhere_of_met _ found creditable]

variable {db : Database} {credit : Credit}

theorem markPaymentPaidOnce_of_settled (now : Int)
    (settled : ∀ payment, db.payments.lookup credit.paymentId = some payment →
      payment.status.settled = true) :
    markPaymentPaidOnce db credit now = (db, false) := by
  rw [markPaymentPaidOnce, if_neg]
  rintro ⟨payment, found, creditable⟩
  have unsettled := isCreditable_iff.mp creditable
  rw [settled payment found] at unsettled
  cases unsettled

structure PaidOnce (before after : Database) (payment : Payment)
    (credit : Credit) (now : Int) : Prop where
  rewrites : Rewrites before after payment (payment.setPaid now)
  unsettled : payment.status.settled = false
  paymentId : credit.paymentId = payment.paymentId
  credits : after.credits = before.credits ++ [credit]
  accounted : Accounted before after

theorem markPaymentPaidOnce_cases (db : Database) (credit : Credit) (now : Int) :
    (markPaymentPaidOnce db credit now = (db, false) ∧
      ∀ payment, db.payments.lookup credit.paymentId = some payment →
        payment.status.settled = true) ∨
      ∃ payment after, markPaymentPaidOnce db credit now = (after, true) ∧
        PaidOnce db after payment credit now := by
  by_cases settled :
    ∀ payment, db.payments.lookup credit.paymentId = some payment → payment.status.settled = true
  · exact Or.inl ⟨markPaymentPaidOnce_of_settled now settled, settled⟩
  · push Not at settled
    obtain ⟨payment, found, notSettled⟩ := settled
    have unsettled : payment.status.settled = false := by
      simpa using notSettled
    have paymentId := lookup_key found
    have stored : db.payments.lookup payment.paymentId = some payment := by
      rw [paymentId]
      exact found
    refine Or.inr ⟨payment, _, markPaymentPaidOnce_of_unsettled now found unsettled, ?_, unsettled,
      paymentId.symm, rfl, credit_accounted_of_payments db _ _⟩
    apply Rewrites.of_update (Payment.setPaid_paymentId now) stored rfl rfl
    simp [Database.credit, paymentId]

variable {payment : Payment}

theorem PaidOnce.step {now : Int} (paid : PaidOnce before after payment credit now) :
    PaymentStep before after :=
  PaymentStep.credited paid.rewrites paid.unsettled rfl paid.paymentId paid.credits paid.accounted

theorem markPaymentPaidOnce_step (db : Database) (credit : Credit)
    (now : Int) : PaymentStep db (markPaymentPaidOnce db credit now).1 := by
  rcases markPaymentPaidOnce_cases db credit now with ⟨same, _⟩ | ⟨payment, after, same, paid⟩
  · rw [same]
    exact PaymentStep.quiet (Quiet.refl db)
  · rw [same]
    exact paid.step

theorem markPaymentPaidOnce_settles (now : Int)
    (found : db.payments.lookup credit.paymentId = some payment) :
    ∃ changed, (markPaymentPaidOnce db credit now).1.payments.lookup
      credit.paymentId = some changed ∧ changed.status.settled = true := by
  rcases markPaymentPaidOnce_cases db credit now with ⟨same, settled⟩ | ⟨other, after, same, paid⟩
  · rw [same]
    exact ⟨payment, found, settled payment found⟩
  · rw [same, paid.paymentId]
    exact ⟨other.setPaid now, paid.rewrites.stored, rfl⟩

/-! ## The webhook -/

inductive Matches (db : Database) (event : WebhookEvent) (payment : Payment) : Prop
  | byId : payment.moyasarId = some event.id → Matches db event payment
  | byInvoice {invoiceId : Nat} :
      boundTo db event.id = none → event.invoiceId = some invoiceId →
      payment.moyasarId = some invoiceId → Matches db event payment
  | byAmount : boundTo db event.id = none →
    (∀ invoiceId, event.invoiceId = some invoiceId → boundTo db invoiceId = none) →
    event.status = .paid → event.renterId = some payment.renterId →
    payment.amountHalala = event.amountHalala →
    payment.status = .pending → Matches db event payment

theorem findPayment_cases (db : Database) (event : WebhookEvent) :
    (findPayment db event = none ∧ boundTo db event.id = none ∧
      ∀ invoiceId, event.invoiceId = some invoiceId → boundTo db invoiceId = none) ∨
      ∃ payment, findPayment db event = some payment ∧
        db.payments.lookup payment.paymentId = some payment ∧
        Matches db event payment := by
  unfold findPayment
  cases byId : boundTo db event.id with
  | some payment =>
    obtain ⟨found, bound⟩ := boundTo_eq_some byId
    exact Or.inr ⟨payment, rfl, found, Matches.byId bound⟩
  | none =>
    cases byInvoice : event.invoiceId.bind (boundTo db) with
    | some payment =>
      obtain ⟨invoiceId, same, boundInvoice⟩ := Option.bind_eq_some_iff.mp byInvoice
      obtain ⟨found, bound⟩ := boundTo_eq_some boundInvoice
      exact Or.inr ⟨payment, rfl, found, Matches.byInvoice byId same bound⟩
    | none =>
      have unbound :
          ∀ invoiceId, event.invoiceId = some invoiceId → boundTo db invoiceId = none := by
        intro invoiceId same
        rw [same, Option.bind_some] at byInvoice
        exact byInvoice
      cases byAmount : matchByAmount db event with
      | none => exact Or.inl ⟨rfl, rfl, unbound⟩
      | some payment =>
        obtain ⟨renterId, renter, guarded⟩ := Option.bind_eq_some_iff.mp byAmount
        split at guarded
        · rename_i paid
          obtain ⟨pending, found⟩ := mem_select (firstBy_mem guarded)
          refine Or.inr ⟨payment, rfl, found, ?_⟩
          refine Matches.byAmount byId unbound paid.1 ?_ pending.2.2 pending.2.1
          rw [renter, pending.1]
        · cases guarded

theorem bindPayment_rewrites (moyasarId : Nat)
    (found : db.payments.lookup payment.paymentId = some payment) :
    Rewrites db (bindPayment db payment moyasarId) payment (payment.setMoyasarId moyasarId) := by
  unfold bindPayment
  split
  · rename_i bound
    have same : payment.setMoyasarId moyasarId = payment := by
      rw [Payment.setMoyasarId, ← bound]
    rw [same]
    exact Rewrites.refl found
  · exact Rewrites.of_update (Payment.setMoyasarId_paymentId moyasarId) found rfl rfl rfl

theorem bindPayment_accounted (db : Database) (payment : Payment) (moyasarId : Nat) :
    Accounted db (bindPayment db payment moyasarId) := by
  unfold bindPayment
  split
  · exact Accounted.refl db
  · exact Accounted.of_same rfl rfl rfl

@[simp]
theorem bindPayment_credits (db : Database) (payment : Payment) (moyasarId : Nat) :
    (bindPayment db payment moyasarId).credits = db.credits := by
  unfold bindPayment
  split <;> rfl

/-- The row an event found, rewritten without a credit. -/
structure Moved (before after : Database) (payment changed : Payment) :
    Prop where
  rewrites : Rewrites before after payment changed
  moyasarId : changed.moyasarId = payment.moyasarId
  settled : changed.status.settled = payment.status.settled
  credits : after.credits = before.credits
  accounted : Accounted before after

theorem Moved.refl (found : db.payments.lookup payment.paymentId = some payment) :
    Moved db db payment payment :=
  ⟨Rewrites.refl found, rfl, rfl, rfl, Accounted.refl db⟩

theorem Moved.quiet {before middle after : Database} {payment changed : Payment}
    (moved : Moved before middle payment changed)
    (quiet : Quiet middle after) : Moved before after payment changed :=
  ⟨moved.rewrites.congr quiet.payments, moved.moyasarId, moved.settled,
    quiet.credits.trans moved.credits,
    moved.accounted.trans quiet.accounted⟩

theorem setPaymentStatus_moved {db : Database} {payment : Payment} {status : PaymentStatus}
    (found : db.payments.lookup payment.paymentId = some payment)
    (settled : status.settled = payment.status.settled) :
    Moved db (setPaymentStatus db payment.paymentId status) payment (payment.setStatus status) :=
  ⟨Rewrites.of_update (Payment.setStatus_paymentId status) found rfl rfl
    rfl, rfl, settled, rfl, Accounted.of_same rfl rfl rfl⟩

theorem failOpenAttempt_quiet (db : Database) (moyasarPaymentId : Option Nat) (now : Int) :
    Quiet db (failOpenAttempt db moyasarPaymentId now) := by
  unfold failOpenAttempt
  split
  · exact Quiet.refl db
  · exact Quiet.of_attempts db _

@[simp]
theorem withdraw_payments (db : Database) (renterId : Nat) (taken : Int → Int) :
    (db.withdraw renterId taken).payments = db.payments := by
  unfold Database.withdraw
  split <;> rfl

@[simp]
theorem withdraw_credits (db : Database) (renterId : Nat) (taken : Int → Int) :
    (db.withdraw renterId taken).credits = db.credits := by
  unfold Database.withdraw
  split <;> rfl

theorem markPaymentRefundedOnce_moved (renterId : Nat) (refundAmountHalala now : Int)
    (found : db.payments.lookup payment.paymentId = some payment) :
    ∃ changed, Moved db (markPaymentRefundedOnce db payment.paymentId renterId
      refundAmountHalala now).1 payment changed := by
  unfold markPaymentRefundedOnce
  split
  · rename_i changes
    obtain ⟨other, otherFound, refundable⟩ := changes
    rw [found] at otherFound
    cases otherFound
    refine ⟨payment.setRefunded refundAmountHalala now, ?_, rfl, ?_, ?_, ?_⟩
    · apply Rewrites.of_update (Payment.setRefunded_paymentId refundAmountHalala now) found rfl rfl
      rw [withdraw_payments]
      exact updateWhere_of_met _ found refundable
    · rw [refundable.1]
      rfl
    · rw [withdraw_credits]
    · refine Accounted.trans ?_ (Accounted.of_withdraw _ _ _)
      exact Accounted.of_same rfl rfl rfl
  · exact ⟨payment, Moved.refl found⟩

inductive WebhookEffect (db : Database) (event : WebhookEvent) (after : Database) : Prop
  | ignored : after = db → boundTo db event.id = none →
    (∀ invoiceId, event.invoiceId = some invoiceId →
      boundTo db invoiceId = none) → WebhookEffect db event after
  | moved {payment changed : Payment} :
      Matches db event payment → Rewrites db after payment changed →
      changed.moyasarId = some event.id →
      changed.status.settled = payment.status.settled →
      (event.status = .paid → payment.status.settled = true) →
      after.credits = db.credits →
      Accounted db after → WebhookEffect db event after
  | credited {payment changed : Payment} :
      Matches db event payment → Rewrites db after payment changed →
      changed.moyasarId = some event.id → event.status = .paid →
      payment.status.settled = false → changed.status.settled = true →
      after.credits =
        db.credits ++ [⟨payment.paymentId, event.id, payment.renterId, payment.amountHalala⟩] →
      Accounted db after → WebhookEffect db event after

theorem applyEvent_cases {db : Database} {payment bound : Payment}
    {event : WebhookEvent} (now : Int)
    (found : db.payments.lookup payment.paymentId = some bound)
    (key : bound.paymentId = payment.paymentId)
    (status : bound.status = payment.status) :
    (∃ changed, Moved db (applyEvent db payment event now).1 bound changed ∧
      (event.status = .paid → bound.status.settled = true)) ∨
      ∃ after, event.status = .paid ∧ PaidOnce db after bound
        ⟨payment.paymentId, event.id, payment.renterId, payment.amountHalala⟩ now ∧
          Quiet after (applyEvent db payment event now).1 := by
  have stored : db.payments.lookup bound.paymentId = some bound := by
    rw [key]
    exact found
  have kept := Moved.refl stored
  unfold applyEvent
  split
  · rename_i same
    refine Or.inl ⟨bound, kept, ?_⟩
    intro paid
    rw [status, same, paid]
    rfl
  · split
    · rename_i stale
      refine Or.inl ⟨bound, kept, ?_⟩
      intro paid
      rw [paid] at stale
      rcases stale.2 with same | same <;> cases same
    · rename_i fresh
      split
      · rename_i refunded
        refine Or.inl ⟨bound, kept, ?_⟩
        intro _
        rw [status, refunded]
        rfl
      · rename_i unrefunded
        -- a row that is neither paid nor refunded is not settled
        have unsettled (notPaid : event.status = .initiated ∨ event.status = .failed) :
            bound.status.settled = false := by
          rw [status]
          cases value : payment.status with
          | paid => exact absurd ⟨value, notPaid⟩ fresh
          | refunded => exact absurd value unrefunded
          | pending | initiated | failed => rfl
        cases announced : event.status with
        | paid =>
          rcases markPaymentPaidOnce_cases db
              ⟨payment.paymentId, event.id, payment.renterId, payment.amountHalala⟩ now with
            ⟨same, settled⟩ | ⟨other, after, same, paid⟩
          · rw [same]
            exact Or.inl ⟨bound, kept, fun _ => settled bound found⟩
          · have otherFound := paid.rewrites.found
            rw [← paid.paymentId, found] at otherFound
            cases otherFound
            rw [same]
            exact Or.inr ⟨after, rfl, paid, finalizeFrom3dsCallback_quiet _ _ _⟩
        | failed =>
          have settled := unsettled (Or.inr announced)
          have moved := @setPaymentStatus_moved db bound .failed stored settled.symm
          rw [key] at moved
          exact Or.inl ⟨_, moved.quiet (failOpenAttempt_quiet _ _ _), nofun⟩
        | refunded =>
          obtain ⟨changed, moved⟩ :=
            markPaymentRefundedOnce_moved payment.renterId (refundAmount event payment) now stored
          rw [key] at moved
          refine Or.inl ⟨changed, ?_, nofun⟩
          cases result : markPaymentRefundedOnce db payment.paymentId
              payment.renterId (refundAmount event payment) now with
          | mk after flipped =>
            rw [result] at moved
            cases flipped with
            | true | false => exact moved
        | initiated =>
          have settled := unsettled (Or.inl announced)
          have moved := @setPaymentStatus_moved db bound .initiated stored settled.symm
          rw [key] at moved
          exact Or.inl ⟨_, moved, nofun⟩

theorem webhook_effect (db : Database) (event : WebhookEvent)
    (now : Int) : WebhookEffect db event (webhook db event now).1 := by
  unfold webhook
  rcases findPayment_cases db event with
    ⟨none_, unbound, noInvoice⟩ | ⟨payment, some_, found, matched⟩
  · rw [none_]
    exact WebhookEffect.ignored rfl unbound noInvoice
  · rw [some_]
    have binds := bindPayment_rewrites event.id found
    have accounted := bindPayment_accounted db payment event.id
    rcases @applyEvent_cases _ _ _ event now binds.stored binds.paymentId rfl with
      ⟨changed, moved, paid⟩ | ⟨after, eventPaid, paid, quiet⟩
    · exact WebhookEffect.moved matched (binds.trans moved.rewrites)
        moved.moyasarId moved.settled paid
        (moved.credits.trans (bindPayment_credits _ _ _))
        (accounted.trans moved.accounted)
    · refine WebhookEffect.credited matched
        ((binds.trans paid.rewrites).congr quiet.payments) rfl eventPaid
        paid.unsettled rfl ?_
        ((accounted.trans paid.accounted).trans quiet.accounted)
      rw [quiet.credits, paid.credits, bindPayment_credits]

theorem WebhookEffect.step {db after : Database} {event : WebhookEvent}
    (effect : WebhookEffect db event after) : PaymentStep db after := by
  cases effect with
  | ignored same _ _ =>
    rw [same]
    exact PaymentStep.quiet (Quiet.refl db)
  | moved _ rewrites _ settled _ credits accounted =>
    exact PaymentStep.moved rewrites settled credits accounted
  | credited _ rewrites _ _ unsettled settled credits accounted =>
    exact PaymentStep.credited rewrites unsettled settled rfl credits accounted

theorem resumeVerify_step (db : Database) (gateway : Gateway) (payment : Payment) (now : Int) :
    PaymentStep db (resumeVerify db gateway payment now) := by
  unfold resumeVerify
  split
  · exact PaymentStep.quiet (Quiet.refl db)
  · split
    · exact markPaymentPaidOnce_step db _ now
    · exact PaymentStep.quiet (Quiet.refl db)

theorem failAwaited_step (db : Database) (paymentId : PaymentKey) :
    PaymentStep db (failAwaited db paymentId) := by
  by_cases changes : db.payments.changes paymentId IsAwaited
  · obtain ⟨payment, found, awaited⟩ := changes
    have key := lookup_key found
    subst key
    have settled : payment.status.settled = false := by
      rcases awaited with status | status
      all_goals
        rw [status]
        rfl
    refine PaymentStep.moved (Rewrites.of_update (Payment.setStatus_paymentId .failed) found rfl
      rfl ?_) settled.symm rfl (Accounted.of_same rfl rfl rfl)
    exact updateWhere_of_met _ found awaited
  · have same : failAwaited db paymentId = db := by
      rw [failAwaited, updateWhere_of_unmet _ changes]
    rw [same]
    exact PaymentStep.quiet (Quiet.refl db)

theorem resumeSweep_step (db : Database) (gateway : Gateway) (row : SweptRow) (now : Int) :
    PaymentStep db (resumeSweep db gateway row now) := by
  unfold resumeSweep
  split
  · exact PaymentStep.quiet (Quiet.refl db)
  · split
    · exact markPaymentPaidOnce_step db _ now
    · exact failAwaited_step db _
    · exact PaymentStep.quiet (Quiet.refl db)
    · exact PaymentStep.quiet (Quiet.refl db)

theorem insertOrIgnore_cases (db : Database) (payment : Payment) (moyasarId : Nat) :
    db.insertOrIgnore payment moyasarId = db ∨ ∃ fresh,
      boundTo db moyasarId = none ∧ db.insertOrIgnore payment moyasarId =
        { db with payments := db.payments.insert payment fresh } := by
  unfold Database.insertOrIgnore
  split
  · rename_i unbound
    by_cases fresh : db.payments.lookup payment.paymentId = none
    · exact Or.inr ⟨fresh, unbound, by rw [insertIfNew_of_fresh fresh]⟩
    · obtain ⟨other, taken⟩ := Option.ne_none_iff_exists'.mp fresh
      exact Or.inl (by rw [insertIfNew_of_taken taken])
  · exact Or.inl rfl

def rechargeCredit (call : TriggerCall) (chargeId : Nat) : Credit :=
  { paymentId := .auto call.attemptId, chargeId := chargeId
    renterId := call.renterId, amountHalala := call.amountHalala }

theorem finalizePaid_eq (db : Database) (call : TriggerCall) (chargeId : Nat) :
    ∃ credited, finalizePaid db call chargeId =
      credited.insertOrIgnore (autoPayment call chargeId .paid) chargeId ∧
        credited.payments = db.payments ∧
        credited.credits = db.credits ++ [rechargeCredit call chargeId] ∧
        Accounted db credited := by
  refine ⟨_, rfl, rfl, rfl, ?_⟩
  have recharged := Quiet.of_updateRenter (db.credit (rechargeCredit call chargeId))
      call.renterId (Renter.setRecharged_id call.amountHalala)
      (fun _ => rfl)
  have credited := Accounted.of_credit db (rechargeCredit call chargeId)
  refine (credited.trans recharged.accounted).trans ?_
  exact Accounted.of_same rfl rfl rfl

theorem finalizePaid_step (db : Database) (call : TriggerCall) (chargeId : Nat) :
    PaymentStep db (finalizePaid db call chargeId) := by
  obtain ⟨credited, same, payments, credits, accounted⟩ := finalizePaid_eq db call chargeId
  rw [same]
  rcases insertOrIgnore_cases credited (autoPayment call chargeId .paid)
      chargeId with ignored | ⟨fresh, _, inserted⟩
  · rw [ignored]
    refine PaymentStep.recharged rfl ?_ credits accounted
    intro key _
    rw [payments]
  · rw [inserted]
    refine PaymentStep.recharged rfl ?_ credits (accounted.trans (Accounted.of_same rfl rfl rfl))
    intro key different
    rw [← payments]
    exact lookup_insert_of_ne _ fresh (Ne.symm different)

theorem requireThreeDs_step (db : Database) (call : TriggerCall) (chargeId : Nat) :
    PaymentStep db (requireThreeDs db call chargeId) := by
  unfold requireThreeDs
  rcases insertOrIgnore_cases db (autoPayment call chargeId .initiated)
      chargeId with ignored | ⟨fresh, _, inserted⟩
  · rw [ignored]
    exact PaymentStep.quiet (Quiet.of_attempts db _)
  · rw [inserted]
    exact PaymentStep.inserted fresh rfl rfl rfl (Accounted.of_same rfl rfl rfl)

theorem resumeTrigger_step (db : Database) (call : TriggerCall)
    (chargeId : Nat) (status : ChargeStatus) :
    PaymentStep db (resumeTrigger db call chargeId status) := by
  cases status with
  | paid => exact finalizePaid_step db call chargeId
  | initiated => exact requireThreeDs_step db call chargeId
  | failed => exact PaymentStep.quiet (finalizeFailure_quiet db call)
  | refunded | other => exact PaymentStep.quiet (Quiet.of_attempts db _)

theorem State.startTrigger_quiet (state : State) (attemptId renterId : Nat) (clock : Clock) :
    Quiet state.db (state.startTrigger attemptId renterId clock).db := by
  have quiet := Topups.startTrigger_quiet state.db renterId clock attemptId
  unfold State.startTrigger
  split
  · rename_i started
    rw [started] at quiet
    exact quiet
  · rename_i started
    rw [started] at quiet
    exact quiet

theorem nextTopups_step {before after : State} {action : TopupAction}
    (fires : Fires nextTopups before action after) :
    PaymentStep before.db after.db := by
  cases action with
  | topup number renterId amount sourceType invoiceId now =>
    obtain ⟨allowed, rfl⟩ := of_ite_eq_some fires
    exact PaymentStep.inserted allowed.2.2 (insertIfNew_of_fresh allowed.2.2) rfl rfl
      (Accounted.of_same rfl rfl rfl)
  | bankTransfer number renterId amount now =>
    obtain ⟨fresh, rfl⟩ := of_ite_eq_some fires
    exact PaymentStep.inserted fresh (insertIfNew_of_fresh fresh) rfl rfl
      (Accounted.of_same rfl rfl rfl)
  | attempt invoiceId chargeId carriesRenter | chargeCard attemptId chargeId =>
    simp only [Fires, nextTopups] at fires
    split at fires
    · cases fires
    · obtain ⟨_, rfl⟩ := of_ite_eq_some fires
      exact PaymentStep.quiet (Quiet.refl _)
  | settle chargeId paid | refund chargeId | startSweep callId now =>
    obtain ⟨_, rfl⟩ := of_ite_eq_some fires
    exact PaymentStep.quiet (Quiet.refl _)
  | expire invoiceId =>
    cases fires
    exact PaymentStep.quiet (Quiet.refl _)
  | deliver chargeId status amountRefunded now =>
    simp only [Fires, nextTopups] at fires
    split at fires
    · cases fires
    · obtain ⟨_, rfl⟩ := of_ite_eq_some fires
      exact (webhook_effect _ _ now).step
  | startVerify callId renterId key =>
    simp only [Fires, nextTopups] at fires
    split at fires
    all_goals
      cases fires
      exact PaymentStep.quiet (Quiet.refl _)
  | resumeVerify callId reachable now =>
    simp only [Fires, nextTopups] at fires
    split at fires
    · cases fires
    · obtain ⟨_, rfl⟩ := of_ite_none_eq_some fires
      split
      · exact resumeVerify_step _ _ _ now
      · exact PaymentStep.quiet (Quiet.refl _)
  | resumeSweep callId reachable now =>
    simp only [Fires, nextTopups] at fires
    split at fires
    · cases fires
    · split at fires
      · cases fires
      · cases fires
        dsimp only [State.answerSweep]
        split
        · exact resumeSweep_step _ _ _ now
        · exact PaymentStep.quiet (Quiet.refl _)
  | startTrigger attemptId renterId clock =>
    obtain ⟨_, rfl⟩ := of_ite_eq_some fires
    exact PaymentStep.quiet (State.startTrigger_quiet _ _ _ _)
  | resumeTrigger attemptId status =>
    simp only [Fires, nextTopups] at fires
    split at fires
    · cases fires
    · split at fires
      · cases fires
      · obtain ⟨_, rfl⟩ := of_ite_eq_some fires
        exact resumeTrigger_step _ _ _ _
  | failTrigger attemptId =>
    simp only [Fires, nextTopups] at fires
    split at fires
    · cases fires
    · obtain ⟨_, rfl⟩ := of_ite_eq_some fires
      exact PaymentStep.quiet (finalizeFailure_quiet _ _)
  | use renterId amount =>
    obtain ⟨_, rfl⟩ := of_ite_eq_some fires
    exact PaymentStep.quiet
      ⟨withdraw_payments _ _ _, withdraw_credits _ _ _, Accounted.of_withdraw _ _ _⟩

theorem accounted_of_run {start finish : State} {actions : List TopupAction}
    (run : Run (Fires nextTopups) start actions finish) :
    Accounted start.db finish.db :=
  run.relates (fun _ => True) (fun before after => Accounted before.db after.db)
    (Accounted.refl ·.db) Accounted.trans
    (fun _ _ => trivial)
    (fun _ fires => (nextTopups_step fires).accounted) trivial

end DcpPlatform.Topups
