import DcpPlatform.Foundation.Text
import DcpPlatform.Topups.Effects

/-!
# Three readings of one answer

The webhook, `GET /verify` and `reconcilePendingTopups` each decode what the
gateway says of a payment. Only the sweep looks at the amount, only the
webhook at the currency, and the three spell `paid` differently.
-/

namespace DcpPlatform.Topups

open Foundation

/-- A payment object of the gateway as it is sent; an amount that is not a
number is `none`. -/
structure GatewayAnswer where
  id : Nat
  status : String
  amount : Option Int
  currency : Option String
  amountRefunded : Option Int

def webhookStatus (status : String) : Option EventStatus :=
  let status := toLowerCase (trim status)
  if status = "paid" then some .paid
  else if status = "failed" then some .failed
  else if status = "refunded" then some .refunded
  else if status = "initiated" then some .initiated
  else none

def GatewayAnswer.IsForeign (answer : GatewayAnswer) : Prop :=
  ∃ currency ∈ answer.currency, currency ≠ "" ∧ toLowerCase currency ≠ "sar"
deriving Decidable

def webhookAnswer (db : Database) (payment : Payment)
    (answer : GatewayAnswer) (now : Int) : Database :=
  match webhookStatus answer.status with
  | none => db
  | some status =>
    if answer.IsForeign then
      db
    else
      (applyEvent (bindPayment db payment answer.id) payment
        { id := answer.id
          invoiceId := none
          status := status
          amountHalala := answer.amount.getD 0
          renterId := none
          amountRefunded := answer.amountRefunded } now).1

def verifyAnswer (db : Database) (payment : Payment)
    (answer : GatewayAnswer) (now : Int) : Database :=
  if answer.status = "paid" ∧ payment.status ≠ .paid then
    (markPaymentPaidOnce db
      ⟨payment.paymentId, answer.id, payment.renterId, payment.amountHalala⟩ now).1
  else
    db

def answerDecision (answer : GatewayAnswer) (amountHalala : Int) :
    ReconcileDecision :=
  let status := toLowerCase answer.status
  if status = "paid" then
    if answer.amount = some amountHalala then .credit else .skip
  else if status ∈ ["failed", "void", "canceled", "expired"] then .fail
  else .wait

def reconcileAnswer (db : Database) (row : SweptRow)
    (answer : GatewayAnswer) (now : Int) : Database :=
  match answerDecision answer row.amountHalala with
  | .credit =>
    (markPaymentPaidOnce db ⟨row.paymentId, answer.id, row.renterId, row.amountHalala⟩ now).1
  | .fail => failAwaited db row.paymentId
  | .skip | .wait => db

/-- The same credits, and none when another amount was paid. -/
structure PathsAgree (db : Database) (payment : Payment)
    (answer : GatewayAnswer) (now : Int) : Prop where
  verify :
    (verifyAnswer db payment answer now).credits = (webhookAnswer db payment answer now).credits
  reconcile : (reconcileAnswer db (sweptRow payment) answer now).credits =
    (webhookAnswer db payment answer now).credits
  otherAmount : ∀ amount ∈ answer.amount, amount ≠ payment.amountHalala →
    (webhookAnswer db payment answer now).credits = db.credits ∧
      (verifyAnswer db payment answer now).credits = db.credits ∧
      (reconcileAnswer db (sweptRow payment) answer now).credits = db.credits

def GatewayAnswer.Covers (answer : GatewayAnswer) (payment : Payment) : Prop :=
  toLowerCase answer.status = "paid" ∧ answer.amount = some payment.amountHalala

instance (payment : Payment) (answer : GatewayAnswer) :
    Decidable (answer.Covers payment) :=
  inferInstanceAs (Decidable (_ ∧ _))

/-- Not paid in any spelling; or paid as the code spells it, in SAR and with
the amount of the row; or paid in another spelling and currency that the sweep
does not take for the row's. -/
def GatewayAnswer.IsClear (answer : GatewayAnswer) (payment : Payment) : Prop :=
  toLowerCase (trim answer.status) ≠ "paid" ∨
    (answer.status = "paid" ∧ ¬ answer.IsForeign ∧ answer.amount = some payment.amountHalala) ∨
    (answer.status ≠ "paid" ∧ answer.IsForeign ∧ ¬ answer.Covers payment)

variable {db : Database} {payment : Payment} {answer : GatewayAnswer} {now : Int}

def creditOf (payment : Payment) (answer : GatewayAnswer) : Credit :=
  ⟨payment.paymentId, answer.id, payment.renterId, payment.amountHalala⟩

theorem IsAwaited.creditable (awaited : IsAwaited payment) :
    IsCreditable payment := by
  rcases awaited with status | status
  · exact Or.inl status
  · exact Or.inr (Or.inl status)

theorem markPaymentPaidOnce_credits {stored : Payment} {credit : Credit}
    (found : db.payments.lookup credit.paymentId = some stored)
    (creditable : IsCreditable stored) :
    (markPaymentPaidOnce db credit now).1.credits = db.credits ++ [credit] := by
  rw [markPaymentPaidOnce, if_pos ⟨stored, found, creditable⟩]
  rfl

theorem verifyAnswer_credits (found : db.payments.lookup payment.paymentId = some payment)
    (awaited : IsAwaited payment) :
    (verifyAnswer db payment answer now).credits =
      if answer.status = "paid" then db.credits ++ [creditOf payment answer]
      else db.credits := by
  have unpaid : payment.status ≠ .paid := by
    rcases awaited with status | status <;> simp [status]
  unfold verifyAnswer
  by_cases paid : answer.status = "paid"
  · rw [if_pos ⟨paid, unpaid⟩, if_pos paid]
    exact markPaymentPaidOnce_credits found awaited.creditable
  · rw [if_neg (paid ·.1), if_neg paid]

theorem reconcileAnswer_credits (found : db.payments.lookup payment.paymentId = some payment)
    (awaited : IsAwaited payment) :
    (reconcileAnswer db (sweptRow payment) answer now).credits =
      if answer.Covers payment then db.credits ++ [creditOf payment answer]
      else db.credits := by
  unfold reconcileAnswer answerDecision
  by_cases covers : answer.Covers payment
  · have amount : answer.amount = some (sweptRow payment).amountHalala := covers.2
    simp only [covers.1, amount, if_true]
    rw [if_pos covers]
    exact markPaymentPaidOnce_credits found awaited.creditable
  · rw [if_neg covers]
    by_cases paid : toLowerCase answer.status = "paid"
    · have amount : answer.amount ≠ some (sweptRow payment).amountHalala :=
        fun same => covers ⟨paid, same⟩
      rw [if_pos paid, if_neg amount]
    · rw [if_neg paid]
      split_ifs <;> rfl

theorem bindPayment_found (moyasarId : Nat)
    (found : db.payments.lookup payment.paymentId = some payment) :
    ∃ bound, (bindPayment db payment moyasarId).payments.lookup payment.paymentId = some bound ∧
      bound.status = payment.status := by
  unfold bindPayment
  split
  · exact ⟨payment, found, rfl⟩
  · exact ⟨_, Table.lookup_update_of_some _ _ (Payment.setMoyasarId_paymentId moyasarId) found, rfl⟩

theorem applyEvent_credits {bound : Payment} {event : WebhookEvent}
    (found : db.payments.lookup payment.paymentId = some bound)
    (status : bound.status = payment.status) (awaited : IsAwaited payment) :
    (applyEvent db payment event now).1.credits =
      if event.status = .paid then
        db.credits ++ [⟨payment.paymentId, event.id, payment.renterId, payment.amountHalala⟩]
      else db.credits := by
  have unpaid : payment.status ≠ .paid ∧ payment.status ≠ .refunded := by
    rcases awaited with known | known <;> simp [known]
  have unrefundable : ¬ db.payments.changes payment.paymentId IsRefundable := by
    rintro ⟨other, otherFound, refundable⟩
    rw [found] at otherFound
    cases otherFound
    exact unpaid.1 (status ▸ refundable.1)
  unfold applyEvent
  cases announced : event.status with
  | paid =>
    have boundAwaited : IsAwaited bound := by
      rw [IsAwaited, status]
      exact awaited
    have credits := @markPaymentPaidOnce_credits db now bound
        ⟨payment.paymentId, event.id, payment.renterId, payment.amountHalala⟩
        found boundAwaited.creditable
    simp only [EventStatus.toPaymentStatus, unpaid.1, unpaid.2, false_and, if_false, if_true]
    rw [← credits]
    split
    · rename_i after settled
      rw [settled]
      exact (finalizeFrom3dsCallback_quiet _ _ _).credits
    · rename_i after settled
      rw [settled]
  | failed =>
    simp only [unpaid.1, unpaid.2, false_and, if_false, reduceCtorEq]
    split
    · rfl
    · exact (failOpenAttempt_quiet _ _ _).credits
  | refunded =>
    simp only [EventStatus.toPaymentStatus, unpaid.1, unpaid.2, false_and, if_false,
      reduceCtorEq, markPaymentRefundedOnce, unrefundable]
  | initiated =>
    simp only [unpaid.1, unpaid.2, false_and, if_false, reduceCtorEq]
    split <;> rfl

variable {status : String}

theorem webhookStatus_eq_paid :
    webhookStatus status = some .paid ↔ toLowerCase (trim status) = "paid" := by
  unfold webhookStatus
  dsimp only
  split_ifs with paid
  all_goals simp [paid]

theorem webhookAnswer_credits (found : db.payments.lookup payment.paymentId = some payment)
    (awaited : IsAwaited payment) :
    (webhookAnswer db payment answer now).credits =
      if toLowerCase (trim answer.status) = "paid" ∧ ¬ answer.IsForeign then
        db.credits ++ [creditOf payment answer]
      else db.credits := by
  obtain ⟨bound, boundFound, same⟩ := bindPayment_found answer.id found
  unfold webhookAnswer
  simp only [← webhookStatus_eq_paid]
  cases webhookStatus answer.status with
  | none => simp
  | some status =>
    dsimp only
    by_cases foreign : answer.IsForeign
    · simp [foreign]
    · rw [if_neg foreign, applyEvent_credits boundFound same awaited, bindPayment_credits]
      simp [foreign, creditOf]

theorem mem_toLowerCase_of_isSpace {text : String} {character : Char}
    (member : character ∈ text.toList) (space : isSpace character = true) :
    character ∈ (toLowerCase text).toList := by
  have code : character.toNat ≠ 0x212a ∧ character.toNat ≠ 0x130 ∧
      ¬ (65 ≤ character.toNat ∧ character.toNat ≤ 90) := by
    unfold isSpace at space
    simp only [List.contains_eq_mem, List.mem_cons, List.not_mem_nil,
      decide_eq_true_eq, or_false] at space
    omega
  have lower : character.toLower = character := by
    have bounds : ¬ (character.val ≥ 'A'.val ∧ character.val ≤ 'Z'.val) := code.2.2
    exact dif_neg bounds
  rw [toLowerCase, String.toList_ofList, List.mem_flatMap]
  refine ⟨character, member, ?_⟩
  rw [if_neg code.1, if_neg code.2.1, lower]
  exact List.mem_singleton.mpr rfl

theorem trim_of_paid (paid : toLowerCase status = "paid") :
    trim status = status := by
  apply strip_of_visible
  intro character member
  by_contra visible
  have space : isSpace character = true := (Bool.not_eq_false _).mp visible
  have listed := mem_toLowerCase_of_isSpace member space
  rw [paid] at listed
  have known : character = 'p' ∨ character = 'a' ∨ character = 'i' ∨ character = 'd' := by
    simpa using listed
  rcases known with same | same | same | same
  all_goals
    subst same
    exact absurd space (by decide)

theorem clear_iff {paid lower trimmed foreign covered : Prop}
    (exactly : paid → lower) (untrimmed : lower → trimmed) :
    ((paid ↔ trimmed ∧ ¬ foreign) ∧ (lower ∧ covered ↔ trimmed ∧ ¬ foreign)) ↔
      ¬ trimmed ∨ (paid ∧ ¬ foreign ∧ covered) ∨ (¬ paid ∧ foreign ∧ ¬ (lower ∧ covered)) := by
  by_cases same : paid
  · have known := exactly same
    tauto
  · tauto

/-- On a row that waits for its payment the three paths agree exactly when
the answer is clear. -/
theorem paths_agree_iff (found : db.payments.lookup payment.paymentId = some payment)
    (awaited : IsAwaited payment) :
    PathsAgree db payment answer now ↔ answer.IsClear payment := by
  have webhook := @webhookAnswer_credits db payment answer now found awaited
  have verify := @verifyAnswer_credits db payment answer now found awaited
  have reconcile := @reconcileAnswer_credits db payment answer now found awaited
  have exactly : answer.status = "paid" → toLowerCase answer.status = "paid" := by
    intro same
    rw [same]
    decide
  have trimmed : toLowerCase answer.status = "paid" →
      toLowerCase (trim answer.status) = "paid" := by
    intro paid
    rw [trim_of_paid paid]
    exact paid
  have sameCredits (credits other : Prop) [Decidable credits] [Decidable other] :
      (if credits then db.credits ++ [creditOf payment answer] else db.credits) =
        (if other then db.credits ++ [creditOf payment answer] else db.credits) ↔
        (credits ↔ other) := by
    by_cases first : credits <;> by_cases second : other <;> simp [second]
  have clear := @clear_iff _ _ _ answer.IsForeign
    (answer.amount = some payment.amountHalala) exactly trimmed
  refine Iff.trans ?_ clear
  constructor
  · intro agree
    have first := agree.verify
    have second := agree.reconcile
    rw [verify, webhook, sameCredits] at first
    rw [reconcile, webhook, sameCredits] at second
    exact ⟨first, second⟩
  · rintro ⟨first, second⟩
    refine ⟨?_, ?_, ?_⟩
    · rw [verify, webhook, sameCredits]
      exact first
    · rw [reconcile, webhook, sameCredits]
      exact second
    · intro amount reported different
      have uncovered : ¬ answer.Covers payment := by
        intro covers
        rw [covers.2] at reported
        exact different (Option.some.inj reported).symm
      have unpaid := second.not.mp uncovered
      rw [webhook, verify, reconcile, if_neg unpaid, if_neg (first.not.mpr unpaid),
        if_neg uncovered]
      exact ⟨rfl, rfl, rfl⟩

def awaitedPayment : Payment where
  paymentId := .topup 1
  moyasarId := some 12
  renterId := 7
  amountHalala := 10000
  status := .pending
  sourceType := .creditcard
  createdAt := 0
  confirmedAt := none
  refundedAt := none
  refundAmountHalala := none

def awaitedStart : Database :=
  { payments := Table.empty.insertIfNew awaitedPayment
    renters := Table.empty
    attempts := Table.empty
    credits := []
    withdrawals := [] }

theorem paths_agree_iff_sample :
    PathsAgree awaitedStart awaitedPayment ⟨12, "paid", some 10000, some "SAR", none⟩ 0 :=
  (paths_agree_iff (by decide) (Or.inl rfl)).mpr (Or.inr (Or.inl (by decide)))

/-- The gateway reports that 1 SAR of 100 was paid: the webhook and the
verification credit 100 SAR, the sweep nothing. -/
theorem underpaid_credited_in_full :
    awaitedStart.payments.lookup awaitedPayment.paymentId = some awaitedPayment ∧
      IsAwaited awaitedPayment ∧
      ¬ PathsAgree awaitedStart awaitedPayment ⟨12, "paid", some 100, some "SAR", none⟩ 0 := by
  refine ⟨by decide, Or.inl rfl, ?_⟩
  intro agree
  have credits := (agree.otherAmount 100 rfl (by decide)).2.1
  exact absurd credits (by decide)

end DcpPlatform.Topups
