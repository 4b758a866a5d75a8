import DcpPlatform.Topups.Effects

/-!
# The order of webhook events

A `paid` event credits a row that is not yet credited and a `refunded` event
debits one that is. A refund of a row that has not been credited yet is
acknowledged and forgotten, so the order of the two events decides.
-/

namespace DcpPlatform.Topups

open Foundation Table List

inductive Standing where
  | uncredited | credited | done

namespace Standing

def next : Standing → EventStatus → Standing
  | .uncredited, .paid => .credited
  | .credited, .refunded => .done
  | standing, _ => standing

def move (amount refund : Int) : Standing → EventStatus → Int → Int
  | .uncredited, .paid, balance => balance + amount
  | .credited, .refunded, balance =>
    balance - Database.refundTaken refund balance
  | _, _, balance => balance

def moveAll (amount refund : Int) :
    Standing → List EventStatus → Int → Int
  | _, [], balance => balance
  | standing, status :: later, balance =>
    moveAll amount refund (standing.next status) later (standing.move amount refund status balance)

end Standing

/-- A refund is announced after the payment it refunds. -/
def RefundFollows : List EventStatus → Prop
  | [] => False
  | status :: later =>
    if status = .paid then .refunded ∈ later else RefundFollows later

instance decidableRefundFollows :
    (statuses : List EventStatus) → Decidable (RefundFollows statuses)
  | [] => inferInstanceAs (Decidable False)
  | status :: later =>
    have := decidableRefundFollows later
    inferInstanceAs (Decidable (if status = .paid then .refunded ∈ later
      else RefundFollows later))

theorem RefundFollows.mem {statuses : List EventStatus} (follows : RefundFollows statuses) :
    .paid ∈ statuses ∧ .refunded ∈ statuses := by
  induction statuses with
  | nil =>
    exact follows.elim
  | cons status later ih =>
    by_cases paid : status = .paid
    · rw [RefundFollows, if_pos paid] at follows
      subst paid
      exact ⟨mem_cons_self, mem_cons_of_mem _ follows⟩
    · rw [RefundFollows, if_neg paid] at follows
      obtain ⟨paidMember, refundMember⟩ := ih follows
      exact ⟨mem_cons_of_mem _ paidMember, mem_cons_of_mem _ refundMember⟩

namespace Standing

variable (amount refund : Int) (statuses : List EventStatus)

theorem moveAll_done (balance : Int) :
    moveAll amount refund .done statuses balance = balance := by
  induction statuses with
  | nil =>
    rfl
  | cons status later ih =>
    cases status
    all_goals exact ih

theorem moveAll_credited (balance : Int) :
    moveAll amount refund .credited statuses balance =
      if .refunded ∈ statuses then
        balance - Database.refundTaken refund balance
      else
        balance := by
  induction statuses with
  | nil =>
    rfl
  | cons status later ih =>
    cases status with
    | refunded =>
      rw [if_pos mem_cons_self]
      exact moveAll_done amount refund later _
    | initiated | paid | failed =>
      simp [moveAll, next, move, ih]

theorem moveAll_uncredited (balance : Int) :
    moveAll amount refund .uncredited statuses balance =
      if RefundFollows statuses then
        balance + amount - Database.refundTaken refund (balance + amount)
      else if .paid ∈ statuses then
        balance + amount
      else
        balance := by
  induction statuses with
  | nil =>
    simp [moveAll, RefundFollows]
  | cons status later ih =>
    cases status with
    | paid =>
      simp only [moveAll, next, move, moveAll_credited, RefundFollows, mem_cons, true_or, if_true]
    | initiated | failed | refunded =>
      simp only [moveAll, next, move, ih, RefundFollows, mem_cons, reduceCtorEq, false_or, if_false]

end Standing

theorem refundTaken_of_covered {amount balance : Int} (covered : amount ≤ balance) :
    Database.refundTaken amount balance = amount := by
  unfold Database.refundTaken
  omega

structure Delivery where
  status : EventStatus
  now : Int

def deliver (charge : Charge) (amountRefunded : Option Int)
    (db : Database) (delivery : Delivery) : Database :=
  (webhook db (eventOf charge delivery.status amountRefunded) delivery.now).1

def deliverAll (charge : Charge) (amountRefunded : Option Int)
    (db : Database) (deliveries : List Delivery) : Database :=
  deliveries.foldl (deliver charge amountRefunded) db

def refundOf (charge : Charge) (amountRefunded : Option Int) (payment : Payment) : Int :=
  refundAmount (eventOf charge .refunded amountRefunded) payment

def balanceOf (db : Database) (renterId : Nat) : Option Int :=
  (db.renters.lookup renterId).map Renter.balanceHalala

def Payment.standing (payment : Payment) : Standing :=
  match payment.status with
  | .pending | .initiated | .failed => .uncredited
  | .paid => .credited
  | .refunded => .done

def DistinctIds (db : Database) : Prop :=
  ∀ key other payment otherPayment id, db.payments.lookup key = some payment →
    db.payments.lookup other = some otherPayment →
    payment.moyasarId = some id → otherPayment.moyasarId = some id → key = other

/-- The events of a charge are about a row; `refunded_at` is written with
the status. -/
structure AboutRow (db : Database) (charge : Charge) (payment : Payment) :
    Prop where
  located : findPayment db (eventOf charge .paid none) = some payment
  distinct : DistinctIds db
  dated : payment.status ≠ .refunded → payment.refundedAt = none

variable {db : Database} {payment : Payment}

theorem boundTo_of_found (distinct : DistinctIds db) {id : Nat}
    (found : db.payments.lookup payment.paymentId = some payment)
    (bound : payment.moyasarId = some id) :
    boundTo db id = some payment := by
  cases present : boundTo db id with
  | none => exact absurd bound (boundTo_eq_none present found)
  | some other =>
    obtain ⟨otherFound, otherBound⟩ := boundTo_eq_some present
    have sameKey := distinct _ _ _ _ id otherFound found otherBound bound
    rw [sameKey, found] at otherFound
    exact otherFound.symm

theorem findPayment_of_bound {db : Database} {event : WebhookEvent}
    {payment : Payment} (bound : boundTo db event.id = some payment) :
    findPayment db event = some payment := by
  rw [findPayment, bound]

variable {charge : Charge}

theorem AboutRow.of_rewrites {before after : Database}
    {payment changed : Payment} (about : AboutRow before charge payment)
    (rewrites : Rewrites before after payment changed)
    (bound : changed.moyasarId = some charge.id)
    (dated : changed.status ≠ .refunded → changed.refundedAt = none) :
    AboutRow after charge changed := by
  have alone (key : PaymentKey) (row : Payment) (found : before.payments.lookup key = some row)
      (sameId : row.moyasarId = some charge.id) :
      key = payment.paymentId := by
    rcases findPayment_cases before (eventOf charge .paid none) with
      ⟨missing, _⟩ | ⟨other, some_, _, matched⟩
    · rw [about.located] at missing
      cases missing
    · rw [about.located] at some_
      cases some_
      cases matched with
      | byId ownId =>
        exact about.distinct _ _ _ _ charge.id found rewrites.found sameId ownId
      | byInvoice unbound _ _ | byAmount unbound _ _ _ _ _ =>
        exact absurd sameId (boundTo_eq_none unbound found)
  have distinct : DistinctIds after := by
    intro key other row otherRow id found otherFound sameId otherId
    by_cases here : key = payment.paymentId
    · by_cases there : other = payment.paymentId
      · exact here.trans there.symm
      · subst here
        rw [rewrites.stored] at found
        cases found
        rw [rewrites.others other there] at otherFound
        have sameCharge : charge.id = id := Option.some.inj (bound.symm.trans sameId)
        rw [← sameCharge] at otherId
        exact absurd (alone other otherRow otherFound otherId) there
    · rw [rewrites.others key here] at found
      by_cases there : other = payment.paymentId
      · subst there
        rw [rewrites.stored] at otherFound
        cases otherFound
        have sameCharge : charge.id = id := Option.some.inj (bound.symm.trans otherId)
        rw [← sameCharge] at sameId
        exact absurd (alone key row found sameId) here
      · rw [rewrites.others other there] at otherFound
        exact about.distinct _ _ _ _ id found otherFound sameId otherId
  have stored : after.payments.lookup changed.paymentId = some changed := by
    rw [rewrites.paymentId]
    exact rewrites.stored
  exact ⟨findPayment_of_bound (boundTo_of_found distinct stored bound), distinct, dated⟩

theorem balanceOf_updateRenter (db : Database) (renterId : Nat)
    {change : Renter → Renter} (keeps : ∀ row, (change row).id = row.id)
    (same : ∀ row, (change row).balanceHalala = row.balanceHalala) (other : Nat) :
    balanceOf (db.updateRenter renterId change keeps) other = balanceOf db other := by
  unfold balanceOf Database.updateRenter
  rw [lookup_update]
  by_cases here : other = renterId
  · rw [if_pos here, Option.map_map]
    apply congrArg (Option.map · _)
    exact funext same
  · rw [if_neg here]

theorem balanceOf_credit (db : Database) (credit : Credit) :
    balanceOf (db.credit credit) credit.renterId =
      (balanceOf db credit.renterId).map (fun balance => balance + credit.amountHalala) := by
  unfold balanceOf Database.credit
  rw [lookup_update_self, Option.map_map, Option.map_map]
  rfl

theorem balanceOf_withdraw (db : Database) (renterId : Nat) (taken : Int → Int) :
    balanceOf (db.withdraw renterId taken) renterId =
      (balanceOf db renterId).map (fun balance => balance - taken balance) := by
  unfold balanceOf Database.withdraw
  cases found : db.renters.lookup renterId with
  | none =>
    simp [found]
  | some renter =>
    rw [lookup_update_self, found]
    rfl

theorem balanceOf_finalizeFrom3dsCallback (db : Database)
    (moyasarPaymentId : Option Nat) (now : Int) (renterId : Nat) :
    balanceOf (finalizeFrom3dsCallback db moyasarPaymentId now) renterId =
      balanceOf db renterId := by
  unfold finalizeFrom3dsCallback
  split
  · rfl
  · split
    · rfl
    · exact balanceOf_updateRenter _ _ (Renter.setRecharged_id _) (fun _ => rfl) renterId

theorem balanceOf_failOpenAttempt (db : Database)
    (moyasarPaymentId : Option Nat) (now : Int) (renterId : Nat) :
    balanceOf (failOpenAttempt db moyasarPaymentId now) renterId = balanceOf db renterId := by
  unfold failOpenAttempt
  split <;> rfl

/-! ## What an event does to its row -/

structure Applied (before after : Database) (payment changed : Payment)
    (refund : Int) (status : EventStatus) : Prop where
  rewrites : Rewrites before after payment changed
  moyasarId : changed.moyasarId = payment.moyasarId
  dated : changed.status ≠ .refunded → changed.refundedAt = none
  standing : changed.standing = payment.standing.next status
  balance : balanceOf after payment.renterId = (balanceOf before payment.renterId).map
    (payment.standing.move payment.amountHalala refund status)

section Events

variable {db : Database} {payment : Payment} (refund : Int) {status : EventStatus}

theorem applied_unchanged (found : db.payments.lookup payment.paymentId = some payment)
    (dated : payment.status ≠ .refunded → payment.refundedAt = none)
    (stays : payment.standing.next status = payment.standing)
    (still : payment.standing.move payment.amountHalala refund status = id) :
    Applied db db payment payment refund status where
  rewrites := Rewrites.refl found
  moyasarId := rfl
  dated := dated
  standing := stays.symm
  balance := by
    rw [still, Option.map_id]
    rfl

theorem applied_setStatus {after : Database}
    (found : db.payments.lookup payment.paymentId = some payment)
    (dated : payment.refundedAt = none)
    (uncredited : payment.standing = .uncredited)
    (awaited : status = .initiated ∨ status = .failed)
    (payments :
      after.payments = (setPaymentStatus db payment.paymentId status.toPaymentStatus).payments)
    (balances : balanceOf after payment.renterId = balanceOf db payment.renterId) :
    Applied db after payment (payment.setStatus status.toPaymentStatus) refund status where
  rewrites := Rewrites.of_update (Payment.setStatus_paymentId _) found rfl rfl payments
  moyasarId := rfl
  dated := fun _ => dated
  standing := by
    rw [uncredited]
    rcases awaited with same | same
    · rw [same]
      rfl
    · rw [same]
      rfl
  balance := by
    rw [balances, uncredited]
    rcases awaited with same | same
    · rw [same]
      exact Option.map_id'.symm
    · rw [same]
      exact Option.map_id'.symm

theorem applied_paid {credit : Credit} {now : Int} {after : Database}
    (paid : PaidOnce db after payment credit now)
    (dated : payment.refundedAt = none)
    (uncredited : payment.standing = .uncredited)
    (balances : balanceOf after payment.renterId =
      (balanceOf db payment.renterId).map (fun balance => balance + payment.amountHalala)) :
    Applied db after payment (payment.setPaid now) refund .paid where
  rewrites := paid.rewrites
  moyasarId := rfl
  dated := fun _ => dated
  standing := by
    rw [uncredited]
    rfl
  balance := by
    rw [balances, uncredited]
    rfl

theorem applied_refunded (now : Int) (found : db.payments.lookup payment.paymentId = some payment)
    (dated : payment.refundedAt = none) (paid : payment.status = .paid) :
    Applied db (markPaymentRefundedOnce db payment.paymentId payment.renterId
      refund now).1 payment (payment.setRefunded refund now) refund
      .refunded := by
  have changes : db.payments.changes payment.paymentId IsRefundable := ⟨payment, found, paid, dated⟩
  have credited : payment.standing = .credited := by
    simp [Payment.standing, paid]
  rw [markPaymentRefundedOnce, if_pos changes]
  refine ⟨?_, rfl, nofun, ?_, ?_⟩
  · apply Rewrites.of_update (Payment.setRefunded_paymentId refund now) found rfl rfl
    rw [withdraw_payments]
    exact updateWhere_of_met _ found ⟨paid, dated⟩
  · rw [credited]
    rfl
  · rw [balanceOf_withdraw, credited]
    rfl

end Events

variable {event : WebhookEvent} {now : Int}

theorem applyEvent_of_done (refunded : payment.status = .refunded) :
    (applyEvent db payment event now).1 = db := by
  unfold applyEvent
  split
  · rfl
  · simp [refunded]

theorem applyEvent_of_credited (paid : payment.status = .paid) :
    (applyEvent db payment event now).1 =
      if event.status = .refunded then
        (markPaymentRefundedOnce db payment.paymentId payment.renterId
          (refundAmount event payment) now).1
      else
        db := by
  unfold applyEvent
  cases announced : event.status with
  | refunded =>
    simp only [paid, EventStatus.toPaymentStatus, reduceCtorEq,
      or_self, and_false, if_false, if_true]
    split
    all_goals
      rename_i result
      rw [result]
  | initiated | failed | paid =>
    simp [paid, EventStatus.toPaymentStatus]

theorem applyEvent_of_early {payment stored : Payment}
    (found : db.payments.lookup payment.paymentId = some stored)
    (unpaid : stored.status ≠ .paid) (refunded : event.status = .refunded) :
    (applyEvent db payment event now).1 = db := by
  have unmet : ¬ db.payments.changes payment.paymentId IsRefundable := by
    rintro ⟨other, otherFound, refundable⟩
    rw [found] at otherFound
    injection otherFound with same
    exact unpaid (same ▸ refundable.1)
  have dropped : markPaymentRefundedOnce db payment.paymentId payment.renterId
      (refundAmount event payment) now = (db, false) := by
    rw [markPaymentRefundedOnce, if_neg unmet]
  unfold applyEvent
  split
  · rfl
  · split
    · rfl
    · split
      · rfl
      · simp [refunded, dropped]

theorem standing_eq_uncredited :
    payment.standing = .uncredited ↔ payment.status.settled = false := by
  unfold Payment.standing
  cases payment.status
  all_goals simp [PaymentStatus.settled]

theorem applyEvent_of_uncredited {payment bound : Payment} (now : Int)
    (stored : db.payments.lookup payment.paymentId = some bound)
    (same : bound = payment.setMoyasarId event.id)
    (dated : payment.refundedAt = none)
    (unsettled : payment.status.settled = false) :
    ∃ changed, Applied db (applyEvent db payment event now).1 bound changed
      (refundAmount event payment) event.status := by
  subst same
  have uncredited : (payment.setMoyasarId event.id).standing = .uncredited :=
    standing_eq_uncredited.mpr unsettled
  have unpaid : payment.status ≠ .paid := by
    intro paid
    rw [paid] at unsettled
    cases unsettled
  have unrefunded : payment.status ≠ .refunded := by
    intro refunded
    rw [refunded] at unsettled
    cases unsettled
  have unchanged (kept : (applyEvent db payment event now).1 = db) (free : event.status ≠ .paid) :
      ∃ changed, Applied db (applyEvent db payment event now).1
        (payment.setMoyasarId event.id) changed
        (refundAmount event payment) event.status := by
    rw [kept]
    refine ⟨_, applied_unchanged _ stored (fun _ => dated) ?_ ?_⟩
    · rw [uncredited]
      cases announced : event.status with
      | paid => exact absurd announced free
      | initiated | failed | refunded => rfl
    · rw [uncredited]
      cases announced : event.status with
      | paid => exact absurd announced free
      | initiated | failed | refunded => rfl
  cases announced : event.status with
  | refunded =>
    rw [← announced]
    apply unchanged
    · exact applyEvent_of_early stored unpaid announced
    · rw [announced]
      nofun
  | initiated =>
    rw [← announced]
    by_cases repeated : payment.status = event.status.toPaymentStatus
    · apply unchanged
      · unfold applyEvent
        rw [if_pos repeated]
      · rw [announced]
        nofun
    · have result : (applyEvent db payment event now).1 =
          setPaymentStatus db payment.paymentId .initiated := by
        unfold applyEvent
        rw [if_neg repeated, if_neg (unpaid ·.1), if_neg unrefunded, announced]
      rw [result, announced]
      exact ⟨_, applied_setStatus _ stored dated uncredited (Or.inl rfl) rfl rfl⟩
  | failed =>
    rw [← announced]
    by_cases repeated : payment.status = event.status.toPaymentStatus
    · apply unchanged
      · unfold applyEvent
        rw [if_pos repeated]
      · rw [announced]
        nofun
    · have result : (applyEvent db payment event now).1 = failOpenAttempt
          (setPaymentStatus db payment.paymentId .failed)
          payment.moyasarId now := by
        unfold applyEvent
        rw [if_neg repeated, if_neg (unpaid ·.1), if_neg unrefunded, announced]
      rw [result, announced]
      exact ⟨_, applied_setStatus _ stored dated uncredited
        (Or.inr rfl) (failOpenAttempt_quiet _ _ _).payments
        (balanceOf_failOpenAttempt _ _ _ _)⟩
  | paid =>
    have fresh : payment.status ≠ event.status.toPaymentStatus := by
      rw [announced]
      exact unpaid
    have credits := @markPaymentPaidOnce_of_unsettled db
        ⟨payment.paymentId, event.id, payment.renterId, payment.amountHalala⟩ _ now stored unsettled
    rcases markPaymentPaidOnce_cases db
        ⟨payment.paymentId, event.id, payment.renterId, payment.amountHalala⟩ now with
      ⟨refused, _⟩ | ⟨other, after, same, paid⟩
    · rw [credits] at refused
      have flipped := congrArg Prod.snd refused
      cases flipped
    · have sameRow := paid.rewrites.found
      rw [← paid.paymentId, stored] at sameRow
      cases sameRow
      have credited := balanceOf_credit { db with
          payments := db.payments.update payment.paymentId
            (Payment.setPaid now) (Payment.setPaid_paymentId now) }
        ⟨payment.paymentId, event.id, payment.renterId, payment.amountHalala⟩
      rw [same] at credits
      injection credits with sameAfter
      rw [← sameAfter] at credited
      have result : (applyEvent db payment event now).1 =
          finalizeFrom3dsCallback after payment.moyasarId now := by
        unfold applyEvent
        rw [if_neg fresh, if_neg (unpaid ·.1), if_neg unrefunded, announced]
        simp [same]
      have applied := @applied_paid db _ (refundAmount event payment) _
        now after paid dated uncredited credited
      rw [result]
      have quiet := finalizeFrom3dsCallback_quiet after payment.moyasarId now
      refine ⟨_, applied.rewrites.congr quiet.payments,
        applied.moyasarId, applied.dated, applied.standing, ?_⟩
      rw [balanceOf_finalizeFrom3dsCallback]
      exact applied.balance

theorem applyEvent_applied {db : Database} {payment bound : Payment}
    {event : WebhookEvent} (now : Int)
    (stored : db.payments.lookup payment.paymentId = some bound)
    (same : bound = payment.setMoyasarId event.id)
    (dated : payment.status ≠ .refunded → payment.refundedAt = none) :
    ∃ changed, Applied db (applyEvent db payment event now).1 bound changed
      (refundAmount event payment) event.status := by
  have boundDated : bound.status ≠ .refunded → bound.refundedAt = none := by
    rw [same]
    exact dated
  have boundStored : db.payments.lookup bound.paymentId = some bound := by
    rw [same] at stored ⊢
    exact stored
  cases status : payment.status with
  | refunded =>
    have finished : bound.standing = .done := by
      simp [same, Payment.standing, Payment.setMoyasarId, status]
    rw [applyEvent_of_done status]
    refine ⟨_, applied_unchanged _ boundStored boundDated ?_ ?_⟩
    · rw [finished]
      rfl
    · rw [finished]
      rfl
  | paid =>
    have credited : bound.standing = .credited := by
      simp [same, Payment.standing, Payment.setMoyasarId, status]
    have paid : bound.status = .paid := by
      simp [same, Payment.setMoyasarId, status]
    rw [applyEvent_of_credited status]
    by_cases refunds : event.status = .refunded
    · have applied := applied_refunded (refundAmount event payment) now
        boundStored (boundDated (by simp [paid])) paid
      rw [if_pos refunds, refunds]
      rw [same] at applied ⊢
      exact ⟨_, applied⟩
    · rw [if_neg refunds]
      refine ⟨_, applied_unchanged _ boundStored boundDated ?_ ?_⟩
      · rw [credited]
        cases announced : event.status with
        | refunded => exact absurd announced refunds
        | initiated | failed | paid => rfl
      · rw [credited]
        cases announced : event.status with
        | refunded => exact absurd announced refunds
        | initiated | failed | paid => rfl
  | pending | initiated | failed =>
    apply applyEvent_of_uncredited now stored same
    · exact dated (by simp [status])
    · rw [status]
      rfl

theorem AboutRow.finds (about : AboutRow db charge payment)
    (status : EventStatus) (amountRefunded : Option Int) :
    findPayment db (eventOf charge status amountRefunded) = some payment ∨
      (findPayment db (eventOf charge status amountRefunded) = none ∧
        status ≠ .paid ∧ payment.standing = .uncredited) := by
  have located := about.located
  rcases findPayment_cases db (eventOf charge status amountRefunded) with
    ⟨missing, unbound, noInvoice⟩ | ⟨other, some_, found, matched⟩
  · by_cases paid : status = .paid
    · subst paid
      exact absurd (missing.symm.trans located) nofun
    · refine Or.inr ⟨missing, paid, ?_⟩
      rcases findPayment_cases db (eventOf charge .paid none) with
        ⟨none_, _⟩ | ⟨row, row_, _, byPaid⟩
      · rw [located] at none_
        cases none_
      · rw [located] at row_
        cases row_
        cases byPaid with
        | byId bound =>
          exact absurd bound (boundTo_eq_none unbound ‹_›)
        | byInvoice _ invoice bound =>
          exact absurd bound (boundTo_eq_none (noInvoice _ invoice) ‹_›)
        | byAmount _ _ _ _ _ pending =>
          simp [Payment.standing, pending]
  · refine Or.inl ?_
    rw [some_, ← located]
    cases matched with
    | byId bound =>
      have same := boundTo_of_found about.distinct found bound
      exact (@findPayment_of_bound db (eventOf charge .paid none) _ same).symm
    | @byInvoice invoiceId unbound invoice bound =>
      have same := boundTo_of_found about.distinct found bound
      have noId : boundTo db charge.id = none := unbound
      have invoiceId_ : charge.invoiceId = some invoiceId := invoice
      simp [findPayment, eventOf, noId, invoiceId_, same]
    | byAmount unbound noInvoice paid _ _ _ =>
      have announced : status = .paid := paid
      subst announced
      exact some_.symm

structure Received (before after : Database) (charge : Charge)
    (payment changed : Payment) (refund : Int) (status : EventStatus) :
    Prop where
  about : AboutRow after charge changed
  renter : changed.renterId = payment.renterId
  amount : changed.amountHalala = payment.amountHalala
  standing : changed.standing = payment.standing.next status
  balance : balanceOf after payment.renterId = (balanceOf before payment.renterId).map
    (payment.standing.move payment.amountHalala refund status)

theorem deliver_received (about : AboutRow db charge payment)
    (amountRefunded : Option Int) (delivery : Delivery) :
    ∃ changed, Received db (deliver charge amountRefunded db delivery) charge
      payment changed (refundOf charge amountRefunded payment)
      delivery.status := by
  unfold deliver webhook
  rcases about.finds delivery.status amountRefunded with found | ⟨missing, unpaid, uncredited⟩
  · rw [found]
    have present : db.payments.lookup payment.paymentId = some payment := by
      rcases findPayment_cases db (eventOf charge delivery.status amountRefunded) with
        ⟨missing, _⟩ | ⟨other, some_, stored, _⟩
      · rw [found] at missing
        cases missing
      · rw [found] at some_
        injection some_ with same
        exact same ▸ stored
    have binds := bindPayment_rewrites charge.id present
    have wallets : balanceOf (bindPayment db payment charge.id) payment.renterId =
        balanceOf db payment.renterId := by
      unfold bindPayment
      split <;> rfl
    obtain ⟨changed, applied⟩ := @applyEvent_applied _ payment _
        (eventOf charge delivery.status amountRefunded) delivery.now
        binds.stored rfl about.dated
    refine ⟨changed, ?_, applied.rewrites.renter, applied.rewrites.amount, applied.standing, ?_⟩
    · exact about.of_rewrites (binds.trans applied.rewrites) applied.moyasarId applied.dated
    · exact applied.balance.trans (congrArg (Option.map _) wallets)
  · rw [missing]
    refine ⟨payment, about, rfl, rfl, ?_, ?_⟩
    · rw [uncredited]
      cases announced : delivery.status with
      | paid => exact absurd announced unpaid
      | initiated | failed | refunded => rfl
    · rw [uncredited]
      cases announced : delivery.status with
      | paid => exact absurd announced unpaid
      | initiated | failed | refunded => exact Option.map_id'.symm

theorem balanceOf_deliverAll {amountRefunded : Option Int} {deliveries : List Delivery} :
    ∀ {db : Database} {payment : Payment}, AboutRow db charge payment →
      balanceOf (deliverAll charge amountRefunded db deliveries) payment.renterId =
        (balanceOf db payment.renterId).map (payment.standing.moveAll payment.amountHalala
          (refundOf charge amountRefunded payment)
          (deliveries.map Delivery.status)) := by
  induction deliveries with
  | nil =>
    intro db payment _
    exact Option.map_id'.symm
  | cons delivery later ih =>
    intro db payment about
    obtain ⟨changed, received⟩ := deliver_received about amountRefunded delivery
    have rest := ih received.about
    have sameRefund :
        refundOf charge amountRefunded changed = refundOf charge amountRefunded payment := by
      unfold refundOf refundAmount
      rw [received.amount]
    rw [received.renter, received.amount, sameRefund, received.standing,
      received.balance, Option.map_map] at rest
    exact rest

theorem refundOf_bounds (charge : Charge)
    (amountRefunded : Option Int) (priced : 0 < payment.amountHalala) :
    0 < refundOf charge amountRefunded payment ∧
      refundOf charge amountRefunded payment ≤ payment.amountHalala := by
  unfold refundOf refundAmount
  cases kept : (eventOf charge .refunded amountRefunded).amountRefunded.filter
      (fun amount => 1 ≤ amount ∧ amount ≤ payment.amountHalala) with
  | none =>
    exact ⟨priced, le_refl _⟩
  | some amount =>
    have bounds := (Option.filter_eq_some_iff.mp kept).2
    have between := of_decide_eq_true bounds
    exact ⟨between.1, between.2⟩

theorem balanceOf_uncredited (amountRefunded : Option Int)
    (about : AboutRow db charge payment) {balance : Int}
    (wallet : balanceOf db payment.renterId = some balance)
    (solvent : 0 ≤ balance) (priced : 0 < payment.amountHalala)
    (unsettled : payment.status.settled = false) (deliveries : List Delivery) :
    balanceOf (deliverAll charge amountRefunded db deliveries) payment.renterId =
      some (if RefundFollows (deliveries.map Delivery.status) then
          balance + payment.amountHalala - refundOf charge amountRefunded payment
        else if .paid ∈ deliveries.map Delivery.status then
          balance + payment.amountHalala
        else
          balance) := by
  have bounds := refundOf_bounds charge amountRefunded priced
  have covered : refundOf charge amountRefunded payment ≤ balance + payment.amountHalala := by
    omega
  rw [balanceOf_deliverAll about, wallet, standing_eq_uncredited.mpr unsettled, Option.map_some,
    Standing.moveAll_uncredited, refundTaken_of_covered covered]

theorem balanceOf_settled (amountRefunded : Option Int)
    (about : AboutRow db charge payment) (settled : payment.status.settled = true)
    {first second : List Delivery}
    (same : (first.map Delivery.status).Perm (second.map Delivery.status)) :
    balanceOf (deliverAll charge amountRefunded db first) payment.renterId =
      balanceOf (deliverAll charge amountRefunded db second)
        payment.renterId := by
  rw [balanceOf_deliverAll about, balanceOf_deliverAll about]
  apply congrArg (Option.map · _)
  funext balance
  cases standing : payment.standing with
  | uncredited =>
    rw [standing_eq_uncredited.mp standing] at settled
    cases settled
  | credited =>
    simp [Standing.moveAll_credited, same.mem_iff]
  | done =>
    simp [Standing.moveAll_done]

def samplePayment : Payment where
  paymentId := .topup 1
  moyasarId := some 2
  renterId := 7
  amountHalala := 10000
  status := .pending
  sourceType := .creditcard
  createdAt := 0
  confirmedAt := none
  refundedAt := none
  refundAmountHalala := none

def sampleCharge : Charge where
  id := 3
  invoiceId := some 2
  renterId := 7
  amountHalala := 10000
  carriesRenter := true
  status := .refunded

def sampleDatabase : Database :=
  { sampleStart.db with
    payments := Table.empty.insertIfNew samplePayment }

theorem sampleCharge_aboutRow :
    AboutRow sampleDatabase sampleCharge samplePayment where
  located := by decide
  distinct := by
    intro key other row otherRow id found otherFound _ _
    have alone (any : PaymentKey) (stored : Payment)
        (anyFound : sampleDatabase.payments.lookup any = some stored) :
        any = samplePayment.paymentId := by
      have member := lookup_mem anyFound
      have only : sampleDatabase.payments.rows = [samplePayment] := by
        decide
      rw [only, mem_singleton] at member
      rw [← lookup_key anyFound, member]
    exact (alone key row found).trans (alone other otherRow otherFound).symm
  dated := fun _ => rfl

def refundedTopup : List TopupAction :=
  [.topup 1 7 10000 .creditcard 2 0, .attempt 2 3 true, .settle 3 true, .refund 3]

end DcpPlatform.Topups
