import DcpPlatform.Foundation.Transition
import DcpPlatform.Refunds.Requests

/-!
# A payment is refunded once

A payment has at most one open request, so at most one refund is made of it.
An event that reports a refund before its call returns leaves the request in
processing, and a renter who has spent the credit loses only what is left of
it.
-/

namespace DcpPlatform.Refunds

open Foundation Table List Option

def refundsOf (system : System) (paymentId : String) : List Refund :=
  system.refunds.filter (fun refund => refund.paymentId = paymentId)

def deductionsOf (store : Store) (paymentId : String) : List Deduction :=
  store.deductions.filter (fun deduction =>
    deduction.paymentId = paymentId)

def IsHeld (system : System) (payment : Payment) : Prop :=
  (externalIdToCall system.gatewayConfigured payment).isSome = true

/-- At most one refund is made of a payment and never of more than its
amount, by the gateway exactly where it holds the payment; a request is
approved when the refund was made and stays in processing no longer than its
call; and a balance loses what was refunded. -/
structure RefundedOnce (system : System) : Prop where
  once : ∀ paymentId, (refundsOf system paymentId).length ≤ 1
  within : ∀ refund ∈ system.refunds, ∃ payment,
    system.store.payments.lookup refund.paymentId = some payment ∧
      refund.amountHalala ≤ payment.amountHalala ∧
      (refund.channel = .moyasar ↔ IsHeld system payment)
  approved : ∀ requestId request, system.store.requests.lookup requestId = some request →
    system.calls.lookup requestId = none →
    (request.status = .approved ↔ ∃ refund ∈ system.refunds, refund.requestId = requestId)
  idle : ∀ requestId request, system.store.requests.lookup requestId = some request →
    request.status = .processing → (system.calls.lookup requestId).isSome = true
  exact : ∀ paymentId, (∀ call ∈ system.calls.rows, call.paymentId ≠ paymentId) →
    (deductionsOf system.store paymentId).map Deduction.amountHalala =
      (refundsOf system paymentId).map Refund.amountHalala

def Covers (store : Store) (renterId : Nat) (amountHalala : Int) : Prop :=
  ∃ renter ∈ store.renters.lookup renterId, amountHalala ≤ renter.balanceHalala
deriving Decidable

def GatewayAnswer.isRefund : GatewayAnswer → Bool
  | .refunded _ => true
  | .failed _ => false

/-- An event comes after the call of its payment has returned, and a balance
covers a refund when it is recorded. -/
def Undisturbed (system : System) : RefundAction → Prop
  | .webhookRefunded paymentId _ _ =>
    ∀ call ∈ system.calls.rows, call.paymentId ≠ paymentId
  | .resumeApproval requestId =>
    ∀ call ∈ system.calls.lookup requestId, call.answer.any GatewayAnswer.isRefund = true →
      Covers system.store call.renterId call.amountHalala
  | .approve requestId _ _ _ =>
    ∀ request ∈ system.store.requests.lookup requestId, request.status = .pending →
      ∀ payment ∈ system.store.payments.lookup request.paymentId, payment.IsRefundable →
        externalIdToCall system.gatewayConfigured payment = none →
        Covers system.store request.renterId request.amountHalala
  | _ => True

instance (system : System) : DecidablePred (Undisturbed system) := by
  intro action
  unfold Undisturbed
  split <;> infer_instance

structure Called (system : System) (call : ApproveCall) : Prop where
  request : ∃ request, system.store.requests.lookup call.requestId = some request ∧
    request.status = .processing ∧
    request.paymentId = call.paymentId ∧ request.amountHalala = call.amountHalala
  payment : ∃ payment, system.store.payments.lookup call.paymentId = some payment ∧
    payment.IsRefundable ∧ call.amountHalala ≤ payment.amountHalala ∧ IsHeld system payment
  made : refundsOf system call.paymentId = madeBy call
  unrecorded : deductionsOf system.store call.paymentId = []

structure Filed (system : System) (request : RefundRequest) : Prop where
  payment : ∃ payment, system.store.payments.lookup request.paymentId = some payment ∧
    request.amountHalala ≤ payment.amountHalala
  processing : request.status = .processing ↔ (system.calls.lookup request.id).isSome = true
  approved : system.calls.lookup request.id = none →
    (request.status = .approved ↔ ∃ refund ∈ system.refunds, refund.requestId = request.id)

structure Made (system : System) (refund : Refund) : Prop where
  request : ∃ request, system.store.requests.lookup refund.requestId = some request ∧
    request.paymentId = refund.paymentId
  payment : ∃ payment, system.store.payments.lookup refund.paymentId = some payment ∧
    refund.amountHalala ≤ payment.amountHalala ∧
    (refund.channel = .moyasar ↔ IsHeld system payment)

structure Settled (system : System) (paymentId : String) : Prop where
  exact : (deductionsOf system.store paymentId).map Deduction.amountHalala =
    (refundsOf system paymentId).map Refund.amountHalala
  once : (refundsOf system paymentId).length ≤ 1
  closed : refundsOf system paymentId ≠ [] →
    ∀ payment, system.store.payments.lookup paymentId = some payment → payment.status = .refunded

structure Orderly (system : System) : Prop where
  calls : ∀ requestId call, system.calls.lookup requestId = some call → Called system call
  requests : ∀ requestId request,
    system.store.requests.lookup requestId = some request → Filed system request
  oneOpen : ∀ firstId secondId first second, system.store.requests.lookup firstId = some first →
    system.store.requests.lookup secondId = some second →
    first.IsOpen → second.IsOpen →
    first.paymentId = second.paymentId → firstId = secondId
  refunds : ∀ refund ∈ system.refunds, Made system refund
  settled : ∀ paymentId, (∀ requestId call,
    system.calls.lookup requestId = some call → call.paymentId ≠ paymentId) →
    Settled system paymentId

variable {system : System}

theorem Orderly.oneCall (orderly : Orderly system)
    {firstId secondId : String} {first second : ApproveCall}
    (firstFound : system.calls.lookup firstId = some first)
    (secondFound : system.calls.lookup secondId = some second)
    (same : first.paymentId = second.paymentId) : firstId = secondId := by
  obtain ⟨firstRow, firstStored, firstStatus, firstPayment, _⟩ :=
    (orderly.calls firstId first firstFound).request
  obtain ⟨secondRow, secondStored, secondStatus, secondPayment, _⟩ :=
    (orderly.calls secondId second secondFound).request
  rw [lookup_key firstFound] at firstStored
  rw [lookup_key secondFound] at secondStored
  exact orderly.oneOpen firstId secondId firstRow secondRow firstStored
    secondStored (Or.inr firstStatus) (Or.inr secondStatus)
    (firstPayment.trans (same.trans secondPayment.symm))

theorem Orderly.refundedOnce (orderly : Orderly system) : RefundedOnce system where
  once := by
    intro paymentId
    by_cases waiting :
      ∃ requestId call, system.calls.lookup requestId = some call ∧ call.paymentId = paymentId
    · obtain ⟨requestId, call, found, same⟩ := waiting
      rw [← same, (orderly.calls requestId call found).made]
      unfold madeBy
      split <;> simp
    · exact (orderly.settled paymentId (fun requestId call found same =>
        waiting ⟨requestId, call, found, same⟩)).once
  within := by
    intro refund member
    exact (orderly.refunds refund member).payment
  approved := by
    intro requestId request found idle
    have filed := orderly.requests requestId request found
    have key := lookup_key found
    rw [← key] at idle ⊢
    exact filed.approved idle
  idle := by
    intro requestId request found processing
    have filed := orderly.requests requestId request found
    have key := lookup_key found
    rw [← key]
    exact filed.processing.mp processing
  exact := by
    intro paymentId idle
    refine (orderly.settled paymentId ?_).exact
    intro requestId call found
    exact idle call (lookup_mem found)

structure PaymentsLater (before after : Table Payment Payment.paymentId) :
    Prop where
  forward : ∀ paymentId payment, before.lookup paymentId = some payment →
    ∃ later, after.lookup paymentId = some later ∧
      later.amountHalala = payment.amountHalala ∧ (∀ configured,
        externalIdToCall configured later = externalIdToCall configured payment) ∧
        (payment.IsRefundable → later.IsRefundable) ∧
        (payment.status = .refunded → later.status = .refunded)
  backward : ∀ paymentId later,
    after.lookup paymentId = some later → ∃ payment, before.lookup paymentId = some payment

theorem PaymentsLater.of_same {before after : System}
    (same : after.store.payments = before.store.payments) :
    PaymentsLater before.store.payments after.store.payments where
  forward := by
    intro paymentId payment found
    rw [same]
    exact ⟨payment, found, rfl, fun _ => rfl, id, id⟩
  backward := by
    intro paymentId later found
    rw [same] at found
    exact ⟨later, found⟩

variable {payment later : Payment}

theorem PaymentsLater.of_replaced {before after : Table Payment Payment.paymentId}
    (replaced : Table.Replaces before after payment later)
    (amount : later.amountHalala = payment.amountHalala)
    (external :
      ∀ configured, externalIdToCall configured later = externalIdToCall configured payment)
    (refundable : payment.IsRefundable → later.IsRefundable)
    (refunded : payment.status = .refunded → later.status = .refunded) :
    PaymentsLater before after where
  forward := by
    intro paymentId other found
    rw [replaced.lookup]
    by_cases here : paymentId = payment.paymentId
    · rw [here, replaced.found] at found
      cases found
      exact ⟨later, if_pos here, amount, external, refundable, refunded⟩
    · exact ⟨other, by rw [if_neg here]; exact found, rfl, fun _ => rfl, id, id⟩
  backward := by
    intro paymentId other found
    rw [replaced.lookup] at found
    by_cases here : paymentId = payment.paymentId
    · rw [here]
      exact ⟨payment, replaced.found⟩
    · rw [if_neg here] at found
      exact ⟨other, found⟩

structure SameBooks (before after : System) : Prop where
  configured : after.gatewayConfigured = before.gatewayConfigured
  requests : after.store.requests = before.store.requests
  calls : after.calls = before.calls
  refunds : after.refunds = before.refunds
  deductions : after.store.deductions = before.store.deductions

variable {before after : System}

theorem isHeld_congr (configured : after.gatewayConfigured = before.gatewayConfigured) (external :
    ∀ configured, externalIdToCall configured later = externalIdToCall configured payment) :
    IsHeld after later ↔ IsHeld before payment := by
  unfold IsHeld
  rw [configured, external]

theorem Orderly.of_payments (orderly : Orderly before) (same : SameBooks before after)
    (payments : PaymentsLater before.store.payments after.store.payments) :
    Orderly after where
  calls := by
    intro requestId call found
    rw [same.calls] at found
    have called := orderly.calls requestId call found
    obtain ⟨payment, paymentFound, refundable, within, held⟩ := called.payment
    obtain ⟨later, laterFound, amount, external, keeps, _⟩ :=
      payments.forward _ payment paymentFound
    refine ⟨?_, ⟨later, laterFound, keeps refundable, ?_, ?_⟩, ?_, ?_⟩
    · rw [same.requests]
      exact called.request
    · rw [amount]
      exact within
    · exact (isHeld_congr same.configured external).mpr held
    · unfold refundsOf
      rw [same.refunds]
      exact called.made
    · unfold deductionsOf
      rw [same.deductions]
      exact called.unrecorded
  requests := by
    intro requestId request found
    rw [same.requests] at found
    have filed := orderly.requests requestId request found
    obtain ⟨payment, paymentFound, within⟩ := filed.payment
    obtain ⟨later, laterFound, amount, _⟩ := payments.forward _ payment paymentFound
    refine ⟨⟨later, laterFound, ?_⟩, ?_, ?_⟩
    · rw [amount]
      exact within
    · rw [same.calls]
      exact filed.processing
    · rw [same.calls, same.refunds]
      exact filed.approved
  oneOpen := by
    rw [same.requests]
    exact orderly.oneOpen
  refunds := by
    intro refund member
    rw [same.refunds] at member
    have made := orderly.refunds refund member
    obtain ⟨payment, paymentFound, within, channel⟩ := made.payment
    obtain ⟨later, laterFound, amount, external, _⟩ := payments.forward _ payment paymentFound
    refine ⟨?_, later, laterFound, ?_, ?_⟩
    · rw [same.requests]
      exact made.request
    · rw [amount]
      exact within
    · exact channel.trans (isHeld_congr same.configured external).symm
  settled := by
    intro paymentId idle
    rw [same.calls] at idle
    have settled := orderly.settled paymentId idle
    have made : refundsOf after paymentId = refundsOf before paymentId := by
      unfold refundsOf
      rw [same.refunds]
    have deducted : deductionsOf after.store paymentId = deductionsOf before.store paymentId := by
      unfold deductionsOf
      rw [same.deductions]
    refine ⟨?_, ?_, ?_⟩
    · rw [made, deducted]
      exact settled.exact
    · rw [made]
      exact settled.once
    · rw [made]
      intro some later laterFound
      obtain ⟨payment, paymentFound⟩ := payments.backward paymentId later laterFound
      have refunded := settled.closed some payment paymentFound
      obtain ⟨other, otherFound, _, _, _, keeps⟩ := payments.forward paymentId payment paymentFound
      rw [laterFound] at otherFound
      cases otherFound
      exact keeps refunded

theorem webhookPaid_orderly (orderly : Orderly system) (paymentId : String) (now : Int) :
    Orderly { system with store := webhookPaid system.store paymentId now } := by
  unfold webhookPaid
  cases found : system.store.payments.lookup paymentId with
  | none => exact orderly
  | some payment =>
    have key := lookup_key found
    subst key
    dsimp only
    split
    · exact orderly
    · unfold Store.markPaymentPaidOnce
      split
      · rename_i changes
        obtain ⟨row, rowFound, creditable⟩ := changes
        rw [found] at rowFound
        cases rowFound
        rw [updateWhere_of_met (Payment.setPaid_paymentId now) found creditable]
        refine orderly.of_payments ⟨rfl, rfl, rfl, rfl, rfl⟩ ?_
        apply PaymentsLater.of_replaced (replaces_update found (Payment.setPaid now)
          (Payment.setPaid_paymentId now)) rfl (fun _ => rfl)
        · intro refundable
          rw [Payment.IsCreditable, refundable.1] at creditable
          cases creditable
        · intro refunded
          rw [Payment.IsCreditable, refunded] at creditable
          cases creditable
      · exact orderly

variable {amountHalala : Int} {store : Store} {renterId : Nat}

theorem spend_orderly (orderly : Orderly system)
    (spent : spend system.store renterId amountHalala = some store) :
    Orderly { system with store := store } := by
  unfold spend at spent
  split at spent
  · cases spent
  · split at spent
    · obtain rfl := some.inj spent
      exact orderly.of_payments ⟨rfl, rfl, rfl, rfl, rfl⟩ (PaymentsLater.of_same rfl)
    · cases spent

theorem toFiniteInt_le {value : ℚ} {least most amount : Int}
    (parsed : toFiniteInt value least most = some amount) :
    amount ≤ most := by
  unfold toFiniteInt at parsed
  by_cases within : (least : ℚ) ≤ value ∧ value ≤ most ∧ value.den = 1
  · rw [if_pos within] at parsed
    injection parsed with same
    have bound := within.2.1
    rw [← Rat.coe_int_num_of_den_eq_one within.2.2, same] at bound
    exact_mod_cast bound
  · rw [if_neg within] at parsed
    cases parsed

theorem requestedAmount_le {given : Option ℚ}
    (requested : requestedAmount payment given = some amountHalala) :
    amountHalala ≤ payment.amountHalala := by
  cases given with
  | none =>
    injection requested with same
    exact le_of_eq same.symm
  | some value => exact toFiniteInt_le requested

variable {body : RefundBody} {now : Int}

theorem requestRefund_eq_ok {store after : Store}
    (asked : requestRefund store body now = .ok after) :
    ∃ payment amount, store.payments.lookup payment.paymentId = some payment ∧
      amount ≤ payment.amountHalala ∧ openRequest store payment.paymentId = none ∧ after =
        { store with
          requests := store.requests.insertIfNew (requestRow body payment amount now) } := by
  obtain ⟨_, asked⟩ := require_bind_eq_ok_iff.mp asked
  obtain ⟨_, asked⟩ := require_bind_eq_ok_iff.mp asked
  obtain ⟨payment, found, asked⟩ := bind_eq_ok_iff.mp asked
  obtain ⟨_, asked⟩ := require_bind_eq_ok_iff.mp asked
  obtain ⟨_, asked⟩ := require_bind_eq_ok_iff.mp asked
  obtain ⟨amount, requested, asked⟩ := bind_eq_ok_iff.mp asked
  have stored := mem_of_find?_eq_some (orFail_eq_ok_iff.mp found)
  split at asked
  · cases asked
  · rename_i unopened
    obtain ⟨_, asked⟩ := require_bind_eq_ok_iff.mp asked
    injection asked with same
    exact ⟨payment, amount, lookup_of_mem stored,
      requestedAmount_le (orFail_eq_ok_iff.mp requested), unopened,
      same.symm⟩

variable {requestId : String}

theorem not_isOpen_of_openRequest {paymentId : String}
    (unopened : openRequest store paymentId = none) {request : RefundRequest}
    (found : store.requests.lookup requestId = some request)
    (same : request.paymentId = paymentId) : ¬ request.IsOpen := by
  intro opens
  have checked := find?_eq_none.mp unopened request (lookup_mem found)
  exact checked (decide_eq_true ⟨same, opens⟩)

theorem requestRefund_orderly (orderly : Orderly system)
    (asked : requestRefund system.store body now = .ok store) :
    Orderly { system with store := store } := by
  obtain ⟨payment, amount, paymentFound, within, unopened, rfl⟩ := requestRefund_eq_ok asked
  cases taken : system.store.requests.lookup (requestRow body payment amount now).id with
  | some other =>
    rw [insertIfNew_of_taken taken]
    exact orderly
  | none =>
    rw [insertIfNew_of_fresh taken]
    have kept {requestId : String} {request : RefundRequest}
        (found : system.store.requests.lookup requestId = some request) :
        (system.store.requests.insert
          (requestRow body payment amount now) taken).lookup requestId = some request :=
      lookup_insert_of_some system.store.requests taken found
    have origin {requestId : String} {request : RefundRequest} (found :
        (system.store.requests.insert
          (requestRow body payment amount now) taken).lookup requestId = some request) :
        requestId = (requestRow body payment amount now).id ∧
          request = requestRow body payment amount now ∨
          system.store.requests.lookup requestId = some request := by
      rw [lookup_insert] at found
      split at found
      · rename_i here
        injection found with same
        exact Or.inl ⟨here.symm, same.symm⟩
      · exact Or.inr found
    refine ⟨?_, ?_, ?_, ?_, ?_⟩
    · intro requestId call found
      have called := orderly.calls requestId call found
      obtain ⟨request, stored, rest⟩ := called.request
      exact ⟨⟨request, kept stored, rest⟩, called.payment, called.made, called.unrecorded⟩
    · intro requestId request found
      rcases origin found with ⟨_, rfl⟩ | old
      · have uncalled : system.calls.lookup (requestRow body payment amount now).id =
            none := by
          cases called : system.calls.lookup (requestRow body payment amount now).id with
          | none => rfl
          | some call =>
            obtain ⟨row, stored, _⟩ := (orderly.calls _ call called).request
            rw [lookup_key called, taken] at stored
            cases stored
        refine ⟨⟨payment, paymentFound, within⟩, ?_, ?_⟩
        · rw [uncalled]
          constructor
          · intro processing
            cases processing
          · intro some
            cases some
        · intro _
          constructor
          · intro approved
            cases approved
          · rintro ⟨refund, member, same⟩
            obtain ⟨row, stored, _⟩ := (orderly.refunds refund member).request
            rw [same, taken] at stored
            cases stored
      · have filed := orderly.requests requestId request old
        exact ⟨filed.payment, filed.processing, filed.approved⟩
    · intro firstId secondId first second firstFound secondFound firstOpen secondOpen same
      rcases origin firstFound with ⟨firstHere, rfl⟩ | firstOld
      · rcases origin secondFound with ⟨secondHere, _⟩ | secondOld
        · rw [firstHere, secondHere]
        · exact absurd secondOpen (not_isOpen_of_openRequest unopened secondOld same.symm)
      · rcases origin secondFound with ⟨_, rfl⟩ | secondOld
        · exact absurd firstOpen (not_isOpen_of_openRequest unopened firstOld same)
        · exact orderly.oneOpen firstId secondId first second firstOld
            secondOld firstOpen secondOpen same
    · intro refund member
      have made := orderly.refunds refund member
      obtain ⟨request, stored, same⟩ := made.request
      exact ⟨⟨request, kept stored, same⟩, made.payment⟩
    · intro paymentId idle
      have settled := orderly.settled paymentId idle
      exact ⟨settled.exact, settled.once, settled.closed⟩

/-! ## Reviews -/

structure Moves (before after : System) (request later : RefundRequest) :
    Prop where
  configured : after.gatewayConfigured = before.gatewayConfigured
  replaced : Table.Replaces before.store.requests after.store.requests request later
  sameId : later.id = request.id
  paymentId : later.paymentId = request.paymentId
  amount : later.amountHalala = request.amountHalala
  stillOpen : later.IsOpen → request.IsOpen

namespace Moves

variable {before after : System} {request later : RefundRequest} {requestId : String}
    {row : RefundRequest}

variable (moves : Moves before after request later)

include moves

theorem origin (found : after.store.requests.lookup requestId = some row) :
    (requestId = request.id ∧ row = later) ∨
      requestId ≠ request.id ∧ before.store.requests.lookup requestId = some row := by
  rw [moves.replaced.lookup] at found
  by_cases here : requestId = request.id
  · rw [if_pos here] at found
    injection found with same
    exact Or.inl ⟨here, same.symm⟩
  · rw [if_neg here] at found
    exact Or.inr ⟨here, found⟩

theorem others (different : requestId ≠ request.id) :
    after.store.requests.lookup requestId = before.store.requests.lookup requestId := by
  rw [moves.replaced.lookup, if_neg different]

theorem here :
    after.store.requests.lookup request.id = some later := by
  rw [moves.replaced.lookup, if_pos rfl]

theorem before_of (found : after.store.requests.lookup requestId = some row) :
    ∃ earlier, before.store.requests.lookup requestId = some earlier ∧
      earlier.paymentId = row.paymentId ∧ (row.IsOpen → earlier.IsOpen) := by
  rcases moves.origin found with ⟨same, rfl⟩ | ⟨_, old⟩
  · rw [same]
    exact ⟨request, moves.replaced.found, moves.paymentId.symm, moves.stillOpen⟩
  · exact ⟨row, old, rfl, id⟩

theorem oneOpen (orderly : Orderly before) {firstId secondId : String}
    {first second : RefundRequest}
    (firstFound : after.store.requests.lookup firstId = some first)
    (secondFound : after.store.requests.lookup secondId = some second)
    (firstOpen : first.IsOpen) (secondOpen : second.IsOpen)
    (same : first.paymentId = second.paymentId) : firstId = secondId := by
  obtain ⟨firstRow, firstStored, firstPayment, firstWas⟩ := moves.before_of firstFound
  obtain ⟨secondRow, secondStored, secondPayment, secondWas⟩ := moves.before_of secondFound
  exact orderly.oneOpen firstId secondId firstRow secondRow firstStored
    secondStored (firstWas firstOpen) (secondWas secondOpen)
    (firstPayment.trans (same.trans secondPayment.symm))

theorem requestOf {requestId paymentId : String} (stored :
      ∃ row, before.store.requests.lookup requestId = some row ∧ row.paymentId = paymentId) :
    ∃ row, after.store.requests.lookup requestId = some row ∧ row.paymentId = paymentId := by
  obtain ⟨row, found, same⟩ := stored
  by_cases here : requestId = request.id
  · rw [here, moves.replaced.found] at found
    cases found
    rw [here]
    exact ⟨later, moves.here, moves.paymentId.trans same⟩
  · exact ⟨row, (moves.others here).trans found, same⟩

end Moves

structure SameMoney (before after : System) : Prop where
  payments : after.store.payments = before.store.payments
  deductions : after.store.deductions = before.store.deductions
  refunds : after.refunds = before.refunds

namespace SameMoney

variable {before after : System}

theorem refundsOf (same : SameMoney before after) (paymentId : String) :
    refundsOf after paymentId = Refunds.refundsOf before paymentId := by
  unfold Refunds.refundsOf
  rw [same.refunds]

theorem deductionsOf (same : SameMoney before after) (paymentId : String) :
    deductionsOf after.store paymentId = Refunds.deductionsOf before.store paymentId := by
  unfold Refunds.deductionsOf
  rw [same.deductions]

theorem settled (same : SameMoney before after) {paymentId : String}
    (settled : Settled before paymentId) : Settled after paymentId := by
  refine ⟨?_, ?_, ?_⟩
  · rw [same.refundsOf, same.deductionsOf]
    exact settled.exact
  · rw [same.refundsOf]
    exact settled.once
  · rw [same.refundsOf, same.payments]
    exact settled.closed

theorem isHeld (configured :
    after.gatewayConfigured = before.gatewayConfigured)
    (payment : Payment) : IsHeld after payment ↔ IsHeld before payment :=
  isHeld_congr configured (fun _ => rfl)

theorem called (same : SameMoney before after)
    (configured : after.gatewayConfigured = before.gatewayConfigured)
    {call : ApproveCall} (called : Called before call)
    (kept :
      after.store.requests.lookup call.requestId = before.store.requests.lookup call.requestId) :
    Called after call := by
  obtain ⟨payment, found, refundable, within, held⟩ := called.payment
  refine ⟨?_, ⟨payment, ?_, refundable, within, ?_⟩, ?_, ?_⟩
  · rw [kept]
    exact called.request
  · rw [same.payments]
    exact found
  · exact (isHeld configured payment).mpr held
  · rw [same.refundsOf]
    exact called.made
  · rw [same.deductionsOf]
    exact called.unrecorded

theorem made (same : SameMoney before after) {request later : RefundRequest}
    (moves : Moves before after request later) {refund : Refund}
    (made : Made before refund) : Made after refund := by
  obtain ⟨payment, found, within, channel⟩ := made.payment
  refine ⟨moves.requestOf made.request, payment, ?_, within, ?_⟩
  · rw [same.payments]
    exact found
  · exact channel.trans (isHeld moves.configured payment).symm

end SameMoney

section Reviews

variable {before after : System} {request later : RefundRequest}

theorem Filed.moved (filed : Filed before request)
    (payments : after.store.payments = before.store.payments)
    (moves : Moves before after request later)
    (processing : later.status = .processing ↔ (after.calls.lookup later.id).isSome = true)
    (approved : after.calls.lookup later.id = none →
      (later.status = .approved ↔ ∃ refund ∈ after.refunds, refund.requestId = later.id)) :
    Filed after later := by
  obtain ⟨payment, found, within⟩ := filed.payment
  refine ⟨⟨payment, ?_, ?_⟩, processing, approved⟩
  · rw [moves.paymentId, payments]
    exact found
  · rw [moves.amount]
    exact within

theorem Filed.kept {row : RefundRequest} (filed : Filed before row) (same : SameMoney before after)
    (calls : after.calls.lookup row.id = before.calls.lookup row.id) :
    Filed after row := by
  refine ⟨?_, ?_, ?_⟩
  · rw [same.payments]
    exact filed.payment
  · rw [calls]
    exact filed.processing
  · rw [calls, same.refunds]
    exact filed.approved

theorem Orderly.released (orderly : Orderly before)
    (moves : Moves before after request later) (same : SameMoney before after)
    (status : later.status = .pending ∨ later.status = .rejected)
    (calls : ∀ requestId, after.calls.lookup requestId =
      if requestId = request.id then none
      else before.calls.lookup requestId)
    (unmade : ∀ refund ∈ before.refunds, refund.requestId ≠ request.id)
    (nothing : ∀ call, before.calls.lookup request.id = some call → madeBy call = []) :
    Orderly after where
  calls := by
    intro requestId call found
    rw [calls] at found
    by_cases here : requestId = request.id
    · rw [if_pos here] at found
      cases found
    · rw [if_neg here] at found
      have key := lookup_key found
      apply same.called moves.configured (orderly.calls requestId call found)
      rw [key]
      exact moves.others here
  requests := by
    intro requestId row found
    rcases moves.origin found with ⟨_, rfl⟩ | ⟨different, old⟩
    · have uncalled : after.calls.lookup row.id = none := by
        rw [calls, moves.sameId, if_pos rfl]
      apply (orderly.requests request.id request moves.replaced.found).moved same.payments moves
      · rw [uncalled]
        rcases status with status | status
        all_goals
          rw [status]
          decide
      · intro _
        constructor
        · intro approved
          rw [approved] at status
          rcases status with status | status <;> cases status
        · rintro ⟨refund, member, ofRequest⟩
          rw [same.refunds] at member
          exact absurd (ofRequest.trans moves.sameId) (unmade refund member)
    · have key := lookup_key old
      apply (orderly.requests requestId row old).kept same
      rw [calls, key, if_neg different]
  oneOpen := by
    intro firstId secondId first second firstFound secondFound firstOpen secondOpen samePayment
    exact moves.oneOpen orderly firstFound secondFound firstOpen secondOpen samePayment
  refunds := by
    intro refund member
    rw [same.refunds] at member
    exact same.made moves (orderly.refunds refund member)
  settled := by
    intro paymentId idle
    apply same.settled
    by_cases own : ∃ call, before.calls.lookup request.id = some call ∧ call.paymentId = paymentId
    · obtain ⟨call, found, ofPayment⟩ := own
      have called := orderly.calls request.id call found
      have made := called.made
      have unrecorded := called.unrecorded
      rw [nothing call found, ofPayment] at made
      rw [ofPayment] at unrecorded
      refine ⟨?_, ?_, ?_⟩
      · rw [made, unrecorded]
        rfl
      · rw [made]
        exact Nat.zero_le 1
      · intro some
        exact absurd made some
    · apply orderly.settled
      intro requestId call found ofPayment
      by_cases here : requestId = request.id
      · rw [here] at found
        exact own ⟨call, found, ofPayment⟩
      · apply idle requestId call _ ofPayment
        rw [calls, if_neg here]
        exact found

variable {payment : Payment}

theorem Orderly.uncalled (orderly : Orderly before)
    (found : before.store.requests.lookup request.id = some request)
    (pending : request.status = .pending)
    (paymentFound : before.store.payments.lookup request.paymentId = some payment)
    (refundable : payment.IsRefundable) :
    before.calls.lookup request.id = none ∧ (∀ requestId call,
      before.calls.lookup requestId = some call → call.paymentId ≠ request.paymentId) ∧
      refundsOf before request.paymentId = [] ∧
      deductionsOf before.store request.paymentId = [] := by
  have filed := orderly.requests request.id request found
  have idle : before.calls.lookup request.id = none := by
    cases called : before.calls.lookup request.id with
    | none => rfl
    | some call =>
      have processing := filed.processing.mpr (by rw [called]; rfl)
      rw [pending] at processing
      cases processing
  have alone (requestId : String) (call : ApproveCall)
      (called : before.calls.lookup requestId = some call) :
      call.paymentId ≠ request.paymentId := by
    intro same
    obtain ⟨row, stored, processing, ofPayment, _⟩ := (orderly.calls requestId call called).request
    rw [lookup_key called] at stored
    have equal := orderly.oneOpen requestId request.id row request stored found
        (Or.inr processing) (Or.inl pending) (ofPayment.trans same)
    rw [equal, idle] at called
    cases called
  have settled := orderly.settled request.paymentId alone
  have unmade : refundsOf before request.paymentId = [] := by
    by_contra made
    have refunded := settled.closed made payment paymentFound
    rw [refundable.1] at refunded
    cases refunded
  refine ⟨idle, alone, unmade, ?_⟩
  have exact_ := settled.exact
  rw [unmade] at exact_
  exact map_eq_nil_iff.mp exact_

theorem Orderly.claimed (orderly : Orderly before)
    (moves : Moves before after request later) (same : SameMoney before after)
    (pending : request.status = .pending) (status : later.status = .processing)
    (paymentFound : before.store.payments.lookup request.paymentId = some payment)
    (refundable : payment.IsRefundable)
    (held : IsHeld before payment) {call : ApproveCall}
    (calls : ∀ requestId, after.calls.lookup requestId =
      if requestId = request.id then some call
      else before.calls.lookup requestId)
    (ofRequest : call.requestId = request.id)
    (ofPayment : call.paymentId = request.paymentId)
    (amount : call.amountHalala = request.amountHalala)
    (unanswered : call.answer = none) : Orderly after := by
  have found := moves.replaced.found
  obtain ⟨idle, alone, unmade, undeducted⟩ := orderly.uncalled found pending paymentFound refundable
  have filed := orderly.requests request.id request found
  refine ⟨?_, ?_, ?_, ?_, ?_⟩
  · intro requestId other otherFound
    rw [calls] at otherFound
    by_cases here : requestId = request.id
    · rw [if_pos here] at otherFound
      cases otherFound
      obtain ⟨row, rowFound, within⟩ := filed.payment
      rw [paymentFound] at rowFound
      cases rowFound
      refine ⟨⟨later, ?_, status, ?_, ?_⟩, ⟨payment, ?_, refundable, ?_, ?_⟩, ?_, ?_⟩
      · rw [ofRequest]
        exact moves.here
      · rw [ofPayment]
        exact moves.paymentId
      · rw [amount]
        exact moves.amount
      · rw [same.payments, ofPayment]
        exact paymentFound
      · rw [amount]
        exact within
      · exact (SameMoney.isHeld moves.configured payment).mpr held
      · rw [same.refundsOf, ofPayment, unmade, madeBy, unanswered]
      · rw [same.deductionsOf, ofPayment]
        exact undeducted
    · rw [if_neg here] at otherFound
      have key := lookup_key otherFound
      apply same.called moves.configured (orderly.calls requestId other otherFound)
      rw [key]
      exact moves.others here
  · intro requestId row rowFound
    rcases moves.origin rowFound with ⟨_, rfl⟩ | ⟨different, old⟩
    · apply filed.moved same.payments moves
      · rw [status, calls, moves.sameId, if_pos rfl]
        exact ⟨fun _ => rfl, fun _ => rfl⟩
      · intro uncalled
        rw [calls, moves.sameId, if_pos rfl] at uncalled
        cases uncalled
    · have key := lookup_key old
      apply (orderly.requests requestId row old).kept same
      rw [calls, key, if_neg different]
  · intro firstId secondId first second firstFound secondFound firstOpen secondOpen samePayment
    exact moves.oneOpen orderly firstFound secondFound firstOpen secondOpen samePayment
  · intro refund member
    rw [same.refunds] at member
    exact same.made moves (orderly.refunds refund member)
  · intro paymentId quiet
    apply same.settled
    apply orderly.settled
    intro requestId other otherFound
    have different : requestId ≠ request.id := by
      intro here
      rw [here, idle] at otherFound
      cases otherFound
    apply quiet requestId other
    rw [calls, if_neg different]
    exact otherFound

theorem mem_refundsOf {system : System} {refund : Refund} :
    refund ∈ system.refunds ↔ refund ∈ refundsOf system refund.paymentId := by
  rw [refundsOf, mem_filter]
  exact ⟨fun member => ⟨member, decide_eq_true rfl⟩, fun both => both.1⟩

structure Finishes (before after : System) (request later : RefundRequest)
    (payment : Payment) (refund : Refund) : Prop where
  moves : Moves before after request later
  status : later.status = .approved
  paymentFound : before.store.payments.lookup request.paymentId = some payment
  payments : ∃ now, Table.Replaces before.store.payments after.store.payments payment
    (payment.setRefunded request.amountHalala now)
  deductions :
    after.store.deductions = before.store.deductions ++ [⟨request.paymentId, request.amountHalala⟩]
  undeducted : deductionsOf before.store request.paymentId = []
  alone : ∀ requestId call, before.calls.lookup requestId = some call →
    call.paymentId = request.paymentId → requestId = request.id
  calls : ∀ requestId, after.calls.lookup requestId =
    if requestId = request.id then none
    else before.calls.lookup requestId
  ofRequest : refund.requestId = request.id
  ofPayment : refund.paymentId = request.paymentId
  amount : refund.amountHalala = request.amountHalala
  channel : refund.channel = .moyasar ↔ IsHeld before payment
  only : ∀ other ∈ refundsOf before request.paymentId, other = refund
  made : ∀ paymentId, refundsOf after paymentId =
    if paymentId = request.paymentId then [refund]
    else refundsOf before paymentId

namespace Finishes

variable {payment : Payment} {refund : Refund} {paymentId : String}

variable (finishes : Finishes before after request later payment refund)

include finishes

theorem paymentLater {row : Payment} (found : before.store.payments.lookup paymentId = some row) :
    ∃ laterRow, after.store.payments.lookup paymentId = some laterRow ∧
      laterRow.amountHalala = row.amountHalala ∧ (IsHeld after laterRow ↔ IsHeld before row) := by
  obtain ⟨now, payments⟩ := finishes.payments
  rw [payments.lookup]
  by_cases here : paymentId = payment.paymentId
  · rw [here, payments.found] at found
    cases found
    exact ⟨_, if_pos here, rfl, isHeld_congr finishes.moves.configured (fun _ => rfl)⟩
  · exact ⟨row, by rw [if_neg here]; exact found, rfl,
      SameMoney.isHeld finishes.moves.configured row⟩

theorem paymentOthers (different : paymentId ≠ request.paymentId) :
    after.store.payments.lookup paymentId = before.store.payments.lookup paymentId := by
  obtain ⟨now, payments⟩ := finishes.payments
  have key := lookup_key finishes.paymentFound
  rw [payments.lookup, key, if_neg different]

theorem deductionsOthers (different : paymentId ≠ request.paymentId) :
    deductionsOf after.store paymentId = deductionsOf before.store paymentId := by
  unfold deductionsOf
  rw [finishes.deductions, filter_append]
  have skipped : filter (fun deduction : Deduction =>
      deduction.paymentId = paymentId) [⟨request.paymentId, request.amountHalala⟩] = [] := by
    simp [Ne.symm different]
  rw [skipped, append_nil]

theorem refund_iff {other : Refund} (different : other.requestId ≠ request.id) :
    other ∈ after.refunds ↔ other ∈ before.refunds := by
  rw [mem_refundsOf, mem_refundsOf, finishes.made]
  by_cases here : other.paymentId = request.paymentId
  · rw [if_pos here, mem_singleton, here]
    constructor
    · intro same
      rw [same] at different
      exact absurd finishes.ofRequest different
    · exact finishes.only other
  · rw [if_neg here]

theorem called {call : ApproveCall} (called : Called before call)
    (different : call.requestId ≠ request.id)
    (elsewhere : call.paymentId ≠ request.paymentId) :
    Called after call := by
  obtain ⟨row, found, refundable, within, held⟩ := called.payment
  refine ⟨?_, ⟨row, ?_, refundable, within, ?_⟩, ?_, ?_⟩
  · rw [finishes.moves.others different]
    exact called.request
  · rw [finishes.paymentOthers elsewhere]
    exact found
  · exact (SameMoney.isHeld finishes.moves.configured row).mpr held
  · rw [finishes.made, if_neg elsewhere]
    exact called.made
  · rw [finishes.deductionsOthers elsewhere]
    exact called.unrecorded

theorem filed {row : RefundRequest} (filed : Filed before row)
    (different : row.id ≠ request.id) : Filed after row := by
  obtain ⟨rowPayment, found, within⟩ := filed.payment
  obtain ⟨laterPayment, laterFound, amount, _⟩ := finishes.paymentLater found
  have calls : after.calls.lookup row.id = before.calls.lookup row.id := by
    rw [finishes.calls, if_neg different]
  refine ⟨⟨laterPayment, laterFound, ?_⟩, ?_, ?_⟩
  · rw [amount]
    exact within
  · rw [calls]
    exact filed.processing
  · rw [calls]
    intro uncalled
    rw [filed.approved uncalled]
    constructor
    · rintro ⟨other, member, ofRow⟩
      refine ⟨other, (finishes.refund_iff ?_).mpr member, ofRow⟩
      rw [ofRow]
      exact different
    · rintro ⟨other, member, ofRow⟩
      refine ⟨other, (finishes.refund_iff ?_).mp member, ofRow⟩
      rw [ofRow]
      exact different

theorem filedHere (filed : Filed before request) : Filed after later := by
  obtain ⟨rowPayment, found, within⟩ := filed.payment
  obtain ⟨laterPayment, laterFound, amount, _⟩ := finishes.paymentLater found
  have uncalled : after.calls.lookup later.id = none := by
    rw [finishes.calls, finishes.moves.sameId, if_pos rfl]
  refine ⟨⟨laterPayment, ?_, ?_⟩, ?_, ?_⟩
  · rw [finishes.moves.paymentId]
    exact laterFound
  · rw [finishes.moves.amount, amount]
    exact within
  · rw [uncalled, finishes.status]
    decide
  · intro _
    refine ⟨fun _ => ⟨refund, ?_, ?_⟩, fun _ => finishes.status⟩
    · rw [mem_refundsOf, finishes.made, if_pos finishes.ofPayment]
      exact mem_singleton_self refund
    · rw [finishes.moves.sameId]
      exact finishes.ofRequest

theorem madeLater (filed : Filed before request)
    (old : ∀ other ∈ before.refunds, Made before other) :
    ∀ other ∈ after.refunds, Made after other := by
  intro other member
  by_cases here : other.paymentId = request.paymentId
  · rw [mem_refundsOf, finishes.made, if_pos here, mem_singleton] at member
    subst member
    obtain ⟨rowPayment, found, within⟩ := filed.payment
    obtain ⟨laterPayment, laterFound, amount, held⟩ := finishes.paymentLater found
    have samePayment := finishes.paymentFound
    rw [found] at samePayment
    cases samePayment
    refine ⟨⟨later, ?_, ?_⟩, laterPayment, ?_, ?_, ?_⟩
    · rw [finishes.ofRequest]
      exact finishes.moves.here
    · rw [finishes.ofPayment]
      exact finishes.moves.paymentId
    · rw [finishes.ofPayment]
      exact laterFound
    · rw [finishes.amount, amount]
      exact within
    · exact finishes.channel.trans held.symm
  · rw [mem_refundsOf, finishes.made, if_neg here, ← mem_refundsOf] at member
    have made := old other member
    obtain ⟨row, found, within, channel⟩ := made.payment
    obtain ⟨laterRow, laterFound, amount, held⟩ := finishes.paymentLater found
    refine ⟨finishes.moves.requestOf made.request, laterRow, laterFound,
      ?_, channel.trans held.symm⟩
    rw [amount]
    exact within

theorem settledHere :
    Settled after request.paymentId := by
  have made : refundsOf after request.paymentId = [refund] := by
    rw [finishes.made, if_pos rfl]
  have deducted :
      deductionsOf after.store request.paymentId = [⟨request.paymentId, request.amountHalala⟩] := by
    have undeducted := finishes.undeducted
    unfold deductionsOf at undeducted ⊢
    rw [finishes.deductions, filter_append, undeducted]
    simp
  refine ⟨?_, ?_, ?_⟩
  · rw [made, deducted]
    simp [finishes.amount]
  · rw [made]
    exact le_refl 1
  · intro _ row found
    obtain ⟨now, payments⟩ := finishes.payments
    have key := lookup_key finishes.paymentFound
    rw [payments.lookup, key, if_pos rfl] at found
    cases found
    rfl

theorem settledOthers (different : paymentId ≠ request.paymentId)
    (settled : Settled before paymentId) : Settled after paymentId := by
  refine ⟨?_, ?_, ?_⟩
  · rw [finishes.made, if_neg different, finishes.deductionsOthers different]
    exact settled.exact
  · rw [finishes.made, if_neg different]
    exact settled.once
  · rw [finishes.made, if_neg different, finishes.paymentOthers different]
    exact settled.closed

theorem orderly (orderly : Orderly before) : Orderly after := by
  have filed := orderly.requests request.id request finishes.moves.replaced.found
  -- the call of the request, if any, waits for its own payment
  have ownCall (call : ApproveCall) (found : before.calls.lookup request.id = some call) :
      call.paymentId = request.paymentId := by
    obtain ⟨row, stored, _, ofPayment, _⟩ := (orderly.calls request.id call found).request
    rw [lookup_key found, finishes.moves.replaced.found] at stored
    cases stored
    exact ofPayment.symm
  refine ⟨?_, ?_, ?_, ?_, ?_⟩
  · intro requestId call found
    rw [finishes.calls] at found
    by_cases here : requestId = request.id
    · rw [if_pos here] at found
      cases found
    · rw [if_neg here] at found
      have key := lookup_key found
      apply finishes.called (orderly.calls requestId call found)
      · rw [key]
        exact here
      · intro same
        exact here (finishes.alone requestId call found same)
  · intro requestId row found
    rcases finishes.moves.origin found with ⟨_, rfl⟩ | ⟨different, old⟩
    · exact finishes.filedHere filed
    · have key := lookup_key old
      apply finishes.filed (orderly.requests requestId row old)
      rw [key]
      exact different
  · intro firstId secondId first second firstFound secondFound firstOpen secondOpen samePayment
    exact finishes.moves.oneOpen orderly firstFound secondFound firstOpen secondOpen samePayment
  · exact finishes.madeLater filed orderly.refunds
  · intro paymentId quiet
    by_cases own : paymentId = request.paymentId
    · rw [own]
      exact finishes.settledHere
    · apply finishes.settledOthers own
      apply orderly.settled
      intro requestId call found ofPayment
      have different : requestId ≠ request.id := by
        intro here
        rw [here] at found
        exact own (ofPayment.symm.trans (ownCall call found))
      apply quiet requestId call _ ofPayment
      rw [finishes.calls, if_neg different]
      exact found

end Finishes

end Reviews

theorem taken_of_covers (covers : Covers store renterId amountHalala) :
    ((store.renters.lookup renterId).map (fun renter =>
      renter.balanceHalala - max 0 (renter.balanceHalala - amountHalala))).getD 0 =
      amountHalala := by
  obtain ⟨renter, found, enough⟩ := covers
  rw [mem_def.mp found, map_some, getD_some]
  omega

theorem finishApproval_of_refundable {store : Store} {requestId paymentId : String} {renterId : Nat}
    {amountHalala now : Int} {adminId : String}
    {adminNote refundId : Option String} {payment : Payment}
    (found : store.payments.lookup paymentId = some payment)
    (refundable : payment.IsRefundable)
    (covers : Covers store renterId amountHalala) :
    ∃ after, finishApproval store requestId paymentId renterId amountHalala now
      adminId adminNote refundId = .ok after ∧ after.requests = store.requests.update requestId
          (RefundRequest.setApproved now adminId adminNote refundId)
          (RefundRequest.setApproved_id now adminId adminNote refundId) ∧
          Table.Replaces store.payments after.payments payment
            (payment.setRefunded amountHalala now) ∧
            after.deductions = store.deductions ++ [⟨paymentId, amountHalala⟩] := by
  have changes : store.payments.changes paymentId Payment.IsRefundable :=
    ⟨payment, found, refundable⟩
  have key := lookup_key found
  subst key
  rw [finishApproval, Store.recordRefund, if_pos changes]
  refine ⟨_, rfl, rfl, ?_, ?_⟩
  · exact replaces_updateWhere found refundable (Payment.setRefunded amountHalala now)
      (Payment.setRefunded_paymentId amountHalala now)
  · dsimp only [Store.deduct]
    rw [taken_of_covers covers]

structure Answers (before after : System) (call : ApproveCall) (answer : GatewayAnswer) : Prop where
  configured : after.gatewayConfigured = before.gatewayConfigured
  store : after.store = before.store
  found : before.calls.lookup call.requestId = some call
  unanswered : call.answer = none
  calls : ∀ requestId, after.calls.lookup requestId =
    if requestId = call.requestId then some (call.setAnswer answer)
    else before.calls.lookup requestId
  made : ∀ paymentId, refundsOf after paymentId = refundsOf before paymentId ++
    if paymentId = call.paymentId then
      madeBy (call.setAnswer answer)
    else
      []

namespace Answers

variable {before after : System} {call : ApproveCall} {answer : GatewayAnswer} {refund : Refund}

theorem mem_refunds (answers : Answers before after call answer) (member : refund ∈ after.refunds) :
    refund ∈ before.refunds ∨
      refund ∈ madeBy (call.setAnswer answer) ∧ refund.paymentId = call.paymentId := by
  rw [mem_refundsOf, answers.made] at member
  rcases mem_append.mp member with old | new
  · exact Or.inl (mem_refundsOf.mpr old)
  · by_cases here : refund.paymentId = call.paymentId
    · rw [if_pos here] at new
      exact Or.inr ⟨new, here⟩
    · rw [if_neg here] at new
      cases new

theorem mem_of_old (answers : Answers before after call answer) (member : refund ∈ before.refunds) :
    refund ∈ after.refunds := by
  rw [mem_refundsOf, answers.made]
  exact mem_append_left _ (mem_refundsOf.mp member)

theorem madeBy_fields (member : refund ∈ madeBy (call.setAnswer answer)) :
    refund = ⟨call.requestId, call.paymentId, call.amountHalala, .moyasar⟩ := by
  cases answer with
  | failed message => cases member
  | refunded refundId => exact mem_singleton.mp member

theorem orderly (answers : Answers before after call answer)
    (orderly : Orderly before) : Orderly after := by
  have called := orderly.calls call.requestId call answers.found
  have held (payment : Payment) :
      IsHeld after payment ↔ IsHeld before payment :=
    SameMoney.isHeld answers.configured payment
  refine ⟨?_, ?_, ?_, ?_, ?_⟩
  · intro requestId other found
    rw [answers.calls] at found
    by_cases here : requestId = call.requestId
    · rw [if_pos here] at found
      cases found
      obtain ⟨payment, paymentFound, refundable, within, isHeld⟩ := called.payment
      refine ⟨?_, ⟨payment, ?_, refundable, within, (held payment).mpr isHeld⟩, ?_, ?_⟩
      · rw [answers.store]
        exact called.request
      · rw [answers.store]
        exact paymentFound
      · have unmade : refundsOf before call.paymentId = [] := by
          rw [called.made, madeBy, answers.unanswered]
        have made := answers.made call.paymentId
        rw [unmade, if_pos rfl, nil_append] at made
        exact made
      · rw [answers.store]
        exact called.unrecorded
    · rw [if_neg here] at found
      have elsewhere : other.paymentId ≠ call.paymentId := by
        intro same
        exact here (orderly.oneCall found answers.found same)
      have otherCalled := orderly.calls requestId other found
      obtain ⟨payment, paymentFound, refundable, within, isHeld⟩ := otherCalled.payment
      refine ⟨?_, ⟨payment, ?_, refundable, within, (held payment).mpr isHeld⟩, ?_, ?_⟩
      · rw [answers.store]
        exact otherCalled.request
      · rw [answers.store]
        exact paymentFound
      · rw [answers.made, if_neg elsewhere, append_nil]
        exact otherCalled.made
      · rw [answers.store]
        exact otherCalled.unrecorded
  · intro requestId row found
    rw [answers.store] at found
    have filed := orderly.requests requestId row found
    refine ⟨?_, ?_, ?_⟩
    · rw [answers.store]
      exact filed.payment
    · rw [filed.processing, answers.calls]
      by_cases here : row.id = call.requestId
      · rw [if_pos here, here, answers.found]
        exact ⟨fun _ => rfl, fun _ => rfl⟩
      · rw [if_neg here]
    · intro uncalled
      rw [answers.calls] at uncalled
      by_cases here : row.id = call.requestId
      · rw [if_pos here] at uncalled
        cases uncalled
      · rw [if_neg here] at uncalled
        rw [filed.approved uncalled]
        constructor
        · rintro ⟨refund, member, ofRow⟩
          exact ⟨refund, answers.mem_of_old member, ofRow⟩
        · rintro ⟨refund, member, ofRow⟩
          rcases answers.mem_refunds member with old | ⟨new, _⟩
          · exact ⟨refund, old, ofRow⟩
          · rw [madeBy_fields new] at ofRow
            exact absurd ofRow.symm here
  · rw [answers.store]
    exact orderly.oneOpen
  · intro refund member
    rcases answers.mem_refunds member with old | ⟨new, _⟩
    · have made := orderly.refunds refund old
      obtain ⟨payment, found, within, channel⟩ := made.payment
      refine ⟨?_, payment, ?_, within, channel.trans (held payment).symm⟩
      · rw [answers.store]
        exact made.request
      · rw [answers.store]
        exact found
    · rw [madeBy_fields new]
      obtain ⟨request, requestFound, _, ofPayment, _⟩ := called.request
      obtain ⟨payment, found, _, within, isHeld⟩ := called.payment
      refine ⟨⟨request, ?_, ofPayment⟩, payment, ?_, within, ?_⟩
      · rw [answers.store]
        exact requestFound
      · rw [answers.store]
        exact found
      · exact ⟨fun _ => (held payment).mpr isHeld, fun _ => rfl⟩
  · intro paymentId quiet
    have elsewhere : paymentId ≠ call.paymentId := by
      intro same
      apply quiet call.requestId (call.setAnswer answer) _ same.symm
      rw [answers.calls, if_pos rfl]
    have settled : Settled before paymentId := by
      apply orderly.settled
      intro requestId other found ofPayment
      by_cases here : requestId = call.requestId
      · rw [here, answers.found] at found
        cases found
        exact elsewhere ofPayment.symm
      · apply quiet requestId other _ ofPayment
        rw [answers.calls, if_neg here]
        exact found
    have made : refundsOf after paymentId = refundsOf before paymentId := by
      rw [answers.made, if_neg elsewhere, append_nil]
    refine ⟨?_, ?_, ?_⟩
    · rw [made, answers.store]
      exact settled.exact
    · rw [made]
      exact settled.once
    · rw [made, answers.store]
      exact settled.closed

end Answers

variable {system : System}

theorem gatewayAnswers_orderly {answer : GatewayAnswer} (orderly : Orderly system)
    (answered : gatewayAnswers system requestId answer = some after) :
    Orderly after := by
  unfold gatewayAnswers at answered
  split at answered
  · cases answered
  · rename_i call found
    split at answered
    · rename_i unanswered
      obtain rfl := some.inj answered
      have key := lookup_key found
      subst key
      have answers : Answers system { system with
          calls := system.calls.update call.requestId (ApproveCall.setAnswer answer)
            (ApproveCall.setAnswer_requestId answer)
          refunds := system.refunds ++ madeBy (call.setAnswer answer) }
          call answer := by
        refine ⟨rfl, rfl, found, unanswered, ?_, ?_⟩
        · exact (replaces_update found (ApproveCall.setAnswer answer)
            (ApproveCall.setAnswer_requestId answer)).lookup
        · intro paymentId
          rw [refundsOf, filter_append]
          congr 1
          by_cases here : paymentId = call.paymentId
          · rw [if_pos here, filter_eq_self]
            intro refund member
            rw [Answers.madeBy_fields member]
            exact decide_eq_true here.symm
          · rw [if_neg here, filter_eq_nil_iff]
            intro refund member ofPayment
            rw [Answers.madeBy_fields member] at ofPayment
            exact here (of_decide_eq_true ofPayment).symm
      exact answers.orderly orderly
    · cases answered

section Steps

variable {system after : System} {requestId : String} {now : Int}
  {adminId : String} {adminNote : Option String}

theorem approve_eq_ok (approved : approve system requestId now adminId adminNote = .ok after) :
    ∃ row payment note, system.store.requests.lookup requestId = some row ∧
      system.store.payments.lookup row.paymentId = some payment ∧
      row.status = .pending ∧ payment.IsRefundable ∧ ((∃ externalPaymentId,
        externalIdToCall system.gatewayConfigured payment = some externalPaymentId ∧ after =
          { system with
            store := claim system.store requestId now adminId note
            calls := system.calls.insertIfNew
              (approveCall row externalPaymentId now adminId note) }) ∨
        (externalIdToCall system.gatewayConfigured payment = none ∧
          ∃ finished, finishApproval (claim system.store requestId now adminId note)
            requestId row.paymentId row.renterId
            row.amountHalala now adminId note none = .ok finished ∧
            after = { system with
              store := finished
              refunds := system.refunds ++
                [⟨requestId, row.paymentId, row.amountHalala, .manual⟩] })) := by
  obtain ⟨row, rowFound, approved⟩ := bind_eq_ok_iff.mp approved
  obtain ⟨payment, paymentFound, approved⟩ := bind_eq_ok_iff.mp approved
  obtain ⟨pending, approved⟩ := require_bind_eq_ok_iff.mp approved
  obtain ⟨refundable, approved⟩ := require_bind_eq_ok_iff.mp approved
  obtain ⟨_, approved⟩ := require_bind_eq_ok_iff.mp approved
  refine ⟨row, payment, adminNote.map (fun text => clip 1000 (trim text)),
    orFail_eq_ok_iff.mp rowFound, orFail_eq_ok_iff.mp paymentFound,
    pending, refundable, ?_⟩
  split at approved
  · rename_i externalPaymentId external
    injection approved with same
    exact Or.inl ⟨externalPaymentId, external, same.symm⟩
  · rename_i unheld
    obtain ⟨finished, finishes, approved⟩ := bind_eq_ok_iff.mp approved
    injection approved with same
    exact Or.inr ⟨unheld, finished, finishes, same.symm⟩

theorem approve_orderly (orderly : Orderly system)
    (undisturbed : Undisturbed system (.approve requestId now adminId adminNote))
    (approved : approve system requestId now adminId adminNote = .ok after) :
    Orderly after := by
  obtain ⟨row, payment, note, found, paymentFound, pending, refundable,
    path⟩ := approve_eq_ok approved
  have key := lookup_key found
  subst key
  have claimed : Table.Replaces system.store.requests
      (claim system.store row.id now adminId note).requests row
      (row.setReviewed .processing now adminId note) :=
    replaces_updateWhere found pending (RefundRequest.setReviewed .processing now adminId note)
      (RefundRequest.setReviewed_id .processing now adminId note)
  obtain ⟨idle, alone, unmade, undeducted⟩ := orderly.uncalled found pending paymentFound refundable
  rcases path with ⟨externalPaymentId, external, rfl⟩ | ⟨unheld, finished, finishes, rfl⟩
  · rw [insertIfNew_of_fresh idle]
    have held : IsHeld system payment := by
      rw [IsHeld, external]
      rfl
    have calls (requestId : String) :
        (system.calls.insert (approveCall row externalPaymentId now adminId note)
          idle).lookup requestId =
          if requestId = row.id then
            some (approveCall row externalPaymentId now adminId note)
          else
            system.calls.lookup requestId :=
      lookup_insert_under system.calls _ rfl requestId
    exact orderly.claimed ⟨rfl, claimed, rfl, rfl, rfl, fun _ => Or.inl pending⟩
      ⟨rfl, rfl, rfl⟩ pending rfl paymentFound refundable held calls rfl
      rfl rfl rfl
  · have covers : Covers (claim system.store row.id now adminId note)
        row.renterId row.amountHalala :=
      undisturbed row found pending payment paymentFound refundable unheld
    obtain ⟨other, same, requests, payments, deductions⟩ := @finishApproval_of_refundable
        (claim system.store row.id now adminId note) row.id row.paymentId
        row.renterId row.amountHalala now adminId note none payment
        paymentFound refundable covers
    rw [finishes] at same
    cases same
    have approves : Table.Replaces (claim system.store row.id now adminId note).requests
        finished.requests
        (row.setReviewed .processing now adminId note)
        ((row.setReviewed .processing now adminId note).setApproved now adminId note none) := by
      rw [requests]
      have stored : (claim system.store row.id now adminId note).requests.lookup
          (row.setReviewed .processing now adminId note).id =
            some (row.setReviewed .processing now adminId note) := by
        rw [claimed.lookup]
        exact if_pos rfl
      exact replaces_update stored (RefundRequest.setApproved now adminId note none)
        (RefundRequest.setApproved_id now adminId note none)
    have approval : Finishes system { system with
        store := finished
        refunds := system.refunds ++ [⟨row.id, row.paymentId, row.amountHalala, .manual⟩] } row
          ((row.setReviewed .processing now adminId note).setApproved now adminId note none) payment
          ⟨row.id, row.paymentId, row.amountHalala, .manual⟩ := by
      refine ⟨⟨rfl, claimed.trans approves rfl, rfl, rfl, rfl,
        fun _ => Or.inl pending⟩, rfl, paymentFound, ⟨now, payments⟩,
        deductions, undeducted, ?_, ?_, rfl, rfl, rfl, ?_, ?_, ?_⟩
      · intro requestId call called ofPayment
        exact absurd ofPayment (alone requestId call called)
      · intro requestId
        by_cases here : requestId = row.id
        · rw [if_pos here, here]
          exact idle
        · rw [if_neg here]
      · unfold IsHeld
        rw [unheld]
        exact ⟨fun manual => Channel.noConfusion manual, fun held => Bool.noConfusion held⟩
      · intro other member
        rw [unmade] at member
        cases member
      · intro paymentId
        unfold refundsOf at unmade ⊢
        rw [filter_append]
        by_cases here : paymentId = row.paymentId
        · rw [if_pos here, here, unmade]
          simp
        · rw [if_neg here]
          simp [Ne.symm here]
    exact approval.orderly orderly

theorem resumeApproval_orderly (orderly : Orderly system)
    (undisturbed : Undisturbed system (.resumeApproval requestId))
    (resumed : resumeApproval system requestId = some after) :
    Orderly after := by
  unfold resumeApproval at resumed
  split at resumed
  · cases resumed
  · rename_i call called
    have key := lookup_key called
    subst key
    have waiting := orderly.calls call.requestId call called
    obtain ⟨row, found, processing, ofPayment, amount⟩ := waiting.request
    have rowKey := lookup_key found
    have removed (requestId : String) :
        (system.calls.remove call.requestId).lookup requestId =
          if requestId = row.id then none
          else system.calls.lookup requestId := by
      rw [rowKey]
      exact lookup_remove system.calls call.requestId requestId
    split at resumed
    · cases resumed
    · rename_i message failed
      obtain rfl := some.inj resumed
      have made : madeBy call = [] := by
        rw [madeBy, failed]
      rw [← rowKey] at found
      have returned : Table.Replaces system.store.requests
          (system.store.requests.update call.requestId
            (RefundRequest.setReturned (some (failureNote call.adminNote message)))
            (RefundRequest.setReturned_id _)) row
          (row.setReturned (some (failureNote call.adminNote message))) := by
        rw [← rowKey]
        exact replaces_update found
          (RefundRequest.setReturned (some (failureNote call.adminNote message)))
          (RefundRequest.setReturned_id _)
      have moves : Moves system { system with
          calls := system.calls.remove call.requestId
          store := { system.store with
            requests := system.store.requests.update call.requestId
              (RefundRequest.setReturned (some (failureNote call.adminNote message)))
              (RefundRequest.setReturned_id _) } } row
            (row.setReturned (some (failureNote call.adminNote message))) :=
        ⟨rfl, returned, rfl, rfl, rfl, fun _ => Or.inr processing⟩
      refine orderly.released moves ⟨rfl, rfl, rfl⟩ (Or.inl rfl) removed ?_ ?_
      · intro refund member ofRow
        obtain ⟨other, otherFound, otherPayment⟩ := (orderly.refunds refund member).request
        rw [ofRow, found] at otherFound
        cases otherFound
        have inList : refund ∈ refundsOf system call.paymentId := by
          rw [← ofPayment, otherPayment]
          exact mem_refundsOf.mp member
        rw [waiting.made, made] at inList
        cases inList
      · intro other otherCalled
        rw [rowKey, called] at otherCalled
        cases otherCalled
        exact made
    · rename_i refundId refunded
      obtain ⟨payment, paymentFound, refundable, within, held⟩ := waiting.payment
      have covers : Covers system.store call.renterId call.amountHalala :=
        undisturbed call called (by rw [refunded]; rfl)
      obtain ⟨finished, finishes, requests, payments, deductions⟩ :=
        @finishApproval_of_refundable system.store call.requestId
          call.paymentId call.renterId call.amountHalala call.now
          call.adminId call.adminNote refundId payment paymentFound
          refundable covers
      rw [finishes] at resumed
      obtain rfl := some.inj resumed
      rw [← rowKey] at found requests
      have approves : Table.Replaces system.store.requests finished.requests row
          (row.setApproved call.now call.adminId call.adminNote refundId) := by
        rw [requests]
        exact replaces_update found
          (RefundRequest.setApproved call.now call.adminId call.adminNote refundId)
          (RefundRequest.setApproved_id call.now call.adminId call.adminNote refundId)
      have made :
          madeBy call = [⟨call.requestId, call.paymentId, call.amountHalala, .moyasar⟩] := by
        rw [madeBy, refunded]
      have ofCall := waiting.made
      have unrecorded := waiting.unrecorded
      rw [made] at ofCall
      rw [← amount] at payments deductions
      rw [← ofPayment] at paymentFound deductions ofCall unrecorded
      have approval : Finishes system { system with
          calls := system.calls.remove call.requestId
          store := finished } row (row.setApproved call.now call.adminId call.adminNote refundId)
            payment
            ⟨call.requestId, call.paymentId, call.amountHalala, .moyasar⟩ := by
        refine ⟨⟨rfl, approves, rfl, rfl, rfl, fun _ => Or.inr processing⟩,
          rfl, paymentFound, ⟨call.now, payments⟩, deductions, unrecorded,
          ?_, removed, rowKey.symm, ofPayment.symm, amount.symm, ?_, ?_, ?_⟩
        · intro requestId other otherCalled samePayment
          rw [rowKey]
          exact orderly.oneCall otherCalled called (samePayment.trans ofPayment)
        · exact ⟨fun _ => held, fun _ => rfl⟩
        · intro other member
          rw [ofCall, mem_singleton, ofPayment] at member
          exact member
        · intro paymentId
          by_cases here : paymentId = row.paymentId
          · rw [if_pos here, here, ← ofPayment]
            exact ofCall
          · rw [if_neg here]
            rfl
      exact approval.orderly orderly

theorem reject_orderly {store : Store} {reason : String} (orderly : Orderly system)
    (rejected : reject system.store requestId reason now adminId = .ok store) :
    Orderly { system with store := store } := by
  obtain ⟨_, rejected⟩ := require_bind_eq_ok_iff.mp rejected
  obtain ⟨row, rowFound, rejected⟩ := bind_eq_ok_iff.mp rejected
  obtain ⟨pending, ⟨⟩⟩ := require_bind_eq_ok_iff.mp rejected
  have found := orFail_eq_ok_iff.mp rowFound
  have key := lookup_key found
  subst key
  have filed := orderly.requests row.id row found
  have idle : system.calls.lookup row.id = none := by
    cases called : system.calls.lookup row.id with
    | none => rfl
    | some call =>
      have processing := filed.processing.mpr (by rw [called]; rfl)
      rw [pending] at processing
      cases processing
  have replaced := replaces_updateWhere found (show row.IsPending from pending)
      (RefundRequest.setReviewed .rejected now adminId (some (clip 1000 (trim reason))))
      (RefundRequest.setReviewed_id .rejected now adminId (some (clip 1000 (trim reason))))
  refine orderly.released ⟨rfl, replaced, rfl, rfl, rfl, fun _ => Or.inl pending⟩
    ⟨rfl, rfl, rfl⟩ (Or.inr rfl) ?_ ?_ ?_
  · intro requestId
    by_cases here : requestId = row.id
    · rw [if_pos here, here]
      exact idle
    · rw [if_neg here]
  · intro refund member ofRow
    have approved := (filed.approved idle).mpr ⟨refund, member, ofRow⟩
    rw [pending] at approved
    cases approved
  · intro call called
    rw [idle] at called
    cases called

theorem webhookRefunded_recorded {paymentId : String}
    {amountRefunded : Int} (orderly : Orderly system)
    (reported : IsReported system paymentId amountRefunded)
    (quiet : ∀ call ∈ system.calls.rows, call.paymentId ≠ paymentId) :
    webhookRefunded system.store paymentId amountRefunded now =
      system.store := by
  obtain ⟨refund, member, ofPayment, _⟩ := reported
  obtain ⟨payment, found, _⟩ := (orderly.refunds refund member).payment
  rw [ofPayment] at found
  have settled := orderly.settled paymentId
    (fun requestId call called => quiet call (lookup_mem called))
  have some : refundsOf system paymentId ≠ [] := by
    rw [← ofPayment]
    exact ne_nil_of_mem (mem_refundsOf.mp member)
  have refunded := settled.closed some payment found
  rw [webhookRefunded, found]
  exact if_pos refunded

end Steps

theorem next_orderly {action : RefundAction} (orderly : Orderly system)
    (step : guarded (Fires next) Undisturbed system action after) :
    Orderly after := by
  obtain ⟨undisturbed, step⟩ := step
  cases action with
  | requestRefund body now =>
    obtain rfl := some.inj step
    cases asked : requestRefund system.store body now with
    | error failure => exact orderly
    | ok store => exact requestRefund_orderly orderly asked
  | approve requestId now adminId adminNote =>
    obtain rfl := some.inj step
    cases approved : approve system requestId now adminId adminNote with
    | error failure => exact orderly
    | ok after => exact approve_orderly orderly undisturbed approved
  | gatewayAnswers requestId answer =>
    exact gatewayAnswers_orderly orderly step
  | resumeApproval requestId =>
    exact resumeApproval_orderly orderly undisturbed step
  | reject requestId reason now adminId =>
    obtain rfl := some.inj step
    cases rejected : reject system.store requestId reason now adminId with
    | error failure => exact orderly
    | ok store => exact reject_orderly orderly rejected
  | webhookRefunded paymentId amountRefunded now =>
    simp only [Fires, next] at step
    split at step
    · rename_i reported
      obtain rfl := some.inj step
      rw [webhookRefunded_recorded orderly reported undisturbed]
      exact orderly
    · cases step
  | webhookPaid paymentId now =>
    obtain rfl := some.inj step
    exact webhookPaid_orderly orderly paymentId now
  | spend renterId amountHalala =>
    obtain ⟨store, spent, rfl⟩ := map_eq_some_iff.mp step
    exact spend_orderly orderly spent

structure Unasked (system : System) : Prop where
  requests : system.store.requests = Table.empty
  calls : system.calls = Table.empty
  refunds : system.refunds = []
  deductions : system.store.deductions = []

theorem Unasked.orderly (unasked : Unasked system) :
    Orderly system where
  calls := by
    intro requestId call found
    rw [unasked.calls] at found
    cases found
  requests := by
    intro requestId request found
    rw [unasked.requests] at found
    cases found
  oneOpen := by
    intro firstId secondId first second found
    rw [unasked.requests] at found
    cases found
  refunds := by
    intro refund member
    rw [unasked.refunds] at member
    cases member
  settled := by
    intro paymentId _
    have made : refundsOf system paymentId = [] := by
      rw [refundsOf, unasked.refunds]
      rfl
    have deducted : deductionsOf system.store paymentId = [] := by
      rw [deductionsOf, unasked.deductions]
      rfl
    refine ⟨?_, ?_, ?_⟩
    · rw [made, deducted]
      rfl
    · rw [made]
      exact Nat.zero_le 1
    · intro some
      exact absurd made some

def sampleSystem : System :=
  { gatewayConfigured := true
    store :=
      { payments := ⟨[⟨"pay_1", some "moyasar_1", 7, 5000, .paid, some 0, none, none⟩], by decide⟩
        renters := ⟨[⟨7, 5000⟩], by decide⟩
        requests := Table.empty
        deductions := [] }
    calls := Table.empty
    refunds := [] }

theorem sampleSystem_unasked : Unasked sampleSystem :=
  ⟨rfl, rfl, rfl, rfl⟩

def sampleApproval : List RefundAction :=
  [.requestRefund ⟨"rfr_1", 7, "pay_1", "Unused", some 2500⟩ 1000,
    .approve "rfr_1" 2000 "admin" none]

end DcpPlatform.Refunds
