import DcpPlatform.Topups.CreditedOnce

/-!
# Paid top-ups find their row

An event of one attempt rebinds the row of a top-up from the invoice to that
attempt, and from then on nothing leads a later attempt back to it.
`FindsTopup` is the condition that this has not happened.
-/

namespace DcpPlatform.Topups

open Foundation Table List

def LeadsTo (payment : Payment) (invoiceId chargeId : Nat) : Prop :=
  payment.status.settled = true ∨ payment.moyasarId = some chargeId ∨
    payment.moyasarId = some invoiceId
deriving Decidable

/-- A paid event on an invoice of the top-up finds its row; a sweep that
starts once the top-up is paid has its row among its rows. -/
def FindsTopup (number : Nat) (state : State) : TopupAction → Prop
  | .deliver chargeId .paid _ _ =>
    ∀ charge ∈ state.gateway.charges.lookup chargeId, ∀ invoiceId ∈ charge.invoiceId,
      ∀ invoice ∈ state.gateway.invoices.lookup invoiceId, invoice.topup = number →
        ∀ payment ∈ state.db.payments.lookup (.topup number), LeadsTo payment invoiceId chargeId
  | .startSweep _ now =>
    ∀ invoice ∈ state.gateway.invoices.rows, invoice.topup = number →
      ∀ charge ∈ state.gateway.payingCharge invoice.id,
        ∀ payment ∈ state.db.payments.lookup (.topup number), LeadsTo payment invoice.id charge.id ∧
          (payment.status.settled = false → payment ∈ sweepSelection state.db now)
  | _ => True

instance (number : Nat) (state : State) (action : TopupAction) :
    Decidable (FindsTopup number state action) := by
  cases action with
  | deliver chargeId status amountRefunded now =>
    cases status
    all_goals
      unfold FindsTopup
      infer_instance
  | _ =>
    unfold FindsTopup
    infer_instance

variable {db : Database} {gateway : Gateway} {charge : Charge} {invoiceId : Nat}
    {invoice : Invoice} {now : Int}

theorem webhook_settles {payment : Payment} {amountRefunded : Option Int}
    (bindings : Bindings db gateway)
    (known : gateway.charges.lookup charge.id = some charge)
    (onInvoice : charge.invoiceId = some invoiceId)
    (found : db.payments.lookup (.topup invoice.topup) = some payment)
    (leads : LeadsTo payment invoiceId charge.id) :
    SettledTopup (webhook db (eventOf charge .paid amountRefunded) now).1
      invoice.topup := by
  have effect := webhook_effect db (eventOf charge .paid amountRefunded) now
  rcases leads with settled | bound
  · exact effect.step.settledTopup ⟨payment, found, settled⟩
  -- whatever row the event finds is the row of the top-up
  have same {other : Payment} (matched : Matches db (eventOf charge .paid amountRefunded) other)
      (otherFound : db.payments.lookup other.paymentId = some other) :
      other.paymentId = .topup invoice.topup := by
    rcases bound with toCharge | toInvoice
    · cases matched with
      | byId otherBound =>
        exact bindings.distinct _ _ other payment charge.id otherFound found otherBound toCharge
      | byInvoice unbound _ _ | byAmount unbound _ _ _ _ _ =>
        exact absurd toCharge (boundTo_eq_none unbound found)
    · cases matched with
      | byId otherBound =>
        exact absurd toInvoice (bindings.replaced _ other charge.id charge invoiceId
          otherFound otherBound known onInvoice _ payment found)
      | @byInvoice otherInvoice _ announced otherBound =>
        have sameInvoice : invoiceId = otherInvoice := by
          have both := onInvoice.symm.trans announced
          injection both
        subst sameInvoice
        exact bindings.distinct _ _ other payment invoiceId otherFound found otherBound toInvoice
      | byAmount _ noInvoice _ _ _ _ =>
        exact absurd toInvoice (boundTo_eq_none (noInvoice invoiceId onInvoice) found)
  cases effect with
  | ignored _ unbound noInvoice =>
    rcases bound with toCharge | toInvoice
    · exact absurd toCharge (boundTo_eq_none unbound found)
    · exact absurd toInvoice (boundTo_eq_none (noInvoice invoiceId onInvoice) found)
  | @moved other changed matched rewrites _ kept paid _ _ =>
    have key := same matched rewrites.found
    have later := rewrites.stored
    rw [key] at later
    exact ⟨changed, later, kept.trans (paid rfl)⟩
  | @credited other changed matched rewrites _ _ _ settled _ _ =>
    have key := same matched rewrites.found
    have later := rewrites.stored
    rw [key] at later
    exact ⟨changed, later, settled⟩

def Sweeps (state : State) (callId : Nat) (invoice : Invoice) (chargeId : Nat) : Prop :=
  ∃ sweep, state.sweeps.lookup callId = some sweep ∧ ∃ row ∈ sweep.remaining,
    row.paymentId = .topup invoice.topup ∧ row.amountHalala = invoice.amountHalala ∧
      (row.moyasarId = chargeId ∨ row.moyasarId = invoice.id)

theorem payingCharge_isSome (known : gateway.charges.lookup charge.id = some charge)
    (onInvoice : charge.invoiceId = some invoiceId) (paid : charge.status = .paid) :
    (gateway.payingCharge invoiceId).isSome = true := by
  rw [Gateway.payingCharge, find?_isSome]
  exact ⟨charge, lookup_mem known, by simp [onInvoice, paid]⟩

theorem payingCharge_eq_some (paying : gateway.payingCharge invoiceId = some charge) :
    gateway.charges.lookup charge.id = some charge ∧
      charge.invoiceId = some invoiceId ∧ charge.status = .paid := by
  have member := mem_of_find?_eq_some paying
  have met := find?_some paying
  simp only [decide_eq_true_eq] at met
  exact ⟨lookup_of_mem member, met⟩

variable {row : SweptRow}

theorem sweepReport_paid (bindings : Bindings db gateway)
    (known : gateway.charges.lookup charge.id = some charge)
    (onInvoice : charge.invoiceId = some invoice.id) (paid : charge.status = .paid)
    (stored : gateway.invoices.lookup invoice.id = some invoice)
    (named : row.moyasarId = charge.id ∨ row.moyasarId = invoice.id) :
    ∃ report payer, sweepReport gateway row.moyasarId = some (report, payer) ∧
      report.status = .paid ∧
      report.amountHalala = invoice.amountHalala := by
  obtain ⟨other, otherFound, _, amount⟩ :=
    bindings.charged charge.id charge invoice.id known onInvoice
  rw [stored] at otherFound
  cases otherFound
  unfold sweepReport
  rcases named with toCharge | toInvoice
  · rw [toCharge]
    have noInvoice : gateway.invoices.lookup charge.id = none := by
      cases present : gateway.invoices.lookup charge.id with
      | none => rfl
      | some other =>
        rw [bindings.apart charge.id other present] at known
        cases known
    rw [noInvoice, known]
    refine ⟨_, _, rfl, ?_, amount⟩
    simp [Gateway.chargeReport, paid]
  · rw [toInvoice, stored]
    refine ⟨_, _, rfl, ?_, rfl⟩
    simp only [Gateway.invoiceReport, payingCharge_isSome known onInvoice paid, if_true]

theorem resumeSweep_settles (now : Int) (bindings : Bindings db gateway)
    (known : gateway.charges.lookup charge.id = some charge)
    (onInvoice : charge.invoiceId = some invoice.id) (paid : charge.status = .paid)
    (stored : gateway.invoices.lookup invoice.id = some invoice)
    (key : row.paymentId = .topup invoice.topup)
    (amount : row.amountHalala = invoice.amountHalala)
    (named : row.moyasarId = charge.id ∨ row.moyasarId = invoice.id) :
    SettledTopup (resumeSweep db gateway row now) invoice.topup := by
  obtain ⟨report, payer, reported, status, reportedAmount⟩ :=
    sweepReport_paid bindings known onInvoice paid stored named
  obtain ⟨payment, found, _⟩ := bindings.stored invoice.id invoice stored
  have decision : topupReconcileDecision report row.amountHalala = .credit := by
    rw [topupReconcileDecision, status]
    simp [reportedAmount, amount]
  simp only [resumeSweep, reported, decision, key]
  exact markPaymentPaidOnce_settles now found

variable {before after : State} {callId : Nat} {action : TopupAction}

theorem nextTopups_sweep {sweep : SweepCall} (fires : Fires nextTopups before action after)
    (found : before.sweeps.lookup callId = some sweep) :
    after.sweeps.lookup callId = some sweep ∨ ∃ reachable now row remaining later,
      action = .resumeSweep callId reachable now ∧ sweep.remaining = row :: remaining ∧
        after.sweeps.lookup callId = some later ∧
        later.remaining = remaining ∧
        (reachable = true → after.db = resumeSweep before.db before.gateway row now) := by
  cases action with
  | startSweep otherId now =>
    obtain ⟨fresh, rfl⟩ := of_ite_eq_some fires
    refine Or.inl ?_
    rw [insertIfNew_of_fresh fresh]
    exact lookup_insert_of_some _ fresh found
  | resumeSweep otherId reachable now =>
    simp only [Fires, nextTopups] at fires
    split at fires
    · cases fires
    · rename_i call callFound
      split at fires
      · cases fires
      · rename_i row remaining rows
        cases fires
        have key := lookup_key callFound
        by_cases same : callId = otherId
        · subst same
          rw [found] at callFound
          cases callFound
          refine Or.inr ⟨reachable, now, row, remaining,
            sweep.setRemaining remaining, rfl, rows, ?_, rfl, ?_⟩
          · simp only [State.answerSweep, key]
            exact lookup_update_of_some _ _ (SweepCall.setRemaining_id remaining) found
          · intro answered
            simp only [State.answerSweep, answered, if_true]
        · refine Or.inl ?_
          have different : callId ≠ call.id := by
            rw [key]
            exact same
          exact (lookup_update_of_ne _ (SweepCall.setRemaining_id remaining) different).trans found
  | topup _ _ _ _ _ _ | bankTransfer _ _ _ _ | settle _ _ | refund _
  | startTrigger _ _ _ | use _ _ =>
    obtain ⟨_, rfl⟩ := of_ite_eq_some fires
    refine Or.inl ?_
    first
      | exact found
      | (simp only [State.startTrigger]
         split <;> exact found)
  | expire _ =>
    cases fires
    exact Or.inl found
  | startVerify _ _ _ =>
    simp only [Fires, nextTopups] at fires
    split at fires
    all_goals
      cases fires
      exact Or.inl found
  | attempt _ _ _ | deliver _ _ _ _ | chargeCard _ _ | failTrigger _ =>
    simp only [Fires, nextTopups] at fires
    split at fires
    · cases fires
    · obtain ⟨_, rfl⟩ := of_ite_eq_some fires
      exact Or.inl found
  | resumeVerify _ _ _ =>
    simp only [Fires, nextTopups] at fires
    split at fires
    · cases fires
    · obtain ⟨_, rfl⟩ := of_ite_none_eq_some fires
      exact Or.inl found
  | resumeTrigger _ _ =>
    simp only [Fires, nextTopups] at fires
    split at fires
    · cases fires
    · split at fires
      · cases fires
      · obtain ⟨_, rfl⟩ := of_ite_eq_some fires
        exact Or.inl found

theorem startSweep_sweeps (fires : Fires nextTopups before (.startSweep callId now) after) :
    after.db = before.db ∧ after.gateway = before.gateway ∧ after.sweeps.lookup callId =
      some ⟨callId, (sweepSelection before.db now).map sweptRow⟩ := by
  obtain ⟨fresh, rfl⟩ := of_ite_eq_some fires
  refine ⟨rfl, rfl, ?_⟩
  rw [insertIfNew_of_fresh fresh, lookup_insert, if_pos rfl]

structure Reconciling (callId : Nat) (invoice : Invoice) (chargeId : Nat)
    (state : State) : Prop where
  linked : Linked state
  stored : ∃ later, state.gateway.invoices.lookup invoice.id = some later ∧ invoice.Later later
  paid : ∃ charge, state.gateway.charges.lookup chargeId = some charge ∧
    charge.invoiceId = some invoice.id ∧ charge.status.wasPaid = true
  settles : ∀ charge, state.gateway.charges.lookup chargeId = some charge → charge.status = .paid →
    SettledTopup state.db invoice.topup ∨ Sweeps state callId invoice chargeId

theorem Reconciling.of_startSweep (linked : Linked before)
    (finds : FindsTopup invoice.topup before (.startSweep callId now))
    (fires : Fires nextTopups before (.startSweep callId now) after)
    (stored : before.gateway.invoices.lookup invoice.id = some invoice)
    (paying : before.gateway.payingCharge invoice.id = some charge) :
    Reconciling callId invoice charge.id after := by
  obtain ⟨known, onInvoice, status⟩ := payingCharge_eq_some paying
  obtain ⟨sameDb, sameGateway, sweep⟩ := startSweep_sweeps fires
  obtain ⟨payment, found, _, amount⟩ := linked.bindings.stored invoice.id invoice stored
  obtain ⟨leads, selected⟩ := finds invoice (lookup_mem stored) rfl charge paying payment found
  constructor
  · exact (nextTopups_linked fires linked).1
  · rw [sameGateway]
    exact ⟨invoice, stored, rfl, rfl, rfl⟩
  · rw [sameGateway]
    refine ⟨charge, known, onInvoice, ?_⟩
    rw [status]
    rfl
  · intro _ _ _
    by_cases settled : payment.status.settled = true
    · rw [sameDb]
      exact Or.inl ⟨payment, found, settled⟩
    · have unsettled : payment.status.settled = false := by
        simpa using settled
      refine Or.inr ⟨_, sweep, sweptRow payment, ?_, ?_, amount, ?_⟩
      · exact mem_map_of_mem (selected unsettled)
      · have key := lookup_key found
        exact key
      · rcases leads with paid | toCharge | toInvoice
        · exact absurd paid settled
        · simp [sweptRow, toCharge]
        · simp [sweptRow, toInvoice]

variable {callId chargeId : Nat}

theorem Reconciling.step (reconciling : Reconciling callId invoice chargeId before)
    (fires : Fires nextTopups before action after)
    (answered : ∀ now, action ≠ .resumeSweep callId false now) :
    Reconciling callId invoice chargeId after := by
  obtain ⟨linked, grows⟩ := nextTopups_linked fires reconciling.linked
  obtain ⟨stored, storedFound, storedLater⟩ := reconciling.stored
  obtain ⟨charge, known, onInvoice, wasPaid⟩ := reconciling.paid
  obtain ⟨laterCharge, laterKnown, chargeLater⟩ := grows.charges chargeId charge known
  constructor
  · exact linked
  · obtain ⟨later, laterFound, invoiceLater⟩ := grows.invoices invoice.id stored storedFound
    exact ⟨later, laterFound, invoiceLater.topup.trans storedLater.topup,
      invoiceLater.renter.trans storedLater.renter,
      invoiceLater.amount.trans storedLater.amount⟩
  · exact ⟨laterCharge, laterKnown, chargeLater.invoice.trans onInvoice, chargeLater.paid wasPaid⟩
  · intro current currentKnown currentPaid
    rw [laterKnown] at currentKnown
    cases currentKnown
    -- a charge that is paid now was not refunded before
    have paid : charge.status = .paid := by
      cases status : charge.status with
      | paid => rfl
      | refunded =>
        rw [chargeLater.refunded status] at currentPaid
        cases currentPaid
      | initiated | failed | other =>
        rw [status] at wasPaid
        cases wasPaid
    have chargeKey := lookup_key known
    have invoiceKey := lookup_key storedFound
    rcases reconciling.settles charge known paid with settled | sweeps
    · exact Or.inl ((nextTopups_step fires).settledTopup settled)
    · obtain ⟨sweep, sweepFound, row, member, key, amount, named⟩ := sweeps
      rcases nextTopups_sweep fires sweepFound with
        kept | ⟨reachable, now, first, remaining, later, resumed, rows, laterFound, rest, settles⟩
      · exact Or.inr ⟨sweep, kept, row, member, key, amount, named⟩
      · rw [rows, mem_cons] at member
        rcases member with rfl | waiting
        · have reached : reachable = true := by
            cases reachable with
            | true => rfl
            | false => exact absurd resumed (answered now)
          rw [settles reached, ← storedLater.topup]
          rw [← chargeKey] at known named
          rw [← invoiceKey] at onInvoice storedFound named
          rw [← storedLater.topup] at key
          rw [← storedLater.amount] at amount
          exact Or.inl (resumeSweep_settles now
            reconciling.linked.bindings known onInvoice paid storedFound
            key amount named)
        · refine Or.inr ⟨later, laterFound, row, ?_, key, amount, named⟩
          rw [rest]
          exact waiting

variable {start finish : State} {actions : List TopupAction}

theorem Reconciling.run (run : Run (Fires nextTopups) start actions finish) :
    Reconciling callId invoice chargeId start → (∀ now, .resumeSweep callId false now ∉ actions) →
      Reconciling callId invoice chargeId finish := by
  induction run with
  | nil state =>
    intro reconciling _
    exact reconciling
  | cons fires _ ih =>
    intro reconciling answered
    apply ih
    · apply reconciling.step fires
      rintro now rfl
      exact answered now mem_cons_self
    · intro now member
      exact answered now (mem_cons_of_mem _ member)

theorem Linked.run (linked : Linked start) (run : Run (Fires nextTopups) start actions finish) :
    Linked finish :=
  run.invariant Linked (fun linked fires => (nextTopups_linked fires linked).1) linked

theorem grows_of_run (linked : Linked start) (run : Run (Fires nextTopups) start actions finish) :
    Gateway.Grows start.gateway finish.gateway :=
  run.relates Linked (fun before after => Gateway.Grows before.gateway after.gateway)
    (Gateway.Grows.refl ·.gateway) Gateway.Grows.trans
    (fun linked fires => (nextTopups_linked fires linked).1)
    (fun linked fires => (nextTopups_linked fires linked).2) linked

variable {number : Nat}

theorem settledTopup_of_run (run : Run (Fires nextTopups) start actions finish)
    (settled : SettledTopup start.db number) :
    SettledTopup finish.db number :=
  run.invariant (SettledTopup ·.db number)
    (fun settled fires => (nextTopups_step fires).settledTopup settled)
    settled

/-- A paid event of an attempt on the invoice of the top-up was delivered. -/
def PaidDelivered (number : Nat) (actions : List TopupAction) (finish : State) : Prop :=
  ∃ chargeId amountRefunded now charge invoice,
    .deliver chargeId .paid amountRefunded now ∈ actions ∧
      finish.gateway.charges.lookup chargeId = some charge ∧
      charge.invoiceId = some invoice.id ∧
      finish.gateway.invoices.lookup invoice.id = some invoice ∧
      invoice.topup = number

/-- A reconciliation ran to its end after an attempt on the invoice of the
top-up was paid; the gateway answered it and still reports the payment. -/
def PaidReconciled (number : Nat) (start : State)
    (actions : List TopupAction) (finish : State) : Prop :=
  ∃ earlier later callId now middle invoice charge,
    actions = earlier ++ .startSweep callId now :: later ∧
      Run (Fires nextTopups) start earlier middle ∧
      middle.gateway.invoices.lookup invoice.id = some invoice ∧
      invoice.topup = number ∧
      middle.gateway.payingCharge invoice.id = some charge ∧
      (∀ now, .resumeSweep callId false now ∉ later) ∧
      (∃ sweep, finish.sweeps.lookup callId = some sweep ∧ sweep.remaining = []) ∧
      (finish.gateway.charges.lookup charge.id).map Charge.status = some .paid

theorem settled_of_paidDelivered (initial : start.Initial)
    (run : Run (guarded (Fires nextTopups) (FindsTopup number)) start actions finish)
    (delivered : PaidDelivered number actions finish) :
    SettledTopup finish.db number := by
  obtain ⟨chargeId, amountRefunded, now, charge, invoice, member, known,
    onInvoice, stored, ofTopup⟩ := delivered
  obtain ⟨earlier, later, rfl⟩ := append_of_mem member
  obtain ⟨before, toBefore, fromBefore⟩ := run.split
  cases fromBefore with
  | @cons _ after _ _ _ taken fromAfter =>
    obtain ⟨finds, fires⟩ := taken
    refine settledTopup_of_run fromAfter.of_guarded ?_
    have linked := (Linked.of_initial initial).run toBefore.of_guarded
    have grows := grows_of_run linked (Run.cons fires fromAfter.of_guarded)
    simp only [Fires, nextTopups] at fires
    split at fires
    · cases fires
    · rename_i current currentKnown
      obtain ⟨_, rfl⟩ := of_ite_eq_some fires
      obtain ⟨last, lastKnown, chargeLater⟩ := grows.charges chargeId current currentKnown
      rw [known] at lastKnown
      cases lastKnown
      have currentOn : current.invoiceId = some invoice.id :=
        chargeLater.invoice.symm.trans onInvoice
      obtain ⟨currentInvoice, invoiceFound, _, _⟩ :=
        linked.bindings.charged chargeId current invoice.id currentKnown currentOn
      obtain ⟨lastInvoice, lastFound, invoiceLater⟩ :=
        grows.invoices invoice.id currentInvoice invoiceFound
      rw [stored] at lastFound
      cases lastFound
      have sameTopup : currentInvoice.topup = number := invoiceLater.topup.symm.trans ofTopup
      obtain ⟨payment, found, _⟩ := linked.bindings.stored invoice.id currentInvoice invoiceFound
      rw [sameTopup] at found
      have leads := finds current currentKnown invoice.id currentOn
        currentInvoice invoiceFound sameTopup payment found
      have key := lookup_key currentKnown
      rw [← key] at currentKnown leads
      rw [← sameTopup] at found ⊢
      exact webhook_settles linked.bindings currentKnown currentOn found leads

theorem settled_of_paidReconciled (initial : start.Initial)
    (run : Run (guarded (Fires nextTopups) (FindsTopup number)) start actions finish)
    (reconciled : PaidReconciled number start actions finish) :
    SettledTopup finish.db number := by
  obtain ⟨earlier, later, callId, now, middle, invoice, charge, same,
    toMiddle, stored, ofTopup, paying, answered, ended, stillPaid⟩ :=
    reconciled
  subst same ofTopup
  obtain ⟨before, toBefore, fromBefore⟩ := run.split
  have sameState := toMiddle.deterministic toBefore.of_guarded
  subst sameState
  cases fromBefore with
  | cons taken fromAfter =>
    have linked := (Linked.of_initial initial).run toMiddle
    have reconciling := Reconciling.run fromAfter.of_guarded
      (Reconciling.of_startSweep linked taken.1 taken.2 stored paying)
      answered
    rw [Option.map_eq_some_iff] at stillPaid
    obtain ⟨last, lastKnown, lastPaid⟩ := stillPaid
    rcases reconciling.settles last lastKnown lastPaid with settled | sweeps
    · exact settled
    · obtain ⟨sweep, found, row, member, _⟩ := sweeps
      obtain ⟨other, otherFound, nothing⟩ := ended
      rw [found] at otherFound
      cases otherFound
      rw [nothing] at member
      cases member

/-- While every paid event and every sweep finds the row of the top-up, the
top-up is credited once: at most once at any time, and exactly once after a
delivered paid event or a complete reconciliation. -/
theorem topup_credited_once {start finish : State}
    {actions : List TopupAction} {number : Nat} (initial : start.Initial)
    (run : Run (guarded (Fires nextTopups) (FindsTopup number)) start actions finish) :
    creditsOf finish.db number ≤ 1 ∧ (PaidDelivered number actions finish ∨
      PaidReconciled number start actions finish → creditsOf finish.db number = 1) ∧
      Accounted start.db finish.db := by
  have once := creditedOnce_of_run initial run.of_guarded number
  refine ⟨once.le_one, ?_, accounted_of_run run.of_guarded⟩
  rintro (delivered | reconciled)
  · exact once.settled (settled_of_paidDelivered initial run delivered)
  · exact once.settled (settled_of_paidReconciled initial run reconciled)

def sampleInvoice : Invoice :=
  ⟨10, 1, 7, 10000, false⟩

def paidTopup : List TopupAction :=
  [.topup 1 7 10000 .creditcard 10 0, .attempt 10 11 false,
    .settle 11 true, .deliver 11 .paid none 1, .deliver 11 .paid none 2,
    .startSweep 100 3]

theorem topup_credited_once_sample :
    ∃ finish, Run (guarded (Fires nextTopups) (FindsTopup 1)) sampleStart paidTopup finish ∧
      creditsOf finish.db 1 = 1 := by
  refine exists_guarded_run (fun finish =>
    finish.gateway.charges.lookup 11 = some ⟨11, some 10, 7, 10000, false, .paid⟩ ∧
    finish.gateway.invoices.lookup 10 = some sampleInvoice)
    (by decide +kernel) ?_
  rintro finish run ⟨known, stored⟩
  have delivered : PaidDelivered 1 paidTopup finish :=
    ⟨11, none, 1, _, sampleInvoice, by decide, known, rfl, stored, rfl⟩
  exact (topup_credited_once sampleStart_initial run).2.1 (Or.inl delivered)

/-- The first attempt fails and the second pays; both events are delivered.
The metadata of the second names the renter. -/
def retriedTopup : List TopupAction :=
  [.topup 1 7 10000 .creditcard 10 0, .attempt 10 11 true,
    .settle 11 false, .deliver 11 .failed none 1, .attempt 10 12 true,
    .settle 12 true, .deliver 12 .paid none 2]

/-- Neither the event of the attempt that pays nor a reconciliation credits
a top-up whose first attempt has failed. -/
theorem retried_topup_never_credited :
    ∃ actions finish, sampleStart.Initial ∧ Run (Fires nextTopups) sampleStart actions finish ∧
      PaidDelivered 1 actions finish ∧
      PaidReconciled 1 sampleStart actions finish ∧
      creditsOf finish.db 1 = 0 := by
  obtain ⟨middle, executed, stored, paying⟩ : ∃ middle,
      execute nextTopups sampleStart retriedTopup = some middle ∧
        middle.gateway.invoices.lookup 10 = some sampleInvoice ∧
        middle.gateway.payingCharge 10 = some ⟨12, some 10, 7, 10000, true, .paid⟩ :=
    exists_of_execute_any (by decide +kernel)
  obtain ⟨finish, ended, known, storedLater, swept, uncredited⟩ : ∃ finish,
      execute nextTopups sampleStart (retriedTopup ++ [.startSweep 100 3]) = some finish ∧
        finish.gateway.charges.lookup 12 = some ⟨12, some 10, 7, 10000, true, .paid⟩ ∧
        finish.gateway.invoices.lookup 10 = some sampleInvoice ∧
        finish.sweeps.lookup 100 = some ⟨100, []⟩ ∧
        creditsOf finish.db 1 = 0 :=
    exists_of_execute_any (by decide +kernel)
  refine ⟨_, finish, sampleStart_initial, run_of_execute ended,
    ⟨12, none, 2, _, sampleInvoice, by decide, known, rfl, storedLater, rfl⟩,
    ⟨retriedTopup, [], 100, 3, middle, sampleInvoice, _, rfl,
      run_of_execute executed, stored, rfl, paying, by simp,
      ⟨_, swept, rfl⟩, ?_⟩, uncredited⟩
  rw [known]
  rfl

/-- Over every interleaving, balances move by what is credited and withdrawn,
and each top-up is credited once when its row is settled and never before. -/
theorem balances_follow_credits {start finish : State} {actions : List TopupAction}
    (initial : start.Initial) (run : Run (Fires nextTopups) start actions finish) :
    Accounted start.db finish.db ∧ ∀ number, CreditedOnce finish.db number :=
  ⟨accounted_of_run run, creditedOnce_of_run initial run⟩

theorem balances_follow_credits_sample :
    ∃ finish, Run (Fires nextTopups) sampleStart retriedTopup finish ∧
      CreditedOnce finish.db 1 := by
  refine exists_run (fun _ => True) (by decide +kernel) ?_
  intro finish run _
  exact (balances_follow_credits sampleStart_initial run).2 1

end DcpPlatform.Topups
