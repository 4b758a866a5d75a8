import DcpPlatform.EscrowListener.Effects

/-!
# What a rejection returns

The payout service deducts the amount of a request from the earnings; the
listener inserts a request for a release and deducts nothing. Both kinds are
rejected by the same function, which returns the amount.
-/

namespace DcpPlatform.EscrowListener

open Foundation Table List Option
open Payouts (PayoutId ProviderId PayoutRequest claimable Effect Solvent Current
  SameMoney Sound isTerminalFailure isUnsettled)

/-! ## The system -/

/-- The payout service beside the listener. `deducted` is what the creation
of a request took from its provider, `released` the requests that the
listener has inserted; both are kept for reasoning only. -/
structure ListenedPayouts where
  core : Payouts.System
  records : Records
  deducted : PayoutId → Int
  released : List PayoutId

namespace ListenedPayouts

def db (state : ListenedPayouts) : Database :=
  { payouts := state.core.db, records := state.records }

end ListenedPayouts

inductive PayoutAction (Hash : Type) where
  | payout (action : Payouts.Action)
  | handle (log : Log Hash) (met : Circumstances)

def recordDeductions (before after : Payouts.Database)
    (deducted : PayoutId → Int) (payoutId : PayoutId) : Int :=
  if before.payoutRequests.lookup payoutId = none then
    match after.payoutRequests.lookup payoutId with
    | some row =>
      claimable before row.providerId - claimable after row.providerId
    | none => deducted payoutId
  else
    deducted payoutId

section Next

variable {Hash : Type} [DecidableEq Hash] (keccak256 : String → Hash)

def nextPayout (state : ListenedPayouts) :
    PayoutAction Hash → Option ListenedPayouts
  | .payout action =>
    (Payouts.next state.core action).map (fun core =>
      { state with
        core := core
        deducted := recordDeductions state.core.db core.db state.deducted })
  | .handle log met =>
    let handled := handleLog keccak256 state.db log met
    some
      { core := { state.core with db := handled.1.payouts }
        records := handled.1.records
        deducted := recordDeductions state.core.db handled.1.payouts state.deducted
        released := state.released ++ handled.2.filterMap Deed.request }

end Next

section Property

variable {Hash : Type}

def PayoutAction.earns : PayoutAction Hash → Bool
  | .payout action => action.earns
  | .handle _ _ => false

def Log.paysFor (log : Log Hash) (row : PayoutRequest) : Prop :=
  match log.event with
  | .claimed _ _ providerAmount _ =>
    row.amountHalala = amountHalala providerAmount
  | _ => False

instance (log : Log Hash) (row : PayoutRequest) :
    Decidable (log.paysFor row) := by
  apply Event.casesOn
    (motive := fun event => Decidable (Log.paysFor { log with event := event } row)) log.event
  all_goals
    intros
    dsimp only [Log.paysFor]
    infer_instance

/-- What the step returns to the provider of a request is what its creation
deducted, nothing else but earnings adds to what a provider can claim, and a
log moves to processing only what it pays for. -/
structure Faithful (state : ListenedPayouts) (action : PayoutAction Hash)
    (after : ListenedPayouts) : Prop where
  returns : ∀ payoutId row, after.core.returned = state.core.returned ++ [payoutId] →
    state.core.db.payoutRequests.lookup payoutId = some row → ∀ providerId,
      claimable after.core.db providerId = claimable state.core.db providerId +
        if providerId = row.providerId then
          state.deducted payoutId
        else
          0
  createsNothing : after.core.returned = state.core.returned → action.earns = false →
    ∀ providerId, claimable after.core.db providerId ≤ claimable state.core.db providerId
  paid : ∀ log met payoutId row moved, action = .handle log met →
    state.core.db.payoutRequests.lookup payoutId = some row → row.status = .pending →
    after.core.db.payoutRequests.lookup payoutId = some moved →
    moved.status = .processing → log.paysFor row

end Property

def rejects (system : Payouts.System) : Payouts.Action → Option PayoutId
  | .rejectPayout payoutId _ _ =>
    if system.db.payoutRequests.changes payoutId (fun row =>
      row.status = .pending ∨ row.status = .processing) then
      some payoutId
    else
      none
  | .fetchReturns call _ response =>
    match system.fetching[call]? with
    | some fetch =>
      if isTerminalFailure response.status = true ∧
        system.db.payoutRequests.changes fetch.row.id isUnsettled then
        some fetch.row.id
      else
        none
    | none => none
  | _ => none

def ListenedPayouts.IsUnheld (state : ListenedPayouts) (row : PayoutRequest) : Prop :=
  row.id ∈ state.released ∧ row.amountHalala ≠ 0

instance (state : ListenedPayouts) (row : PayoutRequest) :
    Decidable (state.IsUnheld row) :=
  inferInstanceAs (Decidable (_ ∧ _))

section Condition

variable {Hash : Type} [DecidableEq Hash] (keccak256 : String → Hash)

/-- No request that the listener has inserted is rejected, and a claim that
moves requests is of their amount. -/
def Spares (state : ListenedPayouts) : PayoutAction Hash → Prop
  | .payout action =>
    ∀ payoutId ∈ rejects state.core action,
      (state.core.db.payoutRequests.lookup payoutId).all (fun row =>
        ¬ state.IsUnheld row) = true
  | .handle log met =>
    match log.event with
    | .claimed jobId32 provider _ _ =>
      MovesRequests keccak256 state.db jobId32 provider log.transactionHash met.fails →
        ∀ row ∈ state.db.claimedRequests provider, log.paysFor row
    | _ => True

instance (state : ListenedPayouts) (action : PayoutAction Hash) :
    Decidable (Spares keccak256 state action) := by
  apply PayoutAction.casesOn (motive := fun action => Decidable (Spares keccak256 state action)) action
  · intro action
    exact decidable_of_iff ((rejects state.core action).all (fun payoutId =>
      (state.core.db.payoutRequests.lookup payoutId).all (fun row =>
        ¬ state.IsUnheld row)) = true)
      (by simp [Spares, Option.all_eq_true])
  · intro log met
    apply Event.casesOn
      (motive := fun event =>
        Decidable (Spares keccak256 state (.handle { log with event := event } met)))
      log.event
    all_goals
      intros
      dsimp only [Spares]
      infer_instance

end Condition

theorem not_isTerminalSuccess_of_failure {status : String}
    (failure : isTerminalFailure status = true) :
    Payouts.isTerminalSuccess status = false := by
  have three := of_decide_eq_true failure
  rcases three with rfl | rfl | rfl <;> rfl

theorem returnsHold_iff (db : Payouts.Database) (row : PayoutRequest)
    (now : Payouts.Timestamp) (response : Payouts.MoyasarPayout) :
    Payouts.returnsHold (Payouts.fetchPayoutReturned db row now response).2 ↔
      isTerminalFailure response.status = true ∧ db.payoutRequests.changes row.id isUnsettled := by
  unfold Payouts.fetchPayoutReturned
  by_cases success : Payouts.isTerminalSuccess response.status
  · have notFailure : ¬ isTerminalFailure response.status = true := by
      intro failure
      rw [not_isTerminalSuccess_of_failure failure] at success
      cases success
    rw [if_pos success]
    split
    · simp [Payouts.returnsHold, notFailure]
    · simp [Payouts.returnsHold, Payouts.freshResult, notFailure]
  · rw [if_neg success]
    by_cases failure : isTerminalFailure response.status
    · rw [if_pos failure]
      split
      · rename_i changed
        simp [Payouts.returnsHold, failure, changed]
      · rename_i unchanged
        simp [Payouts.returnsHold, Payouts.freshResult, unchanged]
    · rw [if_neg failure]
      simp [Payouts.returnsHold, failure]

theorem rejectPayout_isOk {db : Payouts.Database} {payoutId : PayoutId}
    {row : PayoutRequest} (now : Payouts.Timestamp) (reason : Option String)
    (found : db.payoutRequests.lookup payoutId = some row)
    (rejectable : row.status = .pending ∨ row.status = .processing) :
    ∃ result, Payouts.rejectPayout db payoutId now reason = Except.ok result := by
  cases outcome : Payouts.rejectPayout db payoutId now reason with
  | ok result =>
    exact ⟨result, rfl⟩
  | error failure =>
    rw [Payouts.rejectPayout, found] at outcome
    simp [orFail, require, rejectable, bind, Except.bind, pure, Except.pure] at outcome

theorem returned_of_step {system after : Payouts.System} {action : Payouts.Action}
    (step : Fires Payouts.next system action after) :
    after.returned = system.returned ++ (rejects system action).toList := by
  cases action with
  | rejectPayout payoutId now reason =>
    by_cases rejectable : system.db.payoutRequests.changes payoutId (fun row =>
      row.status = .pending ∨ row.status = .processing)
    · rw [rejects, if_pos rejectable]
      obtain ⟨row, found, status⟩ := rejectable
      obtain ⟨result, done⟩ := rejectPayout_isOk now reason found status
      simp only [Fires, Payouts.next, done, Payouts.onSuccess] at step
      obtain rfl := some.inj step
      rfl
    · rw [rejects, if_neg rejectable, toList_none, append_nil]
      cases outcome : Payouts.rejectPayout system.db payoutId now reason with
      | error failure =>
        simp only [Fires, Payouts.next, outcome, Payouts.onSuccess] at step
        obtain rfl := some.inj step
        rfl
      | ok result =>
        obtain ⟨row, found, status, _⟩ := Payouts.rejectPayout_eq_ok outcome
        exact absurd ⟨row, found, status⟩ rejectable
  | fetchReturns call now response =>
    cases Payouts.step_outcome step with
    | idle starts =>
      cases starts
    | @fetched _ _ _ row disbursement found truthful =>
      simp only [rejects, found, returnsHold_iff]
      split
      · rfl
      · exact (append_nil _).symm
  | _ =>
    change after.returned = system.returned ++ []
    rw [append_nil]
    cases Payouts.step_outcome step <;> rfl

section Effects

variable {db after : Payouts.Database}

theorem effect_returns {payoutId : PayoutId} (sound : ∀ row ∈ db.payoutRequests.rows, Sound db row)
    (effect : Effect db (some payoutId) after) :
    ∃ row, db.payoutRequests.lookup payoutId = some row ∧ ∀ providerId,
      claimable after providerId = claimable db providerId +
        if providerId = row.providerId then row.amountHalala
        else 0 := by
  cases effect with
  | @released row change keeps found notRejected rejected money =>
    refine ⟨row, found, ?_⟩
    intro providerId
    have known := (sound row (lookup_mem found)).2
    exact @Payouts.claimable_addClaimable
      (db.updateRequest row.id change keeps) row.providerId known
      row.amountHalala providerId

theorem effect_creates_nothing (effect : Effect db none after) (providerId : ProviderId) :
    claimable after providerId ≤ claimable db providerId := by
  cases effect with
  | unchanged | rewritten keeps money status =>
    exact Int.le_refl _
  | @reserved row fresh exists_ pending nonneg covered =>
    have balance := Payouts.claimable_addClaimable exists_ (-row.amountHalala) providerId
    change claimable (db.addClaimable row.providerId (-row.amountHalala)) providerId ≤ _
    rw [balance]
    split <;> omega

theorem effect_row {ret : Option PayoutId} {row : PayoutRequest} (effect : Effect db ret after)
    (found : after.payoutRequests.lookup row.id = some row) :
    (∃ earlier, db.payoutRequests.lookup row.id = some earlier ∧ SameMoney earlier row) ∨
      (db.payoutRequests.lookup row.id = none ∧
        claimable db row.providerId - claimable after row.providerId = row.amountHalala) := by
  cases effect with
  | unchanged =>
    exact Or.inl ⟨row, found, rfl, rfl⟩
  | rewritten keeps money status | released keeps _ _ _ money =>
    rcases lookup_of_lookup_update keeps found with ⟨_, earlier, stored, changed⟩ | ⟨_, stored⟩
    · exact Or.inl ⟨earlier, stored, changed ▸ money earlier⟩
    · exact Or.inl ⟨row, stored, rfl, rfl⟩
  | @reserved new fresh exists_ pending nonneg covered =>
    rw [lookup_insert] at found
    by_cases same : new.id = row.id
    · rw [if_pos same] at found
      obtain rfl := some.inj found
      have balance := Payouts.claimable_addClaimable exists_ (-new.amountHalala) new.providerId
      rw [if_pos rfl] at balance
      refine Or.inr ⟨fresh, ?_⟩
      change _ - claimable (db.addClaimable new.providerId (-new.amountHalala)) new.providerId = _
      omega
    · rw [if_neg same] at found
      exact Or.inl ⟨row, found, rfl, rfl⟩

end Effects

/-- The books are solvent, a request of the service was deducted and one of
the listener was not. -/
structure Accounted (state : ListenedPayouts) : Prop where
  solvent : Solvent state.core
  deducted : ∀ row ∈ state.core.db.payoutRequests.rows, state.deducted row.id =
    if row.id ∈ state.released then 0 else row.amountHalala
  stored : ∀ payoutId ∈ state.released, state.core.db.payoutRequests.lookup payoutId ≠ none

theorem Accounted.of_initial {state : ListenedPayouts}
    (initial : state.core.Initial) (released : state.released = []) :
    Accounted state where
  solvent := (Payouts.balanced_initial initial).solvent
  deducted := by
    intro row member
    rw [initial.noRequests] at member
    cases member
  stored := by
    intro payoutId member
    rw [released] at member
    cases member

section Steps

variable {Hash : Type} [DecidableEq Hash] (keccak256 : String → Hash)
    {state after : ListenedPayouts} {before later : Payouts.Database}
    {deducted : PayoutId → Int}

theorem recordDeductions_of_stored {payoutId : PayoutId}
    (stored : before.payoutRequests.lookup payoutId ≠ none) :
    recordDeductions before later deducted payoutId = deducted payoutId :=
  if_neg stored

theorem recordDeductions_of_new {row : PayoutRequest}
    (fresh : before.payoutRequests.lookup row.id = none)
    (found : later.payoutRequests.lookup row.id = some row) :
    recordDeductions before later deducted row.id =
      claimable before row.providerId - claimable later row.providerId := by
  rw [recordDeductions, if_pos fresh, found]

theorem Accounted.recorded (accounted : Accounted state) {earlier row : PayoutRequest}
    (found : state.core.db.payoutRequests.lookup row.id = some earlier)
    (money : SameMoney earlier row) :
    recordDeductions state.core.db later state.deducted row.id =
      if row.id ∈ state.released then 0 else row.amountHalala := by
  have stored : state.core.db.payoutRequests.lookup row.id ≠ none := by
    rw [found]
    exact some_ne_none earlier
  have booked := accounted.deducted earlier (lookup_mem found)
  rw [lookup_key found] at booked
  rw [recordDeductions_of_stored stored, booked, money.2]

variable {core : Payouts.System} {action : Payouts.Action}

theorem Accounted.payout_step (accounted : Accounted state)
    (step : Fires Payouts.next state.core action core) :
    Accounted { state with
      core := core
      deducted := recordDeductions state.core.db core.db state.deducted } := by
  have solvent := Payouts.solvent_step accounted.solvent step
  have rows (row : PayoutRequest) (found : core.db.payoutRequests.lookup row.id = some row) :
      (∃ earlier,
        state.core.db.payoutRequests.lookup row.id = some earlier ∧ SameMoney earlier row) ∨
        (state.core.db.payoutRequests.lookup row.id = none ∧
          claimable state.core.db row.providerId - claimable core.db row.providerId =
            row.amountHalala) := by
    cases Payouts.step_booked accounted.solvent step with
    | effect effect _ _ => exact effect_row effect found
    | earned known => exact Or.inl ⟨row, found, rfl, rfl⟩
  have kept (payoutId : PayoutId) (stored : state.core.db.payoutRequests.lookup payoutId ≠ none) :
      core.db.payoutRequests.lookup payoutId ≠ none := by
    obtain ⟨row, found⟩ := ne_none_iff_exists'.mp stored
    have current : Current state.core.db row := by
      refine ⟨row, ?_, rfl, rfl⟩
      rw [lookup_key found]
      exact found
    obtain ⟨later, laterFound, _⟩ := Payouts.booked_current
      (Payouts.step_booked accounted.solvent step) current
    rw [lookup_key found] at laterFound
    rw [laterFound]
    exact some_ne_none later
  refine ⟨solvent, ?_, ?_⟩
  · intro row member
    have found := lookup_of_mem member
    rcases rows row found with ⟨earlier, stored, money⟩ | ⟨fresh, taken⟩
    · exact accounted.recorded stored money
    · have unreleased : row.id ∉ state.released := by
        intro released
        exact accounted.stored row.id released fresh
      dsimp only
      rw [recordDeductions_of_new fresh found, if_neg unreleased]
      exact taken
  · intro payoutId released
    exact kept payoutId (accounted.stored payoutId released)

theorem Accounted.handle_step (accounted : Accounted state) {records : Records}
    {requests : List PayoutId} {Moves : Database → String → Prop}
    (handled : Handled Moves state.core.db later requests) :
    Accounted
      { core := { state.core with db := later }
        records := records
        deducted := recordDeductions state.core.db later state.deducted
        released := state.released ++ requests } := by
  have rowsOf (row : PayoutRequest) (member : row ∈ later.payoutRequests.rows) :=
    handled.row_of_after (lookup_of_mem member)
  refine ⟨⟨?_, ?_, ?_⟩, ?_, ?_⟩
  · intro providerId
    rw [handled.claimable]
    exact accounted.solvent.covered providerId
  · intro row member
    rw [Sound, handled.providers]
    rcases rowsOf row member with ⟨earlier, stored, money, _⟩ | ⟨_, _, sound⟩
    · have facts := accounted.solvent.sound earlier (lookup_mem stored)
      rw [money.1, money.2]
      exact facts
    · exact sound
  · intro call member
    obtain ⟨row, found, money⟩ := accounted.solvent.current call member
    obtain ⟨kept, keptFound, same⟩ := handled.kept_row found
    refine ⟨kept, keptFound, ?_, ?_⟩
    · rw [money.1, same.1]
    · rw [money.2, same.2]
  · intro row member
    dsimp only at member ⊢
    rcases rowsOf row member with ⟨earlier, stored, money, other⟩ | ⟨fresh, inserted, _⟩
    · rw [accounted.recorded stored money]
      simp [other]
    · rw [recordDeductions_of_new fresh (lookup_of_mem member),
        handled.claimable, Int.sub_self, inserted, if_pos (by simp)]
  · intro payoutId member
    rcases mem_append.mp member with old | new
    · obtain ⟨row, found⟩ := ne_none_iff_exists'.mp (accounted.stored payoutId old)
      obtain ⟨kept, keptFound, _⟩ := handled.kept_row found
      rw [keptFound]
      exact some_ne_none kept
    · exact (handled.fresh new).2

theorem accounted_step {action : PayoutAction Hash} (accounted : Accounted state)
    (step : Fires (nextPayout keccak256) state action after) :
    Accounted after := by
  cases action with
  | payout action =>
    obtain ⟨core, fires, rfl⟩ := map_eq_some_iff.mp step
    exact accounted.payout_step fires
  | handle log met =>
    obtain rfl := some.inj step
    exact accounted.handle_step (handleLog_handled keccak256 state.db log met)

theorem append_toList_inj {items : List PayoutId} {first second : Option PayoutId}
    (same : items ++ first.toList = items ++ second.toList) :
    first = second := by
  cases first <;> cases second <;> simp_all

theorem faithful_payout_iff (accounted : Accounted state)
    (step : Fires Payouts.next state.core action core) :
    Faithful state (PayoutAction.payout action : PayoutAction Hash) { state with
      core := core
      deducted := recordDeductions state.core.db core.db state.deducted } ↔
      Spares keccak256 state (.payout action) := by
  have returned := returned_of_step step
  have paid : ∀ (log : Log Hash) (met : Circumstances) (payoutId : PayoutId)
      (row moved : PayoutRequest),
        (PayoutAction.payout action : PayoutAction Hash) = .handle log met →
          state.core.db.payoutRequests.lookup payoutId = some row →
          row.status = .pending → core.db.payoutRequests.lookup payoutId = some moved →
          moved.status = .processing → log.paysFor row := by
    intro log met payoutId row moved same
    cases same
  have effectOf (other : action.earns = false) :
      Effect state.core.db (rejects state.core action) core.db := by
    obtain ⟨ret, effect, _, shape⟩ := Payouts.step_effect accounted.solvent step other
    rw [returned] at shape
    rw [append_toList_inj shape]
    exact effect
  have creates (stays : core.returned = state.core.returned)
      (other : action.earns = false) (providerId : ProviderId) :
      claimable core.db providerId ≤ claimable state.core.db providerId := by
    have effect := effectOf other
    rw [returned] at stays
    have nothing : rejects state.core action = none := by
      apply @append_toList_inj state.core.returned
      rw [stays, toList_none, append_nil]
    rw [nothing] at effect
    exact effect_creates_nothing effect providerId
  cases rejected : rejects state.core action with
  | none =>
    rw [rejected, toList_none, append_nil] at returned
    refine iff_of_true ⟨?_, creates, paid⟩ ?_
    · intro payoutId row grown
      rw [returned] at grown
      simp at grown
    · intro payoutId member
      rw [rejected] at member
      cases member
  | some payoutId =>
    have other : action.earns = false := by
      cases action <;> first | rfl | cases rejected
    have effect := effectOf other
    rw [rejected] at returned effect
    obtain ⟨row, found, increases⟩ := effect_returns accounted.solvent.sound effect
    have booked := accounted.deducted row (lookup_mem found)
    rw [lookup_key found] at booked
    have heldIff : state.deducted payoutId = row.amountHalala ↔ ¬ state.IsUnheld row := by
      rw [booked, ListenedPayouts.IsUnheld, lookup_key found]
      by_cases released : payoutId ∈ state.released
      · simp [eq_comm]
      · simp [released]
    have spares : Spares keccak256 state (.payout action) ↔ ¬ state.IsUnheld row := by
      simp [Spares, rejected, found]
    rw [spares, ← heldIff]
    constructor
    · intro faithful
      have exact_ := faithful.returns payoutId row returned found row.providerId
      rw [increases, if_pos rfl, if_pos rfl] at exact_
      omega
    · intro same
      refine ⟨?_, creates, paid⟩
      intro otherId otherRow grown otherFound providerId
      rw [returned] at grown
      have ids := append_cancel_left grown
      obtain rfl : payoutId = otherId := by simpa using ids
      rw [found] at otherFound
      obtain rfl := some.inj otherFound
      rw [increases, same]

theorem faithful_handle_iff (log : Log Hash) (met : Circumstances)
    (step : nextPayout keccak256 state (.handle log met) = some after) :
    Faithful state (.handle log met) after ↔ Spares keccak256 state (.handle log met) := by
  obtain rfl := some.inj step
  have handled := handleLog_handled keccak256 state.db log met
  constructor
  · intro faithful
    unfold Spares
    dsimp only
    split
    · rename_i jobId32 provider providerAmount feeAmount event
      intro moves row member
      obtain ⟨stored, claimed⟩ := mem_filter.mp member
      have claimedRow := of_decide_eq_true claimed
      have found : state.core.db.payoutRequests.lookup row.id = some row := lookup_of_mem stored
      refine faithful.paid log met row.id row (process row) rfl found claimedRow.1 ?_ rfl
      simp only [handleLog, event, handleClaimed_payouts, if_pos moves]
      rw [lookup_updateAll_processRow]
      change (state.core.db.payoutRequests.lookup row.id).map _ = _
      rw [found, map_some, Database.processRow, if_pos claimedRow]
    · trivial
  · intro spares
    refine ⟨?_, ?_, ?_⟩
    · intro payoutId row grown
      simp at grown
    · intro _ _ providerId
      exact le_of_eq (handled.claimable providerId)
    · intro other otherMet payoutId row moved same found pending movedFound processing
      cases same
      obtain ⟨listened, provider, ⟨rfl, jobId32, providerAmount, feeAmount,
        event, moves⟩, claimed⟩ := handled.moved found pending movedFound processing
      simp only [Spares, event] at spares
      exact spares moves row (mem_filter.mpr ⟨lookup_mem found, decide_eq_true claimed⟩)

theorem faithful_iff {action : PayoutAction Hash} (accounted : Accounted state)
    (step : Fires (nextPayout keccak256) state action after) :
    Faithful state action after ↔ Spares keccak256 state action := by
  cases action with
  | payout action =>
    obtain ⟨core, fires, rfl⟩ := map_eq_some_iff.mp step
    exact faithful_payout_iff keccak256 accounted fires
  | handle log met =>
    exact faithful_handle_iff keccak256 log met step

/-- Every step of a run returns what the creation of a request deducted,
creates no earnings and moves only what a claim pays for, exactly when no
step rejects a request that the listener has inserted with an amount and no
claim of another amount moves a request. -/
theorem rejections_return_deductions_iff {start : ListenedPayouts}
    (initial : start.core.Initial) (released : start.released = [])
    (actions : List (PayoutAction Hash)) (target : ListenedPayouts) :
    Run (fun state action after =>
      Fires (nextPayout keccak256) state action after ∧
        Faithful state action after) start actions target ↔
      Run (guarded (Fires (nextPayout keccak256)) (Spares keccak256)) start actions target := by
  apply Run.congr_of_invariant Accounted
  · intro state after action accounted taken
    exact accounted_step keccak256 accounted taken.1
  · intro state after action accounted
    constructor
    · rintro ⟨step, faithful⟩
      exact ⟨(faithful_iff keccak256 accounted step).mp faithful, step⟩
    · rintro ⟨spares, step⟩
      exact ⟨step, (faithful_iff keccak256 accounted step).mpr spares⟩
  · exact Accounted.of_initial initial released

end Steps

def sampleListened : ListenedPayouts where
  core := Payouts.sampleSystem
  records :=
    { paymentEvents := Table.empty
      jobs := Table.empty
      ethAccounts := ⟨[{ providerId := 1, ethAddress := "0xab" }], List.nodup_singleton _⟩
      payoutTxHash := fun _ => none
      alerts := [] }
  deducted := fun _ => 0
  released := []

def sampleClaim (amount : Nat) : Log String where
  blockNumber := 10
  logIndex := 0
  transactionHash := 77
  event := .claimed "job" "0xAB" amount 0

def sampleRelease : Log String where
  blockNumber := 10
  logIndex := 1
  transactionHash := 78
  event := .paymentReleased "job" "0xAB" 10000000

def sampleMet : Circumstances :=
  { payoutId := 5, now := 1, fails := none }

def sampleRejection : List (PayoutAction String) :=
  [.payout (.requestPayout 7 0 1 (some 60)), .handle (sampleClaim 60000000) sampleMet,
    .payout (.rejectPayout 7 2 none)]

theorem rejections_return_deductions_sample :
    ∃ target, Run (fun state action after =>
      Fires (nextPayout id) state action after ∧ Faithful state action after)
        sampleListened sampleRejection target := by
  obtain ⟨target, executed, _⟩ := @exists_of_execute_any _ _
      (restricted (nextPayout id) (Spares id)) (fun _ => True) _
      sampleRejection sampleListened (by decide +kernel)
  refine ⟨target, (rejections_return_deductions_iff id
    Payouts.sampleSystem_initial rfl sampleRejection target).mpr ?_⟩
  exact run_guarded_of_execute executed

/-- Rejecting a request that the listener has inserted creates 37.50 SAR, and
a claim of one millionth of a dollar moves a request of 60 USD. -/
theorem rejection_creates_earnings :
    claimable sampleListened.core.db 1 = 40000 ∧ (∃ target,
      Run (Fires (nextPayout id)) sampleListened
        [.handle sampleRelease sampleMet, .payout (.rejectPayout 5 2 none)] target ∧
        target.deducted 5 = 0 ∧
        claimable target.core.db 1 = 43750) ∧
      ∃ target, Run (Fires (nextPayout id)) sampleListened
        [.payout (.requestPayout 7 0 1 (some 60)), .handle (sampleClaim 1) sampleMet] target ∧
          (target.core.db.payoutRequests.lookup 7).map (fun row => (row.amountHalala, row.status)) =
            some (22500, .processing) ∧
          amountHalala 1 = 0 := by
  refine ⟨by decide +kernel, ?_, ?_⟩
  · obtain ⟨target, executed, created⟩ := @exists_of_execute_any _ _ (nextPayout id) (fun target =>
        target.deducted 5 = 0 ∧ claimable target.core.db 1 = 43750) _
        [.handle sampleRelease sampleMet, .payout (.rejectPayout 5 2 none)]
        sampleListened (by decide +kernel)
    exact ⟨target, run_of_execute executed, created⟩
  · obtain ⟨target, executed, moved⟩ := @exists_of_execute_any _ _ (nextPayout id) (fun target =>
        (target.core.db.payoutRequests.lookup 7).map (fun row => (row.amountHalala, row.status)) =
          some (22500, .processing) ∧
        amountHalala 1 = 0) _
        [.payout (.requestPayout 7 0 1 (some 60)), .handle (sampleClaim 1) sampleMet]
        sampleListened (by decide +kernel)
    exact ⟨target, run_of_execute executed, moved⟩

end DcpPlatform.EscrowListener
