import DcpPlatform.Payouts.Conservation

/-!
# One request pays its provider once

A request is backed when the gateway has accepted a disbursement for it that
has not failed. Rejecting a request by hand while it is being processed can
pay its provider twice; `Permitted` excludes it.
-/

namespace DcpPlatform.Payouts

open Foundation Table List

def Backed (system : System) (payoutId : PayoutId) : Prop :=
  ∃ disbursement ∈ system.disbursements.rows,
    disbursement.payoutRequestId = payoutId ∧ disbursement.failed = false
deriving Decidable

/-- No request has both its hold returned and money sent. -/
def Exclusive (system : System) : Prop :=
  ∀ payoutId, Rejected system.db payoutId → ¬ Backed system payoutId

def Processing (db : Database) (payoutId : PayoutId) : Prop :=
  db.payoutRequests.changes payoutId (fun row => row.status = .processing)
deriving Decidable

/-- A request is not rejected by hand while it is processed and backed, and
the gateway accepts no disbursement of a request that is rejected. -/
def Permitted (system : System) : Action → Prop
  | .rejectPayout id _ _ =>
    ¬ (Processing system.db id ∧ Backed system id)
  | .gatewayAccepts call _ =>
    ∀ suspended ∈ system.creating[call]?, ¬ Rejected system.db suspended.request.payoutId
  | _ => True

instance (system : System) (action : Action) :
    Decidable (Permitted system action) := by
  cases action <;> unfold Permitted <;> infer_instance

abbrev Requests := Table PayoutRequest PayoutRequest.id

abbrev Disbursements := Table Disbursement Disbursement.id

def Begun (requests : Requests) (payoutId : PayoutId) : Prop :=
  ∃ row, requests.lookup payoutId = some row ∧ row.status ≠ .pending

def Accepted (disbursements : Disbursements) (payoutId : PayoutId) (id : DisbursementId) : Prop :=
  ∃ disbursement ∈ disbursements.rows,
    disbursement.id = id ∧ disbursement.payoutRequestId = payoutId

def Linked (requests : Requests) (disbursements : Disbursements) : Prop :=
  ∀ payoutId row id, requests.lookup payoutId = some row →
    row.moyasarPayoutId = some id → Accepted disbursements payoutId id

/-- Every call and every disbursement belongs to a request that has begun,
no request has two of either, and a call that is not accepted has no
disbursement. -/
structure Tracked (requests : Requests) (creating : List CreateCall)
    (fetching : List FetchCall) (disbursements : Disbursements) :
    Prop where
  calls : ∀ call ∈ creating, Begun requests call.request.payoutId
  distinct : (creating.map (fun call => call.request.payoutId)).Nodup
  unaccepted : ∀ call ∈ creating, call.accepted = none →
    ∀ id, ¬ Accepted disbursements call.request.payoutId id
  accepted : ∀ call ∈ creating, ∀ id, call.accepted = some id →
    Accepted disbursements call.request.payoutId id
  begun : ∀ payoutId id, Accepted disbursements payoutId id → Begun requests payoutId
  single : ∀ payoutId first second, Accepted disbursements payoutId first →
    Accepted disbursements payoutId second →
    first = second
  linked : Linked requests disbursements
  fetched : ∀ call ∈ fetching, Accepted disbursements call.row.id call.disbursement

def System.Tracked (system : System) : Prop :=
  DcpPlatform.Payouts.Tracked system.db.payoutRequests system.creating
    system.fetching system.disbursements

section Requests

variable {requests : Requests} {creating : List CreateCall}
  {fetching : List FetchCall} {disbursements : Disbursements}

structure Calm (requests after : Requests) : Prop where
  begun : ∀ payoutId, Begun requests payoutId → Begun after payoutId
  links : ∀ payoutId row id, after.lookup payoutId = some row → row.moyasarPayoutId = some id →
    ∃ earlier, requests.lookup payoutId = some earlier ∧ earlier.moyasarPayoutId = some id

theorem Calm.refl (requests : Requests) : Calm requests requests where
  begun := fun _ begun => begun
  links := fun _ row _ found sent => ⟨row, found, sent⟩

variable {payoutId : PayoutId}

theorem calm_update {change : PayoutRequest → PayoutRequest}
    (keeps : ∀ row, (change row).id = row.id)
    (sameLink : ∀ row, (change row).moyasarPayoutId = row.moyasarPayoutId)
    (leaves : ∀ row, row.status ≠ .pending → (change row).status ≠ .pending) :
    Calm requests (requests.update payoutId change keeps) := by
  constructor
  · rintro other ⟨row, found, begun⟩
    by_cases same : other = payoutId
    · subst same
      exact ⟨change row, lookup_update_of_some requests change keeps found, leaves row begun⟩
    · exact ⟨row, (lookup_update_of_ne requests keeps same).trans found, begun⟩
  · intro other row id found sent
    rcases lookup_of_lookup_update keeps found with ⟨_, earlier, stored, rfl⟩ | ⟨_, stored⟩
    · rw [sameLink] at sent
      exact ⟨earlier, stored, sent⟩
    · exact ⟨row, stored, sent⟩

variable {row : PayoutRequest}

theorem calm_insert (fresh : requests.lookup row.id = none) (unsent : row.moyasarPayoutId = none) :
    Calm requests (requests.insert row fresh) := by
  constructor
  · rintro payoutId ⟨earlier, found, begun⟩
    exact ⟨earlier, lookup_insert_of_some requests fresh found, begun⟩
  · intro payoutId other id found sent
    rw [lookup_insert] at found
    split at found
    · cases found
      rw [unsent] at sent
      cases sent
    · exact ⟨other, found, sent⟩

variable {after : Requests}

theorem Tracked.of_requests (tracked : Tracked requests creating fetching disbursements)
    (calls : ∀ call ∈ creating, Begun after call.request.payoutId)
    (begun : ∀ payoutId id, Accepted disbursements payoutId id → Begun after payoutId)
    (linked : Linked after disbursements) :
    Tracked after creating fetching disbursements :=
  ⟨calls, tracked.distinct, tracked.unaccepted, tracked.accepted, begun,
    tracked.single, linked, tracked.fetched⟩

theorem Tracked.calm (tracked : Tracked requests creating fetching disbursements)
    (calm : Calm requests after) :
    Tracked after creating fetching disbursements := by
  apply tracked.of_requests
  · intro call member
    exact calm.begun _ (tracked.calls call member)
  · intro payoutId id accepted
    exact calm.begun _ (tracked.begun payoutId id accepted)
  · intro payoutId row id found sent
    obtain ⟨earlier, stored, earlierSent⟩ := calm.links payoutId row id found sent
    exact tracked.linked payoutId earlier id stored earlierSent

theorem Tracked.of_fetching {after : List FetchCall}
    (tracked : Tracked requests creating fetching disbursements)
    (fetched : ∀ call ∈ after, Accepted disbursements call.row.id call.disbursement) :
    Tracked requests creating after disbursements :=
  ⟨tracked.calls, tracked.distinct, tracked.unaccepted,
    tracked.accepted, tracked.begun, tracked.single, tracked.linked,
    fetched⟩

variable {request : CreatePayout}

variable (tracked : Tracked requests creating fetching disbursements)

include tracked

theorem Tracked.push (begun : Begun requests request.payoutId)
    (alone : ∀ call ∈ creating, call.request.payoutId ≠ request.payoutId)
    (unaccepted : ∀ id, ¬ Accepted disbursements request.payoutId id) :
    Tracked requests (creating ++ [⟨request, none⟩]) fetching
      disbursements := by
  refine ⟨?_, ?_, ?_, ?_, tracked.begun, tracked.single, tracked.linked, tracked.fetched⟩
  · intro call member
    rcases mem_append.mp member with old | new
    · exact tracked.calls call old
    · rw [mem_singleton.mp new]
      exact begun
  · rw [map_append]
    refine tracked.distinct.append (by simp) ?_
    intro payoutId oldMember newMember
    obtain ⟨call, member, rfl⟩ := mem_map.mp oldMember
    simp only [map_cons, map_nil, mem_singleton] at newMember
    exact alone call member newMember
  · intro call member isOpen id
    rcases mem_append.mp member with old | new
    · exact tracked.unaccepted call old isOpen id
    · rw [mem_singleton.mp new]
      exact unaccepted id
  · intro call member id accepted
    rcases mem_append.mp member with old | new
    · exact tracked.accepted call old id accepted
    · rw [mem_singleton.mp new] at accepted
      cases accepted

theorem Tracked.position_unique {first second : Nat} {call other : CreateCall}
    (firstFound : creating[first]? = some call)
    (secondFound : creating[second]? = some other)
    (same : call.request.payoutId = other.request.payoutId) :
    first = second := by
  obtain ⟨bound, _⟩ := List.getElem?_eq_some_iff.mp firstFound
  refine (getElem?_inj (by simpa using bound) tracked.distinct).mp ?_
  simp [firstFound, secondFound, same]

theorem Tracked.others {position other : Nat} {call otherCall : CreateCall}

    (found : creating[position]? = some call) (different : other ≠ position)
    (otherFound : creating[other]? = some otherCall) :
    otherCall.request.payoutId ≠ call.request.payoutId := by
  intro same
  exact different (tracked.position_unique otherFound found same)

theorem Tracked.finish (position : Nat) :
    Tracked requests (creating.eraseIdx position) fetching
      disbursements := by
  have remains {call : CreateCall} (member : call ∈ creating.eraseIdx position) : call ∈ creating :=
    mem_of_mem_eraseIdx member
  refine ⟨?_, ?_, ?_, ?_, tracked.begun, tracked.single, tracked.linked, tracked.fetched⟩
  · intro call member
    exact tracked.calls call (remains member)
  · exact tracked.distinct.sublist ((eraseIdx_sublist creating position).map _)
  · intro call member
    exact tracked.unaccepted call (remains member)
  · intro call member
    exact tracked.accepted call (remains member)

omit tracked

variable {disbursement : Disbursement} {id : DisbursementId}

theorem accepted_insert (fresh : disbursements.lookup disbursement.id = none) :
    Accepted (disbursements.insert disbursement fresh) payoutId id ↔
      Accepted disbursements payoutId id ∨
        (disbursement.id = id ∧ disbursement.payoutRequestId = payoutId) := by
  simp only [Accepted, insert_rows, mem_append, mem_singleton]
  constructor
  · rintro ⟨other, old | rfl, facts⟩
    · exact Or.inl ⟨other, old, facts⟩
    · exact Or.inr facts
  · rintro (⟨other, old, facts⟩ | facts)
    · exact ⟨other, Or.inl old, facts⟩
    · exact ⟨disbursement, Or.inr rfl, facts⟩

variable {position : Nat}

theorem mem_set_cases {fresh call : CreateCall} (member : call ∈ creating.set position fresh) :
    call = fresh ∨ ∃ other, other ≠ position ∧ creating[other]? = some call := by
  obtain ⟨other, found⟩ := mem_iff_getElem?.mp member
  by_cases same : position = other
  · subst same
    rw [getElem?_set, if_pos rfl] at found
    obtain ⟨_, equality⟩ := of_ite_eq_some found
    exact Or.inl equality.symm
  · rw [getElem?_set_ne same] at found
    exact Or.inr ⟨other, Ne.symm same, found⟩

theorem Tracked.accept (tracked : Tracked requests creating fetching disbursements)
    (fresh : disbursements.lookup disbursement.id = none)
    (found : creating[position]? = some ⟨request, none⟩)
    (forRequest : disbursement.payoutRequestId = request.payoutId) :
    Tracked requests (creating.set position ⟨request, some disbursement.id⟩) fetching
      (disbursements.insert disbursement fresh) := by
  have foundMember := mem_of_getElem? found
  have noneYet := tracked.unaccepted _ foundMember rfl
  have keeps {payoutId : PayoutId} {id : DisbursementId}
      (accepted : Accepted disbursements payoutId id) :
      Accepted (disbursements.insert disbursement fresh) payoutId id :=
    (accepted_insert fresh).mpr (Or.inl accepted)
  refine ⟨?_, ?_, ?_, ?_, ?_, ?_, ?_, ?_⟩
  · intro call member
    rcases mem_set_cases member with rfl | ⟨other, _, otherFound⟩
    · exact tracked.calls ⟨request, none⟩ foundMember
    · exact tracked.calls call (mem_of_getElem? otherFound)
  · have same : (creating.set position ⟨request, some disbursement.id⟩).map
        (·.request.payoutId) = creating.map (·.request.payoutId) := by
      obtain ⟨bound, equality⟩ := List.getElem?_eq_some_iff.mp found
      rw [map_set]
      have inRange : position < (creating.map (·.request.payoutId)).length := by
        simpa using bound
      have entry : (creating.map (·.request.payoutId))[position] =
          request.payoutId := by
        simp [equality]
      rw [← entry]
      exact set_getElem_self _
    rw [same]
    exact tracked.distinct
  · intro call member isOpen id accepted
    rcases mem_set_cases member with rfl | ⟨other, different, otherFound⟩
    · cases isOpen
    · rcases (accepted_insert fresh).mp accepted with old | ⟨_, new⟩
      · exact tracked.unaccepted call (mem_of_getElem? otherFound) isOpen id old
      · exact tracked.others found different otherFound (new.symm.trans forRequest)
  · intro call member id accepted
    rcases mem_set_cases member with rfl | ⟨other, _, otherFound⟩
    · injection accepted with same
      exact (accepted_insert fresh).mpr (Or.inr ⟨same, forRequest⟩)
    · exact keeps (tracked.accepted call (mem_of_getElem? otherFound) id accepted)
  · intro payoutId id accepted
    rcases (accepted_insert fresh).mp accepted with old | ⟨_, rfl⟩
    · exact tracked.begun payoutId id old
    · rw [forRequest]
      exact tracked.calls ⟨request, none⟩ foundMember
  · intro payoutId first second firstAccepted secondAccepted
    rcases (accepted_insert fresh).mp firstAccepted with firstOld | ⟨firstSame, firstNew⟩
    · rcases (accepted_insert fresh).mp secondAccepted with secondOld | ⟨_, secondNew⟩
      · exact tracked.single payoutId first second firstOld secondOld
      · rw [← secondNew, forRequest] at firstOld
        exact absurd firstOld (noneYet first)
    · rcases (accepted_insert fresh).mp secondAccepted with secondOld | ⟨secondSame, _⟩
      · rw [← firstNew, forRequest] at secondOld
        exact absurd secondOld (noneYet second)
      · exact firstSame.symm.trans secondSame
  · intro payoutId row id rowFound sent
    exact keeps (tracked.linked payoutId row id rowFound sent)
  · intro call member
    exact keeps (tracked.fetched call member)

theorem accepted_fail {failed : DisbursementId} :
    Accepted (disbursements.update failed (fun disbursement => { disbursement with failed := true })
      (fun _ => rfl)) payoutId id ↔
      Accepted disbursements payoutId id := by
  constructor
  · rintro ⟨disbursement, member, facts⟩
    obtain ⟨earlier, earlierMember, rfl⟩ := mem_map.mp member
    refine ⟨earlier, earlierMember, ?_⟩
    split at facts <;> exact facts
  · rintro ⟨earlier, member, facts⟩
    refine ⟨_, mem_map.mpr ⟨earlier, member, rfl⟩, ?_⟩
    split <;> exact facts

theorem Tracked.fail (tracked : Tracked requests creating fetching disbursements)
    (id : DisbursementId) :
    Tracked requests creating fetching (disbursements.update id
      (fun disbursement => { disbursement with failed := true })
      (fun _ => rfl)) := by
  refine ⟨tracked.calls, tracked.distinct, ?_, ?_, ?_, ?_, ?_, ?_⟩
  · intro call member isOpen other accepted
    exact tracked.unaccepted call member isOpen other (accepted_fail.mp accepted)
  · intro call member other accepted
    exact accepted_fail.mpr (tracked.accepted call member other accepted)
  · intro payoutId other accepted
    exact tracked.begun payoutId other (accepted_fail.mp accepted)
  · intro payoutId first second firstAccepted secondAccepted
    exact tracked.single payoutId first second
      (accepted_fail.mp firstAccepted) (accepted_fail.mp secondAccepted)
  · intro payoutId row other found sent
    exact accepted_fail.mpr (tracked.linked payoutId row other found sent)
  · intro call member
    exact accepted_fail.mpr (tracked.fetched call member)

theorem Tracked.pending_alone (tracked : Tracked requests creating fetching disbursements)
    (found : requests.lookup payoutId = some row)
    (pending : row.status = .pending) :
    (∀ id, ¬ Accepted disbursements payoutId id) ∧
      ∀ call ∈ creating, call.request.payoutId ≠ payoutId := by
  have notBegun : ¬ Begun requests payoutId := by
    rintro ⟨other, otherFound, begun⟩
    rw [found] at otherFound
    injection otherFound with same
    exact begun (same ▸ pending)
  constructor
  · intro id accepted
    exact notBegun (tracked.begun payoutId id accepted)
  · intro call member same
    exact notBegun (same ▸ tracked.calls call member)

end Requests

theorem fetchPayoutReturned_calm (db : Database)
    (snapshot : PayoutRequest) (now : Timestamp) (response : MoyasarPayout) :
    Calm db.payoutRequests (fetchPayoutReturned db snapshot now response).1.payoutRequests := by
  have fetched := fetchPayoutReturned_fetched db snapshot now response
  generalize fetchPayoutReturned db snapshot now response = outcome at fetched ⊢
  cases fetched with
  | paid _ _ =>
    exact calm_update (setSyncedPaid_id now response) (fun _ => rfl)
      (fun _ _ => by simp [setSyncedPaid])
  | rejected _ _ _ =>
    exact calm_update (setSyncedRejected_id now response)
      (fun _ => rfl) (fun _ _ => by simp [setSyncedRejected])
  | settledByPeer =>
    exact Calm.refl _
  | inFlight =>
    exact calm_update (setSyncedStatus_id response) (fun _ => rfl) (fun _ begun => begun)

variable {system : System} {request : CreatePayout} {call : Nat}

theorem tracked_created {response : MoyasarPayout} (tracked : system.Tracked)
    (found : system.creating[call]? = some ⟨request, some response.id⟩) :
    Tracked (createPayoutReturned system.db request.payoutId response).payoutRequests
      (system.creating.eraseIdx call) system.fetching
      system.disbursements := by
  have accepted := tracked.accepted _ (mem_of_getElem? found) response.id rfl
  have begun {payoutId : PayoutId} (earlier : Begun system.db.payoutRequests payoutId) :
      Begun (createPayoutReturned system.db request.payoutId response).payoutRequests payoutId := by
    obtain ⟨row, rowFound, isBegun⟩ := earlier
    by_cases same : payoutId = request.payoutId
    · subst same
      exact ⟨setCreated response row, lookup_update_of_some _ _ (setCreated_id response) rowFound,
        isBegun⟩
    · exact ⟨row, (lookup_update_of_ne _ (setCreated_id response) same).trans rowFound, isBegun⟩
  apply (tracked.finish call).of_requests
  · intro other member
    exact begun (tracked.calls other (mem_of_mem_eraseIdx member))
  · intro payoutId id otherAccepted
    exact begun (tracked.begun payoutId id otherAccepted)
  · intro payoutId row id rowFound sent
    rcases lookup_of_lookup_update (setCreated_id response) rowFound with
      ⟨rfl, earlier, _, rfl⟩ | ⟨_, stored⟩
    · injection sent with same
      exact same ▸ accepted
    · exact tracked.linked payoutId row id stored sent

theorem tracked_createFailed (tracked : system.Tracked)
    (found : system.creating[call]? = some ⟨request, none⟩) :
    Tracked (createPayoutFailed system.db request.payoutId).payoutRequests
      (system.creating.eraseIdx call) system.fetching
      system.disbursements := by
  have noneAccepted := tracked.unaccepted _ (mem_of_getElem? found) rfl
  unfold createPayoutFailed
  by_cases claimed : system.db.payoutRequests.changes request.payoutId isClaimed
  · obtain ⟨row, rowFound, isClaimed⟩ := claimed
    rw [Database.updateRequestWhere_of_found rowFound isClaimed]
    have begun {payoutId : PayoutId} (different : payoutId ≠ request.payoutId)
        (earlier : Begun system.db.payoutRequests payoutId) :
        Begun (system.db.updateRequest request.payoutId setPending
          setPending_id).payoutRequests payoutId := by
      obtain ⟨other, otherFound, isBegun⟩ := earlier
      exact ⟨other, (lookup_update_of_ne _ setPending_id different).trans otherFound, isBegun⟩
    apply (tracked.finish call).of_requests
    · intro other member
      obtain ⟨position, different, otherFound⟩ := mem_eraseIdx_iff_getElem?.mp member
      exact begun (tracked.others found different otherFound)
        (tracked.calls other (mem_of_getElem? otherFound))
    · intro payoutId id accepted
      refine begun ?_ (tracked.begun payoutId id accepted)
      intro same
      exact noneAccepted id (same ▸ accepted)
    · intro payoutId other id otherFound sent
      rcases lookup_of_lookup_update setPending_id otherFound with
        ⟨rfl, earlier, stored, rfl⟩ | ⟨_, stored⟩
      · exact tracked.linked _ earlier id stored sent
      · exact tracked.linked payoutId other id stored sent
  · rw [Database.updateRequestWhere_of_unmet claimed]
    exact tracked.finish call

theorem tracked_claimed {id : PayoutId} {now : Timestamp} {db : Database} (tracked : system.Tracked)
    (done : processPayoutViaMoyasar system.db id now = Except.ok (db, request)) :
    Tracked db.payoutRequests (system.creating ++ [⟨request, none⟩])
      system.fetching system.disbursements := by
  obtain ⟨row, found, pending, rfl, _, rfl⟩ := processPayout_eq_ok done
  have alone := tracked.pending_alone found pending
  have calm : Calm system.db.payoutRequests (system.db.payoutRequests.update request.payoutId
      (setProcessing now) (setProcessing_id now)) :=
    calm_update (setProcessing_id now) (fun _ => rfl) (fun _ _ => by simp [setProcessing])
  refine (tracked.calm calm).push ?_ alone.2 alone.1
  exact ⟨setProcessing now row, lookup_update_of_some _ _ (setProcessing_id now) found,
    by simp [setProcessing]⟩

variable {after : System} {action : Action}

theorem tracked_step (tracked : system.Tracked) (step : Fires next system action after) :
    after.Tracked := by
  cases step_outcome step with
  | idle _ | earned _ =>
    exact tracked
  | requested fresh done =>
    obtain ⟨rfl, _, _, unsent, _, _, rfl⟩ := requestPayout_eq_ok done
    have calm := tracked.calm (calm_insert fresh unsent)
    rw [← insertIfNew_of_fresh fresh] at calm
    exact calm
  | markedPaid done =>
    obtain ⟨row, _, _, rfl⟩ := markPayoutPaid_eq_ok done
    exact tracked.calm (calm_update (setPaid_id _ _) (fun _ => rfl) (fun _ _ => by simp [setPaid]))
  | rejected done =>
    obtain ⟨row, _, _, rfl⟩ := rejectPayout_eq_ok done
    exact tracked.calm (calm_update (setRejected_id _ _)
      (fun _ => rfl) (fun _ _ => by simp [setRejected]))
  | claimed done =>
    exact tracked_claimed tracked done
  | @accepted call id request fresh found =>
    have stored : system.disbursements.lookup
        (Disbursement.mk id request.payoutId request.amountHalala false).id = none :=
      fresh
    exact tracked.accept stored found rfl
  | created found =>
    exact tracked_created tracked found
  | createFailed found =>
    exact tracked_createFailed tracked found
  | @fetching id row disbursement started =>
    have facts := syncPayoutStatus_fetching started
    apply tracked.of_fetching
    intro call member
    rcases mem_append.mp member with old | new
    · exact tracked.fetched call old
    · rw [mem_singleton.mp new]
      exact tracked.linked row.id row disbursement facts.1 facts.2
  | @fetched position now response row disbursement _ _ =>
    have calm := fetchPayoutReturned_calm system.db row now response
    apply (tracked.calm calm).of_fetching
    intro call member
    exact tracked.fetched call (mem_of_mem_eraseIdx member)
  | fetchFailed =>
    apply tracked.of_fetching
    intro call member
    exact tracked.fetched call (mem_of_mem_eraseIdx member)
  | disbursementFailed =>
    exact tracked.fail _

theorem tracked_initial (initial : system.Initial) :
    system.Tracked := by
  unfold System.Tracked
  rw [initial.noRequests, initial.noCreating, initial.noFetching, initial.noDisbursements]
  have noneAccepted (payoutId : PayoutId) (id : DisbursementId) :
      ¬ Accepted empty payoutId id := by
    rintro ⟨_, member, _⟩
    cases member
  refine ⟨?_, nodup_nil, ?_, ?_, ?_, ?_, ?_, ?_⟩
  · intro call member
    cases member
  · intro call member
    cases member
  · intro call member
    cases member
  · intro payoutId id accepted
    exact absurd accepted (noneAccepted payoutId id)
  · intro payoutId first second accepted
    exact absurd accepted (noneAccepted payoutId first)
  · intro payoutId row id found
    cases found
  · intro call member
    cases member

variable {payoutId : PayoutId}

theorem step_rejected (balanced : Balanced system) (step : Fires next system action after)
    (rejected : Rejected after.db payoutId) :
    Rejected system.db payoutId ∨ (∃ now reason row, action = .rejectPayout payoutId now reason ∧
      system.db.payoutRequests.lookup payoutId = some row ∧
      (row.status = .pending ∨ row.status = .processing)) ∨
      (∃ position now response call, action = .fetchReturns position now response ∧
        call ∈ system.fetching ∧ call.row.id = payoutId ∧
        system.hasFailed call.disbursement) := by
  cases step_outcome step with
  | idle _ | accepted _ _ | fetching _ | fetchFailed
  | disbursementFailed | earned _ =>
    exact Or.inl rejected
  | requested fresh done =>
    have effect := requestPayout_effect fresh (fun row member => (balanced.sound row member).1)
        (balanced.covered _) done
    exact Or.inl (by simpa using (effect_rejected effect _).mp rejected)
  | markedPaid done =>
    have effect := markPayoutPaid_effect done
    exact Or.inl (by simpa using (effect_rejected effect _).mp rejected)
  | claimed done =>
    have effect := processPayout_effect done
    exact Or.inl (by simpa using (effect_rejected effect _).mp rejected)
  | @created call request response _ =>
    have effect := createPayoutReturned_effect system.db request.payoutId response
    exact Or.inl (by simpa using (effect_rejected effect _).mp rejected)
  | @createFailed call request _ =>
    have effect := createPayoutFailed_effect system.db request.payoutId
    exact Or.inl (by simpa using (effect_rejected effect _).mp rejected)
  | @rejected id now reason db stored done =>
    have effect := rejectPayout_effect done
    rcases (effect_rejected effect payoutId).mp rejected with before | same
    · exact Or.inl before
    · cases same
      obtain ⟨row, found, rejectable, _⟩ := rejectPayout_eq_ok done
      exact Or.inr (Or.inl ⟨now, reason, row, rfl, found, rejectable⟩)
  | @fetched position now response row disbursement found truthful =>
    have member := mem_of_getElem? found
    have fetched := fetchPayoutReturned_fetched system.db row now response
    have effect : Effect system.db _ (fetchPayoutReturned system.db row now response).1 :=
      fetchPayoutReturned_effect (balanced.current _ member)
    have cases_ := (effect_rejected effect payoutId).mp rejected
    generalize fetchPayoutReturned system.db row now response = outcome at fetched cases_
    cases fetched with
    | rejected _ _ failure =>
      rcases cases_ with before | same
      · exact Or.inl before
      · have rowId : row.id = payoutId := by
          simpa [returnsHold] using same
        exact Or.inr (Or.inr ⟨position, now, response, _, rfl, member, rowId, truthful failure⟩)
    | paid _ _ | settledByPeer | inFlight =>
      refine Or.inl ?_
      simpa [returnsHold, freshResult] using cases_

theorem step_backed (step : Fires next system action after) (backed : Backed after payoutId) :
    Backed system payoutId ∨ ∃ call id request, action = .gatewayAccepts call id ∧
      system.creating[call]? = some ⟨request, none⟩ ∧
      request.payoutId = payoutId := by
  obtain ⟨disbursement, member, forRequest, live⟩ := backed
  cases step_outcome step with
  | @accepted call id request fresh found =>
    rcases mem_append.mp member with old | new
    · exact Or.inl ⟨disbursement, old, forRequest, live⟩
    · rw [mem_singleton.mp new] at forRequest
      exact Or.inr ⟨call, id, request, rfl, found, forRequest⟩
  | disbursementFailed =>
    obtain ⟨earlier, earlierMember, rfl⟩ := mem_map.mp member
    split at live
    · cases live
    · rename_i different
      rw [if_neg different] at forRequest
      exact Or.inl ⟨earlier, earlierMember, forRequest, live⟩
  | idle _ | requested _ _ | markedPaid _ | rejected _ | claimed _
  | created _ | createFailed _ | fetching _ | fetched _ _ | fetchFailed
  | earned _ =>
    exact Or.inl ⟨disbursement, member, forRequest, live⟩

theorem not_backed_of_failed {id : DisbursementId} (tracked : system.Tracked)
    (accepted : Accepted system.disbursements payoutId id)
    (failed : system.hasFailed id) :
    ¬ Backed system payoutId := by
  rintro ⟨disbursement, member, forRequest, live⟩
  have same : disbursement.id = id :=
    tracked.single payoutId _ _ ⟨disbursement, member, rfl, forRequest⟩ accepted
  obtain ⟨stored, found, storedFailed⟩ := failed
  rw [← same, lookup_of_mem member] at found
  injection found with equality
  rw [equality, storedFailed] at live
  cases live

theorem exclusive_of_permitted (balanced : Balanced system) (tracked : system.Tracked)
    (exclusive : Exclusive system) (permitted : Permitted system action)
    (step : Fires next system action after) :
    Exclusive after := by
  intro payoutId rejected backed
  rcases step_backed step backed with wasBacked | ⟨call, id, request, rfl, found, rfl⟩
  · rcases step_rejected balanced step rejected with
      wasRejected | ⟨now, reason, row, rfl, found, pending | processing⟩ |
        ⟨_, _, _, call, _, member, rfl, failed⟩
    · exact exclusive payoutId wasRejected wasBacked
    · obtain ⟨disbursement, member, forRequest, _⟩ := wasBacked
      exact (tracked.pending_alone found pending).1 disbursement.id
        ⟨disbursement, member, rfl, forRequest⟩
    · exact permitted ⟨⟨row, found, processing⟩, wasBacked⟩
    · exact not_backed_of_failed tracked (tracked.fetched call member) failed wasBacked
  · rcases step_rejected balanced step rejected
        with wasRejected | ⟨_, _, _, ⟨⟩, _⟩ | ⟨_, _, _, _, impossible, _⟩
    · exact permitted _ found wasRejected
    · cases impossible

theorem permitted_of_exclusive (exclusive : Exclusive after)
    (step : Fires next system action after) :
    Permitted system action := by
  cases action with
  | rejectPayout id now reason =>
    rintro ⟨⟨row, found, processing⟩, backed⟩
    have rejectable : row.status = .pending ∨ row.status = .processing := Or.inr processing
    cases done : rejectPayout system.db id now reason with
    | error failure =>
      simp [rejectPayout, found, orFail, require, rejectable, bind,
        Except.bind, pure, Except.pure] at done
    | ok result =>
      obtain ⟨db, stored⟩ := result
      have effect := rejectPayout_effect done
      have reached : { system with
          db := db
          returned := system.returned ++ [id] } = after := by
        simpa [Fires, next, onSuccess, done] using step
      subst reached
      exact exclusive id ((effect_rejected effect id).mpr (Or.inr rfl)) backed
  | gatewayAccepts call id =>
    intro suspended found rejected
    cases step_outcome step with
    | idle starts =>
      cases starts
    | @accepted _ _ request fresh otherFound =>
      rw [found] at otherFound
      cases otherFound
      refine exclusive request.payoutId rejected ?_
      exact ⟨_, mem_append_right _ (mem_singleton.mpr rfl), rfl, rfl⟩
  | requestPayout _ _ _ _ | markPayoutPaid _ _ _ | processPayout _ _
  | createReturns _ _ | createFails _ | syncPayout _
  | fetchReturns _ _ _ | fetchFails _ | disbursementFails _
  | earn _ _ =>
    trivial

theorem exclusive_initial (initial : system.Initial) :
    Exclusive system := by
  intro payoutId rejected
  obtain ⟨row, found, _⟩ := rejected
  rw [initial.noRequests] at found
  cases found

/-- The runs in which no request is ever both rejected and backed are the
runs all of whose steps are permitted. -/
theorem payouts_exclusive_iff_permitted
    {start finish : System} {actions : List Action} (initial : start.Initial) :
    (Run (staying (Fires next) Exclusive) start actions finish ↔
      Run (guarded (Fires next) Permitted) start actions finish) ∧
      (Run (guarded (Fires next) Permitted) start actions finish → Exclusive finish) := by
  have equivalent : Run (staying (Fires next) Exclusive) start actions finish ↔
      Run (guarded (Fires next) Permitted) start actions finish := by
    apply Run.staying_iff_guarded (fun system => Balanced system ∧ system.Tracked)
    · intro source target action invariant _ step _
      exact ⟨balanced_step invariant.1 step, tracked_step invariant.2 step⟩
    · intro source target action invariant exclusive step
      constructor
      · intro kept
        exact permitted_of_exclusive kept step
      · intro permitted
        exact exclusive_of_permitted invariant.1 invariant.2 exclusive permitted step
    · exact ⟨balanced_initial initial, tracked_initial initial⟩
    · exact exclusive_initial initial
  refine ⟨equivalent, ?_⟩
  intro run
  exact Run.holds_of_staying (exclusive_initial initial) (equivalent.mpr run)

theorem payouts_exclusive_iff_permitted_sample :
    ∃ finish, Run (guarded (Fires next) Permitted) sampleSystem sampleFailure finish ∧
      Rejected finish.db 7 ∧ Exclusive finish := by
  refine exists_guarded_run (Rejected ·.db 7) (by decide +kernel) ?_
  intro finish run rejected
  exact ⟨rejected, (payouts_exclusive_iff_permitted sampleSystem_initial).2 run⟩

/-- A request is sent to the gateway, accepted there, and rejected by hand
while it is processed. -/
def rejectedWhileProcessing : List Action :=
  [.requestPayout 7 0 1 (some 60), .processPayout 7 1, .gatewayAccepts 0 900,
    .createReturns 0 ⟨900, "queued", none, none, none⟩,
    .rejectPayout 7 2 none]

/-- The hold is back in the provider's earnings and the money is sent. -/
theorem payout_paid_twice :
    ∃ start finish, start.Initial ∧ Run (Fires next) start rejectedWhileProcessing finish ∧
      claimable finish.db 1 = claimable start.db 1 ∧
      Backed finish 7 ∧
      ¬ Exclusive finish := by
  obtain ⟨finish, executed, balance, rejected, backed⟩ : ∃ finish,
      execute next sampleSystem rejectedWhileProcessing = some finish ∧
        claimable finish.db 1 = claimable sampleSystem.db 1 ∧
        Rejected finish.db 7 ∧ Backed finish 7 :=
    exists_of_execute_any (by decide +kernel)
  refine ⟨sampleSystem, finish, sampleSystem_initial, run_of_execute executed, balance, backed, ?_⟩
  intro exclusive
  exact exclusive 7 rejected backed

end DcpPlatform.Payouts
