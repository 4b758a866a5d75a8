import DcpPlatform.Chat.ExactSlots
import DcpPlatform.Chat.Routing

/-!
# Dispatches past the gate

When every provider that a request is dispatched to is capable, free, among
the preferred verified ones and accepted by the latency gate.
-/

namespace DcpPlatform.Chat.Routing

open Foundation List
open InFlight (Candidate Pending Settled Slots Selection nextFree
  nextFree_eq_some acquireProviderSlot acquireProviderSlot_eq_some
  providerInflightCount finish)

/-- A request may go to a provider as far as the policies are concerned. -/
structure Suits (maximum : ℚ) (situation : Situation) (providerId : Nat) :
    Prop where
  capable : ∃ routable ∈ situation.capable, routable.id = providerId
  verified : prefersVerified maximum situation = true → providerId ∈ situation.earned.servingIds
  accepted : providerId ∈ (gateSelection maximum situation).accepted

structure Gated (maximum : ℚ) (dispatch : Dispatch) : Prop where
  suits : Suits maximum dispatch.situation dispatch.provider
  notFull : (providerInflightCount dispatch.inflight dispatch.provider : ℚ) < maximum

instance (maximum : ℚ) (dispatch : Dispatch) :
    Decidable (Gated maximum dispatch) :=
  decidable_of_iff (((∃ routable ∈ dispatch.situation.capable, routable.id = dispatch.provider) ∧
    (prefersVerified maximum dispatch.situation = true →
      dispatch.provider ∈ dispatch.situation.earned.servingIds) ∧
    dispatch.provider ∈ (gateSelection maximum dispatch.situation).accepted) ∧
      (providerInflightCount dispatch.inflight dispatch.provider : ℚ) < maximum)
    ⟨fun holds => ⟨⟨holds.1.1, holds.1.2.1, holds.1.2.2⟩, holds.2⟩, fun gated =>
      ⟨⟨gated.suits.capable, gated.suits.verified, gated.suits.accepted⟩, gated.notFull⟩⟩

def AllGated (maximum : ℚ) (router : Router) : Prop :=
  ∀ dispatch ∈ router.dispatched, Gated maximum dispatch

instance (maximum : ℚ) (router : Router) :
    Decidable (AllGated maximum router) := by
  unfold AllGated
  infer_instance

/-- No admitted request that passes the gate has a live session entry for a
free provider that the gate left out. -/
def SessionKeepsToGate (maximum : ℚ) (router : Router) : Event → Prop
  | .request _ request admitted =>
    let situation := ⟨request, router.slots.inflight⟩
    admitted = true → passesGate maximum situation = true → ∀ providerId ∈
      (getAffinityProvider request.population.now router.sessions situation.sessionKey).1,
        providerId ≠ 0 → (∃ routable ∈ freeProviders maximum situation, routable.id = providerId) →
          providerId ∈ (gateSelection maximum situation).accepted
  | _ => True

variable {maximum : ℚ} {situation : Situation} {routable : Routable}

theorem mem_freeProviders :
    routable ∈ freeProviders maximum situation ↔ routable ∈ situation.capable ∧
      (providerInflightCount situation.inflight routable.id : ℚ) <
        maximum := by
  rw [freeProviders, mem_filter]
  simp [isProviderBusy]

theorem free_of_gateCandidates (member : routable ∈ gateCandidates maximum situation) :
    routable ∈ freeProviders maximum situation := by
  unfold gateCandidates at member
  split at member
  · exact mem_of_mem_filter member
  · exact member

theorem serving_of_gateCandidates (prefers : prefersVerified maximum situation = true)
    (member : routable ∈ gateCandidates maximum situation) :
    routable.id ∈ situation.earned.servingIds := by
  rw [gateCandidates, if_pos prefers, servingProviders, mem_filter] at member
  exact contains_iff_mem.mp member.2

variable {providerId : Nat}

theorem free_of_accepted (accepted : providerId ∈ (gateSelection maximum situation).accepted) :
    ∃ routable ∈ freeProviders maximum situation, routable.id = providerId := by
  obtain ⟨routable, member, same⟩ := mem_of_accepted accepted
  exact ⟨routable, free_of_gateCandidates member, same⟩

theorem suits_of_accepted (accepted : providerId ∈ (gateSelection maximum situation).accepted) :
    Suits maximum situation providerId := by
  obtain ⟨routable, member, rfl⟩ := mem_of_accepted accepted
  have free := mem_freeProviders.mp (free_of_gateCandidates member)
  exact
    { capable := ⟨routable, free.1, rfl⟩
      verified := fun prefers => serving_of_gateCandidates prefers member
      accepted := accepted }

theorem providerById_eq_some (found : providerById situation providerId = some routable) :
    routable.id = providerId := by
  have same := find?_some found
  simpa using same

theorem exists_providerById (member : routable ∈ situation.capable) :
    ∃ last, providerById situation routable.id = some last := by
  cases found : providerById situation routable.id with
  | some last => exact ⟨last, rfl⟩
  | none =>
    have absent := find?_eq_none.mp found routable (mem_reverse.mpr member)
    simp at absent

theorem stickyProvider_eq_some {affinityId : Option Nat}
    (sticky : stickyProvider maximum situation affinityId = some routable) :
    affinityId = some routable.id ∧ routable.id ≠ 0 ∧
      ∃ free ∈ freeProviders maximum situation, free.id = routable.id := by
  unfold stickyProvider at sticky
  cases affinityId with
  | none => contradiction
  | some providerId =>
    simp only at sticky
    split at sticky
    · next condition =>
        have same := providerById_eq_some sticky
        subst same
        simpa using condition
    · contradiction

theorem stickyProvider_of_free (positive : providerId ≠ 0)
    (free : ∃ routable ∈ freeProviders maximum situation, routable.id = providerId) :
    ∃ routable, stickyProvider maximum situation (some providerId) = some routable ∧
      routable.id = providerId := by
  obtain ⟨routable, member, rfl⟩ := free
  obtain ⟨last, found⟩ := exists_providerById (mem_freeProviders.mp member).1
  refine ⟨last, ?_, providerById_eq_some found⟩
  have condition : (routable.id ≠ 0 && (freeProviders maximum situation).any (·.id = routable.id)) = true := by
    simp only [Bool.and_eq_true, decide_eq_true_eq, any_eq_true]
    exact ⟨positive, routable, member, rfl⟩
  simp only [stickyProvider, condition, if_true]
  exact found

variable {sessions : Sessions} {choice : Choice}

theorem choose_eq_some (chosen : (choose maximum sessions situation).2 = some choice) :
    passesGate maximum situation = true ∧ (stickyProvider maximum situation
      (getAffinityProvider situation.request.population.now sessions
        situation.sessionKey).1 = some choice.assigned ∨
        choice.assigned.id ∈ (gateSelection maximum situation).accepted) ∧
      ∀ fallback ∈ choice.fallbackProviders,
        fallback.id ∈ (gateSelection maximum situation).accepted := by
  unfold choose at chosen
  split at chosen
  · next passes =>
      simp only at chosen
      split at chosen
      · contradiction
      · next assigned found =>
          cases Option.some.inj chosen
          refine ⟨passes, ?_, ?_⟩
          · rcases Option.or_eq_some_iff.mp found with sticky | ⟨_, selected⟩
            · exact Or.inl sticky
            · obtain ⟨providerId, first, row⟩ := Option.bind_eq_some_iff.mp selected
              right
              rw [providerById_eq_some row, GateSelection.accepted, first]
              simp
          · intro fallback member
            obtain ⟨providerId, listed, row⟩ := mem_filterMap.mp member
            rw [providerById_eq_some row, GateSelection.accepted]
            exact mem_append_right _ listed
  · contradiction

theorem choose_of_sticky (passes : passesGate maximum situation = true)
    (sticky : stickyProvider maximum situation
      (getAffinityProvider situation.request.population.now sessions
        situation.sessionKey).1 = some routable) :
    ∃ choice, (choose maximum sessions situation).2 = some choice ∧ choice.assigned = routable := by
  unfold choose
  simp only [passes, sticky, if_true, Option.some_or]
  exact ⟨_, rfl, rfl⟩

theorem assigned_free (chosen : (choose maximum sessions situation).2 = some choice) :
    (providerInflightCount situation.inflight choice.assigned.id : ℚ) <
      maximum := by
  have free : ∃ routable ∈ freeProviders maximum situation, routable.id = choice.assigned.id := by
    rcases (choose_eq_some chosen).2.1 with sticky | accepted
    · exact (stickyProvider_eq_some sticky).2.2
    · exact free_of_accepted accepted
  obtain ⟨routable, member, same⟩ := free
  rw [← same]
  exact (mem_freeProviders.mp member).2

variable {candidate : Candidate}

theorem nextFree_subset {inflight taken : InFlight.Inflight} {candidates rest : List Candidate}
    (free : nextFree maximum inflight candidates = some (candidate, taken, rest)) :
    candidate ∈ candidates ∧ rest ⊆ candidates := by
  induction candidates with
  | nil => contradiction
  | cons first others ih =>
    have later (found : nextFree maximum inflight others = some (candidate, taken, rest)) :
        candidate ∈ first :: others ∧ rest ⊆ first :: others := by
      obtain ⟨member, subset⟩ := ih found
      exact ⟨mem_cons_of_mem first member, subset_cons_of_subset first subset⟩
    unfold nextFree at free
    split at free
    · split at free
      · cases Option.some.inj free
        exact ⟨mem_cons_self, subset_cons_self _ _⟩
      · exact later free
    · exact later free

variable {slots : Slots}

theorem waitsFor_finish_cases {call other : Nat} {pending later : Pending}
    (waits : slots.calls.waitsFor call = some pending)
    (laterWaits : (finish slots call pending).calls.waitsFor other = some later) :
    slots.calls.waitsFor other = some later := by
  rcases Calls.waitsFor_resume_cases waits laterWaits with ⟨_, impossible⟩ | ⟨_, before⟩
  · contradiction
  · exact before

variable {call : Nat} {after : Slots} {event : InFlight.Event}

theorem candidates_of_next (fires : Fires (InFlight.next maximum) slots event after)
    {later : Pending} (waits : after.calls.waitsFor call = some later) :
    (∃ earlier, slots.calls.waitsFor call = some earlier ∧ later.candidates ⊆ earlier.candidates) ∨
      ∃ selection, event = .arrive call (some selection) ∧
        later.candidates ⊆ selection.fallbackCapable := by
  have kept (before : slots.calls.waitsFor call = some later) :
      ∃ earlier, slots.calls.waitsFor call = some earlier ∧ later.candidates ⊆ earlier.candidates :=
    ⟨later, before, List.Subset.refl _⟩
  have resumed {resuming : Nat} {pending next : Pending}
      (before : slots.calls.waitsFor resuming = some pending)
      (fewer : next.candidates ⊆ pending.candidates)
      (laterWaits : (slots.calls.resume resuming (some next)).waitsFor call = some later) :
      ∃ earlier, slots.calls.waitsFor call = some earlier ∧
        later.candidates ⊆ earlier.candidates := by
    rcases Calls.waitsFor_resume_cases before laterWaits with ⟨rfl, same⟩ | ⟨_, unchanged⟩
    · cases Option.some.inj same
      exact ⟨pending, before, fewer⟩
    · exact kept unchanged
  cases event with
  | arrive arriving selection =>
    simp only [Fires, InFlight.next] at fires
    split at fires
    · next fresh =>
        split at fires
        · cases fires
          exact Or.inl (kept waits)
        · next chosen =>
            split at fires
            · split at fires
              · cases fires
                exact Or.inl (kept waits)
              · cases fires
                rcases Calls.waitsFor_start_cases fresh waits with ⟨rfl, rfl⟩ | ⟨_, before⟩
                · exact Or.inr ⟨chosen, rfl, List.Subset.refl _⟩
                · exact Or.inl (kept before)
            · cases fires
              rcases Calls.waitsFor_start_cases fresh waits with ⟨rfl, rfl⟩ | ⟨_, before⟩
              · exact Or.inr ⟨chosen, rfl, nil_subset _⟩
              · exact Or.inl (kept before)
    · contradiction
  | settle settling outcome =>
    left
    simp only [Fires, InFlight.next] at fires
    cases before : slots.calls.waitsFor settling with
    | none => simp [before] at fires
    | some pending =>
      simp only [before] at fires
      split at fires
      · contradiction
      · cases outcome with
        | body | thrown =>
          cases fires
          exact kept (waitsFor_finish_cases before waits)
        | stream =>
          cases fires
          exact @resumed settling pending { pending with phase := .streaming } before
            (List.Subset.refl _) waits
        | noAnswer =>
          cases free : nextFree maximum slots.inflight pending.candidates with
          | none =>
            simp only [free] at fires
            cases fires
            exact kept (waitsFor_finish_cases before waits)
          | some found =>
            simp only [free] at fires
            cases fires
            exact resumed before (nextFree_subset free).2 waits
  | streamEnds ending | queueEnds ending =>
    left
    simp only [Fires, InFlight.next] at fires
    split at fires
    · contradiction
    · next before =>
        split at fires
        · cases fires
          exact kept (waitsFor_finish_cases before waits)
        · contradiction

theorem fresh_of_arrive {selection : Option Selection}
    (fires : Fires (InFlight.next maximum) slots (.arrive call selection) after) :
    slots.calls.IsFresh call := by
  simp only [Fires, InFlight.next] at fires
  split at fires
  · next fresh => exact fresh
  · contradiction

/-- The providers that a waiting request may still go to suit it. -/
def Prepared (maximum : ℚ) (router : Router) : Prop :=
  ∀ call pending, router.slots.calls.waitsFor call = some pending →
    ∃ situation, router.routed.read call = some situation ∧
      ∀ candidate ∈ pending.candidates, Suits maximum situation candidate.id

theorem prepared_noSessions (maximum : ℚ) :
    Prepared maximum noSessions := by
  intro call pending waits
  cases waits

theorem suits_of_fallbackCapable (chosen : (choose maximum sessions situation).2 = some choice)
    (member : candidate ∈ (toSelection situation.request choice).fallbackCapable) :
    Suits maximum situation candidate.id := by
  have listed := mem_of_mem_filter (mem_of_mem_take member)
  obtain ⟨fallback, present, rfl⟩ := mem_map.mp listed
  exact suits_of_accepted ((choose_eq_some chosen).2.2 fallback present)

variable {router : Router}

theorem Prepared.of_slots {dispatched : List Dispatch} (prepared : Prepared maximum router)
    (fires : Fires (InFlight.next maximum) router.slots event slots)
    (noArrival : ∀ call selection, event ≠ .arrive call selection) :
    Prepared maximum { router with slots := slots, dispatched := dispatched } := by
  intro call later waits
  rcases candidates_of_next fires waits with ⟨earlier, before, fewer⟩ | ⟨selection, arrival, _⟩
  · obtain ⟨situation, routed, suits⟩ := prepared call earlier before
    exact ⟨situation, routed, fun candidate member =>
      suits candidate (fewer member)⟩
  · exact absurd arrival (noArrival call (some selection))

variable {after : Router}

theorem prepared_next {event : Event} (prepared : Prepared maximum router)
    (fires : Fires (next maximum) router event after) :
    Prepared maximum after := by
  cases event with
  | request arriving request admitted =>
    obtain ⟨slots, stepped, rfl⟩ := Option.map_eq_some_iff.mp fires
    intro call later waits
    rcases candidates_of_next stepped waits with
      ⟨earlier, before, fewer⟩ | ⟨selection, arrival, fewer⟩
    · obtain ⟨situation, routed, suits⟩ := prepared call earlier before
      have other : call ≠ arriving := by
        rintro rfl
        rw [(fresh_of_arrive stepped).waitsFor] at before
        contradiction
      refine ⟨situation, ?_, fun candidate member =>
        suits candidate (fewer member)⟩
      exact (Files.read_write_ne _ _ other).trans routed
    · injection arrival with same selected
      subst same
      refine ⟨_, Files.read_write _ _ _, ?_⟩
      intro candidate member
      cases admitted with
      | false => simp at selected
      | true =>
        rw [if_pos rfl] at selected
        obtain ⟨choice, chosen, rfl⟩ := Option.map_eq_some_iff.mp selected
        exact suits_of_fallbackCapable chosen (fewer member)
  | settle call outcome | streamEnds call | queueEnds call =>
    obtain ⟨slots, stepped, rfl⟩ := Option.map_eq_some_iff.mp fires
    exact prepared.of_slots stepped (fun _ _ same => InFlight.Event.noConfusion same)

variable {dispatch : Dispatch}

theorem gated_nextDispatch (prepared : Prepared maximum router) {outcome : Settled}
    (member : dispatch ∈ nextDispatch maximum router call outcome) :
    Gated maximum dispatch := by
  unfold nextDispatch at member
  split at member
  · next pending situation waits routed =>
      split at member
      · next candidate taken rest free =>
          cases mem_singleton.mp member
          obtain ⟨stored, found, suits⟩ := prepared call pending waits
          rw [routed] at found
          cases Option.some.inj found
          exact
            { suits := suits candidate (nextFree_subset free).1
              notFull := (acquireProviderSlot_eq_some (nextFree_eq_some free)).2.1 }
      · contradiction
  · contradiction

variable {request : Request} {admitted : Bool}

theorem gated_firstDispatch
    (keeps : SessionKeepsToGate maximum router (.request call request admitted))
    (member : dispatch ∈ firstDispatch maximum ⟨request, router.slots.inflight⟩ (if admitted then
          (choose maximum router.sessions
            ⟨request, router.slots.inflight⟩).2.map (toSelection request)
        else
          none)) :
    Gated maximum dispatch := by
  cases admitted with
  | false => simp [firstDispatch] at member
  | true =>
    rw [if_pos rfl] at member
    cases chosen : (choose maximum router.sessions ⟨request, router.slots.inflight⟩).2 with
    | none => simp [chosen, firstDispatch] at member
    | some choice =>
      rw [chosen] at member
      simp only [firstDispatch, Option.map_some] at member
      split at member
      · cases mem_singleton.mp member
        obtain ⟨passes, origin, _⟩ := choose_eq_some chosen
        refine ⟨suits_of_accepted ?_, assigned_free chosen⟩
        rcases origin with sticky | accepted
        · obtain ⟨entry, positive, free⟩ := stickyProvider_eq_some sticky
          exact keeps rfl passes _ entry positive free
        · exact accepted
      · contradiction

theorem keeps_of_gated_firstDispatch
    (gated : ∀ dispatch ∈ firstDispatch maximum ⟨request, router.slots.inflight⟩ (if admitted then
            (choose maximum router.sessions
              ⟨request, router.slots.inflight⟩).2.map (toSelection request)
          else
            none),
        Gated maximum dispatch) :
    SessionKeepsToGate maximum router (.request call request admitted) := by
  intro admits passes providerId entry positive free
  obtain ⟨routable, sticky, rfl⟩ := stickyProvider_of_free positive free
  rw [← entry] at sticky
  obtain ⟨choice, chosen, rfl⟩ := choose_of_sticky passes sticky
  have below := assigned_free chosen
  have acquired :
      (acquireProviderSlot maximum router.slots.inflight choice.assigned.id).isSome = true := by
    rw [acquireProviderSlot, if_neg positive]
    simp [not_le.mpr below]
  have dispatched := gated ⟨choice.assigned.id, router.slots.inflight,
      ⟨request, router.slots.inflight⟩⟩ (by
        rw [if_pos admits, chosen, Option.map_some, firstDispatch]
        simp [toSelection, acquired])
  exact dispatched.suits.accepted

theorem allGated_append {more : List Dispatch} (gated : AllGated maximum router)
    (same : after.dispatched = router.dispatched ++ more) :
    AllGated maximum after ↔ ∀ dispatch ∈ more, Gated maximum dispatch := by
  rw [AllGated, same]
  constructor
  · intro all dispatch member
    exact all dispatch (mem_append_right _ member)
  · intro new dispatch member
    rcases mem_append.mp member with old | fresh
    · exact gated dispatch old
    · exact new dispatch fresh

theorem allGated_next_iff {event : Event} (prepared : Prepared maximum router)
    (gated : AllGated maximum router)
    (fires : Fires (next maximum) router event after) :
    AllGated maximum after ↔ SessionKeepsToGate maximum router event := by
  cases event with
  | request call request admitted =>
    obtain ⟨slots, _, rfl⟩ := Option.map_eq_some_iff.mp fires
    rw [allGated_append gated rfl]
    constructor
    · exact keeps_of_gated_firstDispatch
    · intro keeps dispatch member
      exact gated_firstDispatch keeps member
  | settle call outcome =>
    obtain ⟨slots, _, rfl⟩ := Option.map_eq_some_iff.mp fires
    rw [allGated_append gated rfl]
    exact iff_of_true (fun dispatch member => gated_nextDispatch prepared member) trivial
  | streamEnds call | queueEnds call =>
    obtain ⟨slots, _, rfl⟩ := Option.map_eq_some_iff.mp fires
    exact iff_of_true gated trivial

/-- The runs whose dispatches are all gated are the runs in which every
session keeps to the gate. -/
theorem dispatches_gated_iff {maximum : ℚ} {events : List Event} {router : Router} :
    Run (staying (Fires (next maximum)) (AllGated maximum)) noSessions events router ↔
      Run (guarded (Fires (next maximum)) (SessionKeepsToGate maximum))
        noSessions events router := by
  refine Run.staying_iff_guarded (Prepared maximum) (AllGated maximum)
    (SessionKeepsToGate maximum) ?_ ?_ (prepared_noSessions maximum) ?_
  · intro source target event prepared _ fires _
    exact prepared_next prepared fires
  · intro source target event prepared gated fires
    exact allGated_next_iff prepared gated fires
  · intro dispatch member
    cases member

section Samples

def sampleProvider (id : Nat) : Provider where
  id
  status := .online
  is_paused := false
  deleted := false
  endpoint := true
  endpoint_reachable := true
  endpoint_probed := true
  last_heartbeat := none
  supported_compute_types := ["inference"]
  vram_mb := some 24576
  gpu_vram_mb := none
  gpu_vram_mib := none
  vram_gb := none
  cached_models := ["qwen3:8b"]
  gpu_util_pct := none

def sampleBenchmarks (providerId : Nat) (latency : ℚ) : List BenchmarkRun :=
  List.replicate 3 ⟨providerId, true, some latency, none⟩

def sampleRequest (now : Nat) (providers : List Provider)
    (verdicts : List Verdict) (runs : List BenchmarkRun) : Request where
  model := "qwen3:8b"
  requirements := ⟨"qwen3:8b", 8⟩
  messages := [⟨"user", some "Hello"⟩]
  population :=
    { now
      mode := .earnedFirst
      multiEngine := false
      providers
      engines := []
      rented := []
      verdicts
      compatibility := none }
  telemetry := { runs, events := [] }
  config := .standard

/-- Provider 1 serves a session, becomes slow and is not verified any more;
provider 2 is fast and verified, but the session goes to provider 1 again. -/
theorem session_bypasses_gate :
    ∃ router, execute (next (InFlight.maxInflightPerProvider 1)) noSessions
      [.request 1 (sampleRequest 0 [sampleProvider 1] [] []) true, .settle 1 .body,
        .request 2 (sampleRequest 60000 [sampleProvider 1, sampleProvider 2] [⟨2, true, 50000⟩]
          (sampleBenchmarks 1 2000 ++ sampleBenchmarks 2 100))
          true] = some router ∧
        router.dispatched.map Dispatch.provider = [1, 1] ∧
          ¬ AllGated (InFlight.maxInflightPerProvider 1) router :=
  exists_of_execute_any (by decide +kernel)

end Samples

end DcpPlatform.Chat.Routing
