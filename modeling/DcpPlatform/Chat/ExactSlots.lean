import DcpPlatform.Chat.Slots
import DcpPlatform.Foundation.Transition

/-!
# Exact in-flight counts

When the counters of the chat route equal the upstream calls of the requests
under way and stay within the configured maximum.
-/

namespace DcpPlatform.Chat.InFlight

open Foundation List

variable {maximum : ℚ} {providerId : Nat}

theorem acquireProviderSlot_eq_some {inflight taken : Inflight}
    (acquired : acquireProviderSlot maximum inflight providerId = some taken) :
    providerId ≠ 0 ∧ (providerInflightCount inflight providerId : ℚ) < maximum ∧
      taken = inflight.write providerId (providerInflightCount inflight providerId + 1) := by
  unfold acquireProviderSlot at acquired
  by_cases zero : providerId = 0
  · rw [if_pos zero] at acquired
    contradiction
  · rw [if_neg zero] at acquired
    by_cases full : maximum ≤ providerInflightCount inflight providerId
    · simp [full] at acquired
    · rw [if_neg full] at acquired
      exact ⟨zero, not_le.mp full, (Option.some.inj acquired).symm⟩

variable (inflight : Inflight)

theorem providerInflightCount_write (providerId other count : Nat) :
    providerInflightCount (inflight.write providerId count) other =
      if other = providerId then
        count
      else
        providerInflightCount inflight other := by
  by_cases same : other = providerId
  · rw [if_pos same, same, providerInflightCount, Files.read_write]
    rfl
  · rw [if_neg same, providerInflightCount, Files.read_write_ne _ _ same]
    rfl

theorem providerInflightCount_remove (providerId other : Nat) :
    providerInflightCount (inflight.remove providerId) other =
      if other = providerId then
        0
      else
        providerInflightCount inflight other := by
  by_cases same : other = providerId
  · rw [if_pos same, same, providerInflightCount, Files.read_remove]
    rfl
  · rw [if_neg same, providerInflightCount, Files.read_remove_ne _ same]
    rfl

theorem providerInflightCount_release (positive : providerId ≠ 0) (other : Nat) :
    providerInflightCount (releaseProviderSlot inflight providerId) other =
      providerInflightCount inflight other -
        if other = providerId then 1 else 0 := by
  rw [releaseProviderSlot, if_neg positive]
  by_cases last : providerInflightCount inflight providerId ≤ 1
  · simp only [if_pos last, providerInflightCount_remove]
    by_cases same : other = providerId
    · rw [if_pos same, if_pos same, same]
      omega
    · rw [if_neg same, if_neg same, Nat.sub_zero]
  · simp only [if_neg last, providerInflightCount_write]
    by_cases same : other = providerId
    · rw [if_pos same, if_pos same, same]
    · rw [if_neg same, if_neg same, Nat.sub_zero]

theorem providerInflightCount_releaseAll (slots : List Nat)
    (inflight : Inflight) (positive : 0 ∉ slots) (other : Nat) :
    providerInflightCount (slots.foldl releaseProviderSlot inflight) other =
      providerInflightCount inflight other - slots.count other := by
  induction slots generalizing inflight with
  | nil => simp
  | cons providerId rest ih =>
    have here : providerId ≠ 0 := fun zero =>
      positive (by rw [zero]; exact mem_cons_self)
    have later : 0 ∉ rest := fun member =>
      positive (mem_cons_of_mem providerId member)
    rw [foldl_cons, ih _ later, providerInflightCount_release inflight here, count_cons]
    by_cases same : other = providerId
    · simp [same]
      omega
    · have different : providerId ≠ other := fun equal => same equal.symm
      simp [same, different]

variable {candidate : Candidate}

theorem nextFree_eq_some {inflight taken : Inflight} {candidates rest : List Candidate}
    (free : nextFree maximum inflight candidates = some (candidate, taken, rest)) :
    acquireProviderSlot maximum inflight candidate.id = some taken := by
  induction candidates with
  | nil => contradiction
  | cons first others ih =>
    unfold nextFree at free
    split at free
    · split at free
      · next acquired =>
          cases Option.some.inj free
          exact acquired
      · exact ih free
    · exact ih free

/-! ## Runs -/

/-- A provider's count is within the maximum and equals the upstream calls
for which unfinished requests hold its slots; without requests it is zero. -/
structure Exact (maximum : ℚ) (slots : Slots) : Prop where
  bounded : ∀ provider, (providerInflightCount slots.inflight provider : ℚ) ≤ maximum
  counted : ∀ provider, (providerInflightCount slots.inflight provider : ℤ) =
    slots.calls.total (fun request => request.dispatches.count provider)
  idle : (∀ call, slots.calls.waitsFor call = none) →
    ∀ provider, providerInflightCount slots.inflight provider = 0

/-- One more slot stays within the maximum, as it does when the maximum is a
whole number. -/
def HasRoom (maximum : ℚ) (inflight : Inflight) (providerId : Nat) : Prop :=
  (providerInflightCount inflight providerId : ℚ) < maximum →
    (providerInflightCount inflight providerId : ℚ) + 1 ≤ maximum

instance (maximum : ℚ) (inflight : Inflight) (providerId : Nat) :
    Decidable (HasRoom maximum inflight providerId) := by
  unfold HasRoom
  infer_instance

def Fresh (maximum : ℚ) (slots : Slots) : Event → Prop
  | .arrive _ (some selection) =>
    HasRoom maximum slots.inflight selection.assigned
  | .settle call .noAnswer =>
    match slots.calls.waitsFor call with
    | none => True
    | some request =>
      match nextFree maximum slots.inflight request.candidates with
      | none => True
      | some (candidate, _, _) =>
        candidate.id ∉ request.acquiredSlots ∧ HasRoom maximum slots.inflight candidate.id
  | _ => True

instance (maximum : ℚ) (slots : Slots) (event : Event) :
    Decidable (Fresh maximum slots event) := by
  unfold Fresh
  split
  · infer_instance
  · split
    · infer_instance
    · split <;> infer_instance
  · infer_instance

structure Held (maximum : ℚ) (slots : Slots) : Prop where
  bounded : ∀ provider, (providerInflightCount slots.inflight provider : ℚ) ≤ maximum
  counted : ∀ provider, (providerInflightCount slots.inflight provider : ℤ) =
    slots.calls.total (fun request => request.dispatches.count provider)
  slots : ∀ call request, slots.calls.waitsFor call = some request →
    request.acquiredSlots = request.dispatches ∧ 0 ∉ request.dispatches

variable {slots : Slots}

theorem Held.exact (held : Held maximum slots) :
    Exact maximum slots where
  bounded := held.bounded
  counted := held.counted
  idle := by
    intro noCalls provider
    have counted := held.counted provider
    rw [Calls.total_of_idle noCalls] at counted
    exact_mod_cast counted

theorem held_noRequests (nonneg : 0 ≤ maximum) :
    Held maximum noRequests where
  bounded := by
    intro provider
    simpa [providerInflightCount, noRequests] using nonneg
  counted := by
    intro provider
    simp [providerInflightCount, noRequests]
  slots := by
    intro call request waits
    rw [noRequests, Calls.waitsFor_empty] at waits
    contradiction

theorem addSlot_of_notMem {slots : List Nat} (fresh : providerId ∉ slots) :
    addSlot slots providerId = slots ++ [providerId] :=
  if_neg fresh

theorem Held.taken (held : Held maximum slots) {taken : Inflight}
    (acquired : acquireProviderSlot maximum slots.inflight providerId = some taken)
    (room : HasRoom maximum slots.inflight providerId) (other : Nat) :
    (providerInflightCount taken other : ℚ) ≤ maximum := by
  obtain ⟨_, below, rfl⟩ := acquireProviderSlot_eq_some acquired
  rw [providerInflightCount_write]
  by_cases same : other = providerId
  · rw [if_pos same]
    push_cast
    exact room below
  · rw [if_neg same]
    exact held.bounded other

theorem count_taken {inflight taken : Inflight}
    (acquired : acquireProviderSlot maximum inflight providerId = some taken)
    (other : Nat) :
    (providerInflightCount taken other : ℤ) =
      providerInflightCount inflight other + [providerId].count other := by
  obtain ⟨_, _, rfl⟩ := acquireProviderSlot_eq_some acquired
  rw [providerInflightCount_write]
  by_cases same : other = providerId
  · simp [same]
  · have different : providerId ≠ other := fun equal => same equal.symm
    simp [same, different]

variable {call : Nat} {request : Pending}

theorem held_finish (held : Held maximum slots) (waits : slots.calls.waitsFor call = some request) :
    Held maximum (finish slots call request) := by
  obtain ⟨same, positive⟩ := held.slots call request waits
  have released : ∀ provider, providerInflightCount (finish slots call request).inflight provider =
      providerInflightCount slots.inflight provider - request.dispatches.count provider := by
    intro provider
    rw [finish, same]
    exact providerInflightCount_releaseAll _ _ positive provider
  -- the counter holds at least what the request has taken
  have covered : ∀ provider,
      request.dispatches.count provider ≤ providerInflightCount slots.inflight provider := by
    intro provider
    have counted := held.counted provider
    have part := Calls.weight_le_total waits
      (fun other : Pending => other.dispatches.count provider)
      (fun _ => Int.natCast_nonneg _)
    omega
  constructor
  case bounded =>
    intro provider
    have before := held.bounded provider
    rw [released]
    refine le_trans ?_ before
    exact_mod_cast Nat.sub_le _ _
  case counted =>
    intro provider
    have counted := held.counted provider
    have less := covered provider
    rw [released, finish, Calls.total_resume waits]
    simp only [Option.elim_none]
    omega
  case slots =>
    intro other later laterWaits
    obtain ⟨_, impossible⟩ | ⟨_, old⟩ := Calls.waitsFor_resume_cases waits laterWaits
    · contradiction
    · exact held.slots other later old

theorem held_start (held : Held maximum slots) (fresh : slots.calls.IsFresh call)
    {selection : Selection} {taken : Inflight}
    (acquired : acquireProviderSlot maximum slots.inflight selection.assigned = some taken)
    (room : HasRoom maximum slots.inflight selection.assigned) :
    Held maximum
      { inflight := taken
        calls := slots.calls.start call
          { phase := .upstream
            candidates := selection.fallbackCapable
            acquiredSlots := addSlot [] selection.assigned
            dispatches := [selection.assigned] } } where
  bounded := held.taken acquired room
  counted := by
    intro provider
    rw [count_taken acquired, Calls.total_start fresh, held.counted provider]
  slots := by
    intro other request waits
    obtain ⟨_, rfl⟩ | ⟨_, old⟩ := Calls.waitsFor_start_cases fresh waits
    · refine ⟨rfl, ?_⟩
      rw [mem_singleton]
      exact (acquireProviderSlot_eq_some acquired).1.symm
    · exact held.slots other request old

theorem held_retry (held : Held maximum slots) (waits : slots.calls.waitsFor call = some request)
    {taken : Inflight} {rest : List Candidate}
    (acquired : acquireProviderSlot maximum slots.inflight candidate.id = some taken)
    (unheld : candidate.id ∉ request.acquiredSlots)
    (room : HasRoom maximum slots.inflight candidate.id) :
    Held maximum
      { inflight := taken
        calls := slots.calls.resume call (some { request with
          candidates := rest
          acquiredSlots := addSlot request.acquiredSlots candidate.id
          dispatches := request.dispatches ++ [candidate.id] }) } where
  bounded := held.taken acquired room
  counted := by
    intro provider
    have counted := held.counted provider
    rw [count_taken acquired, Calls.total_resume waits]
    simp only [Option.elim_some, count_append]
    push_cast
    omega
  slots := by
    intro other later laterWaits
    obtain ⟨_, following⟩ | ⟨_, old⟩ := Calls.waitsFor_resume_cases waits laterWaits
    · obtain ⟨same, positive⟩ := held.slots call request waits
      cases following
      refine ⟨?_, ?_⟩
      · rw [addSlot_of_notMem unheld, same]
      · rw [mem_append, mem_singleton]
        rintro (earlier | zero)
        · exact positive earlier
        · exact (acquireProviderSlot_eq_some acquired).1 zero.symm
    · exact held.slots other later old

theorem held_queue (held : Held maximum slots) (fresh : slots.calls.IsFresh call) :
    Held maximum { slots with
      calls := slots.calls.start call
        { phase := .queued
          candidates := []
          acquiredSlots := []
          dispatches := [] } } where
  bounded := held.bounded
  counted := by
    intro provider
    rw [Calls.total_start fresh]
    simpa using held.counted provider
  slots := by
    intro other request waits
    obtain ⟨_, rfl⟩ | ⟨_, old⟩ := Calls.waitsFor_start_cases fresh waits
    · exact ⟨rfl, not_mem_nil⟩
    · exact held.slots other request old

theorem held_stream (held : Held maximum slots)
    (waits : slots.calls.waitsFor call = some request) (phase : Phase) :
    Held maximum { slots with
      calls := slots.calls.resume call (some { request with phase := phase }) }
    where
  bounded := held.bounded
  counted := by
    intro provider
    rw [Calls.total_resume waits]
    simpa using held.counted provider
  slots := by
    intro other later laterWaits
    obtain ⟨_, ⟨⟩⟩ | ⟨_, old⟩ := Calls.waitsFor_resume_cases waits laterWaits
    · exact held.slots call request waits
    · exact held.slots other later old

variable {after : Slots}

theorem held_arrive {selection : Option Selection} (held : Held maximum slots)
    (fresh : Fresh maximum slots (.arrive call selection))
    (fires : Fires (next maximum) slots (.arrive call selection) after) :
    Held maximum after := by
  simp only [Fires, next] at fires
  split at fires
  · next unused =>
      split at fires
      · cases fires
        exact held
      · split at fires
        · split at fires
          · cases fires
            exact held
          · next acquired =>
              cases fires
              exact held_start held unused acquired fresh
        · cases fires
          exact held_queue held unused
  · contradiction

theorem held_settle {outcome : Settled} (held : Held maximum slots)
    (fresh : Fresh maximum slots (.settle call outcome))
    (fires : Fires (next maximum) slots (.settle call outcome) after) :
    Held maximum after := by
  simp only [Fires, next] at fires
  cases waits : slots.calls.waitsFor call with
  | none =>
    simp [waits] at fires
  | some request =>
    simp only [waits] at fires
    split at fires
    · contradiction
    · cases outcome with
      | body | thrown =>
        cases fires
        exact held_finish held waits
      | stream =>
        cases fires
        exact held_stream held waits .streaming
      | noAnswer =>
        simp only [Fresh, waits] at fresh
        cases free : nextFree maximum slots.inflight request.candidates with
        | none =>
          simp only [free] at fires
          cases fires
          exact held_finish held waits
        | some found =>
          obtain ⟨candidate, taken, rest⟩ := found
          simp only [free] at fires fresh
          cases fires
          exact held_retry held waits (nextFree_eq_some free) fresh.1 fresh.2

theorem held_next {event : Event} (held : Held maximum slots)
    (taken : guarded (Fires (next maximum)) (Fresh maximum) slots event after) :
    Held maximum after := by
  obtain ⟨fresh, fires⟩ := taken
  cases event with
  | arrive call selection => exact held_arrive held fresh fires
  | settle call outcome => exact held_settle held fresh fires
  | streamEnds call | queueEnds call =>
    simp only [Fires, next] at fires
    split at fires
    · contradiction
    · next waits =>
        split at fires
        · cases fires
          exact held_finish held waits
        · contradiction

theorem maxInflightPerProvider_nonneg (configured : ℚ) :
    0 ≤ maxInflightPerProvider configured :=
  zero_le_one.trans (le_max_left _ _)

/-- While every slot is taken with room for it and once a request, the counts
are exact. -/
theorem slots_exact {configured : ℚ} {events : List Event} {slots : Slots}
    (run : Run (guarded (Fires (next (maxInflightPerProvider configured)))
      (Fresh (maxInflightPerProvider configured))) noRequests events
      slots) :
    Exact (maxInflightPerProvider configured) slots :=
  (run.invariant (Held (maxInflightPerProvider configured)) held_next
    (held_noRequests (maxInflightPerProvider_nonneg configured))).exact

section Samples

def fallback (id : Nat) : Candidate where
  id
  endpoint := true
  eligible := true

def sampleSelection (fallbackIds : List Nat) : Selection where
  assigned := 1
  proxied := true
  fallbackProviders := fallbackIds.map fallback

theorem slots_exact_sample :
    ∃ slots, execute (next (maxInflightPerProvider 2)) noRequests
      [.arrive 1 (some (sampleSelection [2, 3])), .arrive 2 (some (sampleSelection [])),
        .settle 1 .noAnswer] = some slots ∧
        providerInflightCount slots.inflight 1 = 2 ∧
        providerInflightCount slots.inflight 2 = 1 ∧ Exact (maxInflightPerProvider 2) slots := by
  refine exists_executed_guarded (Fresh (maxInflightPerProvider 2)) (fun slots =>
    providerInflightCount slots.inflight 1 = 2 ∧ providerInflightCount slots.inflight 2 = 1)
    (by decide +kernel) ?_
  rintro slots run ⟨first, second⟩
  exact ⟨first, second, slots_exact run⟩

/-- A fallback provider that is listed twice keeps a slot for ever, and a
maximum of one and a half lets two requests in. -/
theorem slot_leaks :
    (∃ slots, execute (next (maxInflightPerProvider 2)) noRequests
      [.arrive 1 (some (sampleSelection [2, 2])), .settle 1 .noAnswer,
        .settle 1 .noAnswer, .settle 1 .noAnswer] = some slots ∧
        ¬ Exact (maxInflightPerProvider 2) slots) ∧
      ∃ slots, execute (next (maxInflightPerProvider (3 / 2))) noRequests
        [.arrive 1 (some (sampleSelection [])),
          .arrive 2 (some (sampleSelection []))] = some slots ∧
          ¬ Exact (maxInflightPerProvider (3 / 2)) slots := by
  constructor
  · refine exists_executed (fun slots =>
      (∀ call ∈ slots.calls.rows, call.pending = none) ∧ providerInflightCount slots.inflight 2 = 1)
      (by decide +kernel) ?_
    rintro slots executed ⟨idle, kept⟩
    intro exact_counts
    have none_waits : ∀ call, slots.calls.waitsFor call = none := by
      intro call
      cases waits : slots.calls.waitsFor call with
      | none => rfl
      | some request =>
        obtain ⟨row, member, pending⟩ := Calls.mem_of_waitsFor waits
        rw [idle row member] at pending
        contradiction
    have zero := exact_counts.idle none_waits 2
    omega
  · refine exists_executed (providerInflightCount ·.inflight 1 = 2)
      (by decide +kernel) ?_
    intro slots _ two exact_counts
    have bounded := exact_counts.bounded 1
    rw [two] at bounded
    revert bounded
    decide +kernel

end Samples

end DcpPlatform.Chat.InFlight
