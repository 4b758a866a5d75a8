import DcpPlatform.Chat.Idempotency
import DcpPlatform.Foundation.Transition

/-!
# One run for a key

When, among the requests of a renter with one key within its time to live, one
request is served by a provider and the others get its answer.
-/

namespace DcpPlatform.Chat.Idempotency

open Foundation List

variable {Body Response : Type}

structure SameKey (first second : Request Body) : Prop where
  renter : first.renter = second.renter
  header : first.header = second.header
  firstKeyed : first.key.isSome
  secondKeyed : second.key.isSome

theorem sameKey_iff (first second : Request Body) :
    SameKey first second ↔ (first.renter = second.renter ∧ first.header = second.header) ∧
      first.key.isSome ∧ second.key.isSome :=
  ⟨fun same => ⟨⟨same.renter, same.header⟩, same.firstKeyed, same.secondKeyed⟩,
    fun same => ⟨same.1.1, same.1.2, same.2.1, same.2.2⟩⟩

instance (first second : Request Body) :
    Decidable (SameKey first second) :=
  decidable_of_iff _ (sameKey_iff first second).symm

theorem SameKey.symm {first second : Request Body}
    (same : SameKey first second) : SameKey second first where
  renter := same.renter.symm
  header := same.header.symm
  firstKeyed := same.secondKeyed
  secondKeyed := same.firstKeyed

/-- A key is served once within its time to live, and what the cache answers
is the answer of a provider to the same body. -/
structure RunsOnce (ttl : ℚ) (chats : Chats Body Response) : Prop where
  once : chats.served.Pairwise (fun earlier later =>
    SameKey earlier.request later.request → (earlier.settledAt : ℚ) + ttl < later.begunAt)
  replayed : ∀ replay ∈ chats.replayed, ∃ served ∈ chats.served,
    SameKey served.request replay.request ∧ served.request.body = replay.request.body ∧
      served.response = replay.response ∧ (replay.repliedAt : ℚ) ≤ served.settledAt + ttl

/-- A request with a key finds an entry that an equal request produced, or
finds none, while no request with its key is under way or was served within
the time to live. -/
def FindsItsAnswer (ttl : ℚ) (chats : Chats Body Response) :
    Event Body Response → Prop
  | .arrive _ now request path =>
    match (lookUp ttl now chats.cache request).1 with
    | some entry =>
      ∀ served ∈ chats.served, served.call = entry.producedBy →
        served.request.header = request.header ∧ served.request.body = request.body
    | none =>
      path.isSome = true →
        (∀ call ∈ chats.calls.rows, ∀ pending ∈ call.pending, ¬ SameKey pending.request request) ∧
        ∀ served ∈ chats.served, SameKey served.request request → (served.settledAt : ℚ) + ttl < now
  | .settle _ _ _ => True

instance [DecidableEq Body] (ttl : ℚ) (chats : Chats Body Response) (event : Event Body Response) :
    Decidable (FindsItsAnswer ttl chats event) := by
  unfold FindsItsAnswer
  cases event with
  | arrive call now request path =>
    dsimp only
    split <;> infer_instance
  | settle call now answer => exact isTrue trivial

variable {ttl : ℚ} {now : Nat} {cache : Cache Response} {pair : (Nat × String) × Entry Response}

theorem mem_of_mem_sweep (member : pair ∈ idempotencySweep ttl now cache) : pair ∈ cache := by
  unfold idempotencySweep at member
  split at member
  · exact member
  · exact InsertionMap.mem_of_mem_deleteWhere (InsertionMap.mem_of_mem_dropOldest member)

variable {now renterId : Nat} {key : String}

theorem mem_of_mem_getIdempotencyEntry
    (member : pair ∈ (getIdempotencyEntry ttl now cache renterId key).2) :
    pair ∈ cache := by
  unfold getIdempotencyEntry at member
  dsimp only at member
  split at member
  · exact member
  · split at member
    · exact InsertionMap.mem_of_mem_delete member
    · exact member

variable {entry : Entry Response}

theorem getIdempotencyEntry_eq_some
    (found : (getIdempotencyEntry ttl now cache renterId key).1 = some entry) :
    (idempotencyKey renterId key, entry) ∈ cache ∧ (now : ℚ) ≤ entry.settledAt + ttl := by
  unfold getIdempotencyEntry at found
  dsimp only at found
  split at found
  · contradiction
  · next stored =>
      split at found
      · contradiction
      · next live =>
          cases Option.some.inj found
          refine ⟨InsertionMap.mem_of_get stored, ?_⟩
          simp only [isExpired, decide_eq_true_eq, not_lt] at live
          linarith

theorem mem_of_mem_lookUp {ttl : ℚ} {now : Nat} {cache : Cache Response}
    {request : Request Body} {pair : (Nat × String) × Entry Response}
    (member : pair ∈ (lookUp ttl now cache request).2) : pair ∈ cache := by
  unfold lookUp at member
  split at member
  · exact member
  · exact mem_of_mem_getIdempotencyEntry member

variable {request : Request Body}

theorem lookUp_eq_some (found : (lookUp ttl now cache request).1 = some entry) :
    ∃ key, request.key = some key ∧
      (idempotencyKey request.renter key, entry) ∈ cache ∧ (now : ℚ) ≤ entry.settledAt + ttl := by
  unfold lookUp at found
  split at found
  · contradiction
  · next key keyed =>
      exact ⟨key, keyed, getIdempotencyEntry_eq_some found⟩

variable {pending : Pending Body} {call : Nat}

theorem mem_keepAnswer {response : Response}
    (member : pair ∈ keepAnswer ttl now cache pending call response) :
    pair ∈ cache ∨ ∃ key, pending.request.key = some key ∧
      pair = (idempotencyKey pending.request.renter key, ⟨response, 200, now, call⟩) := by
  unfold keepAnswer at member
  split at member
  · next key _ keyed =>
      rcases InsertionMap.mem_set member with new | old
      · exact Or.inr ⟨key, keyed, new⟩
      · exact Or.inl (mem_of_mem_sweep old)
  · exact Or.inl member

/-- Every entry is the answer to a served request of its renter, no waiting
request has its key served within the time to live before it began, and no two
waiting requests have the same key. -/
structure Kept (ttl : ℚ) (chats : Chats Body Response) : Prop where
  runsOnce : RunsOnce ttl chats
  produced : ∀ pair ∈ chats.cache, ∃ served ∈ chats.served,
    served.call = pair.2.producedBy ∧ served.request.renter = pair.1.1 ∧ served.request.key.isSome ∧
      served.response = pair.2.response ∧ served.settledAt = pair.2.settledAt
  apart : ∀ call pending, chats.calls.waitsFor call = some pending →
    ∀ served ∈ chats.served, SameKey served.request pending.request →
      (served.settledAt : ℚ) + ttl < pending.begunAt
  alone : ∀ call other pending otherPending, chats.calls.waitsFor call = some pending →
    chats.calls.waitsFor other = some otherPending →
    SameKey pending.request otherPending.request → call = other

theorem kept_noChats (ttl : ℚ) :
    Kept ttl (noChats : Chats Body Response) where
  runsOnce :=
    { once := List.Pairwise.nil
      replayed := by
        intro replay member
        cases member }
  produced := by
    intro pair member
    cases member
  apart := by
    intro call pending waits
    cases waits
  alone := by
    intro call other pending otherPending waits
    cases waits

theorem Kept.of_cache {ttl : ℚ} {chats : Chats Body Response}
    (kept : Kept ttl chats) {cache : Cache Response}
    (fewer : ∀ pair ∈ cache, pair ∈ chats.cache) :
    Kept ttl { chats with cache := cache } where
  runsOnce := ⟨kept.runsOnce.once, kept.runsOnce.replayed⟩
  produced := fun pair member => kept.produced pair (fewer pair member)
  apart := kept.apart
  alone := kept.alone

variable {chats : Chats Body Response}

theorem Kept.replay (kept : Kept ttl chats)
    (found : (lookUp ttl now chats.cache request).1 = some entry)
    (equal : ∀ served ∈ chats.served, served.call = entry.producedBy →
      served.request.header = request.header ∧ served.request.body = request.body) :
    Kept ttl { chats with
      replayed := chats.replayed ++ [⟨request, entry.response, entry.statusCode, now⟩] } where
  runsOnce :=
    { once := kept.runsOnce.once
      replayed := by
        intro replay member
        rcases mem_append.mp member with before | last
        · exact kept.runsOnce.replayed replay before
        · cases mem_singleton.mp last
          obtain ⟨key, keyed, present, live⟩ := lookUp_eq_some found
          obtain ⟨served, wasServed, call, renter, servedKeyed, response,
            settledAt⟩ := kept.produced _ present
          obtain ⟨header, body⟩ := equal served wasServed call
          have sameKey : SameKey served.request request :=
            { renter := renter
              header := header
              firstKeyed := servedKeyed
              secondKeyed := by rw [keyed]; rfl }
          refine ⟨served, wasServed, sameKey, body, response, ?_⟩
          rw [settledAt]
          exact live }
  produced := kept.produced
  apart := kept.apart
  alone := kept.alone

theorem Kept.start {path : Path} (kept : Kept ttl chats) (fresh : chats.calls.IsFresh call)
    (noneUnderWay :
      ∀ call ∈ chats.calls.rows, ∀ pending ∈ call.pending, ¬ SameKey pending.request request)
    (noneServed : ∀ served ∈ chats.served, SameKey served.request request →
      (served.settledAt : ℚ) + ttl < now) :
    Kept ttl { chats with
      calls := chats.calls.start call ⟨request, now, path⟩ } where
  runsOnce := ⟨kept.runsOnce.once, kept.runsOnce.replayed⟩
  produced := kept.produced
  apart := by
    intro other pending waits
    rcases Calls.waitsFor_start_cases fresh waits with ⟨_, rfl⟩ | ⟨_, before⟩
    · exact noneServed
    · exact kept.apart other pending before
  alone := by
    have unlike {other : Nat} {pending : Pending Body}
        (before : chats.calls.waitsFor other = some pending) :
        ¬ SameKey pending.request request := by
      obtain ⟨row, member, same⟩ := Calls.mem_of_waitsFor before
      exact noneUnderWay row member pending same
    intro first second pending otherPending waits otherWaits same
    rcases Calls.waitsFor_start_cases fresh waits with ⟨here, rfl⟩ | ⟨_, before⟩
    · rcases Calls.waitsFor_start_cases fresh otherWaits with ⟨there, rfl⟩ | ⟨_, otherBefore⟩
      · exact here.trans there.symm
      · exact absurd same.symm (unlike otherBefore)
    · rcases Calls.waitsFor_start_cases fresh otherWaits with ⟨_, rfl⟩ | ⟨_, otherBefore⟩
      · exact absurd same (unlike before)
      · exact kept.alone first second pending otherPending before otherBefore same

theorem waitsFor_of_ended {call other : Nat} {pending later : Pending Body}
    (waits : chats.calls.waitsFor call = some pending)
    (laterWaits : (chats.calls.resume call none).waitsFor other = some later) :
    other ≠ call ∧ chats.calls.waitsFor other = some later := by
  rcases Calls.waitsFor_resume_cases waits laterWaits with ⟨_, impossible⟩ | before
  · contradiction
  · exact before

theorem Kept.fail (kept : Kept ttl chats) (waits : chats.calls.waitsFor call = some pending) :
    Kept ttl { chats with calls := chats.calls.resume call none } where
  runsOnce := ⟨kept.runsOnce.once, kept.runsOnce.replayed⟩
  produced := kept.produced
  apart := by
    intro other later laterWaits
    exact kept.apart other later (waitsFor_of_ended waits laterWaits).2
  alone := by
    intro first second later otherLater laterWaits otherWaits
    exact kept.alone first second later otherLater (waitsFor_of_ended waits laterWaits).2
      (waitsFor_of_ended waits otherWaits).2

theorem Kept.serve (kept : Kept ttl chats)
    (waits : chats.calls.waitsFor call = some pending) (response : Response) :
    Kept ttl { chats with
      cache := keepAnswer ttl now chats.cache pending call response
      calls := chats.calls.resume call none
      served := chats.served ++ [⟨call, pending.request, response, pending.begunAt, now⟩] } where
  runsOnce :=
    { once := by
        refine pairwise_append.mpr ⟨kept.runsOnce.once, pairwise_singleton _ _, ?_⟩
        intro earlier before later last same
        cases mem_singleton.mp last
        exact kept.apart call pending waits earlier before same
      replayed := by
        intro replay member
        obtain ⟨served, before, rest⟩ := kept.runsOnce.replayed replay member
        exact ⟨served, mem_append_left _ before, rest⟩ }
  produced := by
    intro pair member
    rcases mem_keepAnswer member with old | ⟨key, keyed, rfl⟩
    · obtain ⟨served, before, rest⟩ := kept.produced pair old
      exact ⟨served, mem_append_left _ before, rest⟩
    · refine ⟨_, mem_append_right _ (mem_singleton_self _), rfl, rfl, ?_, rfl, rfl⟩
      rw [keyed]
      rfl
  apart := by
    intro other later laterWaits served member same
    obtain ⟨different, before⟩ := waitsFor_of_ended waits laterWaits
    rcases mem_append.mp member with old | last
    · exact kept.apart other later before served old same
    · cases mem_singleton.mp last
      exact absurd (kept.alone call other pending later waits before same) different.symm
  alone := by
    intro first second later otherLater laterWaits otherWaits
    exact kept.alone first second later otherLater (waitsFor_of_ended waits laterWaits).2
      (waitsFor_of_ended waits otherWaits).2

theorem kept_next {chats after : Chats Body Response}
    {event : Event Body Response} (kept : Kept ttl chats)
    (taken : guarded (Fires (next ttl)) (FindsItsAnswer ttl) chats event after) :
    Kept ttl after := by
  obtain ⟨finds, fires⟩ := taken
  cases event with
  | arrive call now request path =>
    simp only [Fires, next] at fires
    by_cases fresh : chats.calls.IsFresh call
    · rw [if_pos fresh] at fires
      have fewer := @mem_of_mem_lookUp _ _ ttl now chats.cache request
      cases found : (lookUp ttl now chats.cache request).1 with
      | some entry =>
        simp only [FindsItsAnswer, found] at fires finds
        cases fires
        exact (kept.replay found finds).of_cache (fun _ => fewer)
      | none =>
        simp only [FindsItsAnswer, found] at fires finds
        cases path with
        | none =>
          cases fires
          exact kept.of_cache (fun _ => fewer)
        | some path =>
          cases fires
          obtain ⟨noneUnderWay, noneServed⟩ := finds rfl
          exact (kept.start fresh noneUnderWay noneServed).of_cache (fun _ => fewer)
    · rw [if_neg fresh] at fires
      contradiction
  | settle call now answer =>
    simp only [Fires, next] at fires
    cases waits : chats.calls.waitsFor call with
    | none => simp [waits] at fires
    | some pending =>
      simp only [waits] at fires
      cases answer with
      | none =>
        cases fires
        exact kept.fail waits
      | some response =>
        cases fires
        exact kept.serve waits response

section Samples

def sampleChat (renter : Nat) (key body : String) : Request String where
  renter
  header := some key
  stream := false
  body

end Samples

end DcpPlatform.Chat.Idempotency
