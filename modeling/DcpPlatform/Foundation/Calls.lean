import Mathlib.Algebra.Order.Group.Int
import DcpPlatform.Foundation.Table

/-!
# Calls under way

Asynchronous calls by their numbers, each with the request it waits for, or
none when it has ended. `failed` means that nothing was executed, `lost` that
the request was executed and its answer did not arrive.
-/

namespace DcpPlatform.Foundation

open Option

open Table

universe u v

inductive Reply where
  | done | failed | lost
  deriving DecidableEq

structure Call (Pending : Type u) where
  id : Nat
  pending : Option Pending

abbrev Calls (Pending : Type u) :=
  Table (Call Pending) Call.id

def Call.setPending {Pending : Type u} (pending : Option Pending)
    (call : Call Pending) : Call Pending :=
  { call with pending := pending }

@[simp]
theorem Call.setPending_id {Pending : Type u} (pending : Option Pending)
    (call : Call Pending) : (call.setPending pending).id = call.id :=
  rfl

namespace Calls

variable {Pending : Type u} {calls : Calls Pending} {callId : Nat}
variable {pending : Pending} {next : Option Pending}

def waitsFor (calls : Calls Pending) (callId : Nat) : Option Pending :=
  (Table.lookup calls callId).bind Call.pending

def IsFresh (calls : Calls Pending) (callId : Nat) : Prop :=
  Table.lookup calls callId = none

instance (calls : Calls Pending) (callId : Nat) :
    Decidable (IsFresh calls callId) := by
  unfold IsFresh
  cases Table.lookup calls callId with
  | none => exact isTrue rfl
  | some call => exact isFalse (fun same => by cases same)

def start (calls : Calls Pending) (callId : Nat) (pending : Pending) :
    Calls Pending :=
  Table.insertIfNew calls ⟨callId, some pending⟩

def resume (calls : Calls Pending) (callId : Nat) (next : Option Pending) : Calls Pending :=
  Table.update calls callId (Call.setPending next) (Call.setPending_id next)

theorem mem_of_waitsFor (waits : waitsFor calls callId = some pending) :
    ∃ call ∈ calls.rows, pending ∈ call.pending := by
  obtain ⟨call, found, same⟩ := bind_eq_some_iff.mp waits
  exact ⟨call, lookup_mem found, same⟩

theorem waitsFor_of_mem {call : Call Pending} (member : call ∈ calls.rows) :
    waitsFor calls call.id = call.pending := by
  rw [waitsFor, lookup_of_mem member]
  rfl

theorem IsFresh.waitsFor (fresh : IsFresh calls callId) :
    waitsFor calls callId = none := by
  rw [Calls.waitsFor, show lookup calls callId = none from fresh]
  rfl

theorem waitsFor_empty (callId : Nat) :
    waitsFor (Table.empty : Calls Pending) callId = none :=
  rfl

theorem waitsFor_start (fresh : IsFresh calls callId) (pending : Pending) (other : Nat) :
    waitsFor (start calls callId pending) other =
      if other = callId then some pending else waitsFor calls other := by
  have absent : lookup calls (Call.id ⟨callId, some pending⟩) = none := fresh
  have inserted := lookup_insert_under calls absent rfl other
  unfold waitsFor start
  rw [insertIfNew_of_fresh absent, inserted]
  by_cases here : other = callId
  · rw [if_pos here, if_pos here]
    rfl
  · rw [if_neg here, if_neg here]

variable {other : Nat} {later : Pending}

theorem waitsFor_start_of_some (fresh : IsFresh calls callId)
    (waits : waitsFor calls other = some later) (pending : Pending) :
    waitsFor (start calls callId pending) other = some later := by
  rw [waitsFor_start fresh, if_neg]
  · exact waits
  · intro here
    rw [here, fresh.waitsFor] at waits
    cases waits

/-- After a start a call waits for the first request of the new call or for
what it waited for. -/
theorem waitsFor_start_cases (fresh : IsFresh calls callId)
    (waits : waitsFor (start calls callId pending) other = some later) :
    other = callId ∧ later = pending ∨ other ≠ callId ∧ waitsFor calls other = some later := by
  rw [waitsFor_start fresh] at waits
  by_cases here : other = callId
  · rw [if_pos here] at waits
    injection waits with same
    exact Or.inl ⟨here, same.symm⟩
  · rw [if_neg here] at waits
    exact Or.inr ⟨here, waits⟩

theorem waitsFor_resume (waits : waitsFor calls callId = some pending)
    (next : Option Pending) (other : Nat) :
    waitsFor (resume calls callId next) other =
      if other = callId then next else waitsFor calls other := by
  obtain ⟨call, stored, _⟩ := bind_eq_some_iff.mp waits
  unfold waitsFor resume
  by_cases here : other = callId
  · rw [if_pos here, here, lookup_update_of_some _ _ _ stored]
    rfl
  · rw [if_neg here, lookup_update_of_ne _ _ here]

theorem waitsFor_resume_of_ne (waits : waitsFor calls callId = some pending)
    (different : other ≠ callId) :
    waitsFor (resume calls callId next) other = waitsFor calls other := by
  rw [waitsFor_resume waits, if_neg different]

/-- After a turn a call waits for its next request or for what it waited
for. -/
theorem waitsFor_resume_cases (waits : waitsFor calls callId = some pending)
    (laterWaits : waitsFor (resume calls callId next) other = some later) :
    other = callId ∧ next = some later ∨ other ≠ callId ∧ waitsFor calls other = some later := by
  rw [waitsFor_resume waits] at laterWaits
  by_cases here : other = callId
  · rw [if_pos here] at laterWaits
    exact Or.inl ⟨here, laterWaits⟩
  · rw [if_neg here] at laterWaits
    exact Or.inr ⟨here, laterWaits⟩

theorem isFresh_of_resume (fresh : IsFresh (resume calls callId next) other) :
    IsFresh calls other := by
  unfold IsFresh resume at *
  rw [lookup_update] at fresh
  by_cases here : other = callId
  · rw [if_pos here] at fresh
    exact map_eq_none_iff.mp fresh
  · rw [if_neg here] at fresh
    exact fresh

theorem isFresh_of_start (fresh : IsFresh (start calls callId pending) other) :
    IsFresh calls other := by
  cases found : lookup calls other with
  | none => exact found
  | some call =>
    have later : lookup (start calls callId pending) other = some call := by
      unfold start insertIfNew
      split
      · exact lookup_insert_of_some _ _ found
      · exact found
    rw [IsFresh, later] at fresh
    cases fresh

def Exclusive {Key : Type v} (calls : Calls Pending) (of : Pending → Option Key) : Prop :=
  ∀ firstId secondId first second key, waitsFor calls firstId = some first →
    waitsFor calls secondId = some second →
    of first = some key → of second = some key → firstId = secondId

variable {Key : Type v}

theorem exclusive_empty (of : Pending → Option Key) :
    Exclusive (Table.empty : Calls Pending) of := by
  intro firstId secondId first second key waits
  cases waits

theorem Exclusive.start {of : Pending → Option Key}
    (one : Exclusive calls of) (fresh : IsFresh calls callId)
    (alone : ∀ otherId other key,
      of pending = some key → Calls.waitsFor calls otherId = some other → of other ≠ some key) :
    Exclusive (Calls.start calls callId pending) of := by
  intro firstId secondId first second key firstWaits secondWaits firstOf secondOf
  rcases waitsFor_start_cases fresh firstWaits with ⟨rfl, rfl⟩ | ⟨_, firstOld⟩
  · rcases waitsFor_start_cases fresh secondWaits with ⟨rfl, _⟩ | ⟨_, secondOld⟩
    · rfl
    · exact absurd secondOf (alone secondId second key firstOf secondOld)
  · rcases waitsFor_start_cases fresh secondWaits with ⟨rfl, rfl⟩ | ⟨_, secondOld⟩
    · exact absurd firstOf (alone firstId first key secondOf firstOld)
    · exact one firstId secondId first second key firstOld secondOld firstOf secondOf

theorem Exclusive.resume_alone {of : Pending → Option Key}
    (one : Exclusive calls of) (waits : Calls.waitsFor calls callId = some pending)
    (alone : ∀ later key, next = some later → of later = some key → ∀ otherId other,
      otherId ≠ callId → Calls.waitsFor calls otherId = some other → of other ≠ some key) :
    Exclusive (Calls.resume calls callId next) of := by
  intro firstId secondId first second key firstWaits secondWaits firstOf secondOf
  rcases waitsFor_resume_cases waits firstWaits with ⟨rfl, firstNext⟩ | ⟨firstOther, firstOld⟩
  · rcases waitsFor_resume_cases waits secondWaits with ⟨rfl, _⟩ | ⟨secondOther, secondOld⟩
    · rfl
    · exact absurd secondOf
        (alone first key firstNext firstOf secondId second secondOther secondOld)
  · rcases waitsFor_resume_cases waits secondWaits with ⟨rfl, secondNext⟩ | ⟨_, secondOld⟩
    · exact absurd firstOf (alone second key secondNext secondOf firstId first firstOther firstOld)
    · exact one firstId secondId first second key firstOld secondOld firstOf secondOf

theorem Exclusive.resume {of : Pending → Option Key} (one : Exclusive calls of)
    (waits : Calls.waitsFor calls callId = some pending)
    (keeps : ∀ later key, next = some later → of later = some key → of pending = some key) :
    Exclusive (Calls.resume calls callId next) of := by
  apply one.resume_alone waits
  intro later key following laterOf otherId other different otherWaits otherOf
  exact different (one otherId callId other pending key otherWaits waits otherOf
    (keeps later key following laterOf))

/-- A weight summed over the calls under way. -/
def total (calls : Calls Pending) (weight : Pending → ℤ) : ℤ :=
  Table.total calls (fun call => call.pending.elim 0 weight)

@[simp]
theorem total_empty (weight : Pending → ℤ) :
    total (Table.empty : Calls Pending) weight = 0 :=
  rfl

theorem total_start (fresh : IsFresh calls callId) (pending : Pending) (weight : Pending → ℤ) :
    total (start calls callId pending) weight = total calls weight + weight pending := by
  have absent : lookup calls (Call.id ⟨callId, some pending⟩) = none := fresh
  rw [total, start, insertIfNew_of_fresh absent, total_insert]
  rfl

theorem total_resume (waits : waitsFor calls callId = some pending) (weight : Pending → ℤ) :
    total (resume calls callId next) weight =
      total calls weight - weight pending + next.elim 0 weight := by
  obtain ⟨call, stored, current⟩ := bind_eq_some_iff.mp waits
  rw [total, resume, total_update _ _ _ stored, current]
  rfl

theorem weight_le_total (waits : waitsFor calls callId = some pending)
    (weight : Pending → ℤ) (nonneg : ∀ other, 0 ≤ weight other) :
    weight pending ≤ total calls weight := by
  have rest : 0 ≤ total (resume calls callId none) weight := by
    apply total_nonneg
    intro call _
    cases call.pending with
    | none => exact le_refl 0
    | some other => exact nonneg other
  rw [total_resume waits, elim_none] at rest
  omega

theorem total_of_idle (idle : ∀ callId, waitsFor calls callId = none) (weight : Pending → ℤ) :
    total calls weight = 0 := by
  apply List.sum_eq_zero
  intro amount member
  obtain ⟨call, callMember, rfl⟩ := List.mem_map.mp member
  rw [← waitsFor_of_mem callMember, idle]
  rfl

end Calls

end DcpPlatform.Foundation
