import Mathlib.Data.List.Basic

/-!
# Maps in insertion order

A map that remembers in which order its keys were first set. Setting a key
that is there changes its value and not its place, so that the oldest keys can
be dropped first.
-/

namespace DcpPlatform.Foundation

open List

universe u v

variable {Key : Type u} {Value : Type v}

abbrev InsertionMap (Key : Type u) (Value : Type v) : Type (max u v) :=
  List (Key × Value)

namespace InsertionMap

def dropOldest (count : Nat) (map : InsertionMap Key Value) :
    InsertionMap Key Value :=
  map.drop count

def deleteWhere (test : Value → Bool) (map : InsertionMap Key Value) :
    InsertionMap Key Value :=
  map.filter (fun pair => !test pair.2)

variable {map : InsertionMap Key Value} {pair : Key × Value}

theorem mem_of_mem_dropOldest {count : Nat} (member : pair ∈ map.dropOldest count) :
    pair ∈ map :=
  mem_of_mem_drop member

theorem mem_of_mem_deleteWhere {test : Value → Bool}
    (member : pair ∈ map.deleteWhere test) : pair ∈ map :=
  mem_of_mem_filter member

section Keys

variable [DecidableEq Key]

def get (map : InsertionMap Key Value) (key : Key) : Option Value :=
  (map.find? (fun pair => pair.1 = key)).map Prod.snd

def set (map : InsertionMap Key Value) (key : Key) (value : Value) :
    InsertionMap Key Value :=
  if map.any (fun pair => pair.1 = key) then
    map.map (fun pair => if pair.1 = key then (key, value) else pair)
  else
    map ++ [(key, value)]

def delete (map : InsertionMap Key Value) (key : Key) :
    InsertionMap Key Value :=
  map.filter (fun pair => pair.1 ≠ key)

variable {map : InsertionMap Key Value} {key : Key} {value : Value}

theorem mem_of_get (found : map.get key = some value) :
    (key, value) ∈ map := by
  obtain ⟨pair, first, rfl⟩ := Option.map_eq_some_iff.mp found
  have same : pair.1 = key := by
    simpa using find?_some first
  subst same
  exact mem_of_find?_eq_some first

variable {pair : Key × Value}

theorem mem_set (member : pair ∈ map.set key value) :
    pair = (key, value) ∨ pair ∈ map := by
  unfold set at member
  split at member
  · obtain ⟨before, present, rfl⟩ := mem_map.mp member
    by_cases same : before.1 = key
    · rw [if_pos same]
      exact Or.inl rfl
    · rw [if_neg same]
      exact Or.inr present
  · rcases mem_append.mp member with before | last
    · exact Or.inr before
    · exact Or.inl (mem_singleton.mp last)

theorem mem_of_mem_delete (member : pair ∈ map.delete key) : pair ∈ map :=
  mem_of_mem_filter member

end Keys

end InsertionMap

end DcpPlatform.Foundation
