import DcpPlatform.Foundation.Table

/-!
# Tables with serial ids

A table whose rows are numbered by a counter, as an autoincrement column
does it. No row has a number above the counter, so the next number is fresh.
-/

namespace DcpPlatform.Foundation

open Table

universe u

structure Serial (Row : Type u) (key : Row → Nat) where
  table : Table Row key
  last : Nat
  bounded : ∀ row ∈ table.rows, key row ≤ last

namespace Serial

variable {Row : Type u} {key : Row → Nat}

def empty : Serial Row key :=
  ⟨Table.empty, 0, by
    intro row member
    cases member⟩

def lookup (serial : Serial Row key) (sought : Nat) : Option Row :=
  serial.table.lookup sought

theorem lookup_empty (sought : Nat) :
    (empty : Serial Row key).lookup sought = none :=
  rfl

variable {serial : Serial Row key} {sought : Nat} {row : Row}

theorem lookup_key (found : serial.lookup sought = some row) : key row = sought :=
  Table.lookup_key found

theorem le_last (found : serial.lookup sought = some row) : sought ≤ serial.last := by
  have bound := serial.bounded row (lookup_mem found)
  rw [lookup_key found] at bound
  exact bound

theorem lookup_above (above : serial.last < sought) : serial.lookup sought = none := by
  cases found : serial.lookup sought with
  | none => rfl
  | some row =>
    have bound := le_last found
    omega

def append (serial : Serial Row key) (row : Row)
    (numbered : key row = serial.last + 1) : Serial Row key where
  table := serial.table.insert row (by
    rw [numbered]
    exact lookup_above (Nat.lt_succ_self serial.last))
  last := serial.last + 1
  bounded := by
    intro other member
    rcases List.mem_append.mp member with old | new
    · exact Nat.le_succ_of_le (serial.bounded other old)
    · rw [List.mem_singleton.mp new, numbered]

theorem lookup_append (numbered : key row = serial.last + 1) (sought : Nat) :
    (serial.append row numbered).lookup sought =
      if sought = serial.last + 1 then some row
      else serial.lookup sought := by
  unfold lookup append
  rw [lookup_insert, numbered]
  by_cases next : sought = serial.last + 1
  · rw [if_pos next, if_pos next.symm]
  · rw [if_neg next, if_neg (Ne.symm next)]

variable {other : Row}

theorem lookup_append_cases (numbered : key row = serial.last + 1)
    (found : (serial.append row numbered).lookup sought = some other) :
    sought = serial.last + 1 ∧ other = row ∨
      sought ≠ serial.last + 1 ∧ serial.lookup sought = some other := by
  rw [lookup_append] at found
  by_cases next : sought = serial.last + 1
  · rw [if_pos next] at found
    injection found with same
    exact Or.inl ⟨next, same.symm⟩
  · rw [if_neg next] at found
    exact Or.inr ⟨next, found⟩

theorem lookup_append_of_some (numbered : key row = serial.last + 1)
    (found : serial.lookup sought = some other) :
    (serial.append row numbered).lookup sought = some other := by
  have below := le_last found
  rw [lookup_append, if_neg (by omega)]
  exact found

def update (serial : Serial Row key) (sought : Nat) (change : Row → Row)
    (keeps : ∀ row, key (change row) = key row) : Serial Row key where
  table := serial.table.update sought change keeps
  last := serial.last
  bounded := by
    intro later member
    obtain ⟨row, stored, rfl⟩ := List.mem_map.mp member
    by_cases here : key row = sought
    · rw [if_pos here, keeps]
      exact serial.bounded row stored
    · rw [if_neg here]
      exact serial.bounded row stored

def updateAll (serial : Serial Row key) (change : Row → Row)
    (keeps : ∀ row, key (change row) = key row) : Serial Row key where
  table := serial.table.updateAll change keeps
  last := serial.last
  bounded := by
    intro later member
    obtain ⟨row, stored, rfl⟩ := List.mem_map.mp member
    rw [keeps]
    exact serial.bounded row stored

variable {change : Row → Row}

theorem lookup_update_of_some (keeps : ∀ row, key (change row) = key row)
    (found : serial.lookup sought = some row) :
    (serial.update sought change keeps).lookup sought = some (change row) :=
  Table.lookup_update_of_some serial.table change keeps found

theorem lookup_update_of_ne (serial : Serial Row key) {sought other : Nat}
    (keeps : ∀ row, key (change row) = key row) (different : other ≠ sought) :
    (serial.update sought change keeps).lookup other = serial.lookup other :=
  Table.lookup_update_of_ne serial.table keeps different

theorem lookup_updateAll_of_some (keeps : ∀ row, key (change row) = key row)
    (found : serial.lookup sought = some row) :
    (serial.updateAll change keeps).lookup sought = some (change row) :=
  (lookup_updateAll serial.table change keeps sought).trans (congrArg (Option.map change) found)

variable {later : Row}

theorem lookup_update_cases {sought other : Nat} (keeps : ∀ row, key (change row) = key row)
    (found : (serial.update sought change keeps).lookup other = some later) :
    (other = sought ∧ ∃ row, serial.lookup other = some row ∧ later = change row) ∨
      other ≠ sought ∧ serial.lookup other = some later :=
  lookup_of_lookup_update keeps found

theorem lookup_updateAll_cases (keeps : ∀ row, key (change row) = key row)
    (found : (serial.updateAll change keeps).lookup sought = some later) :
    ∃ row, serial.lookup sought = some row ∧ later = change row := by
  rw [lookup, updateAll, lookup_updateAll] at found
  obtain ⟨row, stored, same⟩ := Option.map_eq_some_iff.mp found
  exact ⟨row, stored, same.symm⟩

end Serial

end DcpPlatform.Foundation
