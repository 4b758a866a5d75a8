import Mathlib.Algebra.Order.BigOperators.Group.List
import Mathlib.Data.List.Nodup
import Mathlib.Tactic.Abel

/-!
# Tables with a primary key

A table is the list of its rows in insertion order together with the fact that
no two rows share a key. `insertIfNew` is an insert that is ignored on a key
conflict, `update` rewrites the row under one key, and `total` adds up a
weight over all rows.
-/

namespace DcpPlatform.Foundation

open List

universe u v w

/-- Rows in insertion order, no two with the same key. -/
structure Table (Row : Type u) {Key : Type v} (key : Row → Key) where
  rows : List Row
  keysNodup : (rows.map key).Nodup

namespace Table

variable {Row : Type u} {Key : Type v} {key : Row → Key}

def empty : Table Row key :=
  ⟨[], List.nodup_nil⟩

variable [DecidableEq Key]

def lookup (table : Table Row key) (sought : Key) : Option Row :=
  table.rows.find? (fun row => key row = sought)

variable {table : Table Row key} {sought : Key} {row : Row}

theorem lookup_key (found : table.lookup sought = some row) :
    key row = sought := by
  simpa using find?_some found

theorem lookup_mem (found : table.lookup sought = some row) :
    row ∈ table.rows :=
  mem_of_find?_eq_some found

theorem lookup_eq_none_iff (table : Table Row key) (sought : Key) :
    table.lookup sought = none ↔ ∀ row ∈ table.rows, key row ≠ sought := by
  simp [lookup]

private theorem find_of_mem {rows : List Row} (nodup : (rows.map key).Nodup) (member : row ∈ rows) :
    rows.find? (fun other => key other = key row) = some row := by
  induction rows with
  | nil =>
    simp at member
  | cons head tail ih =>
    simp only [map_cons, nodup_cons, mem_map, not_exists, not_and] at nodup
    rcases mem_cons.mp member with rfl | tailMember
    · simp
    · have different : key head ≠ key row := by
        intro same
        exact nodup.1 row tailMember same.symm
      simpa [different] using ih nodup.2 tailMember

theorem lookup_of_mem (member : row ∈ table.rows) :
    table.lookup (key row) = some row :=
  find_of_mem table.keysNodup member

def insert (table : Table Row key) (row : Row)
    (fresh : table.lookup (key row) = none) : Table Row key where
  rows := table.rows ++ [row]
  keysNodup := by
    have absent := (lookup_eq_none_iff table (key row)).mp fresh
    rw [List.map_append, List.map_cons, List.map_nil]
    refine List.nodup_append.mpr ⟨table.keysNodup, by simp, ?_⟩
    intro first firstMember second secondMember
    obtain ⟨other, otherMember, rfl⟩ := List.mem_map.mp firstMember
    rw [List.mem_singleton.mp secondMember]
    exact absent other otherMember

/-- Append a row, leaving the table alone when its key is in use. -/
def insertIfNew (table : Table Row key) (row : Row) : Table Row key :=
  if fresh : table.lookup (key row) = none then
    table.insert row fresh
  else
    table

@[simp]
theorem insert_rows (table : Table Row key) (row : Row) (fresh : table.lookup (key row) = none) :
    (table.insert row fresh).rows = table.rows ++ [row] :=
  rfl

theorem insertIfNew_of_fresh (fresh : table.lookup (key row) = none) :
    table.insertIfNew row = table.insert row fresh := by
  simp [insertIfNew, fresh]

theorem insertIfNew_of_taken {row other : Row} (taken : table.lookup (key row) = some other) :
    table.insertIfNew row = table := by
  simp [insertIfNew, taken]

theorem lookup_insert (table : Table Row key) (row : Row)
    (fresh : table.lookup (key row) = none) (sought : Key) :
    (table.insert row fresh).lookup sought =
      if key row = sought then some row else table.lookup sought := by
  by_cases same : key row = sought
  · subst same
    have absent : table.rows.find? (key · = key row) = none := fresh
    simp only [lookup, insert_rows, find?_append, absent]
    simp
  · simp [lookup, same]

theorem lookup_insert_under (table : Table Row key) {row : Row}
    (fresh : table.lookup (key row) = none) {inserted : Key}
    (rowKey : key row = inserted) (sought : Key) :
    (table.insert row fresh).lookup sought =
      if sought = inserted then some row else table.lookup sought := by
  rw [lookup_insert, rowKey]
  by_cases same : sought = inserted
  · rw [if_pos same, if_pos same.symm]
  · rw [if_neg same, if_neg (same ·.symm)]

theorem lookup_insert_self (table : Table Row key) (row : Row)
    (fresh : table.lookup (key row) = none) :
    (table.insert row fresh).lookup (key row) = some row := by
  rw [lookup_insert, if_pos rfl]

theorem lookup_insert_of_ne (table : Table Row key)
    (fresh : table.lookup (key row) = none) (different : key row ≠ sought) :
    (table.insert row fresh).lookup sought = table.lookup sought := by
  rw [lookup_insert, if_neg different]

theorem lookup_insert_of_some (table : Table Row key) {row other : Row}
    (fresh : table.lookup (key row) = none)
    (found : table.lookup sought = some other) :
    (table.insert row fresh).lookup sought = some other := by
  rw [lookup_insert_of_ne]
  · exact found
  · intro same
    rw [same, found] at fresh
    cases fresh

theorem length_filter_le_one (table : Table Row key) (keep : Row → Bool)
    (same : ∀ first ∈ table.rows, ∀ second ∈ table.rows,
      keep first = true → keep second = true → key first = key second) :
    (table.rows.filter keep).length ≤ 1 := by
  have nodup : (table.rows.filter keep).Nodup := (List.Nodup.of_map key table.keysNodup).filter keep
  cases kept : table.rows.filter keep with
  | nil => exact Nat.zero_le 1
  | cons first rest =>
    cases rest with
    | nil => exact Nat.le_refl 1
    | cons second rest =>
      have firstKept : first ∈ table.rows.filter keep := by
        simp [kept]
      have secondKept : second ∈ table.rows.filter keep := by
        simp [kept]
      obtain ⟨firstMember, firstKeep⟩ := mem_filter.mp firstKept
      obtain ⟨secondMember, secondKeep⟩ := mem_filter.mp secondKept
      have keys := same first firstMember second secondMember firstKeep secondKeep
      have found := lookup_of_mem firstMember
      rw [keys, lookup_of_mem secondMember] at found
      injection found with rows
      rw [kept, rows] at nodup
      simp at nodup

theorem filter_of_lookup (found : table.lookup sought = some row) (keep : Row → Prop)
    [DecidablePred keep] :
    table.rows.filter (fun other => key other = sought ∧ keep other) =
      if keep row then [row] else [] := by
  have rowKey := lookup_key found
  have member := lookup_mem found
  have nodup := table.keysNodup
  generalize table.rows = rows at member nodup ⊢
  subst rowKey
  induction rows with
  | nil => cases member
  | cons head rest ih =>
    rw [map_cons, nodup_cons] at nodup
    rcases mem_cons.mp member with rfl | later
    · have others : rest.filter (fun other =>
          key other = key row ∧ keep other) = [] := by
        apply filter_eq_nil_iff.mpr
        intro other otherMember both
        have same := (of_decide_eq_true both).1
        exact nodup.1 (same ▸ mem_map_of_mem otherMember)
      rw [filter_cons, others]
      by_cases kept : keep row <;> simp
    · have different : ¬ (key head = key row ∧ keep head) := by
        rintro ⟨same, _⟩
        exact nodup.1 (same ▸ mem_map_of_mem later)
      rw [filter_cons, if_neg (by simpa using different)]
      exact ih later nodup.2

def update (table : Table Row key) (sought : Key) (change : Row → Row)
    (keeps : ∀ row, key (change row) = key row) : Table Row key where
  rows := table.rows.map (fun row =>
    if key row = sought then change row else row)
  keysNodup := by
    have same : (table.rows.map (fun row =>
        if key row = sought then change row else row)).map key = table.rows.map key := by
      rw [List.map_map]
      apply List.map_congr_left
      intro row _
      by_cases found : key row = sought
      · simp [found, keeps]
      · simp [found]
    rw [same]
    exact table.keysNodup

theorem lookup_update (table : Table Row key) (sought other : Key)
    (change : Row → Row) (keeps : ∀ row, key (change row) = key row) :
    (table.update sought change keeps).lookup other =
      if other = sought then (table.lookup other).map change
      else table.lookup other := by
  have kept (row : Row) :
      key (if key row = sought then change row else row) = key row := by
    by_cases found : key row = sought
    · simp [found, keeps]
    · simp [found]
  simp only [lookup, update, find?_map, Function.comp_def, kept]
  by_cases same : other = sought
  · subst same
    rw [if_pos rfl]
    cases found : table.rows.find? (key · = other) with
    | none =>
      rfl
    | some row =>
      have rowKey : key row = other := by
        simpa using find?_some found
      simp [rowKey]
  · rw [if_neg same]
    cases found : table.rows.find? (key · = other) with
    | none =>
      rfl
    | some row =>
      have rowKey : key row = other := by
        simpa using find?_some found
      simp [rowKey, same]

theorem lookup_update_self (table : Table Row key) (sought : Key)
    (change : Row → Row) (keeps : ∀ row, key (change row) = key row) :
    (table.update sought change keeps).lookup sought = (table.lookup sought).map change := by
  rw [lookup_update, if_pos rfl]

variable {other : Key} {change : Row → Row}

theorem lookup_update_of_ne (table : Table Row key)
    (keeps : ∀ row, key (change row) = key row) (different : other ≠ sought) :
    (table.update sought change keeps).lookup other = table.lookup other := by
  rw [lookup_update, if_neg different]

theorem lookup_update_of_some (table : Table Row key) (change : Row → Row)
    (keeps : ∀ row, key (change row) = key row)
    (found : table.lookup sought = some row) :
    (table.update sought change keeps).lookup sought = some (change row) := by
  rw [lookup_update_self, found, Option.map_some]

theorem lookup_of_lookup_update (keeps : ∀ row, key (change row) = key row)
    (found : (table.update sought change keeps).lookup other = some row) :
    (other = sought ∧ ∃ earlier, table.lookup other = some earlier ∧ row = change earlier) ∨
      (other ≠ sought ∧ table.lookup other = some row) := by
  rw [lookup_update] at found
  by_cases same : other = sought
  · rw [if_pos same] at found
    obtain ⟨earlier, stored, changed⟩ := Option.map_eq_some_iff.mp found
    exact Or.inl ⟨same, earlier, stored, changed.symm⟩
  · rw [if_neg same] at found
    exact Or.inr ⟨same, found⟩

theorem update_of_absent (change : Row → Row) (keeps : ∀ row, key (change row) = key row)
    (absent : table.lookup sought = none) :
    table.update sought change keeps = table := by
  have same : table.rows.map (fun row =>
      if key row = sought then change row else row) = table.rows := by
    conv_rhs => rw [← map_id table.rows]
    apply map_congr_left
    intro row member
    have different := (lookup_eq_none_iff table sought).mp absent row member
    simp [different]
  cases table with
  | mk rows keysNodup =>
    simpa [update] using same

def updateAll (table : Table Row key) (change : Row → Row)
    (keeps : ∀ row, key (change row) = key row) : Table Row key where
  rows := table.rows.map change
  keysNodup := by
    have same : (table.rows.map change).map key = table.rows.map key := by
      rw [List.map_map]
      apply List.map_congr_left
      intro row _
      exact keeps row
    rw [same]
    exact table.keysNodup

theorem lookup_updateAll (table : Table Row key) (change : Row → Row)
    (keeps : ∀ row, key (change row) = key row) (sought : Key) :
    (table.updateAll change keeps).lookup sought = (table.lookup sought).map change := by
  simp [lookup, updateAll, Function.comp_def, keeps]

theorem lookup_of_rows_eq_map {before after : Table Row key}
    (keeps : ∀ row, key (change row) = key row)
    (rows : after.rows = before.rows.map change) (sought : Key) :
    after.lookup sought = (before.lookup sought).map change := by
  rw [← lookup_updateAll before change keeps sought]
  simp [lookup, rows, updateAll]

/-- The rows as another table shows them, under the same keys. -/
def view {Other : Type*} {otherKey : Other → Key} (table : Table Row key)
    (shown : Row → Other) (keeps : ∀ row, otherKey (shown row) = key row) :
    Table Other otherKey where
  rows := table.rows.map shown
  keysNodup := by
    have same : (table.rows.map shown).map otherKey = table.rows.map key := by
      rw [List.map_map]
      apply List.map_congr_left
      intro row _
      exact keeps row
    rw [same]
    exact table.keysNodup

theorem lookup_view {Other : Type*} {otherKey : Other → Key}
    (table : Table Row key) (shown : Row → Other)
    (keeps : ∀ row, otherKey (shown row) = key row) (sought : Key) :
    (table.view shown keeps).lookup sought = (table.lookup sought).map shown := by
  simp [lookup, view, Function.comp_def, keeps]

/-- Whether a guarded update of the row under a key changes a row. -/
def changes (table : Table Row key) (sought : Key)
    (guard : Row → Prop) [DecidablePred guard] : Prop :=
  ∃ row, table.lookup sought = some row ∧ guard row

instance (table : Table Row key) (sought : Key) (guard : Row → Prop) [DecidablePred guard] :
    Decidable (table.changes sought guard) :=
  match found : table.lookup sought with
  | none => isFalse (by simp [changes, found])
  | some row =>
    decidable_of_iff (guard row) (by simp [changes, found])

def updateWhere (table : Table Row key) (sought : Key)
    (guard : Row → Prop) [DecidablePred guard] (change : Row → Row)
    (keeps : ∀ row, key (change row) = key row) : Table Row key :=
  table.update sought (fun row => if guard row then change row else row) (by
      intro row
      by_cases met : guard row
      · simp [met, keeps]
      · simp [met])

theorem update_congr {first second : Row → Row} (keepsFirst : ∀ row, key (first row) = key row)
    (keepsSecond : ∀ row, key (second row) = key row)
    (same : ∀ row, table.lookup sought = some row →
      first row = second row) :
    table.update sought first keepsFirst = table.update sought second keepsSecond := by
  cases table with
  | mk rows keysNodup =>
    simp only [update, mk.injEq]
    apply map_congr_left
    intro row member
    by_cases found : key row = sought
    · subst found
      simp [same row (lookup_of_mem member)]
    · simp [found]

variable {guard : Row → Prop}

theorem updateWhere_of_met [DecidablePred guard] (keeps : ∀ row, key (change row) = key row)
    (found : table.lookup sought = some row) (met : guard row) :
    table.updateWhere sought guard change keeps = table.update sought change keeps := by
  apply update_congr
  intro other otherFound
  rw [found] at otherFound
  cases otherFound
  exact if_pos met

theorem updateWhere_of_unmet [DecidablePred guard] (keeps : ∀ row, key (change row) = key row)
    (unmet : ¬ table.changes sought guard) :
    table.updateWhere sought guard change keeps = table := by
  cases found : table.lookup sought with
  | none =>
    exact update_of_absent _ _ found
  | some row =>
    have kept : ¬ guard row := by
      intro met
      exact unmet ⟨row, found, met⟩
    have identity :
        table.updateWhere sought guard change keeps = table.update sought id (fun _ => rfl) := by
      apply update_congr
      intro other otherFound
      rw [found] at otherFound
      cases otherFound
      exact if_neg kept
    rw [identity]
    cases table with
    | mk rows keysNodup =>
      simp [update]

theorem lookup_updateWhere_of_met [DecidablePred guard] (keeps : ∀ row, key (change row) = key row)
    (found : table.lookup sought = some row) (met : guard row) (other : Key) :
    (table.updateWhere sought guard change keeps).lookup other =
      if other = sought then some (change row) else table.lookup other := by
  rw [updateWhere_of_met keeps found met, lookup_update]
  by_cases here : other = sought
  · subst here
    rw [if_pos rfl, if_pos rfl, found, Option.map_some]
  · rw [if_neg here, if_neg here]

theorem lookup_updateWhere_of_ne (table : Table Row key) [DecidablePred guard]
    (keeps : ∀ row, key (change row) = key row) (different : other ≠ sought) :
    (table.updateWhere sought guard change keeps).lookup other = table.lookup other :=
  lookup_update_of_ne table _ different

/-- The second table has a row of the first one replaced. -/
structure Replaces (before after : Table Row key) (row other : Row) :
    Prop where
  found : before.lookup (key row) = some row
  lookup : ∀ sought, after.lookup sought =
    if sought = key row then some other else before.lookup sought

theorem replaces_update (found : table.lookup (key row) = some row) (change : Row → Row)
    (keeps : ∀ row, key (change row) = key row) :
    Replaces table (table.update (key row) change keeps) row (change row) where
  found := found
  lookup := by
    intro sought
    by_cases here : sought = key row
    · rw [if_pos here, here]
      exact lookup_update_of_some table change keeps found
    · rw [if_neg here]
      exact lookup_update_of_ne table keeps here

theorem replaces_updateWhere [DecidablePred guard]
    (found : table.lookup (key row) = some row) (met : guard row)
    (change : Row → Row) (keeps : ∀ row, key (change row) = key row) :
    Replaces table (table.updateWhere (key row) guard change keeps) row (change row) := by
  rw [updateWhere_of_met keeps found met]
  exact replaces_update found change keeps

theorem Replaces.trans {first second third : Table Row key}
    {row other last : Row} (earlier : Replaces first second row other)
    (later : Replaces second third other last)
    (same : key other = key row) : Replaces first third row last where
  found := earlier.found
  lookup := by
    intro sought
    rw [later.lookup, earlier.lookup, same]
    by_cases here : sought = key row
    · rw [if_pos here, if_pos here]
    · rw [if_neg here, if_neg here, if_neg here]

/-- Store a row under its key, in the place of the row that is there. -/
def put (table : Table Row key) (row : Row) : Table Row key :=
  if fresh : table.lookup (key row) = none then
    table.insert row fresh
  else
    table.update (key row) (fun other => if key other = key row then row else other) (by
        intro other
        by_cases same : key other = key row
        · simp [same]
        · simp [same])

theorem lookup_put (table : Table Row key) (row : Row) (sought : Key) :
    (table.put row).lookup sought =
      if sought = key row then some row else table.lookup sought := by
  unfold put
  split
  · rename_i fresh
    rw [lookup_insert]
    by_cases same : sought = key row
    · rw [if_pos same, if_pos same.symm]
    · rw [if_neg same, if_neg (same ·.symm)]
  · rename_i taken
    rw [lookup_update]
    by_cases same : sought = key row
    · subst same
      cases found : table.lookup (key row) with
      | none => exact absurd found taken
      | some stored =>
        have storedKey := lookup_key found
        simp [storedKey]
    · rw [if_neg same, if_neg same]

def remove (table : Table Row key) (sought : Key) : Table Row key where
  rows := table.rows.filter (fun row => key row ≠ sought)
  keysNodup := table.keysNodup.sublist (List.filter_sublist.map key)

theorem lookup_remove (table : Table Row key) (sought other : Key) :
    (table.remove sought).lookup other =
      if other = sought then none else table.lookup other := by
  rw [remove, lookup, find?_filter]
  by_cases same : other = sought
  · subst same
    rw [if_pos rfl, find?_eq_none]
    intro row _ both
    simp at both
  · rw [if_neg same]
    apply congrArg (table.rows.find? ·)
    funext row
    by_cases here : key row = other
    · simp [here, same]
    · simp [here]

section Totals

variable {Amount : Type w} [AddCommGroup Amount]

def total (table : Table Row key) (weight : Row → Amount) : Amount :=
  (table.rows.map weight).sum

omit [DecidableEq Key] in
@[simp]
theorem total_empty (weight : Row → Amount) :
    (empty : Table Row key).total weight = 0 :=
  rfl

theorem total_insert (table : Table Row key) (row : Row)
    (fresh : table.lookup (key row) = none) (weight : Row → Amount) :
    (table.insert row fresh).total weight = table.total weight + weight row := by
  simp [total]

variable {row : Row}

private theorem sum_map_update {rows : List Row} {change : Row → Row} (weight : Row → Amount)
    (nodup : (rows.map key).Nodup) (member : row ∈ rows) :
    ((rows.map (fun other =>
      if key other = key row then change other else other)).map weight).sum =
      (rows.map weight).sum - weight row + weight (change row) := by
  induction rows with
  | nil =>
    simp at member
  | cons head tail ih =>
    simp only [map_cons, nodup_cons, mem_map, not_exists, not_and] at nodup
    rcases mem_cons.mp member with rfl | tailMember
    · have untouched : tail.map (fun other =>
          if key other = key row then change other else other) =
            tail := by
        conv_rhs => rw [← map_id tail]
        apply map_congr_left
        intro other otherMember
        simp [nodup.1 other otherMember]
      simp only [map_cons, sum_cons, untouched, if_true]
      abel
    · have different : key head ≠ key row := by
        intro same
        exact nodup.1 row tailMember same.symm
      simp only [map_cons, sum_cons, different, if_false, ih nodup.2 tailMember]
      abel

variable {table : Table Row key} {sought : Key}

theorem total_update (change : Row → Row)
    (keeps : ∀ row, key (change row) = key row) (weight : Row → Amount)
    (found : table.lookup sought = some row) :
    (table.update sought change keeps).total weight =
      table.total weight - weight row + weight (change row) := by
  have rowKey := lookup_key found
  subst rowKey
  exact sum_map_update weight table.keysNodup (lookup_mem found)

theorem total_update_of_eq (change : Row → Row)
    (keeps : ∀ row, key (change row) = key row) (weight : Row → Amount)
    (found : table.lookup sought = some row)
    (same : weight (change row) = weight row) :
    (table.update sought change keeps).total weight = table.total weight := by
  rw [total_update change keeps weight found, same]
  abel

omit [DecidableEq Key] in
theorem total_nonneg [PartialOrder Amount] [IsOrderedAddMonoid Amount]
    {weight : Row → Amount} (nonneg : ∀ row ∈ table.rows, 0 ≤ weight row) :
    0 ≤ table.total weight := by
  unfold total
  apply sum_nonneg
  intro amount member
  obtain ⟨row, rowMember, rfl⟩ := mem_map.mp member
  exact nonneg row rowMember

end Totals

end Table

end DcpPlatform.Foundation
