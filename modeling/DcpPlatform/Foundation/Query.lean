import DcpPlatform.Foundation.Table

/-!
# Queries and sweeps

`select` is a query with a filter, `firstBy` one with an order and a limit of
one row. A `Sweep` queries rows once and then works through them: `relates` is
the induction over such a loop, `turn` singles out one row's turn.
-/

namespace DcpPlatform.Foundation

open List

universe u v w

/-- The first row in the order `before`, the earliest one among equals. -/
def firstBy {Row : Type u} (before : Row → Row → Bool) :
    List Row → Option Row
  | [] => none
  | row :: rows =>
    match firstBy before rows with
    | none => some row
    | some other => if before other row then some other else some row

theorem firstBy_mem {Row : Type u} {before : Row → Row → Bool} :
    ∀ {rows : List Row} {first : Row}, firstBy before rows = some first → first ∈ rows
  | [], first, found => by
      cases found
  | row :: rows, first, found => by
      simp only [firstBy] at found
      split at found
      · cases found
        exact mem_cons_self
      · rename_i other otherFound
        split at found
        · cases found
          exact mem_cons_of_mem _ (firstBy_mem otherFound)
        · cases found
          exact mem_cons_self

section Select

variable {Row : Type u} {Key : Type v} {key : Row → Key}

def Table.select (table : Table Row key) (condition : Row → Prop)
    [DecidablePred condition] : List Row :=
  table.rows.filter (fun row => condition row)

theorem Table.select_nodup (table : Table Row key)
    (condition : Row → Prop) [DecidablePred condition] :
    ((table.select condition).map key).Nodup :=
  table.keysNodup.sublist (filter_sublist.map key)

theorem Table.mem_select [DecidableEq Key] {table : Table Row key}
    {condition : Row → Prop} [DecidablePred condition] {row : Row}
    (member : row ∈ table.select condition) :
    condition row ∧ table.lookup (key row) = some row := by
  obtain ⟨stored, met⟩ := mem_filter.mp member
  exact ⟨of_decide_eq_true met, Table.lookup_of_mem stored⟩

theorem Table.mem_select_iff [DecidableEq Key] {table : Table Row key}
    {condition : Row → Prop} [DecidablePred condition] {row : Row} :
    row ∈ table.select condition ↔ condition row ∧ table.lookup (key row) = some row := by
  constructor
  · exact Table.mem_select
  · rintro ⟨met, found⟩
    exact mem_filter.mpr ⟨Table.lookup_mem found, decide_eq_true met⟩

theorem Table.select_insert [DecidableEq Key] (table : Table Row key)
    {row : Row} (fresh : table.lookup (key row) = none)
    (condition : Row → Prop) [DecidablePred condition] :
    (table.insert row fresh).select condition =
      table.select condition ++ if condition row then [row] else [] := by
  by_cases met : condition row <;> simp [Table.select, met]

theorem Table.select_updateWhere_of_unmet [DecidableEq Key]
    (table : Table Row key) (sought : Key) {guard condition : Row → Prop}
    [DecidablePred guard] [DecidablePred condition] {change : Row → Row}
    (keeps : ∀ row, key (change row) = key row)
    (unmet : ∀ row, guard row → ¬ condition row ∧ ¬ condition (change row)) :
    (table.updateWhere sought guard change keeps).select condition = table.select condition := by
  have kept (rows : List Row) :
      (rows.map (fun row =>
        if key row = sought then if guard row then change row else row
        else row)).filter (condition ·) = rows.filter (condition ·) := by
    induction rows with
    | nil => rfl
    | cons row rest ih =>
      rw [map_cons, filter_cons, filter_cons, ih]
      by_cases here : key row = sought
      · by_cases met : guard row
        · simp [here, met, unmet row met]
        · simp [met]
      · simp [here]
  exact kept table.rows

end Select

/-- A loop over rows read before it: the turn of a row leaves the other selected
rows as they were read. -/
structure Sweep (State : Type u) {Row : Type v} {Key : Type w} (key : Row → Key)
    [DecidableEq Key] where
  table : State → Table Row key
  act : State → Row → State
  selected : Row → Prop
  untouched : ∀ {state : State} {row other : Row},
    selected row → (table state).lookup (key row) = some row →
      selected other → (table state).lookup (key other) = some other →
      key other ≠ key row → (table (act state row)).lookup (key other) = some other

namespace Sweep

variable {State : Type u} {Row : Type v} {Key : Type w} {key : Row → Key} [DecidableEq Key]

structure Reads (sweep : Sweep State key) (state : State) (rows : List Row) : Prop where
  nodup : (rows.map key).Nodup
  current : ∀ row ∈ rows, sweep.selected row ∧ (sweep.table state).lookup (key row) = some row

variable {sweep : Sweep State key} {state : State} {row : Row} {rows : List Row}

theorem reads_select (sweep : Sweep State key) [DecidablePred sweep.selected] (state : State) :
    sweep.Reads state ((sweep.table state).select sweep.selected) :=
  ⟨Table.select_nodup _ _, fun _ member => Table.mem_select member⟩

theorem reads_take (sweep : Sweep State key) [DecidablePred sweep.selected] (state : State)
    (count : Nat) :
    sweep.Reads state (((sweep.table state).select sweep.selected).take count) :=
  ⟨(Table.select_nodup _ _).sublist ((take_sublist _ _).map key),
    fun _ member => Table.mem_select (mem_of_mem_take member)⟩

theorem Reads.others (reads : sweep.Reads state (row :: rows)) :
    ∀ other ∈ rows, key other ≠ key row := by
  intro other member same
  have distinct := reads.nodup
  rw [map_cons, nodup_cons] at distinct
  exact distinct.1 (mem_map.mpr ⟨other, member, same⟩)

theorem Reads.absent (reads : sweep.Reads state rows)
    (found : (sweep.table state).lookup (key row) = some row) (absent : row ∉ rows) :
    ∀ other ∈ rows, key other ≠ key row := by
  intro other member same
  have current := (reads.current other member).2
  rw [same, found] at current
  cases current
  exact absent member

theorem Reads.tail (reads : sweep.Reads state (row :: rows)) :
    sweep.Reads (sweep.act state row) rows := by
  refine ⟨(nodup_cons.mp reads.nodup).2, fun other member => ?_⟩
  have head := reads.current row mem_cons_self
  have here := reads.current other (mem_cons_of_mem row member)
  exact ⟨here.1, sweep.untouched head.1 head.2 here.1 here.2 (reads.others other member)⟩

variable (sweep) (related : State → State → Prop) (reflexive : ∀ state, related state state)
  (transitive : ∀ {first second third : State},
    related first second → related second third → related first third)

include reflexive transitive

/-- A sweep stays within a preorder that contains every single turn. -/
theorem relates (contains : ∀ {state : State} {row : Row}, sweep.selected row →
      (sweep.table state).lookup (key row) = some row → related state (sweep.act state row))
    (reads : sweep.Reads state rows) : related state (rows.foldl sweep.act state) := by
  induction rows generalizing state with
  | nil => exact reflexive state
  | cons row rows ih =>
    have head := reads.current row mem_cons_self
    exact transitive (contains head.1 head.2) (ih reads.tail)

variable {avoided : Key} (contains : ∀ {state : State} {row : Row}, sweep.selected row →
  (sweep.table state).lookup (key row) = some row → key row ≠ avoided →
    related state (sweep.act state row))

include contains

/-- A sweep that does not come to a key stays within a preorder that contains
the turns of all other keys. -/
theorem others (reads : sweep.Reads state rows) (absent : ∀ row ∈ rows, key row ≠ avoided) :
    related state (rows.foldl sweep.act state) := by
  induction rows generalizing state with
  | nil => exact reflexive state
  | cons row rows ih =>
    have head := reads.current row mem_cons_self
    obtain ⟨here, later⟩ := forall_mem_cons.mp absent
    exact transitive (contains head.1 head.2 here) (ih reads.tail later)

/-- A sweep that comes to a row finds it current, and the turns before and
after stay within the preorder. -/
theorem turn {turn : Row} (avoids : key turn = avoided) (reads : sweep.Reads state rows)
    (member : turn ∈ rows) :
    ∃ middle, related state middle ∧ (sweep.table middle).lookup (key turn) = some turn ∧
      related (sweep.act middle turn) (rows.foldl sweep.act state) := by
  induction rows generalizing state with
  | nil => cases member
  | cons row rows ih =>
    have head := reads.current row mem_cons_self
    rcases mem_cons.mp member with rfl | later
    · exact ⟨state, reflexive state, head.2, sweep.others related reflexive transitive contains
        reads.tail (avoids ▸ reads.others)⟩
    · obtain ⟨middle, before, found, after⟩ := ih reads.tail later
      have different : key row ≠ avoided := avoids ▸ (reads.others turn later).symm
      exact ⟨middle, transitive (contains head.1 head.2 different) before, found, after⟩

omit reflexive transitive contains

/-- A quantity that each turn moves by an amount the other turns leave alone
is moved by the sum of the amounts. -/
theorem moves (measure : State → Int) (change : State → Row → Int)
    (steady : ∀ {state : State} {row other : Row},
      sweep.selected row → (sweep.table state).lookup (key row) = some row →
        sweep.selected other → (sweep.table state).lookup (key other) = some other →
        key other ≠ key row → change (sweep.act state row) other = change state other)
    (moves : ∀ {state : State} {row : Row},
      sweep.selected row → (sweep.table state).lookup (key row) = some row →
        measure (sweep.act state row) = measure state + change state row)
    (reads : sweep.Reads state rows) :
    measure (rows.foldl sweep.act state) = measure state + (rows.map (change state)).sum := by
  induction rows generalizing state with
  | nil => exact (add_zero _).symm
  | cons row rows ih =>
    have head := reads.current row mem_cons_self
    have changes : rows.map (change (sweep.act state row)) = rows.map (change state) :=
      map_congr_left (fun other member =>
        have here := reads.current other (mem_cons_of_mem row member)
        steady head.1 head.2 here.1 here.2 (reads.others other member))
    rw [foldl_cons, ih reads.tail, changes, moves head.1 head.2, map_cons, sum_cons, add_assoc]

end Sweep

end DcpPlatform.Foundation
