import Mathlib.Algebra.Ring.Int.Defs
import Mathlib.Algebra.BigOperators.Group.Finset.Basic
import Mathlib.Algebra.Order.Group.Int
import Mathlib.Algebra.Order.BigOperators.Group.List

/-!
# Bounded sums

The finite partial sums of a family may share a bound:
`sum_le_of_changed_member` moves it. `sum_le_of_distinct` bounds a sum over
items by a sum over rows; `sum_over_keys` adds up a quantity that is not zero
at one key only.
-/

namespace DcpPlatform.Foundation

open List

universe u v w

variable {Index : Type u} [DecidableEq Index]

/-- Changing one member of a family moves the bound on its partial sums by
at least as much as the member. -/
theorem sum_le_of_changed_member {earlier later : Index → Nat} (changed : Index)
    {bound newBound : Nat}
    (elsewhere : ∀ other, other ≠ changed → later other = earlier other)
    (bounded : ∀ indices : Finset Index, ∑ index ∈ indices, earlier index ≤ bound)
    (moved : bound + later changed ≤ newBound + earlier changed)
    (indices : Finset Index) :
    ∑ index ∈ indices, later index ≤ newBound := by
  have rest (others : Finset Index) (absent : changed ∉ others) :
      ∑ index ∈ others, later index = ∑ index ∈ others, earlier index := by
    apply Finset.sum_congr rfl
    intro other member
    apply elsewhere
    intro same
    exact absent (same ▸ member)
  by_cases member : changed ∈ indices
  · have total := bounded indices
    rw [← Finset.add_sum_erase indices earlier member] at total
    rw [← Finset.add_sum_erase indices later member, rest _ (Finset.notMem_erase changed indices)]
    omega
  · have total := bounded (insert changed indices)
    rw [Finset.sum_insert member] at total
    rw [rest indices member]
    omega

variable {Item : Type u}

/-- Items with different keys, each at most its row, sum up to at most the
sum of the rows. -/
theorem sum_le_of_distinct {Row : Type v} {Key : Type w}
    [DecidableEq Row] (itemKey : Item → Key) (rowKey : Row → Key)
    (part : Item → Int) (whole : Row → Int) {items : List Item} :
    ∀ {rows : List Row}, (items.map itemKey).Nodup →
      (∀ item ∈ items, ∃ row ∈ rows, rowKey row = itemKey item ∧ part item ≤ whole row) →
      (∀ row ∈ rows, 0 ≤ whole row) →
      (items.map part).sum ≤ (rows.map whole).sum := by
  induction items with
  | nil =>
    intro rows _ _ nonneg
    apply sum_nonneg
    intro weight member
    obtain ⟨row, rowMember, rfl⟩ := mem_map.mp member
    exact nonneg row rowMember
  | cons item rest ih =>
    intro rows distinct covered nonneg
    rw [map_cons, nodup_cons] at distinct
    obtain ⟨row, rowMember, sameKey, bound⟩ := covered item mem_cons_self
    have others : ∀ other ∈ rest, ∃ otherRow ∈ rows.erase row,
        rowKey otherRow = itemKey other ∧ part other ≤ whole otherRow := by
      intro other member
      obtain ⟨otherRow, otherMember, otherKey, otherBound⟩ :=
        covered other (mem_cons_of_mem _ member)
      have different : otherRow ≠ row := by
        intro same
        apply distinct.1
        rw [← sameKey, ← same, otherKey]
        exact mem_map_of_mem member
      exact ⟨otherRow, (mem_erase_of_ne different).mpr otherMember, otherKey, otherBound⟩
    have restBound := ih distinct.2 others
      (fun other member => nonneg other (mem_of_mem_erase member))
    have split := ((perm_cons_erase rowMember).map whole).sum_eq
    rw [map_cons, sum_cons] at split
    rw [map_cons, sum_cons, split]
    exact add_le_add bound restBound

/-- A sum over a selection is a sum of weights that vanish outside of it. -/
theorem sum_filter (condition : Item → Prop)
    [DecidablePred condition] (weight : Item → Int) (items : List Item) :
    ((items.filter (fun item => condition item)).map weight).sum =
      (items.map (fun item => if condition item then weight item else 0)).sum
      := by
  induction items with
  | nil =>
    rfl
  | cons item rest ih =>
    by_cases met : condition item <;> simp [met, ih]

theorem sum_filter_of_ignored (condition : Item → Prop)
    [DecidablePred condition] (weight : Item → Int) (items : List Item)
    (ignored : ∀ item ∈ items, ¬ condition item → weight item = 0) :
    ((items.filter (fun item => condition item)).map weight).sum = (items.map weight).sum := by
  rw [sum_filter]
  congr 1
  apply map_congr_left
  intro item member
  by_cases met : condition item
  · rw [if_pos met]
  · rw [if_neg met, ignored item member met]

theorem sum_over_keys {Key : Type u} [DecidableEq Key]
    (quantity : Key → Int) (sought : Key) {keys : List Key}
    (nodup : keys.Nodup) (elsewhere : sought ∉ keys → quantity sought = 0) :
    (keys.map (fun key => if key = sought then quantity key else 0)).sum = quantity sought := by
  induction keys with
  | nil =>
    rw [elsewhere not_mem_nil]
    rfl
  | cons key rest ih =>
    rw [nodup_cons] at nodup
    rw [map_cons, sum_cons]
    by_cases here : key = sought
    · subst here
      have others : (rest.map (fun other =>
          if other = key then quantity other else 0)).sum = 0 := by
        apply sum_eq_zero
        intro amount member
        obtain ⟨other, otherMember, rfl⟩ := mem_map.mp member
        rw [if_neg]
        intro same
        exact nodup.1 (same ▸ otherMember)
      rw [if_pos rfl, others, add_zero]
    · rw [if_neg here, zero_add]
      apply ih nodup.2
      intro absent
      apply elsewhere
      intro member
      rcases mem_cons.mp member with same | restMember
      · exact here same.symm
      · exact absent restMember

end DcpPlatform.Foundation
