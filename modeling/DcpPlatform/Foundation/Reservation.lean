import Mathlib.Algebra.GroupWithZero.Nat
import Mathlib.Data.List.Nodup
import Mathlib.Data.List.Perm.Subperm

/-!
# Reservations of indexed resources

A resource has `capacity` indexed parts. Holders are `Reserved` when each
names distinct parts that exist and no two share one. `freeBelow` lists the
parts nobody uses, lowest first.
-/

namespace DcpPlatform.Foundation

open List

universe u v

variable {Holder : Type u} {Key : Type v}

structure Reserved (key : Holder → Key) (indices : Holder → List Nat)
    (capacity : Nat) (holders : List Holder) : Prop where
  distinct : ∀ holder ∈ holders, (indices holder).Nodup
  bounded : ∀ holder ∈ holders, ∀ index ∈ indices holder, index < capacity
  disjoint : ∀ holder ∈ holders, ∀ other ∈ holders, key holder ≠ key other →
    ∀ index ∈ indices holder, index ∉ indices other

variable {key : Holder → Key} {indices : Holder → List Nat} {capacity : Nat} {holders : List Holder}

/-- The holders of a reserved family hold at most the capacity. -/
theorem Reserved.total_le (reserved : Reserved key indices capacity holders)
    (nodup : (holders.map key).Nodup) :
    (holders.map (fun holder => (indices holder).length)).sum ≤
      capacity := by
  have pairwise : holders.Pairwise (fun holder other =>
      (indices holder).Disjoint (indices other)) := by
    have distinctKeys : holders.Pairwise (fun holder other => key holder ≠ key other) :=
      pairwise_map.mp nodup
    refine distinctKeys.imp_of_mem ?_
    intro holder other member otherMember different index used otherUsed
    exact reserved.disjoint holder member other otherMember different index used otherUsed
  have allNodup : (holders.flatMap indices).Nodup := nodup_flatMap.mpr ⟨reserved.distinct, pairwise⟩
  have subset : holders.flatMap indices ⊆ range capacity := by
    intro index member
    obtain ⟨holder, holderMember, used⟩ := mem_flatMap.mp member
    exact mem_range.mpr (reserved.bounded holder holderMember index used)
  have length := (subperm_of_subset allNodup subset).length_le
  rw [length_flatMap, length_range] at length
  exact length

/-- Holders may be dropped, or replaced under their key and indices. -/
theorem Reserved.inherit {holders later : List Holder}
    (reserved : Reserved key indices capacity holders)
    (inherited : ∀ holder ∈ later, ∃ earlier ∈ holders,
      key earlier = key holder ∧ indices earlier = indices holder) :
    Reserved key indices capacity later where
  distinct := by
    intro holder member
    obtain ⟨earlier, earlierMember, _, same⟩ := inherited holder member
    rw [← same]
    exact reserved.distinct earlier earlierMember
  bounded := by
    intro holder member
    obtain ⟨earlier, earlierMember, _, same⟩ := inherited holder member
    rw [← same]
    exact reserved.bounded earlier earlierMember
  disjoint := by
    intro holder member other otherMember different
    obtain ⟨earlier, earlierMember, sameKey, same⟩ := inherited holder member
    obtain ⟨before, beforeMember, beforeKey, beforeSame⟩ := inherited other otherMember
    rw [← same, ← beforeSame]
    apply reserved.disjoint earlier earlierMember before beforeMember
    rw [sameKey, beforeKey]
    exact different

/-- One more holder takes parts that nobody has. -/
theorem Reserved.concat {holder : Holder} (reserved : Reserved key indices capacity holders)
    (distinct : (indices holder).Nodup)
    (bounded : ∀ index ∈ indices holder, index < capacity)
    (unused : ∀ other ∈ holders, ∀ index ∈ indices holder, index ∉ indices other) :
    Reserved key indices capacity (holders ++ [holder]) where
  distinct := by
    intro other member
    rcases mem_append.mp member with old | new
    · exact reserved.distinct other old
    · rw [mem_singleton.mp new]
      exact distinct
  bounded := by
    intro other member
    rcases mem_append.mp member with old | new
    · exact reserved.bounded other old
    · rw [mem_singleton.mp new]
      exact bounded
  disjoint := by
    intro first firstMember second secondMember different
    rcases mem_append.mp firstMember with old | new
    · rcases mem_append.mp secondMember with secondOld | secondNew
      · exact reserved.disjoint first old second secondOld different
      · rw [mem_singleton.mp secondNew]
        intro index used taken
        exact unused first old index taken used
    · rw [mem_singleton.mp new] at different ⊢
      rcases mem_append.mp secondMember with secondOld | secondNew
      · exact unused second secondOld
      · rw [mem_singleton.mp secondNew] at different
        exact absurd rfl different

/-- The indices below `capacity` that are not used, lowest first. -/
def freeBelow (capacity : Nat) (used : List Nat) : List Nat :=
  (List.range capacity).filter (fun index => index ∉ used)

theorem freeBelow_nodup (capacity : Nat) (used : List Nat) :
    (freeBelow capacity used).Nodup :=
  nodup_range.filter _

theorem mem_freeBelow {used : List Nat} {index : Nat} (member : index ∈ freeBelow capacity used) :
    index < capacity ∧ index ∉ used := by
  obtain ⟨inRange, unused⟩ := mem_filter.mp member
  exact ⟨mem_range.mp inRange, of_decide_eq_true unused⟩

end DcpPlatform.Foundation
