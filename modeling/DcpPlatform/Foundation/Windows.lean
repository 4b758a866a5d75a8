import Mathlib.Algebra.BigOperators.Group.List.Basic
import Mathlib.Tactic.Abel

/-!
# Consecutive closed windows

Each window starts where the one before it ends. What is measured over closed
windows counts a shared boundary twice; `sum_consecutive` says that this is
all.
-/

namespace DcpPlatform.Foundation

open List

universe u v

variable {Time : Type u}

def consecutive : Time → List Time → List (Time × Time)
  | _, [] => []
  | start, next :: rest => (start, next) :: consecutive next rest

def lastEnd : Time → List Time → Time
  | start, [] => start
  | _, next :: rest => lastEnd next rest

def sharedBoundaries (ends : List Time) : List Time :=
  ends.dropLast

variable [Preorder Time]

def Forward (start : Time) (ends : List Time) : Prop :=
  ∀ window ∈ consecutive start ends, window.1 ≤ window.2

variable {start next : Time} {rest : List Time}

theorem Forward.head (forward : Forward start (next :: rest)) : start ≤ next :=
  forward (start, next) mem_cons_self

theorem Forward.tail (forward : Forward start (next :: rest)) : Forward next rest :=
  fun window member => forward window (mem_cons_of_mem _ member)

variable {ends : List Time}

theorem Forward.le_lastEnd :
    ∀ {start : Time}, Forward start ends → start ≤ lastEnd start ends := by
  induction ends with
  | nil =>
    intro start _
    exact le_refl start
  | cons next rest ih =>
    intro start forward
    exact le_trans forward.head (ih forward.tail)

/-- What splits at a boundary up to the boundary itself adds up over a chain
to its union and the shared boundaries. -/
theorem sum_consecutive {Amount : Type v} [AddCommGroup Amount] (measure : Time → Time → Amount)
    (splits : ∀ {first middle last : Time},
      first ≤ middle → middle ≤ last →
        measure first middle + measure middle last = measure first last + measure middle middle) :
    ∀ {start : Time}, ends ≠ [] → Forward start ends → ((consecutive start ends).map
      (fun window => measure window.1 window.2)).sum = measure start (lastEnd start ends) +
          ((sharedBoundaries ends).map (fun boundary => measure boundary boundary)).sum := by
  induction ends with
  | nil =>
    intro start nonempty _
    exact absurd rfl nonempty
  | cons next rest ih =>
    intro start _ forward
    cases rest with
    | nil =>
      simp [consecutive, lastEnd, sharedBoundaries]
    | cons second others =>
      have remaining := ih (cons_ne_nil _ _) forward.tail
      have halves := splits forward.head forward.tail.le_lastEnd
      simp only [sharedBoundaries, dropLast_cons_cons, map_cons, sum_cons] at remaining ⊢
      rw [consecutive, map_cons, sum_cons, remaining, ← add_assoc, halves, add_assoc]
      rfl

end DcpPlatform.Foundation
