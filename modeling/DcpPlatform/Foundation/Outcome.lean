import Mathlib.Tactic.Basic

/-!
# Checked computations

A fallible operation returns `Except`. `require` is the early return of a
guard: it lets the computation go on when its condition holds and stops with
an error otherwise. The lemmas peel one guard or one bind off a computation
that is known to have succeeded.
-/

namespace DcpPlatform.Foundation

universe u v w

variable {Failure : Type u} {Value : Type v} {Result : Type v}

/-- Continue when `condition` holds, stop with `failure` otherwise. -/
def require (condition : Prop) [Decidable condition]
    (failure : Failure) : Except Failure PUnit.{v + 1} :=
  if condition then Except.ok PUnit.unit else Except.error failure

def orFail (failure : Failure) : Option Value → Except Failure Value
  | some value => Except.ok value
  | none => Except.error failure

variable {failure : Failure} {value : Value}

@[simp]
theorem require_bind_eq_ok_iff {condition : Prop} [Decidable condition]
    {continuation : PUnit → Except Failure Value} :
    (require condition failure >>= continuation) = Except.ok value ↔
      condition ∧ continuation PUnit.unit = Except.ok value := by
  by_cases holds : condition
  · simp [require, holds, bind, Except.bind]
  · simp [require, holds, bind, Except.bind]

@[simp]
theorem orFail_eq_ok_iff {candidate : Option Value} :
    orFail failure candidate = Except.ok value ↔ candidate = some value := by
  cases candidate with
  | none | some stored => simp [orFail]

theorem bind_eq_ok_iff {first : Except Failure Value}
    {continuation : Value → Except Failure Result} {result : Result} :
    (first >>= continuation) = Except.ok result ↔
      ∃ value, first = Except.ok value ∧ continuation value = Except.ok result := by
  cases first with
  | error failure | ok value => simp [bind, Except.bind]

end DcpPlatform.Foundation
