import Mathlib.Data.Rat.Floor

/-!
# Rounding of money amounts

Amounts in halala are integers; prices, durations and currency amounts are
rational numbers. `mathRound` rounds half up, `toFixed` keeps a number of
decimal places, rounding half up as well.
-/

namespace DcpPlatform.Foundation

/-- The nearest integer, halves rounded up. -/
def mathRound (value : ℚ) : ℤ :=
  ⌊value + 1 / 2⌋

/-- Two decimal places, halves rounded up. -/
def toFixed2 (value : ℚ) : ℚ :=
  ⌊100 * value + 1 / 2⌋ / 100

theorem mathRound_mono {first second : ℚ} (ordered : first ≤ second) :
    mathRound first ≤ mathRound second :=
  Int.floor_le_floor (by linarith)

@[simp]
theorem mathRound_intCast (value : ℤ) :
    mathRound value = value := by
  unfold mathRound
  rw [Int.floor_intCast_add]
  norm_num

theorem mathRound_nonneg {value : ℚ} (nonneg : 0 ≤ value) :
    0 ≤ mathRound value := by
  have ordered := mathRound_mono nonneg
  have zero : mathRound 0 = 0 := mathRound_intCast 0
  rwa [zero] at ordered

theorem mathRound_div (parts half : ℕ) (numerator : ℤ)
    (even : parts = 2 * half) (positive : 0 < half) :
    mathRound ((numerator : ℚ) / parts) = (numerator + half) / parts := by
  have nonzero : (half : ℚ) ≠ 0 := by
    exact_mod_cast positive.ne'
  have shifted : (numerator : ℚ) / parts + 1 / 2 = ((numerator + half : ℤ) : ℚ) / (parts : ℕ) := by
    rw [even]
    push_cast
    field_simp
  unfold mathRound
  rw [shifted, Rat.floor_intCast_div_natCast]

/-- What rounding to the nearest whole adds to a number of parts. -/
def roundingExcess (parts numerator : ℤ) : ℤ :=
  parts / 2 - (numerator + parts / 2) % parts

theorem mul_mathRound_div (parts half : ℕ) (numerator : ℤ)
    (even : parts = 2 * half) (positive : 0 < half) :
    (parts : ℤ) * mathRound ((numerator : ℚ) / parts) =
      numerator + roundingExcess parts numerator := by
  have halved : (parts : ℤ) / 2 = half := by omega
  have divided := Int.mul_ediv_add_emod (numerator + half) parts
  rw [mathRound_div parts half numerator even positive]
  unfold roundingExcess
  rw [halved]
  linarith

end DcpPlatform.Foundation
