import Mathlib.Data.Int.ConditionallyCompleteOrder
import Mathlib.Data.Int.Log
import Mathlib.Data.Rat.Floor
import Mathlib.Tactic.Linarith
import Mathlib.Tactic.NormNum
import Mathlib.Tactic.Positivity

/-!
# Double arithmetic

The rounding that a sum, product or quotient of numbers goes through, for
results in the normal range of the 64-bit format: 53 significant bits, ties to
the even significand.
-/

namespace DcpPlatform.Foundation

def roundHalfEven (value : ℚ) : ℤ :=
  let below := ⌊value⌋
  let rest := value - below
  if rest < 1 / 2 then
    below
  else if 1 / 2 < rest then
    below + 1
  else if below % 2 = 0 then
    below
  else
    below + 1

/-- The nearest number of 53 significant bits. -/
def toDouble (value : ℚ) : ℚ :=
  if value = 0 then
    0
  else
    let unit : ℚ := 2 ^ (Int.log 2 |value| - 52)
    roundHalfEven (value / unit) * unit

example : toDouble (1 / 4) = 1 / 4 := by decide +kernel

theorem floor_le_roundHalfEven (value : ℚ) :
    ⌊value⌋ ≤ roundHalfEven value ∧ roundHalfEven value ≤ ⌊value⌋ + 1 ∧
      value - 1 / 2 ≤ roundHalfEven value := by
  have whole := Int.floor_le value
  have next := Int.lt_floor_add_one value
  simp only [roundHalfEven]
  split_ifs <;> refine ⟨by omega, by omega, ?_⟩ <;> push_cast <;> linarith

theorem roundHalfEven_mono : Monotone roundHalfEven := by
  intro first second ordered
  have bounds := floor_le_roundHalfEven first
  have later := floor_le_roundHalfEven second
  rcases (Int.floor_le_floor ordered).lt_or_eq with below | same
  · omega
  · simp only [roundHalfEven, same]
    split_ifs <;> first | omega | linarith

theorem roundHalfEven_natCast (value : ℕ) : roundHalfEven value = value := by
  simp [roundHalfEven]

theorem toDouble_bounds {value : ℚ} (positive : 0 < value) :
    (2 : ℚ) ^ Int.log 2 value ≤ toDouble value ∧ toDouble value ≤ 2 ^ (Int.log 2 value + 1) := by
  have unit : (0 : ℚ) < 2 ^ (Int.log 2 value - 52) := zpow_pos two_pos _
  have scaled : ∀ bits : ℕ, (2 : ℚ) ^ (Int.log 2 value - 52 + bits) =
      (2 ^ bits : ℕ) * 2 ^ (Int.log 2 value - 52) := by
    intro bits
    rw [zpow_add₀ two_ne_zero, mul_comm, zpow_natCast]
    push_cast
    rfl
  have lower := scaled 52 ▸ (show (2 : ℚ) ^ (Int.log 2 value - 52 + (52 : ℕ)) ≤ value by
    simpa using Int.zpow_log_le_self one_lt_two positive)
  have upper := scaled 53 ▸ (show value ≤ (2 : ℚ) ^ (Int.log 2 value - 52 + (53 : ℕ)) by
    rw [show Int.log 2 value - 52 + (53 : ℕ) = Int.log 2 value + 1 by omega]
    exact_mod_cast (Int.lt_zpow_succ_log_self one_lt_two value).le)
  have least := roundHalfEven_mono ((le_div_iff₀ unit).mpr lower)
  have most := roundHalfEven_mono ((div_le_iff₀ unit).mpr upper)
  rw [roundHalfEven_natCast] at least most
  rw [toDouble, if_neg positive.ne', abs_of_pos positive]
  constructor
  · calc (2 : ℚ) ^ Int.log 2 value = (2 ^ 52 : ℕ) * 2 ^ (Int.log 2 value - 52) := by
          rw [← scaled]; congr 1; omega
      _ ≤ _ := mul_le_mul_of_nonneg_right (by exact_mod_cast least) unit.le
  · calc _ ≤ ((2 ^ 53 : ℕ) : ℚ) * 2 ^ (Int.log 2 value - 52) :=
          mul_le_mul_of_nonneg_right (by exact_mod_cast most) unit.le
      _ = _ := by rw [← scaled]; congr 1; omega

theorem toDouble_mono {first second : ℚ} (nonneg : 0 ≤ first) (ordered : first ≤ second) :
    toDouble first ≤ toDouble second := by
  rcases nonneg.eq_or_lt with rfl | positive
  · rcases ordered.eq_or_lt with rfl | later
    · exact le_rfl
    · exact (zpow_pos two_pos _).le.trans (toDouble_bounds later).1
  · have later := positive.trans_le ordered
    have logs : Int.log 2 first ≤ Int.log 2 second := Int.log_mono_right positive ordered
    rcases logs.lt_or_eq with below | same
    · calc toDouble first ≤ 2 ^ (Int.log 2 first + 1) := (toDouble_bounds positive).2
        _ ≤ 2 ^ Int.log 2 second := zpow_le_zpow_right₀ one_le_two below
        _ ≤ toDouble second := (toDouble_bounds later).1
    · rw [toDouble, toDouble, if_neg positive.ne', if_neg later.ne', abs_of_pos positive,
        abs_of_pos later, same]
      have unit : (0 : ℚ) < 2 ^ (Int.log 2 second - 52) := zpow_pos two_pos _
      have rounded := roundHalfEven_mono (div_le_div_of_nonneg_right ordered unit.le)
      exact mul_le_mul_of_nonneg_right (by exact_mod_cast rounded) unit.le

theorem toDouble_nonneg {value : ℚ} (nonneg : 0 ≤ value) : 0 ≤ toDouble value := by
  have zero : toDouble 0 = 0 := rfl
  rw [← zero]
  exact toDouble_mono le_rfl nonneg

theorem le_toDouble {value : ℚ} (nonneg : 0 ≤ value) :
    value * (1 - 1 / 2 ^ 52) ≤ toDouble value := by
  rcases nonneg.eq_or_lt with rfl | positive
  · simp [toDouble]
  · have unit : (0 : ℚ) < 2 ^ (Int.log 2 value - 52) := zpow_pos two_pos _
    have near := mul_le_mul_of_nonneg_right
      (floor_le_roundHalfEven (value / 2 ^ (Int.log 2 value - 52))).2.2 unit.le
    have lower : (2 : ℚ) ^ Int.log 2 value ≤ value := by
      exact_mod_cast Int.zpow_log_le_self one_lt_two positive
    have small : (2 : ℚ) ^ (Int.log 2 value - 52) = 2 ^ Int.log 2 value / 2 ^ 52 := by
      rw [zpow_sub₀ two_ne_zero]
      rfl
    rw [sub_mul, div_mul_cancel₀ _ unit.ne', small] at near
    rw [toDouble, if_neg positive.ne', abs_of_pos positive, small]
    change _ ≤ (roundHalfEven _ : ℚ) * _
    linarith

end DcpPlatform.Foundation
