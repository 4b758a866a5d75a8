import Mathlib.Data.Char
import Mathlib.Data.List.Lex
import Mathlib.Data.Nat.Digits.Defs

/-!
# Fixed-width numerals

A number written with a fixed count of decimal digits. Such numerals sort as
texts in the order of the numbers, and so do texts that put them one after
another.
-/

namespace DcpPlatform.Foundation

open List

def digit (value : Nat) : Char :=
  Char.ofNat (48 + value % 10)

def numeral : Nat → Nat → List Char
  | 0, _ => []
  | width + 1, value => numeral width (value / 10) ++ [digit value]

@[simp]
theorem length_numeral :
    ∀ width value : Nat, (numeral width value).length = width
  | 0, _ => rfl
  | width + 1, value => by
      rw [numeral, length_append, length_numeral width]
      rfl

theorem digit_lt_iff (left right : Nat) :
    digit left < digit right ↔ left % 10 < right % 10 := by
  have all : ∀ first < 10, ∀ second < 10, (Char.ofNat (48 + first) < Char.ofNat (48 + second) ↔
      first < second) := by decide
  exact all _ (Nat.mod_lt _ (by omega)) _ (Nat.mod_lt _ (by omega))

variable {Letter : Type}

/-- Texts whose front parts have one length sort by these parts first. -/
theorem append_lt_append_iff [LinearOrder Letter] :
    ∀ {left right : List Letter}, left.length = right.length → ∀ leftRest rightRest : List Letter,
      left ++ leftRest < right ++ rightRest ↔ left < right ∨ left = right ∧ leftRest < rightRest
  | [], [], _, leftRest, rightRest => by simp
  | first :: left, second :: right, sameLength, leftRest, rightRest => by
      have shorter : left.length = right.length := by
        simpa using sameLength
      rw [cons_append, cons_append, cons_lt_cons_iff, cons_lt_cons_iff,
        append_lt_append_iff shorter leftRest rightRest, cons.injEq]
      tauto

theorem append_left_lt_append_left_iff [LinearOrder Letter] (front left right : List Letter) :
    front ++ left < front ++ right ↔ left < right := by
  rw [append_lt_append_iff rfl]
  simp

theorem append_right_lt_append_right_iff [LinearOrder Letter] {left right : List Letter}
    (sameLength : left.length = right.length) (back : List Letter) :
    left ++ back < right ++ back ↔ left < right := by
  rw [append_lt_append_iff sameLength]
  simp

theorem numeral_lt_iff :
    ∀ {width left right : Nat}, left < 10 ^ width → right < 10 ^ width →
      (numeral width left < numeral width right ↔ left < right)
  | 0, left, right, leftBound, rightBound => by
      have leftZero : left = 0 := by simpa using leftBound
      have rightZero : right = 0 := by simpa using rightBound
      simp [leftZero, rightZero]
  | width + 1, left, right, leftBound, rightBound => by
      rw [Nat.pow_succ] at leftBound rightBound
      have leftFront : left / 10 < 10 ^ width := by omega
      have rightFront : right / 10 < 10 ^ width := by omega
      have fronts := numeral_lt_iff leftFront rightFront
      have backs := numeral_lt_iff rightFront leftFront
      rw [numeral, numeral, append_lt_append_iff (by simp), fronts, cons_lt_cons_iff, digit_lt_iff]
      constructor
      · intro below
        obtain smaller | ⟨same, smaller | ⟨_, impossible⟩⟩ := below
        · omega
        · rw [same] at fronts backs
          have notAbove := backs.not.mp (by rw [← same]; exact lt_irrefl _)
          omega
        · exact absurd impossible (lt_irrefl _)
      · intro below
        by_cases same : left / 10 = right / 10
        · refine Or.inr ⟨by rw [same], Or.inl ?_⟩
          omega
        · exact Or.inl (by omega)

variable {width left right : Nat}

theorem numeral_inj (leftBound : left < 10 ^ width) (rightBound : right < 10 ^ width) :
    numeral width left = numeral width right ↔ left = right := by
  constructor
  · intro same
    have notBelow := (numeral_lt_iff leftBound rightBound).not.mp (by rw [same]; exact lt_irrefl _)
    have notAbove := (numeral_lt_iff rightBound leftBound).not.mp (by rw [same]; exact lt_irrefl _)
    omega
  · rintro rfl
    rfl

def zeroPadded (width value : Nat) : List Char :=
  numeral (max width (Nat.digits 10 value).length) value

theorem zeroPadded_inj :
    zeroPadded width left = zeroPadded width right ↔ left = right := by
  constructor
  · intro same
    have sameWidth := congrArg length same
    rw [zeroPadded, zeroPadded, length_numeral, length_numeral] at sameWidth
    have leftBound : left < 10 ^ max width (Nat.digits 10 left).length :=
      (Nat.lt_base_pow_length_digits (by omega)).trans_le
        (Nat.pow_le_pow_right (by omega) (le_max_right _ _))
    have rightBound : right < 10 ^ max width (Nat.digits 10 right).length :=
      (Nat.lt_base_pow_length_digits (by omega)).trans_le
        (Nat.pow_le_pow_right (by omega) (le_max_right _ _))
    rw [zeroPadded, zeroPadded, sameWidth] at same
    rw [sameWidth] at leftBound
    exact (numeral_inj leftBound rightBound).mp same
  · rintro rfl
    rfl

theorem digit_ne_minus (value : Nat) : digit value ≠ '-' := by
  have all : ∀ remainder < 10, Char.ofNat (48 + remainder) ≠ '-' := by
    decide
  exact all _ (Nat.mod_lt _ (by omega))

theorem minus_not_mem_numeral :
    ∀ width value : Nat, '-' ∉ numeral width value
  | 0, _ => not_mem_nil
  | width + 1, value => by
      rw [numeral, mem_append, mem_singleton]
      rintro (earlier | last)
      · exact minus_not_mem_numeral width (value / 10) earlier
      · exact digit_ne_minus value last.symm

/-- An integer with its sign and zeros up to a width, as `0…d` formats it. -/
def zeroPaddedInt (width : Nat) : Int → List Char
  | .ofNat value => zeroPadded width value
  | .negSucc value => '-' :: zeroPadded (width - 1) (value + 1)

theorem zeroPaddedInt_inj {left right : Int} :
    zeroPaddedInt width left = zeroPaddedInt width right ↔ left = right := by
  constructor
  · intro same
    cases left with
    | ofNat first =>
      cases right with
      | ofNat second => rw [zeroPadded_inj.mp same]
      | negSucc second =>
        have minus : '-' ∈ zeroPadded width first := by
          rw [show zeroPadded width first = _ from same]
          exact mem_cons_self
        exact absurd minus (minus_not_mem_numeral _ _)
    | negSucc first =>
      cases right with
      | ofNat second =>
        have minus : '-' ∈ zeroPadded width second := by
          rw [← show _ = zeroPadded width second from same]
          exact mem_cons_self
        exact absurd minus (minus_not_mem_numeral _ _)
      | negSucc second =>
        have equal := zeroPadded_inj.mp (cons.inj same).2
        rw [Nat.succ.inj equal]
  · rintro rfl
    rfl

end DcpPlatform.Foundation
