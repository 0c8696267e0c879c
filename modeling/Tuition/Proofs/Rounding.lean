/-
# Rounding by value

A finite decimal stands for a rational number, and rounding to cents looks at nothing else: the
number of cents is the whole number nearest to the hundredfold, a half going up, and it is
refused exactly if it has more digits than the precision. How many digits the decimal is written
with makes no difference.
-/

import Tuition.Proofs.Cents
import Mathlib.Algebra.Order.Floor.Semifield
import Mathlib.Algebra.Order.Field.Power
import Mathlib.Data.Rat.Floor
import Mathlib.Tactic.FieldSimp
import Mathlib.Tactic.Linarith
import Mathlib.Tactic.NormNum

namespace Tuition.Decimal

/-- The number that a coefficient and a power of ten stand for. -/
def magnitude (coefficient : Nat) (exponent : Int) : ℚ :=
  coefficient * (10 : ℚ) ^ exponent

/-- The number that a finite decimal stands for. -/
def value : Decimal → ℚ
  | .finite negative coefficient exponent =>
    if negative then -magnitude coefficient exponent else magnitude coefficient exponent
  | _ => 0

/-- The number of cents nearest to an amount that is not below nothing, a half going up. -/
def nearestCents (amount : ℚ) : Nat :=
  ⌊100 * amount + 1 / 2⌋₊

theorem magnitude_nonneg (coefficient : Nat) (exponent : Int) :
    0 ≤ magnitude coefficient exponent :=
  mul_nonneg (Nat.cast_nonneg _) (zpow_nonneg (by norm_num) _)

theorem magnitude_pos {coefficient : Nat} (some : coefficient ≠ 0) (exponent : Int) :
    0 < magnitude coefficient exponent :=
  mul_pos (Nat.cast_pos.mpr (Nat.pos_of_ne_zero some)) (zpow_pos (by norm_num) _)

theorem nearestCents_zero : nearestCents 0 = 0 := by
  rw [nearestCents, Nat.floor_eq_zero]
  norm_num

/-- A finite decimal is above nothing if it has a coefficient and no sign. -/
theorem value_pos_iff {negative : Bool} {coefficient : Nat} {exponent : Int} :
    0 < (finite negative coefficient exponent).value ↔ coefficient ≠ 0 ∧ negative = false := by
  by_cases none : coefficient = 0
  · cases negative <;> simp [value, magnitude, none]
  · have positive := magnitude_pos none exponent
    cases negative with
    | true => simpa [value] using positive.le
    | false => simpa [value, none] using positive

/-- So it comes after nothing in the order of decimals. -/
theorem order_ofInt_zero_eq_gt_iff {negative : Bool} {coefficient : Nat} {exponent : Int} :
    (finite negative coefficient exponent).order (ofInt 0) = .gt ↔
      coefficient ≠ 0 ∧ negative = false := by
  have compared : (finite negative coefficient exponent).order (ofInt 0) =
      compareFinite negative coefficient exponent false 0 0 := rfl
  rw [compared]
  by_cases none : coefficient = 0
  · simp [compareFinite, none]
  · cases negative <;> simp [compareFinite, none]

/-- The hundredfold, two places further on. -/
theorem hundred_mul_magnitude (coefficient : Nat) (exponent : Int) :
    100 * magnitude coefficient exponent = coefficient * (10 : ℚ) ^ (exponent + 2) := by
  rw [magnitude, zpow_add₀ (by norm_num)]
  norm_num
  ring

/-- Dropping digits at the end, half up, gives the nearest whole number. -/
theorem dropHalfUp_eq (coefficient dropped : Nat) :
    dropHalfUp coefficient dropped = ⌊(coefficient / 10 ^ dropped + 1 / 2 : ℚ)⌋₊ := by
  have unit : (0 : ℚ) < 10 ^ dropped := by positivity
  unfold dropHalfUp
  split
  · next few =>
      -- fewer digits than are dropped come to less than a tenth of the unit
      have positive := digitCount_pos coefficient
      have small : coefficient < 10 ^ (dropped - 1) :=
        (digitCount_le_iff (by omega)).mp (by omega)
      have tenfold : 10 * 10 ^ (dropped - 1) = 10 ^ dropped := by
        rw [← pow_succ', Nat.sub_add_cancel (by omega)]
      have tenth : (10 * coefficient : ℚ) < 10 ^ dropped := by
        exact_mod_cast (by omega : 10 * coefficient < 10 ^ dropped)
      have below : (coefficient / 10 ^ dropped : ℚ) < 1 / 10 := by
        rw [div_lt_iff₀ unit]
        linarith
      rw [eq_comm, Nat.floor_eq_zero]
      linarith
  · have halves : (coefficient / 10 ^ dropped + 1 / 2 : ℚ) =
        ((2 * coefficient + 10 ^ dropped : ℕ) : ℚ) / ((2 * 10 ^ dropped : ℕ) : ℚ) := by
      push_cast
      field_simp
    rw [halves, Nat.floor_div_eq_div]
    rfl

/-- A magnitude in hundredths is the nearest number of cents. -/
theorem toHundredths_eq (coefficient : Nat) (exponent : Int) :
    toHundredths coefficient exponent = nearestCents (magnitude coefficient exponent) := by
  rw [nearestCents, hundred_mul_magnitude]
  unfold toHundredths
  split
  · next whole =>
      obtain ⟨places, shift⟩ := Int.eq_ofNat_of_zero_le (by omega : 0 ≤ exponent + 2)
      have exact : (coefficient * (10 : ℚ) ^ (exponent + 2)) =
          ((coefficient * 10 ^ places : ℕ) : ℚ) := by
        rw [shift]
        push_cast
        rfl
      have placed : tenTo (places : ℤ).toNat = 10 ^ places := rfl
      rw [exact, shift, placed, eq_comm, Nat.floor_eq_iff (by positivity)]
      constructor <;> linarith
  · next fraction =>
      obtain ⟨dropped, shift⟩ := Int.eq_ofNat_of_zero_le (by omega : 0 ≤ -2 - exponent)
      have opposite : exponent + 2 = -(dropped : ℤ) := by omega
      rw [dropHalfUp_eq, shift, opposite, zpow_neg, zpow_natCast, div_eq_mul_inv]
      rfl

/-- A number that has more digits before the point than the precision comes to as many cents. -/
theorem le_nearestCents_of_wide {coefficient : Nat} {exponent : Int} (some : coefficient ≠ 0)
    (wide : (precision : Int) < digitCount coefficient + exponent + 2) :
    10 ^ precision ≤ nearestCents (magnitude coefficient exponent) := by
  have digits := digitCount_pos coefficient
  have long := pow_digitCount_le some
  have longCast : (10 : ℚ) ^ ((digitCount coefficient : ℤ) - 1) ≤ coefficient := by
    have place :
        (digitCount coefficient : ℤ) - 1 = ((digitCount coefficient - 1 : ℕ) : ℤ) := by omega
    rw [place, zpow_natCast]
    exact_mod_cast long
  refine Nat.le_floor ?_
  rw [hundred_mul_magnitude]
  push_cast
  calc (10 : ℚ) ^ precision = 10 ^ (precision : ℤ) := (zpow_natCast _ _).symm
    _ ≤ 10 ^ ((digitCount coefficient : ℤ) - 1 + (exponent + 2)) :=
      zpow_le_zpow_right₀ (by norm_num) (by omega)
    _ = 10 ^ ((digitCount coefficient : ℤ) - 1) * 10 ^ (exponent + 2) :=
      zpow_add₀ (by norm_num) _ _
    _ ≤ coefficient * 10 ^ (exponent + 2) :=
      mul_le_mul_of_nonneg_right longCast (zpow_nonneg (by norm_num) _)
    _ ≤ coefficient * 10 ^ (exponent + 2) + 1 / 2 := by linarith

/-- Rounding gives the nearest number of cents, and is refused if that needs too many digits. -/
theorem quantize_finite (negative : Bool) (coefficient : Nat) (exponent : Int) :
    (finite negative coefficient exponent).quantize =
      if nearestCents (magnitude coefficient exponent) < 10 ^ precision then
        .ok (.finite negative (nearestCents (magnitude coefficient exponent)) (-2))
      else .error .invalid := by
  simp only [quantize]
  split
  · next none =>
      have nothing : nearestCents (magnitude coefficient exponent) = 0 := by
        rw [magnitude, none, Nat.cast_zero, zero_mul, nearestCents_zero]
      rw [nothing, if_pos (by decide)]
  split
  · next some wide =>
      rw [if_neg (Nat.not_lt.mpr (le_nearestCents_of_wide some wide))]
  · have digits : precision < digitCount (nearestCents (magnitude coefficient exponent)) ↔
        ¬nearestCents (magnitude coefficient exponent) < 10 ^ precision := by
      rw [le_digitCount_iff (by decide), Nat.not_lt]
    simp only [toHundredths_eq, digits, ite_not]

/-- An amount has too many cents exactly if it is less than half a cent below `10 ^ 26`. -/
theorem le_nearestCents_iff {amount : ℚ} :
    10 ^ precision ≤ nearestCents amount ↔ 10 ^ 26 - 1 / 200 ≤ amount := by
  rw [nearestCents, Nat.le_floor_iff' (by decide)]
  push_cast [precision]
  constructor <;> intro bound <;> linarith

/-- An amount comes to a cent exactly from half a cent on. -/
theorem nearestCents_pos_iff {amount : ℚ} : 0 < nearestCents amount ↔ 1 / 200 ≤ amount := by
  rw [nearestCents, Nat.floor_pos]
  constructor <;> intro bound <;> linarith

end Tuition.Decimal
