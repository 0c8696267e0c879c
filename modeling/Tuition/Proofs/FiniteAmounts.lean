/-
# Finite amounts

An amount that was rounded to cents has at most 28 digits. What a column keeps of it is a
finite number, and so is what the column shows: the nearest binary number is never
anywhere near the greatest one.
-/

import Tuition.Proofs.Cents

namespace Tuition

/-! ## Binary numbers -/

namespace Binary64

/-- A finite number below a whole number. -/
def Below (bound : Nat) : Binary64 → Prop
  | .finite _ mantissa exponent =>
    mantissa * 2 ^ exponent.toNat < bound * 2 ^ (-exponent).toNat
  | _ => False

theorem divideToEven_le (dividend divisor : Nat) :
    divideToEven dividend divisor ≤ dividend / divisor + 1 := by
  unfold divideToEven
  dsimp only
  split
  · exact Nat.le_refl _
  · exact Nat.le_succ _

/-- The exponent of a fraction is at most what the sizes of its parts say. -/
theorem exponentOf_le (num den : Nat) :
    exponentOf num den ≤ max leastExponent ((Nat.log2 num : Int) - Nat.log2 den - 52) := by
  unfold exponentOf
  dsimp only
  split
  · exact Int.le_refl _
  · omega

theorem log2_le_of_lt {num den n : Nat} (some : num ≠ 0) (small : num < den * 2 ^ n) :
    Nat.log2 num ≤ Nat.log2 den + n := by
  have den_lt : den < 2 ^ (Nat.log2 den + 1) := Nat.lt_log2_self
  have wide : num < 2 ^ (Nat.log2 den + n + 1) := calc
    num < den * 2 ^ n := small
    _ ≤ 2 ^ (Nat.log2 den + 1) * 2 ^ n := Nat.mul_le_mul_right _ den_lt.le
    _ = 2 ^ (Nat.log2 den + n + 1) := by rw [← pow_add]; congr 1; omega
  exact Nat.le_of_lt_succ ((Nat.log2_lt some).mpr wide)

/-- A rounded mantissa with its exponent is not far above the fraction. -/
theorem scaledToEven_le {num den : Nat} (exponent : Int) (some : num ≠ 0)
    (least : exponent ≤ Nat.log2 num) :
    scaledToEven num den exponent * 2 ^ exponent.toNat ≤
      (2 * num + 2) * 2 ^ (-exponent).toNat := by
  obtain ⟨k, rfl | rfl⟩ := exponent.eq_nat_or_neg
  · have down : (-(k : Int)).toNat = 0 := by omega
    have unit : num * twoTo 0 = num := Nat.mul_one _
    have power : 2 ^ k ≤ num := (Nat.le_log2 some).mp (by omega)
    have parts : num / (den * 2 ^ k) * 2 ^ k ≤ num := calc
      num / (den * 2 ^ k) * 2 ^ k = num / den / 2 ^ k * 2 ^ k := by rw [Nat.div_div_eq_div_mul]
      _ ≤ num / den := Nat.div_mul_le_self _ _
      _ ≤ num := Nat.div_le_self _ _
    have rounded : scaledToEven num den k ≤ num / (den * 2 ^ k) + 1 := by
      unfold scaledToEven
      rw [down, unit]
      exact divideToEven_le _ _
    rw [down, Int.toNat_natCast]
    calc scaledToEven num den k * 2 ^ k ≤ (num / (den * 2 ^ k) + 1) * 2 ^ k :=
          Nat.mul_le_mul_right _ rounded
      _ = num / (den * 2 ^ k) * 2 ^ k + 2 ^ k := by rw [Nat.add_mul, Nat.one_mul]
      _ ≤ (2 * num + 2) * 2 ^ 0 := by omega
  · have up : (-(k : Int)).toNat = 0 := by omega
    have down : (- -(k : Int)).toNat = k := by omega
    have rounded : scaledToEven num den (-k) ≤ num * 2 ^ k + 1 := by
      unfold scaledToEven
      rw [up, down]
      exact (divideToEven_le _ _).trans (Nat.succ_le_succ (Nat.div_le_self _ _))
    have power : 1 ≤ 2 ^ k := Nat.one_le_two_pow
    rw [up, down]
    calc scaledToEven num den (-k) * 2 ^ 0 ≤ num * 2 ^ k + 1 := by rw [pow_zero]; omega
      _ ≤ (2 * num + 2) * 2 ^ k := by rw [Nat.add_mul, Nat.mul_assoc]; omega

/-- Twice the mantissa and one off the exponent is the same number. -/
theorem carried_le {bound : Nat} {exponent : Int}
    (le : twoTo 53 * 2 ^ exponent.toNat ≤ bound * 2 ^ (-exponent).toNat) :
    twoTo 52 * 2 ^ (exponent + 1).toNat ≤ bound * 2 ^ (-(exponent + 1)).toNat := by
  have twice : twoTo 53 = twoTo 52 * 2 := rfl
  rw [twice] at le
  obtain ⟨k, rfl | rfl⟩ := exponent.eq_nat_or_neg
  · have down : (-(k : Int)).toNat = 0 := by omega
    have downNext : (-((k : Int) + 1)).toNat = 0 := by omega
    have next : ((k : Int) + 1).toNat = k + 1 := by omega
    rw [down, Int.toNat_natCast] at le
    rw [downNext, next, pow_succ]
    calc twoTo 52 * (2 ^ k * 2) = twoTo 52 * 2 * 2 ^ k := by
          rw [Nat.mul_assoc, Nat.mul_comm 2]
      _ ≤ bound * 2 ^ 0 := le
  · cases k with
    | zero =>
        simpa using le
    | succ k =>
        have up : (-((k + 1 : Nat) : Int)).toNat = 0 := by omega
        have upNext : (-((k + 1 : Nat) : Int) + 1).toNat = 0 := by omega
        have down : (- -((k + 1 : Nat) : Int)).toNat = k + 1 := by omega
        have downNext : (-(-((k + 1 : Nat) : Int) + 1)).toNat = k := by omega
        rw [up, down, pow_succ] at le
        rw [upNext, downNext]
        rw [← Nat.mul_assoc] at le
        omega

/-- The number nearest to a fraction that is not enormous is finite, and not far above it. -/
theorem below_ofFraction (negative : Bool) {num den : Nat} (small : num < den * 2 ^ 200) :
    (ofFraction negative num den).Below (2 * num + 3) := by
  by_cases zero : num = 0
  · rw [zero]
    have unit : 0 < 2 ^ (-leastExponent).toNat := Nat.two_pow_pos _
    show 0 * 2 ^ leastExponent.toNat < (2 * 0 + 3) * 2 ^ (-leastExponent).toNat
    omega
  · have size := log2_le_of_lt zero small
    have least := exponentOf_le num den
    simp only [leastExponent] at least
    have fits : exponentOf num den ≤ Nat.log2 num := by omega
    have rounded := @scaledToEven_le num den (exponentOf num den) zero fits
    have above {mantissa : Nat} {exponent : Int}
        (le : mantissa * 2 ^ exponent.toNat ≤ (2 * num + 2) * 2 ^ (-exponent).toNat) :
        (Binary64.finite negative mantissa exponent).Below (2 * num + 3) :=
      Nat.lt_of_le_of_lt le (Nat.mul_lt_mul_of_pos_right (by omega) (Nat.two_pow_pos _))
    simp only [ofFraction, zero, if_false]
    split
    · next carry =>
        rw [if_neg (by simp only [greatestExponent]; omega)]
        rw [carry] at rounded
        exact above (carried_le rounded)
    · rw [if_neg (by simp only [greatestExponent]; omega)]
      exact above rounded

/-- The number nearest to a decimal of few digits before the point is finite, and not far
above the coefficient. -/
theorem below_ofDecimal (negative : Bool) {coefficient k : Nat}
    (small : coefficient < 10 ^ (40 + k)) :
    (ofDecimal negative coefficient (-k)).Below (2 * coefficient + 3) := by
  have digits : Decimal.digitCount coefficient ≤ 40 + k :=
    (Decimal.digitCount_le_iff (by omega)).mpr small
  have up : (-(k : Int)).toNat = 0 := by omega
  have down : (- -(k : Int)).toNat = k := by omega
  have whole : coefficient * tenTo 0 = coefficient := Nat.mul_one _
  have unit : tenTo k = 10 ^ k := rfl
  unfold ofDecimal
  dsimp only
  split
  · have power : 0 < 2 ^ (-leastExponent).toNat := Nat.two_pow_pos _
    show 0 * 2 ^ leastExponent.toNat < (2 * coefficient + 3) * 2 ^ (-leastExponent).toNat
    rw [Nat.zero_mul]
    exact Nat.mul_pos (by omega) power
  split
  · next long =>
      simp only [Decimal.digitCount] at digits
      omega
  · rw [up, down, whole, unit]
    apply below_ofFraction
    have power : 10 ^ 40 ≤ 2 ^ 200 := by decide
    calc coefficient < 10 ^ (40 + k) := small
      _ = 10 ^ k * 10 ^ 40 := by rw [pow_add, Nat.mul_comm]
      _ ≤ 10 ^ k * 2 ^ 200 := Nat.mul_le_mul_left _ power

end Binary64

/-! ## Amounts -/

namespace Amount

/-- A binary number as a decimal has as many digits before the point. -/
theorem exists_ofBinary {binary : Binary64} {bound : Nat} (below : binary.Below bound) :
    ∃ negative coefficient k, ofBinary binary = .finite negative coefficient (-(k : Nat)) ∧
      coefficient < bound * 10 ^ k := by
  cases binary with
  | infinite => exact below.elim
  | nan => exact below.elim
  | finite negative mantissa exponent =>
      have small : mantissa * 2 ^ exponent.toNat < bound * 2 ^ (-exponent).toNat := below
      obtain ⟨k, rfl | rfl⟩ := exponent.eq_nat_or_neg
      · have down : (-(k : Int)).toNat = 0 := by omega
        rw [down, Int.toNat_natCast] at small
        refine ⟨negative, mantissa * twoTo k, 0, ?_, small⟩
        simp [ofBinary]
      · have up : (-(k : Int)).toNat = 0 := by omega
        have down : (- -(k : Int)).toNat = k := by omega
        rw [up, down, pow_zero, Nat.mul_one] at small
        cases k with
        | zero =>
            exact ⟨negative, mantissa * twoTo 0, 0, by simp [ofBinary],
              by simpa [twoTo] using small⟩
        | succ k =>
            refine ⟨negative, mantissa * Nat.pow 5 (k + 1), k + 1, ?_, ?_⟩
            · simp only [ofBinary]
              rw [if_neg (by omega), down]
            · calc mantissa * Nat.pow 5 (k + 1) < bound * 2 ^ (k + 1) * Nat.pow 5 (k + 1) :=
                    Nat.mul_lt_mul_of_pos_right small (Nat.pow_pos (by decide))
                _ = bound * 10 ^ (k + 1) := by
                    rw [Nat.mul_assoc]
                    congr 1
                    exact (Nat.mul_pow 2 5 (k + 1)).symm

theorem isFinite_shownBinary {binary : Binary64} {bound : Nat} (below : binary.Below bound) :
    (shownBinary binary).isFinite = true := by
  cases binary with
  | finite => rfl
  | infinite => exact below.elim
  | nan => exact below.elim

/-- A column shows a finite number of a finite decimal of few digits before the point. -/
theorem isFinite_shown (negative : Bool) {coefficient k : Nat}
    (small : coefficient < 10 ^ (40 + k)) :
    (shown (.finite negative coefficient (-k))).isFinite = true := by
  unfold shown
  split
  · rfl
  · exact isFinite_shownBinary (Binary64.below_ofDecimal negative small)

theorem natAbs_le_of_cents? {negative : Bool} {coefficient : Nat} {cents : Int}
    (found : cents? (.finite negative coefficient (-2)) = some cents) :
    cents.natAbs ≤ coefficient := by
  simp only [cents?, le_refl, if_true] at found
  split at found
  · cases found
    exact Nat.zero_le _
  split at found
  · cases found
  · cases found
    rw [Decimal.natAbs_signed]
    exact (Nat.mul_one coefficient).le

/-- A whole number of cents within the precision is kept as an amount that is shown finite. -/
theorem isFinite_of_keep {amount kept : Decimal} {cents : Int} (exact : amount.IsCents cents)
    (bound : cents.natAbs < 10 ^ 28) (keeps : keep amount = .ok (some kept)) :
    (shown kept).isFinite = true := by
  obtain ⟨negative, coefficient, rfl, rfl⟩ := exact
  rw [Decimal.natAbs_signed] at bound
  simp only [keep] at keeps
  split at keeps
  · next found =>
      cases keeps
      have fewer := natAbs_le_of_cents? found
      exact isFinite_shown _ (show _ < 10 ^ (40 + 2) by omega)
  · cases keeps
    have small : coefficient < 10 ^ (40 + 2) := by omega
    obtain ⟨sign, digits, k, same, few⟩ :=
      exists_ofBinary (Binary64.below_ofDecimal negative small)
    have two : ((2 : Nat) : Int) = 2 := rfl
    rw [two] at same
    rw [same]
    apply isFinite_shown
    calc digits < (2 * coefficient + 3) * 10 ^ k := few
      _ ≤ 10 ^ 40 * 10 ^ k := Nat.mul_le_mul_right _ (by omega)
      _ = 10 ^ (40 + k) := (pow_add _ _ _).symm

end Amount
end Tuition
