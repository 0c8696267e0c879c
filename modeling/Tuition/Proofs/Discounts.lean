/-
# Discounts are exact

A discount takes a percentage off a price. The hundredth part, the difference to one and the
product are exact as long as price and discount are written with few digits, as their columns do,
so rounding happens once: the discounted price is the number of cents nearest to the price times
what remains of each unit.
-/

import Tuition.Proofs.Rounding

namespace Tuition

namespace Decimal

/-- The decimal is written with at most so many digits, of which at most two
stand after the point. -/
def InScale (digits : Nat) (amount : Decimal) : Prop :=
  ∃ negative coefficient exponent, amount = .finite negative coefficient exponent ∧
    coefficient < 10 ^ digits ∧ -2 ≤ exponent ∧ exponent ≤ 0

/-- The number of cents nearest to an amount, a half going away from nothing. -/
def roundedCents (amount : ℚ) : Int :=
  if amount < 0 then -(nearestCents (-amount) : Int) else nearestCents amount

/-! ## Values -/

theorem value_finite (negative : Bool) (coefficient : Nat) (exponent : Int) :
    (finite negative coefficient exponent).value =
      signed negative coefficient * (10 : ℚ) ^ exponent := by
  cases negative <;> simp [value, magnitude, signed]

/-- What rounding leaves are the nearest cents. -/
theorem isCents_quantize (negative : Bool) {coefficient : Nat} {exponent : Int}
    (few : nearestCents (magnitude coefficient exponent) < 10 ^ precision) :
    ∃ rounded, (finite negative coefficient exponent).quantize = .ok rounded ∧
      rounded.IsCents (roundedCents (finite negative coefficient exponent).value) := by
  refine ⟨_, (quantize_finite negative coefficient exponent).trans (if_pos few), negative,
    _, rfl, ?_⟩
  have least := magnitude_nonneg coefficient exponent
  cases negative with
  | false =>
      have above : ¬(finite false coefficient exponent).value < 0 := not_lt.mpr least
      rw [roundedCents, if_neg above]
      rfl
  | true =>
      have opposite : (finite true coefficient exponent).value =
          -magnitude coefficient exponent := rfl
      rw [roundedCents, opposite, neg_neg]
      split
      · rfl
      · next above =>
          have nothing : magnitude coefficient exponent = 0 := by linarith
          rw [nothing, neg_zero, nearestCents_zero]
          rfl

/-! ## Exact operations -/

/-- A result that has few digits and an exponent of a usual size is not rounded. -/
theorem finalize_short (negative : Bool) {coefficient : Nat} (few : coefficient < 10 ^ precision)
    {exponent : Int} (low : leastExponent ≤ exponent) (high : exponent ≤ fullExponent) :
    finalize negative coefficient exponent = .ok (.finite negative coefficient exponent) := by
  have digits : digitCount coefficient ≤ precision := (digitCount_le_iff (by decide)).mpr few
  have place : fullExponent ≤ greatestPlace := by decide
  unfold finalize
  split
  · next none =>
      rw [none, min_eq_left (high.trans place), max_eq_right low]
  · dsimp only
    rw [if_neg (by omega), if_neg (by omega)]

/-- Nothing has no digits that an exponent could move. -/
theorem value_congr (negative : Bool) {coefficient : Nat} {place exponent : Int}
    (same : coefficient ≠ 0 → place = exponent) :
    (finite negative coefficient place).value = (finite negative coefficient exponent).value := by
  by_cases none : coefficient = 0
  · have nothing : signed negative 0 = 0 := by cases negative <;> rfl
    rw [value_finite, value_finite, none, nothing, Int.cast_zero, zero_mul, zero_mul]
  · rw [same none]

/-- A result of few digits is exact: only the exponent of nothing is brought
back to a usual size. -/
theorem exists_finalize (negative : Bool) {coefficient : Nat} (few : coefficient < 10 ^ precision)
    {exponent : Int} (low : leastExponent ≤ exponent)
    (high : coefficient ≠ 0 → exponent ≤ fullExponent) :
    ∃ place, finalize negative coefficient exponent = .ok (.finite negative coefficient place) ∧
      min exponent 0 ≤ place ∧ (coefficient ≠ 0 → place = exponent) := by
  by_cases none : coefficient = 0
  · refine ⟨max leastExponent (min exponent greatestPlace), by rw [finalize, if_pos none, none],
      ?_, fun some => absurd none some⟩
    exact le_max_of_le_right (le_min (min_le_left _ _) ((min_le_right _ _).trans (by decide)))
  · exact ⟨exponent, finalize_short negative few low (high none), min_le_left _ _, fun _ => rfl⟩

/-- The hundredth part of a decimal of few digits is exact. -/
theorem exists_percent (negative : Bool) {coefficient : Nat} (few : coefficient < 10 ^ 5)
    {exponent : Int} (low : -2 ≤ exponent) (high : coefficient ≠ 0 → exponent ≤ 2) :
    ∃ part place, (finite negative coefficient exponent).percent =
        .ok (.finite negative part place) ∧
      part < 10 ^ 5 ∧ -4 ≤ place ∧ (part ≠ 0 → place ≤ exponent) ∧
      (finite negative part place).value =
        (finite negative coefficient exponent).value / 100 := by
  have ten : (10 : ℚ) ≠ 0 := by norm_num
  have times (part unit : Nat) : (signed negative (part * unit) : ℚ) =
      signed negative part * unit := by
    cases negative <;> simp [signed]
  have fitted {part : Nat} {lower : Int} (le : part ≤ coefficient) (least : -4 ≤ lower)
      (most : lower ≤ exponent) (hundredth : (finite negative part lower).value =
        (finite negative coefficient exponent).value / 100) :
      ∃ digits place, finalize negative part lower = .ok (.finite negative digits place) ∧
        digits < 10 ^ 5 ∧ -4 ≤ place ∧ (digits ≠ 0 → place ≤ exponent) ∧
        (finite negative digits place).value =
          (finite negative coefficient exponent).value / 100 := by
    have usual : part ≠ 0 → lower ≤ fullExponent := fun some =>
      (most.trans (high (by omega))).trans (by decide)
    obtain ⟨place, fits, deep, same⟩ := exists_finalize negative
      (Nat.lt_of_le_of_lt le (few.trans (by decide))) (le_trans (by decide) least) usual
    exact ⟨part, place, fits, Nat.lt_of_le_of_lt le few, (le_min least (by decide)).trans deep,
      fun some => (same some).trans_le most, (value_congr negative same).trans hundredth⟩
  simp only [percent]
  split
  · next whole =>
      obtain ⟨part, rfl⟩ := Nat.dvd_of_mod_eq_zero whole
      rw [Nat.mul_div_cancel_left part (by decide)]
      refine fitted (by omega) (by omega) le_rfl ?_
      rw [value_finite, value_finite, Nat.mul_comm, times]
      push_cast
      ring
  split
  · next whole =>
      obtain ⟨part, rfl⟩ := Nat.dvd_of_mod_eq_zero whole
      rw [Nat.mul_div_cancel_left part (by decide)]
      refine fitted (by omega) (by omega) (by omega) ?_
      rw [value_finite, value_finite, Nat.mul_comm, times, zpow_sub_one₀ ten]
      push_cast
      ring
  · refine fitted le_rfl (by omega) (by omega) ?_
    rw [value_finite, value_finite, zpow_sub₀ ten]
    norm_num
    ring

/-- A part of few digits reaches the digits that are kept beside a unit. -/
theorem addNonzero_one (negative : Bool) {part : Nat} {place : Int} (low : -4 ≤ place)
    (high : place ≤ 0) : addNonzero false 1 0 negative part place =
      let total := tenTo (-place).toNat + signed negative part
      if total = 0 then finalize false 0 place else finalize (total < 0) total.natAbs place := by
  have digits := digitCount_pos part
  have oneDigit : digitCount 1 = 1 := by decide
  have later : ¬(0 < place) := by omega
  have reaches : ¬((digitCount part : Int) + place - 1 <
      0 + min (-1) ((digitCount 1 : Int) - precision - 2)) := by
    rw [oneDigit, precision]
    omega
  simp only [addNonzero, later, if_false, reaches, min_eq_right high, zero_sub, one_mul]
  rfl

/-- What is added to a unit is added exactly, if it has few digits. -/
theorem exists_addFinite_one (negative : Bool) {part : Nat} (few : part < 10 ^ 5) {place : Int}
    (low : -4 ≤ place) (high : part ≠ 0 → place ≤ 0) :
    ∃ level total, addFinite false 1 0 negative part place =
        .ok (.finite (decide (total < 0)) total.natAbs level) ∧
      total = (tenTo (-level).toNat : Int) + signed negative part ∧ total.natAbs < 10 ^ 6 ∧
      -4 ≤ level ∧ level ≤ 0 ∧ (part ≠ 0 → level = place) := by
  have size := natAbs_signed negative part
  have short (sign : Bool) {rest : Nat} (little : rest < 10 ^ 6) {level : Int}
      (least : -4 ≤ level) (most : level ≤ 0) :
      finalize sign rest level = .ok (.finite sign rest level) :=
    finalize_short sign (little.trans (by decide)) (le_trans (by decide) least)
      (le_trans most (by decide))
  have unit {level : Int} (least : -4 ≤ level) : tenTo (-level).toNat ≤ 10 ^ 4 :=
    Nat.pow_le_pow_right (by decide) (by omega)
  unfold addFinite
  rw [if_neg (fun both => absurd both.1 (by decide)), if_neg (by decide)]
  by_cases none : part = 0
  · have least : -4 ≤ min 0 place := le_min (by decide) low
    have positive : 0 < tenTo (-min 0 place).toNat := Nat.pow_pos (by decide)
    have few := unit least
    have kept : max (min 0 place) (0 - (precision : Int) - 1) = min 0 place :=
      max_eq_left (le_trans (by decide) least)
    have nothing : signed negative part = 0 := by cases negative <;> simp [signed, none]
    rw [if_pos none]
    dsimp only
    rw [kept, zero_sub, one_mul, short false (by omega) least (min_le_left _ _)]
    refine ⟨min 0 place, _, ?_,
      rfl, by omega, least, min_le_left _ _, fun some => absurd none some⟩
    rw [nothing, Int.add_zero, Int.natAbs_natCast, decide_eq_false (by omega)]
  · have few := unit low
    have little : ((tenTo (-place).toNat : Int) + signed negative part).natAbs <
        10 ^ 6 := by omega
    refine ⟨place, _, ?_, rfl, little, low, high none, fun _ => rfl⟩
    rw [if_neg none, addNonzero_one negative low (high none)]
    dsimp only
    split
    · next nothing =>
        rw [nothing]
        exact short false (by decide) low (high none)
    · exact short _ little low (high none)

/-- What remains of a unit after a part of it is exact, and has a sign only
if it is below nothing. -/
theorem exists_one_sub (negative : Bool) {part : Nat} (few : part < 10 ^ 5) {place : Int}
    (low : -4 ≤ place) (high : part ≠ 0 → place ≤ 0) :
    ∃ sign rest level, (ofInt 1).sub (finite negative part place) =
        .ok (.finite sign rest level) ∧
      rest < 10 ^ 6 ∧ -4 ≤ level ∧ level ≤ 0 ∧
      (finite sign rest level).value = 1 - (finite negative part place).value ∧
      (sign = true → (finite sign rest level).value < 0) := by
  obtain ⟨level, total, added, exact, little, least, most, same⟩ :=
    exists_addFinite_one (!negative) few low high
  have valued : (finite (decide (total < 0)) total.natAbs level).value =
      total * (10 : ℚ) ^ level := by
    rw [value_finite, signed_ofInt]
  refine ⟨decide (total < 0), total.natAbs, level, added, little, least, most, ?_, fun sign => ?_⟩
  · have unit : ((tenTo (-level).toNat : ℕ) : ℚ) * (10 : ℚ) ^ level = 1 := by
      obtain ⟨places, rfl⟩ := Int.exists_eq_neg_ofNat most
      rw [neg_neg, Int.toNat_natCast, zpow_neg, zpow_natCast]
      have power : ((tenTo places : ℕ) : ℚ) = 10 ^ places := by
        show ((10 ^ places : ℕ) : ℚ) = _
        push_cast
        rfl
      rw [power]
      exact mul_inv_cancel₀ (by positivity)
    have opposite : signed (!negative) part = -signed negative part := by
      cases negative <;> simp [signed]
    rw [valued, ← value_congr negative same, value_finite, exact, opposite]
    push_cast at unit ⊢
    rw [add_mul, unit]
    ring
  · have below : (total : ℚ) < 0 := by exact_mod_cast of_decide_eq_true sign
    rw [valued]
    exact mul_neg_of_neg_of_pos below (zpow_pos (by norm_num) _)

theorem value_mul (first second : Bool) (m n : Nat) (e f : Int) :
    (finite (first != second) (m * n) (e + f)).value =
      (finite first m e).value * (finite second n f).value := by
  rw [value_finite, value_finite, value_finite, signed_mul, zpow_add₀ (by norm_num)]
  push_cast
  ring

/-- A product of few digits is exact. -/
theorem exists_mul (first second : Bool) {m n : Nat} {e f : Int} (few : m * n < 10 ^ precision)
    (low : leastExponent ≤ e + f) (high : m * n ≠ 0 → e + f ≤ fullExponent) :
    ∃ place, (finite first m e).mul (.finite second n f) =
        .ok (.finite (first != second) (m * n) place) ∧
      (finite (first != second) (m * n) place).value =
        (finite first m e).value * (finite second n f).value := by
  obtain ⟨place, fits, -, same⟩ := exists_finalize (first != second) few low high
  exact ⟨place, fits, (value_congr _ same).trans (value_mul first second m n e f)⟩

/-- A decimal without digits before its point is no greater than its coefficient. -/
theorem magnitude_le (coefficient : Nat) {exponent : Int} (high : exponent ≤ 0) :
    magnitude coefficient exponent ≤ coefficient := by
  have unit : (10 : ℚ) ^ exponent ≤ 1 := zpow_le_one_of_nonpos₀ (by norm_num) high
  calc magnitude coefficient exponent ≤ coefficient * 1 :=
        mul_le_mul_of_nonneg_left unit (Nat.cast_nonneg _)
    _ = coefficient := mul_one _

/-- A price of few digits times a factor of few digits is rounded once. -/
theorem exists_scaled (first second : Bool) {m n : Nat} {e f : Int} (few : m < 10 ^ 12)
    (low : -2 ≤ e) (high : e ≤ 0) (little : n < 10 ^ 6) (lowFactor : -4 ≤ f)
    (highFactor : f ≤ 0) :
    ∃ rounded, Money.scaled (.finite first m e) (.finite second n f) = .ok rounded ∧
      rounded.IsCents (roundedCents ((finite first m e).value * (finite second n f).value)) := by
  have size : m * n < 10 ^ 12 * 10 ^ 6 := Nat.mul_lt_mul'' few little
  have product : (finite first m e).mul (.finite second n f) =
      .ok (.finite (first != second) (m * n) (e + f)) :=
    finalize_short _ (size.trans (by decide)) (le_trans (by decide) (by omega : -6 ≤ e + f))
      (le_trans (by omega : e + f ≤ 0) (by decide))
  have short : nearestCents (magnitude (m * n) (e + f)) < 10 ^ precision := by
    refine not_le.mp (mt le_nearestCents_iff.mp (not_le.mpr ?_))
    have sizeCast : ((m * n : ℕ) : ℚ) < 10 ^ 12 * 10 ^ 6 := by exact_mod_cast size
    have le := magnitude_le (m * n) (by omega : e + f ≤ 0)
    linarith
  obtain ⟨rounded, rounds, cents⟩ := isCents_quantize (first != second) short
  rw [value_mul] at cents
  exact ⟨rounded, bind_eq_ok_iff.mpr ⟨_, product, rounds⟩, cents⟩

end Decimal

open Decimal

/-- A price less a discount in percent, both written with few digits, is the exact
amount rounded to cents. -/
theorem Money.exists_discounted {price discount : Decimal} (scale : price.InScale 12)
    (scaleDiscount : discount.InScale 5) :
    ∃ rounded, discounted price discount = .ok rounded ∧
      rounded.IsCents (roundedCents (price.value * (1 - discount.value / 100))) := by
  obtain ⟨negative, coefficient, exponent, rfl, few, low, high⟩ := scale
  obtain ⟨sign, hundredths, place, rfl, fewHundredths, lowPlace, highPlace⟩ := scaleDiscount
  obtain ⟨part, partPlace, percent, fewParts, lowPart, highPart, hundredth⟩ :=
    exists_percent sign fewHundredths lowPlace fun _ => highPlace.trans (by decide)
  obtain ⟨restSign, rest, level, remains, little, lowRest, highRest, remainder, -⟩ :=
    exists_one_sub sign fewParts lowPart fun some => (highPart some).trans highPlace
  obtain ⟨rounded, scaled, cents⟩ := exists_scaled negative restSign few low high little
    lowRest highRest
  rw [remainder, hundredth] at cents
  exact ⟨rounded, bind_eq_ok_iff.mpr ⟨_, bind_eq_ok_iff.mpr ⟨_, percent, remains⟩, scaled⟩, cents⟩

end Tuition
