/-
# Prices stay above nothing

A discount between nothing and all of a price leaves no price below nothing. Rounding does not
spoil this, however many digits price and discount are written with: the hundredth part of a
percentage is at most one and is rounded to no more than one, so what remains of a unit is not
below nothing, and neither is its product with the price. A price that is not below nothing is
then rounded to the nearest cents, if they fit into the precision.
-/

import Tuition.Proofs.Discounts

namespace Tuition

namespace Decimal

/-- The decimal is a number that is not below nothing. -/
def NotNegative : Decimal → Prop
  | .finite negative coefficient _ => negative = true → coefficient = 0
  | .infinite negative => negative = false
  | .nan .. => False

/-- The decimal is a part of a hundred, written with any number of digits. -/
structure IsPercentage (discount : Decimal) : Prop where
  finite : discount.isFinite
  least : 0 ≤ discount.value
  most : discount.value ≤ 100

/-- A magnitude is at most one, told from its digits. -/
def AtMostOne (coefficient : Nat) (exponent : Int) : Prop :=
  coefficient ≠ 0 → exponent ≤ 0 ∧ coefficient ≤ 10 ^ (-exponent).toNat

/-! ## What remains after a discount -/

theorem atMostOne_of_magnitude {coefficient : Nat} {exponent : Int}
    (le : magnitude coefficient exponent ≤ 1) : AtMostOne coefficient exponent := by
  intro some
  have one : (1 : ℚ) ≤ coefficient := by exact_mod_cast Nat.pos_of_ne_zero some
  have unit : (0 : ℚ) < 10 ^ exponent := zpow_pos (by norm_num) _
  have place : exponent ≤ 0 := by
    by_contra above
    have large : (1 : ℚ) < 10 ^ exponent := one_lt_zpow₀ (by norm_num) (by omega)
    have more : magnitude coefficient exponent ≥ 1 * 10 ^ exponent :=
      mul_le_mul_of_nonneg_right one unit.le
    linarith
  refine ⟨place, ?_⟩
  obtain ⟨places, rfl⟩ := Int.exists_eq_neg_ofNat place
  rw [neg_neg, Int.toNat_natCast]
  rw [magnitude, zpow_neg, zpow_natCast, ← div_eq_mul_inv, div_le_one (by positivity)] at le
  exact_mod_cast le

/-- Dropping digits does not get past a whole number. -/
theorem dropToEven_le {coefficient dropped bound : Nat}
    (le : coefficient ≤ bound * 10 ^ dropped) : dropToEven coefficient dropped ≤ bound := by
  have unit : 0 < 10 ^ dropped := Nat.pow_pos (by decide)
  have power : tenTo dropped = 10 ^ dropped := rfl
  have least : coefficient / 10 ^ dropped ≤ bound :=
    Nat.div_le_of_le_mul (Nat.mul_comm bound _ ▸ le)
  unfold dropToEven
  split
  · exact Nat.zero_le _
  · simp only [power]
    split
    · next up =>
        -- what is rounded up is no multiple of the unit
        rcases Nat.lt_or_eq_of_le least with less | same
        · exact less
        · have parts := Nat.div_add_mod coefficient (10 ^ dropped)
          rw [same, Nat.mul_comm] at parts
          have whole : coefficient % 10 ^ dropped = 0 := by omega
          simp only [whole, Bool.or_eq_true, decide_eq_true_eq, Bool.and_eq_true,
            beq_iff_eq] at up
          omega
    · exact least

/-- Fitting a magnitude that is at most one into the precision keeps it so, and keeps the sign. -/
theorem AtMostOne.finalize {negative : Bool} {coefficient : Nat} {exponent : Int}
    {result : Decimal} (small : AtMostOne coefficient exponent)
    (finalized : Decimal.finalize negative coefficient exponent = .ok result) :
    ∃ digits place, result = .finite negative digits place ∧ AtMostOne digits place := by
  rcases finalize_cases finalized with ⟨-, rfl⟩ | ⟨-, rfl⟩ |
    ⟨lowest, least, some, dropped, digits, carry, rfl, rounded⟩
  · exact ⟨0, _, rfl, fun some => absurd rfl some⟩
  · exact ⟨_, _, rfl, small⟩
  · refine ⟨digits, _, rfl, fun someDigits => ?_⟩
    obtain ⟨place, few⟩ := small some
    have short : digitCount coefficient ≤ (-exponent).toNat + 1 :=
      (digitCount_le_iff (by omega)).mpr
        (Nat.lt_of_le_of_lt few (Nat.pow_lt_pow_right (by decide) (by omega)))
    have deep : lowest ≤ 0 := by
      simp only [leastExponent, precision] at least
      omega
    have apart : (-exponent).toNat = (-lowest).toNat + (lowest - exponent).toNat := by omega
    have most : digits * 10 ^ carry ≤ 10 ^ (-lowest).toNat := by
      rw [rounded]
      apply dropToEven_le
      rwa [← pow_add, ← apart]
    have room : carry ≤ (-lowest).toNat :=
      (Nat.pow_le_pow_iff_right (by decide)).mp
        ((Nat.le_mul_of_pos_left _ (Nat.pos_of_ne_zero someDigits)).trans most)
    refine ⟨by omega, Nat.le_of_mul_le_mul_right (le_of_le_of_eq most ?_)
      (Nat.pow_pos (by decide))⟩
    rw [← pow_add]
    congr 1
    omega

/-- The hundredth part of a percentage is at most one. -/
theorem atMostOne_percent {negative : Bool} {coefficient : Nat} {exponent : Int} {part : Decimal}
    (most : magnitude coefficient exponent ≤ 100)
    (found : (finite negative coefficient exponent).percent = .ok part) :
    ∃ digits place, part = .finite negative digits place ∧ AtMostOne digits place := by
  have ten : (10 : ℚ) ≠ 0 := by norm_num
  simp only [percent] at found
  split at found
  · next whole =>
      obtain ⟨hundredths, rfl⟩ := Nat.dvd_of_mod_eq_zero whole
      rw [Nat.mul_div_cancel_left hundredths (by decide)] at found
      refine (atMostOne_of_magnitude ?_).finalize found
      rw [magnitude] at most ⊢
      push_cast at most
      linarith
  split at found
  · next whole =>
      obtain ⟨tenths, rfl⟩ := Nat.dvd_of_mod_eq_zero whole
      rw [Nat.mul_div_cancel_left tenths (by decide)] at found
      refine (atMostOne_of_magnitude ?_).finalize found
      rw [magnitude] at most ⊢
      rw [zpow_sub_one₀ ten]
      push_cast at most
      linarith
  · refine (atMostOne_of_magnitude ?_).finalize found
    rw [magnitude] at most ⊢
    rw [zpow_sub₀ ten]
    norm_num
    linarith

/-! ## Numbers that are not below nothing -/

theorem notNegative_finalize {negative : Bool} {coefficient : Nat} {exponent : Int}
    {result : Decimal} (above : negative = true → coefficient = 0)
    (finalized : Decimal.finalize negative coefficient exponent = .ok result) :
    result.NotNegative := by
  rcases finalize_cases finalized with
    ⟨-, rfl⟩ | ⟨-, rfl⟩ | ⟨lowest, -, some, -, digits, carry, rfl, -⟩
  · exact fun _ => rfl
  · exact above
  · exact fun sign => absurd (above sign) some

theorem NotNegative.mul {first second product : Decimal} (one : first.NotNegative)
    (other : second.NotNegative) (multiplied : first.mul second = .ok product) :
    product.NotNegative := by
  have positive {negative : Bool} {coefficient : Nat} (above : negative = true → coefficient = 0)
      (some : coefficient ≠ 0) : negative = false :=
    Bool.eq_false_iff.mpr fun sign => some (above sign)
  cases first with
  | nan => exact one.elim
  | infinite sign =>
      obtain rfl : sign = false := one
      cases second with
      | nan => exact other.elim
      | infinite sign =>
          obtain rfl : sign = false := other
          cases multiplied
          rfl
      | finite negative coefficient exponent =>
          simp only [Decimal.mul, nanOperand?] at multiplied
          split at multiplied
          · cases multiplied
          · next some =>
              cases multiplied
              rw [positive other some]
              rfl
  | finite negative coefficient exponent =>
      cases second with
      | nan => exact other.elim
      | infinite sign =>
          obtain rfl : sign = false := other
          simp only [Decimal.mul, nanOperand?] at multiplied
          split at multiplied
          · cases multiplied
          · next some =>
              cases multiplied
              rw [positive one some]
              rfl
      | finite sign factor place =>
          refine notNegative_finalize (fun differ => ?_) multiplied
          rw [Nat.mul_eq_zero]
          cases negative with
          | true => exact .inl (one rfl)
          | false => exact .inr (other (by simpa using differ))

theorem notNegative_percent {negative : Bool} {coefficient : Nat} {exponent : Int}
    {part : Decimal} (above : negative = true → coefficient = 0)
    (found : (finite negative coefficient exponent).percent = .ok part) : part.NotNegative := by
  simp only [percent] at found
  split at found
  · exact notNegative_finalize (fun sign => by rw [above sign]) found
  split at found
  · exact notNegative_finalize (fun sign => by rw [above sign]) found
  · exact notNegative_finalize above found

theorem NotNegative.quantize {amount rounded : Decimal} (above : amount.NotNegative)
    (rounds : amount.quantize = .ok rounded) : rounded.NotNegative := by
  cases amount with
  | nan => exact above.elim
  | infinite => cases rounds
  | finite negative coefficient exponent =>
      rw [quantize_finite] at rounds
      split at rounds
      · cases rounds
        intro sign
        rw [above sign, magnitude, Nat.cast_zero, zero_mul, nearestCents_zero]
      · cases rounds

/-- What remains of a unit after a part that is at most one is not below nothing. -/
theorem notNegative_one_sub {negative : Bool} {digits : Nat} {place : Int} {rest : Decimal}
    (unsigned : negative = true → digits = 0) (small : AtMostOne digits place)
    (remains : (ofInt 1).sub (finite negative digits place) = .ok rest) : rest.NotNegative := by
  have subtracts : addFinite false 1 0 (!negative) digits place = .ok rest := remains
  by_cases none : digits = 0
  · simp only [addFinite, none, and_true, one_ne_zero, if_false, if_true] at subtracts
    exact notNegative_finalize (fun sign => Bool.noConfusion sign) subtracts
  · obtain rfl : negative = false := Bool.eq_false_iff.mpr fun sign => none (unsigned sign)
    have high : place ≤ 0 := (small none).1
    have few : digits ≤ tenTo (-place).toNat := (small none).2
    have later : ¬(0 < place) := by omega
    simp only [addFinite, none, and_false, one_ne_zero, if_false, addNonzero, later] at subtracts
    generalize below : (if (digitCount digits : Int) + place - 1 <
      0 + min (-1) ((digitCount 1 : Int) - precision - 2) then _ else _ : Nat × Int) =
        low at subtracts
    -- the part, or the single unit that takes its place, is at most one
    have within : low.1 ≤ tenTo (0 - low.2).toNat := by
      subst below
      split
      · exact Nat.pow_pos (by decide)
      · simpa only [Int.zero_sub] using few
    split at subtracts
    · exact notNegative_finalize (fun sign => Bool.noConfusion sign) subtracts
    · have least : ¬signed false (1 * tenTo (0 - low.2).toNat) + signed (!false) low.1 < 0 := by
        simp only [signed, Bool.not_false, if_true, Bool.false_eq_true, if_false, Nat.one_mul]
        omega
      rw [decide_eq_false least] at subtracts
      exact notNegative_finalize (fun sign => Bool.noConfusion sign) subtracts

/-- A number that is not below nothing has a minus sign only if it is nothing. -/
theorem unsigned_of_value_nonneg {negative : Bool} {coefficient : Nat} {exponent : Int}
    (least : 0 ≤ (finite negative coefficient exponent).value) :
    negative = true → coefficient = 0 := by
  rintro rfl
  by_contra some
  exact absurd (magnitude_pos some exponent) (not_lt.mpr (neg_nonneg.mp least))

theorem value_of_unsigned {negative : Bool} {coefficient : Nat} {exponent : Int}
    (above : negative = true → coefficient = 0) :
    (finite negative coefficient exponent).value = magnitude coefficient exponent := by
  cases negative with
  | false => rfl
  | true => simp [value, magnitude, above rfl]

theorem IsPercentage.exists_digits {discount : Decimal} (percentage : discount.IsPercentage) :
    ∃ negative coefficient exponent, discount = .finite negative coefficient exponent ∧
      (negative = true → coefficient = 0) ∧ magnitude coefficient exponent ≤ 100 := by
  obtain ⟨finite, least, most⟩ := percentage
  cases discount with
  | infinite => cases finite
  | nan => cases finite
  | finite negative coefficient exponent =>
      have unsigned := unsigned_of_value_nonneg least
      exact ⟨_, _, _, rfl, unsigned, value_of_unsigned unsigned ▸ most⟩

/-- What a percentage leaves of each unit is not below nothing. -/
theorem IsPercentage.notNegative_factor {discount factor : Decimal}
    (percentage : discount.IsPercentage) (found : Money.factor discount = .ok factor) :
    factor.NotNegative := by
  obtain ⟨part, hundredth, remains⟩ := bind_eq_ok_iff.mp found
  obtain ⟨negative, coefficient, exponent, rfl, unsigned, most⟩ := percentage.exists_digits
  obtain ⟨digits, place, rfl, small⟩ := atMostOne_percent most hundredth
  exact notNegative_one_sub (notNegative_percent unsigned hundredth) small remains

/-- A price that is not below nothing stays so under a discount. -/
theorem NotNegative.discounted {price discount reduced : Decimal} (above : price.NotNegative)
    (percentage : discount.IsPercentage)
    (reduces : Money.discounted price discount = .ok reduced) : reduced.NotNegative := by
  obtain ⟨factor, found, scales⟩ := bind_eq_ok_iff.mp reduces
  obtain ⟨product, multiplied, rounds⟩ := bind_eq_ok_iff.mp scales
  exact (above.mul (percentage.notNegative_factor found) multiplied).quantize rounds

/-- A price that is not below nothing is above it or equal to it. -/
theorem NotNegative.compareZero {price : Decimal} (above : price.NotNegative) :
    price.compareZero = .ok .gt ∨ price.compareZero = .ok .eq := by
  cases price with
  | nan => exact above.elim
  | infinite sign =>
      obtain rfl : sign = false := above
      exact .inl rfl
  | finite negative coefficient exponent =>
      show Except.ok (compareFinite negative coefficient exponent false 0 0) = _ ∨ Except.ok _ = _
      by_cases none : coefficient = 0
      · exact .inr (by simp [compareFinite, none])
      · obtain rfl : negative = false := Bool.eq_false_iff.mpr fun sign => none (above sign)
        exact .inl (by simp [compareFinite, none])

/-! ## Rounding -/

/-- A finite price that is not below nothing is rounded to the nearest cents, a half going up, if
they fit into the precision. -/
theorem NotNegative.exists_quantize {price : Decimal} (above : price.NotNegative)
    (finite : price.isFinite) (few : nearestCents price.value < 10 ^ 28) :
    ∃ rounded, price.quantize = .ok rounded ∧ rounded.IsCents (nearestCents price.value) := by
  cases price with
  | infinite => cases finite
  | nan => cases finite
  | finite negative coefficient exponent =>
      have same : (Decimal.finite negative coefficient exponent).value =
          magnitude coefficient exponent := value_of_unsigned above
      have least : ¬(Decimal.finite negative coefficient exponent).value < 0 :=
        not_lt.mpr (same ▸ magnitude_nonneg coefficient exponent)
      obtain ⟨rounded, rounds, exact⟩ := isCents_quantize negative (same ▸ few)
      rw [roundedCents, if_neg least] at exact
      exact ⟨rounded, rounds, exact⟩

theorem NotNegative.few_of_quantize {price rounded : Decimal} (above : price.NotNegative)
    (rounds : price.quantize = .ok rounded) :
    price.isFinite ∧ nearestCents price.value < 10 ^ 28 := by
  cases price with
  | infinite => cases rounds
  | nan => exact above.elim
  | finite negative coefficient exponent =>
      rw [quantize_finite] at rounds
      rw [value_of_unsigned above]
      split at rounds
      · next few => exact ⟨rfl, few⟩
      · cases rounds

end Decimal

end Tuition
