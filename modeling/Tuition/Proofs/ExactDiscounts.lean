/-
# Discounts lose nothing before they are rounded

A price with two places and a discount between nothing and all of it, with two places as well,
leave so few digits that the hundredth part, what remains of a unit and the product are all
exact. So the discounted price is rounded once, to the nearest number of cents, and the laws
of that choice carry over: it lies between nothing and the price, grows with the price, and
falls with the discount.
-/

import Tuition.Proofs.NearestCents
import Tuition.Proofs.NotNegative

namespace Tuition

namespace Decimal

/-- At most two digits stand after the point. -/
def HasTwoPlaces : Decimal → Prop
  | .finite _ _ exponent => -2 ≤ exponent
  | _ => False

/-- A price: not below nothing, and with at most 23 digits when it is written with two places. -/
structure IsPrice (price : Decimal) : Prop where
  places : price.HasTwoPlaces
  least : 0 ≤ price.value
  most : price.value < 10 ^ 21

/-- A discount in percent: between nothing and all, with at most two places. -/
structure IsDiscount (discount : Decimal) : Prop extends discount.IsPercentage where
  places : discount.HasTwoPlaces

/-! ## Columns -/

theorem hasTwoPlaces_ofCents (cents : ℤ) : (ofCents cents).HasTwoPlaces :=
  le_refl (-2 : ℤ)

/-- Whatever a column of prices holds is a price. -/
theorem FitsColumn.isPrice {price : Decimal} (fits : price.FitsColumn) (least : 0 ≤ price.value) :
    price.IsPrice := by
  obtain ⟨cents, bound, rfl⟩ := fits
  refine ⟨hasTwoPlaces_ofCents cents, least, ?_⟩
  have size : (cents : ℚ) < 10 ^ 12 := by exact_mod_cast (by omega : cents < 10 ^ 12)
  rw [(isCents_ofCents cents).value_eq]
  linarith

/-- A number of hundredths of a percent, up to all, is a discount. -/
theorem isDiscount_ofCents {hundredths : ℤ} (least : 0 ≤ hundredths)
    (most : hundredths ≤ 10 ^ 4) : (ofCents hundredths).IsDiscount := by
  have above : (0 : ℚ) ≤ hundredths := by exact_mod_cast least
  have below : (hundredths : ℚ) ≤ 10 ^ 4 := by exact_mod_cast most
  have value := (isCents_ofCents hundredths).value_eq
  exact ⟨⟨rfl, by rw [value]; linarith, by rw [value]; linarith⟩, hasTwoPlaces_ofCents hundredths⟩

/-! ## Digits told from values -/

/-- With few places there are no more digits than the value needs. -/
theorem coefficient_le (coefficient : Nat) {places : Nat} {exponent : Int}
    (low : -(places : Int) ≤ exponent) :
    (coefficient : ℚ) ≤ magnitude coefficient exponent * 10 ^ places := by
  have whole : (1 : ℚ) ≤ 10 ^ (exponent + places) := one_le_zpow₀ (by norm_num) (by omega)
  rw [magnitude, mul_assoc, ← zpow_natCast, ← zpow_add₀ (by norm_num)]
  exact le_mul_of_one_le_right (Nat.cast_nonneg _) whole

/-- The last digit of a number that is not nothing stands no further to
the left than its first. -/
theorem exponent_lt (bound : Nat) {coefficient : Nat} {exponent : Int} (some : coefficient ≠ 0)
    (less : magnitude coefficient exponent < 10 ^ bound) : exponent < bound := by
  have one : (1 : ℚ) ≤ coefficient := by exact_mod_cast Nat.pos_of_ne_zero some
  have unit : (10 : ℚ) ^ exponent ≤ magnitude coefficient exponent :=
    le_mul_of_one_le_left (zpow_nonneg (by norm_num) _) one
  have powers : (10 : ℚ) ^ exponent < 10 ^ (bound : ℤ) := by
    rw [zpow_natCast]
    exact unit.trans_lt less
  exact (zpow_lt_zpow_iff_right₀ (by norm_num)).mp powers

theorem HasTwoPlaces.exists_cents {amount : Decimal} (places : amount.HasTwoPlaces) :
    ∃ cents : ℤ, amount.value = cents / 100 := by
  cases amount with
  | infinite => exact places.elim
  | nan => exact places.elim
  | finite negative coefficient exponent =>
      obtain ⟨moved, shift⟩ := Int.eq_ofNat_of_zero_le (by
        have : -2 ≤ exponent := places
        omega : 0 ≤ exponent + 2)
      refine ⟨signed negative coefficient * 10 ^ moved, ?_⟩
      have apart : exponent = (moved : ℤ) - 2 := by omega
      rw [value_finite, apart, zpow_sub₀ (by norm_num), zpow_natCast]
      push_cast
      ring

/-- A whole number of cents is nearest to itself. -/
theorem roundedCents_hundredth (cents : ℤ) : roundedCents (cents / 100) = cents := by
  refine (isNearestCents_iff.mp ⟨fun other => ?_, fun other differ same => ?_⟩).symm
  · rw [sub_self, abs_zero]
    exact abs_nonneg _
  · rw [sub_self, abs_zero, abs_eq_zero] at same
    have equal : (cents : ℚ) = other := by linarith
    exact absurd (Int.cast_inj.mp equal).symm differ

/-! ## Exact intermediate results -/

/-- What is worked out on the way to a discounted price, each number being the exact one. -/
structure IsLossless (price discount share rest product : Decimal) : Prop where
  divided : discount.percent = .ok share
  quotient : share.value = discount.value / 100
  subtracted : (ofInt 1).sub share = .ok rest
  difference : rest.value = 1 - share.value
  multiplied : price.mul rest = .ok product
  exact : product.value = price.value * rest.value

/-- The hundredth part of a discount is not rounded. -/
theorem IsDiscount.exists_share {discount : Decimal} (granted : discount.IsDiscount) :
    ∃ negative part place, discount.percent = .ok (.finite negative part place) ∧ part < 10 ^ 5 ∧
      -4 ≤ place ∧ (part ≠ 0 → place ≤ 0) ∧
      (Decimal.finite negative part place).value = discount.value / 100 := by
  obtain ⟨negative, coefficient, exponent, rfl, unsigned, most⟩ := granted.exists_digits
  have low : -2 ≤ exponent := granted.places
  have few : coefficient < 10 ^ 5 := by
    have := coefficient_le coefficient low
    exact_mod_cast (by linarith : (coefficient : ℚ) < 10 ^ 5)
  have high (some : coefficient ≠ 0) : exponent ≤ 2 := by
    have := exponent_lt 3 some (by linarith)
    omega
  obtain ⟨part, place, divided, fewParts, lowPart, -, hundredth⟩ :=
    exists_percent negative few low high
  refine ⟨negative, part, place, divided, fewParts, lowPart, fun some => ?_, hundredth⟩
  have least : 0 ≤ (finite negative part place).value := by
    rw [hundredth]
    exact div_nonneg granted.least (by norm_num)
  have share : _ = magnitude part place := value_of_unsigned (unsigned_of_value_nonneg least)
  have := exponent_lt 1 some (by linarith [granted.most])
  omega

/-- Nor is what remains of a unit, and it has no sign. -/
theorem IsDiscount.exists_rest {discount : Decimal} (granted : discount.IsDiscount) :
    ∃ share rest level, discount.percent = .ok share ∧ share.value = discount.value / 100 ∧
      (ofInt 1).sub share = .ok (.finite false rest level) ∧
      (Decimal.finite false rest level).value = 1 - share.value ∧
      rest ≤ 10 ^ 4 ∧ -4 ≤ level ∧ level ≤ 0 := by
  obtain ⟨negative, part, place, divided, few, low, high, hundredth⟩ := granted.exists_share
  obtain ⟨sign, rest, level, subtracted, -, lowRest, highRest, remainder, below⟩ :=
    exists_one_sub negative few low high
  have least : 0 ≤ (finite sign rest level).value := by
    rw [remainder, hundredth]
    linarith [granted.most]
  obtain rfl : sign = false :=
    Bool.eq_false_iff.mpr fun minus => absurd (below minus) (not_lt.mpr least)
  refine ⟨_, rest, level, divided, hundredth, subtracted, remainder, ?_, lowRest, highRest⟩
  have size := coefficient_le rest lowRest
  have value : (finite false rest level).value = magnitude rest level := rfl
  exact_mod_cast (by linarith [granted.least] : (rest : ℚ) ≤ 10 ^ 4)

/-- A price times a number of four places, up to one, is not rounded and keeps
the sign of the price. -/
theorem IsPrice.exists_product {price : Decimal} (priced : price.IsPrice) {rest : Nat}
    {level : Int} (few : rest ≤ 10 ^ 4) (low : -4 ≤ level) (high : level ≤ 0) :
    ∃ product, price.mul (.finite false rest level) = .ok product ∧
      product.value = price.value * (Decimal.finite false rest level).value ∧
      product.isFinite ∧ product.isNegative = price.isNegative := by
  cases price with
  | infinite => exact priced.places.elim
  | nan => exact priced.places.elim
  | finite minus units scale =>
      have lowPrice : -2 ≤ scale := priced.places
      have price : _ = magnitude units scale :=
        value_of_unsigned (unsigned_of_value_nonneg priced.least)
      have bound := priced.most
      rw [price] at bound
      have fewUnits : units < 10 ^ 23 := by
        have := coefficient_le units lowPrice
        exact_mod_cast (by linarith : (units : ℚ) < 10 ^ 23)
      have size : units * rest < 10 ^ precision :=
        calc units * rest ≤ units * 10 ^ 4 := Nat.mul_le_mul_left _ few
          _ < 10 ^ 23 * 10 ^ 4 := Nat.mul_lt_mul_of_pos_right fewUnits (by decide)
          _ ≤ 10 ^ precision := by decide
      have usual (some : units * rest ≠ 0) : scale + level ≤ fullExponent := by
        have := exponent_lt 21 (Nat.ne_zero_of_mul_ne_zero_left some) bound
        exact le_trans (by omega : scale + level ≤ 21) (by decide)
      obtain ⟨final, multiplied, product⟩ := exists_mul minus false size
        (le_trans (by decide) (by omega : -6 ≤ scale + level)) usual
      exact ⟨_, multiplied, product, rfl, Bool.xor_false minus⟩

/-- Neither the division nor the difference nor the product is rounded, and the product has
the sign of the price. -/
theorem exists_isLossless {price discount : Decimal} (priced : price.IsPrice)
    (granted : discount.IsDiscount) :
    ∃ share rest product, IsLossless price discount share rest product ∧ product.isFinite ∧
      product.isNegative = price.isNegative := by
  obtain ⟨share, rest, level, divided, quotient, subtracted, difference, few, low, high⟩ :=
    granted.exists_rest
  obtain ⟨product, multiplied, exact, finite, sign⟩ := priced.exists_product few low high
  exact ⟨share, _, product, ⟨divided, quotient, subtracted, difference, multiplied, exact⟩,
    finite, sign⟩

/-- A discounted price is the exact product, rounded. -/
theorem IsLossless.discounted_eq {price discount share rest product : Decimal}
    (lossless : IsLossless price discount share rest product) :
    Money.discounted price discount = Money.round product := by
  have factor : Money.factor discount = .ok rest :=
    bind_eq_ok_iff.mpr ⟨share, lossless.divided, lossless.subtracted⟩
  rw [Money.discounted, factor]
  show Money.scaled price rest = _
  rw [Money.scaled, lossless.multiplied]
  rfl

/-- What is left of a price, before rounding. -/
def reduced (price discount : Decimal) : ℚ :=
  price.value * (100 - discount.value) / 100

theorem IsLossless.value_eq {price discount share rest product : Decimal}
    (lossless : IsLossless price discount share rest product) :
    product.value = reduced price discount := by
  rw [lossless.exact, lossless.difference, lossless.quotient, reduced]
  ring

theorem reduced_nonneg {price discount : Decimal} (priced : price.IsPrice)
    (granted : discount.IsDiscount) : 0 ≤ reduced price discount :=
  div_nonneg (mul_nonneg priced.least (by linarith [granted.most])) (by norm_num)

theorem reduced_le {price discount : Decimal} (priced : price.IsPrice)
    (granted : discount.IsDiscount) : reduced price discount ≤ price.value := by
  rw [reduced, div_le_iff₀ (by norm_num)]
  exact mul_le_mul_of_nonneg_left (by linarith [granted.least]) priced.least

/-- A discounted price is the number of cents nearest to what is left, with
the sign of the price. -/
theorem discounted_eq {price discount : Decimal} (priced : price.IsPrice)
    (granted : discount.IsDiscount) :
    Money.discounted price discount =
      .ok (.finite price.isNegative (roundedCents (reduced price discount)).natAbs (-2)) := by
  obtain ⟨share, rest, product, lossless, finite, sign⟩ := exists_isLossless priced granted
  have few : |((roundedCents (reduced price discount) : ℤ) / 100 : ℚ)| < 10 ^ 26 := by
    have near := abs_le.mp (abs_roundedCents_sub_le (reduced price discount))
    have least := reduced_nonneg priced granted
    have most := reduced_le priced granted
    have bound := priced.most
    exact abs_lt.mpr ⟨by linarith, by linarith⟩
  rw [lossless.discounted_eq, round_finite finite, lossless.value_eq,
    if_pos (natAbs_lt_iff.mpr few), sign]

theorem isCents_of_discounted {price discount left : Decimal} (priced : price.IsPrice)
    (granted : discount.IsDiscount) (reduces : Money.discounted price discount = .ok left) :
    left.IsCents (roundedCents (reduced price discount)) := by
  obtain ⟨share, rest, product, lossless, finite, -⟩ := exists_isLossless priced granted
  rw [lossless.discounted_eq] at reduces
  exact lossless.value_eq ▸ isCents_of_round finite reduces

/-- An amount with two places is worth what it is rounded to. -/
theorem roundedCents_value {amount : Decimal} (places : amount.HasTwoPlaces) :
    (roundedCents amount.value / 100 : ℚ) = amount.value := by
  obtain ⟨cents, exact⟩ := places.exists_cents
  rw [exact, roundedCents_hundredth]

theorem reduced_of_none {price discount : Decimal} (none : discount.value = 0) :
    reduced price discount = price.value := by
  rw [reduced, none]
  ring

theorem reduced_of_all {price discount : Decimal} (all : discount.value = 100) :
    reduced price discount = 0 := by
  rw [reduced, all]
  ring

theorem reduced_mono {low high discount : Decimal} (granted : discount.IsDiscount)
    (le : low.value ≤ high.value) : reduced low discount ≤ reduced high discount :=
  div_le_div_of_nonneg_right
    (mul_le_mul_of_nonneg_right le (by linarith [granted.most])) (by norm_num)

theorem reduced_antitone {price low high : Decimal} (priced : price.IsPrice)
    (le : low.value ≤ high.value) : reduced price high ≤ reduced price low :=
  div_le_div_of_nonneg_right (mul_le_mul_of_nonneg_left (by linarith) priced.least) (by norm_num)

end Decimal

open Decimal

namespace Money

variable {price discount left : Decimal} (priced : price.IsPrice) (granted : discount.IsDiscount)

include priced granted

theorem value_of_discounted (reduces : discounted price discount = .ok left) :
    left.value = roundedCents (reduced price discount) / 100 :=
  (isCents_of_discounted priced granted reduces).value_eq

/-- Rounding keeps the order of what is left. -/
theorem value_le_of_discounted {otherPrice otherDiscount less : Decimal}
    (otherPriced : otherPrice.IsPrice) (otherGranted : otherDiscount.IsDiscount)
    (le : reduced otherPrice otherDiscount ≤ reduced price discount)
    (reduces : discounted price discount = .ok left)
    (reducesOther : discounted otherPrice otherDiscount = .ok less) :
    less.value ≤ left.value := by
  rw [value_of_discounted priced granted reduces,
    value_of_discounted otherPriced otherGranted reducesOther]
  exact div_le_div_of_nonneg_right (by exact_mod_cast roundedCents_mono le) (by norm_num)

theorem discounted_within (reduces : discounted price discount = .ok left) :
    0 ≤ left.value ∧ left.value ≤ price.value := by
  have least := roundedCents_mono (reduced_nonneg priced granted)
  have most := roundedCents_mono (reduced_le priced granted)
  rw [roundedCents_of_nonneg le_rfl, nearestCents_zero] at least
  rw [value_of_discounted priced granted reduces, ← roundedCents_value priced.places]
  exact ⟨div_nonneg (by exact_mod_cast least) (by norm_num),
    div_le_div_of_nonneg_right (by exact_mod_cast most) (by norm_num)⟩

theorem discounted_of_none (none : discount.value = 0) :
    ∃ left, discounted price discount = .ok left ∧ left.value = price.value ∧
      ∀ cents, price.IsCents cents → left = price := by
  have reduces := discounted_eq priced granted
  have value := value_of_discounted priced granted reduces
  rw [reduced_of_none none] at reduces value
  refine ⟨_, reduces, value.trans (roundedCents_value priced.places), fun written same => ?_⟩
  rw [natAbs_roundedCents, abs_of_nonneg priced.least]
  obtain ⟨negative, coefficient, rfl, -⟩ := same
  have itself : nearestCents (magnitude coefficient (-2)) = coefficient := by
    rw [← toHundredths_eq]
    exact Nat.mul_one coefficient
  rw [value_of_unsigned (unsigned_of_value_nonneg priced.least), itself]
  rfl

theorem discounted_of_all (all : discount.value = 100) :
    discounted price discount = .ok (.finite price.isNegative 0 (-2)) := by
  rw [discounted_eq priced granted, reduced_of_all all, natAbs_roundedCents, abs_zero,
    nearestCents_zero]

end Money

/-- A discount is taken off a price exactly, but for one rounding at the end. -/
structure Money.DiscountsExactly (price discount : Decimal) : Prop where
  /-- The division, the difference and the product are exact, and the
  product is what is rounded. -/
  lossless : ∃ share rest product, IsLossless price discount share rest product ∧
    discounted price discount = round product
  /-- The result is the number of cents nearest to what is left, a half going up. -/
  nearest : ∃ left cents, discounted price discount = .ok left ∧ left.IsCents cents ∧
    IsNearestCents (price.value * (100 - discount.value) / 100) cents
  /-- It lies between nothing and the price. -/
  within : ∀ left, discounted price discount = .ok left →
    0 ≤ left.value ∧ left.value ≤ price.value
  /-- Without a discount it is the price, to the last digit if that is written with two places. -/
  without : discount.value = 0 → ∃ left, discounted price discount = .ok left ∧
    left.value = price.value ∧ ∀ cents, price.IsCents cents → left = price
  /-- All off leaves nothing, written with two places. -/
  allOff : discount.value = 100 →
    discounted price discount = .ok (.finite price.isNegative 0 (-2))
  /-- A greater price is not reduced to less. -/
  monotone : ∀ other left more, other.IsPrice → price.value ≤ other.value →
    discounted price discount = .ok left → discounted other discount = .ok more →
      left.value ≤ more.value
  /-- A greater discount does not leave more. -/
  antitone : ∀ other left less, other.IsDiscount → discount.value ≤ other.value →
    discounted price discount = .ok left → discounted price other = .ok less →
      less.value ≤ left.value

/-- Prices are reduced exactly by discounts, however price and discount are written. -/
theorem Money.discounts_exactly {price discount : Decimal} (priced : price.IsPrice)
    (granted : discount.IsDiscount) : DiscountsExactly price discount where
  lossless := by
    obtain ⟨share, rest, product, lossless, -⟩ := exists_isLossless priced granted
    exact ⟨share, rest, product, lossless, lossless.discounted_eq⟩
  nearest := by
    have reduces := discounted_eq priced granted
    exact ⟨_, _, reduces, isCents_of_discounted priced granted reduces,
      isNearestCents_roundedCents _⟩
  within _ := discounted_within priced granted
  without := discounted_of_none priced granted
  allOff := discounted_of_all priced granted
  monotone _ _ _ otherPriced le reduces reducesOther :=
    value_le_of_discounted otherPriced granted priced granted (reduced_mono granted le)
      reducesOther reduces
  antitone _ _ _ otherGranted le :=
    value_le_of_discounted priced granted priced otherGranted (reduced_antitone priced le)

/-- Half off a cent is half a cent, which is rounded up; columns hold both numbers. -/
theorem Money.discounts_exactly_by_half :
    (ofCents 1).IsPrice ∧ (ofCents 5000).IsDiscount ∧
      DiscountsExactly (ofCents 1) (ofCents 5000) ∧
      discounted (ofCents 1) (ofCents 5000) = .ok (ofCents 1) := by
  have least : 0 ≤ (ofCents 1).value := by
    rw [(isCents_ofCents 1).value_eq]
    norm_num
  have priced : (ofCents 1).IsPrice := FitsColumn.isPrice ⟨1, by decide, rfl⟩ least
  have granted : (ofCents 5000).IsDiscount := isDiscount_ofCents (by decide) (by decide)
  exact ⟨priced, granted, discounts_exactly priced granted, by decide⟩

end Tuition
