/-
# Arithmetic on cents is exact

A decimal with two places is a whole number of cents. Rounding leaves it, a whole number of it
is exact or is refused, and a sum is exact as long as no partial sum needs more digits than
there are. A column keeps it exactly where it has at most twelve digits, and what a column keeps
with at most twelve digits was a whole number of cents; so a row whose amounts fit their columns
has them without any loss.
-/

import Tuition.Proofs.InvoiceContents
import Tuition.Proofs.Totals
import Mathlib.Algebra.Order.Ring.Int

namespace Tuition

namespace Decimal

/-- A decimal with two places that comes to a number of cents; zero may have either sign. -/
def IsCents (amount : Decimal) (cents : Int) : Prop :=
  ∃ negative coefficient, amount = .finite negative coefficient (-2) ∧
    signed negative coefficient = cents

/-- An amount that a column of twelve digits, two of them after the point, holds as it is. -/
def FitsColumn (amount : Decimal) : Prop :=
  ∃ cents : Int, cents.natAbs < 10 ^ 12 ∧ amount = .ofCents cents

/-- The number has a sign and a number of hundredths, with no digit behind them. -/
def HasHundredths (amount : Decimal) (negative : Bool) (hundredths : Nat) : Prop :=
  ∃ coefficient exponent, amount = .finite negative coefficient exponent ∧ -2 ≤ exponent ∧
    coefficient * 10 ^ (exponent + 2).toNat = hundredths

/-- The same number of hundredths, or both too many for the precision. -/
def AsPrecise (first second : Nat) : Prop :=
  first = second ∨ 10 ^ 28 ≤ first ∧ 10 ^ 28 ≤ second

/-- A result stands for an exact number of cents: it is that number, or both are too large. -/
def StandsFor (result : Decimal) (negative : Bool) (cents : Nat) : Prop :=
  ∃ hundredths, result.HasHundredths negative hundredths ∧ AsPrecise hundredths cents

/-! ## Digits -/

theorem digitCount_le_iff {n k : Nat} (positive : 0 < k) : digitCount n ≤ k ↔ n < 10 ^ k :=
  Nat.length_toDigits_le_iff (by decide) positive

theorem digitCount_pos (n : Nat) : 0 < digitCount n :=
  Nat.length_toDigits_pos

theorem le_digitCount_iff {n k : Nat} (positive : 0 < k) : k < digitCount n ↔ 10 ^ k ≤ n := by
  rw [← Nat.not_le, digitCount_le_iff positive, Nat.not_lt]

theorem pow_digitCount_le {coefficient : Nat} (some : coefficient ≠ 0) :
    10 ^ (digitCount coefficient - 1) ≤ coefficient := by
  rcases Nat.eq_zero_or_pos (digitCount coefficient - 1) with one | more
  · rw [one]
    exact Nat.pos_of_ne_zero some
  · exact (le_digitCount_iff more).mp (by omega)

theorem natAbs_signed (negative : Bool) (coefficient : Nat) :
    (signed negative coefficient).natAbs = coefficient := by
  cases negative <;> simp [signed]

theorem signed_ofInt (n : Int) : signed (n < 0) n.natAbs = n := by
  by_cases below : n < 0
  · simp only [signed, below, decide_true, if_true]
    omega
  · simp only [signed, below, decide_false, Bool.false_eq_true, if_false]
    omega

theorem signed_mul (first second : Bool) (m n : Nat) :
    signed (first != second) (m * n) = signed first m * signed second n := by
  cases first <;> cases second <;> simp [signed]

theorem isCents_ofCents (cents : Int) : (ofCents cents).IsCents cents :=
  ⟨_, _, rfl, signed_ofInt cents⟩

theorem IsCents.unique {amount : Decimal} {m n : Int} (one : amount.IsCents m)
    (other : amount.IsCents n) : m = n := by
  obtain ⟨_, _, rfl, rfl⟩ := one
  obtain ⟨_, _, same, rfl⟩ := other
  cases same
  rfl

/-! ## Rounding -/

/-- What is rounded to two places is a whole number of cents within the precision. -/
theorem isCents_of_quantize {amount rounded : Decimal} (rounds : amount.quantize = .ok rounded)
    (number : rounded.IsNumber) :
    ∃ cents : Int, rounded.IsCents cents ∧ cents.natAbs < 10 ^ 28 := by
  cases amount with
  | infinite => cases rounds
  | nan negative signaling payload =>
      cases signaling with
      | true => cases rounds
      | false =>
          cases rounds
          exact number.elim
  | finite negative coefficient exponent =>
      simp only [quantize] at rounds
      split at rounds
      · cases rounds
        exact ⟨_, ⟨negative, 0, rfl, rfl⟩, by simp [natAbs_signed]⟩
      split at rounds
      · cases rounds
      split at rounds
      · cases rounds
      · next wide =>
          cases rounds
          refine ⟨_, ⟨negative, _, rfl, rfl⟩, ?_⟩
          rw [natAbs_signed]
          exact (digitCount_le_iff (by decide)).mp (Nat.le_of_not_lt wide)

/-- A number that was rounded to cents is within the precision. -/
theorem IsCents.bound_of_quantize {amount rounded : Decimal} {cents : Int}
    (exact : rounded.IsCents cents) (rounds : amount.quantize = .ok rounded) :
    cents.natAbs < 10 ^ 28 := by
  have number : rounded.IsNumber := by
    obtain ⟨_, _, rfl, -⟩ := exact
    trivial
  obtain ⟨other, same, bound⟩ := isCents_of_quantize rounds number
  rwa [exact.unique same]

/-- Rounding leaves a whole number of cents within the precision as it is. -/
theorem IsCents.quantize_eq {amount : Decimal} {cents : Int} (exact : amount.IsCents cents)
    (bound : cents.natAbs < 10 ^ 28) : amount.quantize = .ok amount := by
  obtain ⟨negative, coefficient, rfl, rfl⟩ := exact
  rw [natAbs_signed] at bound
  have digits : digitCount coefficient ≤ 28 := (digitCount_le_iff (by decide)).mpr bound
  by_cases zero : coefficient = 0
  · simp [quantize, zero]
  · have hundredths : toHundredths coefficient (-2) = coefficient := by
      simp [toHundredths]
    simp only [quantize, zero, if_false, hundredths, precision]
    rw [if_neg (by omega), if_neg (by omega)]

/-! ## Fitting into the precision -/

/-- An exact result within the precision is left as it is. -/
theorem finalize_cents (negative : Bool) {coefficient : Nat} (bound : coefficient < 10 ^ 28) :
    finalize negative coefficient (-2) = .ok (.finite negative coefficient (-2)) := by
  have digits : digitCount coefficient ≤ 28 := (digitCount_le_iff (by decide)).mpr bound
  have representable : ¬fullExponent < digitCount coefficient + (-2) - precision := by
    simp only [fullExponent, precision]
    omega
  have exact : ¬(-2 < max leastExponent (digitCount coefficient + (-2) - precision)) := by
    simp only [leastExponent, precision]
    omega
  by_cases zero : coefficient = 0
  · simp [finalize, zero, leastExponent, greatestPlace]
  · simp only [finalize, zero, if_false, representable, exact]

/-- Dropping digits leaves no fewer than are kept. -/
theorem lt_digitCount_dropToEven {coefficient dropped kept : Nat} (positive : 0 < kept)
    (digits : kept + dropped < digitCount coefficient) :
    kept < digitCount (dropToEven coefficient dropped) := by
  have long : 10 ^ kept * 10 ^ dropped ≤ coefficient := by
    rw [← pow_add]
    exact (le_digitCount_iff (by omega)).mp digits
  have quotient : 10 ^ kept ≤ coefficient / 10 ^ dropped :=
    (Nat.le_div_iff_mul_le (Nat.pow_pos (by decide))).mpr long
  have unit : tenTo dropped = 10 ^ dropped := rfl
  rw [le_digitCount_iff positive]
  simp only [dropToEven, unit]
  rw [if_neg (by omega)]
  split
  · exact quotient.trans (Nat.le_succ _)
  · exact quotient

/-- How many hundredths there are at least is told from the place of the first digit. -/
theorem pow_le_hundredths {coefficient digits bound : Nat} {exponent : Int}
    (place : -2 ≤ exponent) (long : 10 ^ digits ≤ coefficient)
    (high : bound ≤ digits + (exponent + 2)) :
    10 ^ bound ≤ coefficient * 10 ^ (exponent + 2).toNat :=
  calc 10 ^ bound ≤ 10 ^ (digits + (exponent + 2).toNat) :=
        Nat.pow_le_pow_right (by decide) (by omega)
    _ = 10 ^ digits * 10 ^ (exponent + 2).toNat := pow_add ..
    _ ≤ coefficient * 10 ^ (exponent + 2).toNat := Nat.mul_le_mul_right _ long

/-- Moving the last digit leaves the hundredths. -/
theorem hundredths_shift (coefficient : Nat) {exponent lower : Int} (place : -2 ≤ lower)
    (le : lower ≤ exponent) :
    coefficient * 10 ^ (exponent - lower).toNat * 10 ^ (lower + 2).toNat =
      coefficient * 10 ^ (exponent + 2).toNat := by
  rw [Nat.mul_assoc, ← pow_add]
  congr 2
  omega

/-- How an exact result is fitted into the precision: nothing stays nothing, a result of few
digits stays as it is, and of any other digits are dropped, which may carry. -/
theorem finalize_cases {negative : Bool} {coefficient : Nat} {exponent : Int} {result : Decimal}
    (finalized : finalize negative coefficient exponent = .ok result) :
    (coefficient = 0 ∧
      result = .finite negative 0 (max leastExponent (min exponent greatestPlace))) ∨
    (coefficient ≠ 0 ∧ result = .finite negative coefficient exponent) ∨
    ∃ lowest, lowest = max leastExponent (digitCount coefficient + exponent - precision) ∧
      coefficient ≠ 0 ∧ exponent < lowest ∧ ∃ digits carry : Nat,
        result = .finite negative digits (lowest + carry) ∧
          digits * 10 ^ carry = dropToEven coefficient (lowest - exponent).toNat := by
  unfold finalize at finalized
  split at finalized
  · next none =>
      cases finalized
      exact .inl ⟨none, rfl⟩
  · next some =>
      dsimp only at finalized
      split at finalized
      · cases finalized
      split at finalized
      · next dropped =>
          refine .inr (.inr ⟨_, rfl, some, dropped, ?_⟩)
          split at finalized
          · next full =>
              split at finalized
              · cases finalized
              · cases finalized
                exact ⟨tenTo (precision - 1), 1, rfl, full.symm⟩
          · cases finalized
            exact ⟨_, 0, by rw [Int.natCast_zero, Int.add_zero], Nat.mul_one _⟩
      · cases finalized
        exact .inr (.inl ⟨some, rfl⟩)

/-- Fitting an exact result into the precision keeps its hundredths, or keeps them too many. -/
theorem standsFor_of_finalize {negative : Bool} {coefficient : Nat} {exponent : Int}
    {result : Decimal} (place : -2 ≤ exponent)
    (finalized : finalize negative coefficient exponent = .ok result) :
    result.StandsFor negative (coefficient * 10 ^ (exponent + 2).toNat) := by
  rcases finalize_cases finalized with ⟨none, rfl⟩ | ⟨-, rfl⟩ |
    ⟨lowest, least, some, dropped, digits, carry, rfl, rounded⟩
  · have lower : -2 ≤ max leastExponent (min exponent greatestPlace) :=
      le_max_of_le_right (le_min place (by decide))
    exact ⟨0, ⟨0, _, rfl, lower, Nat.zero_mul _⟩, .inl (by rw [none, Nat.zero_mul])⟩
  · exact ⟨_, ⟨_, _, rfl, place, rfl⟩, .inl rfl⟩
  · -- digits are dropped only from a number that has more than 28, and 28 are kept
    have kept : lowest = digitCount coefficient + exponent - 28 := by
      simp only [leastExponent, precision] at least
      omega
    have long : 10 ^ 28 ≤ coefficient := (le_digitCount_iff (by decide)).mp (by omega)
    have longRounded : 10 ^ 27 ≤ dropToEven coefficient (lowest - exponent).toNat :=
      (le_digitCount_iff (by decide)).mp (lt_digitCount_dropToEven (by decide) (by omega))
    have large := pow_le_hundredths place long (by omega : ((28 : Nat) : Int) ≤ _)
    have largeRounded := pow_le_hundredths (by omega : -2 ≤ lowest) longRounded
      (by omega : ((28 : Nat) : Int) ≤ _)
    have carried := hundredths_shift digits (by omega : -2 ≤ lowest)
      (by omega : lowest ≤ lowest + carry)
    rw [add_sub_cancel_left, Int.toNat_natCast, rounded] at carried
    exact ⟨_, ⟨digits, _, rfl, by omega, carried.symm⟩, .inr ⟨largeRounded, large⟩⟩

/-- What stands for a number of cents and can be rounded is that number. -/
theorem StandsFor.isCents_of_quantize {result rounded : Decimal} {negative : Bool}
    {cents : Nat} (stands : result.StandsFor negative cents)
    (rounds : result.quantize = .ok rounded) :
    rounded.IsCents (signed negative cents) ∧ cents < 10 ^ 28 := by
  obtain ⟨hundredths, ⟨coefficient, exponent, rfl, place, same⟩, alike⟩ := stands
  have few : rounded = .finite negative hundredths (-2) ∧ hundredths < 10 ^ 28 := by
    have whole : toHundredths coefficient exponent = hundredths := (if_pos place).trans same
    simp only [quantize, whole] at rounds
    split at rounds
    · next none =>
        obtain rfl : hundredths = 0 := by rw [← same, none, Nat.zero_mul]
        cases rounds
        exact ⟨rfl, by decide⟩
    split at rounds
    · cases rounds
    split at rounds
    · cases rounds
    · next digits =>
        cases rounds
        exact ⟨rfl, (digitCount_le_iff (by decide)).mp (Nat.le_of_not_lt digits)⟩
  obtain ⟨rfl, bound⟩ := few
  obtain rfl : hundredths = cents := alike.resolve_right fun both => by omega
  exact ⟨⟨negative, hundredths, rfl, rfl⟩, bound⟩

/-- An exact number of cents that was fitted into the precision and can still be rounded has lost
nothing. -/
theorem isCents_of_finalize {negative : Bool} {coefficient : Nat} {result rounded : Decimal}
    (finalized : finalize negative coefficient (-2) = .ok result)
    (rounds : result.quantize = .ok rounded) :
    rounded.IsCents (signed negative coefficient) ∧ coefficient < 10 ^ 28 := by
  have stands := standsFor_of_finalize (Int.le_refl (-2)) finalized
  have level : coefficient * 10 ^ ((-2 : Int) + 2).toNat = coefficient := Nat.mul_one coefficient
  rw [level] at stands
  exact stands.isCents_of_quantize rounds

/-! ## Products -/

/-- A number of times a whole number of cents is exact if it fits into the precision. -/
theorem IsCents.mul {quantity cents : Int} {price : Decimal} (exact : price.IsCents cents)
    (bound : (quantity * cents).natAbs < 10 ^ 28) :
    ∃ product, (ofInt quantity).mul price = .ok product ∧ product.IsCents (quantity * cents) := by
  obtain ⟨negative, coefficient, rfl, rfl⟩ := exact
  have few : quantity.natAbs * coefficient < 10 ^ 28 := by
    rwa [Int.natAbs_mul, natAbs_signed] at bound
  refine ⟨_, finalize_cents ((quantity < 0 : Bool) != negative) few, _, _, rfl, ?_⟩
  rw [signed_mul, signed_ofInt]

/-- A number of times a whole number of cents, if it can be rounded, is exact. -/
theorem isCents_of_mul {quantity cents : Int} {price product rounded : Decimal}
    (exact : price.IsCents cents) (multiplied : (ofInt quantity).mul price = .ok product)
    (rounds : product.quantize = .ok rounded) : rounded.IsCents (quantity * cents) := by
  obtain ⟨negative, coefficient, rfl, rfl⟩ := exact
  have finalized : finalize ((quantity < 0 : Bool) != negative)
      (quantity.natAbs * coefficient) (-2) =
      .ok product := multiplied
  have value := (isCents_of_finalize finalized rounds).1
  rwa [signed_mul, signed_ofInt] at value

/-! ## Sums -/

/-- Nothing and a number of cents come to that number. -/
theorem add_of_nothing (sign : Bool) {exponent : Int} (whole : -2 ≤ exponent) {amount : Decimal}
    {cents : Int} (exact : amount.IsCents cents) (bound : cents.natAbs < 10 ^ 28) :
    ∃ sum, (Decimal.finite sign 0 exponent).add amount = .ok sum ∧ sum.IsCents cents := by
  obtain ⟨negative, coefficient, rfl, rfl⟩ := exact
  rw [natAbs_signed] at bound
  have adds : Decimal.add (.finite sign 0 exponent) (.finite negative coefficient (-2)) =
      addFinite sign 0 exponent negative coefficient (-2) := rfl
  have least : min exponent (-2) = -2 := min_eq_right whole
  rw [adds]
  by_cases none : coefficient = 0
  · refine ⟨.finite (sign && negative) 0 (-2), ?_, _, _, rfl, ?_⟩
    · rw [addFinite, if_pos ⟨rfl, none⟩, least]
      exact finalize_cents _ (by decide)
    · cases sign <;> cases negative <;> simp [none, signed]
  · have lowest : max (-2) ((-2 : Int) - precision - 1) = -2 := by decide
    have same : coefficient * tenTo ((-2 : Int) - -2).toNat = coefficient := Nat.mul_one _
    refine ⟨_, ?_, _, _, rfl, rfl⟩
    simp only [addFinite, none, and_false, if_false, if_true, least, lowest, same]
    exact finalize_cents _ bound

/-- The sum of two numbers of cents is exact if it fits into the precision. -/
theorem addNonzero_cents {n₁ n₂ : Bool} {c₁ c₂ : Nat} (bound : c₁ < 10 ^ 28)
    (boundSum : (signed n₁ c₁ + signed n₂ c₂).natAbs < 10 ^ 28) :
    ∃ sum, addNonzero n₁ c₁ (-2) n₂ c₂ (-2) = .ok sum ∧
      sum.IsCents (signed n₁ c₁ + signed n₂ c₂) := by
  have digits : digitCount c₁ ≤ 28 := (digitCount_le_iff (by decide)).mpr bound
  have positive := digitCount_pos c₂
  have reaches : ¬(digitCount c₂ + (-2) - 1 <
      (-2 : Int) + min (-1) ((digitCount c₁ : Int) - precision - 2)) := by
    simp only [precision]
    omega
  have same : c₁ * tenTo ((-2 : Int) - -2).toNat = c₁ := Nat.mul_one _
  have level : ¬((-2 : Int) < -2) := by decide
  simp only [addNonzero, level, if_false, reaches, same]
  by_cases none : signed n₁ c₁ + signed n₂ c₂ = 0
  · refine ⟨.finite false 0 (-2), ?_, _, _, rfl, ?_⟩
    · rw [if_pos none]
      exact finalize_cents _ (by decide)
    · rw [none]
      rfl
  · refine ⟨_, ?_, _, _, rfl, signed_ofInt _⟩
    rw [if_neg none]
    exact finalize_cents _ boundSum

/-- The sum of two numbers of cents is exact if it fits into the precision. -/
theorem IsCents.add {first second : Decimal} {m n : Int} (one : first.IsCents m)
    (other : second.IsCents n) (bound : m.natAbs < 10 ^ 28) (boundOther : n.natAbs < 10 ^ 28)
    (boundSum : (m + n).natAbs < 10 ^ 28) :
    ∃ sum, first.add second = .ok sum ∧ sum.IsCents (m + n) := by
  obtain ⟨n₁, c₁, rfl, rfl⟩ := one
  by_cases none₁ : c₁ = 0
  · have nothing : signed n₁ 0 = 0 := by cases n₁ <;> rfl
    rw [none₁, nothing, Int.zero_add]
    exact add_of_nothing n₁ (by decide) other boundOther
  obtain ⟨n₂, c₂, rfl, rfl⟩ := other
  rw [natAbs_signed] at bound
  have adds : Decimal.add (.finite n₁ c₁ (-2)) (.finite n₂ c₂ (-2)) =
      addFinite n₁ c₁ (-2) n₂ c₂ (-2) := rfl
  rw [adds]
  by_cases none₂ : c₂ = 0
  · have nothing : signed n₂ 0 = 0 := by cases n₂ <;> rfl
    have lowest : max (min (-2 : Int) (-2)) (-2 - precision - 1) = -2 := by decide
    have same : c₁ * tenTo ((-2 : Int) - -2).toNat = c₁ := Nat.mul_one _
    rw [none₂, nothing, Int.add_zero]
    refine ⟨_, ?_, _, _, rfl, rfl⟩
    simp only [addFinite, none₁, false_and, if_false, if_true, lowest, same]
    exact finalize_cents _ bound
  · simp only [addFinite, none₁, none₂, false_and, if_false]
    exact addNonzero_cents bound boundSum

/-- The size of a list of amounts of cents. -/
def centsSize (cents : List Int) : Nat :=
  (cents.map Int.natAbs).sum

theorem foldlM_add_cents {terms : List Decimal} {cents : List Int}
    (exact : List.Forall₂ IsCents terms cents) {running : Decimal} {value : Int}
    (started : running.IsCents value) (bound : value.natAbs + centsSize cents < 10 ^ 28) :
    ∃ sum, terms.foldlM Decimal.add running = .ok sum ∧ sum.IsCents (value + cents.sum) := by
  induction exact generalizing running value with
  | nil => exact ⟨running, rfl, by simpa using started⟩
  | @cons term cent terms cents first rest ih =>
      simp only [centsSize, List.map_cons, List.sum_cons] at bound
      obtain ⟨sum, added, next⟩ := started.add first (by omega) (by omega) (by omega)
      obtain ⟨total, folded, reached⟩ := ih next (by simp only [centsSize]; omega)
      refine ⟨total, ?_, ?_⟩
      · rw [List.foldlM_cons]
        exact bind_eq_ok_iff.mpr ⟨sum, added, folded⟩
      · rwa [List.sum_cons, ← Int.add_assoc]

theorem natAbs_sum_le (cents : List Int) : cents.sum.natAbs ≤ centsSize cents := by
  induction cents with
  | nil => simp [centsSize]
  | cons cent cents ih =>
      simp only [centsSize, List.sum_cons, List.map_cons] at ih ⊢
      omega

/-- A sum of cents is exact as long as their size stays within the precision. -/
theorem total_cents {terms : List Decimal} {cents : List Int}
    (exact : List.Forall₂ IsCents terms cents) (bound : centsSize cents < 10 ^ 28) :
    ∃ total, Money.total terms = .ok total ∧ total.IsCents cents.sum := by
  cases exact with
  | nil => exact ⟨.finite false 0 (-2), rfl, _, _, rfl, rfl⟩
  | @cons term cent terms cents first rest =>
      simp only [centsSize, List.map_cons, List.sum_cons] at bound
      have zero : (-2 : Int) ≤ 0 := by decide
      obtain ⟨started, adds, begun⟩ := add_of_nothing false zero first (by omega)
      obtain ⟨sum, folded, reached⟩ :=
        foldlM_add_cents rest begun (by simp only [centsSize]; omega)
      rw [List.sum_cons]
      have small : (cent + cents.sum).natAbs < 10 ^ 28 := by
        have := natAbs_sum_le cents
        simp only [centsSize] at this
        omega
      refine ⟨sum, bind_eq_ok_iff.mpr ⟨sum, ?_, reached.quantize_eq small⟩, reached⟩
      rw [Decimal.sum, List.foldlM_cons]
      exact bind_eq_ok_iff.mpr ⟨started, adds, folded⟩

/-! ## Columns -/

/-- A column of amounts keeps numbers only. -/
theorem isNumber_of_keepAmount {column : String} {amount kept : Decimal}
    (keeps : Store.keepAmount column amount = .ok kept) : amount.IsNumber := by
  cases amount with
  | finite => trivial
  | infinite => trivial
  | nan negative signaling payload => cases signaling <;> cases keeps

/-- Below `10 ^ 15` cents are kept exactly. -/
theorem IsCents.keepAmount {amount : Decimal} {cents : Int} (exact : amount.IsCents cents)
    (bound : cents.natAbs < 10 ^ 15) (column : String) :
    Store.keepAmount column amount = .ok (.ofCents cents) := by
  obtain ⟨negative, coefficient, rfl, rfl⟩ := exact
  rw [natAbs_signed] at bound
  have digits : digitCount coefficient ≤ 15 := (digitCount_le_iff (by decide)).mpr bound
  have found : Amount.cents? (.finite negative coefficient (-2)) =
      some (signed negative coefficient) := by
    by_cases zero : coefficient = 0
    · cases negative <;> simp [Amount.cents?, zero, signed]
    · have short : ¬(digitCount coefficient + (-2 : Int) + 2 > 15) := by omega
      simp only [Amount.cents?, zero, if_false, short, le_refl, if_true]
      congr 2
      exact Nat.mul_one _
  simp only [Store.keepAmount, Amount.keep, found]
  rfl

theorem ofCents_inj {m n : Int} (same : ofCents m = ofCents n) : m = n := by
  simp only [ofCents, Decimal.finite.injEq, decide_eq_decide] at same
  omega

end Decimal

namespace Binary64

theorem le_divideToEven (dividend divisor : Nat) :
    dividend / divisor ≤ divideToEven dividend divisor := by
  unfold divideToEven
  dsimp only
  split
  · exact Nat.le_succ _
  · exact Nat.le_refl _

/-- A number that is nearest to a fraction with hundredths, and that is a multiple of a quarter
but not of a half, is not far below the fraction. -/
theorem le_mantissa_of_quarters {negative sign : Bool} {num mantissa : Nat}
    (large : 10 ^ 15 ≤ num) (nearest : ofFraction negative num 100 = .finite sign mantissa (-2)) :
    10 ^ 13 ≤ mantissa := by
  have some : num ≠ 0 := by omega
  simp only [ofFraction, some, if_false] at nearest
  split at nearest
  · split at nearest
    · cases nearest
    · obtain ⟨-, rfl, -⟩ := Binary64.finite.inj nearest
      decide
  · split at nearest
    · cases nearest
    · obtain ⟨-, rfl, quarters⟩ := Binary64.finite.inj nearest
      rw [quarters]
      have least :=
        le_divideToEven (num * twoTo (-(-2 : Int)).toNat) (100 * twoTo (-2 : Int).toNat)
      have four : twoTo (-(-2 : Int)).toNat = 4 := rfl
      have one : twoTo (-2 : Int).toNat = 1 := rfl
      rw [four, one] at least
      simp only [scaledToEven, four, one]
      omega

end Binary64

namespace Decimal

/-- A column of binary numbers holds no amount from `10 ^ 15` cents on as one of twelve digits. -/
theorem not_fitsColumn_ofBinary {negative : Bool} {coefficient : Nat}
    (large : 10 ^ 15 ≤ coefficient) :
    ¬(Amount.ofBinary (Binary64.ofDecimal negative coefficient (-2))).FitsColumn := by
  rintro ⟨cents, bound, same⟩
  have some : coefficient ≠ 0 := by omega
  have fraction : coefficient * tenTo (-2 : Int).toNat = coefficient := Nat.mul_one _
  have hundred : tenTo (-(-2 : Int)).toNat = 100 := rfl
  have positive : 0 < (Nat.toDigits 10 coefficient).length := Nat.length_toDigits_pos
  unfold Binary64.ofDecimal at same
  dsimp only at same
  rw [if_neg (by simp only [some, decide_false, Bool.false_or, decide_eq_true_eq]; omega)] at same
  split at same
  · cases same
  rw [fraction, hundred] at same
  cases nearest : Binary64.ofFraction negative coefficient 100 with
  | infinite sign =>
      rw [nearest] at same
      cases same
  | nan =>
      rw [nearest] at same
      cases same
  | finite sign mantissa exponent =>
      rw [nearest] at same
      simp only [Amount.ofBinary, ofCents] at same
      split at same
      · exact absurd (Decimal.finite.inj same).2.2 (by decide)
      · obtain ⟨-, product, rfl⟩ := Decimal.finite.inj same
        have least := Binary64.le_mantissa_of_quarters large nearest
        have five : Nat.pow 5 (-(-2 : Int)).toNat = 25 := rfl
        rw [five] at product
        omega

/-- What a column keeps with at most twelve digits was a whole number of cents. -/
theorem IsCents.of_keepAmount {amount kept : Decimal} {cents : Int} (exact : amount.IsCents cents)
    {column : String} (keeps : Store.keepAmount column amount = .ok kept)
    (fits : kept.FitsColumn) : kept = .ofCents cents ∧ cents.natAbs < 10 ^ 12 := by
  by_cases small : cents.natAbs < 10 ^ 15
  · rw [exact.keepAmount small column] at keeps
    cases keeps
    obtain ⟨other, bound, same⟩ := fits
    rw [ofCents_inj same]
    exact ⟨rfl, bound⟩
  · -- so many cents are kept as a binary number, which the column does not hold
    exfalso
    obtain ⟨negative, coefficient, rfl, rfl⟩ := exact
    rw [natAbs_signed] at small
    have large : 10 ^ 15 ≤ coefficient := Nat.le_of_not_lt small
    have digits : 15 < digitCount coefficient := (le_digitCount_iff (by decide)).mpr large
    have found : Amount.cents? (.finite negative coefficient (-2)) = none := by
      have some : coefficient ≠ 0 := by omega
      have long : digitCount coefficient + (-2 : Int) + 2 > 15 := by omega
      simp only [Amount.cents?, some, if_false, long, if_true]
    simp only [Store.keepAmount, Amount.keep, found] at keeps
    cases keeps
    exact not_fitsColumn_ofBinary large fits

/-! ## Totals -/

theorem digitCount_mono {m n : Nat} (le : m ≤ n) : digitCount m ≤ digitCount n :=
  (digitCount_le_iff (digitCount_pos n)).mpr
    (Nat.lt_of_le_of_lt le ((digitCount_le_iff (digitCount_pos n)).mp (Nat.le_refl _)))

/-- Magnitudes with the same exponent are compared by their coefficients. -/
theorem compareMagnitudes_self (first second : Nat) (exponent : Int) :
    compareMagnitudes first exponent second exponent = Ord.compare first second := by
  have unit (c : Nat) : c * tenTo (exponent - min exponent exponent).toNat = c := by
    simp [tenTo]
  simp only [compareMagnitudes, unit]
  split
  · next fewer =>
      have below : first < second := by
        by_contra le
        have := digitCount_mono (Nat.le_of_not_lt le)
        omega
      exact (Nat.compare_eq_lt.mpr below).symm
  split
  · next more =>
      have above : second < first := by
        by_contra le
        have := digitCount_mono (Nat.le_of_not_lt le)
        omega
      exact (Nat.compare_eq_gt.mpr above).symm
  · rfl

/-- Numbers of cents are compared by their cents. -/
theorem IsCents.compare_eq {first second : Decimal} {m n : Int} (one : first.IsCents m)
    (other : second.IsCents n) : first.compare second = .ok (Ord.compare m n) := by
  obtain ⟨n₁, c₁, rfl, rfl⟩ := one
  obtain ⟨n₂, c₂, rfl, rfl⟩ := other
  show Except.ok (compareFinite n₁ c₁ (-2) n₂ c₂ (-2)) = _
  congr 1
  have ints (a b : Int) : Ord.compare a b = if a < b then .lt else if a = b then .eq else .gt :=
    rfl
  have nats (a b : Nat) : Ord.compare a b = if a < b then .lt else if a = b then .eq else .gt :=
    rfl
  simp only [compareFinite, compareMagnitudes_self, ints, nats, signed]
  cases n₁ <;> cases n₂ <;> grind

/-- Two numbers of cents that are neither before nor after each other are the same. -/
theorem IsCents.eq_of_order {first second : Decimal} {m n : Int} (one : first.IsCents m)
    (other : second.IsCents n) (same : first.order second = .eq) : m = n := by
  rw [order, one.compare_eq other] at same
  dsimp only at same
  exact Std.LawfulEqCmp.eq_of_compare same

/-- An amount covers a total if it has at least as many cents. -/
theorem IsCents.covers_eq {paid total : Decimal} {m n : Int} (one : paid.IsCents m)
    (other : total.IsCents n) : Payments.covers paid total = .ok (decide (n ≤ m)) := by
  refine bind_eq_ok_iff.mpr ⟨_, one.compare_eq other, ?_⟩
  have ints : Ord.compare m n = if m < n then .lt else if m = n then .eq else .gt := rfl
  rw [ints]
  congr 1
  grind

/-- An amount of at most twelve digits is shown as it is kept. -/
theorem FitsColumn.shown_eq {amount : Decimal} (fits : amount.FitsColumn) :
    Amount.shown amount = amount := by
  obtain ⟨cents, bound, rfl⟩ := fits
  have short : cents.natAbs < Amount.exactBound := Nat.lt_of_lt_of_le bound (by decide)
  simp [Amount.shown, Amount.isExact, ofCents, short]

/-- A total that is kept with at most twelve digits for a number of cents is that number. -/
theorem IsCents.of_keepsTotal {asked kept : Decimal} {cents : Int} (exact : asked.IsCents cents)
    (keeps : Store.KeepsTotal kept asked) (fits : kept.FitsColumn) :
    kept = .ofCents cents ∧ cents.natAbs < 10 ^ 12 := by
  rcases keeps with same | keeps
  · rw [fits.shown_eq] at same
    obtain ⟨other, bound, rfl⟩ := fits
    rw [← (isCents_ofCents other).eq_of_order exact same]
    exact ⟨rfl, bound⟩
  · exact exact.of_keepAmount keeps fits

end Decimal
end Tuition
