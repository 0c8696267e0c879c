/-
# The nearest number of cents

An amount is rounded to the number of cents that is nearest to it, and of two that are equally
near to the one that is further from nothing. `IsNearestCents` says so of a rational and a
whole number, without any digits, and leaves a single choice. Every finite decimal is rounded
to that choice, whatever its sign, its digits and its exponent are, and keeps its sign; it is
refused exactly if the choice needs more digits than the precision. Order, opposite and
distance follow from the choice alone.
-/

import Tuition.Proofs.Discounts

namespace Tuition

namespace Decimal

/-- No number of cents is nearer to an amount, and any other that is as near
is closer to nothing. -/
structure IsNearestCents (amount : ℚ) (cents : ℤ) : Prop where
  nearest : ∀ other : ℤ, |amount - cents / 100| ≤ |amount - other / 100|
  away : ∀ other : ℤ, other ≠ cents → |amount - other / 100| = |amount - cents / 100| →
    |other| < |cents|

/-- Whether a decimal has a minus sign, which zeros can have too. -/
def isNegative : Decimal → Bool
  | .finite negative _ _ => negative
  | .infinite negative => negative
  | .nan negative _ _ => negative

/-! ## The choice -/

theorem IsNearestCents.unique {amount : ℚ} {first second : ℤ} (one : IsNearestCents amount first)
    (other : IsNearestCents amount second) : first = second := by
  by_contra differ
  have near := le_antisymm (one.nearest second) (other.nearest first)
  exact lt_asymm (one.away second (Ne.symm differ) near.symm) (other.away first differ near)

theorem IsNearestCents.neg {amount : ℚ} {cents : ℤ} (near : IsNearestCents amount cents) :
    IsNearestCents (-amount) (-cents) := by
  have mirror (other : ℤ) : |-amount - other / 100| = |amount - (-other : ℤ) / 100| := by
    rw [← abs_neg]
    congr 1
    push_cast
    ring
  constructor
  · intro other
    rw [mirror, mirror, neg_neg]
    exact near.nearest _
  · intro other differ same
    rw [mirror, mirror, neg_neg] at same
    rw [← abs_neg, abs_neg cents]
    exact near.away _ (fun opposite => differ (by omega)) same

/-- The number of cents of an amount that is not below nothing is at most half a cent above it,
and less than half a cent below it. -/
theorem bounds_nearestCents {amount : ℚ} (least : 0 ≤ amount) :
    (nearestCents amount / 100 : ℚ) - 1 / 200 ≤ amount ∧
      amount < (nearestCents amount / 100 : ℚ) + 1 / 200 := by
  have below : (nearestCents amount : ℚ) ≤ 100 * amount + 1 / 2 := Nat.floor_le (by linarith)
  have above : 100 * amount + 1 / 2 < (nearestCents amount : ℚ) + 1 := Nat.lt_floor_add_one _
  constructor <;> linarith

theorem isNearestCents_nearestCents {amount : ℚ} (least : 0 ≤ amount) :
    IsNearestCents amount (nearestCents amount) := by
  obtain ⟨below, above⟩ := bounds_nearestCents least
  generalize nearestCents amount = cents at below above
  have half : |amount - ((cents : ℤ) : ℚ) / 100| ≤ 1 / 200 := by
    rw [Int.cast_natCast, abs_le]
    constructor <;> linarith
  have apart {low high : ℤ} (less : low < high) : (low : ℚ) / 100 + 1 / 100 ≤ high / 100 := by
    have step : ((low + 1 : ℤ) : ℚ) ≤ high := by exact_mod_cast less
    push_cast at step
    linarith
  constructor
  · intro other
    rcases lt_trichotomy other cents with less | rfl | more
    · have := apart less
      rw [Int.cast_natCast] at this
      exact half.trans (le_abs.mpr (.inl (by linarith)))
    · exact le_rfl
    · have := apart more
      rw [Int.cast_natCast] at this
      exact half.trans (le_abs.mpr (.inr (by linarith)))
  · intro other differ same
    rcases lt_or_gt_of_ne differ with less | more
    · -- half a cent below an amount that is not below nothing
      -- there is no negative number of cents
      have close := (abs_le.mp (same.trans_le half)).2
      have notBelow : -1 < other := by
        have : (-1 : ℚ) < other := by linarith
        exact_mod_cast this
      rwa [abs_of_nonneg (by omega : 0 ≤ other), Nat.abs_cast]
    · have := apart more
      rw [Int.cast_natCast] at this
      have far : 1 / 200 < |amount - other / 100| := lt_abs.mpr (.inr (by linarith))
      exact absurd (same ▸ far) (not_lt.mpr half)

theorem isNearestCents_roundedCents (amount : ℚ) :
    IsNearestCents amount (roundedCents amount) := by
  unfold roundedCents
  split
  · next below => simpa using (isNearestCents_nearestCents (neg_nonneg.mpr (le_of_lt below))).neg
  · next above => exact isNearestCents_nearestCents (not_lt.mp above)

theorem isNearestCents_iff {amount : ℚ} {cents : ℤ} :
    IsNearestCents amount cents ↔ cents = roundedCents amount :=
  ⟨fun near => near.unique (isNearestCents_roundedCents amount),
    fun same => same ▸ isNearestCents_roundedCents amount⟩

/-! ## Laws of the choice -/

theorem roundedCents_neg (amount : ℚ) : roundedCents (-amount) = -roundedCents amount :=
  (isNearestCents_iff.mp (isNearestCents_roundedCents amount).neg).symm

theorem roundedCents_of_nonneg {amount : ℚ} (least : 0 ≤ amount) :
    roundedCents amount = nearestCents amount :=
  if_neg (not_lt.mpr least)

theorem natAbs_roundedCents (amount : ℚ) :
    (roundedCents amount).natAbs = nearestCents |amount| := by
  rcases le_total 0 amount with above | below
  · rw [roundedCents_of_nonneg above, abs_of_nonneg above, Int.natAbs_natCast]
  · rw [← Int.natAbs_neg, ← roundedCents_neg, roundedCents_of_nonneg (neg_nonneg.mpr below),
      abs_of_nonpos below, Int.natAbs_natCast]

theorem nearestCents_mono {low high : ℚ} (le : low ≤ high) :
    nearestCents low ≤ nearestCents high :=
  Nat.floor_mono (by linarith)

theorem roundedCents_mono {low high : ℚ} (le : low ≤ high) :
    roundedCents low ≤ roundedCents high := by
  unfold roundedCents
  split
  · next below =>
      split
      · have := nearestCents_mono (neg_le_neg le)
        omega
      · omega
  · next above =>
      rw [if_neg (not_lt.mpr ((not_lt.mp above).trans le))]
      exact_mod_cast nearestCents_mono le

/-- The nearest number of cents is no more than half a cent away. -/
theorem abs_roundedCents_sub_le (amount : ℚ) :
    |(roundedCents amount / 100 : ℚ) - amount| ≤ 1 / 200 := by
  have unsigned {amount : ℚ} (least : 0 ≤ amount) :
      |(roundedCents amount / 100 : ℚ) - amount| ≤ 1 / 200 := by
    obtain ⟨below, above⟩ := bounds_nearestCents least
    rw [roundedCents_of_nonneg least, Int.cast_natCast, abs_le]
    constructor <;> linarith
  rcases le_total 0 amount with above | below
  · exact unsigned above
  · have mirrored := unsigned (neg_nonneg.mpr below)
    rw [roundedCents_neg, ← abs_neg] at mirrored
    push_cast at mirrored
    convert mirrored using 2
    ring

/-! ## Rounding decimals -/

theorem IsCents.value_eq {amount : Decimal} {cents : ℤ} (exact : amount.IsCents cents) :
    amount.value = cents / 100 := by
  obtain ⟨negative, coefficient, rfl, rfl⟩ := exact
  rw [value_finite, zpow_neg, div_eq_mul_inv]
  norm_num

theorem abs_value (negative : Bool) (coefficient : Nat) (exponent : Int) :
    |(finite negative coefficient exponent).value| = magnitude coefficient exponent := by
  have least := magnitude_nonneg coefficient exponent
  cases negative with
  | false => exact abs_of_nonneg least
  | true => exact (abs_neg _).trans (abs_of_nonneg least)

theorem value_flipSign (amount : Decimal) : amount.flipSign.value = -amount.value := by
  cases amount with
  | finite negative => cases negative <;> simp [flipSign, value]
  | infinite => simp [flipSign, value]
  | nan => simp [flipSign, value]

/-- A finite decimal is rounded to the nearest number of cents and keeps its sign, unless that
number has too many digits. -/
theorem round_finite {amount : Decimal} (finite : amount.isFinite) :
    Money.round amount =
      if (roundedCents amount.value).natAbs < 10 ^ 28 then
        .ok (.finite amount.isNegative (roundedCents amount.value).natAbs (-2))
      else .error .invalid := by
  cases amount with
  | infinite => cases finite
  | nan => cases finite
  | finite negative coefficient exponent =>
      rw [natAbs_roundedCents, abs_value]
      exact quantize_finite negative coefficient exponent

/-- What a decimal is rounded to has the value of the nearest number of cents. -/
theorem isCents_of_round {amount rounded : Decimal} (finite : amount.isFinite)
    (rounds : Money.round amount = .ok rounded) :
    rounded.IsCents (roundedCents amount.value) := by
  have rule := round_finite finite
  rw [rounds] at rule
  cases amount with
  | infinite => cases finite
  | nan => cases finite
  | finite negative coefficient exponent =>
      split at rule
      · next few =>
          rw [natAbs_roundedCents, abs_value] at few
          obtain ⟨other, same, cents⟩ := isCents_quantize negative few
          cases same.symm.trans rounds
          exact cents
      · cases rule

theorem natAbs_lt_iff {cents : ℤ} : cents.natAbs < 10 ^ 28 ↔ |(cents / 100 : ℚ)| < 10 ^ 26 := by
  have size : |(cents : ℚ)| = (cents.natAbs : ℚ) := by rw [Nat.cast_natAbs, Int.cast_abs]
  have bound : (10 : ℚ) ^ 26 * 100 = ((10 ^ 28 : ℕ) : ℚ) := by norm_num
  rw [abs_div, abs_of_pos (by norm_num : (0 : ℚ) < 100), div_lt_iff₀ (by norm_num), size, bound,
    Nat.cast_lt]

end Decimal

open Decimal

namespace Money

variable {amount result : Decimal} (finite : amount.isFinite)

include finite

theorem round_of_isNearestCents {cents : ℤ} (near : IsNearestCents amount.value cents) :
    round amount =
      if cents.natAbs < 10 ^ 28 then .ok (.finite amount.isNegative cents.natAbs (-2))
      else .error .invalid := by
  rw [round_finite finite, ← isNearestCents_iff.mp near]

theorem round_eq_error_iff {cents : ℤ} (near : IsNearestCents amount.value cents) :
    round amount = .error .invalid ↔ 10 ^ 26 ≤ |(cents / 100 : ℚ)| := by
  rw [round_of_isNearestCents finite near, ← not_lt, ← natAbs_lt_iff]
  split <;> simp_all

theorem value_of_round (rounds : round amount = .ok result) :
    result.value = roundedCents amount.value / 100 :=
  (isCents_of_round finite rounds).value_eq

theorem round_of_round (rounds : round amount = .ok result) : round result = .ok result := by
  have exact := isCents_of_round finite rounds
  exact exact.quantize_eq (exact.bound_of_quantize rounds)

theorem value_le_of_round {other greater : Decimal} (otherFinite : other.isFinite)
    (le : amount.value ≤ other.value) (rounds : round amount = .ok result)
    (roundsOther : round other = .ok greater) : result.value ≤ greater.value := by
  have cents : ((roundedCents amount.value : ℤ) : ℚ) ≤ roundedCents other.value := by
    exact_mod_cast roundedCents_mono le
  rw [value_of_round finite rounds, value_of_round otherFinite roundsOther]
  linarith

theorem round_flipSign : round amount.flipSign = (round amount).map flipSign := by
  have turned : amount.flipSign.isFinite ∧ amount.flipSign.isNegative = !amount.isNegative := by
    cases amount with
    | finite => exact ⟨rfl, rfl⟩
    | infinite => cases finite
    | nan => cases finite
  rw [round_finite finite, round_finite turned.1, turned.2, value_flipSign, roundedCents_neg,
    Int.natAbs_neg]
  split <;> rfl

/-- Room for a number of cents is room for the opposite one. -/
theorem exists_round_of_opposite {other : Decimal} (otherFinite : other.isFinite)
    (opposite : other.value = -amount.value) (rounds : round amount = .ok result) :
    ∃ turned, round other = .ok turned ∧ turned.value = -result.value := by
  have exact := isCents_of_round finite rounds
  have few := exact.bound_of_quantize rounds
  rw [← Int.natAbs_neg, ← roundedCents_neg, ← opposite] at few
  have turns := (round_finite otherFinite).trans (if_pos few)
  refine ⟨_, turns, ?_⟩
  rw [value_of_round otherFinite turns, exact.value_eq, opposite, roundedCents_neg]
  push_cast
  ring

end Money

/-- Rounding an amount is rounding half up to cents, for any amount that is finite. -/
structure Money.RoundsHalfUp (amount : Decimal) : Prop where
  /-- There is one number of cents that is nearest, of two equally near ones the one
  further away from nothing. -/
  choice : ∃! cents : ℤ, IsNearestCents amount.value cents
  /-- The amount is refused exactly if that comes to `10 ^ 26` or more. -/
  refused : ∀ cents, IsNearestCents amount.value cents →
    (round amount = .error .invalid ↔ 10 ^ 26 ≤ |(cents / 100 : ℚ)|)
  /-- Otherwise it is the result, written with two places and with the sign of the amount. -/
  rounded : ∀ cents, IsNearestCents amount.value cents → |(cents / 100 : ℚ)| < 10 ^ 26 →
    round amount = .ok (.finite amount.isNegative cents.natAbs (-2)) ∧
      (Decimal.finite amount.isNegative cents.natAbs (-2)).value = cents / 100
  /-- Rounding once more changes nothing. -/
  again : ∀ result, round amount = .ok result → round result = .ok result
  /-- A greater amount is not rounded to less. -/
  monotone : ∀ other result greater, other.isFinite → amount.value ≤ other.value →
    round amount = .ok result → round other = .ok greater → result.value ≤ greater.value
  /-- With the other sign the same is rounded, or refused. -/
  flipped : round amount.flipSign = (round amount).map flipSign
  /-- An amount of the opposite value is rounded to the opposite, however it is written. -/
  opposite : ∀ other result, other.isFinite → other.value = -amount.value →
    round amount = .ok result →
    ∃ turned, round other = .ok turned ∧ turned.value = -result.value
  /-- No amount is moved by more than half a cent. -/
  near : ∀ result, round amount = .ok result → |result.value - amount.value| ≤ 1 / 200

/-- Every finite amount is rounded half up to cents. -/
theorem Money.rounds_half_up {amount : Decimal} (finite : amount.isFinite) :
    RoundsHalfUp amount where
  choice := ⟨_, isNearestCents_roundedCents _, fun _ => isNearestCents_iff.mp⟩
  refused _ near := round_eq_error_iff finite near
  rounded cents near few := by
    have rounds : round amount = .ok (.finite amount.isNegative cents.natAbs (-2)) := by
      rw [round_of_isNearestCents finite near, if_pos (natAbs_lt_iff.mpr few)]
    refine ⟨rounds, ?_⟩
    rw [value_of_round finite rounds, ← isNearestCents_iff.mp near]
  again _ := round_of_round finite
  monotone _ _ _ := value_le_of_round finite
  flipped := round_flipSign finite
  opposite _ _ := exists_round_of_opposite finite
  near _ rounds := by
    rw [value_of_round finite rounds]
    exact abs_roundedCents_sub_le _

/-- Half a cent below `10 ^ 26` carries into one digit too many and is refused. -/
theorem Money.rounds_half_up_with_carry :
    let amount := Decimal.finite false (10 ^ 29 - 5) (-3)
    amount.isFinite ∧ RoundsHalfUp amount ∧ round amount = .error .invalid := by
  intro amount
  have rounds : RoundsHalfUp amount := rounds_half_up rfl
  have near : IsNearestCents amount.value (10 ^ 28 : ℕ) := by
    have least : 0 ≤ amount.value := magnitude_nonneg _ _
    have cents : nearestCents amount.value = 10 ^ 28 :=
      (toHundredths_eq _ _).symm.trans (by decide)
    exact cents ▸ isNearestCents_nearestCents least
  refine ⟨rfl, rounds, (rounds.refused _ near).mpr ?_⟩
  norm_num

/-- Three tenths of a cent below nothing are rounded to a zero that keeps its sign. -/
example : Money.round (.finite true 3 (-3)) = .ok (.finite true 0 (-2)) := by
  decide

end Tuition
