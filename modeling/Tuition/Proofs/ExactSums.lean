/-
# Sums are exact or refused

A running sum has 28 digits, so from `10 ^ 26` on its hundredths may be rounded away, and
further amounts may change nothing at all. None of this shows: once a sum of amounts that are
not below nothing has so many digits before the point it keeps them, and rounding it to cents is
refused. A total that is given is the exact sum, and it is given exactly if the exact sum has
less than 28 digits in cents.
-/

import Tuition.Proofs.Cents

namespace Tuition.Decimal

theorem AsPrecise.trans {first second third : Nat} (one : AsPrecise first second)
    (other : AsPrecise second third) : AsPrecise first third := by
  unfold AsPrecise at *
  omega

theorem StandsFor.trans {result : Decimal} {negative : Bool} {first second : Nat}
    (stands : result.StandsFor negative first) (alike : AsPrecise first second) :
    result.StandsFor negative second := by
  obtain ⟨hundredths, has, other⟩ := stands
  exact ⟨hundredths, has, other.trans alike⟩

theorem AsPrecise.add {first second more : Nat} (alike : AsPrecise first second) :
    AsPrecise (first + more) (second + more) := by
  unfold AsPrecise at *
  omega

/-! ## One addition -/

/-- Numbers without a sign are added to a number without a sign. -/
theorem addNonzero_unsigned {coefficient cents : Nat} {exponent : Int} (place : -2 ≤ exponent)
    (some : coefficient ≠ 0) :
    addNonzero false coefficient exponent false cents (-2) =
      let floor := exponent + min (-1) ((digitCount coefficient : Int) - precision - 2)
      let low : Nat × Int :=
        if digitCount cents + (-2 : Int) - 1 < floor then (1, floor) else (cents, -2)
      finalize false (coefficient * 10 ^ (exponent - low.2).toNat + low.1) low.2 := by
  have first : ¬exponent < -2 := by omega
  have power (n : Nat) : tenTo n = 10 ^ n := rfl
  simp only [addNonzero, first, if_false, signed, Bool.false_eq_true, power]
  generalize (if digitCount cents + (-2 : Int) - 1 <
    exponent + min (-1) ((digitCount coefficient : Int) - precision - 2) then _ else _) = low
  have positive : 0 < coefficient * 10 ^ (exponent - low.2).toNat :=
    Nat.mul_pos (Nat.pos_of_ne_zero some) (Nat.pow_pos (by decide))
  rw [if_neg (by omega), decide_eq_false (by omega)]
  rfl

/-- A sum with an amount stands for the exact sum: an amount that is too small to reach the digits
that are kept is replaced, but only beside a number that is too large already. -/
theorem standsFor_of_addNonzero {coefficient cents : Nat} {exponent : Int} {sum : Decimal}
    (place : -2 ≤ exponent) (some : coefficient ≠ 0)
    (added : addNonzero false coefficient exponent false cents (-2) = .ok sum) :
    sum.StandsFor false (coefficient * 10 ^ (exponent + 2).toNat + cents) := by
  have positive := digitCount_pos cents
  rw [addNonzero_unsigned place some] at added
  dsimp only at added
  split at added
  · next small =>
      have high : 28 < digitCount coefficient + exponent := by
        rw [precision] at small
        omega
      have large : 10 ^ 28 ≤ coefficient * 10 ^ (exponent + 2).toNat :=
        pow_le_hundredths place (pow_digitCount_le some) (by omega)
      have lower : -2 ≤ exponent + min (-1) ((digitCount coefficient : Int) - precision - 2) := by
        omega
      obtain ⟨hundredths, has, alike⟩ := standsFor_of_finalize lower added
      refine ⟨hundredths, has, alike.trans (.inr ⟨?_, by omega⟩)⟩
      rw [Nat.add_mul, hundredths_shift coefficient lower (by omega)]
      omega
  · have exact := standsFor_of_finalize (Int.le_refl (-2)) added
    have same : cents * 10 ^ ((-2 : Int) + 2).toNat = cents := Nat.mul_one cents
    rwa [Nat.add_mul, hundredths_shift coefficient (Int.le_refl (-2)) place, same] at exact

/-- What an amount that is not below nothing is made of. -/
theorem IsCents.exists_unsigned {amount : Decimal} {cents : Nat} (exact : amount.IsCents cents) :
    ∃ negative, amount = .finite negative cents (-2) ∧ (negative = true → cents = 0) := by
  obtain ⟨negative, coefficient, rfl, same⟩ := exact
  cases negative with
  | false =>
      obtain rfl : coefficient = cents := Int.ofNat_inj.mp same
      exact ⟨false, rfl, nofun⟩
  | true =>
      have opposite : -(coefficient : Int) = cents := same
      obtain rfl : coefficient = cents := by omega
      exact ⟨true, rfl, fun _ => by omega⟩

/-- A step of a sum: the hundredths of what was summed so far and the cents of an amount. -/
theorem HasHundredths.standsFor_of_add {running amount sum : Decimal} {hundredths cents : Nat}
    (has : running.HasHundredths false hundredths) (exact : amount.IsCents cents)
    (added : running.add amount = .ok sum) : sum.StandsFor false (hundredths + cents) := by
  obtain ⟨coefficient, exponent, rfl, place, rfl⟩ := has
  obtain ⟨negative, rfl, unsigned⟩ := exact.exists_unsigned
  have least : min exponent (-2) = -2 := min_eq_right place
  have lowest : max (-2) ((-2 : Int) - precision - 1) = -2 := by decide
  have level : -2 ≤ (-2 : Int) := Int.le_refl _
  have adds : addFinite false coefficient exponent negative cents (-2) = .ok sum := added
  by_cases nothing : cents = 0
  · rw [nothing] at adds ⊢
    by_cases none : coefficient = 0
    · simp only [addFinite, none, and_self, if_true, Bool.false_and, least] at adds
      simpa [none] using standsFor_of_finalize level adds
    · have lower : -2 ≤ max (-2) (exponent - precision - 1) := le_max_left _ _
      have upper : max (-2) (exponent - precision - 1) ≤ exponent := by omega
      simp only [addFinite, none, false_and, if_false, if_true, least] at adds
      rw [← hundredths_shift coefficient lower upper]
      exact standsFor_of_finalize lower adds
  · obtain rfl : negative = false := by
      by_contra sign
      exact nothing (unsigned (by simpa using sign))
    by_cases none : coefficient = 0
    · simp only [addFinite, none, nothing, and_false, if_false, if_true, least, lowest] at adds
      simpa [none] using standsFor_of_finalize level adds
    · simp only [addFinite, none, nothing, false_and, if_false] at adds
      exact standsFor_of_addNonzero place none adds

theorem StandsFor.add {running amount sum : Decimal} {cents more : Nat}
    (stands : running.StandsFor false cents) (exact : amount.IsCents more)
    (added : running.add amount = .ok sum) : sum.StandsFor false (cents + more) := by
  obtain ⟨hundredths, has, alike⟩ := stands
  exact (has.standsFor_of_add exact added).trans alike.add

/-! ## Whole sums -/

/-- A running sum of amounts that are not below nothing stands for their exact sum. -/
theorem StandsFor.foldlM {amounts : List Decimal} {cents : List Nat}
    (exact : List.Forall₂ (fun amount (more : Nat) => amount.IsCents more) amounts cents)
    {running sum : Decimal} {before : Nat} (stands : running.StandsFor false before)
    (summed : amounts.foldlM Decimal.add running = .ok sum) :
    sum.StandsFor false (before + cents.sum) := by
  induction exact generalizing running before with
  | nil =>
      cases summed
      exact stands
  | @cons amount more amounts cents first rest ih =>
      rw [List.foldlM_cons] at summed
      obtain ⟨next, added, folded⟩ := bind_eq_ok_iff.mp summed
      rw [List.sum_cons, ← Nat.add_assoc]
      exact ih (stands.add first added) folded

/-- The total of amounts that are not below nothing is their exact sum, of less than 28 digits. -/
theorem isCents_of_total {amounts : List Decimal} {cents : List Nat} {total : Decimal}
    (exact : List.Forall₂ (fun amount (more : Nat) => amount.IsCents more) amounts cents)
    (given : Money.total amounts = .ok total) :
    total.IsCents cents.sum ∧ cents.sum < 10 ^ 28 := by
  obtain ⟨sum, summed, rounds⟩ := bind_eq_ok_iff.mp given
  have start : (ofInt 0).StandsFor false 0 := ⟨0, ⟨0, 0, rfl, by decide, rfl⟩, .inl rfl⟩
  have stands := start.foldlM exact summed
  rw [Nat.zero_add] at stands
  exact stands.isCents_of_quantize rounds

/-- Amounts that are not below nothing have a total exactly if their exact sum has less than 28
digits. -/
theorem exists_total_iff {amounts : List Decimal} {cents : List Nat}
    (exact : List.Forall₂ (fun amount (more : Nat) => amount.IsCents more) amounts cents) :
    (∃ total, Money.total amounts = .ok total) ↔ cents.sum < 10 ^ 28 := by
  constructor
  · rintro ⟨total, given⟩
    exact (isCents_of_total exact given).2
  · intro bound
    have size : centsSize (cents.map Nat.cast) = cents.sum := by
      simp [centsSize, Function.comp_def]
    have signed : List.Forall₂ IsCents amounts (cents.map Nat.cast) :=
      List.forall₂_map_right_iff.mpr exact
    obtain ⟨total, given, -⟩ := total_cents signed (size ▸ bound)
    exact ⟨total, given⟩

end Tuition.Decimal
