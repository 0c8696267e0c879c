/-
# Amounts without a minus sign

A payment is above nothing, which a condition of its table demands of the amount that is kept.
What a column shows of such an amount, and what several of them add up to in binary numbers,
however much is rounded on the way, never gets a minus sign; so it covers whatever nothing covers.
-/

import Tuition.Proofs.Accounts

namespace Tuition

/-- A binary number without a minus sign. -/
def Binary64.Unsigned : Binary64 → Prop
  | .finite negative _ _ => negative = false
  | .infinite negative => negative = false
  | .nan => False

/-- A decimal number without a minus sign. -/
def Decimal.Unsigned : Decimal → Prop
  | .finite negative _ _ => negative = false
  | .infinite negative => negative = false
  | .nan .. => False

/-! ## Binary numbers -/

namespace Binary64

theorem unsigned_ofFraction (num den : Nat) : (ofFraction false num den).Unsigned := by
  unfold ofFraction
  split
  · rfl
  · dsimp only
    split
    · split <;> rfl
    · split <;> rfl

theorem unsigned_ofDecimal (coefficient : Nat) (exponent : Int) :
    (ofDecimal false coefficient exponent).Unsigned := by
  unfold ofDecimal
  dsimp only
  split
  · rfl
  · split
    · rfl
    · exact unsigned_ofFraction _ _

theorem unsigned_ofInt {n : Int} (least : 0 ≤ n) : (ofInt n).Unsigned := by
  have sign : decide (n < 0) = false := decide_eq_false (Int.not_lt.mpr least)
  rw [ofInt, sign]
  exact unsigned_ofFraction _ _

theorem fraction_nonneg (mantissa : Nat) (exponent : Int) :
    0 ≤ (fraction false mantissa exponent).1 :=
  Int.mul_nonneg (Int.natCast_nonneg _) (Int.natCast_nonneg _)

/-- A sum of numbers without a minus sign has none. -/
theorem Unsigned.add {first second : Binary64} (one : first.Unsigned) (other : second.Unsigned) :
    (first.add second).Unsigned := by
  cases first with
  | nan => exact one.elim
  | infinite sign =>
      obtain rfl : sign = false := one
      cases second with
      | nan => exact other.elim
      | infinite sign =>
          obtain rfl : sign = false := other
          rfl
      | finite => rfl
  | finite sign m e =>
      obtain rfl : sign = false := one
      cases second with
      | nan => exact other.elim
      | infinite sign => exact other
      | finite sign n f =>
          obtain rfl : sign = false := other
          simp only [Binary64.add]
          split
          · rfl
          · have least : 0 ≤ (fraction false m e).1 * (fraction false n f).2 +
                (fraction false n f).1 * (fraction false m e).2 :=
              Int.add_nonneg (Int.mul_nonneg (fraction_nonneg m e) (Int.natCast_nonneg _))
                (Int.mul_nonneg (fraction_nonneg n f) (Int.natCast_nonneg _))
            rw [ofSigned, decide_eq_false (Int.not_lt.mpr least)]
            exact unsigned_ofFraction _ _

theorem Unsigned.toInt?_nonneg {number : Binary64} {n : Int} (unsigned : number.Unsigned)
    (whole : number.toInt? = some n) : 0 ≤ n := by
  cases number with
  | nan => exact unsigned.elim
  | infinite => cases whole
  | finite sign mantissa exponent =>
      obtain rfl : sign = false := unsigned
      simp only [toInt?] at whole
      split at whole
      · rw [← Option.some.inj whole]
        exact Int.ediv_nonneg (fraction_nonneg mantissa exponent) (Int.natCast_nonneg _)
      · cases whole

end Binary64

/-! ## Amounts -/

namespace Amount

theorem unsigned_shownBinary {number : Binary64} (unsigned : number.Unsigned) :
    (shownBinary number).Unsigned := by
  cases number with
  | finite negative mantissa exponent => exact unsigned
  | infinite => exact unsigned
  | nan => exact unsigned.elim

theorem unsigned_toBinary {amount : Decimal} (unsigned : amount.Unsigned) :
    (toBinary amount).Unsigned := by
  cases amount with
  | finite negative coefficient exponent =>
      obtain rfl : negative = false := unsigned
      exact Binary64.unsigned_ofDecimal _ _
  | infinite => exact unsigned
  | nan => exact unsigned.elim

theorem unsigned_shown {kept : Decimal} (unsigned : kept.Unsigned) : (shown kept).Unsigned := by
  unfold shown
  split
  · exact unsigned
  · exact unsigned_shownBinary (unsigned_toBinary unsigned)

theorem centsOf_nonneg {amount : Decimal} (unsigned : amount.Unsigned) : 0 ≤ centsOf amount := by
  cases amount with
  | finite negative coefficient exponent =>
      obtain rfl : negative = false := unsigned
      exact Int.natCast_nonneg coefficient
  | infinite => exact Int.le_refl 0
  | nan => exact unsigned.elim

/-- A running sum of amounts without a minus sign. -/
structure RunningSum.Unsigned (running : RunningSum) : Prop where
  whole : 0 ≤ running.whole
  binary : running.binary.Unsigned

theorem RunningSum.Unsigned.add {running : RunningSum} (unsigned : running.Unsigned)
    {term : Binary64} (other : term.Unsigned) : (running.add term).Unsigned := by
  have binary := unsigned.binary.add other
  unfold RunningSum.add
  cases found : wholeWord? term with
  | none => exact ⟨unsigned.whole, binary⟩
  | some n =>
      obtain ⟨whole, -⟩ := Option.filter_eq_some_iff.mp found
      have least : 0 ≤ n := other.toInt?_nonneg whole
      dsimp only
      split
      · exact ⟨unsigned.whole, binary⟩
      split
      · exact ⟨Int.add_nonneg unsigned.whole least, binary⟩
      · exact ⟨unsigned.whole, binary⟩

theorem RunningSum.Unsigned.foldl {running : RunningSum} (unsigned : running.Unsigned)
    {terms : List Binary64} (all : ∀ term ∈ terms, term.Unsigned) :
    (terms.foldl RunningSum.add running).Unsigned := by
  induction terms generalizing running with
  | nil => exact unsigned
  | cons term terms ih =>
      obtain ⟨one, others⟩ := List.forall_mem_cons.mp all
      exact ih (unsigned.add one) others

/-- A sum of amounts without a minus sign has none, however much is rounded. -/
theorem unsigned_sum {amounts : List Decimal} {total : Decimal}
    (all : ∀ amount ∈ amounts, amount.Unsigned) (added : sum amounts = .ok total) :
    total.Unsigned := by
  unfold sum at added
  split at added
  · cases added
    have least : 0 ≤ (amounts.map centsOf).sum := by
      refine List.sum_nonneg fun cents mem => ?_
      obtain ⟨amount, among, rfl⟩ := List.mem_map.mp mem
      exact centsOf_nonneg (all amount among)
    rw [← List.sum_eq_foldr]
    exact decide_eq_false (Int.not_lt.mpr least)
  · have terms : ∀ term ∈ amounts.map toBinary, term.Unsigned := by
      intro term mem
      obtain ⟨amount, among, rfl⟩ := List.mem_map.mp mem
      exact unsigned_toBinary (all amount among)
    have begins : RunningSum.Unsigned {} := ⟨Int.le_refl 0, rfl⟩
    have unsigned := begins.foldl terms
    unfold RunningSum.value at added
    split at added
    · cases added
    split at added
    · cases added
      exact unsigned_shownBinary (Binary64.unsigned_ofInt unsigned.whole)
    split at added
    · next nan =>
        have binary := unsigned.binary
        rw [nan] at binary
        exact binary.elim
    · cases added
      exact unsigned_shownBinary unsigned.binary

end Amount

namespace Decimal

theorem Unsigned.quantize {amount rounded : Decimal} (unsigned : amount.Unsigned)
    (rounds : amount.quantize = .ok rounded) : rounded.Unsigned := by
  cases amount with
  | infinite => cases rounds
  | nan => exact unsigned.elim
  | finite negative coefficient exponent =>
      simp only [Decimal.quantize] at rounds
      split at rounds
      · cases rounds
        exact unsigned
      split at rounds
      · cases rounds
      split at rounds
      · cases rounds
      · cases rounds
        exact unsigned

/-- What is above nothing has no minus sign. -/
theorem unsigned_of_positive {amount : Decimal} (positive : amount.order (.ofInt 0) = .gt) :
    amount.Unsigned := by
  cases amount with
  | finite negative coefficient exponent =>
      cases negative with
      | false => rfl
      | true =>
          have compared : compareFinite true coefficient exponent false 0 0 = .gt := positive
          by_cases none : coefficient = 0
          · simp [compareFinite, none] at compared
          · simp [compareFinite, none] at compared
  | infinite negative =>
      cases negative with
      | false => rfl
      | true => cases positive
  | nan => cases positive

/-- What has no minus sign covers whatever nothing covers. -/
theorem Unsigned.covers {paid total : Decimal} (unsigned : paid.Unsigned)
    (free : Payments.covers Money.nothing total = .ok true) :
    Payments.covers paid total = .ok true := by
  cases total with
  | nan => cases free
  | infinite negative =>
      cases negative with
      | false => cases free
      | true =>
          cases paid with
          | finite => rfl
          | infinite negative =>
              obtain rfl : negative = false := unsigned
              rfl
          | nan => exact unsigned.elim
  | finite negative coefficient exponent =>
      cases paid with
      | nan => exact unsigned.elim
      | infinite sign =>
          obtain rfl : sign = false := unsigned
          rfl
      | finite sign paid place =>
          obtain rfl : sign = false := unsigned
          obtain ⟨order, compared, notBelow⟩ := bind_eq_ok_iff.mp free
          cases compared
          have free : compareFinite false 0 (-2) negative coefficient exponent ≠ .lt := by
            simpa using Except.ok.inj notBelow
          have covered : compareFinite false paid place negative coefficient exponent ≠ .lt := by
            cases negative <;> by_cases none : coefficient = 0 <;> by_cases nothing : paid = 0 <;>
              simp [compareFinite, none, nothing] at free ⊢
          refine bind_eq_ok_iff.mpr ⟨_, rfl, ?_⟩
          exact congrArg Except.ok (bne_iff_ne.mpr covered)

end Decimal

namespace Table.WellKept

variable {payments : List Payment} (kept : WellKept payments) {payment : Payment}
  (mem : payment ∈ payments)
include kept mem

theorem unsigned : payment.amount.Unsigned := by
  have positive := kept.conditions payment mem _ (List.mem_singleton.mpr rfl)
  exact Decimal.unsigned_of_positive (beq_iff_eq.mp positive)

theorem cents_nonneg : 0 ≤ payment.cents :=
  Amount.centsOf_nonneg (Amount.unsigned_shown (kept.unsigned mem))

end Table.WellKept

/-- What is paid on an invoice has no minus sign. -/
theorem Store.unsigned_paidOn {store : Store} (kept : Table.WellKept store.payments) {id : Int}
    {paid : Decimal} (sum : store.paidOn id = .ok paid) : paid.Unsigned := by
  obtain ⟨total, added, rounded⟩ := bind_eq_ok_iff.mp sum
  refine Decimal.Unsigned.quantize ?_ (mapError_eq_ok_iff.mp rounded)
  refine Amount.unsigned_sum (fun amount mem => ?_) added
  obtain ⟨payment, among, rfl⟩ := List.mem_map.mp mem
  exact kept.unsigned (List.mem_filter.mp among).1

end Tuition
