/-
# Totals can be compared

Two decimals can be compared unless one of them is no number. A column of totals never keeps a
value that is no number, and what it shows of a kept total is a number again, so it is always
decided whether an amount covers a total. Nothing paid amounts to nothing.
-/

import Tuition.Proofs.Transactions

namespace Tuition

/-- A decimal is a number, finite or infinite. -/
def Decimal.IsNumber : Decimal → Prop
  | .nan .. => False
  | _ => True

/-- Two numbers can be compared. -/
theorem Decimal.IsNumber.exists_compare {first second : Decimal} (one : first.IsNumber)
    (other : second.IsNumber) : ∃ order, first.compare second = .ok order := by
  cases first with
  | finite =>
      cases second with
      | finite => exact ⟨_, rfl⟩
      | infinite negative => cases negative <;> exact ⟨_, rfl⟩
      | nan => exact other.elim
  | infinite sign =>
      cases second with
      | finite => cases sign <;> exact ⟨_, rfl⟩
      | infinite negative => cases sign <;> cases negative <;> exact ⟨_, rfl⟩
      | nan => exact other.elim
  | nan => exact one.elim

/-- It is decided whether a number covers another. -/
theorem Decimal.IsNumber.exists_covers {paid total : Decimal} (one : paid.IsNumber)
    (other : total.IsNumber) : ∃ covered, Payments.covers paid total = .ok covered := by
  obtain ⟨order, compared⟩ := one.exists_compare other
  exact ⟨order != .lt, bind_eq_ok_iff.mpr ⟨order, compared, rfl⟩⟩

namespace Binary64

theorem ofFraction_ne_nan (negative : Bool) (num den : Nat) :
    ofFraction negative num den ≠ .nan := by
  unfold ofFraction
  split
  · simp
  · dsimp only
    split
    · split <;> simp
    · split <;> simp

theorem ofDecimal_ne_nan (negative : Bool) (coefficient : Nat) (exponent : Int) :
    ofDecimal negative coefficient exponent ≠ .nan := by
  unfold ofDecimal
  dsimp only
  split
  · simp
  · split
    · simp
    · exact ofFraction_ne_nan _ _ _

end Binary64

namespace Amount

theorem isNumber_ofBinary {binary : Binary64} (number : binary ≠ .nan) :
    (ofBinary binary).IsNumber := by
  cases binary with
  | finite negative mantissa exponent =>
      simp only [ofBinary]
      split <;> trivial
  | infinite => trivial
  | nan => exact absurd rfl number

theorem isNumber_shownBinary {binary : Binary64} (number : binary ≠ .nan) :
    (shownBinary binary).IsNumber := by
  cases binary with
  | finite negative mantissa exponent => trivial
  | infinite => trivial
  | nan => exact absurd rfl number

/-- A column keeps numbers only. -/
theorem isNumber_of_keep {amount kept : Decimal} (keeps : keep amount = .ok (some kept)) :
    kept.IsNumber := by
  cases amount with
  | finite negative coefficient exponent =>
      simp only [keep] at keeps
      split at keeps
      · cases keeps
        trivial
      · cases keeps
        exact isNumber_ofBinary (Binary64.ofDecimal_ne_nan _ _ _)
  | infinite =>
      cases keeps
      trivial
  | nan negative signaling =>
      cases signaling <;> cases keeps

/-- A column shows a number where it keeps one. -/
theorem isNumber_shown {kept : Decimal} (number : kept.IsNumber) : (shown kept).IsNumber := by
  unfold shown
  split
  · exact number
  · apply isNumber_shownBinary
    cases kept with
    | finite => exact Binary64.ofDecimal_ne_nan _ _ _
    | infinite => simp [toBinary]
    | nan => exact number.elim

end Amount

theorem Store.isNumber_of_keepTotal {asked total : Decimal}
    (keeps : keepTotal asked = .ok total) : total.IsNumber := by
  obtain ⟨amount, kept, same⟩ := bind_eq_ok_iff.mp keeps
  cases amount with
  | none => cases same
  | some amount => exact Except.ok.inj same ▸ Amount.isNumber_of_keep kept

/-- A total that an invoice may come to have is a number if those that are there are numbers. -/
theorem KeptTotal.isNumber {invoices : List Invoice} {total : Decimal}
    (kept : KeptTotal invoices total) (numbers : ∀ invoice ∈ invoices, invoice.total.IsNumber) :
    total.IsNumber := by
  rcases kept with ⟨invoice, mem, rfl⟩ | ⟨asked, keeps⟩
  · exact numbers invoice mem
  · exact Store.isNumber_of_keepTotal keeps

/-! ## Sums of payments -/

/-- What is paid on an invoice depends on the payments on it alone. -/
theorem Store.paidOn_congr {first second : Store} {id : Int}
    (same : first.payments.filter (·.invoiceId == some id) =
      second.payments.filter (·.invoiceId == some id)) :
    first.paidOn id = second.paidOn id := by
  simp only [paidOn, same]

/-- Where no payment is on an invoice, nothing is paid on it. -/
theorem Store.paidOn_of_no_payment {store : Store} {id : Int}
    (none : ∀ payment ∈ store.payments, payment.invoiceId ≠ some id) :
    store.paidOn id = .ok Money.nothing := by
  have empty : store.payments.filter (·.invoiceId == some id) = [] := by
    rw [List.filter_eq_nil_iff]
    intro payment mem
    simp [none payment mem]
  simp only [paidOn, empty]
  rfl

end Tuition
