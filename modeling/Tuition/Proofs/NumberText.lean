/-
# The sequence in an invoice number

The sequence of an invoice number is what stands after its last dash. It holds nothing but digits,
so it can be read back whatever the prefix is, with dashes and digits of its own or none, and
whatever the width of the sequence. Numbers with different sequences are therefore different.
-/

import Tuition.Billing.InvoiceNumber

namespace Tuition

/-- The letters after the last dash of a text. -/
def afterLastDash (text : String) : List Char :=
  (text.toList.reverse.takeWhile (· ≠ '-')).reverse

/-- The sequence in an invoice number. -/
def sequenceOf (number : String) : Nat :=
  Nat.ofDigitChars 10 (afterLastDash number) 0

/-- What stands behind a dash and has none itself stands after the last dash. -/
theorem afterLastDash_append (front tail : String) (noDash : '-' ∉ tail.toList) :
    afterLastDash (front ++ "-" ++ tail) = tail.toList := by
  have kept : ∀ letter ∈ tail.toList.reverse, decide (letter ≠ '-') = true := by
    intro letter mem
    rw [decide_eq_true_iff]
    rintro rfl
    exact noDash (List.mem_reverse.mp mem)
  have dash : "-".toList = ['-'] := rfl
  simp only [afterLastDash, String.toList_append, List.reverse_append, dash, List.reverse_cons,
    List.nil_append, List.cons_append, List.append_assoc]
  rw [List.takeWhile_append_of_pos kept]
  simp

namespace Text

/-- The digits of a number, filled with zeros. -/
theorem toList_padded (width n : Nat) :
    (padded width n).toList =
      List.replicate (width - (digits n).length) '0' ++ Nat.toDigits 10 n := by
  have notNegative : ¬((n : Int) < 0) := by omega
  simp [padded, notNegative, zeroFilled, digits]

theorem isDigit_of_mem_padded {width n : Nat} {letter : Char}
    (mem : letter ∈ (padded width n).toList) :
    letter.isDigit := by
  rw [toList_padded] at mem
  rcases List.mem_append.mp mem with zero | digit
  · rw [List.eq_of_mem_replicate zero]
    rfl
  · exact Nat.isDigit_of_mem_toDigits (by decide) (by decide) digit

theorem not_mem_toDigits {letter : Char} (other : letter.isDigit = false) (n : Nat) :
    letter ∉ Nat.toDigits 10 n := fun mem =>
  absurd (Nat.isDigit_of_mem_toDigits (by decide) (by decide) mem) (by simp [other])

theorem not_mem_padded {letter : Char} (other : letter.isDigit = false) (width n : Nat) :
    letter ∉ (padded width n).toList := fun mem =>
  absurd (isDigit_of_mem_padded mem) (by simp [other])

/-- Zeros in front of a number do not change its value. -/
theorem ofDigitChars_padded (width n : Nat) :
    Nat.ofDigitChars 10 (padded width n).toList 0 = n := by
  rw [toList_padded, Nat.ofDigitChars_append, Nat.ofDigitChars_replicate_zero, Nat.mul_zero,
    Nat.ofDigitChars_ten_toDigits]

end Text

/-- The sequence can be read off an invoice number, whatever its prefix and period are. -/
theorem sequenceOf_invoiceNumber (lead : String) (period : Period) (sequence : Nat) :
    sequenceOf (invoiceNumber lead period sequence) = sequence := by
  rw [sequenceOf, invoiceNumber, afterLastDash_append _ _ (Text.not_mem_padded rfl 3 sequence),
    Text.ofDigitChars_padded]

/-- The sequences that are counted are not negative, and each is read back. -/
theorem sequenceOf_invoiceNumber_of_nonneg (lead : String) (period : Period) {sequence : Int}
    (nonneg : 0 ≤ sequence) :
    (sequenceOf (invoiceNumber lead period sequence) : Int) = sequence := by
  obtain ⟨n, rfl⟩ := Int.eq_ofNat_of_zero_le nonneg
  rw [sequenceOf_invoiceNumber]

end Tuition
