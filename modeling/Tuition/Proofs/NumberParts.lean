/-
# The parts of an invoice number

An invoice number gives back all that it is made of. The sequence stands after its last dash, year
and month between the last two, and the prefix before them, with dashes and digits of its own or
none. The month has two digits, so the rest is the year, however wide it is. Numbers that are the
same are therefore made of the same prefix, period and sequence.
-/

import Tuition.Proofs.DateTexts
import Mathlib.Data.List.DropRight
import Mathlib.Data.Set.Function

namespace Tuition

/-- What stands before the last dash of a text. -/
def beforeLastDash (text : String) : String :=
  String.ofList (text.toList.reverse.dropWhile (· ≠ '-')).tail.reverse

/-- What a dash and a text without one follow stands before the last dash. -/
theorem beforeLastDash_append (front tail : String) (noDash : '-' ∉ tail.toList) :
    beforeLastDash (front ++ "-" ++ tail) = front := by
  have behind : (front ++ "-" ++ tail).toList.reverse.takeWhile (· ≠ '-') = tail.toList.reverse :=
    List.reverse_eq_iff.mp (afterLastDash_append front tail noDash)
  have whole : (front ++ "-" ++ tail).toList.reverse =
      tail.toList.reverse ++ '-' :: front.toList.reverse := by
    simp [String.toList_append]
  have parts := List.takeWhile_append_dropWhile (p := (· ≠ '-'))
    (l := (front ++ "-" ++ tail).toList.reverse)
  rw [behind, whole] at parts
  rw [beforeLastDash, whole, List.append_cancel_left parts, List.tail_cons, List.reverse_reverse,
    String.ofList_toList]

namespace Text

variable {width : Nat} {n : Int}

/-- Without a sign there is no dash in a column. -/
theorem dash_not_mem_padded (nonneg : 0 ≤ n) : '-' ∉ (padded width n).toList := by
  obtain ⟨n, rfl⟩ := Int.eq_ofNat_of_zero_le nonneg
  exact not_mem_padded rfl width n

theorem ofDigitChars_padded_of_nonneg (nonneg : 0 ≤ n) :
    (Nat.ofDigitChars 10 (padded width n).toList 0 : Int) = n := by
  obtain ⟨n, rfl⟩ := Int.eq_ofNat_of_zero_le nonneg
  exact congrArg Nat.cast (ofDigitChars_padded width n)

end Text

/-- What an invoice number is made of. -/
structure NumberParts where
  lead : String
  period : Period
  sequence : Int
  deriving DecidableEq

namespace NumberParts

variable {parts : NumberParts}

/-- The number that is made of the parts. -/
def number (parts : NumberParts) : String :=
  invoiceNumber parts.lead parts.period parts.sequence

/-- The year and the sequence are counted from zero on, and the month is one of the twelve. -/
structure Counted (parts : NumberParts) : Prop where
  year : 0 ≤ parts.period.year
  month : 1 ≤ parts.period.month ∧ parts.period.month ≤ 12
  sequence : 0 ≤ parts.sequence

/-- The digits of the year and, behind them, those of the month. -/
def stamp (parts : NumberParts) : String :=
  Text.padded 4 parts.period.year ++ Text.padded 2 parts.period.month

/-- The parts stand at the last two dashes of a number. -/
structure StandIn (parts : NumberParts) (number : String) : Prop where
  sequence : afterLastDash number = (Text.padded 3 parts.sequence).toList
  stamp : afterLastDash (beforeLastDash number) = parts.stamp.toList
  month : (Text.padded 2 parts.period.month).length = 2
  lead : beforeLastDash (beforeLastDash number) = parts.lead

/-- The year and the month in digits that stand together. The month has two of them. -/
def periodOf (digits : List Char) : Period :=
  ⟨Nat.ofDigitChars 10 (digits.rdrop 2) 0, Nat.ofDigitChars 10 (digits.rtake 2) 0⟩

theorem periodOf_append {year month : List Char} (two : month.length = 2) :
    periodOf (year ++ month) = ⟨Nat.ofDigitChars 10 year 0, Nat.ofDigitChars 10 month 0⟩ := by
  have front : (year ++ month).rdrop 2 = year := two ▸ List.rdrop_append_length
  have back : (year ++ month).rtake 2 = month := by
    rw [List.rtake_eq_reverse_take_reverse, List.reverse_append,
      List.take_left' (by simpa using two), List.reverse_reverse]
  rw [periodOf, front, back]

/-- The parts of a number, told by its last two dashes. -/
def ofNumber (number : String) : NumberParts where
  lead := beforeLastDash (beforeLastDash number)
  period := periodOf (afterLastDash (beforeLastDash number))
  sequence := sequenceOf number

theorem number_eq (parts : NumberParts) :
    parts.number = parts.lead ++ "-" ++ parts.stamp ++ "-" ++ Text.padded 3 parts.sequence := by
  simp only [number, invoiceNumber, stamp, String.append_assoc]

namespace Counted

theorem dash_not_mem_stamp (counted : parts.Counted) : '-' ∉ parts.stamp.toList := by
  rw [stamp, String.toList_append, List.mem_append, not_or]
  exact ⟨Text.dash_not_mem_padded counted.year,
    Text.dash_not_mem_padded (Int.le_of_lt counted.month.1)⟩

/-- A month fills its two digits. -/
theorem length_month (counted : parts.Counted) :
    (Text.padded 2 parts.period.month).toList.length = 2 := by
  obtain ⟨month, same⟩ := Int.eq_ofNat_of_zero_le (Int.le_of_lt counted.month.1)
  have twelve := counted.month.2
  rw [same] at twelve ⊢
  exact Text.length_padded (by decide) (by omega)

/-- The parts of a number are found at its dashes. -/
theorem standIn_number (counted : parts.Counted) : parts.StandIn parts.number := by
  have noDash : '-' ∉ (Text.padded 3 parts.sequence).toList :=
    Text.dash_not_mem_padded counted.sequence
  have front : beforeLastDash parts.number = parts.lead ++ "-" ++ parts.stamp := by
    rw [number_eq, beforeLastDash_append _ _ noDash]
  constructor
  · rw [number_eq, afterLastDash_append _ _ noDash]
  · rw [front, afterLastDash_append _ _ counted.dash_not_mem_stamp]
  · rw [← String.length_toList, counted.length_month]
  · rw [front, beforeLastDash_append _ _ counted.dash_not_mem_stamp]

theorem periodOf_stamp (counted : parts.Counted) :
    periodOf parts.stamp.toList = parts.period := by
  rw [stamp, String.toList_append, periodOf_append counted.length_month,
    Text.ofDigitChars_padded_of_nonneg counted.year,
    Text.ofDigitChars_padded_of_nonneg (Int.le_of_lt counted.month.1)]

theorem ofNumber_number (counted : parts.Counted) : ofNumber parts.number = parts := by
  have stands := counted.standIn_number
  rw [ofNumber, stands.lead, stands.stamp, counted.periodOf_stamp, number,
    sequenceOf_invoiceNumber_of_nonneg _ _ counted.sequence]

end Counted

/-- Each part stands at its place in a number, whatever the prefix and however wide the year and
the sequence are, so the parts are read back, and different parts make different numbers. -/
theorem invoice_numbers_read_back :
    (∀ parts : NumberParts, parts.Counted →
      parts.StandIn parts.number ∧ ofNumber parts.number = parts) ∧
      Set.InjOn number {parts | parts.Counted} := by
  refine ⟨fun parts counted => ⟨counted.standIn_number, counted.ofNumber_number⟩, ?_⟩
  intro first counted second countedSecond same
  calc first
      = ofNumber first.number := (Counted.ofNumber_number counted).symm
    _ = ofNumber second.number := congrArg ofNumber same
    _ = second := Counted.ofNumber_number countedSecond

/-- A prefix that ends with a dash, a year of five digits and a sequence of four are read back. -/
theorem invoice_numbers_read_back_when_wide :
    let parts : NumberParts := ⟨"A-1-", ⟨12024, 7⟩, 1000⟩
    let other : NumberParts := ⟨"A-1", ⟨12024, 7⟩, 1000⟩
    parts.Counted ∧ parts.number = "A-1--1202407-1000" ∧ ofNumber "A-1--1202407-1000" = parts ∧
      other.Counted ∧ other.number ≠ parts.number := by
  intro parts other
  have counted : parts.Counted := ⟨by decide, by decide, by decide⟩
  have countedOther : other.Counted := ⟨by decide, by decide, by decide⟩
  have text : parts.number = "A-1--1202407-1000" := by decide +kernel
  refine ⟨counted, text, text ▸ (invoice_numbers_read_back.1 parts counted).2, countedOther, ?_⟩
  intro same
  exact absurd (invoice_numbers_read_back.2 countedOther counted same) (by decide)

/-- The sign of a year could be taken for a dash of the prefix. -/
example : invoiceNumber "A" ⟨-1000, 1⟩ 1 = invoiceNumber "A-" ⟨1000, 1⟩ 1 := by
  decide +kernel

end NumberParts

end Tuition
