/-
# Dates are read back

A date is written in ten ASCII characters, and what is written is read as that date: by the reader
of dates, which counts octets, and by the reader of the times of payments, which counts letters
and takes a text of ten letters for the midnight of a date. In a text of ASCII characters letters,
octets and characters are the same.
-/

import Tuition.Payments.PaidAt
import Tuition.Proofs.Basics
import Tuition.Proofs.NumberText
import Mathlib.Algebra.Order.Ring.Int

namespace Tuition

namespace Text

/-! ## Characters, letters and octets -/

/-- Without the mark each character is a letter. -/
theorem lettersOf_of_unmarked {text : List Char} (unmarked : ∀ c ∈ text, c ≠ mark) :
    lettersOf text = text.map .char := by
  induction text with
  | nil => rfl
  | cons c rest ih =>
      obtain ⟨first, others⟩ := List.forall_mem_cons.mp unmarked
      cases rest with
      | nil => rfl
      | cons next rest =>
          rw [lettersOf, if_neg first, ih others]
          rfl

variable {text : String}

/-- ASCII characters are no marks. -/
theorem letters_of_ascii (ascii : ∀ c ∈ text.toList, c.toNat < 0x80) :
    letters text = text.toList.map .char := by
  refine lettersOf_of_unmarked fun c mem => ?_
  rintro rfl
  exact absurd (ascii mark mem) (by decide)

theorem size_of_ascii (ascii : ∀ c ∈ text.toList, c.toNat < 0x80) :
    size text = text.toList.length := by
  rw [size, letters_of_ascii ascii, List.length_map]

theorem hasUnpaired_of_ascii (ascii : ∀ c ∈ text.toList, c.toNat < 0x80) :
    hasUnpaired text = false := by
  rw [hasUnpaired, letters_of_ascii ascii, List.any_map, List.any_eq_false]
  intro c _
  exact Bool.false_ne_true

/-- What is removed around a text that holds none of it is all that is trimmed. -/
theorem trim_surrounded {removed : Char → Bool} {before text after : List Char}
    (blankBefore : ∀ c ∈ before, removed c = true) (blankAfter : ∀ c ∈ after, removed c = true)
    (kept : ∀ c ∈ text, removed c = false) : trim removed (before ++ text ++ after) = text := by
  rw [trim, List.append_assoc, List.dropWhile_append_of_pos blankBefore]
  rcases eq_or_ne text [] with rfl | some
  · have none : after.dropWhile removed = [] := by
      simpa using @List.dropWhile_append_of_pos _ removed after [] blankAfter
    rw [List.nil_append, none]
    rfl
  · have blankBack : ∀ c ∈ after.reverse, removed c = true := fun c mem =>
      blankAfter c (List.mem_reverse.mp mem)
    have keptBack := dropWhile_append_of_kept [] (List.reverse_ne_nil_iff.mpr some) fun c mem =>
      kept c (List.mem_reverse.mp mem)
    rw [List.append_nil] at keptBack
    rw [dropWhile_append_of_kept after some kept, List.reverse_append,
      List.dropWhile_append_of_pos blankBack, keptBack, List.reverse_reverse]

/-- A text that holds nothing of what is removed is not trimmed. -/
theorem trim_of_kept {removed : Char → Bool} {text : List Char}
    (kept : ∀ c ∈ text, removed c = false) : trim removed text = text := by
  simpa using trim_surrounded (List.forall_mem_nil _) (List.forall_mem_nil _) kept

/-- Behind the space and within ASCII there are no blanks. -/
theorem isBlank_of_bounds {c : Char} (least : 0x20 < c.toNat) (most : c.toNat < 0x80) :
    isBlank c = false := by
  simp only [isBlank, isWhiteSpace, Bool.or_eq_false_iff, Bool.and_eq_false_iff,
    decide_eq_false_iff_not, beq_eq_false_iff_ne]
  omega

theorem bounds_of_isDigit {c : Char} (digit : c.isDigit = true) :
    0x20 < c.toNat ∧ c.toNat < 0x80 := by
  simp only [Char.isDigit, Bool.and_eq_true, decide_eq_true_eq] at digit
  have least : 48 ≤ c.toNat := digit.1
  have most : c.toNat ≤ 57 := digit.2
  omega

/-! ## Numbers in columns -/

/-- A whole number that is not negative is filled with zeros. -/
theorem padded_natCast (width n : Nat) : padded width n = zeroFilled width (digits n) := by
  have notNegative : ¬((n : Int) < 0) := by omega
  simp [padded, notNegative]

/-- A number that fits its column fills it. -/
theorem length_padded {width n : Nat} (wide : 0 < width) (fits : n < 10 ^ width) :
    (padded width n).toList.length = width := by
  have short := (Nat.length_toDigits_le_iff (by decide) wide).mpr fits
  rw [toList_padded, List.length_append, List.length_replicate, digits, String.length_ofList]
  omega

theorem asciiDigit?_of_isDigit {c : Char} (digit : c.isDigit = true) :
    asciiDigit? c = some (c.toNat - '0'.toNat) := by
  simp only [Char.isDigit, Bool.and_eq_true, decide_eq_true_eq] at digit
  exact if_pos digit

theorem mapM_asciiDigit? {text : List Char} (digits : ∀ c ∈ text, c.isDigit = true) :
    text.mapM asciiDigit? = some (text.map fun c => c.toNat - '0'.toNat) := by
  induction text with
  | nil => rfl
  | cons c rest ih =>
      obtain ⟨first, others⟩ := List.forall_mem_cons.mp digits
      rw [List.mapM_cons, asciiDigit?_of_isDigit first, ih others]
      rfl

/-- Digits spell the number that they stand for. -/
theorem asciiNumeral?_of_digits {text : List Char} (some : text ≠ [])
    (digits : ∀ c ∈ text, c.isDigit = true) :
    asciiNumeral? text = .some (Nat.ofDigitChars 10 text 0) := by
  have whole : text.isEmpty = false := List.isEmpty_eq_false_iff.mpr some
  rw [asciiNumeral?, whole, mapM_asciiDigit? digits, Option.map_some, numeral, List.foldl_map]
  rfl

end Text

namespace Calendar

/-- A text of ASCII characters is its own octets. -/
theorem octets_of_ascii {text : String} (ascii : ∀ c ∈ text.toList, c.toNat < 0x80) :
    octets text = text.toList := by
  rw [octets, Text.utf8Octets, Text.letters_of_ascii ascii]
  generalize text.toList = characters at ascii
  induction characters with
  | nil => rfl
  | cons c rest ih =>
      obtain ⟨first, others⟩ := List.forall_mem_cons.mp ascii
      have one : Text.codeOctets (Text.Letter.char c).code = [c.toNat] := if_pos first
      rw [List.map_cons, List.flatMap_cons, one, List.map_append, ih others, List.map_singleton,
        Char.ofNat_toNat]
      rfl

/-- A number in its column is read off, whatever follows it. -/
theorem takeDigits?_padded {width n : Nat} (wide : 0 < width) (fits : n < 10 ^ width)
    (rest : List Char) :
    takeDigits? width ((Text.padded width n).toList ++ rest) = some (n, rest) := by
  have length := Text.length_padded wide fits
  have front : ((Text.padded width n).toList ++ rest).take width = _ := List.take_left' length
  have behind : ((Text.padded width n).toList ++ rest).drop width = rest := List.drop_left' length
  have some : (Text.padded width n).toList ≠ [] := by
    intro none
    rw [none] at length
    exact Nat.ne_of_lt wide length
  rw [takeDigits?, front, behind, if_pos length,
    Text.asciiNumeral?_of_digits some fun _ => Text.isDigit_of_mem_padded,
    Text.ofDigitChars_padded]
  rfl

end Calendar

namespace Date

variable (date : Date)

theorem toList_text :
    date.text.toList = (Text.padded 4 date.year).toList ++
      '-' :: ((Text.padded 2 date.month).toList ++ '-' :: (Text.padded 2 date.day).toList) := by
  have dash : "-".toList = ['-'] := rfl
  simp [text, dash, Text.padded_natCast]

/-- The numbers of a date fit their columns. -/
theorem fits : date.year < 10 ^ 4 ∧ date.month < 10 ^ 2 ∧ date.day < 10 ^ 2 := by
  have longest : Calendar.daysInMonth date.year date.month ≤ 31 := by
    unfold Calendar.daysInMonth
    split
    · split <;> omega
    · split <;> omega
  have valid := date.valid
  unfold Calendar.Exists at valid
  omega

theorem length_text : date.text.toList.length = 10 := by
  obtain ⟨year, month, day⟩ := date.fits
  simp only [toList_text, List.length_append, List.length_cons,
    Text.length_padded (by decide) year, Text.length_padded (by decide) month,
    Text.length_padded (by decide) day]

/-- A date is written in digits and dashes. -/
theorem isDigit_or_dash_of_mem_text {date : Date} {c : Char} (mem : c ∈ date.text.toList) :
    c.isDigit = true ∨ c = '-' := by
  rw [toList_text] at mem
  simp only [List.mem_append, List.mem_cons] at mem
  rcases mem with year | dash | month | dash | day
  · exact .inl (Text.isDigit_of_mem_padded year)
  · exact .inr dash
  · exact .inl (Text.isDigit_of_mem_padded month)
  · exact .inr dash
  · exact .inl (Text.isDigit_of_mem_padded day)

/-- Digits and dashes lie behind the blanks and within ASCII. -/
theorem bounds_of_mem_text {date : Date} {c : Char} (mem : c ∈ date.text.toList) :
    0x20 < c.toNat ∧ c.toNat < 0x80 := by
  rcases isDigit_or_dash_of_mem_text mem with digit | rfl
  · exact Text.bounds_of_isDigit digit
  · decide

theorem isBlank_of_mem_text {date : Date} {c : Char} (mem : c ∈ date.text.toList) :
    Text.isBlank c = false :=
  have bounds := bounds_of_mem_text mem
  Text.isBlank_of_bounds bounds.1 bounds.2

end Date

namespace Calendar

/-- What stands behind a number in a column starts with a digit. -/
theorem isDigit_firstOctet_padded (width n : Nat) (rest : List Char) :
    (firstOctet ((Text.padded width n).toList ++ rest)).isDigit = true := by
  have some : Nat.toDigits 10 n ≠ [] := Nat.toDigits_ne_nil
  obtain ⟨c, others, column⟩ : ∃ c others, (Text.padded width n).toList = c :: others := by
    refine List.exists_cons_of_ne_nil ?_
    rw [Text.toList_padded]
    exact List.append_ne_nil_of_right_ne_nil _ some
  have mem : c ∈ (Text.padded width n).toList := column ▸ List.mem_cons_self
  rw [column]
  exact Text.isDigit_of_mem_padded mem

/-- A date that is written is read by its three numbers, whatever follows it. -/
theorem readDatePart?_append (length : Nat) (date : Date) (more : List Char) :
    readDatePart? length (date.text.toList ++ more) = some (.ok date) := by
  obtain ⟨year, month, day⟩ := date.fits
  have noWeek : firstOctet ((Text.padded 2 date.month).toList ++
      '-' :: ((Text.padded 2 date.day).toList ++ more)) ≠ 'W' := by
    intro week
    have digit :=
      isDigit_firstOctet_padded 2 date.month ('-' :: ((Text.padded 2 date.day).toList ++ more))
    rw [week] at digit
    exact absurd digit (by decide)
  have made : Date.make date.year date.month date.day = .ok date := dif_pos date.valid
  have dash (rest : List Char) : firstOctet ('-' :: rest) = '-' := rfl
  simp only [readDatePart?, Date.toList_text, List.append_assoc, List.cons_append,
    takeDigits?_padded (by decide) year, takeDigits?_padded (by decide) month,
    takeDigits?_padded (by decide) day, dash, noWeek, made, if_true, if_false,
    Option.bind_eq_bind, Option.bind_some, List.drop_succ_cons, List.drop_zero, ne_eq,
    not_true_eq_false, and_false]
  rfl

theorem readDatePart?_text (date : Date) :
    readDatePart? 10 date.text.toList = some (.ok date) := by
  simpa using readDatePart?_append 10 date []

/-- A date that is written is read back. -/
theorem readDate_text (date : Date) : readDate date.text = .ok date := by
  have ascii : ∀ c ∈ date.text.toList, c.toNat < 0x80 :=
    fun _ mem => (Date.bounds_of_mem_text mem).2
  have reads : 10 ∈ dateLengths ∧ (!Text.hasUnpaired date.text) = true :=
    ⟨by decide, by rw [Text.hasUnpaired_of_ascii ascii]; rfl⟩
  simp only [readDate, octets_of_ascii ascii, date.length_text, if_pos reads, readDatePart?_text,
    Option.getD_some]

end Calendar

/-- The text of a date is taken as a payment at its midnight. -/
theorem Payments.readPaidAt_text (date : Date) :
    readPaidAt date.text = .ok ⟨.atMidnight date, none⟩ := by
  have ascii : ∀ c ∈ date.text.toList, c.toNat < 0x80 :=
    fun _ mem => (Date.bounds_of_mem_text mem).2
  have trimmed : String.ofList (Text.trim Text.isBlank date.text.toList) = date.text := by
    rw [Text.trim_of_kept fun _ => Date.isBlank_of_mem_text, String.ofList_toList]
  have ten : Text.size date.text = 10 := by rw [Text.size_of_ascii ascii, date.length_text]
  simp only [readPaidAt, trimmed, ten, if_true, Calendar.readDate_text]
  rfl

end Tuition
