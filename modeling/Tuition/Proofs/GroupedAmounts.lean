/-
# Amounts in documents are read back

A document shows an amount with two places, commas between groups of three digits, and its
currency. Without currency and commas the text is that of the amount itself, as long as it has two
places, and what the reader of numbers makes of it is the amount, to the sign of a zero. All
groups behind the first have three digits, however many there are.
-/

import Tuition.Decimal.Reader
import Tuition.Document
import Tuition.Proofs.StampTexts
import Tuition.Proofs.Cents

namespace Tuition

open Text

/-! ## Two digits after the point -/

namespace Text

theorem pair_eq {n : Nat} (fits : n < 100) :
    pair n = [Nat.digitChar (n / 10), Nat.digitChar (n % 10)] := by
  have zero : Nat.digitChar 0 = '0' := rfl
  rw [pair, toList_padded, digits, String.length_ofList]
  rcases Nat.lt_or_ge n 10 with one | two
  · rw [Nat.toDigits_of_lt_base one, Nat.div_eq_of_lt one, Nat.mod_eq_of_lt one, zero]
    rfl
  · rw [Nat.toDigits_of_base_le (by decide) two, Nat.toDigits_of_lt_base (by omega)]
    rfl

/-- The digits of a number of hundredths are those of the whole number and two more. -/
theorem padded_hundredths (n : Nat) :
    (padded 3 n).toList = Nat.toDigits 10 (n / 100) ++ pair (n % 100) := by
  rw [toList_padded, digits, String.length_ofList]
  rcases Nat.lt_or_ge n 100 with few | many
  · have length : (Nat.toDigits 10 n).length ≤ 2 :=
      (Nat.length_toDigits_le_iff (by decide) (by decide)).mpr few
    have missing : 3 - (Nat.toDigits 10 n).length = 2 - (Nat.toDigits 10 n).length + 1 := by omega
    rw [Nat.div_eq_of_lt few, Nat.mod_eq_of_lt few, pair, toList_padded, digits,
      String.length_ofList, missing, List.replicate_succ]
    rfl
  · have length : ¬(Nat.toDigits 10 n).length ≤ 2 := fun le =>
      absurd ((Nat.length_toDigits_le_iff (by decide) (by decide)).mp le) (Nat.not_lt.mpr many)
    have missing : 3 - (Nat.toDigits 10 n).length = 0 := by omega
    have whole : n / 10 / 10 = n / 100 := Nat.div_div_eq_div_mul n 10 10
    have tens : n / 10 % 10 = n % 100 / 10 := by omega
    have ones : n % 10 = n % 100 % 10 := by omega
    rw [missing, List.replicate_zero, List.nil_append,
      Nat.toDigits_of_base_le (by decide) (by omega), Nat.toDigits_of_base_le (by decide)
        (by omega), whole, tens, ones,
      pair_eq (Nat.mod_lt n (by decide)), List.append_assoc]
    rfl

end Text

namespace Decimal

/-- A decimal with two places. -/
def InCents (amount : Decimal) : Prop :=
  ∃ negative coefficient, amount = .finite negative coefficient (-2)

theorem inCents_ofCents (cents : Int) : (ofCents cents).InCents :=
  ⟨_, _, rfl⟩

/-! ## Groups of three -/

/-- Digits with commas between groups of three of them; only the first group can have fewer. -/
def IsGrouped (digits text : List Char) : Prop :=
  ∃ (first : List Char) (groups : List (List Char)), digits = first ++ groups.flatten ∧
    text = first ++ groups.flatMap (',' :: ·) ∧ 1 ≤ first.length ∧ first.length ≤ 3 ∧
    ∀ group ∈ groups, group.length = 3

theorem isGrouped_groupThrees {digits : List Char} (some : digits ≠ []) :
    IsGrouped digits.reverse (groupThrees digits).reverse := by
  induction digits using groupThrees.induct with
  | case1 a b c d rest ih =>
      obtain ⟨first, groups, whole, grouped, least, most, threes⟩ := ih (List.cons_ne_nil d rest)
      refine ⟨first, groups ++ [[c, b, a]], ?_, ?_, least, most, ?_⟩
      · have split : (a :: b :: c :: d :: rest).reverse =
            (d :: rest).reverse ++ [c, b, a] := by simp
        rw [split, whole]
        simp
      · have split : (groupThrees (a :: b :: c :: d :: rest)).reverse =
            (groupThrees (d :: rest)).reverse ++ [',', c, b, a] := by simp [groupThrees]
        rw [split, grouped]
        simp
      · intro group mem
        rcases List.mem_append.mp mem with earlier | last
        · exact threes group earlier
        · rw [List.mem_singleton.mp last]
          rfl
  | case2 few short =>
      have same : groupThrees few = few := by
        unfold groupThrees
        split
        · exact absurd rfl (short _ _ _ _ _)
        · rfl
      refine ⟨few.reverse, [], by simp, by simp [same], ?_, ?_, by simp⟩
      · rw [List.length_reverse]
        exact List.length_pos_of_ne_nil some
      · rw [List.length_reverse]
        match few, short with
        | [], _ | [_], _ | [_, _], _ | [_, _, _], _ => simp
        | a :: b :: c :: d :: rest, short => exact absurd rfl (short a b c d rest)

/-- Without the commas the digits are left. -/
theorem IsGrouped.filter_eq {digits text : List Char} (grouped : IsGrouped digits text)
    (clean : ',' ∉ digits) : text.filter (· ≠ ',') = digits := by
  obtain ⟨first, groups, rfl, rfl, -⟩ := grouped
  have kept {part : List Char} (clean : ',' ∉ part) : part.filter (· ≠ ',') = part :=
    List.filter_eq_self.mpr fun c mem => decide_eq_true fun comma => clean (comma ▸ mem)
  rw [List.mem_append, not_or] at clean
  rw [List.filter_append, kept clean.1]
  congr 1
  obtain ⟨-, clean⟩ := clean
  induction groups with
  | nil => rfl
  | cons group groups ih =>
      rw [List.flatten_cons, List.mem_append, not_or] at clean
      rw [List.flatMap_cons, List.cons_append, List.filter_cons_of_neg (by decide),
        List.filter_append, kept clean.1, ih clean.2, List.flatten_cons]

theorem isGrouped_groupedDigits (n : Nat) :
    IsGrouped (Nat.toDigits 10 n) (groupedDigits n).toList := by
  have some : Nat.toDigits 10 n ≠ [] := Nat.toDigits_ne_nil
  have grouped := isGrouped_groupThrees (List.reverse_ne_nil_iff.mpr some)
  rw [List.reverse_reverse] at grouped
  rw [groupedDigits, String.toList_ofList, digits, String.toList_ofList]
  exact grouped

/-! ## Texts of amounts -/

/-- The text of a number of hundredths without commas. -/
def plain (negative : Bool) (hundredths : Nat) : List Char :=
  (signText negative).toList ++
    (Nat.toDigits 10 (hundredths / 100) ++ '.' :: pair (hundredths % 100))

/-- An amount with two places is shown with its sign, grouped digits, a
point and two more digits. -/
theorem toList_grouped (negative : Bool) (hundredths : Nat) :
    (finite negative hundredths (-2)).grouped.toList = (signText negative).toList ++
      ((groupedDigits (hundredths / 100)).toList ++ '.' :: pair (hundredths % 100)) := by
  have point : ".".toList = ['.'] := rfl
  have same : toHundredthsEven hundredths (-2) = hundredths := Nat.mul_one hundredths
  simp [grouped, same, groupedHundredths, point, toList_pair]

/-- It is written in the same way, without the commas. -/
theorem toList_text (negative : Bool) (hundredths : Nat) :
    (finite negative hundredths (-2)).text.toList = plain negative hundredths := by
  have point : ".".toList = ['.'] := rfl
  have positional : (-2 : Int) ≤ 0 ∧ -6 ≤ (digitCount hundredths : Int) + -2 - 1 :=
    ⟨by decide, by omega⟩
  have all : (zeroFilled 3 (digits hundredths)).toList =
      Nat.toDigits 10 (hundredths / 100) ++ pair (hundredths % 100) := by
    rw [← padded_hundredths, padded_natCast]
  have two : (pair (hundredths % 100)).length = 2 := length_pair (Nat.mod_lt _ (by decide))
  have length : (zeroFilled 3 (digits hundredths)).length - 2 =
      (Nat.toDigits 10 (hundredths / 100)).length := by
    rw [← String.length_toList, all, List.length_append, two, Nat.add_sub_cancel]
  have apart : (pointed hundredths 2).toList =
      (zeroFilled 3 (digits hundredths)).toList.take
        ((zeroFilled 3 (digits hundredths)).length - 2) ++
        '.' :: (zeroFilled 3 (digits hundredths)).toList.drop
          ((zeroFilled 3 (digits hundredths)).length - 2) := by
    simp [pointed, point]
  have written : (finite negative hundredths (-2)).text =
      signText negative ++ pointed hundredths 2 := by
    simp only [text, if_pos positional]
    rfl
  rw [written, String.toList_append, apart, length, all, List.take_left' rfl,
    List.drop_left' rfl, plain]

theorem filter_grouped (negative : Bool) (hundredths : Nat) :
    (finite negative hundredths (-2)).grouped.toList.filter (· ≠ ',') =
      plain negative hundredths := by
  have sign : (signText negative).toList.filter (· ≠ ',') = (signText negative).toList := by
    cases negative <;> rfl
  have places : (pair (hundredths % 100)).filter (· ≠ ',') = pair (hundredths % 100) :=
    List.filter_eq_self.mpr fun c mem => decide_eq_true fun comma =>
      not_mem_padded rfl _ _ (comma ▸ mem)
  rw [toList_grouped, List.filter_append, List.filter_append, sign,
    (isGrouped_groupedDigits _).filter_eq (not_mem_toDigits rfl _),
    List.filter_cons_of_pos (by decide), places, plain]

/-! ## Reading them -/

/-- The decimal that a text without blanks spells, a minus sign coming first. -/
def ofPlain? (text : List Char) : Option Decimal :=
  match text with
  | '-' :: rest => (readUnsigned? rest).map fun read => .finite true read.1 read.2
  | rest => (readUnsigned? rest).map fun read => .finite false read.1 read.2

theorem spanDigits_append (rest : List Char) {digits : List Char}
    (all : ∀ c ∈ digits, c.isDigit = true) (stops : rest.takeWhile Char.isDigit = []) :
    spanDigits (digits ++ rest) = (digits, rest) := by
  have behind : rest.dropWhile Char.isDigit = rest := by
    have parts := List.takeWhile_append_dropWhile (p := Char.isDigit) (l := rest)
    rwa [stops] at parts
  rw [spanDigits, List.takeWhile_append_of_pos all, List.dropWhile_append_of_pos all,
    stops, behind, List.append_nil]

theorem readUnsigned?_hundredths (hundredths : Nat) :
    readUnsigned? (Nat.toDigits 10 (hundredths / 100) ++ '.' :: pair (hundredths % 100)) =
      some (hundredths, -2) := by
  have whole : ∀ c ∈ Nat.toDigits 10 (hundredths / 100), c.isDigit = true := fun _ =>
    Nat.isDigit_of_mem_toDigits (by decide) (by decide)
  have places : ∀ c ∈ pair (hundredths % 100), c.isDigit = true := fun _ => isDigit_of_mem_padded
  have spanPlaces := spanDigits_append [] places rfl
  rw [List.append_nil] at spanPlaces
  have some : Nat.toDigits 10 (hundredths / 100) ≠ [] := Nat.toDigits_ne_nil
  have value : digitsValue (Nat.toDigits 10 (hundredths / 100) ++ pair (hundredths % 100)) =
      hundredths := by
    rw [digitsValue, ← padded_hundredths, asciiNumeral?_of_digits ?_ fun _ =>
      isDigit_of_mem_padded, ofDigitChars_padded]
    · rfl
    · rw [padded_hundredths]
      exact List.append_ne_nil_of_left_ne_nil some _
  have two : (pair (hundredths % 100)).length = 2 := length_pair (Nat.mod_lt _ (by decide))
  have notEmpty : (Nat.toDigits 10 (hundredths / 100)).isEmpty = false :=
    List.isEmpty_eq_false_iff.mpr some
  simp only [readUnsigned?, spanDigits_append ('.' :: pair (hundredths % 100)) whole rfl,
    spanPlaces, notEmpty, Bool.false_and, Bool.false_eq_true, if_false, value, two, readExponent?]
  rfl

/-- The text of an amount with two places spells the amount. -/
theorem ofPlain?_plain (negative : Bool) (hundredths : Nat) :
    ofPlain? (plain negative hundredths) = some (.finite negative hundredths (-2)) := by
  have read := readUnsigned?_hundredths hundredths
  cases negative with
  | true =>
      show (readUnsigned?
        (Nat.toDigits 10 (hundredths / 100) ++ '.' :: pair (hundredths % 100))).map _ = _
      rw [read]
      rfl
  | false =>
      have unsigned : plain false hundredths =
          Nat.toDigits 10 (hundredths / 100) ++ '.' :: pair (hundredths % 100) := rfl
      have noMinus :
          '-' ∉ Nat.toDigits 10 (hundredths / 100) ++ '.' :: pair (hundredths % 100) := by
        simp only [List.mem_append, List.mem_cons]
        rintro (digit | point | digit)
        · exact not_mem_toDigits rfl _ digit
        · exact absurd point (by decide)
        · exact not_mem_padded rfl _ _ digit
      rw [unsigned]
      unfold ofPlain?
      split
      · next rest minus => exact absurd (minus ▸ List.mem_cons_self) noMinus
      · rw [read]
        rfl

end Decimal
end Tuition
