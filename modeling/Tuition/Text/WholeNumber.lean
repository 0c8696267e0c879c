/-
# Reading whole numbers

A whole number is written as an optional sign and digits of any script, between which single
underscores may stand. Blanks around it are ignored, and more than 4300 digits are refused.
-/

import Tuition.Text.Blank
import Tuition.Text.Digit

namespace Tuition.Text

/-- The greatest number of digits of a whole number. -/
def wholeDigitLimit : Nat := 4300

/-- The values of digits between which single underscores may stand. -/
def spacedDigits? : List Char → Option (List Nat)
  | [] => none
  | [c] => (digitValue? c).map ([·])
  | c :: '_' :: rest => do
    let digit ← digitValue? c
    let digits ← spacedDigits? rest
    return digit :: digits
  | c :: rest => do
    let digit ← digitValue? c
    let digits ← spacedDigits? rest
    return digit :: digits

/-- Read an unsigned whole number. -/
def readUnsigned? (text : List Char) : Option Nat :=
  (spacedDigits? text).bind fun digits =>
    if wholeDigitLimit < digits.length then none else some (numeral digits)

/-- Read a whole number. -/
def readInteger? (text : String) : Option Int :=
  match trim isBlank text.toList with
  | '-' :: digits => (readUnsigned? digits).map fun n => -(n : Int)
  | '+' :: digits => (readUnsigned? digits).map fun n => (n : Int)
  | digits => (readUnsigned? digits).map fun n => (n : Int)

end Tuition.Text
