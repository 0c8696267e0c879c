/-
# Reading decimals

A decimal is written as an optional sign and either digits with an optional point and an optional
exponent, or one of the words for infinity and for no number, the latter with an optional payload.
Blanks around the text and underscores anywhere in it are ignored, and digits of any script count.
-/

import Tuition.Decimal.Basic
import Tuition.Text.Blank
import Tuition.Text.Digit

namespace Tuition.Decimal

/-- The greatest place of a first digit that can be written. -/
def writtenPlace : Int := 999999999999999999

/-- The least exponent of a last digit that can be written. -/
def writtenExponent : Int := -1999999999999999997

/-- The text with every digit in ASCII, without underscores and blanks at the ends. -/
def normalizeText (text : String) : List Char :=
  ((Text.trim Text.isBlank text.toList).filter (· ≠ '_')).map fun c =>
    match Text.digitValue? c with
    | some digit => Char.ofNat (48 + digit)
    | none => c.toLower

/-- Split off the digits at the start. -/
def spanDigits (text : List Char) : List Char × List Char :=
  (text.takeWhile Char.isDigit, text.dropWhile Char.isDigit)

/-- The number that a text of ASCII digits spells; the empty text spells zero. -/
def digitsValue (text : List Char) : Nat :=
  (Text.asciiNumeral? text).getD 0

/-- Read an exponent: nothing, or the letter with a signed whole number. -/
def readExponent? (text : List Char) : Option Int :=
  match text with
  | [] => some 0
  | 'e' :: '-' :: digits => (Text.asciiNumeral? digits).map fun n => -(n : Int)
  | 'e' :: '+' :: digits => (Text.asciiNumeral? digits).map fun n => (n : Int)
  | 'e' :: digits => (Text.asciiNumeral? digits).map fun n => (n : Int)
  | _ => none

/-- Read an unsigned finite number as its coefficient and exponent. -/
def readUnsigned? (text : List Char) : Option (Nat × Int) :=
  let whole := spanDigits text
  let fraction := match whole.2 with
    | '.' :: tail => spanDigits tail
    | tail => ([], tail)
  if whole.1.isEmpty && fraction.1.isEmpty then none
  else
    (readExponent? fraction.2).map fun exponent =>
      (digitsValue (whole.1 ++ fraction.1), exponent - fraction.1.length)

/-- Read a payload: digits, or nothing. -/
def readPayload? (text : List Char) : Option Nat :=
  if text.isEmpty then some 0 else Text.asciiNumeral? text

/-- Read an unsigned word. -/
def readWord? (negative : Bool) (text : List Char) : Option Decimal :=
  match text with
  | ['i', 'n', 'f'] => some (.infinite negative)
  | ['i', 'n', 'f', 'i', 'n', 'i', 't', 'y'] => some (.infinite negative)
  | 'n' :: 'a' :: 'n' :: payload => (readPayload? payload).map (.nan negative false)
  | 's' :: 'n' :: 'a' :: 'n' :: payload => (readPayload? payload).map (.nan negative true)
  | _ => none

/-- A finite number as written, unless its exponent is beyond what can be written. -/
def ofWritten (negative : Bool) (coefficient : Nat) (exponent : Int) : Except Fault Decimal :=
  if coefficient = 0 then
    if writtenPlace < exponent ∨ exponent < writtenExponent then .error .invalid
    else .ok (.finite negative 0 exponent)
  else if writtenPlace < digitCount coefficient + exponent - 1 ∨ exponent < writtenExponent then
    .error .invalid
  else .ok (.finite negative coefficient exponent)

/-- Read a decimal. -/
def read (text : String) : Except Fault Decimal :=
  let whole := normalizeText text
  let negative := whole.head? = some '-'
  let unsigned := match whole with
    | '-' :: tail => tail
    | '+' :: tail => tail
    | tail => tail
  match readUnsigned? unsigned with
  | some (coefficient, exponent) => ofWritten negative coefficient exponent
  | none =>
    match readWord? negative unsigned with
    | some found => .ok found
    | none => .error .notANumber

end Tuition.Decimal
