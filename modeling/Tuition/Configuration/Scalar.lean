/-
# Scalars of the configuration

A scalar without quotes is nothing, a truth value, a number, a date or a text, depending on how it
looks. Numbers with colons count in sixties, as hours, minutes and seconds do.
-/

import Tuition.Configuration.Timestamp
import Tuition.Json.Reader
import Tuition.Text.Number
import Tuition.Text.Split

namespace Tuition.Configuration

/-- Why a configuration is not read. -/
inductive ReadFault where
  | malformed
  | noDigits (base : Nat)
  | noSuchTime (fault : Calendar.Fault)
  | notNamed (kind : String)
  deriving DecidableEq, Repr

/-- How a fault is reported. -/
def ReadFault.message : ReadFault → String
  | .malformed => "malformed configuration"
  | .noDigits base => "invalid literal for int() with base " ++ Text.digits base ++ ": ''"
  | .noSuchTime fault => fault.message
  | .notNamed kind => "'" ++ kind ++ "' object has no attribute 'get'"

/-- The words for nothing. -/
def nothingWords : List String := ["", "~", "null", "Null", "NULL"]

/-- The words for what is so. -/
def trueWords : List String :=
  ["yes", "Yes", "YES", "true", "True", "TRUE", "on", "On", "ON"]

/-- The words for what is not so. -/
def falseWords : List String :=
  ["no", "No", "NO", "false", "False", "FALSE", "off", "Off", "OFF"]

/-- Split a sign off: whether it is a minus sign, and the rest. -/
def splitSign : List Char → Bool × List Char
  | '-' :: rest => (true, rest)
  | '+' :: rest => (false, rest)
  | text => (false, text)

/-- The value of a digit of any base up to sixteen. -/
def baseDigit? (base : Nat) (c : Char) : Option Nat :=
  (Json.hexDigit? c).filter (· < base)

/-- The number that digits of a base spell, underscores between them being ignored; `none` for any
other character. There have to be digits. -/
def baseNumeral? (base : Nat) (text : List Char) : Option (Except ReadFault Nat) :=
  if text.isEmpty then none
  else
    ((text.filter (· ≠ '_')).mapM (baseDigit? base)).map fun digits =>
      if digits.isEmpty then .error (.noDigits base)
      else .ok (digits.foldl (fun value digit => base * value + digit) 0)

/-- Whether a text is a number below sixty, of one or two digits. -/
def isSixtieth : List Char → Bool
  | [digit] => digit.isDigit
  | [ten, digit] => '0' ≤ ten && ten ≤ '5' && digit.isDigit
  | _ => false

/-- The number that ASCII digits spell, underscores between them being ignored. -/
def spacedNumeral (text : List Char) : Nat :=
  (Text.asciiNumeral? (text.filter (· ≠ '_'))).getD 0

/-- Whether a text starts with a digit and goes on with digits and underscores. -/
def isSpacedNumeral (text : List Char) : Bool :=
  (text.head?.map Char.isDigit).getD false && text.all fun c => c.isDigit || c == '_'

/-- The parts of a number in sixties, of which there are at least two. -/
def sixties? (text : List Char) : Option (List Nat) :=
  match Text.split (· = ':') text with
  | first :: second :: others =>
    if isSpacedNumeral first && (second :: others).all isSixtieth then
      some ((first :: second :: others).map spacedNumeral)
    else none
  | _ => none

/-- The number that parts in sixties make up. -/
def ofSixties (parts : List Nat) : Nat :=
  parts.foldl (fun value part => 60 * value + part) 0

/-- The number that an unsigned scalar looks like: binary after `0b`, hexadecimal after `0x`,
octal after another zero, and else decimal or in sixties. -/
def unsignedWhole? (text : List Char) : Option (Except ReadFault Nat) :=
  match text with
  | '0' :: 'b' :: digits => baseNumeral? 2 digits
  | '0' :: 'x' :: digits => baseNumeral? 16 digits
  | '0' :: digits => baseNumeral? 8 ('0' :: digits)
  | _ =>
    if isSpacedNumeral text then some (.ok (spacedNumeral text))
    else (sixties? text).map fun parts => .ok (ofSixties parts)

/-- The whole number that a scalar looks like. -/
def whole? (text : List Char) : Option (Except ReadFault Int) :=
  let (negative, digits) := splitSign text
  (unsignedWhole? digits).map fun size =>
    size.map fun n => if negative then -(n : Int) else n

/-- Whether a character may stand in the digits of a fractional number. -/
def isSpacedDigit (c : Char) : Bool :=
  c.isDigit || c == '_'

/-- The exponent of a fractional number: nothing, or the letter with a sign and digits. -/
def exponent? (text : List Char) : Option Int :=
  match text with
  | [] => some 0
  | letter :: sign :: digits =>
    if letter ≠ 'e' ∧ letter ≠ 'E' then none
    else if sign = '+' then (Text.asciiNumeral? digits).map fun n => (n : Int)
    else if sign = '-' then (Text.asciiNumeral? digits).map fun n => -(n : Int)
    else none
  | _ => none

/-- The fractional number that an unsigned scalar with a point looks like: the digits before the
point, if there have to be any, and those behind it. -/
def pointed? (text : List Char) (needsWhole : Bool) : Option Binary64 :=
  let whole := text.takeWhile isSpacedDigit
  match text.drop whole.length with
  | '.' :: tail =>
    let decimals := tail.takeWhile isSpacedDigit
    if isSpacedNumeral whole || (!needsWhole && whole.isEmpty && isSpacedNumeral decimals) then
      (exponent? (tail.drop decimals.length)).map fun exponent =>
        Binary64.ofDecimal false (spacedNumeral (whole ++ decimals))
          (exponent - (decimals.filter (· ≠ '_')).length)
    else none
  | _ => none

/-- Add parts in sixties to a number, the smallest first, which counts `unit` times. -/
def addSixties (value : Binary64) (unit : Nat) : List Nat → Binary64
  | [] => value
  | part :: others => addSixties (value.add (.ofInt (part * unit))) (60 * unit) others

/-- The fractional number that an unsigned scalar in sixties with a point looks like. -/
def pointedSixties? (text : List Char) : Option Binary64 :=
  let whole := text.takeWhile (· ≠ '.')
  match text.drop whole.length with
  | '.' :: decimals =>
    if decimals.all isSpacedDigit then
      (sixties? whole).map fun parts =>
        let places := decimals.filter (· ≠ '_')
        let last := Binary64.ofDecimal false
          ((parts.getLast?.getD 0) * tenTo places.length + spacedNumeral places) (-places.length)
        addSixties last 60 parts.dropLast.reverse
    else none
  | _ => none

/-- The words for an infinite number. -/
def infinityWords : List String := [".inf", ".Inf", ".INF"]

/-- The words for what is no number. -/
def noNumberWords : List String := [".nan", ".NaN", ".NAN"]

/-- The fractional number that a scalar looks like. Without a sign it may start with its point. -/
def fractional? (text : List Char) : Option Binary64 :=
  let (negative, unsigned) := splitSign text
  let signed (value : Binary64) : Binary64 := if negative then value.neg else value
  if noNumberWords.contains (String.ofList text) then some .nan
  else if infinityWords.contains (String.ofList unsigned) then some (.infinite negative)
  else
    match pointed? unsigned (unsigned.length < text.length) with
    | some value => some (signed value)
    | none => (pointedSixties? unsigned).map signed

/-- The words that ask for something else than their text, which no configuration gives. -/
def reservedWords : List String := ["=", "<<"]

/-- The value of a scalar without quotes. -/
def plain (text : String) : Except ReadFault Json :=
  if reservedWords.contains text then .error .malformed
  else if nothingWords.contains text then .ok .null
  else if trueWords.contains text then .ok (.bool true)
  else if falseWords.contains text then .ok (.bool false)
  else
    match fractional? text.toList, whole? text.toList, timestamp? text.toList with
    | some value, _, _ => .ok (.real value)
    | none, some n, _ => n.map .int
    | none, none, some time => (time.map .str).mapError .noSuchTime
    | none, none, none => .ok (.str text)

end Tuition.Configuration
