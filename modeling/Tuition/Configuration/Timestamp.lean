/-
# Dates and moments of the configuration

A scalar `YYYY-MM-DD` is a date. With a time behind it, it is a moment: the hours, minutes and
seconds stand between colons after a `T` or spaces, a fraction of a second and a time zone may
follow, and the month, the day and the hour may then do with one digit. Either is kept as its
ISO 8601 text.
-/

import Tuition.Calendar.IsoReader

namespace Tuition.Configuration

/-- Read a number of one or two digits, all that stand at the front. -/
def shortNumber? (text : List Char) : Option (Nat × List Char) :=
  let digits := text.takeWhile Char.isDigit
  if digits.length ≤ 2 then (Text.asciiNumeral? digits).map fun n => (n, text.drop digits.length)
  else none

/-- What follows a character that a text has to start with. -/
def behind? (mark : Char) : List Char → Option (List Char)
  | [] => none
  | c :: rest => if c = mark then some rest else none

/-- What follows the separator of a date and a time. -/
def behindSeparator? (text : List Char) : Option (List Char) :=
  match text with
  | 'T' :: rest => some rest
  | 't' :: rest => some rest
  | ' ' :: rest => some (rest.dropWhile (· = ' '))
  | _ => none

/-- Read the microseconds of a fraction, if there is one: its first six digits count. -/
def fraction (text : List Char) : Nat × List Char :=
  match text with
  | '.' :: rest =>
    let digits := rest.takeWhile Char.isDigit
    let counted := digits.take 6
    ((Text.asciiNumeral? counted).getD 0 * tenTo (6 - counted.length), rest.drop digits.length)
  | _ => (0, text)

/-- Read the minutes behind the hours of a time zone, which end the text. -/
def zoneMinutes? (text : List Char) : Option Nat :=
  match text with
  | [] => some 0
  | ':' :: rest => do
    let (minutes, left) ← Calendar.takeDigits? 2 rest
    if left.isEmpty then some minutes else none
  | _ => none

/-- Read the time zone that ends a text, in microseconds, if there is one. -/
def zone? (text : List Char) : Option (Option Int) :=
  match text.dropWhile (· = ' ') with
  | [] => if text.isEmpty then some none else none
  | ['Z'] => some (some 0)
  | sign :: rest => do
    if sign ≠ '+' ∧ sign ≠ '-' then none
    let (hours, left) ← shortNumber? rest
    let minutes ← zoneMinutes? left
    let size : Int := (60 * hours + minutes : Nat) * 60000000
    return some (if sign = '-' then -size else size)

/-- Read a time behind its separator: the reading of the clock and the time zone. -/
def clockTime? (text : List Char) : Option (Calendar.ClockReading × Option Int) := do
  let (hour, rest) ← shortNumber? text
  let (minute, rest) ← Calendar.takeDigits? 2 (← behind? ':' rest)
  let (second, rest) ← Calendar.takeDigits? 2 (← behind? ':' rest)
  let (microsecond, rest) := fraction rest
  let zone ← zone? rest
  return ({ hour, minute, second, microsecond }, zone)

/-- The text of the date or moment that a scalar looks like, or why there is none such. -/
def timestamp? (text : List Char) : Option (Except Calendar.Fault String) := do
  let (year, rest) ← Calendar.takeDigits? 4 text
  let (month, rest) ← shortNumber? (← behind? '-' rest)
  let (day, rest) ← shortNumber? (← behind? '-' rest)
  let date := Date.make year month day
  if rest.isEmpty then
    if text.length = 10 then return date.map Date.text else none
  let (reading, zone) ← clockTime? (← behindSeparator? rest)
  return (Calendar.assemble date reading zone).map Stamp.text

end Tuition.Configuration
