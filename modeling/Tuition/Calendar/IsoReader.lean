/-
# Reading ISO 8601 dates and times

A date is written `YYYY-MM-DD`, `YYYYMMDD` or as a week of a year with an optional day of it. A
time follows the date after any one character; it is `HH[:MM[:SS]]`, with or without the colons,
with an optional fraction of a second and an optional offset from universal time. Places in the
text are counted in octets of its UTF-8 form, in which an ASCII character is one octet.
-/

import Tuition.Calendar.Moment
import Tuition.Text.Digit
import Tuition.Text.Octets
import Tuition.Word

namespace Tuition.Calendar

/-- The octets of the UTF-8 form of a text, each as the character with its code. -/
def octets (text : String) : List Char :=
  (Text.utf8Octets text).map Char.ofNat

/-- Read exactly `count` digits off the front. -/
def takeDigits? (count : Nat) (text : List Char) : Option (Nat × List Char) :=
  if (text.take count).length = count then
    (Text.asciiNumeral? (text.take count)).map fun value => (value, text.drop count)
  else none

/-- The first octet, or the null octet at the end. -/
def firstOctet (text : List Char) : Char :=
  text.headD '\x00'

/-- Whether a year has a fifty-third week. -/
def hasLongYear (year : Nat) : Bool :=
  let first := (daysBeforeYear year + 7) % 7
  first == 3 || (first == 2 && isLeap year)

/-- The ordinal of the Monday of the first week of a year. -/
def firstMonday (year : Nat) : Int :=
  let firstDay : Int := daysBeforeYear year + 1
  let weekday : Int := (firstDay + 6) % 7
  let monday := firstDay - weekday
  if 3 < weekday then monday + 7 else monday

/-- The date of a day of a week of a year: `none` when there is no such week or day.
Weeks of the year 0 lie in no month of the calendar, and the last week of the year 9999
reaches past its end. -/
def ofWeek? (year week day : Nat) : Option (Except Fault Date) :=
  if week = 0 ∨ 53 < week ∨ (week = 53 ∧ !hasLongYear year) ∨ day = 0 ∨ 7 < day then none
  else if year = 0 then some (.error .monthOutOfRange)
  else
    let ordinal := firstMonday year + (week - 1 : Nat) * 7 + (day - 1 : Nat)
    some <| match Date.ofOrdinal? ordinal.toNat with
      | some date => .ok date
      | none => .error (.yearOutOfRange 10000)

/-- Read a date that takes up to `length` octets: `none` when the text has no such form, else the
date or which of its numbers is wrong. -/
def readDatePart? (length : Nat) (text : List Char) : Option (Except Fault Date) := do
  let (year, afterYear) ← takeDigits? 4 text
  let dashed := firstOctet afterYear = '-'
  let body := if dashed then afterYear.drop 1 else afterYear
  if firstOctet body = 'W' then
    let (week, afterWeek) ← takeDigits? 2 (body.drop 1)
    let read := if dashed then 8 else 7
    if read < length then
      if dashed ∧ firstOctet afterWeek ≠ '-' then none
      let (day, _) ← takeDigits? 1 (if dashed then afterWeek.drop 1 else afterWeek)
      ofWeek? year week day
    else ofWeek? year week 1
  else
    let (month, afterMonth) ← takeDigits? 2 body
    if dashed ∧ firstOctet afterMonth ≠ '-' then none
    let (day, _) ← takeDigits? 2 (if dashed then afterMonth.drop 1 else afterMonth)
    return Date.make year month day

/-- The lengths that a date can have, which are the places where a
separator can stand behind it. -/
def dateLengths : List Nat := [7, 8, 10]

/-- Read a date that is the whole text. -/
def readDate (text : String) : Except Fault Date :=
  let whole := octets text
  let result :=
    if whole.length ∈ dateLengths ∧ !Text.hasUnpaired text then readDatePart? whole.length whole
    else none
  result.getD (.error (.unreadable text))

/-- How many octets the date takes that a text of a date and a time starts with. -/
def dateLength (text : List Char) : Nat :=
  let octetAt (place : Nat) : Char := firstOctet (text.drop place)
  if text.length = 7 then 7
  else if octetAt 4 = '-' then
    if octetAt 5 = 'W' then
      if octetAt 8 = '-' then
        if text.length = 9 then text.length
        else if 10 < text.length ∧ (octetAt 10).isDigit then 8
        else 10
      else 8
    else 10
  else if octetAt 4 = 'W' then
    let stop := 7 + ((text.drop 7).takeWhile Char.isDigit).length
    if stop < 9 then stop else if stop % 2 = 0 then 7 else 8
  else 8

/-- The hours, minutes, seconds and microseconds of a time or an offset. -/
structure ClockReading where
  hour : Nat := 0
  minute : Nat := 0
  second : Nat := 0
  microsecond : Nat := 0
  deriving Repr

/-- Set the first, second or third number of a reading. -/
def ClockReading.set (reading : ClockReading) (index value : Nat) : ClockReading :=
  match index with
  | 0 => { reading with hour := value }
  | 1 => { reading with minute := value }
  | _ => { reading with second := value }

/-- Read a fraction of a second that ends `left` octets on: at most six digits count, and further
digits are passed over. The flag says whether something is left behind it. -/
def readFraction? (left : Nat) (text : List Char) (reading : ClockReading) :
    Option (ClockReading × Bool) := do
  let count := min left 6
  let (value, rest) ← takeDigits? count text
  let after := rest.dropWhile Char.isDigit
  return ({ reading with microsecond := value * tenTo (6 - count) }, firstOctet after ≠ '\x00')

/-- Read the numbers of a time from the one at `index` on. The time ends `left` octets on, and
`text` holds all octets of the text from here, those behind the time included. The flag says
whether something is left behind what was read. -/
def readClock? (fuel index left : Nat) (colons : Bool) (text : List Char)
    (reading : ClockReading) : Option (ClockReading × Bool) :=
  match fuel with
  | 0 => readFraction? left text reading
  | fuel + 1 =>
    match takeDigits? 2 text with
    | none => none
    | some (value, rest) =>
      let reading := reading.set index value
      let next := firstOctet rest
      let colons := if index = 0 then next = ':' else colons
      if left ≤ 3 then some (reading, next ≠ '\x00')
      else if colons ∧ next = ':' then
        readClock? fuel (index + 1) (left - 3) colons (rest.drop 1) reading
      else if next = '.' ∨ next = ',' then readFraction? (left - 3) (rest.drop 1) reading
      else if !colons then readClock? fuel (index + 1) (left - 2) colons rest reading
      else none

/-- Whether an octet starts an offset. -/
def startsOffset (octet : Char) : Bool :=
  octet == '+' || octet == '-' || octet == 'Z'

/-- How many octets of a time stand before its offset; the first octet counts as one even
at the end of the text. -/
def clockLength (text : List Char) : Nat :=
  if startsOffset (firstOctet text) then 0
  else 1 + ((text.drop 1).takeWhile (!startsOffset ·)).length

/-- Read an offset after its sign. An offset of less than a second is universal time. -/
def readOffset? (negative : Bool) (text : List Char) : Option Int :=
  match readClock? 3 0 text.length true text {} with
  | some (reading, false) =>
    let seconds : Int := (reading.hour * 60 + reading.minute) * 60 + reading.second
    if seconds = 0 then some 0
    else
      let size := seconds * 1000000 + reading.microsecond
      some (if negative then -size else size)
  | _ => none

/-- Read a time with an optional offset in microseconds. -/
def readTimePart? (text : List Char) : Option (ClockReading × Option Int) := do
  let length := clockLength text
  let (reading, left) ← readClock? 3 0 length true text {}
  match text.drop length with
  | [] => if left then none else some (reading, none)
  | 'Z' :: rest => if firstOctet rest = '\x00' then some (reading, some 0) else none
  | sign :: rest =>
    let offset ← readOffset? (sign = '-') rest
    return (reading, some offset)

/-- How many octets the character takes that separates date and time. -/
def separatorLength (octet : Char) : Nat :=
  if octet.toNat < 0x80 then 1
  else if octet.toNat / 16 = 0xE then 3
  else if octet.toNat / 16 = 0xF then 4
  else 2

/-- Put a date and a reading of a clock together. A wrong offset is noticed before a wrong date,
and a wrong date before a wrong time. -/
def assemble (date : Except Fault Date) (reading : ClockReading) (offset : Option Int) :
    Except Fault Stamp := do
  let clock ← offset.mapM ClockOffset.make
  let day ← date
  let time ← TimeOfDay.make reading.hour reading.minute reading.second reading.microsecond
  return ⟨⟨day, time⟩, clock⟩

/-- Read a date and time from the octets of a text: `none` when it has no such form. -/
def readStampOctets? (text : List Char) : Option (Except Fault Stamp) := do
  if text.length < 7 then none
  let length := dateLength text
  let date ← readDatePart? length text
  if text.length ≤ length then return assemble date {} none
  let rest := text.drop length
  let (reading, offset) ← readTimePart? (rest.drop (separatorLength (firstOctet rest)))
  return assemble date reading offset

/-- A text in which a surrogate without its partner, where the separator of date and time
can stand, is put right. -/
def withSeparator (text : String) : String :=
  let letters := Text.letters text
  match dateLengths.find? fun place => letters[place]?.any Text.Letter.isUnpaired with
  | some place => Text.ofLetters (letters.set place (.char 'T'))
  | none => text

/-- Read a date with an optional time. Only their separator may be a
surrogate without its partner. -/
def readStamp (text : String) : Except Fault Stamp :=
  let clean := withSeparator text
  let result := if Text.hasUnpaired clean then none else readStampOctets? (octets clean)
  result.getD (.error (.unreadable text))

end Tuition.Calendar
