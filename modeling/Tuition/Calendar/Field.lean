/-
# Dates in the fields of a request

A date field takes the text `YYYY-MM-DD`, the text of a date and time that is exactly midnight, or
a count of seconds from the start of 1970, as a number or as its text. Counts beyond the watershed
are milliseconds. The year 0 can be read but names no date.
-/

import Tuition.Binary64
import Tuition.Calendar.IsoReader

namespace Tuition.Calendar

/-- Why the value of a field is not read as a date and time. -/
inductive FieldFault where
  | tooShort
  | yearCharacter
  | monthCharacter
  | dayCharacter
  | dateSeparator
  | monthRange
  | dayRange
  | stampSeparator
  | timeSeparator
  | hourCharacter
  | minuteCharacter
  | secondCharacter
  | hourRange
  | minuteRange
  | secondRange
  | fractionMissing
  | offsetSign
  | offsetHour
  | offsetMinute
  | offsetMinuteRange
  | offsetRange
  | extraCharacters
  | tooLate
  | tooEarly
  | notANumber
  deriving DecidableEq, Repr

/-- How a fault is reported. -/
def FieldFault.message : FieldFault → String
  | .tooShort => "input is too short"
  | .yearCharacter => "invalid character in year"
  | .monthCharacter => "invalid character in month"
  | .dayCharacter => "invalid character in day"
  | .dateSeparator => "invalid date separator, expected \x60-\x60"
  | .monthRange => "month value is outside expected range of 1-12"
  | .dayRange => "day value is outside expected range"
  | .stampSeparator =>
    "invalid datetime separator, expected \x60T\x60, \x60t\x60, \x60_\x60 or space"
  | .timeSeparator => "invalid time separator, expected \x60:\x60"
  | .hourCharacter => "invalid character in hour"
  | .minuteCharacter => "invalid character in minute"
  | .secondCharacter => "invalid character in second"
  | .hourRange => "hour value is outside expected range of 0-23"
  | .minuteRange => "minute value is outside expected range of 0-59"
  | .secondRange => "second value is outside expected range of 0-59"
  | .fractionMissing => "second fraction digits missing after \x60.\x60"
  | .offsetSign => "invalid timezone sign"
  | .offsetHour => "invalid timezone hour"
  | .offsetMinute => "invalid timezone minute"
  | .offsetMinuteRange => "timezone minute value is outside expected range of 0-59"
  | .offsetRange => "timezone offset must be less than 24 hours"
  | .extraCharacters => "unexpected extra characters at the end of the input"
  | .tooLate => "dates after 9999 are not supported as unix timestamps"
  | .tooEarly => "dates before 0000 are not supported as unix timestamps"
  | .notANumber => "NaN values not permitted"

/-- A date whose year may be 0. -/
structure FieldDate where
  year : Nat
  month : Nat
  day : Nat
  deriving DecidableEq, Repr

/-- The date, unless its year is 0. -/
def FieldDate.toDate? (date : FieldDate) : Option Date :=
  Date.make? date.year date.month date.day

/-- A date whose year may be 0, with the microseconds since midnight. -/
structure FieldMoment where
  date : FieldDate
  microseconds : Nat
  deriving DecidableEq, Repr

/-- The moment, unless its year is 0. -/
def FieldMoment.toMoment? (moment : FieldMoment) : Option Moment :=
  moment.date.toDate?.map fun date => ⟨date, .ofMicroseconds moment.microseconds⟩

/-- Read two digits. -/
def twoDigits (fault : FieldFault) (text : List Char) : Except FieldFault Nat :=
  match takeDigits? 2 text with
  | some (value, _) => .ok value
  | none => .error fault

/-- Refuse the text unless a condition holds. -/
def require (condition : Bool) (fault : FieldFault) : Except FieldFault Unit :=
  if condition then .ok () else .error fault

/-- Read the ten octets of a date at the start of a text. -/
def readFieldDate (text : List Char) : Except FieldFault FieldDate := do
  require (10 ≤ text.length) .tooShort
  let year ← match takeDigits? 4 text with
    | some (value, _) => pure value
    | none => throw FieldFault.yearCharacter
  require (firstOctet (text.drop 4) == '-') .dateSeparator
  let month ← twoDigits .monthCharacter (text.drop 5)
  require (firstOctet (text.drop 7) == '-') .dateSeparator
  let day ← twoDigits .dayCharacter (text.drop 8)
  require (1 ≤ month && month ≤ 12) .monthRange
  require (1 ≤ day && day ≤ daysInMonth year month) .dayRange
  return ⟨year, month, day⟩

/-- Read the seconds of a time, if there are any: the microseconds they come to, and the rest. -/
def readFieldSeconds (text : List Char) : Except FieldFault (Nat × List Char) := do
  if firstOctet text ≠ ':' then return (0, text)
  let second ← twoDigits .secondCharacter (text.drop 1)
  require (second ≤ 59) .secondRange
  let rest := text.drop 3
  if firstOctet rest ≠ '.' ∧ firstOctet rest ≠ ',' then return (second * 1000000, rest)
  let fraction := (rest.drop 1).takeWhile Char.isDigit
  require (!fraction.isEmpty) .fractionMissing
  let counted := fraction.take 6
  let microseconds := (Text.asciiNumeral? counted).getD 0 * tenTo (6 - counted.length)
  return (second * 1000000 + microseconds, rest.drop (1 + fraction.length))

/-- Pass over the offset at the end of a time. -/
def readFieldOffset (text : List Char) : Except FieldFault Unit := do
  match text with
  | [] => return ()
  | sign :: rest =>
    if sign = 'Z' ∨ sign = 'z' then require rest.isEmpty .extraCharacters
    else
      let body ←
        if sign = '+' ∨ sign = '-' then pure rest
        else if (sign :: rest).take 3 = octets "\u2212" then pure (rest.drop 2)
        else throw FieldFault.offsetSign
      let hour ← twoDigits .offsetHour body
      let minutes := if firstOctet (body.drop 2) = ':' then body.drop 3 else body.drop 2
      let minute ← twoDigits .offsetMinute minutes
      require (minute ≤ 59) .offsetMinuteRange
      require (hour < 24) .offsetRange
      require (minutes.drop 2).isEmpty .extraCharacters

/-- Read a date and a time. -/
def readFieldStamp (text : List Char) : Except FieldFault FieldMoment := do
  let date ← readFieldDate text
  let separator := firstOctet (text.drop 10)
  require (separator == 'T' || separator == 't' || separator == ' ' || separator == '_')
    .stampSeparator
  let body := text.drop 11
  require (5 ≤ body.length) .tooShort
  let hour ← twoDigits .hourCharacter body
  require (firstOctet (body.drop 2) == ':') .timeSeparator
  let minute ← twoDigits .minuteCharacter (body.drop 3)
  require (hour ≤ 23) .hourRange
  require (minute ≤ 59) .minuteRange
  let (seconds, rest) ← readFieldSeconds (body.drop 5)
  readFieldOffset rest
  return ⟨date, (hour * 60 + minute) * 60000000 + seconds⟩

/-! ## Counts from the start of 1970 -/

/-- The ordinal of the first day of 1970. -/
def unixEpoch : Int := 719163

/-- Counts of a greater size are milliseconds. -/
def unixWatershed : Int := 20000000000

/-- The first second after the year 9999. -/
def unixEnd : Int := 253402300800

/-- The first second of the year 0. -/
def unixStart : Int := -62167219200

/-- The date of a day counted from the start of 1970, within the years 0 to 9999. -/
def ofUnixDay (day : Int) : FieldDate :=
  let ordinal := unixEpoch + day
  if 0 < ordinal then
    let date := (Date.ofOrdinal? ordinal.toNat).getD default
    ⟨date.year, date.month, date.day⟩
  else
    let date := (Date.ofOrdinal? (ordinal + 146097).toNat).getD default
    ⟨0, date.month, date.day⟩

/-- The moment so many microseconds after the start of 1970. -/
def ofUnixMicroseconds (total : Int) : Except FieldFault FieldMoment :=
  let second := total / 1000000
  if unixEnd ≤ second then .error .tooLate
  else if second < unixStart then .error .tooEarly
  else .ok ⟨ofUnixDay (second / 86400), (total % microsecondsPerDay).toNat⟩

/-- The greatest whole number of 64 bits with a sign. -/
def greatestCount : Int := 9223372036854775807

/-- The least whole number of 64 bits with a sign. -/
def leastCount : Int := -greatestCount - 1

/-- The microseconds of a positive part of a unit of so many microseconds, rounded to the nearest
one. -/
def microsecondsOf (unit : Nat) (part : Binary64) : Int :=
  match part with
  | .finite negative mantissa exponent =>
    let value := Binary64.fraction negative mantissa exponent
    (Binary64.ofSigned (value.1 * unit) value.2).roundAway
  | _ => 0

/-- The moment so many units after the start of 1970, of which `unit` microseconds each are
one: the whole units are those rounded down, and the microseconds are those of what is
left, which is positive. -/
def ofUnixUnits (unit : Nat) (count : Binary64) : Except FieldFault FieldMoment :=
  match count with
  | .nan => .error .notANumber
  | .infinite negative => if negative then .error .tooEarly else .error .tooLate
  | .finite .. =>
    let whole := count.floor?.getD 0
    ofUnixMicroseconds (whole * unit + microsecondsOf unit (count.sub (.ofInt whole)))

/-- Whether a fractional count is one of milliseconds. -/
def countsMilliseconds (count : Binary64) : Bool :=
  Binary64.lt (.ofInt unixWatershed) count.abs

/-- The moment of a fractional count. -/
def ofUnixReal (count : Binary64) : Except FieldFault FieldMoment :=
  if countsMilliseconds count then ofUnixUnits 1000 count else ofUnixUnits 1000000 count

/-- The moment of a fractional count that is given as a text. Milliseconds are first divided into
seconds, and the quotient is rounded. -/
def ofUnixNumeral (count : Binary64) : Except FieldFault FieldMoment :=
  match count with
  | .finite negative mantissa exponent =>
    let value := Binary64.fraction negative mantissa exponent
    ofUnixUnits 1000000
      (if countsMilliseconds count then Binary64.ofSigned value.1 (value.2 * 1000) else count)
  | other => ofUnixUnits 1000000 other

/-- The moment of a whole count; one of more than 64 bits is first rounded
to a fractional number. -/
def ofUnixInt (count : Int) : Except FieldFault FieldMoment :=
  if count = leastCount then .error .tooEarly
  else if leastCount < count ∧ count ≤ greatestCount then
    ofUnixMicroseconds (if count.natAbs ≤ unixWatershed then count * 1000000 else count * 1000)
  else ofUnixReal (Binary64.ofInt count)

/-- Read the power of ten at the end of a fractional number. -/
def readExponent? (text : List Char) : Option Int :=
  match text with
  | [] => some 0
  | mark :: rest =>
    if mark = 'e' ∨ mark = 'E' then
      match rest with
      | '-' :: digits => (Text.asciiNumeral? digits).map fun size => -(size : Int)
      | '+' :: digits => (Text.asciiNumeral? digits).map fun size => (size : Int)
      | digits => (Text.asciiNumeral? digits).map fun size => (size : Int)
    else none

/-- Read a count from its text: a sign and digits, or a fractional number that has a point
before its power of ten. -/
def readCount? (text : List Char) : Option (Int ⊕ Binary64) := do
  let negative := text.head? = some '-'
  let unsigned := match text with
    | '-' :: tail => tail
    | '+' :: tail => tail
    | tail => tail
  let whole := unsigned.takeWhile Char.isDigit
  match unsigned.drop whole.length with
  | [] =>
    let size ← Text.asciiNumeral? whole
    let count : Int := if negative then -(size : Int) else size
    if leastCount ≤ count ∧ count ≤ greatestCount then return .inl count else none
  | '.' :: tail =>
    let decimals := tail.takeWhile Char.isDigit
    let coefficient ← Text.asciiNumeral? (whole ++ decimals)
    let exponent ← readExponent? (tail.drop decimals.length)
    return .inr (Binary64.ofDecimal negative coefficient (exponent - decimals.length))
  | _ => none

/-- Read the text of a date and time, or else of a count. -/
def readFieldMoment (text : String) : Except FieldFault FieldMoment :=
  let whole := octets text
  match readFieldStamp whole with
  | .ok moment => .ok moment
  | .error fault =>
    match readCount? whole with
    | some (.inl count) => ofUnixInt count
    | some (.inr count) => ofUnixNumeral count
    | none => .error fault

/-- Why the value of a date field is refused. -/
inductive DateFieldFault where
  | wrongType
  | unreadable (fault : FieldFault)
  | notMidnight
  | yearZero
  deriving DecidableEq, Repr

/-- The date of a moment that has to be midnight. -/
def exactDate (moment : FieldMoment) : Except DateFieldFault Date :=
  if moment.microseconds ≠ 0 then .error .notMidnight
  else
    match moment.date.toDate? with
    | some date => .ok date
    | none => .error .yearZero

/-- Read the text of a date field. -/
def readDateField (text : String) : Except DateFieldFault Date :=
  let whole := octets text
  match readFieldDate whole, whole.length with
  | .ok date, 10 =>
    match date.toDate? with
    | some found => .ok found
    | none => .error .yearZero
  | _, _ =>
    match readFieldMoment text with
    | .ok moment => exactDate moment
    | .error fault => .error (.unreadable fault)

end Tuition.Calendar
