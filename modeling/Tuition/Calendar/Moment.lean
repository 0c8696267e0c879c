/-
# Points in time

A moment is a date with a time of day to the microsecond. A stamp is a moment that may say how far
its clock is ahead of universal time. Both have a text in the ISO 8601 format; for interchange the
offset is given in minutes and universal time is written `Z`.
-/

import Tuition.Calendar.Date
import Tuition.Text.Quoted

namespace Tuition

/-- A time of day. -/
structure TimeOfDay where
  hour : Nat
  minute : Nat
  second : Nat
  microsecond : Nat
  valid : hour < 24 ∧ minute < 60 ∧ second < 60 ∧ microsecond < 1000000
  deriving DecidableEq

namespace TimeOfDay

/-- The start of a day. -/
def midnight : TimeOfDay :=
  ⟨0, 0, 0, 0, by decide⟩

/-- The time with the given numbers, or which of them is wrong. Microseconds beyond a second do
not arise, so they are cut off. -/
def make (hour minute second microsecond : Nat) : Except Calendar.Fault TimeOfDay :=
  if valid : hour < 24 ∧ minute < 60 ∧ second < 60 then
    .ok ⟨hour, minute, second, microsecond % 1000000, by omega⟩
  else if 24 ≤ hour then .error .hourOutOfRange
  else if 60 ≤ minute then .error .minuteOutOfRange
  else .error .secondOutOfRange

/-- The number of microseconds since midnight. -/
def toMicroseconds (time : TimeOfDay) : Nat :=
  ((time.hour * 60 + time.minute) * 60 + time.second) * 1000000 + time.microsecond

/-- The time of day that a number of microseconds is after midnight, whole days being dropped. -/
def ofMicroseconds (count : Nat) : TimeOfDay :=
  let seconds := count / 1000000
  ⟨seconds / 3600 % 24, seconds / 60 % 60, seconds % 60, count % 1000000, by omega⟩

/-- A fraction of a second after its point, or nothing for a full second. -/
def fractionText (microsecond : Nat) : String :=
  if microsecond = 0 then "" else "." ++ Text.zeroFilled 6 (Text.digits microsecond)

/-- The text `HH:MM:SS`, with six more digits unless the second is full. -/
def text (time : TimeOfDay) : String :=
  Text.zeroFilled 2 (Text.digits time.hour) ++ ":" ++
    Text.zeroFilled 2 (Text.digits time.minute) ++ ":" ++
    Text.zeroFilled 2 (Text.digits time.second) ++ fractionText time.microsecond

end TimeOfDay

/-- A date with a time of day. -/
structure Moment where
  date : Date
  time : TimeOfDay
  deriving DecidableEq

namespace Moment

instance : Inhabited Moment := ⟨⟨default, .midnight⟩⟩

/-- The start of a date. -/
def atMidnight (date : Date) : Moment :=
  ⟨date, .midnight⟩

/-- The number of microseconds since the start of year 1. -/
def toMicroseconds (moment : Moment) : Nat :=
  (moment.date.ordinal - 1) * 86400000000 + moment.time.toMicroseconds

/-- The ISO 8601 text. -/
def text (moment : Moment) : String :=
  moment.date.text ++ "T" ++ moment.time.text

instance : Repr Moment := ⟨fun moment _ => moment.text⟩

end Moment

/-- The microseconds of a day. -/
def Calendar.microsecondsPerDay : Int := 86400000000

/-- How far a clock is ahead of universal time: less than a day either way. -/
structure ClockOffset where
  microseconds : Int
  valid : -Calendar.microsecondsPerDay < microseconds ∧ microseconds < Calendar.microsecondsPerDay
  deriving DecidableEq

namespace ClockOffset

/-- Universal time. -/
def utc : ClockOffset :=
  ⟨0, by decide⟩

/-- The offset of so many microseconds, unless it is a day or more. -/
def make (microseconds : Int) : Except Calendar.Fault ClockOffset :=
  if valid : -Calendar.microsecondsPerDay < microseconds ∧
      microseconds < Calendar.microsecondsPerDay then .ok ⟨microseconds, valid⟩
  else .error (.offsetOutOfRange microseconds)

/-- A number of minutes as `HH:MM`. -/
def hoursMinutes (minutes : Nat) : String :=
  Text.zeroFilled 2 (Text.digits (minutes / 60)) ++ ":" ++
    Text.zeroFilled 2 (Text.digits (minutes % 60))

/-- The text of an offset, with seconds and microseconds only where they are not zero. -/
def text (offset : ClockOffset) : String :=
  let size := offset.microseconds.natAbs
  let rest := size % 60000000
  (if offset.microseconds < 0 then "-" else "+") ++ hoursMinutes (size / 60000000) ++
    if rest = 0 then ""
    else ":" ++ Text.zeroFilled 2 (Text.digits (rest / 1000000)) ++
      TimeOfDay.fractionText (rest % 1000000)

end ClockOffset

/-- A moment on a clock whose offset may be known. -/
structure Stamp where
  moment : Moment
  offset : Option ClockOffset
  deriving DecidableEq

namespace Stamp

instance : Inhabited Stamp := ⟨⟨default, none⟩⟩

/-- The ISO 8601 text. -/
def text (stamp : Stamp) : String :=
  stamp.moment.text ++ (stamp.offset.map ClockOffset.text).getD ""

instance : Repr Stamp := ⟨fun stamp _ => stamp.text⟩

/-- The text for interchange: an offset is rounded to seconds, a half away from zero; if that
leaves none it is `Z`, and otherwise its minutes are written without the seconds. -/
def interchange (stamp : Stamp) : String :=
  stamp.moment.text ++
    match stamp.offset with
    | none => ""
    | some offset =>
      let seconds := (offset.microseconds.natAbs + 500000) / 1000000
      if seconds = 0 then "Z"
      else
        (if offset.microseconds < 0 then "-" else "+") ++ ClockOffset.hoursMinutes (seconds / 60)

end Stamp

namespace Calendar

/-- The parts of a span of time that are not zero, as messages show them. -/
def spanText (microseconds : Int) : String :=
  let days := microseconds / microsecondsPerDay
  let rest := (microseconds % microsecondsPerDay).toNat
  let parts := [("days", days), ("seconds", (rest / 1000000 : Nat)),
    ("microseconds", (rest % 1000000 : Nat))]
  let shown := (parts.filter (·.2 ≠ (0 : Int))).map fun part =>
    part.1 ++ "=" ++ Text.integer part.2
  "datetime.timedelta(" ++ (if shown.isEmpty then "0" else ", ".intercalate shown) ++ ")"

/-- How a fault is reported. -/
def Fault.message : Fault → String
  | .unreadable text => "Invalid isoformat string: " ++ Text.quoted text
  | .yearOutOfRange year => "year " ++ Text.integer year ++ " is out of range"
  | .monthOutOfRange => "month must be in 1..12"
  | .dayOutOfRange => "day is out of range for month"
  | .hourOutOfRange => "hour must be in 0..23"
  | .minuteOutOfRange => "minute must be in 0..59"
  | .secondOutOfRange => "second must be in 0..59"
  | .offsetOutOfRange microseconds =>
    "offset must be a timedelta strictly between -timedelta(hours=24) and " ++
      "timedelta(hours=24), not " ++ spanText microseconds ++ "."
  | .noSuchMonth month => "bad month number " ++ Text.integer month ++ "; must be 1-12"
  | .numberTooGreat => "signed integer is greater than maximum"
  | .numberTooSmall => "signed integer is less than minimum"
  | .numberBeyondWord => "Python int too large to convert to C long"

end Calendar
end Tuition
