/-
# Dates of the Gregorian calendar

A date carries the proof that it exists, in a year from 1 to 9999. Dates are ordered by year,
month and day; their ordinal counts the days from the first day of year 1, which has ordinal 1.
-/

import Tuition.Text.Number

namespace Tuition

namespace Calendar

/-- Whether a year has a twenty-ninth of February. -/
def isLeap (year : Nat) : Bool :=
  year % 4 == 0 && (year % 100 != 0 || year % 400 == 0)

/-- The number of days of a month. -/
def daysInMonth (year month : Nat) : Nat :=
  if month = 2 then if isLeap year then 29 else 28
  else if month = 4 ∨ month = 6 ∨ month = 9 ∨ month = 11 then 30
  else 31

/-- Whether year, month and day name a date. -/
def Exists (year month day : Nat) : Prop :=
  1 ≤ year ∧ year ≤ 9999 ∧ 1 ≤ month ∧ month ≤ 12 ∧ 1 ≤ day ∧ day ≤ daysInMonth year month

instance (year month day : Nat) : Decidable (Exists year month day) := by
  unfold Exists; infer_instance

/-- The number of days before a year. -/
def daysBeforeYear (year : Nat) : Nat :=
  let past := year - 1
  past * 365 + past / 4 - past / 100 + past / 400

/-- The number of days of a year before a month. -/
def daysBeforeMonth (year month : Nat) : Nat :=
  ((List.range (month - 1)).map fun index => daysInMonth year (index + 1)).foldr (· + ·) 0

/-- Why numbers or a text name no date or time. -/
inductive Fault where
  | unreadable (text : String)
  | yearOutOfRange (year : Int)
  | monthOutOfRange
  | dayOutOfRange
  | hourOutOfRange
  | minuteOutOfRange
  | secondOutOfRange
  | offsetOutOfRange (microseconds : Int)
  | noSuchMonth (month : Int)
  | numberTooGreat
  | numberTooSmall
  | numberBeyondWord
  deriving DecidableEq, Repr

end Calendar

/-- A date. -/
structure Date where
  year : Nat
  month : Nat
  day : Nat
  valid : Calendar.Exists year month day
  deriving DecidableEq

namespace Date

instance : Inhabited Date := ⟨⟨1, 1, 1, by decide⟩⟩

/-- The date with the given numbers, if there is one. -/
def make? (year month day : Nat) : Option Date :=
  if valid : Calendar.Exists year month day then some ⟨year, month, day, valid⟩ else none

/-- The date with the given numbers, or which of them is wrong. -/
def make (year month day : Nat) : Except Calendar.Fault Date :=
  if valid : Calendar.Exists year month day then .ok ⟨year, month, day, valid⟩
  else if year < 1 ∨ 9999 < year then .error (.yearOutOfRange year)
  else if month < 1 ∨ 12 < month then .error .monthOutOfRange
  else .error .dayOutOfRange

/-- A key that orders dates. -/
def key (date : Date) : Nat :=
  (date.year * 100 + date.month) * 100 + date.day

instance : LE Date := ⟨fun first second => first.key ≤ second.key⟩
instance : LT Date := ⟨fun first second => first.key < second.key⟩
instance (first second : Date) : Decidable (first ≤ second) :=
  inferInstanceAs (Decidable (first.key ≤ second.key))
instance (first second : Date) : Decidable (first < second) :=
  inferInstanceAs (Decidable (first.key < second.key))

/-- The number of days up to and including a date, from the first day of year 1 on. -/
def ordinal (date : Date) : Nat :=
  Calendar.daysBeforeYear date.year + Calendar.daysBeforeMonth date.year date.month + date.day

/-- The year that holds the day with an ordinal. -/
def yearOfOrdinal? (ordinal : Nat) : Option Nat :=
  ((List.range 12).map (ordinal / 365 + 1 - ·)).find? fun year =>
    0 < year && Calendar.daysBeforeYear year < ordinal

/-- The date with an ordinal, if there is one. -/
def ofOrdinal? (ordinal : Nat) : Option Date := do
  let year ← yearOfOrdinal? ordinal
  let inYear := ordinal - Calendar.daysBeforeYear year
  let month ← [12, 11, 10, 9, 8, 7, 6, 5, 4, 3, 2, 1].find? fun month =>
    Calendar.daysBeforeMonth year month < inYear
  make? year month (inYear - Calendar.daysBeforeMonth year month)

/-- The day of the week, Monday being 0. -/
def weekday (date : Date) : Nat :=
  (date.ordinal + 6) % 7

/-- The last day of the month of a date. -/
def monthEnd (date : Date) : Date :=
  ⟨date.year, date.month, Calendar.daysInMonth date.year date.month, by
    have := date.valid
    unfold Calendar.Exists at *
    omega⟩

/-- The first day of the month of a date. -/
def monthStart (date : Date) : Date :=
  ⟨date.year, date.month, 1, by
    have := date.valid
    unfold Calendar.Exists at *
    omega⟩

/-- The text `YYYY-MM-DD`. -/
def text (date : Date) : String :=
  Text.zeroFilled 4 (Text.digits date.year) ++ "-" ++
    Text.zeroFilled 2 (Text.digits date.month) ++ "-" ++ Text.zeroFilled 2 (Text.digits date.day)

instance : Repr Date := ⟨fun date _ => date.text⟩

end Date
end Tuition
