/-
# Periods in values of any kind

A year and a month may be asked for in values of any kind. Fractional numbers are compared with
the bounds of a period like whole ones, but only whole numbers have a first and a last day; a
truth value counts as 0 or 1. A refusal shows the values as they were given.
-/

import Tuition.Json.Column
import Tuition.Refusal

namespace Tuition.Request

/-- Why values have no days. -/
inductive PeriodFault where
  | notNumber (kind : String)
  | fractional
  | noSuchMonth (month : String)
  | calendar (fault : Calendar.Fault)
  deriving DecidableEq, Repr

/-- How a fault is reported. -/
def PeriodFault.message : PeriodFault → String
  | .notNumber kind => "'<=' not supported between instances of 'int' and '" ++ kind ++ "'"
  | .fractional => "'float' object cannot be interpreted as an integer"
  | .noSuchMonth month => "bad month number " ++ month ++ "; must be 1-12"
  | .calendar fault => fault.message

/-- Whether a number lies between two bounds. -/
def liesBetween (least greatest : Int) (value : Json) : Except PeriodFault Bool :=
  match value.whole?, value with
  | some n, _ => .ok (least ≤ n && n ≤ greatest)
  | none, .real .nan => .ok false
  | none, .real number =>
    .ok (!number.lt (Binary64.ofInt least) && !(Binary64.ofInt greatest).lt number)
  | none, _ => .error (.notNumber value.kindName)

/-- The report of numbers that make no period. The year is not looked at if the month is wrong. -/
def periodProblem? (year month : Json) : Except PeriodFault (Option Report) := do
  if (← liesBetween 1 12 month) then
    if (← liesBetween 1 9999 year) then return none
  return some (Refusal.badPeriod year.plain month.plain)

/-- The first and the last day of a period. -/
def periodBounds (year month : Json) : Except PeriodFault (Date × Date) := do
  if !(← liesBetween 1 12 month) then throw (.noSuchMonth month.inspect)
  let _ ← liesBetween 1 9999 year
  match year.whole?, month.whole? with
  | some year, some month => (Period.bounds ⟨year, month⟩).mapError .calendar
  | _, _ => throw .fractional

end Tuition.Request
