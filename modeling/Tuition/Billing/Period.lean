/-
# Billing periods

A period is a month of a year from 1 to 9999. Anything else can be named in a request, so years
and months arrive as whole numbers of any size; `Period.accepts` says which of them make a period,
and `Period.bounds` gives its first and last day.
-/

import Tuition.Calendar.Moment
import Tuition.Word

namespace Tuition

/-- A year and a month as they are asked for, whether or not they make a period. -/
structure Period where
  year : Int
  month : Int
  deriving DecidableEq, Repr, Inhabited

namespace Period

/-- Whether year and month make a billing period. -/
def accepts (period : Period) : Bool :=
  1 ≤ period.month && period.month ≤ 12 && 1 ≤ period.year && period.year ≤ 9999

/-- Whether a period does not come after another. -/
def notAfter (first second : Period) : Bool :=
  first.year < second.year || (first.year == second.year && first.month ≤ second.month)

/-- What is wrong with a year that no date has. -/
def yearFault (year : Int) : Calendar.Fault :=
  if !Word.fits year then .numberBeyondWord
  else if year < -Word.halfBound then .numberTooSmall
  else if Word.halfBound ≤ year then .numberTooGreat
  else .yearOutOfRange year

/-- The first day of a period. -/
def firstDay (period : Period) : Except Calendar.Fault Date :=
  if period.month < 1 ∨ 12 < period.month then .error (.noSuchMonth period.month)
  else
    match Date.make? period.year.toNat period.month.toNat 1 with
    | some day => .ok day
    | none => .error (yearFault period.year)

/-- The first and the last day of a period. -/
def bounds (period : Period) : Except Calendar.Fault (Date × Date) := do
  let first ← period.firstDay
  return (first, first.monthEnd)

/-- The period before that of a day. -/
def before (today : Date) : Period :=
  if today.month = 1 then ⟨today.year - 1, 12⟩ else ⟨today.year, today.month - 1⟩

/-- The period as messages name it, `YYYY-MM`. -/
def text (period : Period) : String :=
  Text.padded 4 period.year ++ "-" ++ Text.padded 2 period.month

/-- The period as lines of an invoice name it, `MM.YYYY`. -/
def monthFirst (period : Period) : String :=
  Text.padded 2 period.month ++ "." ++ Text.padded 4 period.year

end Period
end Tuition
