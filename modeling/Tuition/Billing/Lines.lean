/-
# The lines of a draft

Each enrollment of a student adds at most one line to the invoice of a period. An enrollment that
is charged by the lesson always adds one, with the lessons attended; one that is charged by the
month adds one unless its price is nothing or less.
-/

import Tuition.Billing.Prices
import Tuition.Invoice

namespace Tuition

namespace DraftLine

/-- A line for a quantity at a price, both price and amount being rounded to cents. -/
def make (enrollmentId : Int) (description : String) (quantity : Int) (price : Decimal) :
    Except Decimal.Fault DraftLine := do
  let unitPrice ← Money.round price
  let amount ← Money.round (← Decimal.mul (.ofInt quantity) unitPrice)
  return ⟨enrollmentId, description, quantity, unitPrice, amount⟩

/-- What a line says: what is charged, the course, and the period. -/
def describe (charge courseName : String) (period : Period) : String :=
  charge ++ ": " ++ courseName ++ " (" ++ period.monthFirst ++ ")"

/-- The line for the lessons attended in a period. -/
def ofLessons (enrollment : Enrollment) (prices : Prices) (attendance : Option Attendance)
    (period : Period) : Except Decimal.Fault DraftLine :=
  make enrollment.id (describe "Lessons" prices.courseName period)
    ((attendance.map Attendance.lessons).getD 0) prices.lessonPrice

/-- The line for a month, unless its price is nothing or less. -/
def ofSubscription (enrollment : Enrollment) (prices : Prices) (period : Period) :
    Except Decimal.Fault (Option DraftLine) := do
  match ← prices.subscriptionPrice.compareZero with
  | .gt =>
    return some (← make enrollment.id (describe "Subscription" prices.courseName period) 1
      prices.subscriptionPrice)
  | _ => return none

/-- The sum of the amounts of lines, rounded to cents. -/
def total (lines : List DraftLine) : Except Decimal.Fault Decimal :=
  Money.total (lines.map DraftLine.amount)

end DraftLine

namespace PriceBook

variable {m : Type → Type} [Monad m] [MonadExceptOf Fault m]

/-- The line that an enrollment adds to the invoice of a period. -/
def draftLine (book : PriceBook m) (period : Period) (enrollment : Enrollment) :
    m (Option DraftLine) := do
  match ← book.resolve enrollment period with
  | none => return none
  | some prices =>
    match enrollment.billingMode with
    | .perLesson =>
      let attendance ← book.attendance enrollment.studentId enrollment.courseId period
      return some (← arithmetic (DraftLine.ofLessons enrollment prices attendance period))
    | .subscription => arithmetic (DraftLine.ofSubscription enrollment prices period)
    | .unknown _ => return none

/-- The lines that enrollments add to the invoice of a period, in their order. -/
def draftLines (book : PriceBook m) (period : Period) : List Enrollment → m (List DraftLine)
  | [] => return []
  | enrollment :: others => do
    let line ← book.draftLine period enrollment
    let more ← book.draftLines period others
    return line.toList ++ more

end PriceBook
end Tuition
