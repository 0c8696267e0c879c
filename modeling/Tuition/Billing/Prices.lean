/-
# The prices of an enrollment

An enrollment is charged the prices of its course less its discount, unless a price override holds
in the billing period: then the prices that the override gives replace the discounted ones. Among
the overrides that start by the end of the period, the latest first, the first one that still
holds at its start is taken.

Where the records are looked up is left open, so that the same rules serve the
store and records at hand.
-/

import Tuition.Billing.Period
import Tuition.Fault
import Tuition.Money
import Tuition.School

namespace Tuition

/-- The effective prices of an enrollment in a period, with the name of its course. -/
structure Prices where
  lessonPrice : Decimal
  subscriptionPrice : Decimal
  courseName : String
  deriving DecidableEq, Repr

/-- Where the records are looked up that billing needs. Overrides come with the latest start first
and, for one start, the greatest key first. -/
structure PriceBook (m : Type → Type) where
  course : Int → m (Option Course)
  overridesUntil : Int → Date → m (List PriceOverride)
  attendance : Int → Int → Period → m (Option Attendance)

/-- Whether an override comes before another, the latest start first and then the greatest key. -/
def PriceOverride.latestFirst (first second : PriceOverride) : Bool :=
  if first.validFrom.key = second.validFrom.key then second.id ≤ first.id
  else second.validFrom.key < first.validFrom.key

/-- The overrides of an enrollment that start by a day, the latest first. -/
def PriceOverride.startingBy (overrides : List PriceOverride) (enrollmentId : Int) (day : Date) :
    List PriceOverride :=
  (overrides.filter fun override =>
    override.enrollmentId == enrollmentId && override.validFrom ≤ day).mergeSort
      PriceOverride.latestFirst

namespace Prices

/-- The prices of a course less a discount. -/
def ofCourse (course : Course) (discount : Decimal) : Except Decimal.Fault Prices := do
  let lessonPrice ← Money.discounted course.lessonPrice discount
  let subscriptionPrice ← Money.discounted course.subscriptionPrice discount
  return ⟨lessonPrice, subscriptionPrice, course.name⟩

/-- The prices with those that an override gives in their place. -/
def replacedBy (prices : Prices) (override : PriceOverride) : Prices :=
  { prices with
    lessonPrice := override.lessonPrice.getD prices.lessonPrice
    subscriptionPrice := override.subscriptionPrice.getD prices.subscriptionPrice }

/-- The prices under the first of the overrides that still holds on a day. -/
def under (prices : Prices) (overrides : List PriceOverride) (day : Date) : Prices :=
  match overrides.find? fun override => override.window.reaches day with
  | some override => prices.replacedBy override
  | none => prices

end Prices

/-- Whether an attendance is the one of a student at a course in a period. -/
def Attendance.isOf (month : Attendance) (studentId courseId : Int) (period : Period) : Bool :=
  month.studentId == studentId && month.courseId == courseId && month.year == period.year &&
    month.month == period.month

namespace PriceBook

/-- The records at hand as a place to look them up. -/
def ofRecords (courses : List Course) (overrides : List PriceOverride)
    (attendance : List Attendance) : PriceBook (Except Fault) where
  course id := .ok (courses.find? (·.id == id))
  overridesUntil enrollmentId day := .ok (PriceOverride.startingBy overrides enrollmentId day)
  attendance studentId courseId period :=
    .ok (attendance.find? (·.isOf studentId courseId period))

variable {m : Type → Type} [Monad m] [MonadExceptOf Fault m]

/-- Take the result of decimal arithmetic. -/
def arithmetic {α : Type} : Except Decimal.Fault α → m α
  | .ok value => pure value
  | .error fault => throw (.arithmetic fault)

/-- Take a first and a last day. -/
def days {α : Type} : Except Calendar.Fault α → m α
  | .ok value => pure value
  | .error fault => throw (.calendar fault)

/-- The prices of an enrollment in a period, if its course is there. -/
def resolve (book : PriceBook m) (enrollment : Enrollment) (period : Period) :
    m (Option Prices) := do
  match ← book.course enrollment.courseId with
  | none => return none
  | some course =>
    let prices ← arithmetic (Prices.ofCourse course enrollment.discount)
    let (first, last) ← days period.bounds
    let overrides ← book.overridesUntil enrollment.id last
    return some (prices.under overrides first)

end PriceBook
end Tuition
