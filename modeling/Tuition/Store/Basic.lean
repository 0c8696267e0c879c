/-
# The store

The store is a record of tables. Each kind of row says here which numbers and amounts it holds and
which rules bind it. References from one table to another are not among the rules.
-/

import Tuition.Invoice
import Tuition.Payment
import Tuition.School
import Tuition.Settings
import Tuition.Store.Amount
import Tuition.Store.Row

namespace Tuition

/-- All records. The settings are missing until they are first written. -/
structure Store where
  students : List Student := []
  courses : List Course := []
  enrollments : List Enrollment := []
  overrides : List PriceOverride := []
  attendance : List Attendance := []
  invoices : List Invoice := []
  lines : List InvoiceLine := []
  payments : List Payment := []
  settings : Option Settings := none
  deriving DecidableEq, Repr, Inhabited

namespace Store

/-- An amount in the form that is kept, where a row must have one. -/
def keepAmount (column : String) (amount : Decimal) : Except Fault Decimal := do
  match ← Amount.keep amount with
  | some kept => return kept
  | none => throw (.violation (.notNull column))

/-- The total of an invoice in the form that is kept. -/
def keepTotal (total : Decimal) : Except Fault Decimal :=
  keepAmount "invoices.total_amount" total

/-- An amount in the form that is kept, where a row may have none. -/
def keepAmount? : Option Decimal → Except Fault (Option Decimal)
  | none => .ok none
  | some amount => Amount.keep amount

/-- Whether an amount is not below zero. -/
def isNonNegative (amount : Decimal) : Bool :=
  amount.order (.ofInt 0) != .lt

instance : Row Student where
  table := "students"
  key := Student.id
  withKey student key := { student with id := key }
  words _ := []
  keep student := .ok student
  shown student := student
  conditions := []
  distinct := []

instance : Row Course where
  table := "courses"
  key := Course.id
  withKey course key := { course with id := key }
  words _ := []
  keep course := do
    let lessonPrice ← keepAmount "courses.lesson_price" course.lessonPrice
    let subscriptionPrice ← keepAmount "courses.subscription_price" course.subscriptionPrice
    return { course with lessonPrice, subscriptionPrice }
  shown course :=
    { course with
      lessonPrice := Amount.shown course.lessonPrice
      subscriptionPrice := Amount.shown course.subscriptionPrice }
  conditions :=
    [("course_lesson_price_non_negative", fun course => isNonNegative course.lessonPrice),
     ("course_subscription_price_non_negative", fun course =>
      isNonNegative course.subscriptionPrice)]
  distinct := []

instance : Row Enrollment where
  table := "enrollments"
  key := Enrollment.id
  withKey enrollment key := { enrollment with id := key }
  words enrollment := [enrollment.studentId, enrollment.courseId]
  keep enrollment := do
    let discount ← keepAmount "enrollments.discount_pct" enrollment.discount
    return { enrollment with discount }
  shown enrollment := { enrollment with discount := Amount.shown enrollment.discount }
  conditions :=
    [("discount_pct_in_range", fun enrollment =>
      isNonNegative enrollment.discount && enrollment.discount.order (.ofInt 100) != .gt)]
  distinct :=
    [(["enrollments.student_id", "enrollments.course_id"], fun first second =>
      first.studentId == second.studentId && first.courseId == second.courseId)]

instance : Row PriceOverride where
  table := "price_overrides"
  key := PriceOverride.id
  withKey override key := { override with id := key }
  words override := [override.enrollmentId]
  keep override := do
    let lessonPrice ← keepAmount? override.lessonPrice
    let subscriptionPrice ← keepAmount? override.subscriptionPrice
    return { override with lessonPrice, subscriptionPrice }
  shown override :=
    { override with
      lessonPrice := override.lessonPrice.map Amount.shown
      subscriptionPrice := override.subscriptionPrice.map Amount.shown }
  conditions := []
  distinct := []

instance : Row Attendance where
  table := "attendance_months"
  key := Attendance.id
  withKey attendance key := { attendance with id := key }
  words attendance :=
    [attendance.studentId, attendance.courseId, attendance.year, attendance.month,
     attendance.lessons]
  keep attendance := .ok attendance
  shown attendance := attendance
  conditions := [("lessons_count_non_negative", fun attendance => 0 ≤ attendance.lessons)]
  distinct :=
    [(["attendance_months.student_id", "attendance_months.course_id", "attendance_months.year",
       "attendance_months.month"], fun first second =>
      first.studentId == second.studentId && first.courseId == second.courseId &&
        first.year == second.year && first.month == second.month)]

instance : Row Invoice where
  table := "invoices"
  key := Invoice.id
  withKey invoice key := { invoice with id := key }
  words invoice := [invoice.studentId, invoice.period.year, invoice.period.month]
  keep invoice := do
    let total ← keepTotal invoice.total
    return { invoice with total }
  shown invoice := { invoice with total := Amount.shown invoice.total }
  conditions := []
  distinct :=
    [(["invoices.student_id", "invoices.period_year", "invoices.period_month"],
      fun first second => first.studentId == second.studentId && first.period == second.period),
     (["invoices.number"], fun first second =>
      first.number.isSome && first.number == second.number)]

instance : Row InvoiceLine where
  table := "invoice_lines"
  key := InvoiceLine.id
  withKey line key := { line with id := key }
  words line := [line.invoiceId, line.enrollmentId, line.quantity]
  keep line := do
    let unitPrice ← keepAmount "invoice_lines.unit_price" line.unitPrice
    let amount ← keepAmount "invoice_lines.amount" line.amount
    return { line with unitPrice, amount }
  shown line :=
    { line with unitPrice := Amount.shown line.unitPrice, amount := Amount.shown line.amount }
  conditions := []
  distinct := []

instance : Row Payment where
  table := "payments"
  key := Payment.id
  withKey payment key := { payment with id := key }
  words payment := payment.studentId :: payment.invoiceId.toList
  keep payment := do
    let amount ← keepAmount "payments.amount" payment.amount
    return { payment with amount }
  shown payment := { payment with amount := Amount.shown payment.amount }
  conditions :=
    [("payment_amount_positive", fun payment => payment.amount.order (.ofInt 0) == .gt)]
  distinct := []

/-- The settings in the form that is kept, or say why they cannot be written. -/
def admitSettings (settings : Settings) : Except Fault Settings := do
  Table.requireWords [settings.nextSequence, settings.billingDay]
  if settings.nextSequence < 1 then throw (.violation (.check "next_seq_positive"))
  return settings

end Store
end Tuition
