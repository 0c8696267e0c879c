/-
# Tables of records

Each kind of row of the store has columns under which it is written as a record, and can be read
from a record that has a value for each of them.
-/

import Tuition.Record.Column
import Tuition.Store.Basic

namespace Tuition.Record

/-- Rows that can be written as records. -/
class Recorded (α : Type) where
  /-- The columns. -/
  shape : Shape
  /-- Read a row from its cells. -/
  ofCells : Cells → Except Fault α
  /-- The cells of a row. -/
  toCells : α → Cells

/-- No amount, as a cell. -/
def nothingText : Json :=
  .str "0.00"

/-- A date as a cell. -/
def dateCell (date : Date) : Json :=
  .str date.text

/-- A decimal as a cell. -/
def decimalCell (amount : Decimal) : Json :=
  .str amount.text

/-- A cell that may be empty. -/
def optionalCell {α : Type} (cell : α → Json) : Option α → Json
  | none => .null
  | some value => cell value

/-- A moment as a cell. -/
def momentCell (moment : Moment) : Json :=
  .str moment.text

/-- The key in the cells of a row, or zero for a row that has none yet. -/
def keyOf (cells : Cells) : Int :=
  (whole? cells "id").getD 0

/-- The columns of students. -/
def studentShape : Shape where
  table := "students"
  record := "Student"
  columns :=
    [⟨"id", .whole, .null⟩, ⟨"full_name", .text, .null⟩, ⟨"phone", .text, .str ""⟩,
     ⟨"email", .text, .str ""⟩, ⟨"note", .text, .str ""⟩, ⟨"is_active", .flag, .bool true⟩]

instance : Recorded Student where
  shape := studentShape
  ofCells cells := do
    let fullName ← notNull studentShape "full_name" (text? cells "full_name")
    let phone ← notNull studentShape "phone" (text? cells "phone")
    let email ← notNull studentShape "email" (text? cells "email")
    let note ← notNull studentShape "note" (text? cells "note")
    let active ← notNull studentShape "is_active" (flag? cells "is_active")
    return ⟨keyOf cells, fullName, phone, email, note, active⟩
  toCells student :=
    [("id", .int student.id), ("full_name", .str student.fullName), ("phone", .str student.phone),
     ("email", .str student.email), ("note", .str student.note),
     ("is_active", .bool student.active)]

/-- The columns of courses. -/
def courseShape : Shape where
  table := "courses"
  record := "Course"
  columns :=
    [⟨"id", .whole, .null⟩, ⟨"name", .text, .null⟩, ⟨"lesson_price", .decimal, nothingText⟩,
     ⟨"subscription_price", .decimal, nothingText⟩, ⟨"is_active", .flag, .bool true⟩,
     ⟨"course_type", .word "CourseType" ["group", "individual"], .str "group"⟩]

instance : Recorded Course where
  shape := courseShape
  ofCells cells := do
    let name ← notNull courseShape "name" (text? cells "name")
    let lessonPrice ← notNull courseShape "lesson_price" (decimal? cells "lesson_price")
    let subscriptionPrice ←
      notNull courseShape "subscription_price" (decimal? cells "subscription_price")
    let active ← notNull courseShape "is_active" (flag? cells "is_active")
    let courseType ←
      notNull courseShape "course_type" ((text? cells "course_type").bind CourseType.ofText?)
    return ⟨keyOf cells, name, courseType, lessonPrice, subscriptionPrice, active⟩
  toCells course :=
    [("id", .int course.id), ("name", .str course.name),
     ("lesson_price", decimalCell course.lessonPrice),
     ("subscription_price", decimalCell course.subscriptionPrice),
     ("is_active", .bool course.active), ("course_type", .str course.courseType.text)]

/-- The columns of enrollments. -/
def enrollmentShape : Shape where
  table := "enrollments"
  record := "Enrollment"
  columns :=
    [⟨"id", .whole, .null⟩, ⟨"student_id", .whole, .null⟩, ⟨"course_id", .whole, .null⟩,
     ⟨"discount_pct", .decimal, .str "0"⟩, ⟨"note", .text, .str ""⟩,
     ⟨"billing_mode", .word "BillingMode" ["per_lesson", "subscription"], .null⟩]

/-- The way of charging that a word stands for, known or not. -/
def billingModeOf (text : String) : BillingMode :=
  (BillingMode.ofText? text).getD (.unknown text)

instance : Recorded Enrollment where
  shape := enrollmentShape
  ofCells cells := do
    let studentId ← notNull enrollmentShape "student_id" (whole? cells "student_id")
    let courseId ← notNull enrollmentShape "course_id" (whole? cells "course_id")
    let discount ← notNull enrollmentShape "discount_pct" (decimal? cells "discount_pct")
    let note ← notNull enrollmentShape "note" (text? cells "note")
    let mode ← notNull enrollmentShape "billing_mode" (text? cells "billing_mode")
    return ⟨keyOf cells, studentId, courseId, billingModeOf mode, discount, note⟩
  toCells enrollment :=
    [("id", .int enrollment.id), ("student_id", .int enrollment.studentId),
     ("course_id", .int enrollment.courseId), ("discount_pct", decimalCell enrollment.discount),
     ("note", .str enrollment.note), ("billing_mode", .str enrollment.billingMode.text)]

/-- The columns of price overrides. -/
def overrideShape : Shape where
  table := "price_overrides"
  record := "PriceOverride"
  columns :=
    [⟨"id", .whole, .null⟩, ⟨"enrollment_id", .whole, .null⟩, ⟨"valid_from", .date, .null⟩,
     ⟨"valid_to", .date, .null⟩, ⟨"lesson_price", .decimal, .null⟩,
     ⟨"subscription_price", .decimal, .null⟩]

instance : Recorded PriceOverride where
  shape := overrideShape
  ofCells cells := do
    let enrollmentId ← notNull overrideShape "enrollment_id" (whole? cells "enrollment_id")
    let validFrom ← notNull overrideShape "valid_from" (date? cells "valid_from")
    return ⟨keyOf cells, enrollmentId, validFrom, date? cells "valid_to",
      decimal? cells "lesson_price", decimal? cells "subscription_price"⟩
  toCells override :=
    [("id", .int override.id), ("enrollment_id", .int override.enrollmentId),
     ("valid_from", dateCell override.validFrom),
     ("valid_to", optionalCell dateCell override.validTo),
     ("lesson_price", optionalCell decimalCell override.lessonPrice),
     ("subscription_price", optionalCell decimalCell override.subscriptionPrice)]

/-- The columns of attendance. -/
def attendanceShape : Shape where
  table := "attendance_months"
  record := "AttendanceMonth"
  columns :=
    [⟨"id", .whole, .null⟩, ⟨"student_id", .whole, .null⟩, ⟨"course_id", .whole, .null⟩,
     ⟨"year", .whole, .null⟩, ⟨"month", .whole, .null⟩, ⟨"lessons_count", .whole, .int 0⟩,
     ⟨"locked", .flag, .bool false⟩]

instance : Recorded Attendance where
  shape := attendanceShape
  ofCells cells := do
    let studentId ← notNull attendanceShape "student_id" (whole? cells "student_id")
    let courseId ← notNull attendanceShape "course_id" (whole? cells "course_id")
    let year ← notNull attendanceShape "year" (whole? cells "year")
    let month ← notNull attendanceShape "month" (whole? cells "month")
    let lessons ← notNull attendanceShape "lessons_count" (whole? cells "lessons_count")
    let locked ← notNull attendanceShape "locked" (flag? cells "locked")
    return ⟨keyOf cells, studentId, courseId, year, month, lessons, locked⟩
  toCells attendance :=
    [("id", .int attendance.id), ("student_id", .int attendance.studentId),
     ("course_id", .int attendance.courseId), ("year", .int attendance.year),
     ("month", .int attendance.month), ("lessons_count", .int attendance.lessons),
     ("locked", .bool attendance.locked)]

/-- The columns of invoices. -/
def invoiceShape : Shape where
  table := "invoices"
  record := "Invoice"
  columns :=
    [⟨"id", .whole, .null⟩, ⟨"student_id", .whole, .null⟩, ⟨"period_year", .whole, .null⟩,
     ⟨"period_month", .whole, .null⟩, ⟨"total_amount", .decimal, nothingText⟩,
     ⟨"number", .text, .null⟩, ⟨"issued_at", .moment, .null⟩, ⟨"paid_at", .moment, .null⟩,
     ⟨"status", .word "InvoiceStatus" ["draft", "issued", "paid", "canceled"], .str "draft"⟩]

instance : Recorded Invoice where
  shape := invoiceShape
  ofCells cells := do
    let studentId ← notNull invoiceShape "student_id" (whole? cells "student_id")
    let year ← notNull invoiceShape "period_year" (whole? cells "period_year")
    let month ← notNull invoiceShape "period_month" (whole? cells "period_month")
    let total ← notNull invoiceShape "total_amount" (decimal? cells "total_amount")
    let status ← notNull invoiceShape "status" ((text? cells "status").bind InvoiceStatus.ofText?)
    return ⟨keyOf cells, studentId, ⟨year, month⟩, total, status, text? cells "number",
      moment? cells "issued_at", moment? cells "paid_at"⟩
  toCells invoice :=
    [("id", .int invoice.id), ("student_id", .int invoice.studentId),
     ("period_year", .int invoice.period.year), ("period_month", .int invoice.period.month),
     ("total_amount", decimalCell invoice.total), ("number", Json.ofText? invoice.number),
     ("issued_at", optionalCell momentCell invoice.issuedAt),
     ("paid_at", optionalCell momentCell invoice.paidAt), ("status", .str invoice.status.text)]

/-- The columns of lines of invoices. -/
def lineShape : Shape where
  table := "invoice_lines"
  record := "InvoiceLine"
  columns :=
    [⟨"id", .whole, .null⟩, ⟨"invoice_id", .whole, .null⟩, ⟨"enrollment_id", .whole, .null⟩,
     ⟨"description", .text, .null⟩, ⟨"qty", .whole, .null⟩, ⟨"unit_price", .decimal, .null⟩,
     ⟨"amount", .decimal, .null⟩]

/-- What one enrollment adds to an invoice, read from the cells of a line. -/
def draftLineOf (cells : Cells) : Except Fault DraftLine := do
  let enrollmentId ← notNull lineShape "enrollment_id" (whole? cells "enrollment_id")
  let description ← notNull lineShape "description" (text? cells "description")
  let quantity ← notNull lineShape "qty" (whole? cells "qty")
  let unitPrice ← notNull lineShape "unit_price" (decimal? cells "unit_price")
  let amount ← notNull lineShape "amount" (decimal? cells "amount")
  return ⟨enrollmentId, description, quantity, unitPrice, amount⟩

/-- The cells of what one enrollment adds to an invoice. -/
def draftLineCells (line : DraftLine) : Cells :=
  [("enrollment_id", .int line.enrollmentId), ("description", .str line.description),
   ("qty", .int line.quantity), ("unit_price", decimalCell line.unitPrice),
   ("amount", decimalCell line.amount)]

instance : Recorded InvoiceLine where
  shape := lineShape
  ofCells cells := do
    let invoiceId ← notNull lineShape "invoice_id" (whole? cells "invoice_id")
    let line ← draftLineOf cells
    return { line with id := keyOf cells, invoiceId }
  toCells line :=
    ("id", .int line.id) :: ("invoice_id", .int line.invoiceId) :: draftLineCells line.toDraftLine

/-- The columns of payments. -/
def paymentShape : Shape where
  table := "payments"
  record := "Payment"
  columns :=
    [⟨"id", .whole, .null⟩, ⟨"student_id", .whole, .null⟩, ⟨"invoice_id", .whole, .null⟩,
     ⟨"paid_at", .stamp, .null⟩, ⟨"amount", .decimal, .null⟩, ⟨"note", .text, .str ""⟩,
     ⟨"method", .word "PaymentMethod" ["cash", "bank"], .null⟩]

instance : Recorded Payment where
  shape := paymentShape
  ofCells cells := do
    let studentId ← notNull paymentShape "student_id" (whole? cells "student_id")
    let paidAt ← notNull paymentShape "paid_at" (moment? cells "paid_at")
    let amount ← notNull paymentShape "amount" (decimal? cells "amount")
    let note ← notNull paymentShape "note" (text? cells "note")
    let method ← notNull paymentShape "method" ((text? cells "method").bind PaymentMethod.ofText?)
    return ⟨keyOf cells, studentId, whole? cells "invoice_id", paidAt, amount, method, note⟩
  toCells payment :=
    [("id", .int payment.id), ("student_id", .int payment.studentId),
     ("invoice_id", Json.ofInt? payment.invoiceId), ("paid_at", momentCell payment.paidAt),
     ("amount", decimalCell payment.amount), ("note", .str payment.note),
     ("method", .str payment.method.text)]

/-- The columns of the settings. -/
def settingsShape : Shape where
  table := "settings"
  record := "BillingSettings"
  columns :=
    [⟨"id", .whole, .int 1⟩, ⟨"org_name", .text, .str ""⟩, ⟨"address", .text, .str ""⟩,
     ⟨"invoice_prefix", .text, .str "LS"⟩, ⟨"next_seq", .whole, .int 1⟩,
     ⟨"invoice_day_of_month", .whole, .int 1⟩, ⟨"auto_issue", .flag, .bool false⟩,
     ⟨"currency", .text, .str "EUR"⟩, ⟨"locale", .text, .str "lv-LV"⟩]

instance : Recorded Settings where
  shape := settingsShape
  ofCells cells := do
    let orgName ← notNull settingsShape "org_name" (text? cells "org_name")
    let address ← notNull settingsShape "address" (text? cells "address")
    let invoicePrefix ← notNull settingsShape "invoice_prefix" (text? cells "invoice_prefix")
    let nextSequence ← notNull settingsShape "next_seq" (whole? cells "next_seq")
    let billingDay ←
      notNull settingsShape "invoice_day_of_month" (whole? cells "invoice_day_of_month")
    let autoIssue ← notNull settingsShape "auto_issue" (flag? cells "auto_issue")
    let currency ← notNull settingsShape "currency" (text? cells "currency")
    let locale ← notNull settingsShape "locale" (text? cells "locale")
    return ⟨orgName, address, invoicePrefix, nextSequence, billingDay, autoIssue, currency,
      locale⟩
  toCells settings :=
    [("id", .int Settings.key), ("org_name", .str settings.orgName),
     ("address", .str settings.address), ("invoice_prefix", .str settings.invoicePrefix),
     ("next_seq", .int settings.nextSequence), ("invoice_day_of_month", .int settings.billingDay),
     ("auto_issue", .bool settings.autoIssue), ("currency", .str settings.currency),
     ("locale", .str settings.locale)]

end Tuition.Record
