/-
# Records at hand

Prices, lines and documents are also made of records at hand, which are in no store and
bound by none of its rules. What is missing in them matters only where it is needed:
elsewhere something stands in for it. A discount or a price that is missing is needed as
soon as its course is charged for.
-/

import Tuition.Billing.Lines
import Tuition.Document
import Tuition.Record.Tables

namespace Tuition.Record

/-! ## Missing values -/

/-- Whether a column of a record holds nothing. -/
def lacks (cells : Cells) (name : String) : Bool :=
  (cells.lookup name).getD .null matches .null

/-- Break off if a column that is needed holds nothing. -/
def demand (need : Need) (cells : Cells) (name : String) : Except Fault Unit :=
  if lacks cells name then .error (.missing need) else .ok ()

/-- Put what stands in for it in place of what is missing. -/
def fillIn (standIns : List (String × Json)) (cells : Cells) : Cells :=
  cells.map fun (name, value) =>
    (name, if value matches .null then (standIns.lookup name).getD .null else value)

/-- Read a row from the cells of a record, in which something stands in for what is missing. -/
def readFilled {α : Type} [Recorded α] (standIns : List (String × Json)) (cells : Cells) :
    Except Fault α :=
  Recorded.ofCells (fillIn standIns cells)

/-- No key, or no number of things. -/
def noKey : Json :=
  .int 0

/-! ## Prices and lines -/

/-- A course at hand, whether it has both prices, and whether it has a name. -/
structure CourseAtHand where
  course : Course
  priced : Bool
  named : Bool

/-- Read a course at hand. What type of course it is does not matter. -/
def readCourse (completion : Completion) (members : List (String × Json)) :
    Except Fault CourseAtHand := do
  let cells ← complete completion courseShape members
  let course ← readFilled
    [("name", .str "None"), ("lesson_price", nothingText), ("subscription_price", nothingText),
     ("is_active", .bool false)]
    (Json.put cells "course_type" (.str CourseType.group.text))
  return ⟨course, !lacks cells "lesson_price" && !lacks cells "subscription_price",
    !lacks cells "name"⟩

/-- Read an override at hand. -/
def readOverride (completion : Completion) (members : List (String × Json)) :
    Except Fault PriceOverride := do
  readFilled [("enrollment_id", noKey)] (← complete completion overrideShape members)

/-- The attendance of a month at hand, and whether its lessons are counted. -/
structure AttendanceAtHand where
  attendance : Attendance
  counted : Bool

/-- Read the attendance of a month at hand. -/
def readAttendance (completion : Completion) (members : List (String × Json)) :
    Except Fault AttendanceAtHand := do
  let cells ← complete completion attendanceShape members
  let attendance ← readFilled
    [("student_id", noKey), ("course_id", noKey), ("year", noKey), ("month", noKey),
     ("lessons_count", noKey), ("locked", .bool false)] cells
  return ⟨attendance, !lacks cells "lessons_count"⟩

/-- An enrollment at hand, whether it has a discount, and whether it has a key. -/
structure EnrollmentAtHand where
  enrollment : Enrollment
  discounted : Bool
  keyed : Bool

/-- Read an enrollment at hand. -/
def readEnrollment (completion : Completion) (members : List (String × Json)) :
    Except Fault EnrollmentAtHand := do
  let cells ← complete completion enrollmentShape members
  let enrollment ← readFilled
    [("student_id", noKey), ("course_id", noKey), ("discount_pct", nothingText),
     ("note", .str ""), ("billing_mode", .str "")] cells
  return ⟨enrollment, !lacks cells "discount_pct", !lacks cells "id"⟩

/-- Records at hand to make prices and lines of. -/
structure Shelves where
  courses : List CourseAtHand
  overrides : List PriceOverride
  attendance : List AttendanceAtHand

namespace Shelves

/-- The course with a key. -/
def course? (shelves : Shelves) (id : Int) : Option CourseAtHand :=
  shelves.courses.find? (·.course.id == id)

/-- The course that an enrollment is charged for. A discount or a price that is missing is no
number. -/
def charge (shelves : Shelves) (discounted : Bool) (id : Int) : Except Fault (Option Course) :=
  match shelves.course? id with
  | none => .ok none
  | some found =>
    if discounted && found.priced then .ok (some found.course)
    else .error (.arithmetic .notANumber)

/-- The attendance that an enrollment is charged for. Lessons that are not counted cannot be. -/
def attended (shelves : Shelves) (studentId courseId : Int) (period : Period) :
    Except Fault (Option Attendance) :=
  match shelves.attendance.find? (·.attendance.isOf studentId courseId period) with
  | none => .ok none
  | some found =>
    if found.counted then .ok (some found.attendance) else .error (.missing .factor)

/-- The place to look up what an enrollment is charged. -/
def priceBook (shelves : Shelves) (discounted : Bool) : PriceBook (Except Fault) :=
  { PriceBook.ofRecords [] shelves.overrides [] with
    course := shelves.charge discounted
    attendance := shelves.attended }

/-- The prices of an enrollment in a period as a record, if its course is there. -/
def resolve (shelves : Shelves) (found : EnrollmentAtHand) (period : Period) :
    Except Fault (Option Cells) := do
  let prices ← (shelves.priceBook found.discounted).resolve found.enrollment period
  let named := ((shelves.course? found.enrollment.courseId).map CourseAtHand.named).getD true
  return prices.map fun prices =>
    [("lesson_price", decimalCell prices.lessonPrice),
     ("subscription_price", decimalCell prices.subscriptionPrice),
     ("course_name", if named then .str prices.courseName else .null)]

/-- The line that an enrollment adds to the invoice of a period, as a record. -/
def draftLine (shelves : Shelves) (period : Period) (found : EnrollmentAtHand) :
    Except Fault (Option Cells) := do
  let line ← (shelves.priceBook found.discounted).draftLine period found.enrollment
  return line.map fun line =>
    let cells := draftLineCells line
    if found.keyed then cells else Json.put cells "enrollment_id" .null

end Shelves

/-! ## Documents -/

/-- Read the line of a document at hand. -/
def readDocumentLine (members : List (String × Json)) : Except Fault Cells :=
  complete .atHand lineShape members

/-- What a quantity that is missing is shown as. -/
def noQuantity : String := "None"

/-- The row of a line of a document. Its description and its amounts are needed. -/
def documentRow (currency : String) (cells : Cells) : Except Fault (List String) := do
  demand .replacement cells "description"
  demand .format cells "unit_price"
  demand .format cells "amount"
  let line ← draftLineOf (fillIn [("enrollment_id", noKey), ("qty", noKey)] cells)
  let row := Document.lineRow currency line
  return if lacks cells "qty" then row.set 1 noQuantity else row

/-- The document that records at hand make up: an invoice, its lines, a
student and the settings. -/
def documentOf (invoice : List (String × Json)) (lines : List (List (String × Json)))
    (student settings : List (String × Json)) : Except Fault Document := do
  let invoice ← complete .atHand invoiceShape invoice
  let lines ← lines.mapM readDocumentLine
  let student ← complete .atHand studentShape student
  let settings ← complete .atHand settingsShape settings
  demand .format invoice "period_month"
  demand .format invoice "period_year"
  demand .value invoice "status"
  demand .replacement student "full_name"
  let settings : Settings ← readFilled
    [("org_name", .str ""), ("address", .str ""), ("invoice_prefix", .str ""),
     ("next_seq", noKey), ("invoice_day_of_month", noKey), ("auto_issue", .bool false),
     ("currency", .str "None"), ("locale", .str "")] settings
  let rows ← lines.mapM (documentRow settings.currency)
  demand .format invoice "total_amount"
  return .ofRows (← readFilled [("student_id", noKey)] invoice) rows
    (← readFilled [("phone", .str ""), ("email", .str ""), ("note", .str ""),
      ("is_active", .bool false)] student)
    settings

end Tuition.Record
