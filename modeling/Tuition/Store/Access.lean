/-
# Access to the records

The calls through which use cases read and write the records of the pending store. What is read is
what the columns show; what is written is first brought into the form that they keep.
-/

import Tuition.Billing.Prices
import Tuition.World

namespace Tuition.Access

/-! ## Students, courses and enrollments -/

/-- The student with a key. -/
def findStudent (id : Int) : Tx (Option Student) := do
  Tx.call .findStudent
  Tx.requireTable "students" [id]
  Tx.look fun store => Table.find? store.students id

/-- The students with the given keys. -/
def findStudents (ids : List Int) : Tx (List Student) := do
  Tx.call .findStudents
  if ids.isEmpty then return []
  Tx.requireTable "students" ids
  Tx.look fun store => store.students.filter fun student => ids.contains student.id

/-- The active students, in the order of their keys. -/
def activeStudents : Tx (List Student) := do
  Tx.call .activeStudents
  Tx.requireTable "students" []
  Tx.look fun store => store.students.filter (·.active)

/-- All students, in the order of their keys. -/
def allStudents : Tx (List Student) := do
  Tx.call .allStudents
  Tx.requireTable "students" []
  Tx.look fun store => store.students

/-- The course with a key. -/
def findCourse (id : Int) : Tx (Option Course) := do
  Tx.call .findCourse
  Tx.requireTable "courses" [id]
  Tx.look fun store => (Table.find? store.courses id).map Row.shown

/-- The enrollment with a key. -/
def findEnrollment (id : Int) : Tx (Option Enrollment) := do
  Tx.call .findEnrollment
  Tx.requireTable "enrollments" [id]
  Tx.look fun store => (Table.find? store.enrollments id).map Row.shown

/-- The enrollments of a student, in the order of their keys. -/
def enrollmentsOfStudent (studentId : Int) : Tx (List Enrollment) := do
  Tx.call .enrollmentsOfStudent
  Tx.requireTable "enrollments" [studentId]
  Tx.look fun store => (store.enrollments.filter (·.studentId == studentId)).map Row.shown

/-- The attendance of a student in a course in a month. -/
def findAttendance (studentId courseId : Int) (period : Period) : Tx (Option Attendance) := do
  Tx.call .findAttendance
  Tx.requireTable "attendance_months" [studentId, courseId, period.year, period.month]
  Tx.look fun store => store.attendance.find? fun attendance =>
    attendance.studentId == studentId && attendance.courseId == courseId &&
      attendance.year == period.year && attendance.month == period.month

/-! ## Price overrides -/

/-- The overrides of an enrollment that start by a day, the latest first. -/
def overridesUntil (enrollmentId : Int) (day : Date) : Tx (List PriceOverride) := do
  Tx.call .overridesUntil
  Tx.requireTable "price_overrides" [enrollmentId]
  Tx.look fun store =>
    (PriceOverride.startingBy store.overrides enrollmentId day).map Row.shown

/-- The overrides of an enrollment, the earliest start first. -/
def overridesOfEnrollment (enrollmentId : Int) : Tx (List PriceOverride) := do
  Tx.call .overridesOfEnrollment
  Tx.requireTable "price_overrides" [enrollmentId]
  Tx.look fun store =>
    ((store.overrides.filter (·.enrollmentId == enrollmentId)).map Row.shown).mergeSort
      fun first second => first.validFrom ≤ second.validFrom

/-- Write a new override. -/
def addOverride (override : PriceOverride) : Tx PriceOverride := do
  Tx.call .addOverride
  Tx.requireTable "price_overrides" []
  let (kept, overrides) ← Tx.lift (Table.insert (← Tx.look (·.overrides)) override)
  Tx.change fun store => { store with overrides }
  return Row.shown kept

/-! ## Invoices and their lines -/

/-- Write a new invoice. -/
def addInvoice (invoice : Invoice) : Tx Invoice := do
  Tx.call .addInvoice
  Tx.requireTable "invoices" []
  let (kept, invoices) ← Tx.lift (Table.insert (← Tx.look (·.invoices)) invoice)
  Tx.change fun store => { store with invoices }
  return Row.shown kept

/-- The invoice with a key. -/
def findInvoice (id : Int) : Tx (Option Invoice) := do
  Tx.call .findInvoice
  Tx.requireTable "invoices" [id]
  Tx.look fun store => (Table.find? store.invoices id).map Row.shown

/-- The invoice of a student for a period. -/
def findInvoiceFor (studentId : Int) (period : Period) : Tx (Option Invoice) := do
  Tx.call .findInvoiceFor
  Tx.requireTable "invoices" [studentId, period.year, period.month]
  Tx.look fun store => (store.invoices.find? fun invoice =>
    invoice.studentId == studentId && invoice.period == period).map Row.shown

/-- The invoices of a period, in the order of their keys, and only those in a state if one is
given. -/
def invoicesOfPeriod (period : Period) (status : Option InvoiceStatus) : Tx (List Invoice) := do
  Tx.call .invoicesOfPeriod
  Tx.requireTable "invoices" [period.year, period.month]
  Tx.look fun store => (store.invoices.filter fun invoice =>
    invoice.period == period && (status.map (· == invoice.status)).getD true).map Row.shown

/-- The total to keep of an invoice: what is kept already, unless it shows another amount. -/
def totalToKeep (invoices : List Invoice) (invoice : Invoice) : Except Fault Decimal :=
  match Table.find? invoices invoice.id with
  | none => Store.keepTotal invoice.total
  | some kept =>
    if (Row.shown kept).total.order invoice.total == .eq then .ok kept.total
    else Store.keepTotal invoice.total

/-- Write an invoice over the one with its key. A total that stays the same
is not written again. -/
def saveInvoice (invoice : Invoice) : Tx Unit := do
  Tx.call .saveInvoice
  Tx.requireTable "invoices" []
  let old ← Tx.look (·.invoices)
  let total ← Tx.lift (totalToKeep old invoice)
  let invoices ← Tx.lift (Table.replace old { invoice with total })
  Tx.change fun store => { store with invoices }

/-- Remove an invoice. -/
def removeInvoice (id : Int) : Tx Unit := do
  Tx.call .removeInvoice
  Tx.change fun store => { store with invoices := Table.erase store.invoices id }

/-- The sum of what a student is billed on issued and paid invoices, added by period. -/
def sumInvoiced (studentId : Int) : Tx Decimal := do
  Tx.call .sumInvoiced
  Tx.requireTable "invoices" [studentId]
  let billed ← Tx.look fun store => store.invoices.filter fun invoice =>
    invoice.studentId == studentId && invoice.status.payable
  let byPeriod := billed.mergeSort fun first second => first.period.notAfter second.period
  Tx.arithmetic (Money.round (← Tx.lift (Amount.sum (byPeriod.map Invoice.total))))

/-- The lines of an invoice, in the order of their keys. -/
def linesOfInvoice (invoiceId : Int) : Tx (List InvoiceLine) := do
  Tx.call .linesOfInvoice
  Tx.requireTable "invoice_lines" [invoiceId]
  Tx.look fun store => (store.lines.filter (·.invoiceId == invoiceId)).map Row.shown

/-- Write new lines of an invoice. -/
def addLines (invoiceId : Int) (lines : List DraftLine) : Tx Unit := do
  Tx.call .addLines
  Tx.requireTable "invoice_lines" []
  let new := lines.map fun line => { line with id := 0, invoiceId : InvoiceLine }
  let lines ← Tx.lift (Table.insertAll (← Tx.look (·.lines)) new)
  Tx.change fun store => { store with lines }

/-- Remove the lines of an invoice. -/
def removeLines (invoiceId : Int) : Tx Unit := do
  Tx.call .removeLines
  Tx.requireTable "invoice_lines" [invoiceId]
  Tx.change fun store =>
    { store with lines := store.lines.filter (·.invoiceId != invoiceId) }

/-- The number of lines of each of the given invoices. -/
def countLines (invoiceIds : List Int) : Tx (Int → Nat) := do
  Tx.call .countLines
  if invoiceIds.isEmpty then return fun _ => 0
  Tx.requireTable "invoice_lines" invoiceIds
  Tx.look fun store id => (store.lines.filter (·.invoiceId == id)).length

/-! ## Payments -/

/-- Write a new payment. -/
def addPayment (payment : Payment) : Tx Payment := do
  Tx.call .addPayment
  Tx.requireTable "payments" []
  let (kept, payments) ← Tx.lift (Table.insert (← Tx.look (·.payments)) payment)
  Tx.change fun store => { store with payments }
  return Row.shown kept

/-- The payment with a key. -/
def findPayment (id : Int) : Tx (Option Payment) := do
  Tx.call .findPayment
  Tx.requireTable "payments" [id]
  Tx.look fun store => (Table.find? store.payments id).map Row.shown

/-- Remove a payment. -/
def removePayment (id : Int) : Tx Unit := do
  Tx.call .removePayment
  Tx.change fun store => { store with payments := Table.erase store.payments id }

/-- Whether a payment comes before another, the latest first and then the greatest key. -/
def newestFirst (first second : Payment) : Bool :=
  let one := first.paidAt.toMicroseconds
  let other := second.paidAt.toMicroseconds
  if one = other then second.id ≤ first.id else other < one

/-- The payments of a student, the latest first. -/
def paymentsOfStudent (studentId : Int) : Tx (List Payment) := do
  Tx.call .paymentsOfStudent
  Tx.requireTable "payments" [studentId]
  Tx.look fun store =>
    ((store.payments.filter (·.studentId == studentId)).map Row.shown).mergeSort newestFirst

/-- The sum of the payments on an invoice. -/
def sumPaidOnInvoice (invoiceId : Int) : Tx Decimal := do
  Tx.call .sumPaidOnInvoice
  Tx.requireTable "payments" [invoiceId]
  let paid ← Tx.look fun store => store.payments.filter (·.invoiceId == some invoiceId)
  Tx.arithmetic (Money.round (← Tx.lift (Amount.sum (paid.map Payment.amount))))

/-- Whether a payment was not made after another. -/
def madeBy (first second : Payment) : Bool :=
  first.paidAt.toMicroseconds ≤ second.paidAt.toMicroseconds

/-- The sum of all payments of a student, added from the earliest. -/
def sumPaidByStudent (studentId : Int) : Tx Decimal := do
  Tx.call .sumPaidByStudent
  Tx.requireTable "payments" [studentId]
  let paid ← Tx.look fun store => store.payments.filter (·.studentId == studentId)
  Tx.arithmetic
    (Money.round (← Tx.lift (Amount.sum ((paid.mergeSort madeBy).map Payment.amount))))

/-! ## Settings -/

/-- The settings, if they have been written. -/
def findSettings : Tx (Option Settings) := do
  Tx.call .findSettings
  Tx.requireTable "settings" []
  Tx.look (·.settings)

/-- Write the settings. -/
def saveSettings (settings : Settings) : Tx Unit := do
  Tx.call .saveSettings
  Tx.requireTable "settings" []
  let kept ← Tx.lift (Store.admitSettings settings)
  Tx.change fun store => { store with settings := some kept }

/-- The settings, which are written with their defaults if they are missing. -/
def ensureSettings : Tx Settings := do
  Tx.call .ensureSettings
  match ← findSettings with
  | some settings => return settings
  | none =>
    Tx.change fun store => { store with settings := some {} }
    return {}

/-! ## Prices -/

/-- The store as a place to look up what billing needs. -/
def priceBook : PriceBook Tx where
  course := findCourse
  overridesUntil := overridesUntil
  attendance := findAttendance

end Tuition.Access
