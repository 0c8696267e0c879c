/-
# Looking at invoices

An invoice is shown with the name of its student, which is empty when the student is gone. A list
gives the number of its lines; the details give the lines themselves. Amounts that are not finite
cannot be shown.
-/

import Tuition.Refusal
import Tuition.Store.Access

namespace Tuition.Billing

/-- An invoice as a list shows it. -/
structure InvoiceHeader where
  id : Int
  studentId : Int
  studentName : String
  period : Period
  total : Decimal
  status : InvoiceStatus
  lineCount : Nat
  number : Option String
  deriving DecidableEq, Repr

/-- An invoice with its lines. -/
structure InvoiceDetail extends InvoiceHeader where
  issuedAt : Option Moment
  paidAt : Option Moment
  lines : List DraftLine
  deriving DecidableEq, Repr

/-- The name of a student who may be gone. -/
def nameOf (student : Option Student) : String :=
  (student.map Student.fullName).getD ""

/-- The header of an invoice. -/
def header (invoice : Invoice) (student : Option Student) (lineCount : Nat) : InvoiceHeader :=
  ⟨invoice.id, invoice.studentId, nameOf student, invoice.period, invoice.total, invoice.status,
    lineCount, invoice.number⟩

/-- Refuse to show an invoice, under the name of the form that shows it. -/
def requireShown (form : String) (invoice : Invoice) : Tx Unit :=
  Tx.lift (requireFinite form [("total", invoice.total)])

/-- Refuse to show a line. -/
def requireShownLine (line : InvoiceLine) : Tx Unit :=
  Tx.lift
    (requireFinite "InvoiceLineDTO" [("unit_price", line.unitPrice), ("amount", line.amount)])

/-- The invoices of a period, and only those in a state if one is given. -/
def listInvoices (period : Period) (status : Option InvoiceStatus) :
    Tx (Except Refusal (List InvoiceHeader)) := do
  if !period.accepts then return .error (.noSuchPeriod period)
  let found ← Tx.attempt do
    let invoices ← Access.invoicesOfPeriod period status
    let lineCount ← Access.countLines (invoices.map Invoice.id)
    let students ← Access.findStudents (invoices.map Invoice.studentId)
    return (invoices, lineCount, students)
  match found with
  | .error fault => return .error (.listingFailed period fault)
  | .ok (invoices, lineCount, students) =>
    invoices.forM (requireShown "InvoiceListItemDTO")
    return .ok <| invoices.map fun invoice =>
      header invoice (Table.find? students invoice.studentId) (lineCount invoice.id)

/-- One invoice with its lines. -/
def getInvoice (id : Int) : Tx (Except Refusal InvoiceDetail) := do
  let some invoice ← Access.findInvoice id | return .error (.noInvoice id)
  let lines ← Access.linesOfInvoice invoice.id
  let student ← Access.findStudent invoice.studentId
  lines.forM requireShownLine
  requireShown "InvoiceDetailDTO" invoice
  return .ok
    { header invoice student lines.length with
      issuedAt := invoice.issuedAt
      paidAt := invoice.paidAt
      lines := lines.map (·.toDraftLine) }

end Tuition.Billing
