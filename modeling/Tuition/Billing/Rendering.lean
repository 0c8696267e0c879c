/-
# Rendering invoices

The document of an invoice is written to a file whose path depends on the directory, the period
and the number alone. Rendering changes no record, so it can be repeated after a fault.
-/

import Tuition.Refusal
import Tuition.Store.Access

namespace Tuition.Billing

/-- Where the document of an invoice is written: under the year and the month, by its number. -/
def documentPath (base : FilePath) (period : Period) (number : String) : FilePath :=
  ((base.join (Text.padded 4 period.year)).join (Text.padded 2 period.month)).join
    (number ++ ".pdf")

/-- An invoice whose document was written. -/
structure RenderedInvoice where
  invoiceId : Int
  number : String
  path : FilePath
  deriving DecidableEq, Repr

/-- Write the document of an invoice that has a number, all that it shows being found. -/
def renderNumbered (base : FilePath) (invoice : Invoice) (number : String) (student : Student)
    (settings : Settings) : Tx RenderedInvoice := do
  let lines ← Access.linesOfInvoice invoice.id
  Tx.call .render
  let path := documentPath base invoice.period number
  Tx.onFiles <| .write path <|
    .document (Document.ofInvoice invoice (lines.map (·.toDraftLine)) student settings)
  return ⟨invoice.id, number, path⟩

/-- Write the document of an invoice. -/
def renderInvoice (base : FilePath) (id : Int) : Tx (Except Refusal RenderedInvoice) :=
  Tx.recover (do
    let some invoice ← Access.findInvoice id | return .error (.noInvoice id)
    let some number := invoice.numbered? | return .error (.notNumbered id invoice.status)
    let some student ← Access.findStudent invoice.studentId
      | return .error (.noStudentOfInvoice invoice.studentId id)
    let some settings ← Access.findSettings | return .error (.noSettings .letterhead)
    return .ok (← renderNumbered base invoice number student settings)) fun fault =>
    return .error (.renderingFailed id fault)

end Tuition.Billing
