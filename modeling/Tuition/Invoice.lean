/-
# Invoices

A student has at most one invoice for a period. It starts as a draft, whose lines may be rebuilt;
issuing gives it a number; payments turn it from issued to paid and back; a canceled invoice stays
as it is.
-/

import Tuition.Billing.Period
import Tuition.Decimal.Basic

namespace Tuition

/-- The state of an invoice. -/
inductive InvoiceStatus where
  | draft
  | issued
  | paid
  | canceled
  deriving DecidableEq, Repr

namespace InvoiceStatus

/-- The word for a state. -/
def text : InvoiceStatus → String
  | .draft => "draft"
  | .issued => "issued"
  | .paid => "paid"
  | .canceled => "canceled"

/-- The state that a word stands for. -/
def ofText? : String → Option InvoiceStatus
  | "draft" => some .draft
  | "issued" => some .issued
  | "paid" => some .paid
  | "canceled" => some .canceled
  | _ => none

/-- Whether an invoice in this state is owed, so that payments count towards it. -/
def payable : InvoiceStatus → Bool
  | .issued => true
  | .paid => true
  | _ => false

end InvoiceStatus

/-- The bill of one student for one period. -/
structure Invoice where
  id : Int
  studentId : Int
  period : Period
  total : Decimal
  status : InvoiceStatus
  number : Option String
  issuedAt : Option Moment
  paidAt : Option Moment
  deriving DecidableEq, Repr

/-- The number of an invoice that has one; an empty number is none. -/
def Invoice.numbered? (invoice : Invoice) : Option String :=
  invoice.number.filter (!·.isEmpty)

/-- What one enrollment adds to an invoice. -/
structure DraftLine where
  enrollmentId : Int
  description : String
  quantity : Int
  unitPrice : Decimal
  amount : Decimal
  deriving DecidableEq, Repr

/-- A line of an invoice. -/
structure InvoiceLine extends DraftLine where
  id : Int
  invoiceId : Int
  deriving DecidableEq, Repr

end Tuition
