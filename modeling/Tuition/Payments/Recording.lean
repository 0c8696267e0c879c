/-
# Recording payments

A payment is recorded for a student, and on an invoice only if it is the student's and is owed.
The state of that invoice follows in the same transaction, and again when the payment is deleted.
-/

import Tuition.Payments.Settlement
import Tuition.Refusal

namespace Tuition.Payments

/-- A payment to be recorded. -/
structure PaymentCommand where
  studentId : Int
  invoiceId : Option Int
  amount : Decimal
  method : PaymentMethod
  paidAt : Stamp
  note : String
  deriving DecidableEq, Repr

/-- A recorded payment, with the state of its invoice afterwards. -/
structure Receipt where
  payment : Payment
  invoiceStatus : Option InvoiceStatus
  deriving DecidableEq, Repr

/-- The invoice that a payment settles, or why it cannot. -/
def invoiceToSettle (command : PaymentCommand) (student : Student) :
    Tx (Except Refusal (Option Invoice)) := do
  match command.invoiceId with
  | none => return .ok none
  | some id =>
    match ← Access.findInvoice id with
    | none => return .error (.noInvoice id)
    | some invoice =>
      if invoice.studentId ≠ student.id then
        return .error (.otherStudent invoice.id student.id invoice.studentId)
      if !invoice.status.payable then return .error (.notPayable invoice.id invoice.status)
      return .ok (some invoice)

/-- Write the payment of a command, settle its invoice, and commit both. -/
def writePayment (command : PaymentCommand) (student : Student) (invoice : Option Invoice) :
    Tx Receipt := do
  let amount ← Tx.arithmetic (Money.round command.amount)
  let payment ← Access.addPayment
    ⟨0, student.id, invoice.map Invoice.id, command.paidAt.moment, amount, command.method,
      command.note⟩
  let settled ← invoice.mapM settle
  Tx.commit
  return ⟨payment, settled.map Invoice.status⟩

/-- Record a payment. -/
def recordPayment (command : PaymentCommand) : Tx (Except Refusal Receipt) :=
  Tx.recover (do
    match ← Access.findStudent command.studentId with
    | none =>
      Tx.rollback
      return .error (.noStudent command.studentId)
    | some student =>
      match ← invoiceToSettle command student with
      | .error refusal =>
        Tx.rollback
        return .error refusal
      | .ok invoice => return .ok (← writePayment command student invoice)) fun fault => do
    Tx.rollback
    return .error (.recordingFailed fault)

/-- Delete a payment. -/
def deletePayment (id : Int) : Tx (Except Refusal Unit) :=
  Tx.recover (do
    match ← Access.findPayment id with
    | none =>
      Tx.rollback
      return .error (.noPayment id)
    | some payment =>
      let invoice ← match payment.invoiceId with
        | none => pure none
        | some invoiceId => Access.findInvoice invoiceId
      Access.removePayment payment.id
      let _ ← invoice.mapM settle
      Tx.commit
      return .ok ()) fun fault => do
    Tx.rollback
    return .error (.deletingPaymentFailed id fault)

end Tuition.Payments
