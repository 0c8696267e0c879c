/-
# Cash at the desk

Cash that is handed over is recorded as a payment of today that settles no particular invoice. The
entries are checked by the form of a payment, so cash that does not fit it is refused.
-/

import Tuition.Request.Form

namespace Tuition.Payments

/-- The name of the form of a payment. -/
def paymentFormName : String := "CreatePaymentCommandDTO"

/-- The entries of a payment in cash that is made on a day. -/
def cashEntries (today : Date) (studentId amount note : Entry) : Request.Entries :=
  [("student_id", studentId), ("amount", amount),
   ("method", .json (.str PaymentMethod.cash.text)), ("paid_at", .json (.str today.text)),
   ("note", note)]

/-- Record cash. -/
def quickCash (studentId amount note : Entry) : Tx (Except Refusal Receipt) := do
  let today := (← Tx.now).date
  match Request.paymentCommand (cashEntries today studentId amount note) with
  | .broken fault => throw (.arithmetic fault)
  | .refused complaints =>
    return .error (.unfitCash (Request.Rejection.text ⟨paymentFormName, complaints⟩))
  | .accepted command => recordPayment command

end Tuition.Payments
