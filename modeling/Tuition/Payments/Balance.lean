/-
# Balances

What a student owes is the sum of the issued and paid invoices less the sum of all payments, as
far as it is above nothing. An active student who owes something is a debtor.
-/

import Tuition.Refusal
import Tuition.Store.Access

namespace Tuition.Payments

/-- The account of a student. -/
structure Balance where
  studentId : Int
  studentName : String
  invoiced : Decimal
  paid : Decimal
  balance : Decimal
  debt : Decimal
  deriving DecidableEq, Repr

/-- How far an invoice is paid. -/
structure InvoiceProgress where
  invoiceId : Int
  number : Option String
  total : Decimal
  paid : Decimal
  remaining : Decimal
  status : InvoiceStatus
  deriving DecidableEq, Repr

/-- What is left of a total after a payment, and not less than nothing. -/
def remainder (total paid : Decimal) : Except Decimal.Fault Decimal := do
  Money.atLeastNothing (← Money.round (← Decimal.sub total paid))

/-- The account that comes of two sums. -/
def Balance.ofSums (student : Student) (invoiced paid : Decimal) :
    Except Decimal.Fault Balance := do
  let invoiced ← Money.round invoiced
  let paid ← Money.round paid
  let balance ← Money.round (← Decimal.sub paid invoiced)
  let debt ← Money.atLeastNothing (← balance.neg)
  return ⟨student.id, student.fullName, invoiced, paid, balance, debt⟩

/-- The account of a student who is at hand. -/
def balanceFor (student : Student) : Tx Balance := do
  let invoiced ← Access.sumInvoiced student.id
  let paid ← Access.sumPaidByStudent student.id
  Tx.arithmetic (Balance.ofSums student invoiced paid)

/-- The account of a student. -/
def studentBalance (studentId : Int) : Tx (Except Refusal Balance) := do
  let some student ← Access.findStudent studentId | return .error (.noStudent studentId)
  return .ok (← balanceFor student)

/-- The accounts of students who owe something. -/
def owing : List Student → Tx (List Balance)
  | [] => return []
  | student :: others => do
    let balance ← balanceFor student
    let owes ← Tx.arithmetic (balance.debt.compare Money.nothing)
    let more ← owing others
    return if owes = .gt then balance :: more else more

/-- Whether a debtor comes before another: the greatest debt first. -/
def greatestDebtFirst (first second : Balance) : Bool :=
  second.debt.order first.debt != .gt

/-- The active students who owe something, the greatest debt first. -/
def listDebtors : Tx (List Balance) := do
  return (← owing (← Access.activeStudents)).mergeSort greatestDebtFirst

/-- How far an invoice is paid. -/
def invoiceProgress (id : Int) : Tx (Except Refusal InvoiceProgress) := do
  let some invoice ← Access.findInvoice id | return .error (.noInvoice id)
  let total ← Tx.arithmetic (Money.round invoice.total)
  let paid ← Access.sumPaidOnInvoice invoice.id
  let paid ← Tx.arithmetic (Money.round paid)
  let remaining ← Tx.arithmetic (remainder total paid)
  return .ok ⟨invoice.id, invoice.number, total, paid, remaining, invoice.status⟩

/-- The payments of a student, the latest first. -/
def listPayments (studentId : Int) : Tx (Except Refusal (List Payment)) := do
  if (← Access.findStudent studentId).isNone then return .error (.noStudent studentId)
  let payments ← Access.paymentsOfStudent studentId
  payments.forM fun payment =>
    Tx.lift (requireFinite "PaymentResponseDTO" [("amount", payment.amount)])
  return .ok payments

end Tuition.Payments
