/-
# Settling invoices

An issued invoice is paid once the payments on it cover its total, and it is issued again when
they no longer do. Drafts and canceled invoices are left as they are.
-/

import Tuition.Store.Access

namespace Tuition.Payments

/-- Whether an amount covers a total. -/
def covers (paid total : Decimal) : Except Decimal.Fault Bool := do
  return (← paid.compare total) != .lt

/-- Bring the state of an invoice in line with the payments on it. -/
def settle (invoice : Invoice) : Tx Invoice := do
  if !invoice.status.payable then return invoice
  let paid ← Access.sumPaidOnInvoice invoice.id
  if ← Tx.arithmetic (covers paid invoice.total) then
    if invoice.status = .paid then return invoice
    let settled := { invoice with status := .paid, paidAt := some (← Tx.now) }
    Access.saveInvoice settled
    return settled
  else
    if invoice.status ≠ .paid then return invoice
    let reopened := { invoice with status := .issued, paidAt := none }
    Access.saveInvoice reopened
    return reopened

end Tuition.Payments
