/-
# Results as values

The results of the use cases as JSON values. Amounts are written as texts with their places, dates
and times in the ISO 8601 format.
-/

import Tuition.Billing.Overview
import Tuition.Outcome
import Tuition.Payments.Balance
import Tuition.Payments.Recording
import Tuition.Record.Tables
import Tuition.Worker.Run

namespace Tuition

/-- The members of a period. -/
def Period.members (period : Period) : List (String × Json) :=
  [("year", .int period.year), ("month", .int period.month)]

/-- A refusal as a value. -/
def Refusal.toJson (refusal : Refusal) : Json :=
  refusal.report.toJson

/-- A part that may be missing. -/
def Json.ofOption {α : Type} (view : α → Json) : Option α → Json
  | none => .null
  | some value => view value

namespace Billing

/-- What a billing run did, as a value. -/
def DraftCounts.toJson (counts : DraftCounts) : Json :=
  .obj (counts.period.members ++
    [("created", .int counts.created), ("updated", .int counts.updated),
     ("skipped_has_invoice", .int counts.alreadyInvoiced),
     ("skipped_no_lines", .int counts.withoutLines)])

/-- An issued invoice as a value. -/
def IssuedInvoice.toJson (issued : IssuedInvoice) : Json :=
  .obj [("invoice_id", .int issued.invoiceId), ("number", .str issued.number),
    ("already_issued", .bool issued.already)]

/-- A rendered invoice as a value. -/
def RenderedInvoice.toJson (rendered : RenderedInvoice) : Json :=
  .obj [("invoice_id", .int rendered.invoiceId), ("number", .str rendered.number),
    ("path", .str rendered.path.text)]

/-- What issuing the drafts of a period did, as a value. -/
def IssueRun.toJson (run : IssueRun) : Json :=
  .obj (run.period.members ++
    [("count", .int run.count), ("paths", .arr (run.paths.map fun path => .str path.text)),
     ("failed_invoice_id", Json.ofInt? (run.failure.map (·.invoiceId))),
     ("error", Json.ofOption Refusal.toJson (run.failure.map (·.refusal)))])

/-- The members of the header of an invoice. -/
def InvoiceHeader.members (header : InvoiceHeader) : List (String × Json) :=
  [("id", .int header.id), ("student_id", .int header.studentId),
   ("student_name", .str header.studentName)] ++ header.period.members ++
  [("total", Record.decimalCell header.total), ("status", .str header.status.text),
   ("lines_count", .int header.lineCount), ("number", Json.ofText? header.number)]

/-- The header of an invoice as a value. -/
def InvoiceHeader.toJson (header : InvoiceHeader) : Json :=
  .obj header.members

/-- An invoice with its lines as a value. -/
def InvoiceDetail.toJson (detail : InvoiceDetail) : Json :=
  .obj (detail.toInvoiceHeader.members ++
    [("issued_at", Record.optionalCell Record.momentCell detail.issuedAt),
     ("paid_at", Record.optionalCell Record.momentCell detail.paidAt),
     ("lines", .arr (detail.lines.map fun line => .obj (Record.draftLineCells line)))])

end Billing

/-- A price override as a value. -/
def PriceOverride.toJson (override : PriceOverride) : Json :=
  .obj (Record.Recorded.toCells override)

/-- A payment as a value, with the state of its invoice where that is known. -/
def Payment.toJson (payment : Payment) (invoiceStatus : Option InvoiceStatus) : Json :=
  .obj (Record.Recorded.toCells payment ++
    [("invoice_status", Json.ofText? (invoiceStatus.map InvoiceStatus.text))])

namespace Payments

/-- A recorded payment as a value. -/
def Receipt.toJson (receipt : Receipt) : Json :=
  receipt.payment.toJson receipt.invoiceStatus

/-- The members of an account but its balance. -/
def Balance.debtMembers (balance : Balance) : List (String × Json) :=
  [("student_id", .int balance.studentId), ("student_name", .str balance.studentName),
   ("total_invoiced", Record.decimalCell balance.invoiced),
   ("total_paid", Record.decimalCell balance.paid), ("debt", Record.decimalCell balance.debt)]

/-- An account as a value. -/
def Balance.toJson (balance : Balance) : Json :=
  .obj (balance.debtMembers ++ [("balance", Record.decimalCell balance.balance)])

/-- A debtor as a value. -/
def Balance.debtorJson (balance : Balance) : Json :=
  .obj balance.debtMembers

/-- The progress of an invoice as a value. -/
def InvoiceProgress.toJson (progress : InvoiceProgress) : Json :=
  .obj [("invoice_id", .int progress.invoiceId), ("number", Json.ofText? progress.number),
    ("total", Record.decimalCell progress.total), ("paid", Record.decimalCell progress.paid),
    ("remaining", Record.decimalCell progress.remaining), ("status", .str progress.status.text)]

end Payments

/-- What a run of a worker did, as a value. -/
def BillingReport.toJson (report : BillingReport) : Json :=
  .obj (report.period.members ++
    [("drafts", Json.ofOption Billing.DraftCounts.toJson report.drafts),
     ("issued", Json.ofOption Billing.IssueRun.toJson report.issued),
     ("error", Json.ofOption Refusal.toJson report.error)])

end Tuition
