/-
# Refusals

A use case that does not do what it was asked for says why. Most causes lie in the request or in
the records; the last group reports a fault that broke the operation off. Each cause has one
report, and the report determines the status of an answer over HTTP.
-/

import Tuition.Billing.Period
import Tuition.Fault
import Tuition.Invoice
import Tuition.Report

namespace Tuition

/-- What the settings are needed for. -/
inductive SettingsUse where
  | numbering
  | letterhead
  deriving DecidableEq, Repr

/-- Why a use case refuses. -/
inductive Refusal where
  | noSuchPeriod (period : Period)
  | unfitCash (problems : String)
  | unfitOverride (problems : String)
  | unfitRequest (problems : String)
  | noInvoice (id : Int)
  | noStudent (id : Int)
  | noStudentOfInvoice (studentId invoiceId : Int)
  | noEnrollment (id : Int)
  | noPayment (id : Int)
  | noSettings (use : SettingsUse)
  | notDraftToIssue (id : Int) (status : InvoiceStatus)
  | notDraftToDelete (status : InvoiceStatus)
  | notNumbered (id : Int) (status : InvoiceStatus)
  | otherStudent (invoiceId studentId owner : Int)
  | notPayable (id : Int) (status : InvoiceStatus)
  | overlapping (enrollmentId : Int) (start : Date) (overrideId : Int)
  | issuedUnrendered (number : String) (reason : String)
  | generatingFailed (period : Period) (fault : Fault)
  | issuingFailed (id : Int) (fault : Fault)
  | renderingFailed (id : Int) (fault : Fault)
  | listingFailed (period : Period) (fault : Fault)
  | listingDraftsFailed (period : Period) (fault : Fault)
  | deletingDraftFailed (id : Int) (fault : Fault)
  | addingOverrideFailed (fault : Fault)
  | recordingFailed (fault : Fault)
  | deletingPaymentFailed (id : Int) (fault : Fault)
  deriving DecidableEq, Repr

namespace Refusal

/-- The state of an invoice as a reason. -/
def statusReason (status : InvoiceStatus) : Option String :=
  some ("status=" ++ status.text)

/-- The report of a missing record. -/
def missing (code kind : String) (id : Int) : Report :=
  ⟨code ++ "_NOT_FOUND", kind ++ " with ID " ++ Text.integer id ++ " not found", none⟩

/-- The report of an operation that a fault broke off. -/
def failed (code message : String) (fault : Fault) : Report :=
  ⟨code ++ "_FAILED", "Failed to " ++ message, some fault.message⟩

/-- The report of a request that does not fit its form. -/
def unfit (message problems : String) : Report :=
  ⟨"VALIDATION_ERROR", message, some problems⟩

/-- The report of a period that does not exist, under the words it was asked for with. -/
def badPeriod (year month : String) : Report :=
  unfit ("Invalid billing period " ++ year ++ "-" ++ month) "month must be 1-12 and year 1-9999"

/-- The report of missing settings. -/
def missingSettings (use : SettingsUse) : Report :=
  ⟨"SETTINGS_NOT_FOUND", "Billing settings are not initialized", some <|
    match use with
    | .numbering => "The settings row holds the invoice counter"
    | .letterhead => "The settings row holds the organisation shown on the PDF"⟩

/-- The report of a refusal. -/
def report : Refusal → Report
  | .noSuchPeriod period => badPeriod (Text.integer period.year) (Text.integer period.month)
  | .unfitCash problems => unfit "Invalid quick cash payment" problems
  | .unfitOverride problems => unfit "Invalid price override" problems
  | .unfitRequest problems => unfit "Invalid request parameters" problems
  | .noInvoice id => missing "INVOICE" "Invoice" id
  | .noStudent id => missing "STUDENT" "Student" id
  | .noStudentOfInvoice studentId invoiceId =>
    ⟨"STUDENT_NOT_FOUND", "Student " ++ Text.integer studentId ++ " of invoice " ++
      Text.integer invoiceId ++ " not found", none⟩
  | .noEnrollment id => missing "ENROLLMENT" "Enrollment" id
  | .noPayment id => missing "PAYMENT" "Payment" id
  | .noSettings use => missingSettings use
  | .notDraftToIssue id status =>
    ⟨"INVOICE_NOT_DRAFT", "Invoice " ++ Text.integer id ++ " is not draft", statusReason status⟩
  | .notDraftToDelete status =>
    ⟨"INVOICE_NOT_DRAFT", "Only draft invoices can be deleted", statusReason status⟩
  | .notNumbered id status =>
    ⟨"INVOICE_NOT_ISSUED", "Invoice " ++ Text.integer id ++ " has no number, issue it first",
      statusReason status⟩
  | .otherStudent invoiceId studentId owner =>
    ⟨"INVOICE_STUDENT_MISMATCH", "Invoice " ++ Text.integer invoiceId ++
      " does not belong to student " ++ Text.integer studentId,
      some ("invoice.student_id=" ++ Text.integer owner)⟩
  | .notPayable id status =>
    ⟨"INVOICE_NOT_PAYABLE", "Invoice " ++ Text.integer id ++ " is not issued",
      statusReason status⟩
  | .overlapping enrollmentId start overrideId =>
    ⟨"OVERLAPPING_PRICE_OVERRIDE", "Enrollment " ++ Text.integer enrollmentId ++
      " already has an override from " ++ start.text ++ " overlapping this window",
      some ("price_override_id=" ++ Text.integer overrideId)⟩
  | .issuedUnrendered number reason =>
    ⟨"RENDER_INVOICE_FAILED", "Invoice issued as " ++ number ++ " but the PDF was not produced",
      some reason⟩
  | .generatingFailed period fault =>
    failed "GENERATE_DRAFTS" ("generate drafts for " ++ period.text) fault
  | .issuingFailed id fault => failed "ISSUE_INVOICE" ("issue invoice " ++ Text.integer id) fault
  | .renderingFailed id fault =>
    failed "RENDER_INVOICE" ("render invoice " ++ Text.integer id) fault
  | .listingFailed period fault =>
    failed "LIST_INVOICES" ("list invoices for " ++ period.text) fault
  | .listingDraftsFailed period fault =>
    failed "ISSUE_ALL" ("list drafts for " ++ period.text) fault
  | .deletingDraftFailed id fault =>
    failed "DELETE_DRAFT" ("delete draft invoice " ++ Text.integer id) fault
  | .addingOverrideFailed fault => failed "CREATE_PRICE_OVERRIDE" "create price override" fault
  | .recordingFailed fault => failed "CREATE_PAYMENT" "record payment" fault
  | .deletingPaymentFailed id fault =>
    failed "DELETE_PAYMENT" ("delete payment " ++ Text.integer id) fault

/-- The reason of a refusal, or its message if it gives none. An empty reason is none. -/
def explanation (refusal : Refusal) : String :=
  match refusal.report.reason with
  | none => refusal.report.message
  | some reason => if reason.isEmpty then refusal.report.message else reason

end Refusal
end Tuition
