/-
# The service

A request is checked in full before anything is done: the parameters of its path, then its query,
then its body. Each request has a session of its own. A fault that no use case answers for becomes
the answer that the service failed.
-/

import Tuition.Http.Address
import Tuition.Http.Answer
import Tuition.Http.Route
import Tuition.Json.Encoding
import Tuition.Payments.QuickCash
import Tuition.Views

namespace Tuition.Http

/-- A request. -/
structure Request where
  method : String
  path : String
  query : List (String × String) := []
  body : String := ""
  deriving Repr

/-! ## Addresses -/

/-- The text that a part of a query stands for, where a plus sign is a blank. -/
def decodeQueryText (text : List Char) : String :=
  decodePath (String.ofList (text.map fun c => if c = '+' then ' ' else c))

/-- The name and the value in a part of a query. -/
def queryPair (part : List Char) : String × String :=
  let name := part.takeWhile (· ≠ '=')
  (decodeQueryText name, decodeQueryText (part.drop (name.length + 1)))

/-- Read the query behind a path. -/
def readQuery (text : List Char) : List (String × String) :=
  ((Text.split (· = '&') text).filter (!·.isEmpty)).map queryPair

/-- The request to an address, whose query gives way to one that is given apart. -/
def Request.ofAddress (method address body : String) (query : Option (List (String × String))) :
    Except AddressFault Request := do
  let place ← Resource.ofAddress address
  return { method, body, path := String.ofList place.path
           query := query.getD (readQuery (place.query.getD [])) }

/-! ## Checking requests -/

open Tuition.Request (Checked Complaint Entries Rejection)

/-- Put the complaints of a part below a place. -/
def under {α : Type} (place : String) : Checked α → Checked α
  | .refused complaints =>
    .refused (complaints.map fun complaint =>
      { complaint with place := place :: complaint.place })
  | other => other

/-- Check a parameter of the path. -/
def pathNumber (name value : String) : Checked Int :=
  under "path" (Request.checkEntry name Request.whole (.json (.str value)))

/-- A field of a whole number between two bounds. -/
def bounded (least greatest : Int) : Request.Field Int := fun entry => do
  let n ← Request.whole entry
  if n < least then Request.complain (.below least)
  else if greatest < n then Request.complain (.above greatest)
  else return n

/-- Check a parameter of the query that must be there. The last one of a name counts. -/
def queryField {α : Type} (request : Request) (name : String) (field : Request.Field α) :
    Checked α :=
  under "query" (Request.required name field
    (request.query.reverse.map fun member => (member.1, .json (.str member.2))))

/-- The word for invoices in any state. -/
def anyStatus : String := "all"

/-- What a choice of a state has to look like. -/
def statusPattern : String := "^(draft|issued|paid|canceled|all)$"

/-- A field of a choice of a state of invoices. -/
def statusChoice : Request.Field (Option InvoiceStatus) := fun entry => do
  let word ← Request.text entry
  if word = anyStatus then return none
  match InvoiceStatus.ofText? word with
  | some status => return some status
  | none => Request.complain (.unlike statusPattern)

/-- Check the choice of a state in the query, which may be left out. -/
def queryStatus (request : Request) : Checked (Option InvoiceStatus) :=
  under "query" (Request.withDefault "status" none statusChoice
    (request.query.reverse.map fun member => (member.1, .json (.str member.2))))

/-- Check a form in a body that was read. -/
def bodyForm {α : Type} (check : Entries → Checked α) : Option Json → Checked α
  | none => .refused [⟨["body"], .missing⟩]
  | some (.obj members) => under "body" (check (Request.entriesOf members))
  | some _ => .refused [⟨["body"], .notFields⟩]

/-- Read the body of a request, or give the answer to one that cannot be read. -/
def readBody (request : Request) : Except Answer (Option Json) :=
  if request.body.isEmpty then .ok none
  else
    match (Json.decode? (Text.utf8Octets request.body)).map Json.readLetters with
    | some (.ok value) => .ok (some value)
    | some (.error (.malformed position)) =>
      .error (.ofComplaints [⟨["body", Text.digits position], .malformed⟩])
    | some (.error _) => .error .badBody
    | none => .error .badBody

/-! ## Answering requests -/

/-- Answer with what a check accepted. -/
def answering {α : Type} (checked : Checked α) (answer : α → Tx Answer) : Tx Answer :=
  match checked with
  | .accepted value => answer value
  | .refused complaints => return .ofComplaints complaints
  | .broken fault => throw (.arithmetic fault)

/-- The answer to an operation that was done or refused. -/
def outcome {α : Type} (status : Nat) (view : α → Json) : Except Refusal α → Answer
  | .ok value => ⟨status, .json (view value)⟩
  | .error refusal => .ofReport refusal.report

/-- The answer to an operation that gives nothing back. -/
def emptyOutcome : Except Refusal Unit → Answer
  | .ok () => ⟨204, .empty⟩
  | .error refusal => .ofReport refusal.report

/-- Run an operation on the record that the path names. -/
def onKey {α : Type} (name value : String) (operation : Int → Tx (Except Refusal α))
    (answer : Except Refusal α → Answer) : Tx Answer :=
  answering (pathNumber name value) fun id => answer <$> operation id

/-- Run an operation on the period that the path names. -/
def onPeriod {α : Type} (year month : String) (operation : Period → Tx (Except Refusal α))
    (view : α → Json) : Tx Answer :=
  answering (Period.mk <$> pathNumber "year" year <*> pathNumber "month" month) fun period =>
    outcome 200 view <$> operation period

/-- A header can only hold characters of one octet. -/
def fitsHeader (text : String) : Bool :=
  text.toList.all (·.toNat < 0x100)

/-- A header as it is understood: its characters are octets, which are read
as UTF-8 if they are. -/
def understoodHeader (text : String) : String :=
  ((Text.strictUtf8? 0 (text.toList.map Char.toNat)).map Text.ofLetters).getD text

/-- The answer that hands a rendered invoice out; `none` if its number does not fit a header. -/
def download? (rendered : Billing.RenderedInvoice) : Option Answer :=
  let disposition := "attachment; filename=" ++ rendered.number ++ ".pdf"
  if fitsHeader disposition then some ⟨200, .document (understoodHeader disposition)⟩ else none

/-- The answer to a download. -/
def downloadOutcome : Except Refusal Billing.RenderedInvoice → Answer
  | .ok rendered => (download? rendered).getD .serverError
  | .error refusal => .ofReport refusal.report

/-- Record the payment in a body. It is checked a second time when the command is made of it. -/
def recordPayment (body : Option Json) : Tx Answer :=
  answering (bodyForm Request.payment body) fun form =>
    match Request.paymentCommand (Request.paymentEntries form) with
    | .accepted command => outcome 201 Payments.Receipt.toJson <$> Payments.recordPayment command
    | .refused _ => return .serverError
    | .broken fault => throw (.arithmetic fault)

/-- Record the cash in a body. -/
def quickCash (body : Option Json) : Tx Answer :=
  answering (bodyForm Request.quickCash body) fun form =>
    outcome 201 Payments.Receipt.toJson <$>
      Payments.quickCash (.json (.int form.studentId)) (.decimal form.amount)
        (.json (.str form.note))

/-- The name of the form of a price override for an enrollment. -/
def overrideFormName : String := "CreatePriceOverrideCommandDTO"

/-- Add the price override in a body to the enrollment that the path names. -/
def addOverride (enrollmentId : String) (body : Option Json) : Tx Answer :=
  answering (Prod.mk <$> pathNumber "enrollment_id" enrollmentId
      <*> bodyForm Request.overrideForm body) fun (id, form) =>
    match Request.overrideCommand (Request.overrideEntries id form) with
    | .accepted command => outcome 201 PriceOverride.toJson <$> Billing.addOverride command
    | .refused complaints =>
      return .ofReport
        (Refusal.unfitOverride (Rejection.text ⟨overrideFormName, complaints⟩)).report
    | .broken fault => throw (.arithmetic fault)

/-- List the invoices that the query asks for. -/
def listInvoices (request : Request) : Tx Answer :=
  answering ((fun year month status => (Period.mk year month, status)) <$>
      queryField request "year" (bounded 1 9999) <*> queryField request "month" (bounded 1 12)
      <*> queryStatus request) fun (period, status) =>
    outcome 200 (fun headers => .arr (headers.map (·.toJson))) <$>
      Billing.listInvoices period status

/-- Answer at an endpoint that takes a body, once the body is read. -/
def withBody (request : Request) (answer : Option Json → Tx Answer) : Tx Answer :=
  match readBody request with
  | .ok body => answer body
  | .error refused => return refused

/-- Answer at an endpoint. -/
def answerAt (worker : Worker) (request : Request) : Endpoint → Tx Answer
  | .health => return ⟨200, .json (.obj [("status", .str "ok")])⟩
  | .documentation => return ⟨200, .empty⟩
  | .generateDrafts year month =>
    onPeriod year month (Billing.generateDrafts worker.billAll) (·.toJson)
  | .issueAll year month =>
    onPeriod year month (Billing.issueAll worker.outputDirectory) (·.toJson)
  | .listInvoices => listInvoices request
  | .getInvoice id => onKey "invoice_id" id Billing.getInvoice (outcome 200 (·.toJson))
  | .deleteDraft id => onKey "invoice_id" id Billing.deleteDraft emptyOutcome
  | .issueInvoice id =>
    onKey "invoice_id" id (Billing.issueAndRender worker.outputDirectory) (outcome 200 (·.toJson))
  | .renderInvoice id =>
    onKey "invoice_id" id (Billing.renderInvoice worker.outputDirectory) (outcome 200 (·.toJson))
  | .downloadInvoice id =>
    onKey "invoice_id" id (Billing.renderInvoice worker.outputDirectory) downloadOutcome
  | .invoiceProgress id => onKey "invoice_id" id Payments.invoiceProgress (outcome 200 (·.toJson))
  | .recordPayment => withBody request recordPayment
  | .quickCash => withBody request quickCash
  | .deletePayment id => onKey "payment_id" id Payments.deletePayment emptyOutcome
  | .studentPayments id =>
    onKey "student_id" id Payments.listPayments
      (outcome 200 fun payments => .arr (payments.map (·.toJson none)))
  | .studentBalance id => onKey "student_id" id Payments.studentBalance (outcome 200 (·.toJson))
  | .listDebtors => do
    return ⟨200, .json (.arr ((← Payments.listDebtors).map (·.debtorJson)))⟩
  | .addOverride id => withBody request (addOverride id)

/-- Answer a request that asks for a body. -/
def answer (worker : Worker) (request : Request) : Tx Answer :=
  match find request.method request.path with
  | .nothing => return .notFound
  | .wrongMethod => return .wrongMethod
  | .redirect => return .redirect
  | .endpoint endpoint =>
    Tx.recover (Tx.session (answerAt worker request endpoint)) fun _ => return .serverError

/-- Answer a request. The method `HEAD` asks for an answer without its body. -/
def serve (worker : Worker) (request : Request) : Tx Answer := do
  let full ← answer worker request
  return if request.method = "HEAD" then { full with body := .empty } else full

/-- Prepare the store when the service starts: the tables and the settings
are there afterwards. -/
def start : Tx Unit := do
  modify fun world => { world with hasTables := true }
  Tx.session do
    let _ ← Access.ensureSettings
    Tx.commitPending

end Tuition.Http
