/-
# Issuing invoices

Issuing gives a draft the next number and advances the counter in the settings, in one
transaction. An invoice that already has a number keeps it, so issuing can be repeated. The drafts
of a period are issued and rendered in the order of their keys up to the first that fails.
-/

import Tuition.Billing.InvoiceNumber
import Tuition.Billing.Rendering

namespace Tuition.Billing

/-- An invoice that has its number. -/
structure IssuedInvoice where
  invoiceId : Int
  number : String
  already : Bool
  deriving DecidableEq, Repr

/-- Number a draft, advance the counter, and commit both. -/
def numberDraft (invoice : Invoice) (settings : Settings) : Tx IssuedInvoice := do
  let number := invoiceNumber settings.effectivePrefix invoice.period settings.nextSequence
  Access.saveSettings { settings with nextSequence := settings.nextSequence + 1 }
  let now ← Tx.now
  Access.saveInvoice
    { invoice with number := some number, status := .issued, issuedAt := some now }
  Tx.commit
  return ⟨invoice.id, number, false⟩

/-- What issuing answers for an invoice that is no draft. -/
def issuedBefore (id : Int) (invoice : Invoice) : Except Refusal IssuedInvoice :=
  match invoice.numbered? with
  | some number => .ok ⟨invoice.id, number, true⟩
  | none => .error (.notDraftToIssue id invoice.status)

/-- Issue an invoice. -/
def issueInvoice (id : Int) : Tx (Except Refusal IssuedInvoice) :=
  Tx.recover (do
    match ← Access.findInvoice id with
    | none =>
      Tx.rollback
      return .error (.noInvoice id)
    | some invoice =>
      if invoice.status ≠ .draft then
        Tx.rollback
        return issuedBefore id invoice
      match ← Access.findSettings with
      | none =>
        Tx.rollback
        return .error (.noSettings .numbering)
      | some settings => return .ok (← numberDraft invoice settings)) fun fault => do
    Tx.rollback
    return .error (.issuingFailed id fault)

/-- Issue an invoice and write its document. The invoice stays issued if that fails. -/
def issueAndRender (base : FilePath) (id : Int) : Tx (Except Refusal RenderedInvoice) := do
  match ← issueInvoice id with
  | .error refusal => return .error refusal
  | .ok issued =>
    match ← renderInvoice base id with
    | .ok rendered => return .ok rendered
    | .error refusal => return .error (.issuedUnrendered issued.number refusal.explanation)

/-- Where issuing a list of drafts stopped. -/
structure IssueFailure where
  invoiceId : Int
  refusal : Refusal
  deriving DecidableEq, Repr

/-- What issuing the drafts of a period did: the documents written, and the first failure. -/
structure IssueRun where
  period : Period
  paths : List FilePath := []
  failure : Option IssueFailure := none
  deriving DecidableEq, Repr

/-- The number of invoices that were issued and rendered. -/
def IssueRun.count (run : IssueRun) : Nat :=
  run.paths.length

/-- Issue and render invoices one after another, up to the first that fails. -/
def issueEach (base : FilePath) (run : IssueRun) : List Int → Tx IssueRun
  | [] => return run
  | id :: others => do
    match ← issueInvoice id with
    | .error refusal => return { run with failure := some ⟨id, refusal⟩ }
    | .ok _ =>
      match ← renderInvoice base id with
      | .error refusal => return { run with failure := some ⟨id, refusal⟩ }
      | .ok rendered => issueEach base { run with paths := run.paths ++ [rendered.path] } others

/-- Issue and render all drafts of a period. -/
def issueAll (base : FilePath) (period : Period) : Tx (Except Refusal IssueRun) := do
  if !period.accepts then return .error (.noSuchPeriod period)
  match ← Tx.attempt (Access.invoicesOfPeriod period (some .draft)) with
  | .error fault => return .error (.listingDraftsFailed period fault)
  | .ok drafts => return .ok (← issueEach base { period } (drafts.map Invoice.id))

end Tuition.Billing
