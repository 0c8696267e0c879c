/-
# Drafting invoices

A billing run goes through the students one by one and commits after each. A student with lines
gets a draft for the period, or has the lines of an existing draft replaced; an invoice that is
past being a draft is left alone. A fault gives up the student at hand and ends the run, and what
was committed before stays.
-/

import Tuition.Billing.Lines
import Tuition.Refusal
import Tuition.Store.Access

namespace Tuition.Billing

/-- What a billing run did. -/
structure DraftCounts where
  period : Period
  created : Nat := 0
  updated : Nat := 0
  alreadyInvoiced : Nat := 0
  withoutLines : Nat := 0
  deriving DecidableEq, Repr

/-- What became of one student in a billing run. -/
inductive DraftOutcome where
  | notEnrolled
  | withoutLines
  | created
  | updated
  | alreadyInvoiced
  deriving DecidableEq, Repr

/-- Count what became of a student. -/
def DraftCounts.count (counts : DraftCounts) : DraftOutcome → DraftCounts
  | .notEnrolled => counts
  | .withoutLines => { counts with withoutLines := counts.withoutLines + 1 }
  | .created => { counts with created := counts.created + 1 }
  | .updated => { counts with updated := counts.updated + 1 }
  | .alreadyInvoiced => { counts with alreadyInvoiced := counts.alreadyInvoiced + 1 }

/-- The students of a billing run: the active ones, or all of them if none is active and that is
wanted. -/
def studentsToBill (billAll : Bool) : Tx (List Student) := do
  let active ← Access.activeStudents
  if active.isEmpty && billAll then Access.allStudents else return active

/-- Bring the invoice of a student for a period in line with its lines and their total. -/
def writeDraft (studentId : Int) (period : Period) (lines : List DraftLine) (total : Decimal) :
    Tx DraftOutcome := do
  match ← Access.findInvoiceFor studentId period with
  | none =>
    let invoice ← Access.addInvoice ⟨0, studentId, period, total, .draft, none, none, none⟩
    Access.addLines invoice.id lines
    return .created
  | some invoice =>
    match invoice.status with
    | .draft =>
      Access.removeLines invoice.id
      Access.addLines invoice.id lines
      Access.saveInvoice { invoice with total }
      return .updated
    | _ => return .alreadyInvoiced

/-- Bill one student for a period, in a transaction of its own. -/
def draftFor (period : Period) (student : Student) : Tx DraftOutcome := do
  let enrollments ← Access.enrollmentsOfStudent student.id
  if enrollments.isEmpty then return .notEnrolled
  let lines ← Access.priceBook.draftLines period enrollments
  if lines.isEmpty then return .withoutLines
  let total ← Tx.arithmetic (DraftLine.total lines)
  let outcome ← writeDraft student.id period lines total
  Tx.commit
  return outcome

/-- Bill students one after another. -/
def draftEach (counts : DraftCounts) : List Student → Tx DraftCounts
  | [] => return counts
  | student :: others => do
    let outcome ← draftFor counts.period student
    draftEach (counts.count outcome) others

/-- Draft the invoices of a period. -/
def generateDrafts (billAll : Bool) (period : Period) : Tx (Except Refusal DraftCounts) := do
  if !period.accepts then return .error (.noSuchPeriod period)
  Tx.recover (do return .ok (← draftEach { period } (← studentsToBill billAll))) fun fault => do
    Tx.rollback
    return .error (.generatingFailed period fault)

/-- Delete an invoice that is a draft, with its lines. -/
def deleteDraft (id : Int) : Tx (Except Refusal Unit) :=
  Tx.recover (do
    match ← Access.findInvoice id with
    | none =>
      Tx.rollback
      return .error (.noInvoice id)
    | some invoice =>
      if invoice.status ≠ .draft then
        Tx.rollback
        return .error (.notDraftToDelete invoice.status)
      Access.removeLines invoice.id
      Access.removeInvoice invoice.id
      Tx.commit
      return .ok ()) fun fault => do
    Tx.rollback
    return .error (.deletingDraftFailed id fault)

end Tuition.Billing
