/-
# Billing a month

The worker drafts the invoices of a month, the month before the present one unless another is
named, and issues them right away if the settings say so.
-/

import Tuition.Billing.Drafting
import Tuition.Billing.Issuing

namespace Tuition

/-- How a worker bills: where it writes documents, and whether it bills everyone when
no student is active. -/
structure Worker where
  outputDirectory : FilePath
  billAll : Bool
  deriving DecidableEq, Repr

/-- What a run of a worker did. -/
structure BillingReport where
  period : Period
  drafts : Option Billing.DraftCounts := none
  issued : Option Billing.IssueRun := none
  error : Option Refusal := none
  deriving DecidableEq, Repr

namespace Worker

/-- The period to bill: the one that is named in full, or else the one before today's. -/
def periodToBill (today : Date) : Option Int → Option Int → Period
  | some year, some month => ⟨year, month⟩
  | _, _ => Period.before today

/-- Issue the drafts of a period, after they were drafted. -/
def issueDrafts (worker : Worker) (report : BillingReport) : Tx BillingReport := do
  match ← Billing.issueAll worker.outputDirectory report.period with
  | .error refusal => return { report with error := some refusal }
  | .ok run => return { report with issued := some run, error := run.failure.map (·.refusal) }

/-- Bill a period. -/
def billPeriod (worker : Worker) (period : Period) : Tx BillingReport := do
  match ← Billing.generateDrafts worker.billAll period with
  | .error refusal => return { period, error := some refusal }
  | .ok counts =>
    let settings ← Access.ensureSettings
    Tx.commit
    let report : BillingReport := { period, drafts := some counts }
    if settings.autoIssue then worker.issueDrafts report else return report

/-- Run once, in a session of its own. -/
def runOnce (worker : Worker) (year month : Option Int) : Tx BillingReport := do
  let today := (← Tx.now).date
  Tx.session (worker.billPeriod (periodToBill today year month))

end Worker
end Tuition
