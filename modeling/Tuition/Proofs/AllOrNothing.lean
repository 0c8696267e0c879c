/-
# All or nothing

A use case that is one transaction either succeeds or leaves every table as it was, whatever
breaks it off and wherever: it gives up what it has written itself, so nothing is even left
pending. Issuing an invoice with its document is such a transaction and a document after it; it
tells by its code which of the two failed.
-/

import Tuition.Proofs.UseCases

namespace Tuition

open Tx

/-- The code of an invoice that was issued, but whose document was not written. -/
def renderFailedCode : String := "RENDER_INVOICE_FAILED"

namespace World

/-- What is committed and what is pending are what was committed before. -/
def Untouched (before after : World) : Prop :=
  after.store = before.store ∧ after.pending = before.store

theorem Moves.untouched {before after : World} (moves : before.Moves [] after) :
    before.Untouched after :=
  ⟨moves.store_eq, moves.settled.trans moves.store_eq⟩

theorem OneDeed.untouched {α : Type} {before after : World} {deed : Deed}
    {result : Except Refusal α}
    (one : before.OneDeed deed result after) (failed : ∀ value, result ≠ .ok value) :
    before.Untouched after := by
  rcases one with moves | ⟨⟨value, rfl⟩, -⟩
  · exact moves.untouched
  · exact absurd rfl (failed value)

end World

namespace UseCase

variable {world : World}

/-- The use cases that are one transaction. -/
def isOneTransaction : UseCase → Bool
  | .issueInvoice _ => true
  | .deleteDraft _ => true
  | .recordPayment _ => true
  | .quickCash _ _ _ => true
  | .deletePayment _ => true
  | .addOverride _ => true
  | _ => false

/-- A transaction that answers with a refusal, or raises, leaves everything untouched. -/
theorem ends_untouched_of_oneDeed {α : Type} {action : Tx (Except Refusal α)} {deed : Deed}
    {bad : Fault → World → Prop} (ends : action.Ends world (world.OneDeed deed) bad)
    (raised : ∀ fault after, bad fault after → world.Untouched after) :
    (answer action).Ends world (fun result after => result ≠ .ok () → world.Untouched after)
      fun _ after => world.Untouched after := by
  apply ends_answer
  refine ends.mono ?_ raised
  intro result after one failed
  apply one.untouched
  rintro value rfl
  exact failed rfl

theorem ends_untouched {useCase : UseCase} (single : useCase.isOneTransaction)
    (settled : world.Settled) :
    useCase.operation.Ends world (fun result after => result ≠ .ok () → world.Untouched after)
      fun _ after => world.Untouched after := by
  have never (_ : Fault) (after : World) (impossible : False) : world.Untouched after :=
    impossible.elim
  cases useCase with
  | issueInvoice id =>
      exact ends_untouched_of_oneDeed (Billing.ends_issueInvoice settled id) never
  | deleteDraft id => exact ends_untouched_of_oneDeed (Billing.ends_deleteDraft id settled) never
  | recordPayment command =>
      exact ends_untouched_of_oneDeed (Payments.ends_recordPayment command settled) never
  | quickCash studentId amount note =>
      exact ends_untouched_of_oneDeed (Payments.ends_quickCash studentId amount note settled)
        fun _ _ moves => moves.untouched
  | deletePayment id =>
      exact ends_untouched_of_oneDeed (Payments.ends_deletePayment id settled) never
  | addOverride command =>
      exact ends_untouched_of_oneDeed (Billing.ends_addOverride command settled) never
  | generateDrafts billAll period => cases single
  | issueAndRender base id => cases single
  | issueAll base period => cases single
  | renderInvoice base id => cases single
  | runWorker worker year month => cases single

/-! ## Issuing with a document -/

/-- An answer that is no refusal under the code of the document. -/
def NotUnrendered {α : Type} (result : Except Refusal α) : Prop :=
  ∀ refusal, result = .error refusal → refusal.report.code ≠ renderFailedCode

theorem ends_refuse {α : Type} {refusal : Refusal} {bad : Fault → World → Prop}
    (other : refusal.report.code ≠ renderFailedCode) :
    (do
      rollback
      return .error refusal : Tx (Except Refusal α)).Ends world
      (fun result _ => NotUnrendered result) bad := by
  apply ends_bind
  apply ends_rollback
  apply ends_pure
  rintro _ ⟨rfl⟩
  exact other

/-- Issuing refuses under codes of its own. -/
theorem ends_issueInvoice_codes (id : Int) :
    (Billing.issueInvoice id).Ends world (fun result _ => NotUnrendered result)
      fun _ _ => True := by
  have struck (fault : Fault) (after : World) :
      (do
        rollback
        return .error (.issuingFailed id fault) : Tx (Except Refusal Billing.IssuedInvoice)).Ends
        after (fun result _ => NotUnrendered result) fun _ _ => True :=
    ends_refuse (by simp [Refusal.report, Refusal.failed, renderFailedCode])
  apply ends_recover
  refine ends_bind_any ?_ struck
  rintro (_ | invoice) found
  · exact ends_refuse (by simp [Refusal.report, Refusal.missing, renderFailedCode])
  dsimp only
  split
  · refine ends_bind_any (fun _ after => ends_pure ?_) struck
    intro refusal refused
    simp only [Billing.issuedBefore] at refused
    split at refused
    · cases refused
    · cases refused
      simp [Refusal.report, renderFailedCode]
  · refine ends_bind_any ?_ struck
    rintro (_ | settings) read
    · exact ends_refuse (by simp [Refusal.report, Refusal.missingSettings, renderFailedCode])
    refine ends_bind_any (fun _ after => ends_pure ?_) struck
    rintro _ ⟨⟩

/-- How issuing with a document fails: under the code of the document the store is the one that
issuing alone leaves, and under any other code it is untouched. -/
theorem ends_issueAndRender_exactly (base : FilePath) (id : Int) (settled : world.Settled) :
    (Billing.issueAndRender base id).Ends world
      (fun result after => ∀ refusal, result = .error refusal →
        (refusal.report.code ≠ renderFailedCode → world.Untouched after) ∧
        (refusal.report.code = renderFailedCode → ∃ issued numbered,
          (Billing.issueInvoice id).perform world = (.ok (.ok issued), numbered) ∧
            after.store = numbered.store ∧ after.pending = numbered.pending))
      fun _ _ => False := by
  apply ends_bind
  refine (((Billing.ends_issueInvoice settled id).and (ends_issueInvoice_codes id)).and
    (ends_perform _ _)).mono ?_ fun _ _ never => never.1.1
  rintro result numbered ⟨⟨one, codes⟩, ended⟩
  cases result with
  | error refusal =>
      apply ends_pure
      rintro _ ⟨rfl⟩
      refine ⟨fun _ => one.untouched (by simp), fun rendering => ?_⟩
      exact absurd rendering (codes refusal rfl)
  | ok issued =>
      apply ends_bind
      apply Billing.ends_renderInvoice
      intro rendered outages files
      cases rendered with
      | error refusal =>
          apply ends_pure
          rintro _ ⟨rfl⟩
          exact ⟨fun other => absurd rfl other, fun _ => ⟨issued, numbered, ended, rfl, rfl⟩⟩
      | ok document =>
          apply ends_pure
          rintro _ ⟨⟩

/-! ## Whole use cases -/

/-- Whatever strikes it and wherever, a transaction that does not succeed leaves everything
untouched. Issuing an invoice with its document never raises; if it refuses under the code of the
document, the store is exactly the one that issuing that invoice successfully leaves, and if it
refuses under any other code, everything is untouched. -/
theorem all_or_nothing (world : World) :
    (∀ useCase : UseCase, useCase.isOneTransaction →
      (useCase.operation.perform world.begin).1 ≠ .ok (.ok ()) →
      world.Untouched (useCase.operation.perform world.begin).2) ∧
    ∀ base id, ∃ result after,
      (Billing.issueAndRender base id).perform world.begin = (.ok result, after) ∧
      ∀ refusal, result = .error refusal →
        (refusal.report.code ≠ renderFailedCode → world.Untouched after) ∧
        (refusal.report.code = renderFailedCode → ∃ issued numbered,
          (Billing.issueInvoice id).perform world.begin = (.ok (.ok issued), numbered) ∧
            after.store = numbered.store ∧ after.pending = numbered.pending) := by
  constructor
  · intro useCase single failed
    have ends := ends_untouched single world.settled_begin
    rcases found : useCase.operation.perform world.begin with ⟨fault | result, after⟩
    · exact ends.of_error found
    · refine ends.of_ok found ?_
      rintro rfl
      exact failed (by rw [found])
  · intro base id
    exact (ends_issueAndRender_exactly base id world.settled_begin).exists_ok

/-- A commit is struck and leaves everything untouched; a document is struck and
leaves the invoice issued. -/
theorem all_or_nothing_where_struck :
    (World.struckAt .commit .withDraft).Untouched
      ((issueInvoice 1).operation.perform (World.struckAt .commit .withDraft).begin).2 ∧
    ∃ after issued numbered,
      (Billing.issueAndRender ⟨"/", []⟩ 1).perform (World.struckAt .render .withDraft).begin =
        (.ok (.error (.issuedUnrendered "LS-202401-001" "down")), after) ∧
      (Billing.issueInvoice 1).perform (World.struckAt .render .withDraft).begin =
        (.ok (.ok issued), numbered) ∧
      after.store = numbered.store := by
  constructor
  · have struck : ((issueInvoice 1).operation.perform
        (World.struckAt .commit .withDraft).begin).1 =
        .ok (.error (.issuingFailed 1 (.outage "down"))) := rfl
    apply (all_or_nothing (World.struckAt .commit .withDraft)).1 (issueInvoice 1) rfl
    rw [struck]
    rintro ⟨⟩
  · have struck : ((Billing.issueAndRender ⟨"/", []⟩ 1).perform
        (World.struckAt .render .withDraft).begin).1 =
        .ok (.error (.issuedUnrendered "LS-202401-001" "down")) := rfl
    obtain ⟨result, after, ended, refused⟩ :=
      (all_or_nothing (World.struckAt .render .withDraft)).2 ⟨"/", []⟩ 1
    rw [ended] at struck
    cases struck
    obtain ⟨issued, numbered, issues, same, -⟩ := (refused _ rfl).2 rfl
    exact ⟨after, issued, numbered, ended, issues, same⟩

end UseCase
end Tuition
