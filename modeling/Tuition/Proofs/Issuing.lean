/-
# How issuing ends

Issuing an invoice is one transaction: either the draft has its number and the counter has moved
on, or nothing was committed. Rendering commits nothing, and issuing a whole period is a run of
single transactions over the drafts that were there when it began, in the order of their keys.
-/

import Tuition.Billing.Issuing
import Tuition.Proofs.Transactions

namespace Tuition.Billing

open Tx

variable {world : World}

/-! ## One invoice -/

/-- Numbering writes the settings with the counter moved on, and then the numbered invoice. -/
theorem numberDraft_eq (invoice : Invoice) (settings : Settings) :
    numberDraft invoice settings = do
      Access.saveSettings settings.advanced
      let now ← Tx.now
      Access.saveInvoice (invoice.numberedBy settings now)
      Tx.commit
      return ⟨invoice.id,
        invoiceNumber settings.effectivePrefix invoice.period settings.nextSequence, false⟩ :=
  rfl

/-- Numbering a draft that was looked up, under the settings that were looked up, issues it. -/
theorem ends_numberDraft {origin : World} {id : Int} {invoice : Invoice} {settings : Settings}
    (works : origin.Works origin.store world)
    (found : Table.find? origin.store.invoices id = some invoice)
    (draft : invoice.status = .draft) (counter : origin.store.settings = some settings) :
    (numberDraft (Row.shown invoice) settings).Ends world
      (fun _ after => origin.Moves [.issued id] after) fun _ after =>
        origin.Uncommitted after := by
  obtain rfl : invoice.id = id := Table.key_of_find? found
  rw [numberDraft_eq]
  apply ends_bind
  apply Access.ends_saveSettings works
  intro kept between admitted works
  obtain ⟨rfl, -⟩ := Store.admitSettings_eq_ok_iff.mp admitted
  apply ends_bind
  apply ends_now
  rw [works.now]
  apply ends_bind
  refine Access.ends_saveInvoice_of_sameTotal works found rfl ?_
  intro invoices saved written works
  apply ends_bind
  exact ends_commit_of_history works
    (.single (.issued found draft counter admitted written))
    fun _ moves => moves

/-- Issuing an invoice is one transaction, and no fault gets out of it. -/
theorem ends_issueInvoice (settled : world.Settled) (id : Int) :
    (issueInvoice id).Ends world (world.OneDeed (.issued id)) fun _ _ => False := by
  refine ends_transaction ?_ fun fault after moves => .inl moves
  apply ends_bind
  apply Access.ends_read settled.works
  intro found works
  cases there : Table.find? world.store.invoices id with
  | none => exact ends_bind (ends_rollback (ends_pure (.inl works.moves_begin)))
  | some invoice =>
      have status : (Row.shown invoice).status = invoice.status := rfl
      simp only [Option.map_some, status]
      by_cases draft : invoice.status = .draft
      · rw [if_neg (not_not_intro draft)]
        apply ends_bind
        apply Access.ends_read works
        intro read works
        cases counter : world.store.settings with
        | none => exact ends_bind (ends_rollback (ends_pure (.inl works.moves_begin)))
        | some settings =>
            apply ends_bind
            refine (ends_numberDraft works there draft counter).weaken ?_
            intro issued after moves
            exact ends_pure (.inr ⟨⟨issued, rfl⟩, moves⟩)
      · rw [if_pos draft]
        exact ends_bind (ends_rollback (ends_pure (.inl works.moves_begin)))

/-! ## Documents -/

theorem quiet_renderNumbered (base : FilePath) (invoice : Invoice) (number : String)
    (student : Student) (settings : Settings) :
    (renderNumbered base invoice number student settings).Quiet := by
  apply Access.quiet_read.bind
  intro lines
  apply (quiet_call .render).bind
  intro called
  apply (quiet_onFiles _).bind
  intro written
  exact quiet_pure _

/-- Rendering leaves all records as they are, and no fault gets out of it. -/
theorem ends_renderInvoice (base : FilePath) (id : Int)
    {good : Except Refusal RenderedInvoice → World → Prop}
    (rendered : ∀ result outages files, good result { world with outages, files }) :
    (renderInvoice base id).Ends world good fun _ _ => False := by
  apply ends_recover
  apply ends_quiet
  · apply Access.quiet_read.bind
    rintro (_ | invoice)
    · exact quiet_pure _
    dsimp only
    cases invoice.numbered? with
    | none => exact quiet_pure _
    | some number =>
        apply Access.quiet_read.bind
        rintro (_ | student)
        · exact quiet_pure _
        apply Access.quiet_read.bind
        rintro (_ | settings)
        · exact quiet_pure _
        exact (quiet_renderNumbered base invoice number student settings).bind fun _ =>
          quiet_pure _
  · intro result outages files
    exact rendered result outages files
  · intro fault outages files
    exact ends_pure (rendered _ outages files)

/-- Issuing an invoice with its document issues that invoice, or nothing. -/
theorem ends_issueAndRender (base : FilePath) (id : Int) (settled : world.Settled) :
    (issueAndRender base id).Ends world (fun _ after => world.Attempts [.issued id] after)
      fun _ _ => False := by
  apply ends_bind
  refine (ends_issueInvoice settled id).faultless ?_
  intro result issued deed
  have issues : world.Attempts [.issued id] issued := .of_oneDeed deed
  cases result with
  | error refusal => exact ends_pure issues
  | ok invoice =>
      apply ends_bind
      apply ends_renderInvoice
      intro result outages files
      cases result with
      | error refusal => exact ends_pure (issues.quietly outages files)
      | ok rendered => exact ends_pure (issues.quietly outages files)

/-! ## Whole periods -/

/-- The keys of the drafts of a period, in order. -/
def draftIds (store : Store) (period : Period) : List Int :=
  (store.invoices.filter fun invoice => invoice.period == period && .draft == invoice.status).map
    Invoice.id

theorem mem_draftIds_iff {store : Store} {period : Period} {id : Int} :
    id ∈ draftIds store period ↔
      ∃ invoice ∈ store.invoices, invoice.id = id ∧ invoice.period = period ∧
        invoice.status = .draft := by
  simp only [draftIds, List.mem_map, List.mem_filter, Bool.and_eq_true, beq_iff_eq]
  constructor
  · rintro ⟨invoice, ⟨mem, same, draft⟩, rfl⟩
    exact ⟨invoice, mem, rfl, same, draft.symm⟩
  · rintro ⟨invoice, mem, rfl, same, draft⟩
    exact ⟨invoice, ⟨mem, same, draft.symm⟩, rfl⟩

/-- A draft of a period is found under its key. -/
theorem exists_found_of_mem_draftIds {store : Store} {period : Period} {id : Int}
    (ordered : Table.Ordered store.invoices) (mem : id ∈ draftIds store period) :
    ∃ draft, Table.find? store.invoices id = some draft ∧ draft.period = period ∧
      draft.status = .draft := by
  obtain ⟨draft, memDraft, own, month, status⟩ := mem_draftIds_iff.mp mem
  exact ⟨draft, ordered.find?_eq_some_iff.mpr ⟨memDraft, own⟩, month, status⟩

/-- The drafts of a period are issued in the order of their keys, and each once. -/
theorem draftIds_ascending {store : Store} (ordered : Table.Ordered store.invoices)
    (period : Period) : (draftIds store period).Pairwise (· < ·) :=
  List.pairwise_map.mpr (ordered.filter _)

/-- Issuing invoices one after another issues some of them, in their order. -/
theorem ends_issueEach (base : FilePath) (ids : List Int) (run : IssueRun)
    (settled : world.Settled) :
    (issueEach base run ids).Ends world (fun _ after => world.Attempts (ids.map .issued) after)
      fun _ _ => False := by
  induction ids generalizing world run with
  | nil => exact ends_pure (.of_moves_nil (.refl settled))
  | cons id others ih =>
      apply ends_bind
      refine (ends_issueInvoice settled id).faultless ?_
      intro result issued deed
      have first : world.Attempts [.issued id] issued := .of_oneDeed deed
      have stopped : world.Attempts (.issued id :: others.map .issued) issued :=
        first.mono (by simp)
      cases result with
      | error refusal => exact ends_pure stopped
      | ok invoice =>
          apply ends_bind
          apply ends_renderInvoice
          intro result outages files
          cases result with
          | error refusal => exact ends_pure (stopped.quietly outages files)
          | ok rendered =>
              have written := first.quietly outages files
              exact (ih _ written.settled).faultless fun _ _ rest => written.trans rest

/-- Issuing a period issues some of its drafts, in the order of their keys. -/
theorem ends_issueAll (base : FilePath) (period : Period) (settled : world.Settled) :
    (issueAll base period).Ends world
      (fun _ after => world.Attempts ((draftIds world.store period).map .issued) after)
      fun _ _ => False := by
  have unchanged : world.Moves [] world := .refl settled
  unfold issueAll
  by_cases accepted : period.accepts
  · simp only [accepted, Bool.not_true, Bool.false_eq_true, if_false]
    apply ends_bind
    apply ends_attempt
    apply ends_reading
    · intro outages
      have listed : draftIds world.store period = ((world.pending.invoices.filter fun invoice =>
          invoice.period == period && .draft == invoice.status).map Row.shown).map
            Invoice.id := by
        rw [settled, List.map_map]
        rfl
      have begun : world.Attempts [] { world with outages } :=
        .of_moves_nil (unchanged.quietly outages world.files)
      apply ends_bind
      rw [listed]
      refine (ends_issueEach base _ _ begun.settled).faultless ?_
      intro run after issues
      exact ends_pure (begun.trans issues)
    · intro fault outages
      exact ends_pure (.of_moves_nil (unchanged.quietly outages world.files))
  · simp only [accepted, Bool.not_false, if_true]
    exact ends_pure (.of_moves_nil unchanged)

end Tuition.Billing
