/-
# The documents that use cases write

Rendering an invoice reads the records and writes one file: the document that they make of the
invoice, where its path leads. If that fails, no file was written. Issuing a period renders one
invoice after another, and what is issued later changes nothing that the document of an earlier
one shows. So whatever strikes a use case, a file that is another one afterwards is the document
of an invoice, as the records make it then, at the place where the path of that invoice leads.
-/

import Tuition.Proofs.FileChanges
import Tuition.Proofs.FilesLeft
import Tuition.Proofs.SequencesApart

namespace Tuition

open Tx

namespace Store

/-- The lines of an invoice as they are shown. -/
def linesShown (store : Store) (id : Int) : List DraftLine :=
  ((store.lines.filter (·.invoiceId == id)).map Row.shown).map (·.toDraftLine)

/-- The records make a document of an invoice, which has a number to file it under. -/
structure Documents (store : Store) (invoice : Invoice) (number : String) (content : Document) :
    Prop where
  found : Table.find? store.invoices invoice.id = some invoice
  numbered : (Row.shown invoice).numbered? = some number
  shows : ∃ student settings, Table.find? store.students invoice.studentId = some student ∧
    store.settings = some settings ∧
    content =
      Document.ofInvoice (Row.shown invoice) (store.linesShown invoice.id) student settings

variable {before after : Store} {invoice : Invoice} {number : String} {content : Document}

theorem Documents.mem (documents : before.Documents invoice number content) :
    invoice ∈ before.invoices :=
  Table.mem_of_find? documents.found

theorem Documents.number_eq (documents : before.Documents invoice number content) :
    invoice.number = some number :=
  (Option.filter_eq_some_iff.mp documents.numbered).1

/-- Issuing other invoices changes nothing that a document shows. -/
theorem Documents.of_numbers {ids : List Int}
    (documents : before.Documents invoice number content) (numbers : before.Numbers ids after)
    (left : invoice.id ∉ ids) : after.Documents invoice number content where
  found := (numbers.find?_of_not_mem left).trans documents.found
  numbered := documents.numbered
  shows := by
    obtain ⟨student, settings, found, counter, rfl⟩ := documents.shows
    have same : after.students = before.students ∧ after.lines = before.lines := by
      rw [numbers.only]
      exact ⟨rfl, rfl⟩
    refine ⟨student, settings.advancedBy ids.length, same.1 ▸ found,
      numbers.settings_eq counter, ?_⟩
    unfold linesShown
    rw [same.2]
    rfl

end Store

namespace Billing

variable {world : World}

/-! ## Rendering -/

/-- What rendering an invoice comes to: the document that the records make of it is the one file
that was written, or none was. -/
inductive Rendering (base : FilePath) (id : Int) (before : World) :
    Except Refusal RenderedInvoice → World → Prop
  | written {invoice : Invoice} {number : String} {content : Document} {place : Location}
      {outages : List Outage} {files : FileTree} (key : invoice.id = id)
      (documents : before.pending.Documents invoice number content)
      (puts : before.files.Puts (documentPath base invoice.period number) place content files) :
      Rendering base id before (.ok ⟨id, number, documentPath base invoice.period number⟩)
        { before with outages, files }
  | failed {refusal : Refusal} {outages : List Outage} {files : FileTree}
      (adds : before.files.AddsDirectories files) :
      Rendering base id before (.error refusal) { before with outages, files }

/-- Writing the document of an invoice writes what the records make of it, or nothing. -/
theorem ends_renderNumbered (base : FilePath) (invoice : Invoice) (number : String)
    (student : Student) (settings : Settings) :
    (renderNumbered base (Row.shown invoice) number student settings).Ends world
      (fun rendered after =>
        rendered = ⟨invoice.id, number, documentPath base invoice.period number⟩ ∧
        ∃ place outages files, world.files.Puts rendered.path place (Document.ofInvoice
          (Row.shown invoice) (world.pending.linesShown invoice.id) student settings) files ∧
          after = { world with outages, files })
      fun _ after => ∃ outages files, world.files.AddsDirectories files ∧
        after = { world with outages, files } := by
  have unchanged (outages : List Outage) : ∃ ahead files, world.files.AddsDirectories files ∧
      { world with outages } = { world with outages := ahead, files } :=
    ⟨outages, world.files, .refl _, rfl⟩
  apply ends_bind
  apply ends_reading
  · intro outages
    apply ends_bind
    apply ends_call
    · intro outages
      apply ends_bind
      refine (ends_writeDocument _ _).mono ?_ ?_
      · rintro _ after ⟨files, writes, rfl⟩
        obtain ⟨place, puts⟩ := FileTree.exists_puts_of_writes writes
        exact ends_pure ⟨rfl, place, outages, files, puts, rfl⟩
      · rintro fault after ⟨files, -, adds, rfl⟩
        exact ⟨outages, files, adds, rfl⟩
    · intro message outages
      exact unchanged outages
  · intro fault outages
    exact unchanged outages

/-- Rendering writes the document of the invoice or no file, and no fault gets out of it. -/
theorem ends_renderInvoice_alone (base : FilePath) (id : Int) :
    (renderInvoice base id).Ends world (Rendering base id world) fun _ _ => False := by
  have failed (fault : Fault) (outages : List Outage) :
      Ends (return .error (.renderingFailed id fault)) { world with outages }
        (Rendering base id world) fun _ _ => False :=
    ends_pure (.failed (.refl _))
  apply ends_recover
  apply ends_bind
  refine ends_reading (fun outages => ?_) fun fault outages => failed fault outages
  cases found : Table.find? world.pending.invoices id with
  | none => exact ends_pure (.failed (.refl _))
  | some invoice =>
      obtain rfl : invoice.id = id := Table.key_of_find? found
      simp only [Option.map_some]
      cases numbered : (Row.shown invoice).numbered? with
      | none => exact ends_pure (.failed (.refl _))
      | some number =>
          apply ends_bind
          refine ends_reading (fun outages => ?_) fun fault outages => failed fault outages
          have owner : (Row.shown invoice).studentId = invoice.studentId := rfl
          simp only [owner]
          cases addressed : Table.find? world.pending.students invoice.studentId with
          | none => exact ends_pure (.failed (.refl _))
          | some student =>
              apply ends_bind
              refine ends_reading (fun outages => ?_) fun fault outages => failed fault outages
              cases counter : world.pending.settings with
              | none => exact ends_pure (.failed (.refl _))
              | some settings =>
                  apply ends_bind
                  refine (ends_renderNumbered base invoice number student settings).mono ?_ ?_
                  · rintro _ after ⟨rfl, place, outages, files, puts, rfl⟩
                    exact ends_pure (.written rfl
                      ⟨found, numbered, student, settings, addressed, counter, rfl⟩ puts)
                  · rintro fault after ⟨outages, files, adds, rfl⟩
                    exact ends_pure (.failed adds)

end Billing

/-! ## Files that change -/

namespace World

variable {before between after : World} {ids more : List Int} {place : Location}

/-- The file at a place is the document that the records make of an invoice,
where its path leads. -/
def ShowsAt (world : World) (place : Location) (invoice : Invoice) : Prop :=
  ∃ base number content, world.store.Documents invoice number content ∧
    world.files.LeadsTo (Billing.documentPath base invoice.period number) place ∧
    world.files.file? place = some (.document content)

/-- From one world to another no directory is gone, and a file that is another one is the document
of one of some invoices. -/
structure WritesDocuments (before : World) (ids : List Int) (after : World) : Prop where
  directories : before.files.KeepsDirectories after.files
  files : ∀ place, after.files.file? place = before.files.file? place ∨
    ∃ invoice, invoice.id ∈ ids ∧ after.ShowsAt place invoice

namespace WritesDocuments

theorem of_files (same : after.files = before.files) : before.WritesDocuments ids after := by
  refine ⟨?_, fun place => .inl ?_⟩
  · rw [same]
    exact fun _ there => there
  · rw [same]

theorem mono (writes : before.WritesDocuments ids after) (among : ∀ id ∈ ids, id ∈ more) :
    before.WritesDocuments more after where
  directories := writes.directories
  files place := by
    rcases writes.files place with same | ⟨invoice, mem, shows⟩
    · exact .inl same
    · exact .inr ⟨invoice, among _ mem, shows⟩

/-- Documents that were written stay if the records go on making them. -/
theorem trans (first : before.WritesDocuments ids between)
    (second : between.WritesDocuments more after)
    (stays : ∀ invoice number content, invoice.id ∈ ids →
      between.store.Documents invoice number content →
        after.store.Documents invoice number content) :
    before.WritesDocuments (ids ++ more) after where
  directories := first.directories.trans second.directories
  files place := by
    rcases second.files place with same | ⟨invoice, mem, shows⟩
    · rcases first.files place with unchanged | ⟨invoice, mem, base, number, content, shows⟩
      · exact .inl (same.trans unchanged)
      · obtain ⟨documents, leads, file⟩ := shows
        exact .inr ⟨invoice, List.mem_append_left _ mem, base, number, content,
          stays invoice number content mem documents,
          leads.of_keepsDirectories second.directories, same.trans file⟩
    · exact .inr ⟨invoice, List.mem_append_right _ mem, shows⟩

/-- What goes before leaves the files. -/
theorem after_files (same : between.files = before.files)
    (writes : between.WritesDocuments ids after) : before.WritesDocuments ids after := by
  have unchanged : before.WritesDocuments [] between := .of_files same
  exact unchanged.trans writes fun invoice number content none => absurd none List.not_mem_nil

/-- Giving a transaction up writes nothing. -/
theorem begin_after (writes : before.WritesDocuments ids after) :
    before.WritesDocuments ids after.begin :=
  ⟨writes.directories, writes.files⟩

/-- Rendering writes a document of its invoice, or none. -/
theorem of_rendering {base : FilePath} {id : Int}
    {result : Except Refusal Billing.RenderedInvoice} (settled : before.Settled)
    (rendering : Billing.Rendering base id before result after) :
    before.WritesDocuments [id] after := by
  cases rendering with
  | failed adds => exact ⟨adds.keepsDirectories, fun place => .inl (adds.file?_eq place)⟩
  | @written invoice number content place outages files key documents puts =>
      refine ⟨puts.directories, fun other => ?_⟩
      by_cases own : other = place
      · subst own
        exact .inr ⟨invoice, List.mem_singleton.mpr key, base, number, content,
          settled ▸ documents, puts.leads, puts.file⟩
      · exact .inl (puts.others other own)

end WritesDocuments
end World

namespace Billing

variable {world : World}

/-! ## Issuing with documents -/

/-- Issuing an invoice and then rendering it writes its document, or none. -/
theorem ends_issue_render {α : Type} {base : FilePath} {id : Int} {refused : Refusal → Tx α}
    {rendered : IssuedInvoice → Except Refusal RenderedInvoice → Tx α} {good : α → World → Prop}
    {bad : Fault → World → Prop} (settled : world.Settled)
    (ofRefusal : ∀ refusal after, world.WritesDocuments [id] after →
      (refused refusal).Ends after good bad)
    (ofRendering : ∀ invoice result after, world.WritesDocuments [id] after → after.Settled →
      (rendered invoice result).Ends after good bad) :
    (do
      match ← issueInvoice id with
      | .error refusal => refused refusal
      | .ok invoice => rendered invoice (← renderInvoice base id)).Ends world good bad := by
  apply ends_bind
  refine ((ends_issueInvoice settled id).and (continuing_issueInvoice id world)).mono ?_
    fun _ _ failed => failed.1.elim
  rintro (refusal | invoice) issued ⟨deed, continues⟩
  · exact ofRefusal refusal issued (.of_files continues.files)
  have settledIssued : issued.Settled := (World.Attempts.of_oneDeed deed).settled
  apply ends_bind
  refine (ends_renderInvoice_alone base id).faultless fun result after rendering => ?_
  refine ofRendering invoice result after
    (.after_files continues.files (.of_rendering settledIssued rendering)) ?_
  cases rendering <;> exact settledIssued

/-- Issuing and rendering invoices one after another writes documents of them. -/
theorem ends_issueEach_documents (base : FilePath) {ids : List Int} (different : ids.Nodup)
    (run : IssueRun) (settled : world.Settled) :
    (issueEach base run ids).Ends world (fun _ after => world.WritesDocuments ids after)
      fun _ _ => False := by
  induction ids generalizing world run with
  | nil => exact ends_pure (.of_files rfl)
  | cons id others ih =>
      obtain ⟨new, rest⟩ := List.nodup_cons.mp different
      have among {after : World} (writes : world.WritesDocuments [id] after) :
          world.WritesDocuments (id :: others) after :=
        writes.mono fun other mem => List.mem_cons.mpr (.inl (List.mem_singleton.mp mem))
      refine ends_issue_render settled (fun refusal after writes => ends_pure (among writes)) ?_
      rintro invoice (refusal | document) rendered writes settledRendered
      · exact ends_pure (among writes)
      refine ((ih rest _ settledRendered).and (ends_issueEach base others _ settledRendered)).mono
        ?_ fun _ _ failed => failed.1
      rintro _ after ⟨later, done, sublist, moves⟩
      obtain ⟨issuedLater, sublistLater, rfl⟩ := List.sublist_map_iff.mp sublist
      refine writes.trans later fun invoice number content mem documents => ?_
      refine documents.of_numbers moves.history.numbersInOrder fun again => new ?_
      exact List.mem_singleton.mp mem ▸ sublistLater.subset again

/-- Issuing an invoice with its document writes its document, or none. -/
theorem ends_issueAndRender_documents (base : FilePath) (id : Int) (settled : world.Settled) :
    (issueAndRender base id).Ends world (fun _ after => world.WritesDocuments [id] after)
      fun _ _ => False := by
  refine ends_issue_render settled (fun refusal after writes => ends_pure writes) ?_
  rintro invoice (refusal | document) rendered writes settledRendered
  · exact ends_pure writes
  · exact ends_pure writes

/-- Issuing a period writes documents of its drafts. -/
theorem ends_issueAll_documents (base : FilePath) (period : Period) (settled : world.Settled)
    (ordered : Table.Ordered world.store.invoices) :
    (issueAll base period).Ends world
      (fun _ after => world.WritesDocuments (draftIds world.store period) after)
      fun _ _ => False := by
  unfold issueAll
  by_cases accepted : period.accepts
  · simp only [accepted, Bool.not_true, Bool.false_eq_true, if_false]
    apply ends_bind
    apply ends_attempt
    apply ends_reading
    · intro outages
      have listed : draftIds world.store period = ((world.pending.invoices.filter fun invoice =>
          invoice.period == period && .draft == invoice.status).map Row.shown).map
            Invoice.id := by
        rw [settled, List.map_map]
        rfl
      have different : (draftIds world.store period).Nodup :=
        (draftIds_ascending ordered period).imp Int.ne_of_lt
      have begun : World.Settled { world with outages } := settled
      have sameFiles : World.files { world with outages } = world.files := rfl
      apply ends_bind
      rw [listed] at different ⊢
      refine (ends_issueEach_documents base different _ begun).faultless ?_
      intro run after writes
      exact ends_pure (writes.after_files sameFiles)
    · intro fault outages
      exact ends_pure (.of_files rfl)
  · simp only [accepted, Bool.not_false, if_true]
    exact ends_pure (.of_files rfl)

end Billing

/-! ## All use cases -/

namespace UseCase

variable {world : World}

/-- From one world to another documents of some invoices were written. -/
theorem ends_of_continuing {α : Type} {action : Tx α} (continuing : action.Continuing) :
    action.Ends world (fun _ after => ∃ ids, world.WritesDocuments ids after)
      fun _ after => ∃ ids, world.WritesDocuments ids after :=
  (continuing world).mono (fun _ _ continues => ⟨[], .of_files continues.files⟩)
    fun _ _ continues => ⟨[], .of_files continues.files⟩

/-- Billing a period writes documents of its drafts. -/
theorem ends_billPeriod_documents (worker : Worker) (period : Period) (settled : world.Settled)
    (ordered : Table.Ordered world.store.invoices) :
    (worker.billPeriod period).Ends world (fun _ after => ∃ ids, world.WritesDocuments ids after)
      fun _ after => ∃ ids, world.WritesDocuments ids after := by
  apply ends_bind
  refine ((Billing.ends_generateDrafts worker.billAll period settled).and
    (Billing.continuing_generateDrafts worker.billAll period world)).mono ?_
    fun _ _ failed => failed.1.elim
  rintro (refusal | counts) drafted ⟨attempts, continues⟩
  · exact ends_pure ⟨[], .of_files continues.files⟩
  apply Billing.ends_ensured attempts.settled
  · intro ensured stored settledEnsured more
    have files := (continues.trans more).files
    have orderedEnsured : Table.Ordered ensured.store.invoices := by
      obtain ⟨done, -, moves⟩ := attempts
      rw [stored]
      exact moves.history.ordered ordered
    dsimp only
    split
    · apply ends_bind
      refine (Billing.ends_issueAll_documents worker.outputDirectory period settledEnsured
        orderedEnsured).faultless ?_
      rintro (refusal | run) after writes
      · exact ends_pure ⟨_, writes.after_files files⟩
      · exact ends_pure ⟨_, writes.after_files files⟩
    · exact ends_pure ⟨[], .of_files files⟩
  · intro fault after stored more troubled
    exact ⟨[], .of_files (continues.trans more).files⟩

/-- Whatever strikes a use case, it writes documents of invoices and no other files. -/
theorem writesDocuments (useCase : UseCase) (ordered : Table.Ordered world.store.invoices) :
    ∃ ids, world.WritesDocuments ids (useCase.perform world).2 := by
  have settled : world.begin.Settled := world.settled_begin
  have ends : useCase.operation.Ends world.begin
      (fun _ after => ∃ ids, world.begin.WritesDocuments ids after)
      fun _ after => ∃ ids, world.begin.WritesDocuments ids after := by
    cases useCase with
    | generateDrafts billAll period =>
        exact ends_answer (ends_of_continuing (Billing.continuing_generateDrafts billAll period))
    | issueInvoice id =>
        exact ends_answer (ends_of_continuing (Billing.continuing_issueInvoice id))
    | issueAndRender base id =>
        exact ends_answer ((Billing.ends_issueAndRender_documents base id settled).faultless
          fun _ _ writes => ⟨_, writes⟩)
    | issueAll base period =>
        exact ends_answer ((Billing.ends_issueAll_documents base period settled ordered).faultless
          fun _ _ writes => ⟨_, writes⟩)
    | renderInvoice base id =>
        exact ends_answer ((Billing.ends_renderInvoice_alone base id).faultless
          fun _ _ rendering => ⟨_, .of_rendering settled rendering⟩)
    | deleteDraft id => exact ends_answer (ends_of_continuing (Billing.continuing_deleteDraft id))
    | recordPayment command =>
        exact ends_answer (ends_of_continuing (Payments.continuing_recordPayment command))
    | quickCash studentId amount note =>
        exact ends_answer
          (ends_of_continuing (Payments.continuing_quickCash studentId amount note))
    | deletePayment id =>
        exact ends_answer (ends_of_continuing (Payments.continuing_deletePayment id))
    | addOverride command =>
        exact ends_answer (ends_of_continuing (Billing.continuing_addOverride command))
    | runWorker worker year month =>
        apply ends_map
        apply ends_bind
        apply ends_now
        apply ends_session
        exact (ends_billPeriod_documents worker _ settled ordered).mono
          (fun _ _ ⟨ids, writes⟩ => ⟨ids, writes.begin_after⟩)
          fun _ _ ⟨ids, writes⟩ => ⟨ids, writes.begin_after⟩
  have inSession : (session useCase.operation).Ends world
      (fun _ after => ∃ ids, world.WritesDocuments ids after)
      fun _ after => ∃ ids, world.WritesDocuments ids after := by
    apply ends_session
    exact ends.mono (fun _ _ ⟨ids, writes⟩ => ⟨ids, writes.directories, writes.files⟩)
      fun _ _ ⟨ids, writes⟩ => ⟨ids, writes.directories, writes.files⟩
  exact inSession.after

end UseCase
end Tuition
