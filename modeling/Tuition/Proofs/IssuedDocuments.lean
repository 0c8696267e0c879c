/-
# Issued invoices and their documents

Issuing the drafts of a period writes the document of each as well, and stops at the first that
fails. `IssuesDrafts` says what it comes to, whatever strikes it: the first of the drafts were
issued in their order and the others are drafts still. If it comes to the end all were issued and
all documents written; in a calm it comes to the end if that is possible at all.

The documents of a month are beside each other. So writing one of them does not change which of
the others can be written, and what is left of a month can be issued later.
-/

import Tuition.Proofs.FileChanges
import Tuition.Proofs.SameBooks
import Tuition.Proofs.StudentBilling
import Tuition.Proofs.Unstruck

namespace Tuition

open Tx

/-- The student whom an invoice is addressed to. -/
def Store.studentOf? (store : Store) (id : Int) : Option Student :=
  (Table.find? store.invoices id).bind fun invoice => Table.find? store.students invoice.studentId

namespace Transaction

variable {now : Moment} {before after : Store} {id : Int}

/-- The invoice that is issued is found as a draft before and with its number afterwards. -/
theorem exists_issued_found (step : Transaction now before (.issued id) after) :
    ∃ invoice settings, Table.find? before.invoices id = some invoice ∧ invoice.status = .draft ∧
      before.settings = some settings ∧
      Table.find? after.invoices id = some (invoice.numberedBy settings now) := by
  cases step with
  | @issued _ invoice settings invoices found draft counter admitted written =>
      refine ⟨invoice, settings, found, draft, counter, ?_⟩
      have sameKey : Row.key (invoice.numberedBy settings now) = Row.key invoice := rfl
      rw [Table.find?_of_replace written, found, Option.map_some, sameKey, if_pos rfl]

/-- Issuing counts. -/
theorem settings_of_issued {settings : Settings}
    (step : Transaction now before (.issued id) after)
    (counter : before.settings = some settings) : after.settings = some settings.advanced := by
  cases step with
  | issued found draft same admitted written =>
      cases counter.symm.trans same
      rfl

/-- Issuing changes nobody's invoice into that of another one. -/
theorem studentOf?_eq (step : Transaction now before (.issued id) after) (other : Int) :
    after.studentOf? other = before.studentOf? other := by
  cases step with
  | @issued _ invoice settings invoices found draft counter admitted written =>
      simp only [Store.studentOf?, Table.find?_of_replace written]
      cases there : Table.find? before.invoices other with
      | none => rfl
      | some row =>
          have owner : (invoice.numberedBy settings now).studentId = invoice.studentId := rfl
          rw [Option.map_some, Option.bind_some, Option.bind_some]
          split
          · next same =>
              have sameKey : Row.key row = Row.key invoice := same
              rw [Table.key_of_find? there, Table.key_of_find? found] at sameKey
              rw [sameKey, found] at there
              rw [owner, Option.some.inj there]
          · rfl

end Transaction

/-- A history of one deed is one transaction. -/
theorem History.of_single {now : Moment} {before after : Store} {deed : Deed}
    (history : History now before [deed] after) : Transaction now before deed after := by
  cases history with
  | cons step rest =>
      cases rest
      exact step

namespace Billing

variable {world : World} {base : FilePath} {period : Period} {settings : Settings}

/-! ## One document -/

/-- An issued invoice has a number. -/
theorem numbered?_numberedBy (invoice : Invoice) (settings : Settings) (now : Moment) :
    (Row.shown (invoice.numberedBy settings now)).numbered? =
      some (invoiceNumber settings.effectivePrefix invoice.period settings.nextSequence) := by
  have some :
      invoiceNumber settings.effectivePrefix invoice.period settings.nextSequence ≠ "" := by
    intro empty
    have letters := congrArg String.toList empty
    simp [invoiceNumber, String.toList_append] at letters
  have number : (Row.shown (invoice.numberedBy settings now)).number =
      Option.some
        (invoiceNumber settings.effectivePrefix invoice.period settings.nextSequence) := rfl
  rw [Invoice.numbered?, number, Option.filter_some, if_pos (by simpa using some)]

/-- What rendering an invoice comes to: its document is written, or it is not and the files are as
they were, which happens in a calm only where it cannot be written. -/
inductive Renders (before : World) (document : RenderedInvoice) :
    Except Refusal RenderedInvoice → World → Prop
  | written {content : Document} {after : World} (calm : before.Calm → after.Calm)
      (student : (before.pending.studentOf? document.invoiceId).isSome)
      (writes : before.files.Writes document.path content after.files) :
      Renders before document (.ok document) after
  | failed {refusal : Refusal} {after : World}
      (files : before.files.Accepts document.path → after.files = before.files)
      (struck : before.Calm → before.files.Accepts document.path →
        before.pending.studentOf? document.invoiceId = none) :
      Renders before document (.error refusal) after

/-- A look at the records finds what is there, unless it is struck, which it is not in a calm. -/
theorem ends_read_on {α : Type} {kind : Call} {table : String} {numbers : List Int}
    {view : Store → α} {origin : World} {good : α → World → Prop} {bad : Fault → World → Prop}
    (continues : origin.Continues world) (fit : ∀ number ∈ numbers, Word.fits number)
    (read : ∀ outages, origin.Continues { world with outages } →
      good (view world.pending) { world with outages })
    (struck : ∀ fault outages, ¬origin.Calm → bad fault { world with outages }) :
    (do
      call kind
      requireTable table numbers
      look view).Ends world good bad := by
  have fitting := Table.requireWords_eq_ok_iff.mpr fit
  have looks : (do
      call kind
      requireTable table numbers
      look view).Ends world
        (fun value after =>
          value = view world.pending ∧ ∃ outages, after = { world with outages })
        fun _ after => ∃ outages, after = { world with outages } :=
    ends_reading (fun outages => ⟨rfl, outages, rfl⟩) fun _ outages => ⟨outages, rfl⟩
  refine (looks.and (Reads.ends reads_access)).mono ?_ ?_
  · rintro _ _ ⟨⟨rfl, outages, rfl⟩, -, -, more⟩
    exact read outages (continues.trans more)
  · rintro fault _ ⟨⟨outages, rfl⟩, failed, -⟩
    refine struck fault outages fun calm => ?_
    have failed := failed (continues.calm calm)
    rw [fitting] at failed
    cases failed

/-- Rendering an invoice that has a number comes to a document or to nothing. -/
theorem ends_renderInvoice_document (base : FilePath) {invoice : Invoice} {number : String}
    (kept : Table.WellKept world.pending.invoices)
    (found : Table.find? world.pending.invoices invoice.id = some invoice)
    (numbered : (Row.shown invoice).numbered? = some number)
    (counter : world.pending.settings = some settings) :
    (renderInvoice base invoice.id).Ends world
      (Renders world ⟨invoice.id, number, documentPath base invoice.period number⟩)
      fun _ _ => False := by
  have words := kept.words invoice (Table.mem_of_find? found)
  have key : Word.fits invoice.id := words _ List.mem_cons_self
  have owner : Word.fits invoice.studentId := words _ (List.mem_cons_of_mem _ List.mem_cons_self)
  have struck {fault : Fault} {after : World} (files : after.files = world.files)
      (troubled : ¬world.Calm) : Ends (return .error (.renderingFailed invoice.id fault)) after
        (Renders world ⟨invoice.id, number, documentPath base invoice.period number⟩)
        fun _ _ => False :=
    ends_pure (.failed (fun _ => files) fun calm => absurd calm troubled)
  apply ends_recover
  apply ends_bind
  apply ends_read_on (.refl world) (List.forall_mem_singleton.mpr key) _ fun _ _ => struck rfl
  intro outages continues
  simp only [found, Option.map_some, numbered]
  apply ends_bind
  apply ends_read_on continues (List.forall_mem_singleton.mpr owner) _ fun _ _ => struck rfl
  intro outages continues
  have sameOwner : (Row.shown invoice).studentId = invoice.studentId := rfl
  have addressed : world.pending.studentOf? invoice.id =
      Table.find? world.pending.students invoice.studentId := by simp [Store.studentOf?, found]
  simp only [sameOwner]
  cases there : Table.find? world.pending.students invoice.studentId with
  | none => exact ends_pure (.failed (fun _ => rfl) fun _ _ => addressed.trans there)
  | some student =>
      apply ends_bind
      apply ends_read_on continues (List.forall_mem_nil _) _ fun _ _ => struck rfl
      intro outages continues
      simp only [counter]
      apply ends_bind
      apply ends_bind
      apply ends_read_on continues (List.forall_mem_singleton.mpr key) _ fun _ _ => struck rfl
      intro outages continues
      apply ends_bind
      refine (does_call .render _).mono ?_ ?_
      · rintro _ called ⟨-, more⟩
        have continues := continues.trans more
        apply ends_bind
        refine (ends_writeDocument _ _).mono ?_ ?_
        · rintro _ after ⟨files, writes, rfl⟩
          refine ends_pure (ends_pure (.written (fun calm => ?_) (by simp [addressed, there])
            (continues.files ▸ writes)))
          have calm := continues.calm calm
          exact ⟨calm.tables, calm.quiet⟩
        · rintro fault after ⟨files, refuses, -, rfl⟩
          rw [continues.files] at refuses
          exact ends_pure (.failed (fun accepts => absurd accepts refuses)
            fun _ accepts => absurd accepts refuses)
      · rintro fault after ⟨failed, more⟩
        refine struck (continues.trans more).files fun calm => ?_
        cases failed (continues.calm calm)

/-! ## One invoice -/

theorem does_saveSettings (settings : Settings) :
    (Access.saveSettings settings).Does fun store =>
      Store.admitSettings settings >>= fun kept =>
        .ok ((), { store with settings := some kept }) := by
  refine (does_access (does_bind (does_lift (Store.admitSettings settings)) fun kept =>
    does_change fun store => { store with settings := some kept })).congr fun store => ?_
  cases Store.admitSettings settings <;> rfl

theorem continuing_numberDraft (invoice : Invoice) (settings : Settings) :
    (numberDraft invoice settings).Continuing := by
  rw [numberDraft_eq]
  apply (does_saveSettings _).continuing.bind
  intro saved
  apply continuing_now.bind
  intro now
  apply (does_saveInvoice _).continuing.bind
  intro written
  exact does_commit.continuing.bind fun _ => continuing_pure _

/-- Issuing an invoice leaves the files. -/
theorem continuing_issueInvoice (id : Int) : (issueInvoice id).Continuing := by
  apply Continuing.recover
  · apply (Does.continuing reads_access).bind
    rintro (_ | invoice)
    · exact continuing_rollback.bind fun _ => continuing_pure _
    dsimp only
    split
    · exact continuing_rollback.bind fun _ => continuing_pure _
    · apply (Does.continuing reads_access).bind
      rintro (_ | settings)
      · exact continuing_rollback.bind fun _ => continuing_pure _
      · exact (continuing_numberDraft _ _).bind fun _ => continuing_pure _
  · intro fault
    exact continuing_rollback.bind fun _ => continuing_pure _

/-- Issuing a draft issues it or leaves it. In a calm it issues it if that is possible. -/
inductive IssuesDraft (before : World) (id : Int) : Except Refusal IssuedInvoice → World → Prop
  | issued {issued : IssuedInvoice} {after : World} (moves : before.Moves [.issued id] after)
      (continues : before.Continues after) : IssuesDraft before id (.ok issued) after
  | refused {refusal : Refusal} {after : World} (moves : before.Moves [] after)
      (continues : before.Continues after)
      (struck : before.Calm → ∀ store, ¬Transaction before.now before.store (.issued id) store) :
      IssuesDraft before id (.error refusal) after

theorem IssuesDraft.settled {before after : World} {id : Int}
    {result : Except Refusal IssuedInvoice} (draft : IssuesDraft before id result after) :
    after.Settled := by
  cases draft with
  | issued moves => exact moves.settled
  | refused moves => exact moves.settled

/-- In a calm a draft that can be issued is issued. -/
theorem ends_issueInvoice_of_calm {id : Int} {store : Store} (settled : world.Settled)
    (calm : world.Calm) (step : Transaction world.now world.store (.issued id) store) :
    (issueInvoice id).Ends world (fun result _ => ∃ issued, result = .ok issued)
      fun _ _ => False := by
  have spared : Spared issuingCalls world.outages := by
    rw [calm.quiet]
    exact fun _ none => absurd none List.not_mem_nil
  cases step with
  | issued found draft counter admitted written =>
      obtain rfl := Table.key_of_find? found
      refine (ends_issueInvoice_of_spared settled calm.tables spared found draft counter admitted
        (Table.replace_eq_ok_iff.mp written).2).weaken ?_
      rintro _ after ⟨rfl, -⟩
      exact ⟨_, rfl⟩

/-- Issuing an invoice that is a draft issues the draft or leaves it. -/
theorem ends_issueInvoice_of_mem {id : Int} (settled : world.Settled)
    (mem : id ∈ draftIds world.store period) (ordered : Table.Ordered world.store.invoices)
    (counter : world.store.settings = some settings) :
    (issueInvoice id).Ends world (IssuesDraft world id) fun _ _ => False := by
  obtain ⟨invoice, found, -, draft⟩ := exists_found_of_mem_draftIds ordered mem
  obtain rfl : invoice.id = id := Table.key_of_find? found
  have status : (Row.shown invoice).status = invoice.status := rfl
  have moves : (issueInvoice invoice.id).Ends world
      (fun result after =>
        (∀ issued, result = .ok issued → world.Moves [.issued invoice.id] after) ∧
        ∀ refusal, result = .error refusal → world.Moves [] after) fun _ _ => False := by
    refine ends_transaction ?_ fun fault after moves => ⟨nofun, fun _ _ => moves⟩
    apply ends_bind
    apply Access.ends_read settled.works
    intro looked works
    simp only [found, Option.map_some, status]
    rw [if_neg (not_not_intro draft)]
    apply ends_bind
    apply Access.ends_read works
    intro counted works
    simp only [counter]
    apply ends_bind
    refine (ends_numberDraft works found draft counter).weaken ?_
    intro issued after moves
    refine ends_pure ⟨fun _ _ => moves, ?_⟩
    intro refusal impossible
    cases impossible
  have struck : (issueInvoice invoice.id).Ends world
      (fun result _ => ∀ refusal, result = .error refusal → world.Calm → ∀ store,
        ¬Transaction world.now world.store (.issued invoice.id) store) fun _ _ => False := by
    -- where it can be issued in a calm there is no refusal, and elsewhere
    -- there is nothing to show
    by_cases able : world.Calm ∧
        ∃ store, Transaction world.now world.store (.issued invoice.id) store
    · obtain ⟨calm, store, step⟩ := able
      refine (ends_issueInvoice_of_calm settled calm step).weaken ?_
      rintro _ after ⟨issued, rfl⟩ refusal impossible
      cases impossible
    · exact moves.weaken fun _ _ _ _ _ calm store step => able ⟨calm, store, step⟩
  refine ((moves.and struck).and (continuing_issueInvoice invoice.id world)).mono ?_
    fun _ _ failed => failed.1.1
  rintro (refusal | issued) after ⟨⟨⟨moved, left⟩, struck⟩, continues⟩
  · exact .refused (left refusal rfl) continues (struck refusal rfl)
  · exact .issued (moved issued rfl) continues

/-! ## The drafts of a period -/

/-- Documents of a month with numbers under one prefix can be written into one tree of
files as into another. -/
def AcceptsAlike (base : FilePath) (period : Period) (lead : String) (before after : FileTree) :
    Prop :=
  ∀ sequence, after.Accepts (documentPath base period (invoiceNumber lead period sequence)) ↔
    before.Accepts (documentPath base period (invoiceNumber lead period sequence))

/-- Writing one document of a month does not change which others can be written. -/
theorem acceptsAlike_of_writes {lead : String} {sequence : Int} {content : Document}
    {before after : FileTree}
    (writes : before.Writes
      (documentPath base period (invoiceNumber lead period sequence)) content after) :
    AcceptsAlike base period lead before after :=
  fun other => FileTree.accepts_iff_of_writes writes
    (beside_documentPath base period lead sequence other)

/-- The drafts of a period have students to be addressed to, and their
documents can be written. -/
structure Renderable (base : FilePath) (period : Period) (settings : Settings) (store : Store)
    (files : FileTree) : Prop where
  students : ∀ id ∈ draftIds store period, (store.studentOf? id).isSome
  paths : ∀ place < (draftIds store period).length, files.Accepts (documentPath base period
    (invoiceNumber settings.effectivePrefix period (settings.nextSequence + place)))

theorem Renderable.first {store : Store} {files : FileTree} {id : Int} {others : List Int}
    (renderable : Renderable base period settings store files)
    (listed : draftIds store period = id :: others) :
    (store.studentOf? id).isSome ∧ files.Accepts (documentPath base period
      (invoiceNumber settings.effectivePrefix period settings.nextSequence)) := by
  refine ⟨renderable.students id (listed ▸ List.mem_cons_self), ?_⟩
  simpa using renderable.paths 0 (by simp [listed])

/-- When a draft was issued and its document written, the others are to be issued still. -/
theorem renderable_cons_iff {now : Moment} {before after : Store} {files later : FileTree}
    {id : Int} {others : List Int} (listed : draftIds before period = id :: others)
    (step : Transaction now before (.issued id) after)
    (remaining : draftIds after period = others)
    (alike : AcceptsAlike base period settings.effectivePrefix files later) :
    Renderable base period settings before files ↔
      ((before.studentOf? id).isSome ∧ files.Accepts (documentPath base period
        (invoiceNumber settings.effectivePrefix period settings.nextSequence))) ∧
      Renderable base period settings.advanced after later := by
  have shifted (place : Nat) : settings.advanced.nextSequence + place =
      settings.nextSequence + ((place + 1 : Nat) : Int) := by
    simp only [Settings.advanced]
    omega
  have sameLead : settings.advanced.effectivePrefix = settings.effectivePrefix := rfl
  constructor
  · intro renderable
    refine ⟨renderable.first listed, ?_, ?_⟩
    · intro other mem
      rw [step.studentOf?_eq]
      exact renderable.students other (listed ▸ List.mem_cons_of_mem _ (remaining ▸ mem))
    · intro place below
      rw [remaining] at below
      rw [sameLead, shifted, alike]
      exact renderable.paths (place + 1) (by simpa [listed] using below)
  · rintro ⟨⟨student, path⟩, students, paths⟩
    rw [remaining] at students paths
    refine ⟨?_, ?_⟩
    · rw [listed]
      refine List.forall_mem_cons.mpr ⟨student, fun other mem => ?_⟩
      rw [← step.studentOf?_eq]
      exact students other mem
    · intro place below
      rw [listed, List.length_cons] at below
      cases place with
      | zero => simpa using path
      | succ place =>
          rw [← shifted, ← alike]
          exact paths place (by omega)

/-- What issuing the drafts of a period with their documents comes to. -/
structure IssuesDrafts (base : FilePath) (period : Period) (settings : Settings) (before : World)
    (complete : Prop) (after : World) : Prop where
  /-- The first of the drafts were issued in their order, or all of them. -/
  issued : ∃ done more, draftIds before.store period = done ++ more ∧
    before.store.Numbers done after.store ∧ (complete → more = [])
  /-- Where all were issued, their documents could be written. -/
  renderable : complete → Renderable base period settings before.store before.files
  /-- If the documents can be written, those that are left can be written still. -/
  alike : Renderable base period settings before.store before.files →
    AcceptsAlike base period settings.effectivePrefix before.files after.files
  /-- In a calm all are issued if that is possible. -/
  calm : before.Calm → (∃ final, before.store.Numbers (draftIds before.store period) final) →
    Renderable base period settings before.store before.files → complete
  settled : after.Settled
  hasTables : after.hasTables = before.hasTables

namespace IssuesDrafts

variable {before between after : World} {complete : Prop}

/-- Where there are no drafts there is nothing to issue. -/
theorem of_nil (settled : world.Settled) (none : draftIds world.store period = [])
    (holds : complete) : IssuesDrafts base period settings world complete world where
  issued := ⟨[], [], none, .nil, fun _ => rfl⟩
  renderable _ := ⟨by simp [none], by simp [none]⟩
  alike _ _ := .rfl
  calm _ _ _ := holds
  settled := settled
  hasTables := rfl

/-- Where issuing stops before it has issued anything. -/
theorem of_unissued (moves : before.Moves [] after) (files : after.files = before.files)
    (struck : before.Calm →
      ∀ final, ¬before.store.Numbers (draftIds before.store period) final) :
    IssuesDrafts base period settings before False after where
  issued := ⟨[], _, rfl, moves.store_eq ▸ .nil, False.elim⟩
  renderable := False.elim
  alike _ _ := by rw [files]
  calm calm := by
    rintro ⟨final, numbers⟩ -
    exact struck calm final numbers
  settled := moves.settled
  hasTables := moves.hasTables

/-- Where issuing stops when it has issued the first draft and not written its document. -/
theorem of_unrendered {id : Int} {others : List Int}
    (listed : draftIds before.store period = id :: others)
    (moves : before.Moves [.issued id] after)
    (files : before.files.Accepts (documentPath base period
      (invoiceNumber settings.effectivePrefix period settings.nextSequence)) →
        after.files = before.files)
    (struck : before.Calm → before.files.Accepts (documentPath base period
      (invoiceNumber settings.effectivePrefix period settings.nextSequence)) →
        before.store.studentOf? id = none) :
    IssuesDrafts base period settings before False after where
  issued := ⟨[id], others, listed, .cons moves.history.of_single .nil, False.elim⟩
  renderable := False.elim
  alike renderable _ := by rw [files (renderable.first listed).2]
  calm calm _ renderable := by
    obtain ⟨student, accepts⟩ := renderable.first listed
    rw [struck calm accepts] at student
    cases student
  settled := moves.settled
  hasTables := moves.hasTables

/-- Issuing goes on with the drafts that are left. -/
theorem cons {id : Int} {others : List Int} {content : Document}
    (listed : draftIds before.store period = id :: others)
    (ordered : Table.Ordered before.store.invoices)
    (moves : before.Moves [.issued id] between)
    (calm : before.Calm → between.Calm) (student : (before.store.studentOf? id).isSome)
    (writes : before.files.Writes (documentPath base period
        (invoiceNumber settings.effectivePrefix period settings.nextSequence))
      content between.files)
    (rest : IssuesDrafts base period settings.advanced between complete after) :
    IssuesDrafts base period settings before complete after := by
  have step := moves.history.of_single
  have remaining : draftIds between.store period = others :=
    (Store.Numbers.cons step .nil).draftIds_eq ordered listed
  have alike := acceptsAlike_of_writes writes
  have renderable_iff := renderable_cons_iff listed step remaining alike
  have first := And.intro student (FileTree.accepts_of_writes writes)
  refine ⟨?_, fun holds => renderable_iff.mpr ⟨first, rest.renderable holds⟩, ?_, ?_,
    rest.settled, rest.hasTables.trans moves.hasTables⟩
  · obtain ⟨done, more, left, numbers, all⟩ := rest.issued
    exact ⟨id :: done, more, by rw [listed, ← remaining, left]; rfl, .cons step numbers, all⟩
  · intro renderable sequence
    exact (rest.alike (renderable_iff.mp renderable).2 sequence).trans (alike sequence)
  · rintro calmBefore ⟨final, numbers⟩ renderable
    -- that the drafts can be issued was found at other moments than this one
    obtain ⟨other, again, -⟩ : ∃ other, between.store.Numbers others other ∧
        final.SameBooks other := by
      rw [listed] at numbers
      cases numbers with
      | cons stepFinal restFinal =>
          obtain ⟨next, stepped, same⟩ := stepFinal.exists_issued (.refl _) before.now
          obtain rfl := step.issued_unique stepped
          exact restFinal.exists_same same
    exact rest.calm (calm calmBefore) ⟨other, remaining ▸ again⟩ (renderable_iff.mp renderable).2

end IssuesDrafts

/-- The document of an invoice that gets the next number of a period. -/
def nextDocument (base : FilePath) (period : Period) (settings : Settings) (id : Int) :
    RenderedInvoice :=
  let number := invoiceNumber settings.effectivePrefix period settings.nextSequence
  ⟨id, number, documentPath base period number⟩

/-- Rendering a draft that was just issued comes to its document or to nothing. -/
theorem ends_renderInvoice_issued (base : FilePath) {id : Int} {issued : World}
    (kept : Table.WellKept world.store.invoices) (mem : id ∈ draftIds world.store period)
    (counter : world.store.settings = some settings) (moves : world.Moves [.issued id] issued) :
    (renderInvoice base id).Ends issued
      (fun rendered after =>
        Renders issued (nextDocument base period settings id) rendered after ∧
          world.Moves [.issued id] after) fun _ _ => False := by
  have step := moves.history.of_single
  have advanced := step.settings_of_issued counter
  obtain ⟨invoice, _, found, -, same, numbered⟩ := step.exists_issued_found
  cases counter.symm.trans same
  obtain ⟨draft, there, rfl, -⟩ := exists_found_of_mem_draftIds kept.ordered mem
  obtain rfl : draft = invoice := Option.some.inj (there.symm.trans found)
  obtain rfl : draft.id = id := Table.key_of_find? found
  have keptIssued : Table.WellKept issued.pending.invoices :=
    moves.settled.symm ▸ step.wellKept kept
  rw [← moves.settled] at numbered advanced
  have documents := ends_renderInvoice_document base keptIssued numbered
    (numbered?_numberedBy draft settings world.now) advanced
  have records : (renderInvoice base draft.id).Ends issued
      (fun _ after => world.Moves [.issued draft.id] after) fun _ _ => False :=
    ends_renderInvoice base draft.id fun _ outages files => moves.quietly outages files
  exact (documents.and records).mono (fun _ _ both => both) fun _ _ failed => failed.1

/-- Issuing the drafts of a period one after another. -/
theorem ends_issueEach_drafts (base : FilePath) {ids : List Int} (run : IssueRun)
    (unfailed : run.failure = none) (settled : world.Settled)
    (listed : draftIds world.store period = ids) (kept : Table.WellKept world.store.invoices)
    (counter : ids ≠ [] → world.store.settings = some settings) :
    (issueEach base run ids).Ends world
      (fun later after => IssuesDrafts base period settings world (later.failure = none) after)
      fun _ _ => False := by
  induction ids generalizing world run settings with
  | nil => exact ends_pure (.of_nil settled listed unfailed)
  | cons id others ih =>
      have counter := counter (List.cons_ne_nil _ _)
      have mem : id ∈ draftIds world.store period := listed ▸ List.mem_cons_self
      have stopped (refusal : Refusal) :
          ({ run with failure := some ⟨id, refusal⟩ } : IssueRun).failure = none ↔
            False := by simp
      apply ends_bind
      refine (ends_issueInvoice_of_mem settled mem kept.ordered counter).faultless ?_
      intro result issued draft
      cases draft with
      | refused moves continues struck =>
          refine ends_pure ?_
          simp only [stopped]
          refine .of_unissued moves continues.files fun calm final numbers => ?_
          obtain ⟨store, step⟩ := (listed ▸ numbers).exists_issued world.now
          exact struck calm store step
      | issued moves continues =>
          have addressed : issued.pending.studentOf? id = world.store.studentOf? id := by
            rw [moves.settled, moves.history.of_single.studentOf?_eq]
          apply ends_bind
          refine (ends_renderInvoice_issued base kept mem counter moves).faultless ?_
          rintro result after ⟨rendered, movesAfter⟩
          cases rendered with
          | failed files struck =>
              refine ends_pure ?_
              simp only [stopped]
              refine .of_unrendered listed movesAfter (fun accepts => ?_) fun calm accepts => ?_
              · rw [files (continues.files ▸ accepts), continues.files]
              · exact addressed ▸ struck (continues.calm calm) (continues.files ▸ accepts)
          | written calm student writes =>
              have step := movesAfter.history.of_single
              have remaining := (Store.Numbers.cons step .nil).draftIds_eq kept.ordered listed
              refine (ih { run with paths := run.paths ++ [_] } unfailed movesAfter.settled
                remaining (step.wellKept kept)
                fun _ => step.settings_of_issued counter).weaken fun later last rest => ?_
              exact .cons listed kept.ordered movesAfter
                (fun holds => calm (continues.calm holds))
                (addressed ▸ student) (continues.files ▸ writes) rest

/-- Issuing the drafts of a period lists them and issues them. -/
theorem ends_issueAll_drafts (base : FilePath) (accepted : period.accepts)
    (settled : world.Settled) (kept : Table.WellKept world.store.invoices)
    (counter : world.store.settings = some settings) :
    (issueAll base period).Ends world
      (fun result after => IssuesDrafts base period settings world
        (∃ run, result = .ok run ∧ run.failure = none) after)
      fun _ _ => False := by
  unfold issueAll
  simp only [accepted, Bool.not_true, Bool.false_eq_true, if_false]
  have sameIds : ((world.pending.invoices.filter fun invoice =>
      invoice.period == period && .draft == invoice.status).map Row.shown).map Invoice.id =
        draftIds world.store period := by
    rw [settled, List.map_map]
    rfl
  apply ends_bind
  apply ends_attempt
  apply ends_read_on (.refl world) (Period.fits_of_accepts accepted)
  · intro outages continues
    have complete (later : IssueRun) :
        (∃ run, (Except.ok later : Except Refusal IssueRun) = .ok run ∧ run.failure = none) ↔
          later.failure = none := by simp
    apply ends_bind
    refine Ends.weaken
      (ends_issueEach_drafts base _ rfl settled sameIds.symm kept fun _ => counter) ?_
    intro later after rest
    refine ends_pure ?_
    simp only [complete]
    exact ⟨rest.issued, rest.renderable, rest.alike, fun calm => rest.calm (continues.calm calm),
      rest.settled, rest.hasTables⟩
  · intro fault outages troubled
    have incomplete : (∃ run, (Except.error (.listingDraftsFailed period fault) :
        Except Refusal IssueRun) = .ok run ∧ run.failure = none) ↔ False := by simp
    have unmoved : world.Moves [] { world with outages } := (World.Moves.refl settled).quietly _ _
    refine ends_pure ?_
    simp only [incomplete]
    exact .of_unissued unmoved rfl fun calm => absurd calm troubled

end Billing
end Tuition
