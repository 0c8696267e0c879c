/-
# One file for each invoice

Rendering writes the document of one invoice to one file. Numbers that were given out in one run
have different sequences, so the documents of two invoices never lead to one place, whatever the
prefixes are. It follows that no call puts the document of an invoice in place of that of another
one: what is found at the place of an invoice later in a run was there before, or was written as
the document of that invoice, or of one whose number was not given out in the run.
-/

import Tuition.Http.Service
import Tuition.Proofs.DocumentPlaces
import Tuition.Proofs.DocumentsWritten
import Tuition.Proofs.IssuingInTurn
import Mathlib.Data.List.Induction

namespace Tuition

open Tx Billing

/-! ## One rendering -/

/-- Rendering an invoice leaves all records and always answers. If it answers with a document,
that is the one that the records make of the invoice; it is in a file where the path leads that is
answered, and every other file is as it was. If it refuses, every file is. -/
def World.RendersAlone (world : World) (base : FilePath) (id : Int) : Prop :=
  let rendering := (renderInvoice base id).perform world
  rendering.2.store = world.store ∧ rendering.2.pending = world.pending ∧
  ∃ result, rendering.1 = .ok result ∧
    (∀ rendered, result = .ok rendered → ∃ invoice content place, invoice.id = id ∧
      world.pending.Documents invoice rendered.number content ∧
      rendered = ⟨id, rendered.number, documentPath base invoice.period rendered.number⟩ ∧
      rendering.2.files.LeadsTo rendered.path place ∧
      rendering.2.files.file? place = some (.document content) ∧
      ∀ other, other ≠ place → rendering.2.files.file? other = world.files.file? other) ∧
    ∀ refusal, result = .error refusal →
      ∀ place, rendering.2.files.file? place = world.files.file? place

theorem World.rendersAlone (world : World) (base : FilePath) (id : Int) :
    world.RendersAlone base id := by
  have ends : (renderInvoice base id).Ends world (Rendering base id world) fun _ _ => False :=
    ends_renderInvoice_alone base id
  obtain ⟨result, after, performed, rendering⟩ := ends.exists_ok
  simp only [RendersAlone, performed]
  cases rendering with
  | written key documents puts =>
      refine ⟨rfl, rfl, _, rfl, ?_, nofun⟩
      rintro _ ⟨rfl⟩
      exact ⟨_, _, _, key, documents, rfl, puts.leads, puts.file, puts.others⟩
  | failed adds => exact ⟨rfl, rfl, _, rfl, nofun, fun _ _ => adds.file?_eq⟩

/-- A download leaves a world as rendering does, or does nothing if its path names no invoice. -/
theorem Http.perform_download (worker : Worker) (request : Request) (text : String)
    (world : World) :
    let download := (session (answerAt worker request (.downloadInvoice text))).perform world
    download.2 = world.begin ∨
      ∃ id, download.2 = ((UseCase.renderInvoice worker.outputDirectory id).perform world).2 := by
  intro download
  have asked : answerAt worker request (.downloadInvoice text) =
      answering (pathNumber "invoice_id" text) fun id =>
        downloadOutcome <$> renderInvoice worker.outputDirectory id := rfl
  have performed : download.2 =
      ((answerAt worker request (.downloadInvoice text)).perform world.begin).2.begin :=
    congrArg Prod.snd (perform_session _ _)
  rw [asked] at performed
  cases checked : pathNumber "invoice_id" text with
  | refused complaints =>
      rw [checked] at performed
      exact .inl performed
  | broken fault =>
      rw [checked] at performed
      exact .inl performed
  | accepted id =>
      rw [checked] at performed
      have rendered : download.2 = ((downloadOutcome <$> renderInvoice worker.outputDirectory
        id).perform world.begin).2.begin := performed
      refine .inr ⟨id, ?_⟩
      rw [rendered, UseCase.perform, UseCase.operation, UseCase.answer, perform_session]
      dsimp only
      rw [perform_map, perform_map]
      rcases (renderInvoice worker.outputDirectory id).perform world.begin with ⟨_ | _, _⟩ <;> rfl

/-! ## Places of documents -/

/-- The document of an invoice with a number may be written to a place: its path leads there, for
some directory and period and in some tree of files. -/
def FiledAt (number : String) (place : Location) : Prop :=
  ∃ base period, ∃ tree : FileTree, tree.LeadsTo (documentPath base period number) place

/-- Documents with two numbers have different paths and are never written to one place. -/
structure FiledApart (first second : String) : Prop where
  paths : ∀ base period other month,
    documentPath base period first ≠ documentPath other month second
  places : ∀ place, FiledAt first place → ¬FiledAt second place

namespace Store.GivesOut

variable {before after : Store} {issued : List Invoice} {first second : Invoice}
  {number other : String}

/-- The paths of documents with a number that was given out end with its sequence. -/
theorem exists_endsWith (gives : before.GivesOut issued after) (nonneg : 0 ≤ before.nextSequence)
    (mem : first ∈ issued) (own : first.number = some number) : ∃ sequence : Nat,
      first.sequence = some (sequence : Int) ∧
        ∀ base period, (documentPath base period number).EndsWith sequence := by
  obtain ⟨lead, month, sequence, given, least, -⟩ := gives.given first mem
  obtain ⟨n, rfl⟩ := Int.eq_ofNat_of_zero_le (Int.le_trans nonneg least)
  obtain rfl : number = invoiceNumber lead month n := Option.some.inj (own.symm.trans given)
  refine ⟨n, ?_, fun base period => endsWith_documentPath base period lead month n⟩
  rw [Invoice.sequence, own, Option.map_some, sequenceOf_invoiceNumber]

/-- An invoice that was issued can be told by the place of its document. -/
theorem eq_of_filedAt (gives : before.GivesOut issued after) (nonneg : 0 ≤ before.nextSequence)
    (memFirst : first ∈ issued) (ownFirst : first.number = some number)
    (memSecond : second ∈ issued) (ownSecond : second.number = some other) {place : Location}
    (filedFirst : FiledAt number place) (filedSecond : FiledAt other place) : first = second := by
  obtain ⟨n, read, ends⟩ := gives.exists_endsWith nonneg memFirst ownFirst
  obtain ⟨m, readOther, endsOther⟩ := gives.exists_endsWith nonneg memSecond ownSecond
  obtain ⟨base, period, tree, leads⟩ := filedFirst
  obtain ⟨base', period', tree', leads'⟩ := filedSecond
  refine gives.once first memFirst second memSecond ?_
  rw [read, readOther,
    (ends base period).sequence_eq_of_leadsTo (endsOther base' period') leads leads']

/-- Different invoices that were issued are filed apart. -/
theorem filedApart (gives : before.GivesOut issued after) (nonneg : 0 ≤ before.nextSequence)
    (memFirst : first ∈ issued) (ownFirst : first.number = some number)
    (memSecond : second ∈ issued) (ownSecond : second.number = some other)
    (different : first ≠ second) : FiledApart number other where
  paths base period base' period' same := by
    obtain ⟨n, read, ends⟩ := gives.exists_endsWith nonneg memFirst ownFirst
    obtain ⟨m, readOther, endsOther⟩ := gives.exists_endsWith nonneg memSecond ownSecond
    refine different (gives.once first memFirst second memSecond ?_)
    rw [read, readOther, (ends base period).sequence_eq (endsOther base' period') (by rw [same])]
  places place filedFirst filedSecond :=
    different
      (gives.eq_of_filedAt nonneg memFirst ownFirst memSecond ownSecond filedFirst filedSecond)

end Store.GivesOut

/-! ## Files in the course of a run -/

/-- The files are set from outside. -/
def Event.SetsFiles : Event → Prop
  | .files _ => True
  | _ => False

namespace World

variable {world : World} {place : Location} {invoice shown : Invoice} {number : String}

/-- An event that does not set the files writes documents and no other files. -/
theorem shows_happen {event : Event} (ordered : Table.Ordered world.store.invoices)
    (called : ¬event.SetsFiles) (place : Location) :
    (world.happen event).files.file? place = world.files.file? place ∨
      ∃ shown, (world.happen event).ShowsAt place shown := by
  cases event with
  | used useCase =>
      obtain ⟨ids, writes⟩ := useCase.writesDocuments ordered
      exact (writes.files place).imp_right fun ⟨shown, _, shows⟩ => ⟨shown, shows⟩
  | files tree => exact absurd trivial called
  | _ => exact .inl rfl

/-- Later in a run a file is as it was, or it was written at some moment as the document of an
invoice: of the given one, or of one whose number was there when the run began. -/
def KeepsOrRewrites (start before : World) (events : List Event) (invoice : Invoice)
    (place : Location) : Prop :=
  (before.run events).files.file? place = before.files.file? place ∨
  ∃ done rest shown, events = done ++ rest ∧ (before.run done).ShowsAt place shown ∧
    (before.run events).files.file? place = (before.run done).files.file? place ∧
    (shown.id = invoice.id ∧ shown.number = invoice.number ∨
      ∃ old ∈ start.store.invoices, old.id = shown.id ∧ old.number = shown.number)

theorem run_append (world : World) (past later : List Event) :
    world.run (past ++ later) = (world.run past).run later :=
  List.foldl_append

/-- What is shown at the place of an invoice that a run issues is that invoice, or has its
number from before the run. -/
theorem same_or_old_of_showsAt (intact : world.store.Intact) {past later : List Event}
    (mem : invoice ∈ world.issuedIn (past ++ later)) (own : invoice.number = some number)
    (filed : FiledAt number place) (shows : (world.run past).ShowsAt place shown) :
    shown.id = invoice.id ∧ shown.number = invoice.number ∨
      ∃ old ∈ world.store.invoices, old.id = shown.id ∧ old.number = shown.number := by
  obtain ⟨base, other, content, documents, leads, -⟩ := shows
  have numbered := documents.number_eq
  obtain ⟨old, found, key, same⟩ :=
    (givesOut_run intact past).origin shown documents.mem other numbered
  rcases found with before | issued
  · exact .inr ⟨old, before, key, same.trans numbered.symm⟩
  · left
    have memOld : old ∈ world.issuedIn (past ++ later) := by
      rw [issuedIn_append]
      exact List.mem_append_left _ issued
    obtain rfl := (givesOut_run intact (past ++ later)).eq_of_filedAt intact.nextSequence_nonneg
      memOld same mem own ⟨base, shown.period, _, leads⟩ filed
    exact ⟨key.symm, numbered.trans same.symm⟩

/-- The place of an invoice that a run issues is kept for it. -/
theorem keepsOrRewrites (intact : world.store.Intact) {past between : List Event}
    (later : List Event) (called : ∀ event ∈ between, ¬event.SetsFiles)
    (mem : invoice ∈ world.issuedIn (past ++ between ++ later))
    (own : invoice.number = some number) (filed : FiledAt number place) :
    world.KeepsOrRewrites (world.run past) between invoice place := by
  induction between using List.reverseRecOn generalizing later with
  | nil => exact .inl rfl
  | append_singleton done event ih =>
      have sameRun : past ++ (done ++ [event]) ++ later = past ++ done ++ ([event] ++ later) := by
        simp only [List.append_assoc]
      have ordered : Table.Ordered ((world.run past).run done).store.invoices := by
        rw [← run_append]
        exact (givesOut_run intact (past ++ done)).intact.invoices.ordered
      have last : (world.run past).run (done ++ [event]) =
          ((world.run past).run done).happen event := run_append _ _ _
      rcases shows_happen ordered (called event (by simp)) place with same | ⟨shown, shows⟩
      · rw [← last] at same
        rcases ih ([event] ++ later) (fun other mem => called other (List.mem_append_left _ mem))
          (sameRun ▸ mem) with kept | ⟨first, rest, shown, split, shows, file, whose⟩
        · exact .inl (same.trans kept)
        · refine .inr ⟨first, rest ++ [event], shown, ?_, shows, same.trans file, whose⟩
          rw [split, List.append_assoc]
      · rw [← last] at shows
        refine .inr ⟨done ++ [event], [], shown, (List.append_nil _).symm, shows, rfl, ?_⟩
        rw [← run_append] at shows
        exact same_or_old_of_showsAt intact mem own filed shows

end World

/-- Rendering touches one file and nothing else, whatever the records, the files and the outages
are. And whatever prefixes are set in a run, the documents of different invoices that it issues
have different paths and lead to different places; so whatever is called in it, issuing, rendering
and downloading among others, the place of an invoice is kept for it. -/
theorem rendering_touches_one_file (world : World) :
    (∀ base id, world.RendersAlone base id) ∧
    (∀ worker request text,
      let download :=
        (session (Http.answerAt worker request (.downloadInvoice text))).perform world
      download.2 = world.begin ∨
        ∃ id, download.2 = ((UseCase.renderInvoice worker.outputDirectory id).perform world).2) ∧
    (world.store.Intact → ∀ events,
      (∀ first ∈ world.issuedIn events, ∀ second ∈ world.issuedIn events, first ≠ second →
        ∃ number other, first.number = some number ∧ second.number = some other ∧
          FiledApart number other) ∧
      ∀ past between later, events = past ++ between ++ later →
        (∀ event ∈ between, ¬event.SetsFiles) →
        ∀ invoice ∈ world.issuedIn events, ∀ number, invoice.number = some number →
          ∀ place, FiledAt number place →
            world.KeepsOrRewrites (world.run past) between invoice place) := by
  refine ⟨world.rendersAlone, fun worker request text =>
    Http.perform_download worker request text world, fun intact events => ⟨?_, ?_⟩⟩
  · intro first memFirst second memSecond different
    have gives := World.givesOut_run intact events
    obtain ⟨_, _, _, own, -⟩ := gives.given first memFirst
    obtain ⟨_, _, _, ownSecond, -⟩ := gives.given second memSecond
    exact ⟨_, _, own, ownSecond,
      gives.filedApart intact.nextSequence_nonneg memFirst own memSecond ownSecond different⟩
  · rintro past between later rfl called invoice mem number own place filed
    exact World.keepsOrRewrites intact later called mem own filed

/-- Two drafts are issued with their documents, and in between the prefix is set to one that leads
up from the month and down again. -/
def Event.prefixedBetween : List Event :=
  [.used (.issueAndRender ⟨"/", ["out"]⟩ 1), .prefixed "../01/LS",
    .used (.issueAndRender ⟨"/", ["out"]⟩ 2)]

/-- Both documents come into one directory, each by its own name, and the place of the first is
kept for it while the second is issued. -/
theorem rendering_touches_one_file_under_prefixes :
    ((World.calmWith .withThreeDrafts).issuedIn Event.prefixedBetween).map Invoice.number =
        [some "LS-202401-001", some "../01/LS-202401-002"] ∧
    FiledApart "LS-202401-001" "../01/LS-202401-002" ∧
    ∃ invoice, invoice.number = some "LS-202401-001" ∧
      (World.calmWith .withThreeDrafts).KeepsOrRewrites
        ((World.calmWith .withThreeDrafts).run (Event.prefixedBetween.take 1))
        (Event.prefixedBetween.drop 1) invoice ["out", "2024", "01", "LS-202401-001.pdf"] := by
  have numbers : ((World.calmWith .withThreeDrafts).issuedIn Event.prefixedBetween).map
      Invoice.number = [some "LS-202401-001", some "../01/LS-202401-002"] := by decide +kernel
  obtain ⟨-, -, run⟩ := rendering_touches_one_file (World.calmWith .withThreeDrafts)
  obtain ⟨apart, kept⟩ := run Store.withThreeDrafts_intact Event.prefixedBetween
  obtain ⟨first, others, issued, own, rest⟩ := List.map_eq_cons_iff.mp numbers
  obtain ⟨second, none, rfl, ownSecond, -⟩ := List.map_eq_cons_iff.mp rest
  have memFirst : first ∈ (World.calmWith .withThreeDrafts).issuedIn Event.prefixedBetween :=
    issued ▸ List.mem_cons_self
  have memSecond : second ∈ (World.calmWith .withThreeDrafts).issuedIn Event.prefixedBetween :=
    issued ▸ List.mem_cons_of_mem _ List.mem_cons_self
  refine ⟨numbers, ?_, first, own, ?_⟩
  · have different : first ≠ second := by
      rintro rfl
      exact absurd (own.symm.trans ownSecond) (by decide)
    obtain ⟨number, other, ownNumber, ownOther, filed⟩ :=
      apart first memFirst second memSecond different
    cases own.symm.trans ownNumber
    cases ownSecond.symm.trans ownOther
    exact filed
  · refine kept (Event.prefixedBetween.take 1) (Event.prefixedBetween.drop 1) [] rfl ?_ first
      memFirst _ own _ ⟨⟨"/", ["out"]⟩, ⟨2024, 1⟩,
        ((World.calmWith .withThreeDrafts).run Event.prefixedBetween).files,
        ["out", "2024", "01"], "LS-202401-001.pdf", by decide +kernel, rfl⟩
    intro event mem
    rcases List.mem_cons.mp mem with rfl | last
    · exact id
    · rw [List.mem_singleton.mp last]
      exact id

end Tuition
