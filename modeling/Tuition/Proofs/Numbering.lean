/-
# The numbers that a use case gives out

The settings count the invoice numbers. A store counts up to a sequence if that is the next one
and all numbers that there are have sequences below it. Issuing an invoice gives it the next
sequence and counts on; nothing else touches a number or the counter. The numbers that a use case
gives out have therefore consecutive sequences, in the order in which they are given out, and they
are exactly those of the invoices that it leaves issued and found as drafts, or not at all.

The rules of the store are taken to hold at the beginning: keys and numbers do not repeat, whole
numbers fit into words, and the next sequence is at least one.
-/

import Tuition.Proofs.Fates
import Tuition.Proofs.NumberText
import Tuition.Proofs.UseCases
import Mathlib.Data.List.Sort

namespace Tuition

namespace Store

/-- The rules that bind invoices and settings are kept. -/
structure Intact (store : Store) : Prop where
  invoices : Table.WellKept store.invoices
  settings : ∀ settings, store.settings = some settings → admitSettings settings = .ok settings

/-- An invoice number whose sequence is below a bound. -/
def NumberBelow (next : Int) (number : String) : Prop :=
  ∃ lead period sequence, number = invoiceNumber lead period sequence ∧ 1 ≤ sequence ∧
    sequence < next

/-- The next sequence is the given one, and all numbers have sequences below it. -/
structure CountsTo (store : Store) (next : Int) : Prop where
  intact : store.Intact
  counter : ∃ settings, store.settings = some settings ∧ settings.nextSequence = next
  below : ∀ invoice ∈ store.invoices, ∀ number, invoice.number = some number →
    NumberBelow next number

theorem NumberBelow.mono {next later : Int} {number : String} (below : NumberBelow next number)
    (le : next ≤ later) : NumberBelow later number := by
  obtain ⟨lead, period, sequence, same, positive, less⟩ := below
  exact ⟨lead, period, sequence, same, positive, by omega⟩

theorem CountsTo.positive {store : Store} {next : Int} (counts : store.CountsTo next) :
    1 ≤ next := by
  obtain ⟨settings, there, rfl⟩ := counts.counter
  exact (admitSettings_eq_ok_iff.mp (counts.intact.settings settings there)).2.1

/-- An invoice that is past being a draft has the key. -/
def Past (store : Store) (id : Int) : Prop :=
  ∃ invoice ∈ store.invoices, invoice.id = id ∧ invoice.status ≠ .draft

/-- Invoices that are past being drafts stay so, with their numbers. -/
def KeepsNumbers (first second : Store) : Prop :=
  ∀ invoice ∈ first.invoices, invoice.status ≠ .draft →
    ∃ later ∈ second.invoices, later.id = invoice.id ∧ later.status ≠ .draft ∧
      later.number = invoice.number

namespace KeepsNumbers

variable {first second third : Store}

theorem refl (store : Store) : store.KeepsNumbers store :=
  fun invoice mem past => ⟨invoice, mem, rfl, past, rfl⟩

theorem trans (one : first.KeepsNumbers second) (other : second.KeepsNumbers third) :
    first.KeepsNumbers third := by
  intro invoice mem past
  obtain ⟨between, memBetween, key, pastBetween, number⟩ := one invoice mem past
  obtain ⟨later, memLater, keyLater, pastLater, numberLater⟩ :=
    other between memBetween pastBetween
  exact ⟨later, memLater, keyLater.trans key, pastLater, numberLater.trans number⟩

theorem past (keeps : first.KeepsNumbers second) {id : Int} (past : first.Past id) :
    second.Past id := by
  obtain ⟨invoice, mem, rfl, status⟩ := past
  obtain ⟨later, memLater, key, statusLater, -⟩ := keeps invoice mem status
  exact ⟨later, memLater, key, statusLater⟩

end KeepsNumbers
end Store

/-! ## Where invoices have their numbers from -/

/-- Where an invoice comes from if some have been issued since: it was there, has kept its number
and has not come to be owed; it was made without a number and is not owed; or it was issued. -/
inductive Origin (before : List Invoice) (ids : List Int) (invoice : Invoice) : Prop
  | kept {old : Invoice} (mem : old ∈ before) (key : old.id = invoice.id)
      (number : invoice.number = old.number)
      (owed : invoice.status.payable = true → old.status.payable = true)
  | made (unowed : invoice.status.payable = false) (unnumbered : invoice.number = none)
  | issued (mem : invoice.id ∈ ids)

/-- The invoices that a deed issues. -/
def Deed.issues : Deed → List Int
  | .issued id => [id]
  | _ => []

namespace Origin

variable {first second : Store} {ids more : List Int} {invoice : Invoice}

theorem same {before : List Invoice} (mem : invoice ∈ before) : Origin before ids invoice :=
  .kept mem rfl rfl id

/-- An origin is found through a store in between. -/
theorem trans (last : Origin second.invoices more invoice)
    (each : ∀ old ∈ second.invoices, Origin first.invoices ids old) :
    Origin first.invoices (ids ++ more) invoice := by
  cases last with
  | kept mem key number owed =>
      cases each _ mem with
      | kept memFirst keyFirst numberFirst owedFirst =>
          exact .kept memFirst (keyFirst.trans key) (number.trans numberFirst)
            fun after => owedFirst (owed after)
      | made unowed unnumbered =>
          refine .made (Bool.eq_false_iff.mpr fun after => ?_) (number.trans unnumbered)
          exact absurd (owed after) (by simp [unowed])
      | issued memIds => exact .issued (List.mem_append_left _ (key ▸ memIds))
  | made unowed unnumbered => exact .made unowed unnumbered
  | issued mem => exact .issued (List.mem_append_right _ mem)

/-- What is owed was past being a draft before, or was issued. -/
theorem past_or_mem (origin : Origin first.invoices ids invoice)
    (owed : invoice.status.payable = true) : first.Past invoice.id ∨ invoice.id ∈ ids := by
  cases origin with
  | kept mem key number owedBefore =>
      refine .inl ⟨_, mem, key, fun draft => ?_⟩
      have before := owedBefore owed
      rw [draft] at before
      cases before
  | made unowed unnumbered => cases unowed.symm.trans owed
  | issued mem => exact .inr mem

/-- An invoice with a number had it before, or was issued. -/
theorem number_or_mem (origin : Origin first.invoices ids invoice) {number : String}
    (own : invoice.number = some number) :
    (∃ old ∈ first.invoices, old.id = invoice.id ∧ old.number = some number) ∨
      invoice.id ∈ ids := by
  cases origin with
  | kept mem key same owed => exact .inl ⟨_, mem, key, same ▸ own⟩
  | made unowed unnumbered => cases unnumbered.symm.trans own
  | issued mem => exact .inr mem

/-- An invoice is written over with the number that it has. -/
theorem of_replace {before written : List Invoice} {old edited : Invoice}
    (ordered : Table.Ordered before) (mem : old ∈ before)
    (replaced : Table.replace before edited = .ok written) (key : edited.id = old.id)
    (number : edited.number = old.number)
    (owed : edited.status.payable = true → old.status.payable = true)
    (memWritten : invoice ∈ written) : Origin before ids invoice := by
  rcases eq_or_mem_of_replace ordered mem replaced key memWritten with rfl | there
  · exact .kept mem key.symm number owed
  · exact .same there

end Origin

variable {now : Moment} {before after : Store} {invoice : Invoice} {deed : Deed} {next : Int}

theorem Settles.origin {other : Invoice} {ids : List Int}
    (settles : Settles now before invoice after)
    (ordered : Table.Ordered before.invoices) (mem : invoice ∈ before.invoices)
    (memOther : other ∈ after.invoices) : Origin before.invoices ids other := by
  cases settles with
  | notOwed => exact .same memOther
  | stillPaid => exact .same memOther
  | stillIssued => exact .same memOther
  | becamePaid status sum covered written =>
      exact .of_replace ordered mem written rfl rfl (fun _ => status ▸ rfl) memOther
  | reopened status sum uncovered written =>
      exact .of_replace ordered mem written rfl rfl (fun _ => status ▸ rfl) memOther

/-- Every invoice after a transaction was there, is newly drafted, or is
the one that was issued. -/
theorem Transaction.origin (step : Transaction now before deed after)
    (ordered : Table.Ordered before.invoices) (mem : invoice ∈ after.invoices) :
    Origin before.invoices deed.issues invoice := by
  cases step with
  | settingsMade => exact .same mem
  | overrideAdded => exact .same mem
  | drafted vacant written =>
      obtain ⟨rfl, keeps, -, -⟩ := Table.insert_eq_ok written
      obtain ⟨total, -, rfl⟩ := Store.keep_invoice_eq_ok keeps
      rcases List.mem_append.mp mem with old | new
      · exact .same old
      · cases List.mem_singleton.mp new
        exact .made rfl rfl
  | redrafted memDraft draft total attached written =>
      exact .of_replace ordered memDraft written rfl rfl id mem
  | draftDeleted => exact .same (Table.mem_erase_iff.mp mem).1
  | issued found draft counter admitted written =>
      have key := Table.key_of_find? found
      rcases eq_or_mem_of_replace ordered (Table.mem_of_find? found) written rfl
        mem with rfl | old
      · exact .issued (List.mem_singleton.mpr key)
      · exact .same old
  | cashRecorded => exact .same mem
  | paymentRecorded found payable linked owner written settles =>
      exact settles.origin ordered (Table.mem_of_find? found) mem
  | looseDeleted => exact .same mem
  | paymentDeleted found linked settles =>
      obtain ⟨_, -, there⟩ := Option.bind_eq_some_iff.mp linked
      exact settles.origin ordered (Table.mem_of_find? there) mem

/-- The settings that there are stay, unless an invoice is issued and they count on. -/
theorem Transaction.settings_eq {settings : Settings} (step : Transaction now before deed after)
    (there : before.settings = some settings) :
    (deed.issues = [] ∧ after.settings = some settings) ∨
      (∃ id, deed = .issued id) ∧ after.settings = some settings.advanced ∧
        Store.admitSettings settings.advanced = .ok settings.advanced := by
  cases step with
  | settingsMade missing => simp [missing] at there
  | overrideAdded => exact .inl ⟨rfl, there⟩
  | drafted => exact .inl ⟨rfl, there⟩
  | redrafted => exact .inl ⟨rfl, there⟩
  | draftDeleted => exact .inl ⟨rfl, there⟩
  | issued found draft counter admitted written =>
      cases there.symm.trans counter
      exact .inr ⟨⟨_, rfl⟩, rfl, admitted⟩
  | cashRecorded => exact .inl ⟨rfl, there⟩
  | paymentRecorded found payable linked owner written settles =>
      rw [settles.only_invoices]
      exact .inl ⟨rfl, there⟩
  | looseDeleted => exact .inl ⟨rfl, there⟩
  | paymentDeleted found linked settles =>
      rw [settles.only_invoices]
      exact .inl ⟨rfl, there⟩

/-! ## Numbers that are given out -/

/-- Issuing an invoice numbers a draft. -/
theorem Transaction.exists_draft {id : Int} {settings : Settings}
    (step : Transaction now before (.issued id) after) (ordered : Table.Ordered before.invoices)
    (counter : before.settings = some settings) :
    ∃ draft ∈ before.invoices, draft.id = id ∧ draft.status = .draft ∧
      draft.numberedBy settings now ∈ after.invoices := by
  cases step with
  | issued found draft there admitted written =>
      cases there.symm.trans counter
      have mem := Table.mem_of_find? found
      refine ⟨_, mem, Table.key_of_find? found, draft, ?_⟩
      rcases mem_or_eq_of_replace ordered mem written rfl mem with ⟨-, numbered⟩ | ⟨different, -⟩
      · exact numbered
      · exact absurd rfl different

/-- A transaction counts on by the number of invoices that it issues. -/
theorem Transaction.countsTo (step : Transaction now before deed after)
    (counts : before.CountsTo next) : after.CountsTo (next + deed.issues.length) := by
  obtain ⟨settings, there, rfl⟩ := counts.counter
  have ordered := counts.intact.invoices.ordered
  have kept := step.wellKept counts.intact.invoices
  rcases step.settings_eq there with ⟨none, same⟩ | ⟨⟨id, rfl⟩, advanced, admitted⟩
  · have stays : settings.nextSequence + (deed.issues.length : Int) = settings.nextSequence := by
      simp [none]
    rw [stays]
    refine ⟨⟨kept, same ▸ there ▸ counts.intact.settings⟩, ⟨settings, same, rfl⟩, ?_⟩
    intro row mem number own
    rcases (step.origin ordered mem).number_or_mem own with ⟨old, memOld, -, sameNumber⟩ | new
    · exact counts.below old memOld number sameNumber
    · simp [none] at new
  · refine ⟨⟨kept, ?_⟩, ⟨settings.advanced, advanced, rfl⟩, ?_⟩
    · rw [advanced]
      rintro _ ⟨rfl⟩
      exact admitted
    · have one : settings.nextSequence + ((Deed.issued id).issues.length : Int) =
          settings.nextSequence + 1 := rfl
      rw [one]
      intro row mem number own
      rcases (step.origin ordered mem).number_or_mem own with ⟨old, memOld, -, sameNumber⟩ | new
      · exact (counts.below old memOld number sameNumber).mono (by omega)
      · obtain ⟨draft, -, key, -, memDraft⟩ := step.exists_draft ordered there
        have sameKey : row.id = (draft.numberedBy settings now).id :=
          (List.mem_singleton.mp new).trans key.symm
        cases kept.ordered.eq_of_key_eq mem memDraft sameKey
        cases own
        exact ⟨_, _, _, rfl, counts.positive, by omega⟩

/-- An invoice that is switched is past being a draft, and has its number. -/
theorem Switches.keepsNumber {later : Invoice} (switches : Switches now invoice later) :
    later.id = invoice.id ∧ later.status ≠ .draft ∧ later.number = invoice.number := by
  cases switches with
  | toPaid => exact ⟨rfl, nofun, rfl⟩
  | toIssued => exact ⟨rfl, nofun, rfl⟩

theorem Transaction.keepsNumbers (step : Transaction now before deed after)
    (ordered : Table.Ordered before.invoices) : before.KeepsNumbers after := by
  intro invoice mem past
  cases step.fate ordered mem with
  | same memLater lines => exact ⟨invoice, memLater, rfl, past, rfl⟩
  | rebuilt draft => exact absurd draft past
  | issued draft => exact absurd draft past
  | deleted draft => exact absurd draft past
  | switched switches own memLater lines => exact ⟨_, memLater, switches.keepsNumber⟩

/-- Issuing an invoice leaves all that are past being drafts. -/
theorem Transaction.mem_of_past {id : Int} (step : Transaction now before (.issued id) after)
    (ordered : Table.Ordered before.invoices) (mem : invoice ∈ before.invoices)
    (past : invoice.status ≠ .draft) : invoice ∈ after.invoices := by
  cases step.fate ordered mem with
  | same memAfter lines => exact memAfter
  | rebuilt draft => exact absurd draft past
  | issued draft => exact absurd draft past
  | deleted draft => exact absurd draft past
  | switched switches own => cases own

theorem History.mem_of_past {ids : List Int}
    (history : History now before (ids.map .issued) after)
    (ordered : Table.Ordered before.invoices) (mem : invoice ∈ before.invoices)
    (past : invoice.status ≠ .draft) : invoice ∈ after.invoices := by
  induction ids generalizing before with
  | nil => exact history.eq_of_nil ▸ mem
  | cons id ids ih =>
      cases history with
      | cons step rest =>
          exact ih rest (step.ordered ordered) (step.mem_of_past ordered mem past)

/-- Invoices with consecutive sequences in their numbers, from the given one on. -/
def Consecutive : Int → List Invoice → Prop
  | _, [] => True
  | next, invoice :: invoices =>
    (∃ lead, invoice.number = some (invoiceNumber lead invoice.period next)) ∧
      Consecutive (next + 1) invoices

theorem consecutive_append {first second : List Invoice} :
    Consecutive next (first ++ second) ↔
      Consecutive next first ∧ Consecutive (next + first.length) second := by
  induction first generalizing next with
  | nil => simp [Consecutive]
  | cons invoice invoices ih =>
      have length :
          next + 1 + (invoices.length : Int) = next + ((invoice :: invoices).length : Int) := by
        rw [List.length_cons]
        omega
      simp only [List.cons_append, Consecutive, ih, length, and_assoc]

/-- Between two stores the invoices with the given keys, and no others, came to be issued, with
consecutive numbers from the next one on. -/
structure Numbers (before after : Store) (next : Int) (ids : List Int) : Prop where
  counts : after.CountsTo (next + ids.length)
  keeps : before.KeepsNumbers after
  origin : ∀ invoice ∈ after.invoices, Origin before.invoices ids invoice
  drafts : ∀ id ∈ ids, ¬before.Past id
  issued : ∃ issued : List Invoice, issued.map Invoice.id = ids ∧ Consecutive next issued ∧
    ∀ invoice ∈ issued, invoice ∈ after.invoices ∧ invoice.status = .issued

/-- Where the count stays and no invoice comes to be issued, no number is given out. -/
theorem numbers_of_unissued (counts : after.CountsTo next) (keeps : before.KeepsNumbers after)
    (origin : ∀ invoice ∈ after.invoices, Origin before.invoices [] invoice) :
    Numbers before after next [] where
  counts := by simpa using counts
  keeps := keeps
  origin := origin
  drafts _ mem := by cases mem
  issued := ⟨[], rfl, trivial, fun _ mem => by cases mem⟩

theorem numbers_nil (counts : before.CountsTo next) : Numbers before before next [] :=
  numbers_of_unissued counts (.refl before) fun _ mem => .same mem

/-- A transaction gives the next number to what it issues. -/
theorem Transaction.numbers (step : Transaction now before deed after)
    (counts : before.CountsTo next) : Numbers before after next deed.issues := by
  obtain ⟨settings, there, rfl⟩ := counts.counter
  have ordered := counts.intact.invoices.ordered
  have countsAfter := step.countsTo counts
  have keeps := step.keepsNumbers ordered
  have origin (invoice : Invoice) (mem : invoice ∈ after.invoices) :=
    step.origin ordered mem
  rcases step.settings_eq there with ⟨none, -⟩ | ⟨⟨id, rfl⟩, -⟩
  · simp only [none, List.length_nil, Int.natCast_zero, Int.add_zero] at countsAfter origin ⊢
    exact numbers_of_unissued countsAfter keeps origin
  · obtain ⟨draft, mem, rfl, status, memAfter⟩ := step.exists_draft ordered there
    refine ⟨countsAfter, keeps, origin, ?_, [draft.numberedBy settings now], rfl,
      ⟨⟨_, rfl⟩, trivial⟩, ?_⟩
    · rintro _ only ⟨row, memRow, key, past⟩
      have sameKey : row.id = draft.id := key.trans (List.mem_singleton.mp only)
      cases ordered.eq_of_key_eq memRow mem sameKey
      exact past status
    · intro row only
      cases List.mem_singleton.mp only
      exact ⟨memAfter, rfl⟩

/-- Numbers are given out one after another, while what was issued stays as it is. -/
theorem Numbers.trans {between : Store} {ids more : List Int}
    (first : Numbers before between next ids)
    (second : Numbers between after (next + ids.length) more)
    (stay : ∀ invoice ∈ between.invoices, invoice.id ∈ ids → invoice.status = .issued →
      invoice ∈ after.invoices) :
    Numbers before after next (ids ++ more) where
  counts := by
    have counts := second.counts
    rwa [Int.add_assoc, ← Int.natCast_add, ← List.length_append] at counts
  keeps := first.keeps.trans second.keeps
  origin invoice mem := (second.origin invoice mem).trans first.origin
  drafts id mem := by
    rcases List.mem_append.mp mem with old | new
    · exact first.drafts id old
    · exact fun past => second.drafts id new (first.keeps.past past)
  issued := by
    obtain ⟨one, idsOne, consecutive, allOne⟩ := first.issued
    obtain ⟨other, idsOther, consecutiveOther, allOther⟩ := second.issued
    refine ⟨one ++ other, by rw [List.map_append, idsOne, idsOther], ?_, ?_⟩
    · have length : ids.length = one.length := by rw [← idsOne, List.length_map]
      exact consecutive_append.mpr ⟨consecutive, length ▸ consecutiveOther⟩
    · intro invoice mem
      rcases List.mem_append.mp mem with old | new
      · obtain ⟨memBetween, status⟩ := allOne invoice old
        exact ⟨stay invoice memBetween (idsOne ▸ List.mem_map_of_mem old) status, status⟩
      · exact allOther invoice new

/-- Deeds of which none issues an invoice give out no number. -/
theorem History.numbers_of_unissued {deeds : List Deed} (history : History now before deeds after)
    (unissued : ∀ deed ∈ deeds, deed.issues = []) (counts : before.CountsTo next) :
    Numbers before after next [] := by
  induction history with
  | nil => exact numbers_nil counts
  | cons step _ ih =>
      have first := step.numbers counts
      rw [unissued _ List.mem_cons_self] at first
      have others (deed : Deed) (mem : deed ∈ _) := unissued deed (List.mem_cons_of_mem _ mem)
      have rest := ih others (by simpa using first.counts)
      exact first.trans (by simpa using rest) fun _ _ mem => by cases mem

/-- Issuing invoices one after another gives them consecutive numbers. -/
theorem History.numbers {ids : List Int} (history : History now before (ids.map .issued) after)
    (counts : before.CountsTo next) : Numbers before after next ids := by
  induction ids generalizing before next with
  | nil =>
      cases history
      exact numbers_nil counts
  | cons id ids ih =>
      cases history with
      | cons step rest =>
          have first := step.numbers counts
          refine first.trans (ih rest first.counts) fun invoice mem _ status => ?_
          exact rest.mem_of_past first.counts.intact.invoices.ordered mem (by simp [status])

/-! ## What a use case issues -/

/-- The invoices that went from draft to issued between two stores, in the order of their keys,
whether or not the first had the draft already. -/
def Store.newlyIssued (before after : Store) : List Invoice :=
  after.invoices.filter fun invoice => invoice.status == .issued &&
    !before.invoices.any fun old => old.id == invoice.id && old.status != .draft

theorem Store.mem_newlyIssued_iff :
    invoice ∈ before.newlyIssued after ↔
      invoice ∈ after.invoices ∧ invoice.status = .issued ∧ ¬before.Past invoice.id := by
  simp [newlyIssued, Past]

/-- What is newly issued is what was given numbers, in the same order. -/
theorem Numbers.newlyIssued {ids : List Int} (numbers : Numbers before after next ids)
    (ascending : ids.Pairwise (· < ·)) :
    (before.newlyIssued after).map Invoice.id = ids ∧
      Consecutive next (before.newlyIssued after) := by
  have ordered := numbers.counts.intact.invoices.ordered
  obtain ⟨issued, keys, consecutive, all⟩ := numbers.issued
  have ascendingNew : ((before.newlyIssued after).map Invoice.id).Pairwise (· < ·) :=
    List.pairwise_map.mpr (ordered.filter _)
  have same : (before.newlyIssued after).map Invoice.id = ids := by
    refine ascendingNew.eq_of_mem_iff ascending fun id => ?_
    constructor
    · intro mem
      obtain ⟨invoice, memNew, rfl⟩ := List.mem_map.mp mem
      obtain ⟨memAfter, status, new⟩ := Store.mem_newlyIssued_iff.mp memNew
      exact ((numbers.origin invoice memAfter).past_or_mem (status ▸ rfl)).resolve_left new
    · intro mem
      have there := mem
      rw [← keys] at there
      obtain ⟨invoice, memIssued, rfl⟩ := List.mem_map.mp there
      obtain ⟨memAfter, status⟩ := all invoice memIssued
      exact List.mem_map_of_mem
        (Store.mem_newlyIssued_iff.mpr ⟨memAfter, status, numbers.drafts _ mem⟩)
  have rows : before.newlyIssued after = issued := by
    refine ordered.eq_of_map_key_eq ?_ (fun invoice mem => (all invoice mem).1)
      (same.trans keys.symm)
    exact fun invoice mem => (Store.mem_newlyIssued_iff.mp mem).1
  exact ⟨same, rows ▸ consecutive⟩

namespace UseCase

variable {world : World}

/-- No use case issues anything before its preparations are done. -/
theorem unissued_of_mem_preparations (useCase : UseCase) {deed : Deed}
    (mem : deed ∈ useCase.preparations world) : deed.issues = [] := by
  have drafted {period : Period} (listed : deed ∈ world.store.students.map fun student =>
      Deed.drafted student.id period) : deed.issues = [] := by
    obtain ⟨student, -, rfl⟩ := List.mem_map.mp listed
    rfl
  have only {one : Deed} (none : one.issues = []) (listed : deed ∈ [one]) : deed.issues = [] :=
    List.mem_singleton.mp listed ▸ none
  cases useCase with
  | generateDrafts billAll period => exact drafted mem
  | issueInvoice id => cases mem
  | issueAndRender base id => cases mem
  | issueAll base period => cases mem
  | renderInvoice base id => cases mem
  | deleteDraft id => exact only rfl mem
  | recordPayment command => exact only rfl mem
  | quickCash studentId amount note => exact only rfl mem
  | deletePayment id => exact only rfl mem
  | addOverride command => exact only rfl mem
  | runWorker worker year month =>
      rcases List.mem_append.mp mem with draft | made
      · exact drafted draft
      · exact only rfl made

/-- Invoices are issued in the order of their keys, and each once. -/
theorem toIssue_ascending (useCase : UseCase) (now : Moment) {prepared : Store}
    (ordered : Table.Ordered prepared.invoices) :
    (useCase.toIssue now prepared).Pairwise (· < ·) := by
  cases useCase with
  | issueInvoice id => exact List.pairwise_singleton _ _
  | issueAndRender base id => exact List.pairwise_singleton _ _
  | issueAll base period => exact Billing.draftIds_ascending ordered period
  | runWorker worker year month => exact Billing.draftIds_ascending ordered _
  | _ => exact .nil

/-- Whatever strikes a use case, it gives out consecutive numbers in the order of the keys. -/
theorem numbers (useCase : UseCase) (counts : world.store.CountsTo next) :
    ∃ ids, Numbers world.store (useCase.storeAfter world) next ids ∧ ids.Pairwise (· < ·) := by
  obtain ⟨prepared, ⟨done, sublist, moves⟩, issued, sublistIssued, issues⟩ :=
    takes_perform useCase world
  obtain ⟨ids, sublistIds, rfl⟩ := List.sublist_map_iff.mp sublistIssued
  have first : Numbers world.store prepared.store next [] :=
    moves.history.numbers_of_unissued
      (fun deed mem => useCase.unissued_of_mem_preparations (sublist.subset mem)) counts
  have second : Numbers prepared.store (useCase.storeAfter world)
      (next + ([] : List Int).length) ids :=
    issues.history.numbers first.counts
  refine ⟨ids, first.trans second (fun _ _ mem => by cases mem), ?_⟩
  exact (useCase.toIssue_ascending _ first.counts.intact.invoices.ordered).sublist sublistIds

end UseCase
end Tuition
