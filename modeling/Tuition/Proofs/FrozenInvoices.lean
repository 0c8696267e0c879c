/-
# Issued invoices are frozen

Once an invoice is past being a draft, no use case changes what it says: its owner, period, total,
number, moment of issue and lines stay, and a canceled invoice stays altogether. A payment that is
on it may switch it between issued and paid. A draft is changed by billing its own student for its
own period, by issuing it, and by deleting it, and by nothing else.

What becomes of an invoice during a use case is followed from transaction to transaction by
`Develops`; a use case that is a single transaction is read off that transaction.
-/

import Tuition.Proofs.Fates
import Tuition.Proofs.UseCases

namespace Tuition

namespace UseCase

/-- A use case drafts: it bills the student of an invoice for the period of the invoice. -/
def Drafts (world : World) (invoice : Invoice) : UseCase → Prop
  | .generateDrafts _ period =>
    period = invoice.period ∧ ∃ student ∈ world.store.students, student.id = invoice.studentId
  | .runWorker _ year month =>
    workerPeriod world.now year month = invoice.period ∧
      ∃ student ∈ world.store.students, student.id = invoice.studentId
  | _ => False

/-- A use case is to issue an invoice, itself or together with all drafts of its period. -/
def Issues (now : Moment) (invoice : Invoice) : UseCase → Prop
  | .issueInvoice id => id = invoice.id
  | .issueAndRender _ id => id = invoice.id
  | .issueAll _ period => period = invoice.period
  | .runWorker _ year month => workerPeriod now year month = invoice.period
  | _ => False

/-- A use case records or deletes a payment that is on an invoice. -/
def PaysOn (store : Store) (invoice : Invoice) : UseCase → Prop
  | .recordPayment command => command.invoiceId = some invoice.id
  | .deletePayment id =>
    ∃ payment ∈ store.payments, payment.id = id ∧ payment.invoiceId = some invoice.id
  | _ => False

end UseCase

/-- An invoice as it was issued at a moment under some number. -/
def Invoice.IssuedAs (invoice : Invoice) (now : Moment) (later : Invoice) : Prop :=
  ∃ number, later =
    { invoice with number := some number, status := .issued, issuedAt := some now }

/-- How an invoice develops while a use case goes on: its lines and total are the same unless the
use case drafts, and it has not been issued unless the use case is to issue it. -/
inductive Develops (useCase : UseCase) (world : World) (invoice : Invoice) (store : Store) : Prop
  | intro {total : Decimal} {later : Invoice}
      (content : total = invoice.total ∧
        store.linesOf invoice.id = world.store.linesOf invoice.id ∨
        invoice.status = .draft ∧ useCase.Drafts world invoice)
      (state : later = { invoice with total } ∨
        invoice.status = .draft ∧ useCase.Issues world.now invoice ∧
          Invoice.IssuedAs { invoice with total } world.now later)
      (mem : later ∈ store.invoices)

/-- The deeds that a use case may do while it goes on, as far as they touch an invoice. -/
def UseCase.Allows (useCase : UseCase) (world : World) (invoice : Invoice) : Deed → Prop
  | .settingsMade => True
  | .overrideAdded => True
  | .paymentRecorded none => True
  | .drafted studentId period =>
    studentId = invoice.studentId → period = invoice.period → useCase.Drafts world invoice
  | .issued id => id = invoice.id → useCase.Issues world.now invoice
  | _ => False

namespace Develops

variable {useCase : UseCase} {world : World} {invoice : Invoice} {first second : Store}
  {deed : Deed} {deeds : List Deed}

theorem begins (mem : invoice ∈ world.store.invoices) :
    Develops useCase world invoice world.store :=
  .intro (.inl ⟨rfl, rfl⟩) (.inl rfl) mem

/-- The row of an invoice keeps its key, owner and period. -/
theorem exists_row (develops : Develops useCase world invoice first) :
    ∃ row ∈ first.invoices, row.id = invoice.id ∧ row.studentId = invoice.studentId ∧
      row.period = invoice.period := by
  obtain ⟨content, rfl | ⟨-, -, number, rfl⟩, mem⟩ := develops
  · exact ⟨_, mem, rfl, rfl, rfl⟩
  · exact ⟨_, mem, rfl, rfl, rfl⟩

/-- A transaction that the use case allows develops an invoice further. -/
theorem step (develops : Develops useCase world invoice first)
    (step : Transaction world.now first deed second) (ordered : Table.Ordered first.invoices)
    (allowed : useCase.Allows world invoice deed) : Develops useCase world invoice second := by
  obtain ⟨content, state, mem⟩ := develops
  rename_i total later
  have key : later.id = invoice.id := by
    rcases state with rfl | ⟨-, -, number, rfl⟩ <;> rfl
  have sameContent (lines : second.linesOf later.id = first.linesOf later.id) :
      total = invoice.total ∧ second.linesOf invoice.id = world.store.linesOf invoice.id ∨
        invoice.status = .draft ∧ useCase.Drafts world invoice := by
    rw [key] at lines
    rwa [lines]
  -- A row that is still a draft has not been issued yet.
  have stillDraft (draft : later.status = .draft) : later = { invoice with total } := by
    rcases state with same | ⟨-, -, number, rfl⟩
    · exact same
    · cases draft
  cases step.fate ordered mem with
  | same memLater lines => exact .intro (sameContent lines) state memLater
  | rebuilt draft own memLater =>
      obtain rfl := stillDraft draft
      subst own
      exact .intro (.inr ⟨draft, allowed rfl rfl⟩) (.inl rfl) memLater
  | issued draft own counter memLater lines =>
      obtain rfl := stillDraft draft
      subst own
      exact .intro (sameContent lines) (.inr ⟨draft, allowed rfl, _, rfl⟩) memLater
  | deleted draft own gone lines =>
      subst own
      exact allowed.elim
  | switched switches own memLater lines =>
      cases own with
      | recorded => exact allowed.elim
      | deleted memPayment linked => exact allowed.elim

theorem history (develops : Develops useCase world invoice first)
    (history : History world.now first deeds second) (ordered : Table.Ordered first.invoices)
    (allowed : ∀ deed ∈ deeds, useCase.Allows world invoice deed) :
    Develops useCase world invoice second ∧ Table.Ordered second.invoices := by
  induction history with
  | nil => exact ⟨develops, ordered⟩
  | cons step rest ih =>
      have first := develops.step step ordered (allowed _ List.mem_cons_self)
      exact ih first (step.ordered ordered) fun deed mem =>
        allowed deed (List.mem_cons_of_mem _ mem)

end Develops

namespace UseCase

variable {useCase : UseCase} {world : World} {invoice : Invoice}

/-- Drafting counts for an invoice only where it is billed to its student for its period. -/
theorem drafts_of_mem_preparations
    (mem : Deed.drafted invoice.studentId invoice.period ∈ useCase.preparations world) :
    useCase.Drafts world invoice := by
  cases useCase with
  | generateDrafts billAll period =>
      obtain ⟨student, memStudent, same⟩ := List.mem_map.mp mem
      injection same with owner period
      exact ⟨period, student, memStudent, owner⟩
  | runWorker worker year month =>
      rcases List.mem_append.mp mem with drafted | made
      · obtain ⟨student, memStudent, same⟩ := List.mem_map.mp drafted
        injection same with owner period
        exact ⟨period, student, memStudent, owner⟩
      · simp at made
  | _ => simp [preparations] at mem

/-- Issuing counts for an invoice only where the use case is to issue it. -/
theorem issues_of_mem_toIssue {prepared : Store} {row : Invoice}
    (ordered : Table.Ordered prepared.invoices) (memRow : row ∈ prepared.invoices)
    (key : row.id = invoice.id) (period : row.period = invoice.period)
    (mem : invoice.id ∈ useCase.toIssue world.now prepared) :
    useCase.Issues world.now invoice := by
  have drafted {month : Period} (mem : invoice.id ∈ Billing.draftIds prepared month) :
      month = invoice.period := by
    obtain ⟨other, memOther, same, rfl, -⟩ := Billing.mem_draftIds_iff.mp mem
    rw [← period, ordered.eq_of_key_eq memOther memRow (same.trans key.symm)]
  cases useCase with
  | issueInvoice id => exact (List.mem_singleton.mp mem).symm
  | issueAndRender base id => exact (List.mem_singleton.mp mem).symm
  | issueAll base period => exact drafted mem
  | runWorker worker year month => exact drafted mem
  | generateDrafts billAll period => cases mem
  | renderInvoice base id => cases mem
  | deleteDraft id => cases mem
  | recordPayment command => cases mem
  | quickCash studentId amount note => cases mem
  | deletePayment id => cases mem
  | addOverride command => cases mem

/-- The use cases that are no single transaction on one draft or payment. -/
def isCompound : UseCase → Bool
  | .deleteDraft _ => false
  | .recordPayment _ => false
  | .deletePayment _ => false
  | _ => true

theorem allows_of_mem_preparations (compound : useCase.isCompound) {deed : Deed}
    (mem : deed ∈ useCase.preparations world) : useCase.Allows world invoice deed := by
  cases deed with
  | settingsMade => trivial
  | overrideAdded => trivial
  | drafted studentId period =>
      rintro rfl rfl
      exact drafts_of_mem_preparations mem
  | paymentRecorded link => cases useCase <;> simp_all [preparations, isCompound, Allows]
  | draftDeleted id => cases useCase <;> simp_all [preparations, isCompound]
  | paymentDeleted id => cases useCase <;> simp_all [preparations, isCompound]
  | issued id => cases useCase <;> simp_all [preparations]

/-- A compound use case develops an invoice from its beginning to its end. -/
theorem develops_of_compound (compound : useCase.isCompound)
    (ordered : Table.Ordered world.store.invoices) (mem : invoice ∈ world.store.invoices) :
    Develops useCase world invoice (useCase.storeAfter world) := by
  obtain ⟨prepared, ⟨done, sublist, moves⟩, ⟨_, sublistIssued, issues⟩⟩ :=
    takes_perform useCase world
  have between := (Develops.begins mem).history moves.history ordered fun deed memDone =>
    allows_of_mem_preparations compound (sublist.subset memDone)
  have now : prepared.now = world.now := moves.now
  have second := issues.history
  rw [now] at second
  refine (between.1.history second between.2 ?_).1
  intro deed memDone
  obtain ⟨id, memId, rfl⟩ := List.mem_map.mp (sublistIssued.subset memDone)
  rintro rfl
  obtain ⟨row, memRow, key, -, period⟩ := between.1.exists_row
  exact issues_of_mem_toIssue between.2 memRow key period memId

/-- A use case that is to issue nothing and may do one deed does it or nothing. -/
theorem transaction_of_preparations (useCase : UseCase) (world : World) {deed : Deed}
    (only : useCase.preparations world = [deed])
    (nothing : ∀ prepared, useCase.toIssue world.now prepared = []) :
    (useCase.storeAfter world) = world.store ∨
      Transaction world.now world.store deed (useCase.storeAfter world) := by
  obtain ⟨prepared, ⟨done, sublist, moves⟩, ⟨_, sublistIssued, issues⟩⟩ :=
    takes_perform useCase world
  have now : world.begin.now = world.now := rfl
  rw [now, nothing, List.map_nil, List.sublist_nil] at sublistIssued
  subst sublistIssued
  rw [storeAfter, issues.store_eq]
  have same : useCase.preparations world.begin = [deed] := only
  rw [same] at sublist
  rcases List.sublist_singleton.mp sublist with rfl | rfl
  · exact .inl moves.store_eq
  · right
    cases moves.history with
    | cons step rest =>
        cases rest.eq_of_nil
        exact step

/-! ## All use cases -/

/-- What becomes of an invoice in a use case: it develops, or it is deleted as a draft, or it is
switched by a payment that is on it. -/
inductive Outcome (useCase : UseCase) (world : World) (invoice : Invoice) (after : Store) : Prop
  | developed (develops : Develops useCase world invoice after)
  | deleted (own : useCase = .deleteDraft invoice.id) (draft : invoice.status = .draft)
      (gone : ∀ other ∈ after.invoices, other.id ≠ invoice.id)
      (lines : after.linesOf invoice.id = [])
  | switched {later : Invoice} (own : useCase.PaysOn world.store invoice)
      (switches : Switches world.now invoice later) (mem : later ∈ after.invoices)
      (lines : after.linesOf invoice.id = world.store.linesOf invoice.id)

/-- The outcome of a use case that does one deed on a draft or a payment is the fate in its
transaction. -/
theorem outcome_of_fate {deed : Deed} {after : Store}
    (fate : Fate world.now world.store deed invoice after)
    (drafts : deed ≠ .drafted invoice.studentId invoice.period)
    (issues : deed ≠ .issued invoice.id)
    (deletes : deed = .draftDeleted invoice.id → useCase = .deleteDraft invoice.id)
    (pays : deed.PaysOn world.store invoice.id → useCase.PaysOn world.store invoice) :
    Outcome useCase world invoice after := by
  cases fate with
  | same mem lines => exact .developed (.intro (.inl ⟨rfl, lines⟩) (.inl rfl) mem)
  | rebuilt draft own mem => exact absurd own drafts
  | issued draft own counter mem lines => exact absurd own issues
  | deleted draft own gone lines => exact .deleted (deletes own) draft gone lines
  | switched switches own mem lines => exact .switched (pays own) switches mem lines

theorem outcome (useCase : UseCase) (ordered : Table.Ordered world.store.invoices)
    (mem : invoice ∈ world.store.invoices) :
    Outcome useCase world invoice (useCase.storeAfter world) := by
  have unchanged (same : (useCase.storeAfter world) = world.store) :
      Outcome useCase world invoice (useCase.storeAfter world) :=
    same ▸ .developed (.begins mem)
  by_cases compound : useCase.isCompound
  · exact .developed (develops_of_compound compound ordered mem)
  cases useCase with
  | deleteDraft id =>
      rcases transaction_of_preparations (.deleteDraft id) world rfl fun _ => rfl with same | step
      · exact unchanged same
      · refine outcome_of_fate (step.fate ordered mem) (by simp) (by simp) ?_ nofun
        rintro ⟨rfl⟩
        rfl
  | recordPayment command =>
      rcases transaction_of_preparations (.recordPayment command) world rfl fun _ => rfl with
        same | step
      · exact unchanged same
      · refine outcome_of_fate (step.fate ordered mem) (by simp) (by simp) nofun ?_
        generalize link : command.invoiceId = recorded
        rintro ⟨⟩
        exact link
  | deletePayment id =>
      rcases transaction_of_preparations (.deletePayment id) world rfl fun _ => rfl with
        same | step
      · exact unchanged same
      · refine outcome_of_fate (step.fate ordered mem) (by simp) (by simp) nofun ?_
        rintro ⟨⟩
        exact ⟨_, ‹_›, rfl, ‹_›⟩
  | _ => exact absurd rfl compound

theorem ordered_storeAfter (useCase : UseCase) (ordered : Table.Ordered world.store.invoices) :
    Table.Ordered (useCase.storeAfter world).invoices := by
  obtain ⟨deeds, history⟩ := (takes_perform useCase world).history
  exact history.ordered ordered

end UseCase

/-- An invoice says what another one says. -/
structure Invoice.SaysTheSame (invoice later : Invoice) : Prop where
  studentId : later.studentId = invoice.studentId
  period : later.period = invoice.period
  total : later.total = invoice.total
  number : later.number = invoice.number
  issuedAt : later.issuedAt = invoice.issuedAt

theorem Switches.saysTheSame {now : Moment} {invoice later : Invoice}
    (switches : Switches now invoice later) : invoice.SaysTheSame later := by
  cases switches <;> exact ⟨rfl, rfl, rfl, rfl, rfl⟩

/-- Only an invoice that is owed is switched. -/
theorem Switches.payable {now : Moment} {invoice later : Invoice}
    (switches : Switches now invoice later) : invoice.status.payable = true := by
  cases switches with
  | toPaid status => rw [status]; rfl
  | toIssued status => rw [status]; rfl

/-- Whatever use case runs and whatever strikes it, an invoice that is past being a draft is still
there, says the same and has the same lines; it is the very same unless a payment on it switches
it, which never happens to a canceled one. A draft is still there unless the use case deletes it,
has the same total and lines unless the use case bills its student for its period, and is
otherwise the same unless the use case issues it. -/
theorem invoice_frozen (useCase : UseCase) (world : World)
    (ordered : Table.Ordered world.store.invoices) (invoice : Invoice)
    (mem : invoice ∈ world.store.invoices) :
    (invoice.status ≠ .draft →
      ∃ later, Table.find? (useCase.storeAfter world).invoices invoice.id = some later ∧
        invoice.SaysTheSame later ∧
        (useCase.storeAfter world).linesOf invoice.id = world.store.linesOf invoice.id ∧
        (invoice.status = .canceled → later = invoice) ∧
        (later = invoice ∨
          useCase.PaysOn world.store invoice ∧ Switches world.now invoice later)) ∧
    (invoice.status = .draft →
      (∃ total later, Table.find? (useCase.storeAfter world).invoices invoice.id = some later ∧
        (total = invoice.total ∧
            (useCase.storeAfter world).linesOf invoice.id = world.store.linesOf invoice.id ∨
          useCase.Drafts world invoice) ∧
        (later = { invoice with total } ∨
          useCase.Issues world.now invoice ∧
            Invoice.IssuedAs { invoice with total } world.now later)) ∨
      useCase = .deleteDraft invoice.id ∧
        Table.find? (useCase.storeAfter world).invoices invoice.id = none ∧
        (useCase.storeAfter world).linesOf invoice.id = []) := by
  have orderedAfter := useCase.ordered_storeAfter ordered
  have found {later : Invoice} (mem : later ∈ (useCase.storeAfter world).invoices)
      (key : later.id = invoice.id) :
      Table.find? (useCase.storeAfter world).invoices invoice.id = some later :=
    orderedAfter.find?_eq_some_iff.mpr ⟨mem, key⟩
  cases useCase.outcome ordered mem with
  | developed develops =>
      obtain ⟨content, state, memLater⟩ := develops
      constructor
      · intro past
        obtain ⟨rfl, lines⟩ := content.resolve_right fun drafts => past drafts.1
        obtain rfl := state.resolve_right fun issues => past issues.1
        exact ⟨_, found memLater rfl, ⟨rfl, rfl, rfl, rfl, rfl⟩, lines, fun _ => rfl, .inl rfl⟩
      · intro draft
        left
        rcases state with rfl | ⟨-, issues, number, rfl⟩
        · exact ⟨_, _, found memLater rfl, content.imp_right And.right, .inl rfl⟩
        · exact ⟨_, _, found memLater rfl, content.imp_right And.right,
            .inr ⟨issues, number, rfl⟩⟩
  | deleted own draft gone lines =>
      refine ⟨fun past => absurd draft past, fun _ => .inr ⟨own, ?_, lines⟩⟩
      exact Table.find?_eq_none_iff.mpr gone
  | switched own switches memLater lines =>
      have payable := switches.payable
      refine ⟨fun _ => ?_, fun draft => by simp [draft, InvoiceStatus.payable] at payable⟩
      refine ⟨_, found memLater switches.id_eq, switches.saysTheSame, lines, fun canceled => ?_,
        .inr ⟨own, switches⟩⟩
      simp [canceled, InvoiceStatus.payable] at payable

/-- An issued invoice of a student. -/
def Invoice.issuedSample : Invoice :=
  { Invoice.sample with
    number := some "LS-202401-001"
    status := .issued
    issuedAt := some default }

/-- An issued invoice that is paid in full becomes paid and says the same. -/
theorem invoice_frozen_when_paid :
    ∃ later,
      Table.find? ((UseCase.recordPayment .sample).storeAfter
          (World.struckAt .render { Store.withDraft with invoices := [.issuedSample] })).invoices
          1 =
        some later ∧
      Invoice.issuedSample.SaysTheSame later ∧ later.status = .paid := by
  have frozen := invoice_frozen (.recordPayment .sample)
    (World.struckAt .render { Store.withDraft with invoices := [.issuedSample] })
    (List.pairwise_singleton _ _) .issuedSample (List.mem_singleton.mpr rfl)
  obtain ⟨later, found, same, -⟩ := frozen.1 (by decide)
  have status : (Table.find? ((UseCase.recordPayment .sample).storeAfter
      (World.struckAt .render { Store.withDraft with invoices := [.issuedSample] })).invoices
        1).map Invoice.status = some .paid := rfl
  have here : Invoice.issuedSample.id = 1 := rfl
  rw [here] at found
  rw [found] at status
  exact ⟨later, found, same, Option.some.inj status⟩

end Tuition
