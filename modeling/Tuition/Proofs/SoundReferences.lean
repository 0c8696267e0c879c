/-
# References that stay sound

Lines and payments name invoices by keys, no table enforces that these are there, and the key of
a deleted draft is given out again. Still every line belongs to an invoice that is there, and
every payment that names an invoice names one of its own student that is past being a draft: a
draft is deleted together with its lines, no payment is ever on a draft, and nothing else
deletes invoices. So a key that is free is named nowhere, and an invoice that gets it has only
what was written for it.
-/

import Tuition.Proofs.ExactTotals
import Tuition.Proofs.FrozenInvoices
import Tuition.Proofs.GaplessNumbers
import Tuition.Proofs.MonthDrafted
import Tuition.Proofs.PaidStatus

namespace Tuition

namespace Store

/-- A student has an invoice with a key that is past being a draft, so that a
payment may be on it. -/
def MayBePaid (store : Store) (studentId id : Int) : Prop :=
  ∃ invoice ∈ store.invoices, invoice.id = id ∧ invoice.studentId = studentId ∧
    invoice.status ≠ .draft

/-- A payment that names an invoice names one that its student may have it on. -/
def PaymentsOwned (store : Store) : Prop :=
  ∀ payment ∈ store.payments, ∀ id, payment.invoiceId = some id →
    store.MayBePaid payment.studentId id

/-- What lines and payments name is there. -/
structure SoundReferences (store : Store) : Prop where
  invoices : Table.WellKept store.invoices
  lines : store.LinesOwned
  payments : store.PaymentsOwned

variable {store : Store}

theorem PaymentsOwned.of_empty (none : store.payments = []) : store.PaymentsOwned := by
  rw [PaymentsOwned, none]
  exact List.forall_mem_nil _

/-- Where there are no invoices, lines and payments, nothing is named. -/
theorem soundReferences_of_empty (noInvoices : store.invoices = []) (noLines : store.lines = [])
    (noPayments : store.payments = []) : store.SoundReferences where
  invoices := noInvoices ▸ .nil
  lines := .of_empty noLines
  payments := .of_empty noPayments

/-- No payment is on a key that no invoice has. -/
theorem SoundReferences.unpaid_of_absent (sound : store.SoundReferences) {id : Int}
    (absent : ∀ invoice ∈ store.invoices, invoice.id ≠ id) :
    ∀ payment ∈ store.payments, payment.invoiceId ≠ some id := by
  intro payment mem own
  obtain ⟨invoice, memInvoice, key, -⟩ := sound.payments payment mem id own
  exact absent invoice memInvoice key

end Store

/-! ## One step -/

section Steps

variable {now : Moment} {before after : Store} {deed : Deed} {studentId id : Int}

/-- An invoice that payments may be on stays one. -/
theorem Transaction.mayBePaid (step : Transaction now before deed after)
    (ordered : Table.Ordered before.invoices) (there : before.MayBePaid studentId id) :
    after.MayBePaid studentId id := by
  obtain ⟨invoice, mem, key, owner, past⟩ := there
  obtain ⟨later, memLater, keyLater, ownerLater, pastLater⟩ :=
    (step.fate ordered mem).exists_past past
  exact ⟨later, memLater, keyLater.trans key, ownerLater.trans owner, pastLater⟩

/-- A payment is an old one after a transaction, or it is on no invoice or on
one that it may be on. -/
theorem Transaction.mem_payments_or (step : Transaction now before deed after) {payment : Payment}
    (mem : payment ∈ after.payments) :
    payment ∈ before.payments ∨ ∀ id, payment.invoiceId = some id →
      before.MayBePaid payment.studentId id := by
  cases step with
  | cashRecorded unlinked written =>
      rcases Store.mem_of_insert written mem with old | ⟨link, -⟩
      · exact .inl old
      · right
        intro id own
        rw [link, unlinked] at own
        cases own
  | paymentRecorded found payable linked owner written settles =>
      rw [settles.only_invoices] at mem
      rcases Store.mem_of_insert written mem with old | ⟨link, student⟩
      · exact .inl old
      · right
        intro id own
        rw [link, linked] at own
        cases own
        refine ⟨_, Table.mem_of_find? found, Table.key_of_find? found,
          (student.trans owner).symm, ?_⟩
        intro draft
        simp [draft, InvoiceStatus.payable] at payable
  | looseDeleted found loose => exact .inl (Table.mem_erase_iff.mp mem).1
  | paymentDeleted found linked settles =>
      rw [settles.only_invoices] at mem
      exact .inl (Table.mem_erase_iff.mp mem).1
  | _ => exact .inl mem

/-- Every transaction keeps payments on invoices of their own students. -/
theorem Transaction.paymentsOwned (step : Transaction now before deed after)
    (ordered : Table.Ordered before.invoices) (owned : before.PaymentsOwned) :
    after.PaymentsOwned := by
  intro payment mem id own
  apply step.mayBePaid ordered
  rcases step.mem_payments_or mem with old | new
  · exact owned payment old id own
  · exact new id own

/-- Canceling an invoice leaves it its payments, for payments may be on a canceled one. -/
theorem Store.PaymentsOwned.cancel (owned : before.PaymentsOwned) (id : Int) :
    (before.cancel id).PaymentsOwned := by
  intro payment mem other own
  obtain ⟨invoice, memInvoice, key, owner, past⟩ := owned payment mem other own
  refine ⟨_, List.mem_map_of_mem memInvoice, ?_⟩
  split
  · exact ⟨key, owner, nofun⟩
  · exact ⟨key, owner, past⟩

/-- Nothing in a run takes sound references away. -/
theorem Store.invariant_soundReferences : Store.Invariant Store.SoundReferences where
  transaction step sound :=
    { invoices := step.wellKept sound.invoices
      lines := step.linesOwned sound.invoices.ordered sound.lines
      payments := step.paymentsOwned sound.invoices.ordered sound.payments }
  prefixed _ sound := ⟨sound.invoices, sound.lines, sound.payments⟩
  canceled id sound :=
    { invoices := wellKept_cancel sound.invoices id
      lines := sound.lines.cancel id
      payments := sound.payments.cancel id }

end Steps

/-! ## Invoices that are new -/

/-- The deeds that bill: they write invoices, lines and settings, and nothing else. -/
def Deed.bills : Deed → Bool
  | .settingsMade => true
  | .drafted _ _ => true
  | .issued _ => true
  | _ => false

/-- The lines are just those that the student of an invoice owes for its period. -/
def Store.OwesLines (before : Store) (invoice : Invoice) (lines : List InvoiceLine) : Prop :=
  ∃ drafts total, before.Owes invoice.studentId invoice.period drafts total ∧
    List.Forall₂ DraftLine.KeptAs drafts lines

/-- Since a store there was nothing but billing, and each invoice that is new was billed. -/
structure Store.BilledSince (before now : Store) : Prop where
  invoices : Table.Ordered now.invoices
  lines : now.LinesOwned
  new : ∀ invoice ∈ now.invoices, (∀ old ∈ before.invoices, old.id ≠ invoice.id) →
    before.OwesLines invoice (now.linesOf invoice.id)
  only : now = { before with
    invoices := now.invoices, lines := now.lines, settings := now.settings }

namespace Store.BilledSince

variable {moment : Moment} {before first after : Store} {deed : Deed} {deeds : List Deed}

theorem refl (ordered : Table.Ordered before.invoices) (owned : before.LinesOwned) :
    before.BilledSince before where
  invoices := ordered
  lines := owned
  new invoice mem fresh := absurd rfl (fresh invoice mem)
  only := rfl

/-- What a student owes is the same as before. -/
theorem owes (since : before.BilledSince first) {studentId : Int} {period : Period}
    {drafts : List DraftLine} {total : Decimal}
    (owes : first.Owes studentId period drafts total) :
    before.Owes studentId period drafts total := by
  have same : first.billedLines studentId period = before.billedLines studentId period := by
    rw [since.only]
    rfl
  exact ⟨same ▸ owes.lines, owes.some, owes.total⟩

/-- The invoice that is drafted is billed, and all others are left. -/
theorem draft (since : before.BilledSince first) {studentId : Int} {period : Period}
    {drafted : Invoice} (drafts : first.Drafts studentId period drafted after)
    (ordered : Table.Ordered after.invoices) (owned : after.LinesOwned) :
    before.BilledSince after where
  invoices := ordered
  lines := owned
  new invoice mem fresh := by
    by_cases own : invoice.id = drafted.id
    · obtain rfl := ordered.eq_of_key_eq mem drafts.mem own
      obtain ⟨lines, total, added, owes, written, carries, -⟩ := drafts.carries
      rw [since.lines.linesLeft_eq_nil, List.nil_append] at written
      rw [← drafts.owner, ← drafts.month] at owes
      exact ⟨lines, total, since.owes owes, written ▸ carries.lines⟩
    · rw [drafts.linesOfOthers _ own]
      exact since.new invoice ((drafts.others invoice own).mp mem) fresh
  only := by
    rw [drafts.only, since.only]

/-- A deed that bills goes on billing. -/
theorem step (since : before.BilledSince first) (step : Transaction moment first deed after)
    (bills : deed.bills) : before.BilledSince after := by
  have ordered := step.ordered since.invoices
  have owned := step.linesOwned since.invoices since.lines
  have drafts := fun studentId period (same : deed = .drafted studentId period) =>
    (same ▸ step).drafts since.invoices
  cases step with
  | settingsMade => exact ⟨ordered, owned, since.new, by rw [since.only]⟩
  | drafted =>
      obtain ⟨invoice, drafts⟩ := drafts _ _ rfl
      exact since.draft drafts ordered owned
  | redrafted =>
      obtain ⟨invoice, drafts⟩ := drafts _ _ rfl
      exact since.draft drafts ordered owned
  | @issued _ numbered _ _ found draft counter admitted written =>
      refine ⟨ordered, owned, fun invoice mem fresh => ?_, by rw [since.only]⟩
      have memDraft := Table.mem_of_find? found
      rcases eq_or_mem_of_replace since.invoices memDraft written rfl mem with rfl | old
      · exact since.new numbered memDraft fresh
      · exact since.new invoice old fresh
  | _ => cases bills

theorem history (since : before.BilledSince first) (history : History moment first deeds after)
    (bills : ∀ deed ∈ deeds, deed.bills) : before.BilledSince after := by
  induction history with
  | nil => exact since
  | cons step _ ih =>
      obtain ⟨one, more⟩ := List.forall_mem_cons.mp bills
      exact ih (since.step step one) more

end Store.BilledSince

theorem Settles.exists_old {now : Moment} {store after : Store} {owed invoice : Invoice}
    (settles : Settles now store owed after) (mem : invoice ∈ after.invoices) :
    ∃ old ∈ store.invoices, old.id = invoice.id := by
  cases settles with
  | becamePaid status sum covered written => exact Table.exists_key_of_mem_replace written mem
  | reopened status sum uncovered written => exact Table.exists_key_of_mem_replace written mem
  | _ => exact ⟨invoice, mem, rfl⟩

/-- Only billing gives out keys of invoices. -/
theorem Transaction.exists_old {now : Moment} {before after : Store} {deed : Deed}
    (step : Transaction now before deed after) (other : deed.bills = false) {invoice : Invoice}
    (mem : invoice ∈ after.invoices) : ∃ old ∈ before.invoices, old.id = invoice.id := by
  cases step with
  | settingsMade => cases other
  | drafted => cases other
  | redrafted => cases other
  | issued => cases other
  | draftDeleted => exact ⟨invoice, (Table.mem_erase_iff.mp mem).1, rfl⟩
  | paymentRecorded found payable linked owner written settles => exact settles.exists_old mem
  | paymentDeleted found linked settles => exact settles.exists_old mem
  | _ => exact ⟨invoice, mem, rfl⟩

namespace UseCase

variable {world : World}

/-- A use case bills and does nothing else, or it does at most one deed, which is another one. -/
theorem bills_or (useCase : UseCase) (sound : world.store.SoundReferences) :
    world.store.BilledSince (useCase.storeAfter world) ∨
      ∃ deed : Deed, deed.bills = false ∧
        Transaction world.now world.store deed (useCase.storeAfter world) := by
  have begins : world.store.BilledSince world.store := .refl sound.invoices.ordered sound.lines
  have single {deed : Deed} (other : deed.bills = false)
      (only : useCase.preparations world = [deed])
      (nothing : ∀ prepared, useCase.toIssue world.now prepared = []) :
      world.store.BilledSince (useCase.storeAfter world) ∨
        ∃ deed : Deed, deed.bills = false ∧
          Transaction world.now world.store deed (useCase.storeAfter world) := by
    rcases useCase.transaction_of_preparations world only nothing with same | step
    · exact .inl (same ▸ begins)
    · exact .inr ⟨deed, other, step⟩
  have billing (all : ∀ deed ∈ useCase.preparations world, deed.bills) :
      world.store.BilledSince (useCase.storeAfter world) := by
    obtain ⟨prepared, ⟨done, sublist, moves⟩, ⟨issued, sublistIssued, issues⟩⟩ :=
      takes_perform useCase world
    have first := begins.history moves.history fun deed mem => all deed (sublist.subset mem)
    refine first.history issues.history fun deed mem => ?_
    obtain ⟨id, -, rfl⟩ := List.mem_map.mp (sublistIssued.subset mem)
    rfl
  cases useCase with
  | deleteDraft id => exact single rfl rfl fun _ => rfl
  | recordPayment command => exact single rfl rfl fun _ => rfl
  | quickCash studentId amount note => exact single rfl rfl fun _ => rfl
  | deletePayment id => exact single rfl rfl fun _ => rfl
  | addOverride command => exact single rfl rfl fun _ => rfl
  | generateDrafts billAll period =>
      refine .inl (billing fun deed mem => ?_)
      obtain ⟨student, -, rfl⟩ := List.mem_map.mp mem
      rfl
  | runWorker worker year month =>
      refine .inl (billing fun deed mem => ?_)
      rcases List.mem_append.mp mem with drafted | made
      · obtain ⟨student, -, rfl⟩ := List.mem_map.mp drafted
        rfl
      · rw [List.mem_singleton.mp made]
        rfl
  | _ => exact .inl (billing (List.forall_mem_nil _))

end UseCase

/-- An invoice whose key none had before an event begins with the lines that its student owed, and
with no payment. -/
theorem World.new_of_happen {world : World} (sound : world.store.SoundReferences) (event : Event)
    {invoice : Invoice} (mem : invoice ∈ (world.happen event).store.invoices)
    (fresh : ∀ old ∈ world.store.invoices, old.id ≠ invoice.id) :
    (∀ payment ∈ (world.happen event).store.payments, payment.invoiceId ≠ some invoice.id) ∧
      world.store.OwesLines invoice ((world.happen event).store.linesOf invoice.id) := by
  have known (old : ∃ old ∈ world.store.invoices, old.id = invoice.id) : False := by
    obtain ⟨row, memRow, key⟩ := old
    exact fresh row memRow key
  cases event with
  | used useCase =>
      rcases useCase.bills_or sound with since | ⟨deed, other, step⟩
      · refine ⟨fun payment memPayment => ?_, since.new invoice mem fresh⟩
        have same : (useCase.storeAfter world).payments = world.store.payments := by
          rw [since.only]
        exact sound.unpaid_of_absent fresh payment (same ▸ memPayment)
      · exact (known (step.exists_old other mem)).elim
  | canceled id =>
      obtain ⟨old, memOld, key, -⟩ := Store.exists_of_mem_cancel mem
      exact (known ⟨old, memOld, key⟩).elim
  | _ => exact (known ⟨invoice, mem, rfl⟩).elim

/-- After every run that begins without invoices, lines and payments, whatever strikes it: every
line belongs to an invoice; every payment is on no invoice or on one of its student that is past
being a draft; and a student has at most one invoice for a period. So an invoice that comes with a
further event under a key that was free, be it that of a deleted draft, takes nothing over: no
line and no payment named the key before, none of the payments is on it afterwards, and its lines
are just those that its student owed. -/
theorem references_stay_sound (world : World) (noInvoices : world.store.invoices = [])
    (noLines : world.store.lines = []) (noPayments : world.store.payments = [])
    (events : List Event) :
    let reached := world.run events
    (∀ line ∈ reached.store.lines, ∃ invoice ∈ reached.store.invoices,
      line.invoiceId = invoice.id) ∧
    (∀ payment ∈ reached.store.payments, payment.invoiceId = none ∨
      ∃ invoice ∈ reached.store.invoices, payment.invoiceId = some invoice.id ∧
        invoice.studentId = payment.studentId ∧
        invoice.status ∈ [.issued, .paid, .canceled]) ∧
    (∀ first ∈ reached.store.invoices, ∀ second ∈ reached.store.invoices,
      first.studentId = second.studentId → first.period = second.period → first = second) ∧
    ∀ event, ∀ invoice ∈ (reached.happen event).store.invoices,
      (∀ old ∈ reached.store.invoices, old.id ≠ invoice.id) →
      reached.store.linesOf invoice.id = [] ∧
      (∀ payment ∈ reached.store.payments, payment.invoiceId ≠ some invoice.id) ∧
      (∀ payment ∈ (reached.happen event).store.payments, payment.invoiceId ≠ some invoice.id) ∧
      reached.store.OwesLines invoice ((reached.happen event).store.linesOf invoice.id) := by
  have sound : (world.run events).store.SoundReferences :=
    Store.invariant_soundReferences.run
      (Store.soundReferences_of_empty noInvoices noLines noPayments) events
  refine ⟨sound.lines, fun payment mem => ?_, ?_, ?_⟩
  · cases link : payment.invoiceId with
    | none => exact .inl rfl
    | some id =>
        obtain ⟨invoice, memInvoice, rfl, owner, past⟩ := sound.payments payment mem id link
        refine .inr ⟨invoice, memInvoice, rfl, owner, ?_⟩
        cases status : invoice.status with
        | draft => exact absurd status past
        | _ => decide
  · intro first memFirst second memSecond owner month
    exact Store.eq_of_sameMonth sound.invoices memFirst memSecond owner month
  · intro event invoice mem fresh
    exact ⟨sound.lines.linesOf_eq_nil fresh, sound.unpaid_of_absent fresh,
      World.new_of_happen sound event mem fresh⟩

/-- An invoice is drafted, and deleted at the second attempt. -/
def Event.draftDeletedAgain : List Event :=
  [.used (.generateDrafts false ⟨2024, 1⟩), .used (.deleteDraft 1), .used (.deleteDraft 1)]

/-- When the month is drafted once more, the key of the deleted draft comes back, and the new
invoice has its own lines alone. -/
theorem references_stay_sound_when_key_returns :
    ∃ reached,
      reached = (World.struckAt .removeInvoice .withTwoCourses).run Event.draftDeletedAgain ∧
      reached.store.linesOf 1 = [] ∧
      ∃ invoice ∈ (reached.happen (.used (.generateDrafts false ⟨2024, 1⟩))).store.invoices,
        invoice.id = 1 ∧
        reached.store.OwesLines invoice
          ((reached.happen (.used (.generateDrafts false ⟨2024, 1⟩))).store.linesOf 1) := by
  obtain ⟨-, -, -, new⟩ :=
    references_stay_sound (World.struckAt .removeInvoice .withTwoCourses) rfl
      rfl rfl Event.draftDeletedAgain
  have gone : ((World.struckAt .removeInvoice .withTwoCourses).run
      Event.draftDeletedAgain).store.invoices = [] := by
    decide +kernel
  have keys :
      ((((World.struckAt .removeInvoice .withTwoCourses).run Event.draftDeletedAgain).happen
        (.used (.generateDrafts false ⟨2024, 1⟩))).store.invoices).map Invoice.id = [1] := by
    decide +kernel
  generalize (World.struckAt .removeInvoice .withTwoCourses).run Event.draftDeletedAgain =
    reached at *
  obtain ⟨invoice, only, key⟩ := List.map_eq_singleton_iff.mp keys
  have mem : invoice ∈ (reached.happen
      (.used (.generateDrafts false ⟨2024, 1⟩))).store.invoices := by
    rw [only]
    exact List.mem_singleton.mpr rfl
  obtain ⟨noLines, -, -, owed⟩ := new _ invoice mem (gone ▸ List.forall_mem_nil _)
  rw [key] at noLines owed
  exact ⟨reached, rfl, noLines, invoice, mem, key, owed⟩

end Tuition
