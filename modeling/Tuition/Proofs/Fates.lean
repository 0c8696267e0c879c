/-
# What becomes of an invoice

One transaction leaves an invoice and its lines as they are, or does to it what its deed says: a
draft is rebuilt, issued or deleted, and an invoice that is owed is switched between issued and
paid by a payment that is on it. Nothing else happens to any invoice, and the keys stay in order
throughout.
-/

import Tuition.Proofs.Transactions

namespace Tuition

/-- The lines of an invoice. -/
def Store.linesOf (store : Store) (invoiceId : Int) : List InvoiceLine :=
  store.lines.filter (·.invoiceId == invoiceId)

/-- An invoice is switched between issued and paid at a moment. -/
inductive Switches (now : Moment) (invoice : Invoice) : Invoice → Prop
  | toPaid (status : invoice.status = .issued) :
      Switches now invoice { invoice with status := .paid, paidAt := some now }
  | toIssued (status : invoice.status = .paid) :
      Switches now invoice { invoice with status := .issued, paidAt := none }

/-- A deed creates or deletes a payment that is on an invoice. -/
inductive Deed.PaysOn (store : Store) (invoiceId : Int) : Deed → Prop
  | recorded : PaysOn store invoiceId (.paymentRecorded (some invoiceId))
  | deleted {payment : Payment} (mem : payment ∈ store.payments)
      (linked : payment.invoiceId = some invoiceId) :
      PaysOn store invoiceId (.paymentDeleted payment.id)

/-- What becomes of an invoice in a transaction. -/
inductive Fate (now : Moment) (before : Store) (deed : Deed) (invoice : Invoice) (after : Store) :
    Prop
  | same (mem : invoice ∈ after.invoices)
      (lines : after.linesOf invoice.id = before.linesOf invoice.id)
  | rebuilt {total : Decimal} (draft : invoice.status = .draft)
      (own : deed = .drafted invoice.studentId invoice.period)
      (mem : { invoice with total } ∈ after.invoices)
  | issued {settings : Settings} (draft : invoice.status = .draft)
      (own : deed = .issued invoice.id)
      (counter : before.settings = some settings)
      (mem : invoice.numberedBy settings now ∈ after.invoices)
      (lines : after.linesOf invoice.id = before.linesOf invoice.id)
  | deleted (draft : invoice.status = .draft) (own : deed = .draftDeleted invoice.id)
      (gone : ∀ other ∈ after.invoices, other.id ≠ invoice.id)
      (lines : after.linesOf invoice.id = [])
  | switched {later : Invoice} (switches : Switches now invoice later)
      (own : deed.PaysOn before invoice.id) (mem : later ∈ after.invoices)
      (lines : after.linesOf invoice.id = before.linesOf invoice.id)

/-! ## Lines -/

/-- Lines that are written stay on the invoice that they were made for. -/
theorem invoiceId_of_kept {invoiceId : Int} {new kept : List InvoiceLine}
    (all : List.Forall₂ (fun row kept => ∃ key, Row.keep (Row.withKey row key) = .ok kept)
      new kept)
    (own : ∀ line ∈ new, line.invoiceId = invoiceId) :
    ∀ line ∈ kept, line.invoiceId = invoiceId := by
  induction all with
  | nil =>
      intro line mem
      cases mem
  | @cons row _ _ _ first _ ih =>
      obtain ⟨key, keeps⟩ := first
      obtain ⟨unitPrice, amount, rfl⟩ := Store.keep_line_eq_ok keeps
      intro line mem
      rcases List.mem_cons.mp mem with rfl | rest
      · have ownRow : row.invoiceId = invoiceId := own row List.mem_cons_self
        exact ownRow
      · exact ih (fun line mem => own line (List.mem_cons_of_mem _ mem)) line rest

/-- Lines that are attached to one invoice are not attached to another. -/
theorem linesOf_attached {lines written : List InvoiceLine} {drafts : List DraftLine}
    {invoiceId other : Int} (different : other ≠ invoiceId)
    (attached : Table.insertAll lines (drafts.map (.ofDraft invoiceId)) = .ok written) :
    written.filter (·.invoiceId == other) = lines.filter (·.invoiceId == other) := by
  obtain ⟨added, rfl, kept⟩ := Table.insertAll_eq_ok attached
  have own : ∀ line ∈ drafts.map (InvoiceLine.ofDraft invoiceId), line.invoiceId = invoiceId := by
    intro line mem
    obtain ⟨draft, -, rfl⟩ := List.mem_map.mp mem
    rfl
  have foreign : added.filter (·.invoiceId == other) = [] := by
    rw [List.filter_eq_nil_iff]
    intro line mem
    simp [invoiceId_of_kept kept own line mem, different.symm]
  rw [List.filter_append, foreign, List.append_nil]

/-- Lines that are removed from one invoice are not removed from another. -/
theorem linesOf_detached (lines : List InvoiceLine) {invoiceId other : Int}
    (different : other ≠ invoiceId) :
    (lines.filter (·.invoiceId != invoiceId)).filter (·.invoiceId == other) =
      lines.filter (·.invoiceId == other) := by
  rw [List.filter_filter]
  apply List.filter_congr
  intro line _
  by_cases own : line.invoiceId = other
  · simp [own, different]
  · simp [own]

/-- No line is left of an invoice whose lines are removed. -/
theorem linesOf_removed (lines : List InvoiceLine) (invoiceId : Int) :
    (lines.filter (·.invoiceId != invoiceId)).filter (·.invoiceId == invoiceId) = [] := by
  simp [List.filter_filter]

/-! ## One transaction -/

/-- The row that is written over is the one to which it belongs, and every other row stays. -/
theorem mem_or_eq_of_replace {invoices written : List Invoice} {invoice edited other : Invoice}
    (ordered : Table.Ordered invoices) (mem : invoice ∈ invoices)
    (replaced : Table.replace invoices edited = .ok written) (sameKey : edited.id = invoice.id)
    (memOther : other ∈ invoices) :
    (other = invoice ∧ edited ∈ written) ∨ (other.id ≠ invoice.id ∧ other ∈ written) := by
  have found : Table.find? invoices edited.id = some invoice :=
    ordered.find?_eq_some_iff.mpr ⟨mem, sameKey.symm⟩
  by_cases own : other.id = edited.id
  · left
    exact ⟨ordered.eq_of_key_eq memOther mem (own.trans sameKey),
      (Table.mem_replace_iff found replaced).mpr (.inl rfl)⟩
  · right
    exact ⟨fun same => own (same.trans sameKey.symm),
      (Table.mem_replace_iff found replaced).mpr (.inr ⟨memOther, own⟩)⟩

/-- After a row was written over there are that row and the other ones. -/
theorem eq_or_mem_of_replace {invoices written : List Invoice} {invoice edited other : Invoice}
    (ordered : Table.Ordered invoices) (mem : invoice ∈ invoices)
    (replaced : Table.replace invoices edited = .ok written) (sameKey : edited.id = invoice.id)
    (memOther : other ∈ written) : other = edited ∨ other ∈ invoices := by
  have found : Table.find? invoices edited.id = some invoice :=
    ordered.find?_eq_some_iff.mpr ⟨mem, sameKey.symm⟩
  exact ((Table.mem_replace_iff found replaced).mp memOther).imp_right And.left

namespace Settles

variable {now : Moment} {store after : Store} {invoice other : Invoice}

/-- Settling an invoice writes nothing but invoices. -/
theorem only_invoices (settles : Settles now store invoice after) :
    after = { store with invoices := after.invoices } := by
  cases settles <;> rfl

theorem ordered (settles : Settles now store invoice after)
    (ordered : Table.Ordered store.invoices) : Table.Ordered after.invoices := by
  cases settles with
  | notOwed => exact ordered
  | stillPaid => exact ordered
  | stillIssued => exact ordered
  | becamePaid status sum covered written => exact ordered.replace written
  | reopened status sum uncovered written => exact ordered.replace written

theorem wellKept (settles : Settles now store invoice after)
    (kept : Table.WellKept store.invoices) : Table.WellKept after.invoices := by
  cases settles with
  | notOwed => exact kept
  | stillPaid => exact kept
  | stillIssued => exact kept
  | becamePaid status sum covered written => exact kept.replace written
  | reopened status sum uncovered written => exact kept.replace written

/-- Settling an invoice may switch it, and leaves all others. -/
theorem switches (settles : Settles now store invoice after)
    (ordered : Table.Ordered store.invoices)
    (mem : invoice ∈ store.invoices) (memOther : other ∈ store.invoices) :
    (other = invoice ∧ ∃ later, Switches now other later ∧ later ∈ after.invoices) ∨
      other ∈ after.invoices := by
  cases settles with
  | notOwed => exact .inr memOther
  | stillPaid => exact .inr memOther
  | stillIssued => exact .inr memOther
  | becamePaid status sum covered written =>
      rcases mem_or_eq_of_replace ordered mem written rfl memOther with ⟨rfl, later⟩ | ⟨-, same⟩
      · exact .inl ⟨rfl, _, .toPaid status, later⟩
      · exact .inr same
  | reopened status sum uncovered written =>
      rcases mem_or_eq_of_replace ordered mem written rfl memOther with ⟨rfl, later⟩ | ⟨-, same⟩
      · exact .inl ⟨rfl, _, .toIssued status, later⟩
      · exact .inr same

end Settles

namespace Transaction

variable {now : Moment} {before after : Store} {deed : Deed} {invoice : Invoice}

/-- A transaction keeps the invoices in the order of their keys. -/
theorem ordered (step : Transaction now before deed after)
    (ordered : Table.Ordered before.invoices) : Table.Ordered after.invoices := by
  cases step with
  | settingsMade => exact ordered
  | overrideAdded => exact ordered
  | drafted vacant written => exact ordered.insert written
  | redrafted mem draft kept attached written => exact ordered.replace written
  | draftDeleted => exact ordered.erase _
  | issued found draft counter admitted written => exact ordered.replace written
  | cashRecorded => exact ordered
  | paymentRecorded found payable linked owner written settles => exact settles.ordered ordered
  | looseDeleted => exact ordered
  | paymentDeleted found linked settles => exact settles.ordered ordered

/-- A transaction keeps the rules that bind invoices. -/
theorem wellKept (step : Transaction now before deed after)
    (kept : Table.WellKept before.invoices) : Table.WellKept after.invoices := by
  cases step with
  | settingsMade => exact kept
  | overrideAdded => exact kept
  | drafted vacant written => exact kept.insert written
  | redrafted mem draft total attached written => exact kept.replace written
  | draftDeleted => exact kept.erase _
  | issued found draft counter admitted written => exact kept.replace written
  | cashRecorded => exact kept
  | paymentRecorded found payable linked owner written settles => exact settles.wellKept kept
  | looseDeleted => exact kept
  | paymentDeleted found linked settles => exact settles.wellKept kept

/-- Nothing else becomes of an invoice in a transaction than what its deed says. -/
theorem fate (step : Transaction now before deed after) (ordered : Table.Ordered before.invoices)
    (mem : invoice ∈ before.invoices) : Fate now before deed invoice after := by
  cases step with
  | settingsMade => exact .same mem rfl
  | overrideAdded => exact .same mem rfl
  | @drafted _ _ _ _ added _ _ vacant written attached =>
      obtain ⟨rfl, -, key, -⟩ := Table.insert_eq_ok written
      have below : invoice.id < added.id := by
        have := Table.key_lt_nextKey mem
        have : added.id = Table.nextKey before.invoices := key
        have : Row.key invoice = invoice.id := rfl
        omega
      exact .same (List.mem_append_left _ mem) (linesOf_attached (Int.ne_of_lt below) attached)
  | redrafted memDraft status kept attached written =>
      rcases mem_or_eq_of_replace ordered memDraft written rfl mem with ⟨rfl, later⟩ | ⟨own, same⟩
      · exact .rebuilt status rfl later
      · exact .same same ((linesOf_attached own attached).trans (linesOf_detached _ own))
  | @draftDeleted id draft found status =>
      by_cases own : invoice.id = id
      · subst own
        cases (ordered.find?_eq_some_iff.mpr ⟨mem, rfl⟩).symm.trans found
        refine .deleted status rfl ?_ ?_
        · intro other memOther
          exact (Table.mem_erase_iff.mp memOther).2
        · simp only [Store.linesOf, List.filter_filter, List.filter_eq_nil_iff]
          intro line _
          simp
      · refine .same (Table.mem_erase_iff.mpr ⟨mem, own⟩) (linesOf_detached _ own)
  | issued found draft counter admitted written =>
      have memDraft := Table.mem_of_find? found
      have key := Table.key_of_find? found
      rcases mem_or_eq_of_replace ordered memDraft written rfl mem with ⟨rfl, later⟩ | ⟨-, same⟩
      · exact .issued draft (congrArg _ key.symm) counter later rfl
      · exact .same same rfl
  | cashRecorded => exact .same mem rfl
  | paymentRecorded found payable linked owner written settles =>
      have key := Table.key_of_find? found
      have lines : after.linesOf invoice.id = before.linesOf invoice.id := by
        rw [settles.only_invoices]
        rfl
      rcases settles.switches ordered (Table.mem_of_find? found) mem with
        ⟨rfl, later, switches, memLater⟩ | same
      · exact .switched switches (key ▸ .recorded) memLater lines
      · exact .same same lines
  | looseDeleted => exact .same mem rfl
  | @paymentDeleted _ id payment owed found linked settles =>
      obtain ⟨invoiceId, link, there⟩ := Option.bind_eq_some_iff.mp linked
      have lines : after.linesOf invoice.id = before.linesOf invoice.id := by
        rw [settles.only_invoices]
        rfl
      rcases settles.switches ordered (Table.mem_of_find? there) mem with
        ⟨rfl, later, switches, memLater⟩ | same
      · refine .switched switches ?_ memLater lines
        have key : payment.id = id := Table.key_of_find? found
        have own : invoice.id = invoiceId := Table.key_of_find? there
        exact key ▸ .deleted (Table.mem_of_find? found) (own ▸ link)
      · exact .same same lines

end Transaction

theorem Switches.id_eq {now : Moment} {invoice later : Invoice}
    (switches : Switches now invoice later) : later.id = invoice.id := by
  cases switches <;> rfl

namespace Fate

variable {now : Moment} {before after : Store} {deed : Deed} {invoice : Invoice}

/-- An invoice that is gone has no lines any more. -/
theorem exists_row_or (fate : Fate now before deed invoice after) :
    (∃ later ∈ after.invoices, later.id = invoice.id) ∨ after.linesOf invoice.id = [] := by
  cases fate with
  | same mem => exact .inl ⟨_, mem, rfl⟩
  | rebuilt draft own mem => exact .inl ⟨_, mem, rfl⟩
  | issued draft own counter mem => exact .inl ⟨_, mem, rfl⟩
  | deleted draft own gone lines => exact .inr lines
  | switched switches own mem => exact .inl ⟨_, mem, switches.id_eq⟩

/-- An invoice that is past being a draft stays so, for the same student. -/
theorem exists_past (fate : Fate now before deed invoice after) (past : invoice.status ≠ .draft) :
    ∃ later ∈ after.invoices, later.id = invoice.id ∧ later.studentId = invoice.studentId ∧
      later.status ≠ .draft := by
  cases fate with
  | same mem => exact ⟨_, mem, rfl, rfl, past⟩
  | rebuilt draft => exact absurd draft past
  | issued draft => exact absurd draft past
  | deleted draft => exact absurd draft past
  | switched switches own mem =>
      cases switches with
      | toPaid => exact ⟨_, mem, rfl, rfl, nofun⟩
      | toIssued => exact ⟨_, mem, rfl, rfl, nofun⟩

end Fate

/-- Deeds one after another keep the invoices in the order of their keys. -/
theorem History.ordered {now : Moment} {before after : Store} {deeds : List Deed}
    (history : History now before deeds after) (ordered : Table.Ordered before.invoices) :
    Table.Ordered after.invoices :=
  history.keeps (fun step => step.ordered) ordered

end Tuition
