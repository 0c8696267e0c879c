/-
# What an invoice carries

A draft is written with lines and a total that were worked out before. Each of them is brought
into the form that is kept; a total that shows the same amount as the one that is there is not
written again. `Invoice.Carries` says that lines and total of an invoice are what is kept of
drafted ones, and `Drafts` says all that one drafting transaction does: one invoice comes to carry
what the store prices, and every other invoice stays as it is with its lines.
-/

import Tuition.Proofs.Fates
import Mathlib.Data.List.Forall2

namespace Tuition

/-- A line is what is kept of a drafted one. -/
structure DraftLine.KeptAs (draft : DraftLine) (line : InvoiceLine) : Prop where
  unitPrice : Store.keepAmount "invoice_lines.unit_price" draft.unitPrice = .ok line.unitPrice
  amount : Store.keepAmount "invoice_lines.amount" draft.amount = .ok line.amount
  same : line.toDraftLine = { draft with unitPrice := line.unitPrice, amount := line.amount }

/-- A total is kept for one that was asked for: it shows the same amount, or it
is what is kept of it. -/
def Store.KeepsTotal (kept asked : Decimal) : Prop :=
  (Amount.shown kept).order asked = .eq ∨ keepTotal asked = .ok kept

/-- An invoice with these lines carries what was drafted, with its total. -/
structure Invoice.Carries (invoice : Invoice) (lines : List InvoiceLine) (drafts : List DraftLine)
    (total : Decimal) : Prop where
  lines : List.Forall₂ DraftLine.KeptAs drafts lines
  total : Store.KeepsTotal invoice.total total

/-- The lines that an invoice with a key has before its own lines are written: those that are
there for a key without an invoice, and none of an invoice that is there. -/
def Store.linesLeft (store : Store) (id : Int) : List InvoiceLine :=
  if id ∈ store.invoices.map Invoice.id then [] else store.linesOf id

/-- Every line belongs to an invoice. -/
def Store.LinesOwned (store : Store) : Prop :=
  ∀ line ∈ store.lines, ∃ invoice ∈ store.invoices, line.invoiceId = invoice.id

theorem Store.LinesOwned.of_empty {store : Store} (none : store.lines = []) :
    store.LinesOwned := by
  rw [LinesOwned, none]
  exact List.forall_mem_nil _

namespace Store

/-- A total that was asked for is kept after it was saved. -/
theorem keepsTotal_of_totalToKeep {invoices : List Invoice} {invoice : Invoice} {kept : Decimal}
    (keeps : Access.totalToKeep invoices invoice = .ok kept) : KeepsTotal kept invoice.total := by
  simp only [Access.totalToKeep] at keeps
  cases found : Table.find? invoices invoice.id with
  | none =>
      simp only [found] at keeps
      exact .inr keeps
  | some old =>
      simp only [found] at keeps
      split at keeps
      · next same =>
          cases keeps
          exact .inl (beq_iff_eq.mp same)
      · exact .inr keeps

/-- A total that is kept is kept when the same is asked for again. -/
theorem KeepsTotal.totalToKeep {invoices : List Invoice} {invoice : Invoice} {asked : Decimal}
    (keeps : KeepsTotal invoice.total asked) (ordered : Table.Ordered invoices)
    (mem : invoice ∈ invoices) :
    Access.totalToKeep invoices { invoice with total := asked } = .ok invoice.total := by
  have found : Table.find? invoices invoice.id = some invoice :=
    ordered.find?_eq_some_iff.mpr ⟨mem, rfl⟩
  have shown : (Row.shown invoice).total = Amount.shown invoice.total := rfl
  simp only [Access.totalToKeep, found, shown]
  split
  · rfl
  · next different =>
      refine keeps.resolve_left fun same => ?_
      simp [same] at different

theorem LinesOwned.linesOf_eq_nil {store : Store} {id : Int} (owned : store.LinesOwned)
    (absent : ∀ invoice ∈ store.invoices, invoice.id ≠ id) : store.linesOf id = [] := by
  rw [linesOf, List.filter_eq_nil_iff]
  intro line mem own
  obtain ⟨invoice, memInvoice, same⟩ := owned line mem
  exact absent invoice memInvoice (same.symm.trans (by simpa using own))

/-- Where every line belongs to an invoice, an invoice begins without lines. -/
theorem LinesOwned.linesLeft_eq_nil {store : Store} (owned : store.LinesOwned) (id : Int) :
    store.linesLeft id = [] := by
  unfold linesLeft
  split
  · rfl
  · next absent =>
      apply owned.linesOf_eq_nil
      intro invoice mem same
      exact absent (same ▸ List.mem_map_of_mem mem)

end Store

/-! ## Lines that are attached -/

/-- Lines that are written for an invoice are what is kept of the drafted ones. -/
theorem keptAs_of_attached {invoiceId : Int} {drafts : List DraftLine} {added : List InvoiceLine}
    (all : List.Forall₂ (fun row kept => ∃ key, Row.keep (Row.withKey row key) = .ok kept)
      (drafts.map (InvoiceLine.ofDraft invoiceId)) added) :
    List.Forall₂ DraftLine.KeptAs drafts added := by
  rw [List.forall₂_map_left_iff] at all
  refine all.imp ?_
  rintro draft line ⟨key, keeps⟩
  obtain ⟨unitPrice, price, rest⟩ := bind_eq_ok_iff.mp keeps
  obtain ⟨amount, product, same⟩ := bind_eq_ok_iff.mp rest
  cases same
  exact ⟨price, product, rfl⟩

/-- The lines of an invoice after lines were attached to it. -/
theorem filter_attached {lines written : List InvoiceLine} {drafts : List DraftLine}
    {invoiceId : Int}
    (attached : Table.insertAll lines (drafts.map (.ofDraft invoiceId)) = .ok written) :
    ∃ added, written.filter (·.invoiceId == invoiceId) =
        lines.filter (·.invoiceId == invoiceId) ++ added ∧
      List.Forall₂ DraftLine.KeptAs drafts added := by
  obtain ⟨added, rfl, kept⟩ := Table.insertAll_eq_ok attached
  have own : ∀ line ∈ drafts.map (InvoiceLine.ofDraft invoiceId), line.invoiceId = invoiceId := by
    intro line mem
    obtain ⟨draft, -, rfl⟩ := List.mem_map.mp mem
    rfl
  have all : added.filter (·.invoiceId == invoiceId) = added := by
    rw [List.filter_eq_self]
    intro line mem
    simp [invoiceId_of_kept kept own line mem]
  exact ⟨added, by rw [List.filter_append, all], keptAs_of_attached kept⟩

/-! ## One drafting transaction -/

/-- The total of an invoice is what is kept of the one that was asked for,
unless it was there before. -/
def Store.KeptFor (before : Store) (invoice : Invoice) (asked : Decimal) : Prop :=
  keepTotal asked = .ok invoice.total ∨
    ∃ old ∈ before.invoices, old.id = invoice.id ∧ old.total = invoice.total

/-- A draft of a student for a period, in the store at hand, carries what a store before it
prices. It is new since then, or it was a draft with another total. -/
structure Store.Bills (before : Store) (studentId : Int) (period : Period) (invoice : Invoice)
    (after : Store) : Prop where
  mem : invoice ∈ after.invoices
  owner : invoice.studentId = studentId
  month : invoice.period = period
  draft : invoice.status = .draft
  origin : ((∀ old ∈ before.invoices, old.id ≠ invoice.id) ∧
      (∀ old ∈ before.invoices, old.studentId = studentId → old.period ≠ period) ∧
      invoice = { Invoice.draft studentId period invoice.total with id := invoice.id }) ∨
    ∃ old ∈ before.invoices, invoice = { old with total := invoice.total }
  carries : ∃ drafts total added, before.Owes studentId period drafts total ∧
    after.linesOf invoice.id = before.linesLeft invoice.id ++ added ∧
    invoice.Carries added drafts total ∧ before.KeptFor invoice total

/-- Drafting the invoice of a student for a period bills that invoice, and
nothing else changes. -/
structure Store.Drafts (before : Store) (studentId : Int) (period : Period) (invoice : Invoice)
    (after : Store) : Prop extends before.Bills studentId period invoice after where
  others : ∀ other : Invoice, other.id ≠ invoice.id →
    (other ∈ after.invoices ↔ other ∈ before.invoices)
  linesOfOthers : ∀ id, id ≠ invoice.id → after.linesOf id = before.linesOf id
  only : after = { before with invoices := after.invoices, lines := after.lines }

/-- A line is an old one after an invoice was drafted, or it is of that invoice. -/
theorem Store.Drafts.mem_lines_or {before after : Store} {studentId : Int} {period : Period}
    {invoice : Invoice} (drafts : before.Drafts studentId period invoice after)
    {line : InvoiceLine} (mem : line ∈ after.lines) :
    line ∈ before.lines ∨ ∃ invoice ∈ after.invoices, line.invoiceId = invoice.id := by
  by_cases own : line.invoiceId = invoice.id
  · exact .inr ⟨invoice, drafts.mem, own⟩
  · have listed : line ∈ after.linesOf line.invoiceId :=
      List.mem_filter.mpr ⟨mem, beq_self_eq_true _⟩
    rw [drafts.linesOfOthers _ own] at listed
    exact .inl (List.mem_of_mem_filter listed)

/-- What is saved of a total that was asked for is kept for it. -/
theorem Store.keptFor_of_totalToKeep {before : Store} {invoice old : Invoice} {asked : Decimal}
    (found : Table.find? before.invoices invoice.id = some old)
    (keeps : Access.totalToKeep before.invoices { invoice with total := asked } =
      .ok invoice.total) : before.KeptFor invoice asked := by
  simp only [Access.totalToKeep, found] at keeps
  split at keeps
  · exact .inr ⟨old, Table.mem_of_find? found, Table.key_of_find? found, Except.ok.inj keeps⟩
  · exact .inl keeps

namespace Transaction

variable {now : Moment} {before after : Store} {studentId : Int} {period : Period}

/-- A new draft carries what the store prices. -/
theorem drafts_of_insert {total : Decimal} {drafts : List DraftLine} {invoice : Invoice}
    {invoices : List Invoice} {lines : List InvoiceLine}
    (vacant : ∀ other ∈ before.invoices, other.studentId = studentId → other.period ≠ period)
    (written : Table.insert before.invoices (.draft studentId period total) =
      .ok (invoice, invoices))
    (attached : Table.insertAll before.lines (drafts.map (.ofDraft invoice.id)) = .ok lines)
    (owes : before.Owes studentId period drafts total) :
    before.Drafts studentId period invoice { before with invoices, lines } := by
  obtain ⟨rfl, keeps, key, -⟩ := Table.insert_eq_ok written
  obtain ⟨kept, keepsTotal, rfl⟩ := Store.keep_invoice_eq_ok keeps
  obtain ⟨added, own, carried⟩ := filter_attached attached
  have fresh : ∀ old ∈ before.invoices,
      old.id ≠ ({ Invoice.draft studentId period total with
        id := Table.nextKey before.invoices, total := kept } : Invoice).id := by
    intro old mem
    exact Int.ne_of_lt (Table.key_lt_nextKey mem)
  have absent : Table.nextKey before.invoices ∉ before.invoices.map Invoice.id := by
    intro listed
    obtain ⟨old, mem, same⟩ := List.mem_map.mp listed
    exact fresh old mem same
  refine ⟨⟨List.mem_append_right _ (List.mem_singleton.mpr rfl), rfl, rfl, rfl,
    .inl ⟨fresh, vacant, rfl⟩, ?_⟩, ?_, ?_, rfl⟩
  · refine ⟨drafts, total, added, owes, ?_, ⟨carried, .inr keepsTotal⟩, .inl keepsTotal⟩
    have left : before.linesLeft (Table.nextKey before.invoices) =
        before.linesOf (Table.nextKey before.invoices) := if_neg absent
    exact left ▸ own
  · intro other different
    constructor
    · intro mem
      rcases List.mem_append.mp mem with old | new
      · exact old
      · exact absurd (congrArg Invoice.id (List.mem_singleton.mp new)) different
    · exact List.mem_append_left _
  · intro id different
    exact linesOf_attached different attached

/-- A draft that is written again carries what the store prices. -/
theorem drafts_of_replace {invoice : Invoice} {asked total : Decimal} {drafts : List DraftLine}
    {invoices : List Invoice} {lines : List InvoiceLine} (ordered : Table.Ordered before.invoices)
    (mem : invoice ∈ before.invoices) (draft : invoice.status = .draft)
    (attached : Table.insertAll (before.lines.filter (·.invoiceId != invoice.id))
      (drafts.map (.ofDraft invoice.id)) = .ok lines)
    (written : Table.replace before.invoices { invoice with total } = .ok invoices)
    (owes : before.Owes invoice.studentId invoice.period drafts asked)
    (keeps : Access.totalToKeep before.invoices { invoice with total := asked } = .ok total) :
    before.Drafts invoice.studentId invoice.period { invoice with total }
      { before with invoices, lines } := by
  have found : Table.find? before.invoices (Row.key { invoice with total }) = some invoice :=
    ordered.find?_eq_some_iff.mpr ⟨mem, rfl⟩
  obtain ⟨added, own, carried⟩ := filter_attached attached
  have left : before.linesLeft invoice.id = [] := if_pos (List.mem_map_of_mem mem)
  refine ⟨⟨?_, rfl, rfl, draft, .inr ⟨invoice, mem, rfl⟩, ?_⟩, ?_, ?_, rfl⟩
  · exact (Table.mem_replace_iff found written).mpr (.inl rfl)
  · refine ⟨drafts, asked, added, owes, ?_, ⟨carried, Store.keepsTotal_of_totalToKeep keeps⟩, ?_⟩
    · rw [linesOf_removed] at own
      exact own.trans (by rw [left])
    · exact Store.keptFor_of_totalToKeep found keeps
  · intro other different
    rw [Table.mem_replace_iff found written]
    constructor
    · rintro (rfl | ⟨old, -⟩)
      · exact absurd rfl different
      · exact old
    · intro old
      exact .inr ⟨old, different⟩
  · intro id different
    exact (linesOf_attached different attached).trans (linesOf_detached _ different)

/-- Drafting comes to a draft that carries what the store prices, and to nothing else. -/
theorem drafts (step : Transaction now before (.drafted studentId period) after)
    (ordered : Table.Ordered before.invoices) :
    ∃ invoice, before.Drafts studentId period invoice after := by
  cases step with
  | drafted vacant written attached owes =>
      exact ⟨_, drafts_of_insert vacant written attached owes⟩
  | redrafted mem draft kept attached written owes =>
      obtain ⟨asked, owes, keeps⟩ := owes
      exact ⟨_, drafts_of_replace ordered mem draft attached written owes keeps⟩

/-- A line is an old one after a transaction, or it is of an invoice that was drafted. -/
theorem mem_lines_or {deed : Deed} (step : Transaction now before deed after)
    (ordered : Table.Ordered before.invoices) {line : InvoiceLine} (mem : line ∈ after.lines) :
    line ∈ before.lines ∨ ∃ invoice ∈ after.invoices, line.invoiceId = invoice.id := by
  have drafts := fun studentId period (same : deed = .drafted studentId period) =>
    (same ▸ step).drafts ordered
  cases step with
  | drafted =>
      obtain ⟨invoice, drafts⟩ := drafts _ _ rfl
      exact drafts.mem_lines_or mem
  | redrafted =>
      obtain ⟨invoice, drafts⟩ := drafts _ _ rfl
      exact drafts.mem_lines_or mem
  | draftDeleted => exact .inl (List.mem_of_mem_filter mem)
  | paymentRecorded found payable linked owner written settles =>
      rw [settles.only_invoices] at mem
      exact .inl mem
  | paymentDeleted found linked settles =>
      rw [settles.only_invoices] at mem
      exact .inl mem
  | _ => exact .inl mem

/-- Every transaction leaves each line to an invoice that is there. -/
theorem linesOwned {deed : Deed} (step : Transaction now before deed after)
    (ordered : Table.Ordered before.invoices) (owned : before.LinesOwned) : after.LinesOwned := by
  intro line mem
  rcases step.mem_lines_or ordered mem with old | own
  · obtain ⟨invoice, memInvoice, own⟩ := owned line old
    rcases (step.fate ordered memInvoice).exists_row_or with ⟨later, memLater, key⟩ | none
    · exact ⟨later, memLater, own.trans key.symm⟩
    · have listed : line ∈ after.linesOf invoice.id :=
        List.mem_filter.mpr ⟨mem, beq_iff_eq.mpr own⟩
      rw [none] at listed
      cases listed
  · exact own

end Transaction
end Tuition
