/-
# Totals equal their lines

An invoice and its lines stand in two tables, and its total is written separately from them. They
are in step as long as each invoice was charged what its lines say: drafting makes them so,
deleting takes both away, and every other deed leaves keys, totals and lines alone. As long as the
amounts stay within twelve digits nothing is lost when they are kept, so each line is exactly its
quantity times its price and each total is exactly the sum of its lines.
-/

import Tuition.Proofs.Charges
import Tuition.Proofs.UseCases

namespace Tuition

/-- Each line of an invoice is its quantity times its price, both with two places, and the total
is the sum of the lines. -/
structure Invoice.AddsUp (invoice : Invoice) (lines : List InvoiceLine) : Prop where
  products : ∀ line ∈ lines, ∃ price : Int,
    line.unitPrice = .ofCents price ∧ line.amount = .ofCents (line.quantity * price)
  sum : ∃ amounts : List Int,
    lines.map (fun line => line.amount) = amounts.map .ofCents ∧
      invoice.total = .ofCents amounts.sum

/-- An invoice whose amounts all fit their columns adds up. -/
theorem Invoice.Charged.addsUp {invoice : Invoice} {lines : List InvoiceLine}
    {charges : List Charge} (charged : invoice.Charged lines charges)
    (fits : ∀ line ∈ lines, line.FitsColumns) (fitsTotal : invoice.total.FitsColumn) :
    invoice.AddsUp lines := by
  have same := charged.lines_eq fits
  constructor
  · intro line mem
    have listed : line.toDraftLine ∈ charges.map Charge.line := same ▸ List.mem_map_of_mem mem
    obtain ⟨charge, -, made⟩ := List.mem_map.mp listed
    exact ⟨charge.price, congrArg DraftLine.unitPrice made.symm, by rw [← made]; rfl⟩
  · refine ⟨charges.map Charge.amount, ?_, charged.total_eq fits fitsTotal⟩
    have amounts := congrArg (List.map DraftLine.amount) same
    simp only [List.map_map] at amounts ⊢
    exact amounts

namespace Store

/-- Invoices and lines are in step: every line belongs to an invoice, and every invoice was
charged what its lines say. -/
structure InStep (store : Store) : Prop where
  invoices : Table.Ordered store.invoices
  owned : store.LinesOwned
  few : store.enrollments.length ≤ Table.greatestSize
  charged : ∀ invoice ∈ store.invoices, ∃ charges,
    invoice.Charged (store.linesOf invoice.id) charges

/-- The keys and totals of the invoices. -/
def totals (store : Store) : List (Int × Decimal) :=
  store.invoices.map fun invoice => (invoice.id, invoice.total)

variable {before after : Store}

/-- Writing over an invoice with its total leaves keys and totals. -/
theorem totals_of_replace {invoices : List Invoice} {invoice edited : Invoice}
    (ordered : Table.Ordered before.invoices) (mem : invoice ∈ before.invoices)
    (written : Table.replace before.invoices edited = .ok invoices)
    (key : edited.id = invoice.id) (total : edited.total = invoice.total) :
    ({ before with invoices } : Store).totals = before.totals := by
  obtain ⟨rfl, -⟩ := Table.replace_eq_ok_iff.mp written
  simp only [totals, List.map_map]
  refine List.map_congr_left fun other memOther => ?_
  by_cases own : Row.key other = Row.key edited
  · obtain rfl := ordered.eq_of_key_eq memOther mem (own.trans key)
    simp [own, key, total]
  · simp [own]

theorem totals_of_settles {now : Moment} {invoice : Invoice}
    (settles : Settles now before invoice after) (ordered : Table.Ordered before.invoices)
    (mem : invoice ∈ before.invoices) : after.totals = before.totals := by
  cases settles with
  | notOwed => rfl
  | stillPaid => rfl
  | stillIssued => rfl
  | becamePaid status sum covered written => exact totals_of_replace ordered mem written rfl rfl
  | reopened status sum uncovered written => exact totals_of_replace ordered mem written rfl rfl

namespace InStep

/-- Invoices and lines stay in step where keys, totals and lines stay. -/
theorem of_sameTotals (inStep : before.InStep) (owned : after.LinesOwned)
    (same : after.totals = before.totals) (lines : after.lines = before.lines)
    (enrollments : after.enrollments = before.enrollments) : after.InStep where
  invoices := by
    have keys := congrArg (List.map Prod.fst) same
    simp only [totals, List.map_map] at keys
    have ascending := List.pairwise_map.mpr inStep.invoices
    exact List.pairwise_map.mp (keys.symm ▸ ascending)
  owned := owned
  few := enrollments ▸ inStep.few
  charged invoice mem := by
    have listed : (invoice.id, invoice.total) ∈ before.totals := same ▸ List.mem_map_of_mem mem
    obtain ⟨old, memOld, kept⟩ := List.mem_map.mp listed
    obtain ⟨key, total⟩ := Prod.mk.inj kept
    obtain ⟨charges, charged⟩ := inStep.charged old memOld
    have sameLines : after.linesOf invoice.id = before.linesOf old.id := by
      rw [linesOf, lines, ← key, linesOf]
    exact ⟨charges, sameLines ▸ charged.congr total.symm⟩

/-- Invoices and lines stay in step when an invoice is drafted. -/
theorem of_drafts {studentId : Int} {period : Period} {invoice : Invoice} (inStep : before.InStep)
    (drafts : before.Drafts studentId period invoice after)
    (ordered : Table.Ordered after.invoices) (owned : after.LinesOwned) : after.InStep where
  invoices := ordered
  owned := owned
  few := by
    rw [drafts.only]
    exact inStep.few
  charged other mem := by
    by_cases own : other.id = invoice.id
    · obtain rfl := ordered.eq_of_key_eq mem drafts.mem own
      obtain ⟨lines, total, added, owes, ownLines, carries, -⟩ := drafts.carries
      rw [inStep.owned.linesLeft_eq_nil, List.nil_append] at ownLines
      obtain ⟨charges, -, charged⟩ := owes.charged inStep.few carries
      exact ⟨charges, ownLines ▸ charged⟩
    · rw [drafts.linesOfOthers _ own]
      exact inStep.charged other ((drafts.others other own).mp mem)

/-- Invoices and lines stay in step when an invoice is deleted with its lines. -/
theorem erase (inStep : before.InStep) (id : Int)
    (owned : ({ before with
        invoices := Table.erase before.invoices id
        lines := before.lines.filter (·.invoiceId != id) } : Store).LinesOwned) :
    ({ before with
        invoices := Table.erase before.invoices id
        lines := before.lines.filter (·.invoiceId != id) } : Store).InStep where
  invoices := inStep.invoices.erase id
  owned := owned
  few := inStep.few
  charged invoice mem := by
    obtain ⟨memInvoice, different⟩ := Table.mem_erase_iff.mp mem
    obtain ⟨charges, charged⟩ := inStep.charged invoice memInvoice
    have other : invoice.id ≠ id := different
    refine ⟨charges, ?_⟩
    rw [linesOf, linesOf_detached before.lines other]
    exact charged

end InStep
end Store

/-- Every transaction keeps invoices and lines in step. -/
theorem Transaction.inStep {now : Moment} {before after : Store} {deed : Deed}
    (step : Transaction now before deed after) (inStep : before.InStep) : after.InStep := by
  have ordered := step.ordered inStep.invoices
  have owned := step.linesOwned inStep.invoices inStep.owned
  have drafts := fun studentId period (same : deed = .drafted studentId period) =>
    (same ▸ step).drafts inStep.invoices
  cases step with
  | settingsMade => exact inStep.of_sameTotals owned rfl rfl rfl
  | overrideAdded => exact inStep.of_sameTotals owned rfl rfl rfl
  | drafted =>
      obtain ⟨invoice, drafts⟩ := drafts _ _ rfl
      exact inStep.of_drafts drafts ordered owned
  | redrafted =>
      obtain ⟨invoice, drafts⟩ := drafts _ _ rfl
      exact inStep.of_drafts drafts ordered owned
  | draftDeleted => exact inStep.erase _ owned
  | issued found draft counter admitted written =>
      have same :=
        Store.totals_of_replace inStep.invoices (Table.mem_of_find? found) written rfl rfl
      exact inStep.of_sameTotals owned same rfl rfl
  | cashRecorded => exact inStep.of_sameTotals owned rfl rfl rfl
  | paymentRecorded found payable linked owner written settles =>
      have same := Store.totals_of_settles settles inStep.invoices (Table.mem_of_find? found)
      rw [settles.only_invoices] at same owned ⊢
      exact inStep.of_sameTotals owned same rfl rfl
  | looseDeleted => exact inStep.of_sameTotals owned rfl rfl rfl
  | paymentDeleted found linked settles =>
      obtain ⟨id, -, there⟩ := Option.bind_eq_some_iff.mp linked
      have same := Store.totals_of_settles settles inStep.invoices (Table.mem_of_find? there)
      rw [settles.only_invoices] at same owned ⊢
      exact inStep.of_sameTotals owned same rfl rfl

/-- Canceling an invoice leaves it its lines. -/
theorem Store.LinesOwned.cancel {store : Store} (owned : store.LinesOwned) (id : Int) :
    (store.cancel id).LinesOwned := by
  intro line mem
  obtain ⟨invoice, memInvoice, own⟩ := owned line mem
  refine ⟨_, List.mem_map_of_mem memInvoice, own.trans ?_⟩
  split <;> rfl

/-- Nothing in a run gets invoices and lines out of step. -/
theorem Store.invariant_inStep : Store.Invariant Store.InStep where
  transaction step inStep := step.inStep inStep
  prefixed _ inStep := inStep.of_sameTotals inStep.owned rfl rfl rfl
  canceled id inStep := by
    refine inStep.of_sameTotals (inStep.owned.cancel id) ?_ rfl rfl
    simp only [Store.cancel, Store.totals, List.map_map]
    refine List.map_congr_left fun invoice _ => ?_
    simp only [Function.comp_apply]
    split <;> rfl

/-- From records without invoices and lines, every invoice has lines after every run, and as long
as its amounts stay within twelve digits each line is exactly its quantity times its price and the
total is exactly the sum of the lines. -/
theorem totals_equal_lines (world : World) (noInvoices : world.store.invoices = [])
    (noLines : world.store.lines = [])
    (few : world.store.enrollments.length ≤ Table.greatestSize) (events : List Event) :
    ∀ invoice ∈ (world.run events).store.invoices,
      (world.run events).store.linesOf invoice.id ≠ [] ∧
      (invoice.total.FitsColumn →
        (∀ line ∈ (world.run events).store.linesOf invoice.id, line.FitsColumns) →
        invoice.AddsUp ((world.run events).store.linesOf invoice.id)) := by
  have begins : world.store.InStep := by
    refine ⟨noInvoices ▸ List.Pairwise.nil, .of_empty noLines, few, ?_⟩
    rw [noInvoices]
    exact List.forall_mem_nil _
  have inStep := Store.invariant_inStep.run begins events
  intro invoice mem
  obtain ⟨charges, charged⟩ := inStep.charged invoice mem
  exact ⟨charged.lines_ne_nil, fun fitsTotal fits => charged.addsUp fits fitsTotal⟩

/-- The records of a student who is charged for three lessons and for a month. -/
def Store.withTwoCourses : Store where
  students := [⟨1, "Anna", "", "", "", true⟩]
  courses := [⟨1, "Violin", .individual, .ofCents 1000, .ofCents 2500, true⟩,
    ⟨2, "Choir", .group, .ofCents 0, .ofCents 1999, true⟩]
  enrollments :=
    [⟨1, 1, 1, .perLesson, .ofCents 1000, ""⟩, ⟨2, 1, 2, .subscription, .ofCents 0, ""⟩]
  attendance := [⟨1, 1, 1, 2024, 1, 3, false⟩]
  settings := some {}

/-- Drafting is struck, done again twice, and the draft is issued. -/
def Event.draftedAgain : List Event :=
  [.used (.generateDrafts false ⟨2024, 1⟩), .used (.generateDrafts false ⟨2024, 1⟩),
    .used (.generateDrafts false ⟨2024, 1⟩), .used (.issueInvoice 1)]

/-- An invoice that was struck while its lines were written, drafted again and issued has three
lessons at 9.00 and a month at 19.99, and its total is their sum. -/
theorem totals_equal_lines_when_drafted_again :
    ∃ invoice ∈ ((World.struckAt .addLines .withTwoCourses).run
        Event.draftedAgain).store.invoices,
      invoice.status = .issued ∧ invoice.total = .ofCents 4699 ∧ invoice.AddsUp
        (((World.struckAt .addLines .withTwoCourses).run Event.draftedAgain).store.linesOf
          invoice.id) := by
  have rows : ((World.struckAt .addLines .withTwoCourses).run
      Event.draftedAgain).store.invoices.map
        (fun invoice => (invoice.id, invoice.status, invoice.total)) =
          [(1, .issued, .ofCents 4699)] := by decide +kernel
  have amounts : (((World.struckAt .addLines .withTwoCourses).run
      Event.draftedAgain).store.linesOf 1).map (fun line => (line.unitPrice, line.amount)) =
        [(.ofCents 900, .ofCents 2700), (.ofCents 1999, .ofCents 1999)] := by decide +kernel
  obtain ⟨invoice, only, row⟩ := List.map_eq_singleton_iff.mp rows
  obtain ⟨key, status, total⟩ : invoice.id = 1 ∧ invoice.status = .issued ∧
      invoice.total = .ofCents 4699 := by simpa using row
  have mem : invoice ∈
      ((World.struckAt .addLines .withTwoCourses).run Event.draftedAgain).store.invoices := by
    rw [only]
    exact List.mem_singleton.mpr rfl
  have adds := (totals_equal_lines (World.struckAt .addLines .withTwoCourses) rfl rfl (by decide)
    Event.draftedAgain invoice mem).2
  refine ⟨invoice, mem, status, total, adds ⟨4699, by decide, total⟩ fun line memLine => ?_⟩
  have listed :=
    List.mem_map_of_mem (f := fun line : InvoiceLine => (line.unitPrice, line.amount))
      (key ▸ memLine)
  rw [amounts] at listed
  rcases List.mem_pair.mp listed with same | same
  · exact ⟨⟨900, by decide, congrArg Prod.fst same⟩, 2700, by decide, congrArg Prod.snd same⟩
  · exact ⟨⟨1999, by decide, congrArg Prod.fst same⟩, 1999, by decide, congrArg Prod.snd same⟩

end Tuition
