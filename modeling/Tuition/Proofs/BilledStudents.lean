/-
# Students billed one after another

Billing a student comes to one of five outcomes, and at most one draft is written. `BilledSoFar`
is the invariant of billing students one after another: against the store that it began with, each
invoice is either unchanged with its lines or is the draft of a student who was billed, and it
carries what the first store prices for that student. What a student is charged depends on records
that billing does not change, so it can be told from the first store throughout.
-/

import Tuition.Proofs.InvoiceContents
import Tuition.Proofs.StudentBilling

namespace Tuition

open Billing

namespace Store

variable {period : Period} {student : Student} {store before after : Store}

/-! ## One student -/

/-- What billing a student for a period comes to. -/
inductive Billed (period : Period) (student : Student) (store : Store) :
    DraftOutcome → Store → Prop
  | notEnrolled (none : store.enrollmentsOf student.id = []) :
      Billed period student store .notEnrolled store
  | withoutLines (enrolled : store.enrollmentsOf student.id ≠ [])
      (none : store.billedLines student.id period = .ok []) :
      Billed period student store .withoutLines store
  | alreadyInvoiced {drafts : List DraftLine} {total : Decimal} {invoice : Invoice}
      (owes : store.Owes student.id period drafts total)
      (found : store.invoiceOf? student.id period = some invoice)
      (past : invoice.status ≠ .draft) :
      Billed period student store .alreadyInvoiced store
  | created {drafts : List DraftLine} {total : Decimal} {invoice : Invoice}
      {invoices : List Invoice} {lines : List InvoiceLine}
      (owes : store.Owes student.id period drafts total)
      (vacant : store.invoiceOf? student.id period = none)
      (written : Table.insert store.invoices (.draft student.id period total) =
        .ok (invoice, invoices))
      (attached : Table.insertAll store.lines (drafts.map (.ofDraft invoice.id)) = .ok lines) :
      Billed period student store .created { store with invoices, lines }
  | updated {drafts : List DraftLine} {total kept : Decimal} {invoice : Invoice}
      {invoices : List Invoice} {lines : List InvoiceLine}
      (owes : store.Owes student.id period drafts total)
      (found : store.invoiceOf? student.id period = some invoice)
      (draft : invoice.status = .draft)
      (attached : Table.insertAll (store.lines.filter (·.invoiceId != invoice.id))
        (drafts.map (.ofDraft invoice.id)) = .ok lines)
      (keeps : Access.totalToKeep store.invoices { invoice with total } = .ok kept)
      (written : Table.replace store.invoices { invoice with total := kept } = .ok invoices) :
      Billed period student store .updated { store with invoices, lines }

theorem addDraft_eq_ok {studentId : Int} {drafts : List DraftLine} {total : Decimal}
    (added : store.addDraft studentId period drafts total = .ok after) :
    ∃ invoice invoices lines,
      Table.insert store.invoices (.draft studentId period total) = .ok (invoice, invoices) ∧
      Table.insertAll store.lines (drafts.map (.ofDraft invoice.id)) = .ok lines ∧
      after = { store with invoices, lines } := by
  obtain ⟨⟨invoice, invoices⟩, written, rest⟩ := bind_eq_ok_iff.mp added
  obtain ⟨lines, attached, same⟩ := bind_eq_ok_iff.mp rest
  exact ⟨invoice, invoices, lines, written, attached, (Except.ok.inj same).symm⟩

theorem rebuildDraft_eq_ok {invoice : Invoice} {drafts : List DraftLine} {total : Decimal}
    (rebuilt : store.rebuildDraft invoice drafts total = .ok after) :
    ∃ lines kept invoices,
      Table.insertAll (store.lines.filter (·.invoiceId != invoice.id))
        (drafts.map (.ofDraft invoice.id)) = .ok lines ∧
      Access.totalToKeep store.invoices { invoice with total } = .ok kept ∧
      Table.replace store.invoices { invoice with total := kept } = .ok invoices ∧
      after = { store with invoices, lines } := by
  obtain ⟨-, -, rest⟩ := bind_eq_ok_iff.mp rebuilt
  obtain ⟨lines, attached, rest⟩ := bind_eq_ok_iff.mp rest
  obtain ⟨kept, keeps, rest⟩ := bind_eq_ok_iff.mp rest
  obtain ⟨invoices, written, same⟩ := bind_eq_ok_iff.mp rest
  exact ⟨lines, kept, invoices, attached, keeps, written, (Except.ok.inj same).symm⟩

/-- Billing that ends with an outcome has come to it. -/
theorem billed_of_bill {outcome : DraftOutcome}
    (done : store.bill period student = .ok (outcome, after)) :
    Billed period student store outcome after := by
  obtain ⟨-, -, rest⟩ := bind_eq_ok_iff.mp done
  simp only [billEnrollments] at rest
  split at rest
  · next none =>
      cases rest
      exact .notEnrolled (List.isEmpty_iff.mp none)
  next enrolled =>
  obtain ⟨drafts, owes, rest⟩ := bind_eq_ok_iff.mp rest
  simp only [billLines] at rest
  split at rest
  · next none =>
      cases rest
      rw [List.isEmpty_iff.mp none] at owes
      exact .withoutLines (by simpa using enrolled) owes
  next some =>
  obtain ⟨total, added, rest⟩ := bind_eq_ok_iff.mp rest
  obtain ⟨-, -, rest⟩ := bind_eq_ok_iff.mp rest
  have owes : store.Owes student.id period drafts total :=
    ⟨owes, by simpa using some, mapError_eq_ok_iff.mp added⟩
  simp only [writeDraft, bringInLine] at rest
  cases found : store.invoiceOf? student.id period with
  | none =>
      simp only [found] at rest
      obtain ⟨after, put, same⟩ := map_eq_ok_iff.mp rest
      cases same
      obtain ⟨invoice, invoices, lines, written, attached, rfl⟩ := addDraft_eq_ok put
      exact .created owes found written attached
  | some invoice =>
      simp only [found] at rest
      split at rest
      · next draft =>
          obtain ⟨after, put, same⟩ := map_eq_ok_iff.mp rest
          cases same
          obtain ⟨lines, kept, invoices, attached, keeps, written, rfl⟩ := rebuildDraft_eq_ok put
          exact .updated owes found draft attached keeps written
      · next past =>
          cases rest
          exact .alreadyInvoiced owes found past

theorem invoiceOf?_eq_some {studentId : Int} {invoice : Invoice}
    (found : store.invoiceOf? studentId period = some invoice) :
    invoice ∈ store.invoices ∧ invoice.studentId = studentId ∧ invoice.period = period := by
  have same := List.find?_some found
  simp only [Bool.and_eq_true, beq_iff_eq] at same
  exact ⟨List.mem_of_find?_eq_some found, same⟩

theorem invoiceOf?_eq_none_iff {studentId : Int} :
    store.invoiceOf? studentId period = none ↔
      ∀ invoice ∈ store.invoices, invoice.studentId = studentId → invoice.period ≠ period := by
  simp [invoiceOf?, List.find?_eq_none]

/-- Where a draft was written, one invoice was drafted. -/
theorem Billed.drafts {outcome : DraftOutcome}
    (billed : Billed period student store outcome after) (kept : Table.WellKept store.invoices)
    (wrote : outcome = .created ∨ outcome = .updated) :
    Table.WellKept after.invoices ∧ ∃ invoice, store.Drafts student.id period invoice after := by
  cases billed with
  | notEnrolled => simp at wrote
  | withoutLines => simp at wrote
  | alreadyInvoiced => simp at wrote
  | created owes vacant written attached =>
      exact ⟨kept.insert written, _, Transaction.drafts_of_insert
        (invoiceOf?_eq_none_iff.mp vacant) written attached owes⟩
  | updated owes found draft attached keeps written =>
      obtain ⟨mem, owner, rfl⟩ := invoiceOf?_eq_some found
      rw [← owner] at owes ⊢
      exact ⟨kept.replace written, _,
        Transaction.drafts_of_replace kept.ordered mem draft attached written owes keeps⟩

/-- An invoice of another student is not the one that is drafted. -/
theorem Drafts.id_ne {studentId : Int} {invoice other : Invoice}
    (drafts : before.Drafts studentId period invoice after)
    (ordered : Table.Ordered before.invoices) (mem : other ∈ before.invoices)
    (foreign : other.studentId ≠ studentId) : other.id ≠ invoice.id := by
  intro same
  rcases drafts.origin with ⟨fresh, -, -⟩ | ⟨old, memOld, made⟩
  · exact fresh other mem same
  · have oldKey : old.id = invoice.id := by rw [made]
    obtain rfl := ordered.eq_of_key_eq mem memOld (same.trans oldKey.symm)
    exact foreign (by rw [← drafts.owner, made])

/-- A draft that was billed stays billed when that of another student is drafted. -/
theorem Bills.of_drafts {origin : Store} {studentId other : Int} {invoice drafted : Invoice}
    (bills : origin.Bills other period invoice before)
    (drafts : before.Drafts studentId period drafted after)
    (ordered : Table.Ordered before.invoices) (foreign : other ≠ studentId) :
    origin.Bills other period invoice after := by
  have different : invoice.id ≠ drafted.id :=
    drafts.id_ne ordered bills.mem (by rwa [bills.owner])
  obtain ⟨lines, total, added, owes, own, carried, keptFor⟩ := bills.carries
  refine ⟨(drafts.others invoice different).mpr bills.mem, bills.owner, bills.month, bills.draft,
    bills.origin, lines, total, added, owes, ?_, carried, keptFor⟩
  rw [drafts.linesOfOthers _ different, own]

/-! ## Students one after another -/

/-- What became of a student, told from the store before all billing. -/
def Became (before : Store) (period : Period) (now : Store) (student : Student) :
    DraftOutcome → Prop
  | .notEnrolled => before.enrollmentsOf student.id = []
  | .withoutLines =>
    before.enrollmentsOf student.id ≠ [] ∧ before.billedLines student.id period = .ok []
  | .alreadyInvoiced => (∃ drafts total, before.Owes student.id period drafts total) ∧
    ∃ invoice ∈ before.invoices, invoice.studentId = student.id ∧ invoice.period = period ∧
      invoice.status ≠ .draft
  | .created => before.invoiceOf? student.id period = none ∧
    ∃ invoice, before.Bills student.id period invoice now
  | .updated => ∃ invoice, before.Bills student.id period invoice now ∧
    ∃ old ∈ before.invoices, invoice = { old with total := invoice.total }

/-- What became of a student stays so when another one is drafted. -/
theorem Became.of_drafts {now : Store} {studentId : Int} {invoice : Invoice}
    {outcome : DraftOutcome} (became : before.Became period now student outcome)
    (drafts : now.Drafts studentId period invoice after) (ordered : Table.Ordered now.invoices)
    (foreign : student.id ≠ studentId) : before.Became period after student outcome := by
  cases outcome with
  | notEnrolled => exact became
  | withoutLines => exact became
  | alreadyInvoiced => exact became
  | created =>
      obtain ⟨vacant, billed, bills⟩ := became
      exact ⟨vacant, billed, bills.of_drafts drafts ordered foreign⟩
  | updated =>
      obtain ⟨billed, bills, old⟩ := became
      exact ⟨billed, bills.of_drafts drafts ordered foreign, old⟩

/-- The invariant of billing students one after another. -/
structure BilledSoFar (before : Store) (period : Period) (done : List Student)
    (outcomes : List DraftOutcome) (now : Store) : Prop where
  kept : Table.WellKept now.invoices
  only : now = { before with invoices := now.invoices, lines := now.lines }
  invoices : ∀ invoice ∈ now.invoices,
    (invoice ∈ before.invoices ∧ now.linesOf invoice.id = before.linesOf invoice.id) ∨
      ∃ student ∈ done, before.Bills student.id period invoice now
  stays : ∀ invoice ∈ before.invoices, ∃ later ∈ now.invoices, later.id = invoice.id
  strayLines : ∀ id, (∀ invoice ∈ now.invoices, invoice.id ≠ id) →
    now.linesOf id = before.linesOf id
  became : List.Forall₂ (before.Became period now) done outcomes

namespace BilledSoFar

variable {done : List Student} {outcomes : List DraftOutcome} {outcome : DraftOutcome}
  {now : Store}

theorem refl (kept : Table.WellKept before.invoices) :
    BilledSoFar before period [] [] before where
  kept := kept
  only := rfl
  invoices _ mem := .inl ⟨mem, rfl⟩
  stays invoice mem := ⟨invoice, mem, rfl⟩
  strayLines _ _ := rfl
  became := .nil

theorem enrollmentsOf_eq (billed : BilledSoFar before period done outcomes now)
    (studentId : Int) : now.enrollmentsOf studentId = before.enrollmentsOf studentId := by
  rw [billed.only]
  rfl

/-- What a student is charged does not change. -/
theorem billedLines_eq (billed : BilledSoFar before period done outcomes now) (studentId : Int) :
    now.billedLines studentId period = before.billedLines studentId period := by
  rw [billed.only]
  rfl

theorem owes (billed : BilledSoFar before period done outcomes now) {studentId : Int}
    {drafts : List DraftLine} {total : Decimal} (owes : now.Owes studentId period drafts total) :
    before.Owes studentId period drafts total :=
  ⟨billed.billedLines_eq studentId ▸ owes.lines, owes.some, owes.total⟩

/-- A student who has not been billed yet owns no draft that was. -/
theorem mem_of_owner (billed : BilledSoFar before period done outcomes now) {studentId : Int}
    (new : ∀ student ∈ done, student.id ≠ studentId) {invoice : Invoice}
    (mem : invoice ∈ now.invoices) (owner : invoice.studentId = studentId) :
    invoice ∈ before.invoices ∧ now.linesOf invoice.id = before.linesOf invoice.id := by
  rcases billed.invoices invoice mem with unchanged | ⟨student, memStudent, bills⟩
  · exact unchanged
  · exact absurd (bills.owner.symm.trans owner) (new student memStudent)

/-- Where an invoice for the period was before, it is there for the same student and period. -/
theorem exists_later (billed : BilledSoFar before period done outcomes now)
    (ordered : Table.Ordered before.invoices) {invoice : Invoice}
    (mem : invoice ∈ before.invoices) :
    ∃ later ∈ now.invoices, later.studentId = invoice.studentId ∧
      later.period = invoice.period := by
  obtain ⟨later, memLater, same⟩ := billed.stays invoice mem
  rcases billed.invoices later memLater with ⟨old, -⟩ | ⟨student, -, bills⟩
  · obtain rfl := ordered.eq_of_key_eq old mem same
    exact ⟨later, memLater, rfl, rfl⟩
  · rcases bills.origin with ⟨fresh, -, -⟩ | ⟨old, memOld, made⟩
    · exact absurd same.symm (fresh invoice mem)
    · have oldKey : old.id = later.id := by rw [made]
      obtain rfl := ordered.eq_of_key_eq memOld mem (oldKey.trans same)
      exact ⟨later, memLater, by rw [made], by rw [made]⟩

/-- A draft of a student who has not been billed yet is told from the first store. -/
theorem bills (billed : BilledSoFar before period done outcomes now)
    (ordered : Table.Ordered before.invoices) {studentId : Int}
    (new : ∀ student ∈ done, student.id ≠ studentId) {invoice : Invoice}
    (drafts : now.Drafts studentId period invoice after) :
    before.Bills studentId period invoice after := by
  obtain ⟨lines, total, added, owes, own, carried, keptFor⟩ := drafts.carries
  rcases drafts.origin with ⟨fresh, vacant, made⟩ | ⟨old, memOld, made⟩
  · have freshBefore : ∀ old ∈ before.invoices, old.id ≠ invoice.id := by
      intro old mem same
      obtain ⟨later, memLater, key⟩ := billed.stays old mem
      exact fresh later memLater (key.trans same)
    have absentNow : invoice.id ∉ now.invoices.map Invoice.id := by
      intro listed
      obtain ⟨old, mem, same⟩ := List.mem_map.mp listed
      exact fresh old mem same
    have absentBefore : invoice.id ∉ before.invoices.map Invoice.id := by
      intro listed
      obtain ⟨old, mem, same⟩ := List.mem_map.mp listed
      exact freshBefore old mem same
    refine ⟨drafts.mem, drafts.owner, drafts.month, drafts.draft,
      .inl ⟨freshBefore, ?_, made⟩, lines, total, added, billed.owes owes, ?_, carried,
      keptFor.imp_right ?_⟩
    · intro old mem owner month
      obtain ⟨later, memLater, sameOwner, sameMonth⟩ := billed.exists_later ordered mem
      exact vacant later memLater (sameOwner.trans owner) (sameMonth.trans month)
    · rw [own, linesLeft, linesLeft, if_neg absentNow, if_neg absentBefore,
        billed.strayLines _ fresh]
    · rintro ⟨old, mem, same, -⟩
      exact absurd same (fresh old mem)
  · have owner : old.studentId = studentId := by rw [← drafts.owner, made]
    have oldKey : old.id = invoice.id := by rw [made]
    obtain ⟨memBefore, -⟩ := billed.mem_of_owner new memOld owner
    refine ⟨drafts.mem, drafts.owner, drafts.month, drafts.draft, .inr ⟨old, memBefore, made⟩,
      lines, total, added, billed.owes owes, ?_, carried, keptFor.imp_right ?_⟩
    · rw [own, linesLeft, linesLeft, if_pos (oldKey ▸ List.mem_map_of_mem memOld),
        if_pos (oldKey ▸ List.mem_map_of_mem memBefore)]
    · rintro ⟨other, mem, same, sameTotal⟩
      obtain rfl := billed.kept.ordered.eq_of_key_eq mem memOld (same.trans oldKey.symm)
      exact ⟨other, memBefore, same, sameTotal⟩

/-- A student of whom no draft is written, whatever the outcome, leaves everything as it is. -/
theorem unwritten (billed : BilledSoFar before period done outcomes now)
    (became : before.Became period now student outcome) :
    BilledSoFar before period (done ++ [student]) (outcomes ++ [outcome]) now where
  kept := billed.kept
  only := billed.only
  invoices invoice mem := by
    refine (billed.invoices invoice mem).imp_right ?_
    rintro ⟨other, memOther, bills⟩
    exact ⟨other, List.mem_append_left _ memOther, bills⟩
  stays := billed.stays
  strayLines := billed.strayLines
  became := List.rel_append billed.became (.cons became .nil)

/-- A student whose draft is written is billed with the others. -/
theorem written (billed : BilledSoFar before period done outcomes now)
    (ordered : Table.Ordered before.invoices) (new : ∀ other ∈ done, other.id ≠ student.id)
    {invoice : Invoice} (drafts : now.Drafts student.id period invoice after)
    (kept : Table.WellKept after.invoices) (became : before.Became period after student outcome) :
    BilledSoFar before period (done ++ [student]) (outcomes ++ [outcome]) after where
  kept := kept
  only := by
    rw [drafts.only, billed.only]
  invoices other mem := by
    by_cases own : other.id = invoice.id
    · obtain rfl := kept.ordered.eq_of_key_eq mem drafts.mem own
      exact .inr ⟨student, List.mem_append_right _ (List.mem_singleton.mpr rfl),
        billed.bills ordered new drafts⟩
    · rcases billed.invoices other ((drafts.others other own).mp mem) with
        ⟨memBefore, same⟩ | ⟨owner, memOwner, bills⟩
      · exact .inl ⟨memBefore, (drafts.linesOfOthers _ own).trans same⟩
      · exact .inr ⟨owner, List.mem_append_left _ memOwner,
          bills.of_drafts drafts billed.kept.ordered (new owner memOwner)⟩
  stays old mem := by
    obtain ⟨later, memLater, same⟩ := billed.stays old mem
    by_cases own : later.id = invoice.id
    · exact ⟨invoice, drafts.mem, own.symm.trans same⟩
    · exact ⟨later, (drafts.others later own).mpr memLater, same⟩
  strayLines id stray := by
    have other : id ≠ invoice.id := fun same => stray invoice drafts.mem same.symm
    rw [drafts.linesOfOthers id other]
    apply billed.strayLines
    intro old mem same
    exact stray old ((drafts.others old (by rwa [same])).mpr mem) same
  became := by
    have others := (List.forall₂_and_left _ _).mpr ⟨new, billed.became⟩
    refine List.rel_append (others.imp ?_) (.cons became .nil)
    rintro other outcome ⟨foreign, was⟩
    exact was.of_drafts drafts billed.kept.ordered foreign

/-- Billing one more student keeps the invariant. -/
theorem step (billed : BilledSoFar before period done outcomes now)
    (ordered : Table.Ordered before.invoices) (new : ∀ other ∈ done, other.id ≠ student.id)
    (next : Billed period student now outcome after) :
    BilledSoFar before period (done ++ [student]) (outcomes ++ [outcome]) after := by
  have wrote := next.drafts billed.kept
  have sameEnrollments := billed.enrollmentsOf_eq student.id
  have sameLines := billed.billedLines_eq student.id
  cases next with
  | notEnrolled none => exact billed.unwritten (sameEnrollments.symm.trans none)
  | withoutLines enrolled none =>
      exact billed.unwritten ⟨sameEnrollments ▸ enrolled, sameLines.symm.trans none⟩
  | alreadyInvoiced owes found past =>
      obtain ⟨mem, owner, month⟩ := invoiceOf?_eq_some found
      obtain ⟨memBefore, -⟩ := billed.mem_of_owner new mem owner
      exact billed.unwritten ⟨⟨_, _, billed.owes owes⟩, _, memBefore, owner, month, past⟩
  | created owes vacant written attached =>
      obtain ⟨kept, invoice, drafts⟩ := wrote (.inl rfl)
      refine billed.written ordered new drafts kept ⟨?_, invoice, billed.bills ordered new drafts⟩
      rw [invoiceOf?_eq_none_iff] at vacant ⊢
      -- what there was before is still there, and would be in the way
      intro old mem owner month
      obtain ⟨later, memLater, sameOwner, sameMonth⟩ := billed.exists_later ordered mem
      exact vacant later memLater (sameOwner.trans owner) (sameMonth.trans month)
  | updated owes found draft attached keeps written =>
      obtain ⟨kept, invoice, drafts⟩ := wrote (.inr rfl)
      refine billed.written ordered new drafts kept
        ⟨invoice, billed.bills ordered new drafts, ?_⟩
      obtain ⟨mem, owner, month⟩ := invoiceOf?_eq_some found
      rcases drafts.origin with ⟨-, vacant, -⟩ | ⟨old, memOld, made⟩
      · exact absurd month (vacant _ mem owner)
      · have sameOwner : old.studentId = student.id := by rw [← drafts.owner, made]
        exact ⟨old, (billed.mem_of_owner new memOld sameOwner).1, made⟩

end BilledSoFar

/-- Students billed one after another: the invariant holds, and the counts are those
of what became of them. -/
theorem billedSoFar_of_billEach {counts total : DraftCounts} {students done : List Student}
    {outcomes : List DraftOutcome} {now : Store}
    (billed : BilledSoFar before counts.period done outcomes now)
    (ordered : Table.Ordered before.invoices)
    (distinct : (done ++ students).Pairwise fun first second => first.id ≠ second.id)
    (able : billEach counts students now = .ok (total, after)) :
    ∃ further, BilledSoFar before counts.period (done ++ students) (outcomes ++ further) after ∧
      total = further.foldl DraftCounts.count counts := by
  -- the students who are done move along in the invariant
  induction students generalizing counts done outcomes now with
  | nil =>
      cases able
      exact ⟨[], by simpa using billed, rfl⟩
  | cons student others ih =>
      obtain ⟨⟨outcome, between⟩, first, rest⟩ := bind_eq_ok_iff.mp able
      have new : ∀ other ∈ done, other.id ≠ student.id := by
        intro other mem
        exact (List.pairwise_append.mp distinct).2.2 other mem student List.mem_cons_self
      have stepped := billed.step ordered new (billed_of_bill first)
      rw [List.append_cons] at distinct
      rw [← period_of_count counts outcome] at stepped
      obtain ⟨further, all, same⟩ := ih stepped distinct rest
      rw [period_of_count] at all
      exact ⟨outcome :: further, by simpa using all, same⟩

end Store
end Tuition
