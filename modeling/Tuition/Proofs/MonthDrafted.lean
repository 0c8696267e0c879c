/-
# What drafting a month comes to

Drafting that answers with counts has billed every student. Told from the store before: a student
who is charged something and had no invoice for the period has exactly one new draft now, a draft
of the student has been drawn up anew under its key, and an invoice that is past being a draft is
left. Lines are those of the charges in their order, totals are their sums, the counts are those
of the outcomes, and nothing else changes.
-/

import Tuition.Proofs.BilledStudents
import Tuition.Proofs.Charges
import Tuition.Proofs.UseCases

namespace Tuition

open Billing

/-- Charges and their sum have at most twelve digits. -/
def Charge.AllFit (charges : List Charge) : Prop :=
  (∀ charge ∈ charges, charge.Fits) ∧ (Charge.total charges).natAbs < 10 ^ 12

namespace Store

/-- What becomes of a student who is charged this for a period. -/
def outcomeOf (store : Store) (period : Period) (student : Student) (charges : List Charge) :
    DraftOutcome :=
  if store.enrollmentsOf student.id = [] then .notEnrolled
  else if charges = [] then .withoutLines
  else
    match store.invoiceOf? student.id period with
    | none => .created
    | some invoice => if invoice.status = .draft then .updated else .alreadyInvoiced

/-- Drafting comes to an outcome for a student. -/
def ComesTo (store : Store) (period : Period) (student : Student) (outcome : DraftOutcome) :
    Prop :=
  ∃ charges, store.chargesOf student.id period = .ok charges ∧
    store.outcomeOf period student charges = outcome

/-- The invoice of a student for a period after the student was billed charges. -/
inductive InvoicedFor (before : Store) (studentId : Int) (period : Period) (charges : List Charge)
    (after : Store) : Prop
  /-- There was none, and there is exactly one new draft now. -/
  | created {invoice : Invoice}
      (vacant : ∀ old ∈ before.invoices, old.studentId = studentId → old.period ≠ period)
      (fresh : ∀ old ∈ before.invoices, old.id ≠ invoice.id) (mem : invoice ∈ after.invoices)
      (only : ∀ other ∈ after.invoices, other.studentId = studentId → other.period = period →
        other = invoice)
      (made : invoice = { Invoice.draft studentId period (.ofCents (Charge.total charges)) with
        id := invoice.id })
      (lines : (after.linesOf invoice.id).map InvoiceLine.toDraftLine = charges.map Charge.line)
  /-- There was a draft, and it has these lines and their sum now. -/
  | redrawn {invoice : Invoice} (mem : invoice ∈ before.invoices)
      (owner : invoice.studentId = studentId) (month : invoice.period = period)
      (draft : invoice.status = .draft)
      (later : { invoice with total := .ofCents (Charge.total charges) } ∈ after.invoices)
      (lines : (after.linesOf invoice.id).map InvoiceLine.toDraftLine = charges.map Charge.line)
  /-- There was one past being a draft, and it is unchanged with its lines. -/
  | left {invoice : Invoice} (mem : invoice ∈ before.invoices)
      (owner : invoice.studentId = studentId) (month : invoice.period = period)
      (past : invoice.status ≠ .draft) (later : invoice ∈ after.invoices)
      (lines : after.linesOf invoice.id = before.linesOf invoice.id)

/-- An invoice is not for a period for which its student is billed. -/
def Bystander (before : Store) (students : List Student) (period : Period) (invoice : Invoice) :
    Prop :=
  ∀ student ∈ students, invoice.studentId = student.id → invoice.period = period →
    before.chargesOf student.id period = .ok []

/-- All that drafting a period for students does. -/
structure MonthDrafted (before : Store) (students : List Student) (period : Period)
    (counts : DraftCounts) (after : Store) : Prop where
  /-- Each student has been billed what the student is charged. -/
  invoiced : ∀ student ∈ students, ∃ charges, before.chargesOf student.id period = .ok charges ∧
    (charges ≠ [] → Charge.AllFit charges → before.InvoicedFor student.id period charges after)
  /-- The counts are those of the outcomes. -/
  counted : ∃ outcomes, List.Forall₂ (before.ComesTo period) students outcomes ∧
    counts = outcomes.foldl DraftCounts.count { period }
  /-- All other invoices are the same. -/
  others : ∀ invoice, before.Bystander students period invoice →
    (invoice ∈ after.invoices ↔ invoice ∈ before.invoices)
  /-- All other invoices have the same lines. -/
  linesOfOthers : ∀ invoice ∈ before.invoices, before.Bystander students period invoice →
    after.linesOf invoice.id = before.linesOf invoice.id
  /-- Every line still belongs to an invoice. -/
  owned : after.LinesOwned
  /-- The rules that bind invoices are kept; so there is one invoice for a student and period. -/
  kept : Table.WellKept after.invoices
  /-- No other table has changed. -/
  only : after = { before with invoices := after.invoices, lines := after.lines }

variable {before after : Store} {period : Period} {studentId : Int}

/-! ## One student -/

/-- There is at most one invoice of a student for a period. -/
theorem eq_of_sameMonth {first second : Invoice} (kept : Table.WellKept before.invoices)
    (memFirst : first ∈ before.invoices) (memSecond : second ∈ before.invoices)
    (owner : first.studentId = second.studentId) (month : first.period = second.period) :
    first = second := by
  by_contra different
  have keys : Row.key first ≠ Row.key second := fun same =>
    different (kept.ordered.eq_of_key_eq memFirst memSecond same)
  have apart := kept.distinct first memFirst second memSecond keys _ List.mem_cons_self
  simp [owner, month] at apart

theorem invoiceOf?_eq_some_iff {invoice : Invoice} (kept : Table.WellKept before.invoices) :
    before.invoiceOf? studentId period = some invoice ↔
      invoice ∈ before.invoices ∧ invoice.studentId = studentId ∧ invoice.period = period := by
  refine ⟨invoiceOf?_eq_some, ?_⟩
  rintro ⟨mem, owner, month⟩
  cases found : before.invoiceOf? studentId period with
  | none => exact absurd month (invoiceOf?_eq_none_iff.mp found invoice mem owner)
  | some other =>
      obtain ⟨memOther, ownerOther, monthOther⟩ := invoiceOf?_eq_some found
      rw [eq_of_sameMonth kept memOther mem (ownerOther.trans owner.symm)
        (monthOther.trans month.symm)]

/-- A student without lines is charged nothing. -/
theorem chargesOf_eq_nil (none : before.billedLines studentId period = .ok []) :
    before.chargesOf studentId period = .ok [] := by
  obtain ⟨charges, charged, drafted, -⟩ := exists_chargesOf none
  cases drafted
  exact charged

/-- A student who owes something is charged something. -/
theorem Owes.exists_charges {drafts : List DraftLine} {total : Decimal}
    (owes : before.Owes studentId period drafts total) :
    ∃ charges, before.chargesOf studentId period = .ok charges ∧ charges ≠ [] ∧
      before.enrollmentsOf studentId ≠ [] := by
  obtain ⟨charges, charged, drafted, -⟩ := exists_chargesOf owes.lines
  refine ⟨charges, charged, ?_, ?_⟩
  · rintro rfl
    cases drafted
    exact owes.some rfl
  · intro none
    have lines := owes.lines
    rw [billedLines, none] at lines
    cases lines
    exact owes.some rfl

/-- A draft that bills a student has the lines of the charges and their sum. -/
theorem Bills.exact {invoice : Invoice} {charges : List Charge}
    (bills : before.Bills studentId period invoice after) (owned : before.LinesOwned)
    (few : before.enrollments.length ≤ Table.greatestSize)
    (columns : ∀ old ∈ before.invoices, old.total.FitsColumn)
    (charged : before.chargesOf studentId period = .ok charges) (fits : Charge.AllFit charges) :
    invoice.total = .ofCents (Charge.total charges) ∧
      (after.linesOf invoice.id).map InvoiceLine.toDraftLine = charges.map Charge.line := by
  obtain ⟨drafts, asked, added, owes, own, carries, keptFor⟩ := bills.carries
  rw [owned.linesLeft_eq_nil, List.nil_append] at own
  obtain ⟨_, same, drafted, fewer⟩ := exists_chargesOf owes.lines
  obtain rfl := Except.ok.inj (charged.symm.trans same)
  have fitsLines := Charge.fitsColumns_of_fits drafted carries.lines fits.1
  have sum := Charge.total_isCents drafted carries.lines fits.1 (fewer.trans few) owes.total
  have fitsTotal : invoice.total.FitsColumn := by
    rcases keptFor with keeps | ⟨old, mem, -, sameTotal⟩
    · have small := fits.2.trans (by decide : 10 ^ 12 < 10 ^ 15)
      rw [keepTotal, sum.keepAmount small] at keeps
      exact ⟨_, fits.2, (Except.ok.inj keeps).symm⟩
    · exact sameTotal ▸ columns old mem
  rw [own]
  exact ⟨(sum.of_keepsTotal carries.total fitsTotal).1,
    (Charge.lines_eq drafted carries.lines fitsLines).1⟩

/-- What became of a student is what drafting comes to. -/
theorem Became.comesTo {student : Student} {outcome : DraftOutcome}
    (became : before.Became period after student outcome)
    (kept : Table.WellKept before.invoices) : before.ComesTo period student outcome := by
  cases outcome with
  | notEnrolled =>
      have none : before.enrollmentsOf student.id = [] := became
      exact ⟨[], by rw [chargesOf, none]; rfl, by simp [outcomeOf, none]⟩
  | withoutLines => exact ⟨[], chargesOf_eq_nil became.2, by simp [outcomeOf, became.1]⟩
  | alreadyInvoiced =>
      obtain ⟨⟨drafts, total, owes⟩, invoice, mem, owner, month, past⟩ := became
      obtain ⟨charges, charged, some, enrolled⟩ := owes.exists_charges
      have found := (invoiceOf?_eq_some_iff kept).mpr ⟨mem, owner, month⟩
      exact ⟨charges, charged, by simp [outcomeOf, enrolled, some, found, past]⟩
  | created =>
      obtain ⟨vacant, invoice, bills⟩ := became
      obtain ⟨drafts, total, added, owes, -⟩ := bills.carries
      obtain ⟨charges, charged, some, enrolled⟩ := owes.exists_charges
      exact ⟨charges, charged, by simp [outcomeOf, enrolled, some, vacant]⟩
  | updated =>
      obtain ⟨invoice, bills, old, mem, made⟩ := became
      obtain ⟨drafts, total, added, owes, -⟩ := bills.carries
      obtain ⟨charges, charged, some, enrolled⟩ := owes.exists_charges
      have owner : old.studentId = student.id := by rw [← bills.owner, made]
      have month : old.period = period := by rw [← bills.month, made]
      have draft : old.status = .draft := by rw [← bills.draft, made]
      have found := (invoiceOf?_eq_some_iff kept).mpr ⟨mem, owner, month⟩
      exact ⟨charges, charged, by simp [outcomeOf, enrolled, some, found, draft]⟩

/-- A student whose invoice is a bystander owes nothing. -/
theorem Bystander.not_owes {students : List Student} {student : Student} {invoice : Invoice}
    (bystander : before.Bystander students period invoice) (mem : student ∈ students)
    (owner : invoice.studentId = student.id) (month : invoice.period = period)
    (drafts : List DraftLine) (total : Decimal) :
    ¬before.Owes student.id period drafts total := by
  intro owes
  obtain ⟨charges, charged, some, -⟩ := owes.exists_charges
  exact some (Except.ok.inj (charged.symm.trans (bystander student mem owner month)))

/-! ## All students -/

namespace BilledSoFar

variable {done : List Student} {outcomes : List DraftOutcome}

/-- Something became of every student. -/
theorem exists_became (became : List.Forall₂ (before.Became period after) done outcomes) :
    ∀ student ∈ done, ∃ outcome, before.Became period after student outcome := by
  induction became with
  | nil => exact List.forall_mem_nil _
  | cons first rest ih => exact List.forall_mem_cons.mpr ⟨⟨_, first⟩, ih⟩

/-- An invoice that no student was billed is unchanged with its lines. -/
theorem unchanged (billed : BilledSoFar before period done outcomes after)
    (ordered : Table.Ordered before.invoices) {invoice : Invoice}
    (mem : invoice ∈ before.invoices)
    (spared : ∀ student ∈ done, invoice.studentId = student.id → invoice.period = period →
      invoice.status = .draft → ∀ drafts total, ¬before.Owes student.id period drafts total) :
    invoice ∈ after.invoices ∧ after.linesOf invoice.id = before.linesOf invoice.id := by
  obtain ⟨later, memLater, same⟩ := billed.stays invoice mem
  rcases billed.invoices later memLater with ⟨old, lines⟩ | ⟨student, memStudent, bills⟩
  · obtain rfl := ordered.eq_of_key_eq old mem same
    exact ⟨memLater, lines⟩
  · -- an invoice that was billed has a new key, or was a draft of a student who owes something
    exfalso
    rcases bills.origin with ⟨fresh, -, -⟩ | ⟨old, memOld, made⟩
    · exact fresh invoice mem same.symm
    · have oldKey : old.id = later.id := by rw [made]
      obtain rfl := ordered.eq_of_key_eq memOld mem (oldKey.trans same)
      obtain ⟨drafts, total, -, owes, -⟩ := bills.carries
      refine spared student memStudent ?_ ?_ ?_ drafts total owes
      · rw [← bills.owner, made]
      · rw [← bills.month, made]
      · rw [← bills.draft, made]

/-- Every line still belongs to an invoice. -/
theorem owned (billed : BilledSoFar before period done outcomes after)
    (owned : before.LinesOwned) : after.LinesOwned := by
  intro line mem
  by_contra stray
  have absent : ∀ invoice ∈ after.invoices, invoice.id ≠ line.invoiceId :=
    fun invoice memInvoice same => stray ⟨invoice, memInvoice, same.symm⟩
  have listed : line ∈ after.linesOf line.invoiceId := by simp [linesOf, mem]
  rw [billed.strayLines _ absent] at listed
  obtain ⟨old, memOld, own⟩ := owned line (List.mem_of_mem_filter listed)
  obtain ⟨later, memLater, same⟩ := billed.stays old memOld
  exact absent later memLater (same.trans own.symm)

/-- A student who is charged something has been invoiced for it. -/
theorem invoicedFor (billed : BilledSoFar before period done outcomes after)
    (kept : Table.WellKept before.invoices) (owned : before.LinesOwned)
    (few : before.enrollments.length ≤ Table.greatestSize)
    (columns : ∀ old ∈ before.invoices, old.total.FitsColumn) {student : Student}
    {outcome : DraftOutcome} (became : before.Became period after student outcome)
    {charges : List Charge} (charged : before.chargesOf student.id period = .ok charges)
    (some : charges ≠ []) (fits : Charge.AllFit charges) :
    before.InvoicedFor student.id period charges after := by
  cases outcome with
  | notEnrolled =>
      have none : before.enrollmentsOf student.id = [] := became
      rw [chargesOf, none] at charged
      exact absurd (Except.ok.inj charged).symm some
  | withoutLines =>
      exact absurd (Except.ok.inj (charged.symm.trans (chargesOf_eq_nil became.2))) some
  | alreadyInvoiced =>
      obtain ⟨-, invoice, mem, owner, month, past⟩ := became
      obtain ⟨later, lines⟩ := billed.unchanged kept.ordered mem
        fun _ _ _ _ draft => absurd draft past
      exact .left mem owner month past later lines
  | created =>
      obtain ⟨vacant, invoice, bills⟩ := became
      obtain ⟨total, lines⟩ := bills.exact owned few columns charged fits
      rcases bills.origin with ⟨fresh, vacant, made⟩ | ⟨old, mem, made⟩
      · refine .created vacant fresh bills.mem ?_ (total ▸ made) lines
        intro other memOther owner month
        exact eq_of_sameMonth billed.kept memOther bills.mem (owner.trans bills.owner.symm)
          (month.trans bills.month.symm)
      · have owner : old.studentId = student.id := by rw [← bills.owner, made]
        have month : old.period = period := by rw [← bills.month, made]
        exact absurd month (invoiceOf?_eq_none_iff.mp vacant old mem owner)
  | updated =>
      obtain ⟨invoice, bills, old, mem, made⟩ := became
      obtain ⟨total, lines⟩ := bills.exact owned few columns charged fits
      have key : invoice.id = old.id := by rw [made]
      have owner : old.studentId = student.id := by rw [← bills.owner, made]
      have month : old.period = period := by rw [← bills.month, made]
      have draft : old.status = .draft := by rw [← bills.draft, made]
      refine .redrawn mem owner month draft ?_ (key ▸ lines)
      rw [← total, ← made]
      exact bills.mem

/-- Students who were billed one after another are all that drafting did. -/
theorem monthDrafted (billed : BilledSoFar before period done outcomes after)
    (kept : Table.WellKept before.invoices) (owned : before.LinesOwned)
    (few : before.enrollments.length ≤ Table.greatestSize)
    (columns : ∀ old ∈ before.invoices, old.total.FitsColumn) :
    before.MonthDrafted done period (outcomes.foldl DraftCounts.count { period }) after where
  invoiced student mem := by
    obtain ⟨outcome, became⟩ := exists_became billed.became student mem
    obtain ⟨charges, charged, -⟩ := became.comesTo kept
    exact ⟨charges, charged, billed.invoicedFor kept owned few columns became charged⟩
  counted := ⟨outcomes, billed.became.imp fun _ _ became => became.comesTo kept, rfl⟩
  others invoice bystander := by
    constructor
    · intro mem
      rcases billed.invoices invoice mem with ⟨old, -⟩ | ⟨student, memStudent, bills⟩
      · exact old
      · obtain ⟨drafts, total, -, owes, -⟩ := bills.carries
        exact absurd owes (bystander.not_owes memStudent bills.owner bills.month drafts total)
    · intro mem
      exact (billed.unchanged kept.ordered mem fun student memStudent owner month _ =>
        bystander.not_owes memStudent owner month).1
  linesOfOthers invoice mem bystander :=
    (billed.unchanged kept.ordered mem fun student memStudent owner month _ =>
      bystander.not_owes memStudent owner month).2
  owned := billed.owned owned
  kept := billed.kept
  only := billed.only

end BilledSoFar
end Store

/-- Drafting that answers with counts has billed each student what the student is charged, has
counted the outcomes, and has done nothing else. -/
theorem drafting_bills_charges (world : World) (billAll : Bool) (period : Period)
    (accepted : period.accepts) (students : Table.Ordered world.store.students)
    (kept : Table.WellKept world.store.invoices) (owned : world.store.LinesOwned)
    (few : world.store.enrollments.length ≤ Table.greatestSize)
    (columns : ∀ invoice ∈ world.store.invoices, invoice.total.FitsColumn)
    {counts : DraftCounts} {after : World}
    (done : (generateDrafts billAll period).perform world.begin = (.ok (.ok counts), after)) :
    world.store.MonthDrafted (world.store.toBill billAll) period counts after.store := by
  obtain ⟨-, reached⟩ :=
    (ends_generateDrafts_billed billAll accepted world.settled_begin).of_ok done
  rcases reached with ⟨_, same, able⟩ | ⟨fault, impossible, -⟩
  · obtain rfl := Except.ok.inj same
    have distinct : ([] ++ world.store.toBill billAll).Pairwise
        fun (first second : Student) => first.id ≠ second.id :=
      (students.sublist (world.store.toBill_sublist billAll)).imp fun below => Int.ne_of_lt below
    obtain ⟨outcomes, billed, rfl⟩ := Store.billedSoFar_of_billEach
      (Store.BilledSoFar.refl kept) kept.ordered distinct able
    exact billed.monthDrafted kept owned few columns
  · cases impossible

/-- The records of three students: one without an invoice who is charged three lessons and a
month, one with an old draft, and one with an invoice that is issued. -/
def Store.withThreeStudents : Store where
  students := [⟨1, "Anna", "", "", "", true⟩, ⟨2, "Berta", "", "", "", true⟩,
    ⟨3, "Clara", "", "", "", true⟩]
  courses := [⟨1, "Violin", .individual, .ofCents 1000, .ofCents 2500, true⟩,
    ⟨2, "Choir", .group, .ofCents 0, .ofCents 1999, true⟩]
  enrollments :=
    [⟨1, 1, 1, .perLesson, .ofCents 1000, ""⟩, ⟨2, 1, 2, .subscription, .ofCents 0, ""⟩,
     ⟨3, 2, 1, .subscription, .ofCents 0, ""⟩, ⟨4, 3, 1, .subscription, .ofCents 0, ""⟩]
  attendance := [⟨1, 1, 1, 2024, 1, 3, false⟩]
  invoices := [{ Invoice.draft 2 ⟨2024, 1⟩ (.ofCents 100) with id := 1 },
    { Invoice.draft 3 ⟨2024, 1⟩ (.ofCents 200) with id := 2, status := .issued }]
  lines := [⟨⟨3, "Old", 1, .ofCents 100, .ofCents 100⟩, 1, 1⟩]

/-- Drafting for three students makes one draft, redraws one and leaves one invoice; the first
student is invoiced for three lessons and a month. -/
theorem drafting_bills_charges_of_three :
    ∃ after,
      (generateDrafts false ⟨2024, 1⟩).perform (World.struckAt .render .withThreeStudents).begin =
        (.ok (.ok ⟨⟨2024, 1⟩, 1, 1, 1, 0⟩), after) ∧
      Store.withThreeStudents.InvoicedFor 1 ⟨2024, 1⟩
        [⟨1, "Lessons: Violin (01.2024)", 3, 900⟩, ⟨2, "Subscription: Choir (01.2024)", 1, 1999⟩]
        after.store := by
  have counted : ((generateDrafts false ⟨2024, 1⟩).perform
      (World.struckAt .render .withThreeStudents).begin).1 =
        .ok (.ok ⟨⟨2024, 1⟩, 1, 1, 1, 0⟩) := by
    decide +kernel
  have charged : Store.withThreeStudents.chargesOf 1 ⟨2024, 1⟩ =
      .ok [⟨1, "Lessons: Violin (01.2024)", 3, 900⟩,
        ⟨2, "Subscription: Choir (01.2024)", 1, 1999⟩] := by decide +kernel
  have owned : Store.withThreeStudents.LinesOwned := by
    unfold Store.LinesOwned
    decide
  have columns : ∀ invoice ∈ Store.withThreeStudents.invoices, invoice.total.FitsColumn :=
    List.forall_mem_cons.mpr ⟨⟨100, by decide, rfl⟩,
      List.forall_mem_cons.mpr ⟨⟨200, by decide, rfl⟩, List.forall_mem_nil _⟩⟩
  refine ⟨_, Prod.ext counted rfl, ?_⟩
  have drafted :=
    drafting_bills_charges (World.struckAt .render .withThreeStudents) false ⟨2024, 1⟩
      rfl (by decide) (by decide) owned (by decide) columns (Prod.ext counted rfl)
  obtain ⟨charges, same, invoiced⟩ := drafted.invoiced ⟨1, "Anna", "", "", "", true⟩ (by decide)
  obtain rfl := Except.ok.inj (charged.symm.trans same)
  exact invoiced (by decide) ⟨by unfold Charge.Fits; decide, by decide⟩

end Tuition
