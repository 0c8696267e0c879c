/-
# Billing again

A student whose draft carries what the student owes is up to date: billing the student again
removes the lines and writes them again, so nothing changes but the keys of lines. Billing that
was broken off can therefore be taken up from the start. The students who were billed are up to
date, the others are billed as they would have been, and in the end the store is the one that
billing leaves that nothing breaks off, but for the keys of lines.
-/

import Tuition.Proofs.MonthDrafted
import Tuition.Proofs.SameBooks

namespace Tuition

open Billing

namespace Store

variable {period : Period} {student : Student} {store first second after : Store} {count : Nat}

/-! ## Stores that differ in the keys of lines -/

/-- Two stores differ at most in the keys of lines. -/
structure Relined (first second : Store) : Prop where
  lines : InvoiceLine.Same first.lines second.lines
  only : second = { first with lines := second.lines }

namespace Relined

variable {third : Store}

theorem refl (store : Store) : store.Relined store :=
  ⟨fun _ => rfl, rfl⟩

theorem trans (relined : first.Relined second) (again : second.Relined third) :
    first.Relined third where
  lines id := (relined.lines id).trans (again.lines id)
  only := by rw [again.only, relined.only]

theorem invoices (relined : first.Relined second) : second.invoices = first.invoices := by
  rw [relined.only]

theorem enrollments (relined : first.Relined second) :
    second.enrollments = first.enrollments := by
  rw [relined.only]

theorem enrollmentsOf_eq (relined : first.Relined second) (studentId : Int) :
    second.enrollmentsOf studentId = first.enrollmentsOf studentId := by
  rw [relined.only]
  rfl

theorem billedLines_eq (relined : first.Relined second) (studentId : Int) (period : Period) :
    second.billedLines studentId period = first.billedLines studentId period := by
  rw [relined.only]
  rfl

theorem invoiceOf?_eq (relined : first.Relined second) (studentId : Int) (period : Period) :
    second.invoiceOf? studentId period = first.invoiceOf? studentId period := by
  rw [relined.only]
  rfl

theorem owes (relined : first.Relined second) {studentId : Int} {drafts : List DraftLine}
    {total : Decimal} (owes : first.Owes studentId period drafts total) :
    second.Owes studentId period drafts total :=
  ⟨(relined.billedLines_eq studentId period).trans owes.lines, owes.some, owes.total⟩

theorem sameBooks (relined : first.Relined second) : first.SameBooks second where
  invoices := by rw [relined.invoices]
  lines := relined.lines
  only := by rw [relined.only]

end Relined

/-- Invoices and lines obey their rules, and there is room for a number of new lines. -/
structure HasRoom (store : Store) (count : Nat) : Prop where
  invoices : Table.WellKept store.invoices
  lines : Table.WellKept store.lines
  room : Table.Room store.lines count

theorem HasRoom.mono {less : Nat} (room : store.HasRoom count) (le : less ≤ count) :
    store.HasRoom less :=
  ⟨room.invoices, room.lines, room.room.mono le⟩

/-! ## One student -/

/-- A student owes at most one line for each enrollment. -/
theorem Owes.length_le {studentId : Int} {drafts : List DraftLine} {total : Decimal}
    (owes : store.Owes studentId period drafts total) :
    drafts.length ≤ (store.enrollmentsOf studentId).length := by
  obtain ⟨charges, charged, drafted⟩ := Store.exists_charges owes.lines
  exact drafted.length_eq ▸ length_charges_le charged

/-- What a student owes is written as a draft. -/
theorem billEnrollments_of_owes {drafts : List DraftLine} {total : Decimal}
    (owes : store.Owes student.id period drafts total) (fits : Word.fits student.id)
    (accepted : period.accepts) :
    billEnrollments period student (store.enrollmentsOf student.id) store =
      store.writeDraft student.id period drafts total := by
  obtain ⟨-, -, -, enrolled⟩ := owes.exists_charges
  have words : Table.requireWords [student.id, period.year, period.month] = .ok () :=
    Table.requireWords_eq_ok_iff.mpr
      (List.forall_mem_cons.mpr ⟨fits, Period.fits_of_accepts accepted⟩)
  have drafted : store.priceBook.draftLines period (store.enrollmentsOf student.id) =
      .ok drafts :=
    owes.lines
  simp only [billEnrollments, billLines, List.isEmpty_iff, enrolled, owes.some, if_false, drafted,
    owes.total, words, Except.mapError, bind, Except.bind]

/-- Billing comes to what it can come to. -/
theorem bill_of_billed {outcome : DraftOutcome}
    (billed : Billed period student store outcome after) (fits : Word.fits student.id)
    (accepted : period.accepts) (kept : Table.WellKept store.invoices) :
    store.bill period student = .ok (outcome, after) := by
  refine bind_eq_ok_iff.mpr ⟨(), Table.requireWords_eq_ok_iff.mpr (by simpa using fits), ?_⟩
  cases billed with
  | notEnrolled none => simp [billEnrollments, none, pure, Except.pure]
  | withoutLines enrolled none =>
      have drafted : store.priceBook.draftLines period (store.enrollmentsOf student.id) =
          .ok [] := none
      simp [billEnrollments, billLines, enrolled, drafted, bind, Except.bind, pure, Except.pure]
  | alreadyInvoiced owes found past =>
      rw [billEnrollments_of_owes owes fits accepted]
      simp only [writeDraft, found, bringInLine]
  | created owes vacant written attached =>
      rw [billEnrollments_of_owes owes fits accepted]
      simp only [writeDraft, vacant, bringInLine, addDraft, written, attached, bind, Except.bind,
        Except.map, pure, Except.pure]
  | @updated _ _ _ invoice _ _ owes found draft attached keeps written =>
      have key : Word.fits invoice.id :=
        kept.words invoice (invoiceOf?_eq_some found).1 _ List.mem_cons_self
      have words : Table.requireWords [invoice.id] = .ok () :=
        Table.requireWords_eq_ok_iff.mpr (by simpa using key)
      rw [billEnrollments_of_owes owes fits accepted]
      obtain ⟨id, owner, month, amount, status, number, issuedAt, paidAt⟩ := invoice
      cases draft
      simp only [writeDraft, found, bringInLine, rebuildDraft, words, attached, keeps,
        written, bind, Except.bind, Except.map, pure, Except.pure]

/-- Billing keeps the rules that bind invoices. -/
theorem Billed.wellKept {outcome : DraftOutcome}
    (billed : Billed period student store outcome after) (kept : Table.WellKept store.invoices) :
    Table.WellKept after.invoices := by
  cases billed with
  | notEnrolled => exact kept
  | withoutLines => exact kept
  | alreadyInvoiced => exact kept
  | created owes vacant written => exact kept.insert written
  | updated owes found draft attached keeps written => exact kept.replace written

/-- Billing writes invoices and lines. -/
theorem Billed.only {outcome : DraftOutcome}
    (billed : Billed period student store outcome after) :
    after = { store with invoices := after.invoices, lines := after.lines } := by
  cases billed <;> rfl

/-- Billing does the same whatever the keys of lines are, if there is room for new ones. -/
theorem Billed.exists_relined {outcome : DraftOutcome}
    (billed : Billed period student first outcome after) (relined : first.Relined second)
    (room : second.HasRoom ((first.enrollmentsOf student.id).length + count)) :
    ∃ other, Billed period student second outcome other ∧ after.Relined other ∧
      other.HasRoom count := by
  have less : second.HasRoom count := room.mono (Nat.le_add_left _ _)
  have enrollments := relined.enrollmentsOf_eq student.id
  have lines := relined.billedLines_eq student.id period
  have invoiced := relined.invoiceOf?_eq student.id period
  cases billed with
  | notEnrolled none => exact ⟨second, .notEnrolled (enrollments.trans none), relined, less⟩
  | withoutLines enrolled none =>
      exact ⟨second, .withoutLines (enrollments ▸ enrolled) (lines.trans none), relined, less⟩
  | alreadyInvoiced owes found past =>
      exact ⟨second, .alreadyInvoiced (relined.owes owes) (invoiced.trans found) past,
        relined, less⟩
  | created owes vacant written attached =>
      rw [← relined.invoices] at written
      obtain ⟨others, again, keptLines, left⟩ := exists_attached room.lines
        (room.room.mono (Nat.add_le_add_right owes.length_le count))
        (admitted_of_attached attached)
      refine ⟨_, .created (relined.owes owes) (invoiced.trans vacant) written again,
        ⟨relined.lines.attach attached again, ?_⟩, room.invoices.insert written, keptLines, left⟩
      rw [relined.only]
  | updated owes found draft attached keeps written =>
      rw [← relined.invoices] at keeps written
      obtain ⟨others, again, keptLines, left⟩ := exists_attached (room.lines.filter _)
        ((room.room.mono (Nat.add_le_add_right owes.length_le count)).filter _)
        (admitted_of_attached attached)
      refine ⟨_, .updated (relined.owes owes) (invoiced.trans found) draft again keeps written,
        ⟨relined.lines.detach.attach attached again, ?_⟩, room.invoices.replace written,
        keptLines, left⟩
      rw [relined.only]

/-! ## Students who are up to date -/

/-- Billing a student again would change nothing but keys of lines. -/
inductive UpToDate (store : Store) (period : Period) (student : Student) : Prop
  | notEnrolled (none : store.enrollmentsOf student.id = [])
  | withoutLines (enrolled : store.enrollmentsOf student.id ≠ [])
      (none : store.billedLines student.id period = .ok [])
  | invoiced {drafts : List DraftLine} {total : Decimal} {invoice : Invoice}
      (owes : store.Owes student.id period drafts total)
      (found : store.invoiceOf? student.id period = some invoice) (past : invoice.status ≠ .draft)
  | drafted {drafts : List DraftLine} {total : Decimal} {invoice : Invoice}
      (owes : store.Owes student.id period drafts total)
      (found : store.invoiceOf? student.id period = some invoice)
      (draft : invoice.status = .draft)
      (carries : invoice.Carries (store.linesOf invoice.id) drafts total)

namespace UpToDate

/-- Billing a student who is up to date changes nothing but keys of lines. -/
theorem exists_billed (upToDate : store.UpToDate period student)
    (room : store.HasRoom ((store.enrollmentsOf student.id).length + count)) :
    ∃ outcome after, Billed period student store outcome after ∧ store.Relined after ∧
      after.HasRoom count := by
  have less : store.HasRoom count := room.mono (Nat.le_add_left _ _)
  cases upToDate with
  | notEnrolled none => exact ⟨_, store, .notEnrolled none, .refl store, less⟩
  | withoutLines enrolled none => exact ⟨_, store, .withoutLines enrolled none, .refl store, less⟩
  | invoiced owes found past =>
      exact ⟨_, store, .alreadyInvoiced owes found past, .refl store, less⟩
  | @drafted drafts total invoice owes found draft carries =>
      obtain ⟨mem, -, -⟩ := invoiceOf?_eq_some found
      have keeps := carries.total.totalToKeep room.invoices.ordered mem
      have written : Table.replace store.invoices { invoice with total := invoice.total } =
          .ok store.invoices := room.invoices.replace_self mem
      have admitted : ∀ draft ∈ drafts, draft.Admitted invoice.id := by
        refine admitted_of_keptAs carries.lines fun line memLine number memNumber => ?_
        obtain ⟨memStore, own⟩ := List.mem_filter.mp memLine
        have fits := room.lines.words line memStore number
        rw [← beq_iff_eq.mp own] at memNumber
        exact fits (List.mem_cons_of_mem _ memNumber)
      obtain ⟨lines, attached, keptLines, left⟩ := exists_attached (room.lines.filter _)
        ((room.room.mono (Nat.add_le_add_right owes.length_le count)).filter _) admitted
      exact ⟨_, _, .updated owes found draft attached keeps written,
        ⟨InvoiceLine.same_of_reattached carries.lines attached, rfl⟩, room.invoices,
        keptLines, left⟩

/-- Whether a student is up to date does not depend on the keys of lines. -/
theorem of_relined (upToDate : first.UpToDate period student) (relined : first.Relined second) :
    second.UpToDate period student := by
  have enrollments := relined.enrollmentsOf_eq student.id
  have lines := relined.billedLines_eq student.id period
  have invoiced := relined.invoiceOf?_eq student.id period
  cases upToDate with
  | notEnrolled none => exact .notEnrolled (enrollments.trans none)
  | withoutLines enrolled none => exact .withoutLines (enrollments ▸ enrolled) (lines.trans none)
  | invoiced owes found past => exact .invoiced (relined.owes owes) (invoiced.trans found) past
  | @drafted _ _ invoice owes found draft carries =>
      refine .drafted (relined.owes owes) (invoiced.trans found) draft ⟨?_, carries.total⟩
      exact DraftLine.keptAs_of_contents_eq carries.lines (relined.lines invoice.id).symm

/-- A student stays up to date when the settings are written. -/
theorem of_settings (upToDate : store.UpToDate period student) (settings : Option Settings) :
    { store with settings }.UpToDate period student := by
  cases upToDate with
  | notEnrolled none => exact .notEnrolled none
  | withoutLines enrolled none => exact .withoutLines enrolled none
  | invoiced owes found past => exact .invoiced ⟨owes.lines, owes.some, owes.total⟩ found past
  | drafted owes found draft carries =>
      exact .drafted ⟨owes.lines, owes.some, owes.total⟩ found draft carries

/-- A student stays up to date when an invoice is issued. -/
theorem of_issued {now : Moment} {id : Int} (upToDate : first.UpToDate period student)
    (step : Transaction now first (.issued id) second) (kept : Table.WellKept first.invoices) :
    second.UpToDate period student := by
  have enrollments : second.enrollmentsOf student.id = first.enrollmentsOf student.id := by
    rw [step.only_of_issued]
    rfl
  have lines : second.billedLines student.id period = first.billedLines student.id period := by
    rw [step.only_of_issued]
    rfl
  have later := step.wellKept kept
  cases upToDate with
  | notEnrolled none => exact .notEnrolled (enrollments.trans none)
  | withoutLines enrolled none => exact .withoutLines (enrollments ▸ enrolled) (lines.trans none)
  | invoiced owes found past =>
      have owesLater := Owes.mk (lines.trans owes.lines) owes.some owes.total
      obtain ⟨mem, owner, month⟩ := invoiceOf?_eq_some found
      rcases step.same_or_numbered kept.ordered mem with ⟨same, -⟩ | ⟨settings, numbered⟩
      · exact .invoiced owesLater ((invoiceOf?_eq_some_iff later).mpr ⟨same, owner, month⟩) past
      · exact .invoiced owesLater ((invoiceOf?_eq_some_iff later).mpr ⟨numbered, owner, month⟩)
          InvoiceStatus.noConfusion
  | drafted owes found draft carries =>
      have owesLater := Owes.mk (lines.trans owes.lines) owes.some owes.total
      obtain ⟨mem, owner, month⟩ := invoiceOf?_eq_some found
      rcases step.same_or_numbered kept.ordered mem with ⟨same, own⟩ | ⟨settings, numbered⟩
      · refine .drafted owesLater
          ((invoiceOf?_eq_some_iff later).mpr ⟨same, owner, month⟩) draft ?_
        rwa [own]
      · exact .invoiced owesLater ((invoiceOf?_eq_some_iff later).mpr ⟨numbered, owner, month⟩)
          InvoiceStatus.noConfusion

/-- A student stays up to date while drafts are issued. -/
theorem of_numbers {ids : List Int} (upToDate : first.UpToDate period student)
    (numbers : first.Numbers ids second) (kept : Table.WellKept first.invoices) :
    second.UpToDate period student := by
  induction numbers with
  | nil => exact upToDate
  | cons step _ ih => exact ih (upToDate.of_issued step kept) (step.wellKept kept)

end UpToDate

/-- Students who were billed are up to date. -/
theorem BilledSoFar.upToDate {before : Store} {done : List Student} {outcomes : List DraftOutcome}
    (billed : BilledSoFar before period done outcomes after)
    (kept : Table.WellKept before.invoices) (owned : before.LinesOwned) :
    ∀ student ∈ done, after.UpToDate period student := by
  intro student mem
  have enrollments := billed.enrollmentsOf_eq student.id
  have lines := billed.billedLines_eq student.id
  have drafted {invoice : Invoice} (bills : before.Bills student.id period invoice after) :
      after.UpToDate period student := by
    obtain ⟨drafts, total, added, owes, own, carries, -⟩ := bills.carries
    rw [owned.linesLeft_eq_nil, List.nil_append] at own
    exact .drafted ⟨lines.trans owes.lines, owes.some, owes.total⟩
      ((invoiceOf?_eq_some_iff billed.kept).mpr ⟨bills.mem, bills.owner, bills.month⟩) bills.draft
      (own ▸ carries)
  obtain ⟨outcome, became⟩ := exists_became billed.became student mem
  cases outcome with
  | notEnrolled => exact .notEnrolled (enrollments.trans became)
  | withoutLines => exact .withoutLines (enrollments ▸ became.1) (lines.trans became.2)
  | alreadyInvoiced =>
      obtain ⟨⟨drafts, total, owes⟩, invoice, memInvoice, owner, month, past⟩ := became
      obtain ⟨later, -⟩ := billed.unchanged kept.ordered memInvoice
        fun _ _ _ _ draft => absurd draft past
      exact .invoiced ⟨lines.trans owes.lines, owes.some, owes.total⟩
        ((invoiceOf?_eq_some_iff billed.kept).mpr ⟨later, owner, month⟩) past
  | created =>
      obtain ⟨-, invoice, bills⟩ := became
      exact drafted bills
  | updated =>
      obtain ⟨invoice, bills, -⟩ := became
      exact drafted bills

/-! ## Students one after another -/

/-- Students were billed one after another. -/
inductive BillsAll (period : Period) : List Student → Store → Store → Prop
  | nil {store : Store} : BillsAll period [] store store
  | cons {student : Student} {others : List Student} {first second third : Store}
      {outcome : DraftOutcome} (step : first.bill period student = .ok (outcome, second))
      (rest : BillsAll period others second third) :
      BillsAll period (student :: others) first third

theorem billsAll_iff (counts : DraftCounts) {students : List Student} :
    BillsAll counts.period students first second ↔
      ∃ total, billEach counts students first = .ok (total, second) := by
  constructor
  · intro billed
    generalize same : counts.period = month at billed
    induction billed generalizing counts with
    | nil => exact ⟨counts, rfl⟩
    | @cons _ _ _ _ _ outcome step rest ih =>
        subst same
        obtain ⟨total, done⟩ := ih (counts.count outcome) (period_of_count counts outcome)
        exact ⟨total, bind_eq_ok_iff.mpr ⟨_, step, done⟩⟩
  · rintro ⟨total, able⟩
    induction students generalizing counts first with
    | nil =>
        cases able
        exact .nil
    | cons student others ih =>
        obtain ⟨⟨outcome, between⟩, step, rest⟩ := bind_eq_ok_iff.mp able
        have done := ih _ rest
        rw [period_of_count] at done
        exact .cons step done

namespace BillsAll

variable {students others : List Student} {between : Store}

theorem append (billed : BillsAll period students first between)
    (rest : BillsAll period others between after) :
    BillsAll period (students ++ others) first after := by
  induction billed with
  | nil => exact rest
  | cons step _ ih => exact .cons step (ih rest)

theorem exists_between (billed : BillsAll period (students ++ others) first after) :
    ∃ between, BillsAll period students first between ∧ BillsAll period others between after := by
  induction students generalizing first with
  | nil => exact ⟨first, .nil, billed⟩
  | cons student students ih =>
      cases billed with
      | cons step rest =>
          obtain ⟨between, begun, ended⟩ := ih rest
          exact ⟨between, .cons step begun, ended⟩

theorem unique (billed : BillsAll period students first second)
    (again : BillsAll period students first after) : after = second := by
  induction billed with
  | nil =>
      cases again
      rfl
  | cons step _ ih =>
      cases again with
      | cons stepAgain restAgain =>
          cases step.symm.trans stepAgain
          exact ih restAgain

theorem wellKept (billed : BillsAll period students first second)
    (kept : Table.WellKept first.invoices) : Table.WellKept second.invoices := by
  induction billed with
  | nil => exact kept
  | cons step _ ih => exact ih ((billed_of_bill step).wellKept kept)

theorem only (billed : BillsAll period students first second) :
    second = { first with invoices := second.invoices, lines := second.lines } := by
  induction billed with
  | nil => rfl
  | cons step rest ih => rw [ih, (billed_of_bill step).only]

/-- Students who can be billed have keys that fit. -/
theorem fits (billed : BillsAll period students first second) :
    ∀ student ∈ students, Word.fits student.id := by
  induction billed with
  | nil => exact List.forall_mem_nil _
  | cons step _ ih =>
      obtain ⟨_, words, -⟩ := bind_eq_ok_iff.mp step
      exact List.forall_mem_cons.mpr
        ⟨Table.requireWords_eq_ok_iff.mp words _ List.mem_cons_self, ih⟩

/-- Students who were billed one after another have been billed as the invariant says. -/
theorem exists_billedSoFar (billed : BillsAll period students first after)
    (kept : Table.WellKept first.invoices)
    (distinct : students.Pairwise fun first second => first.id ≠ second.id) :
    ∃ outcomes, BilledSoFar first period students outcomes after := by
  obtain ⟨total, able⟩ := (billsAll_iff { period }).mp billed
  obtain ⟨outcomes, done, -⟩ :=
    billedSoFar_of_billEach (BilledSoFar.refl kept) kept.ordered distinct able
  exact ⟨outcomes, done⟩

end BillsAll

/-- The number of enrollments of students. -/
def enrollmentCount (store : Store) (students : List Student) : Nat :=
  (students.map fun student => (store.enrollmentsOf student.id).length).sum

theorem enrollmentCount_congr (students : List Student)
    (same : second.enrollments = first.enrollments) :
    second.enrollmentCount students = first.enrollmentCount students := by
  simp only [enrollmentCount, enrollmentsOf, same]

/-- An enrollment is of at most one student. -/
theorem enrollmentCount_le {students : List Student}
    (distinct : students.Pairwise fun first second => first.id ≠ second.id) :
    store.enrollmentCount students ≤ store.enrollments.length := by
  have counted (rows : List Enrollment) :
      (students.map fun student => (rows.filter (·.studentId == student.id)).length).sum ≤
        rows.length := by
    induction students generalizing rows with
    | nil => simp
    | cons student others ih =>
        obtain ⟨apart, distinct⟩ := List.pairwise_cons.mp distinct
        have rest := ih distinct (rows.filter (·.studentId != student.id))
        have same : ∀ other ∈ others,
            (rows.filter (·.studentId == other.id)).length =
              ((rows.filter (·.studentId != student.id)).filter
                (·.studentId == other.id)).length := by
          intro other mem
          rw [List.filter_filter]
          congr 1
          refine List.filter_congr fun row _ => ?_
          by_cases own : row.studentId = other.id
          · simp [own, (apart other mem).symm]
          · simp [own]
        have split := List.length_eq_length_filter_add (l := rows) (·.studentId == student.id)
        rw [List.map_cons, List.sum_cons, List.map_congr_left same]
        simp only [bne] at rest ⊢
        omega
  simpa only [enrollmentCount, enrollmentsOf, List.length_map] using counted store.enrollments

section Resuming

variable {students done rest : List Student} {between other : Store}

/-- Billing students who are up to date changes nothing but keys of lines. -/
theorem exists_billsAll (upToDate : ∀ student ∈ students, store.UpToDate period student)
    (fits : ∀ student ∈ students, Word.fits student.id) (accepted : period.accepts)
    (room : store.HasRoom (store.enrollmentCount students + count)) :
    ∃ after, BillsAll period students store after ∧ store.Relined after ∧
      after.HasRoom count := by
  induction students generalizing store with
  | nil => exact ⟨store, .nil, .refl store, room.mono (Nat.le_add_left _ _)⟩
  | cons student others ih =>
      obtain ⟨upToDateFirst, upToDateRest⟩ := List.forall_mem_cons.mp upToDate
      obtain ⟨fitsFirst, fitsRest⟩ := List.forall_mem_cons.mp fits
      -- the first student takes the share of its own enrollments, and the others have theirs
      have enough : store.HasRoom ((store.enrollmentsOf student.id).length +
          (store.enrollmentCount others + count)) :=
        room.mono (by simp only [enrollmentCount, List.map_cons, List.sum_cons]; omega)
      obtain ⟨outcome, between, billed, relined, left⟩ := upToDateFirst.exists_billed enough
      have sameCount := enrollmentCount_congr others relined.enrollments
      obtain ⟨after, all, relinedRest, leftRest⟩ :=
        ih (fun student mem => (upToDateRest student mem).of_relined relined) fitsRest
          (sameCount ▸ left)
      exact ⟨after, .cons (bill_of_billed billed fitsFirst accepted room.invoices) all,
        relined.trans relinedRest, leftRest⟩

/-- Billing students does the same whatever the keys of lines are. -/
theorem BillsAll.exists_relined (billed : BillsAll period students first after)
    (accepted : period.accepts) (relined : first.Relined second)
    (room : second.HasRoom (second.enrollmentCount students + count)) :
    ∃ other, BillsAll period students second other ∧ after.Relined other ∧
      other.HasRoom count := by
  induction billed generalizing second with
  | nil => exact ⟨second, .nil, relined, room.mono (Nat.le_add_left _ _)⟩
  | @cons student others first between third outcome step all ih =>
      have fits := (BillsAll.cons step all).fits student List.mem_cons_self
      have enough : second.HasRoom ((first.enrollmentsOf student.id).length +
          (second.enrollmentCount others + count)) := by
        rw [← relined.enrollmentsOf_eq]
        exact room.mono (by simp only [enrollmentCount, List.map_cons, List.sum_cons]; omega)
      have billed := billed_of_bill step
      obtain ⟨next, stepNext, relinedNext, left⟩ := billed.exists_relined relined enough
      have enrollments : between.enrollments = first.enrollments := by rw [billed.only]
      have sameCount : next.enrollmentCount others = second.enrollmentCount others :=
        enrollmentCount_congr others
          (relinedNext.enrollments.trans (enrollments.trans relined.enrollments.symm))
      obtain ⟨last, rest, relinedLast, leftLast⟩ := ih relinedNext (sameCount ▸ left)
      exact ⟨last, .cons (bill_of_billed stepNext fits accepted room.invoices) rest, relinedLast,
        leftLast⟩

/-- Billing students takes no more room than they have enrollments. -/
theorem BillsAll.hasRoom (billed : BillsAll period students first after)
    (accepted : period.accepts) (room : first.HasRoom (first.enrollmentCount students + count)) :
    after.HasRoom count := by
  obtain ⟨other, again, -, left⟩ := billed.exists_relined accepted (.refl first) room
  rwa [← billed.unique again]

/-- Billing that was broken off can be taken up from the start. -/
theorem BillsAll.exists_again (billed : BillsAll period (done ++ rest) first after)
    (cut : BillsAll period done first between)
    (upToDate : ∀ student ∈ done, between.UpToDate period student) (accepted : period.accepts)
    (room : between.HasRoom (between.enrollmentCount (done ++ rest))) :
    ∃ again, BillsAll period (done ++ rest) between again ∧ after.Relined again := by
  obtain ⟨_, begun, ended⟩ := billed.exists_between
  obtain rfl := begun.unique cut
  have enough : between.HasRoom
      (between.enrollmentCount done + between.enrollmentCount rest) := by
    simpa [enrollmentCount] using room
  -- those who are done change nothing but keys of lines, so the others find what they had found
  obtain ⟨next, again, relined, left⟩ := exists_billsAll upToDate cut.fits accepted enough
  have remaining : next.HasRoom (next.enrollmentCount rest + 0) := by
    rw [enrollmentCount_congr rest relined.enrollments]
    exact left
  obtain ⟨last, all, relinedLast, -⟩ := ended.exists_relined accepted relined remaining
  exact ⟨last, again.append all, relinedLast⟩

end Resuming

end Store
end Tuition
