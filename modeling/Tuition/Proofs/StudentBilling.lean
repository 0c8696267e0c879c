/-
# Billing as a change of the store

What billing does to the records is a function of the records: `Store.bill` bills one student, and
`Store.billEach` bills students one after another. Drafting does exactly this. Where it ends with
a value it has billed all students that were asked for; where a fault breaks it off it has billed
the first of them and has left nothing of the one at hand.
-/

import Tuition.Proofs.Drafting
import Tuition.Proofs.Pricing

namespace Tuition

open Billing

/-- The numbers of a period fit into words. -/
theorem Period.fits_of_accepts {period : Period} (accepted : period.accepts) :
    ∀ number ∈ [period.year, period.month], Word.fits number := by
  have bound : Word.bound = 9223372036854775808 := rfl
  simp only [Period.accepts, Bool.and_eq_true, decide_eq_true_eq] at accepted
  simp only [List.forall_mem_cons, Word.fits, Bool.and_eq_true, decide_eq_true_eq]
  exact ⟨by omega, by omega, List.forall_mem_nil _⟩

namespace Store

/-- The invoice of a student for a period, as it is kept. -/
def invoiceOf? (store : Store) (studentId : Int) (period : Period) : Option Invoice :=
  store.invoices.find? fun invoice => invoice.studentId == studentId && invoice.period == period

/-- Write a new draft with its lines. -/
def addDraft (store : Store) (studentId : Int) (period : Period) (drafts : List DraftLine)
    (total : Decimal) : Except Fault Store := do
  let written ← Table.insert store.invoices (.draft studentId period total)
  let lines ← Table.insertAll store.lines (drafts.map (.ofDraft written.1.id))
  return { store with invoices := written.2, lines }

/-- Replace the lines and the total of a draft. -/
def rebuildDraft (store : Store) (draft : Invoice) (drafts : List DraftLine) (total : Decimal) :
    Except Fault Store := do
  Table.requireWords [draft.id]
  let lines ← Table.insertAll (store.lines.filter (·.invoiceId != draft.id))
    (drafts.map (.ofDraft draft.id))
  let kept ← Access.totalToKeep store.invoices { draft with total }
  let invoices ← Table.replace store.invoices { draft with total := kept }
  return { store with invoices, lines }

/-- Bring an invoice that was found, or none, in line with lines and their total. -/
def bringInLine (store : Store) (found : Option Invoice) (studentId : Int) (period : Period)
    (drafts : List DraftLine) (total : Decimal) : Except Fault (DraftOutcome × Store) :=
  match found with
  | none => (store.addDraft studentId period drafts total).map fun after => (.created, after)
  | some invoice =>
    match invoice.status with
    | .draft => (store.rebuildDraft invoice drafts total).map fun after => (.updated, after)
    | _ => .ok (.alreadyInvoiced, store)

/-- Bring the invoice of a student for a period in line with its lines and their total. -/
def writeDraft (store : Store) (studentId : Int) (period : Period) (drafts : List DraftLine)
    (total : Decimal) : Except Fault (DraftOutcome × Store) :=
  store.bringInLine (store.invoiceOf? studentId period) studentId period drafts total

/-- Bill lines to a student for a period. -/
def billLines (period : Period) (student : Student) (drafts : List DraftLine) (store : Store) :
    Except Fault (DraftOutcome × Store) := do
  if drafts.isEmpty then return (.withoutLines, store)
  let total ← (DraftLine.total drafts).mapError .arithmetic
  Table.requireWords [student.id, period.year, period.month]
  store.writeDraft student.id period drafts total

/-- Bill enrollments to a student for a period. -/
def billEnrollments (period : Period) (student : Student) (enrollments : List Enrollment)
    (store : Store) : Except Fault (DraftOutcome × Store) := do
  if enrollments.isEmpty then return (.notEnrolled, store)
  let drafts ← store.priceBook.draftLines period enrollments
  billLines period student drafts store

/-- Bill a student for a period. -/
def bill (period : Period) (student : Student) (store : Store) :
    Except Fault (DraftOutcome × Store) := do
  Table.requireWords [student.id]
  billEnrollments period student (store.enrollmentsOf student.id) store

/-- Bill students one after another. -/
def billEach (counts : DraftCounts) : List Student → Store → Except Fault (DraftCounts × Store)
  | [], store => .ok (counts, store)
  | student :: others, store => do
    let billed ← store.bill counts.period student
    billEach (counts.count billed.1) others billed.2

/-- The students to bill: the active ones, or all of them if none is active and that is wanted. -/
def toBill (store : Store) (billAll : Bool) : List Student :=
  let active := store.students.filter (·.active)
  if active.isEmpty && billAll then store.students else active

theorem toBill_sublist (store : Store) (billAll : Bool) :
    (store.toBill billAll).Sublist store.students := by
  unfold toBill
  dsimp only
  split
  · exact .refl _
  · exact List.filter_sublist

end Store

namespace Billing

open Tx

/-! ## Operations as functions of the store -/

theorem does_addInvoice (invoice : Invoice) :
    (Access.addInvoice invoice).Does fun store =>
      (Table.insert store.invoices invoice).map fun written =>
        (Row.shown written.1, { store with invoices := written.2 }) := by
  refine (does_access (does_bind (does_look (·.invoices)) fun rows =>
    does_bind (does_lift (Table.insert rows invoice)) fun written =>
      does_bind (does_change fun store => { store with invoices := written.2 }) fun _ =>
        does_pure (Row.shown written.1))).congr fun store => ?_
  cases inserted : Table.insert store.invoices invoice with
  | ok written => simp [bind, Except.bind, inserted, Except.map, Table.requireWords]
  | error fault => simp [bind, Except.bind, inserted, Except.map, Table.requireWords]

theorem does_addLines (invoiceId : Int) (drafts : List DraftLine) :
    (Access.addLines invoiceId drafts).Does fun store =>
      (Table.insertAll store.lines (drafts.map (.ofDraft invoiceId))).map fun lines =>
        ((), { store with lines }) := by
  refine (does_access (does_bind (does_look (·.lines)) fun rows =>
    does_bind (does_lift (Table.insertAll rows (drafts.map (.ofDraft invoiceId)))) fun lines =>
      does_change fun store => { store with lines })).congr fun store => ?_
  cases inserted : Table.insertAll store.lines (drafts.map (.ofDraft invoiceId)) with
  | ok lines => simp [bind, Except.bind, inserted, Except.map, Table.requireWords]
  | error fault => simp [bind, Except.bind, inserted, Except.map, Table.requireWords]

theorem does_removeLines (invoiceId : Int) :
    (Access.removeLines invoiceId).Does fun store =>
      Table.requireWords [invoiceId] >>= fun _ =>
        .ok ((), { store with lines := store.lines.filter (·.invoiceId != invoiceId) }) :=
  does_access (does_change _)

theorem does_saveInvoice (invoice : Invoice) :
    (Access.saveInvoice invoice).Does fun store =>
      Access.totalToKeep store.invoices invoice >>= fun total =>
        (Table.replace store.invoices { invoice with total }).map fun invoices =>
          ((), { store with invoices }) := by
  refine (does_access (does_bind (does_look (·.invoices)) fun rows =>
    does_bind (does_lift (Access.totalToKeep rows invoice)) fun total =>
      does_bind (does_lift (Table.replace rows { invoice with total })) fun invoices =>
        does_change fun store => { store with invoices })).congr fun store => ?_
  cases keeps : Access.totalToKeep store.invoices invoice with
  | error fault => simp [bind, Except.bind, keeps, Except.map, Table.requireWords]
  | ok total =>
      cases replaced : Table.replace store.invoices { invoice with total } with
      | ok invoices => simp [bind, Except.bind, keeps, replaced, Except.map, Table.requireWords]
      | error fault => simp [bind, Except.bind, keeps, replaced, Except.map, Table.requireWords]

theorem does_addDraft (studentId : Int) (period : Period) (drafts : List DraftLine)
    (total : Decimal) :
    (do
      let invoice ← Access.addInvoice (.draft studentId period total)
      Access.addLines invoice.id drafts
      return .created : Tx DraftOutcome).Does fun store =>
        (store.addDraft studentId period drafts total).map fun after => (.created, after) := by
  refine (does_bind (does_addInvoice _) fun invoice =>
    does_bind (does_addLines invoice.id drafts) fun _ =>
      does_pure DraftOutcome.created).congr fun store => ?_
  simp only [Store.addDraft]
  cases Table.insert store.invoices (.draft studentId period total) with
  | error fault => rfl
  | ok written =>
      have sameKey : (Row.shown written.1).id = written.1.id := rfl
      simp only [Except.map, bind, Except.bind, sameKey]
      cases Table.insertAll store.lines (drafts.map (.ofDraft written.1.id)) <;> rfl

theorem does_rebuildDraft (draft : Invoice) (drafts : List DraftLine) (total : Decimal) :
    (do
      Access.removeLines draft.id
      Access.addLines draft.id drafts
      Access.saveInvoice { draft with total }
      return .updated : Tx DraftOutcome).Does fun store =>
        (store.rebuildDraft draft drafts total).map fun after => (.updated, after) := by
  refine (does_bind (does_removeLines draft.id) fun _ =>
    does_bind (does_addLines draft.id drafts) fun _ =>
      does_bind (does_saveInvoice { draft with total }) fun _ =>
        does_pure DraftOutcome.updated).congr fun store => ?_
  simp only [Store.rebuildDraft]
  cases Table.requireWords [draft.id] with
  | error fault => rfl
  | ok =>
      simp only [Except.map, bind, Except.bind]
      cases Table.insertAll (store.lines.filter (·.invoiceId != draft.id))
          (drafts.map (.ofDraft draft.id)) with
      | error fault => rfl
      | ok lines =>
          dsimp only
          cases Access.totalToKeep store.invoices { draft with total } with
          | error fault => rfl
          | ok kept =>
              dsimp only
              cases Table.replace store.invoices { draft with total := kept } <;> rfl

/-- Writing a draft does what it does to the store. -/
theorem does_writeDraft (studentId : Int) (period : Period) (drafts : List DraftLine)
    (total : Decimal) :
    (writeDraft studentId period drafts total).Does fun store =>
      Table.requireWords [studentId, period.year, period.month] >>= fun _ =>
        store.writeDraft studentId period drafts total := by
  refine (does_bind reads_access fun found =>
    (?_ : Does _ fun store => store.bringInLine found studentId period drafts total)).congr
      fun store => ?_
  · rcases found with _ | invoice
    · exact does_addDraft studentId period drafts total
    · rcases invoice with ⟨id, owner, month, amount, status, number, issuedAt, paidAt⟩
      cases status with
      | draft => exact does_rebuildDraft _ drafts total
      | issued => exact does_pure _
      | paid => exact does_pure _
      | canceled => exact does_pure _
  · simp only [Store.writeDraft, Store.invoiceOf?]
    cases Table.requireWords [studentId, period.year, period.month] with
    | error fault => rfl
    | ok =>
        cases store.invoices.find? fun invoice =>
            invoice.studentId == studentId && invoice.period == period with
        | none => rfl
        | some invoice => rfl

theorem does_billLines (period : Period) (student : Student) (drafts : List DraftLine) :
    (do
      if drafts.isEmpty then return .withoutLines
      let total ← Tx.arithmetic (DraftLine.total drafts)
      let outcome ← writeDraft student.id period drafts total
      Tx.commit
      return outcome : Tx DraftOutcome).Does (Store.billLines period student drafts) := by
  by_cases none : drafts.isEmpty
  · rw [if_pos none]
    exact (does_pure DraftOutcome.withoutLines).congr fun store => (if_pos none).symm
  rw [if_neg none]
  refine (does_bind (does_lift _) fun total =>
    does_bind (does_writeDraft _ _ _ total) fun outcome =>
      does_bind does_commit fun _ => does_pure outcome).congr fun store => ?_
  simp only [Store.billLines, if_neg none]
  cases (DraftLine.total drafts).mapError Fault.arithmetic with
  | error fault => rfl
  | ok total =>
      simp only [Except.map, bind, Except.bind]
      cases Table.requireWords [student.id, period.year, period.month] with
      | error fault => rfl
      | ok =>
          dsimp only
          cases store.writeDraft student.id period drafts total <;> rfl

/-- Billing a student does what it does to the store. -/
theorem does_draftFor (period : Period) (student : Student) :
    (draftFor period student).Does (Store.bill period student) := by
  refine (does_bind reads_access fun enrollments =>
    (?_ : Does _ (Store.billEnrollments period student enrollments))).congr fun store => ?_
  · by_cases none : enrollments.isEmpty
    · rw [if_pos none]
      exact (does_pure DraftOutcome.notEnrolled).congr fun store => (if_pos none).symm
    rw [if_neg none]
    refine (does_bind (reads_draftLines period enrollments) fun drafts =>
      does_billLines period student drafts).congr fun store => ?_
    simp only [Store.billEnrollments, if_neg none]
    cases store.priceBook.draftLines period enrollments <;> rfl
  · simp only [Store.bill, Store.enrollmentsOf]
    cases Table.requireWords [student.id] <;> rfl

/-- Billing students one after another does what it does to the store. -/
theorem does_draftEach (counts : DraftCounts) (students : List Student) :
    (draftEach counts students).Does (Store.billEach counts students) := by
  induction students generalizing counts with
  | nil => exact does_pure counts
  | cons student others ih =>
      exact does_bind (does_draftFor counts.period student) fun outcome =>
        ih (counts.count outcome)

/-- The students to bill are those that the store has for it. -/
theorem reads_studentsToBill (billAll : Bool) :
    (studentsToBill billAll).Reads fun store => .ok (store.toBill billAll) := by
  refine (does_bind reads_access fun active => (?_ : Does _ fun store =>
    .ok (if active.isEmpty && billAll then store.students else active, store))).congr
      fun store => rfl
  by_cases all : active.isEmpty && billAll
  · simp only [all, if_true]
    exact does_access (does_look (·.students))
  · simp only [all]
    exact does_pure active

/-! ## Wherever drafting ends -/

variable {world : World}

/-- Where billing a student ends with a value, it has billed the student; a
fault leaves nothing. -/
theorem ends_draftFor_billed (period : Period) (student : Student) (settled : world.Settled) :
    (draftFor period student).Ends world
      (fun outcome after =>
        Store.bill period student world.store = .ok (outcome, after.store) ∧ after.Settled)
      fun _ after => world.Uncommitted after := by
  refine (does_draftFor period student).ends_of_works settled.works
    ((ends_draftFor period student settled).weaken ?_)
  intro outcome after attempts billed
  rw [attempts.settled] at billed
  exact ⟨billed, attempts.settled⟩

/-- Where billing students ends with a value, it has billed all of them; a fault breaks it off
when the first of them were billed. -/
theorem ends_draftEach_billed (counts : DraftCounts) (students : List Student)
    (settled : world.Settled) :
    (draftEach counts students).Ends world
      (fun billed after =>
        Store.billEach counts students world.store = .ok (billed, after.store) ∧ after.Settled)
      fun _ after => ∃ k ≤ students.length, ∃ billed,
        Store.billEach counts (students.take k) world.store = .ok (billed, after.store) := by
  induction students generalizing world counts with
  | nil => exact ends_pure ⟨rfl, settled⟩
  | cons student others ih =>
      apply ends_bind
      refine (ends_draftFor_billed counts.period student settled).mono ?_ ?_
      · rintro outcome drafted ⟨billed, settled⟩
        refine (ih (counts.count outcome) settled).mono ?_ ?_
        · rintro all after ⟨rest, settled⟩
          exact ⟨bind_eq_ok_iff.mpr ⟨_, billed, rest⟩, settled⟩
        · rintro fault after ⟨k, bound, all, rest⟩
          exact ⟨k + 1, Nat.succ_le_succ bound, all, bind_eq_ok_iff.mpr ⟨_, billed, rest⟩⟩
      · intro fault after uncommitted
        refine ⟨0, Nat.zero_le _, counts, ?_⟩
        rw [uncommitted.store]
        rfl

/-- Drafting a period answers always: with the counts, when all students are billed, or with the
fault that broke it off when the first of them were. -/
theorem ends_generateDrafts_billed (billAll : Bool) {period : Period} (accepted : period.accepts)
    (settled : world.Settled) :
    (generateDrafts billAll period).Ends world
      (fun result after => after.Settled ∧
        ((∃ counts, result = .ok counts ∧
          Store.billEach { period } (world.store.toBill billAll) world.store =
            .ok (counts, after.store)) ∨
        ∃ fault, result = .error (.generatingFailed period fault) ∧
          ∃ k ≤ (world.store.toBill billAll).length, ∃ counts,
            Store.billEach { period } ((world.store.toBill billAll).take k) world.store =
              .ok (counts, after.store)))
      fun _ _ => False := by
  unfold generateDrafts
  simp only [accepted, Bool.not_true, Bool.false_eq_true, if_false]
  apply ends_recover
  apply ends_bind
  refine (reads_studentsToBill billAll).ends_of_works settled.works
    ((ends_studentsToBill settled.works billAll ?_).mono (fun _ _ ends => ends) ?_)
  · rintro students chosen - works ⟨rfl⟩
    have begun : chosen.Settled := works.pending.trans works.store.symm
    apply ends_bind
    refine (ends_draftEach_billed { period } _ begun).mono ?_ ?_
    · rintro counts after ⟨billed, settled⟩
      rw [works.store] at billed
      exact ends_pure ⟨settled, .inl ⟨counts, rfl, billed⟩⟩
    · rintro fault after ⟨k, bound, counts, billed⟩
      rw [works.store] at billed
      exact ends_bind (ends_rollback (ends_pure
        ⟨after.settled_begin, .inr ⟨fault, rfl, k, bound, counts, billed⟩⟩))
  · intro fault after uncommitted
    refine ends_bind (ends_rollback (ends_pure
      ⟨after.settled_begin, .inr ⟨fault, rfl, 0, Nat.zero_le _, { period }, ?_⟩⟩))
    have same : after.begin.store = world.store := uncommitted.store
    rw [same]
    rfl

/-- In a calm, students are billed one after another if the store can bill them. -/
theorem perform_draftEach_of_calm {counts billed : DraftCounts} {students : List Student}
    {store : Store} (settled : world.Settled) (calm : world.Calm)
    (able : Store.billEach counts students world.store = .ok (billed, store)) :
    ∃ after, (draftEach counts students).perform world = (.ok billed, after) ∧
      after.store = store := by
  rw [← settled] at able
  obtain ⟨after, performed, pending, -⟩ :=
    (does_draftEach counts students).perform_of_ok calm able
  have attempts := (ends_draftEach students counts settled).of_ok performed
  exact ⟨after, performed, attempts.settled.symm.trans pending⟩

end Billing
end Tuition
