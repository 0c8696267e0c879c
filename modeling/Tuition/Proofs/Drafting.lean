/-
# How drafting ends

A billing run goes through the students in order and commits after each, so what it did is a run
of single transactions, each of which drafts the invoice of one student for the period. A fault
breaks it off between two of them. Deleting a draft is one transaction.
-/

import Tuition.Billing.Drafting
import Tuition.Proofs.Transactions

namespace Tuition.Billing

open Tx

variable {world : World}

/-! ## Looking lines up -/

theorem quiet_arithmetic {α : Type} (result : Except Decimal.Fault α) :
    (PriceBook.arithmetic result : Tx α).Quiet := by
  cases result with
  | ok value => exact quiet_pure value
  | error fault => exact quiet_throw _

theorem quiet_days {α : Type} (result : Except Calendar.Fault α) :
    (PriceBook.days result : Tx α).Quiet := by
  cases result with
  | ok value => exact quiet_pure value
  | error fault => exact quiet_throw _

theorem quiet_resolve (enrollment : Enrollment) (period : Period) :
    (Access.priceBook.resolve enrollment period).Quiet := by
  apply Access.quiet_read.bind
  rintro (_ | course)
  · exact quiet_pure _
  apply (quiet_arithmetic _).bind
  intro prices
  apply (quiet_days _).bind
  rintro ⟨first, last⟩
  exact Access.quiet_read.bind fun _ => quiet_pure _

theorem quiet_draftLine (period : Period) (enrollment : Enrollment) :
    (Access.priceBook.draftLine period enrollment).Quiet := by
  apply (quiet_resolve enrollment period).bind
  rintro (_ | prices)
  · exact quiet_pure _
  dsimp only
  cases enrollment.billingMode with
  | perLesson =>
      apply Access.quiet_read.bind
      intro attendance
      exact (quiet_arithmetic _).bind fun _ => quiet_pure _
  | subscription => exact quiet_arithmetic _
  | unknown => exact quiet_pure _

theorem quiet_draftLines (period : Period) (enrollments : List Enrollment) :
    (Access.priceBook.draftLines period enrollments).Quiet := by
  induction enrollments with
  | nil => exact quiet_pure _
  | cons enrollment others ih =>
      apply (quiet_draftLine period enrollment).bind
      intro line
      exact ih.bind fun _ => quiet_pure _

/-! ## One student -/

/-- The total that an invoice is saved with is one that invoices may have. -/
theorem keptTotal_of_totalToKeep {invoices : List Invoice} {invoice : Invoice} {total : Decimal}
    (keeps : Access.totalToKeep invoices invoice = .ok total) : KeptTotal invoices total := by
  simp only [Access.totalToKeep] at keeps
  cases found : Table.find? invoices invoice.id with
  | none =>
      simp only [found] at keeps
      exact .inr ⟨_, keeps⟩
  | some kept =>
      simp only [found] at keeps
      split at keeps
      · cases keeps
        exact .inl ⟨kept, Table.mem_of_find? found, rfl⟩
      · exact .inr ⟨_, keeps⟩

/-- Writing a draft leaves pending what drafting the invoice comes to, or nothing where the
invoice is past being a draft. -/
theorem ends_writeDraft {origin : World} (works : origin.Works origin.store world)
    {studentId : Int} {period : Period} {lines : List DraftLine} {total : Decimal}
    (owes : origin.store.Owes studentId period lines total) :
    (writeDraft studentId period lines total).Ends world
      (fun _ after => ∃ pending done, done.Sublist [.drafted studentId period] ∧
        History origin.now origin.store done pending ∧ origin.Works pending after)
      fun _ after => origin.Uncommitted after := by
  apply ends_bind
  apply Access.ends_read works
  intro read works
  cases found : origin.store.invoices.find? fun invoice =>
      invoice.studentId == studentId && invoice.period == period with
  | none =>
      have vacant : ∀ other ∈ origin.store.invoices, other.studentId = studentId →
          other.period ≠ period := by
        intro other mem owner same
        have different := List.find?_eq_none.mp found other mem
        simp [owner, same] at different
      apply ends_bind
      apply Access.ends_addInvoice works
      intro invoice invoices between written works
      apply ends_bind
      apply Access.ends_addLines works
      intro lines after attached works
      exact ends_pure ⟨_, _, .refl _, .single (.drafted vacant written attached owes), works⟩
  | some invoice =>
      have mem := List.mem_of_find?_eq_some found
      have same := List.find?_some found
      simp only [Bool.and_eq_true, beq_iff_eq] at same
      obtain ⟨rfl, rfl⟩ := same
      rcases invoice with ⟨id, studentId, period, amount, status, number, issuedAt, paidAt⟩
      cases status with
      | draft =>
          apply ends_bind
          apply Access.ends_removeLines works
          intro between works
          apply ends_bind
          apply Access.ends_addLines works
          intro lines between attached works
          apply ends_bind
          apply Access.ends_saveInvoice works
          intro kept invoices after keeps written works
          refine ends_pure ⟨_, _, .refl _, .single (.redrafted mem rfl ?_ attached written
            ⟨total, owes, keeps⟩), works⟩
          exact keptTotal_of_totalToKeep keeps
      | issued => exact ends_pure ⟨_, [], by simp, .nil, works⟩
      | paid => exact ends_pure ⟨_, [], by simp, .nil, works⟩
      | canceled => exact ends_pure ⟨_, [], by simp, .nil, works⟩

/-- Billing a student drafts the invoice of that student for the period, or does nothing. -/
theorem ends_draftFor (period : Period) (student : Student) (settled : world.Settled) :
    (draftFor period student).Ends world
      (fun _ after => world.Attempts [.drafted student.id period] after)
      fun _ after => world.Uncommitted after := by
  apply ends_bind
  apply Access.ends_read settled.works
  intro read works
  split
  · exact ends_pure (.of_moves_nil works.moves_nil)
  apply ends_bind
  refine (reads_draftLines _ _).ends_of_works works
    (Access.ends_quiet (quiet_draftLines _ _) works ?_)
  intro lines priced works looked
  split
  · exact ends_pure (.of_moves_nil works.moves_nil)
  next some =>
  apply ends_bind
  apply ends_arithmetic _ fun fault _ => works.toUncommitted
  intro total added
  apply ends_bind
  have owes : world.store.Owes student.id period lines total :=
    ⟨looked, by simpa using some, added⟩
  refine (ends_writeDraft works owes).weaken ?_
  rintro outcome written ⟨pending, done, sublist, history, works⟩
  apply ends_bind
  apply ends_commit_of_history works history
  intro committed moves
  exact ends_pure ⟨done, sublist, moves⟩

/-! ## All students -/

theorem period_of_count (counts : DraftCounts) (outcome : DraftOutcome) :
    (counts.count outcome).period = counts.period := by
  cases outcome <;> rfl

/-- Billing students one after another drafts the invoices of some of them, in their order; a
fault breaks it off in a transaction that nothing comes of. -/
theorem ends_draftEach (students : List Student) (counts : DraftCounts)
    (settled : world.Settled) :
    (draftEach counts students).Ends world
      (fun _ after => world.Attempts (students.map fun student =>
        .drafted student.id counts.period) after)
      fun _ after => ∃ between, world.Attempts (students.map fun student =>
        .drafted student.id counts.period) between ∧ between.Uncommitted after := by
  induction students generalizing world counts with
  | nil => exact ends_pure (.of_moves_nil (.refl settled))
  | cons student others ih =>
      apply ends_bind
      refine (ends_draftFor counts.period student settled).mono ?_ ?_
      · intro outcome drafted first
        have rest := ih (counts.count outcome) first.settled
        rw [period_of_count] at rest
        refine rest.mono (fun _ _ attempts => first.trans attempts) ?_
        rintro fault after ⟨between, attempts, uncommitted⟩
        exact ⟨between, first.trans attempts, uncommitted⟩
      · intro fault after uncommitted
        exact ⟨world, .of_moves_nil (.refl settled), uncommitted⟩

/-- The students to bill are some of those that there are. -/
theorem ends_studentsToBill {origin : World} {pending : Store}
    {good : List Student → World → Prop} (works : origin.Works pending world) (billAll : Bool)
    (chosen : ∀ students after, students.Sublist pending.students → origin.Works pending after →
      good students after) :
    (studentsToBill billAll).Ends world good fun _ after => origin.Uncommitted after := by
  apply ends_bind
  apply Access.ends_read works
  intro read works
  split
  · exact Access.ends_read works fun after works => chosen _ after (.refl _) works
  · exact ends_pure (chosen _ read List.filter_sublist works)

/-- What drafting a period does until a fault is answered. -/
theorem ends_billStudents (billAll : Bool) (period : Period) (settled : world.Settled) :
    (do
      let students ← studentsToBill billAll
      return .ok (← draftEach { period } students) : Tx (Except Refusal DraftCounts)).Ends world
      (fun _ after => world.Attempts (world.store.students.map fun student =>
        .drafted student.id period) after)
      fun _ after => ∃ between, world.Attempts (world.store.students.map fun student =>
        .drafted student.id period) between ∧ between.Uncommitted after := by
  apply ends_bind
  refine (ends_studentsToBill settled.works billAll ?_).mono (fun _ _ ends => ends) ?_
  · intro students chosen sublist works
    have begun : world.Attempts [] chosen := .of_moves_nil works.moves_nil
    have sublistDeeds := sublist.map fun student => Deed.drafted student.id period
    apply ends_bind
    refine (ends_draftEach students { period } begun.settled).mono ?_ ?_
    · intro counts after attempts
      exact ends_pure ((begun.trans attempts).mono sublistDeeds)
    · rintro fault after ⟨between, attempts, uncommitted⟩
      exact ⟨between, (begun.trans attempts).mono sublistDeeds, uncommitted⟩
  · intro fault after uncommitted
    exact ⟨world, .of_moves_nil (.refl settled), uncommitted⟩

/-- Drafting a period drafts the invoices of some students for it, and no fault gets out of it. -/
theorem ends_generateDrafts (billAll : Bool) (period : Period) (settled : world.Settled) :
    (generateDrafts billAll period).Ends world
      (fun _ after => world.Attempts (world.store.students.map fun student =>
        .drafted student.id period) after)
      fun _ _ => False := by
  unfold generateDrafts
  split
  · exact ends_pure (.of_moves_nil (.refl settled))
  apply ends_recover
  refine (ends_billStudents billAll period settled).mono (fun _ _ attempts => attempts) ?_
  rintro fault after ⟨between, attempts, uncommitted⟩
  exact ends_bind (ends_rollback (ends_pure (attempts.giveUp uncommitted)))

/-- Deleting a draft is one transaction, and no fault gets out of it. -/
theorem ends_deleteDraft (id : Int) (settled : world.Settled) :
    (deleteDraft id).Ends world (world.OneDeed (.draftDeleted id)) fun _ _ => False := by
  refine ends_transaction ?_ fun fault after moves => .inl moves
  apply ends_bind
  apply Access.ends_read settled.works
  intro read works
  cases found : Table.find? world.store.invoices id with
  | none => exact ends_bind (ends_rollback (ends_pure (.inl works.moves_begin)))
  | some invoice =>
      obtain rfl : invoice.id = id := Table.key_of_find? found
      have status : (Row.shown invoice).status = invoice.status := rfl
      simp only [Option.map_some, status]
      by_cases draft : invoice.status = .draft
      · rw [if_neg (not_not_intro draft)]
        apply ends_bind
        apply Access.ends_removeLines works
        intro between works
        apply ends_bind
        apply Access.ends_removeInvoice works
        intro between works
        apply ends_bind
        apply ends_commit_of_history works (.single (.draftDeleted found draft))
        intro after moves
        exact ends_pure (.inr ⟨⟨(), rfl⟩, moves⟩)
      · rw [if_pos draft]
        exact ends_bind (ends_rollback (ends_pure (.inl works.moves_begin)))

end Tuition.Billing
