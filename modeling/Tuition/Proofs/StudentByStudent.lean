/-
# Drafting stops between students

A fault in the middle of drafting, whatever it is and wherever it strikes, leaves the records as
drafting leaves them that bills the first few of the students and nobody else. So no draft is left
without its lines, with some of them, or with lines of one bill and the total of another.
-/

import Tuition.Proofs.BilledStudents
import Tuition.Proofs.UseCases

namespace Tuition

open Billing

/-- The code of drafting that a fault broke off. -/
def draftingFailedCode : String := "GENERATE_DRAFTS_FAILED"

namespace World

/-- The world as it is committed, with its tables and without outages. -/
def untroubled (world : World) : World :=
  { world.begin with hasTables := true, outages := [] }

theorem calm_untroubled (world : World) : world.untroubled.Calm :=
  ⟨rfl, rfl⟩

end World

namespace Store

/-- The students to bill stand in the order of their keys. -/
theorem toBill_ascending {store : Store} (ordered : Table.Ordered store.students)
    (billAll : Bool) : (store.toBill billAll).Pairwise fun first second => first.id < second.id :=
  ordered.sublist (store.toBill_sublist billAll)

/-- After students were billed one after another, each invoice is as it was with its lines, or it
is the draft of one of them. -/
theorem unchanged_or_bills {before after : Store} {counts total : DraftCounts}
    {students : List Student} (kept : Table.WellKept before.invoices)
    (ascending : students.Pairwise fun first second => first.id < second.id)
    (able : billEach counts students before = .ok (total, after)) :
    ∀ invoice ∈ after.invoices,
      (invoice ∈ before.invoices ∧ after.linesOf invoice.id = before.linesOf invoice.id) ∨
        ∃ student ∈ students, before.Bills student.id counts.period invoice after := by
  have distinct : ([] ++ students).Pairwise fun (first second : Student) =>
      first.id ≠ second.id :=
    ascending.imp fun below => Int.ne_of_lt below
  obtain ⟨further, billed, -⟩ :=
    billedSoFar_of_billEach (BilledSoFar.refl kept) kept.ordered distinct able
  exact billed.invoices

end Store

/-- Drafting a period never raises. Where it refuses it says so under its own code and has
nothing pending, and the store is the one in which the first students to bill, in the order of
their keys, were billed by drafting that nothing strikes. Each invoice is then unchanged with
its lines, or it is the draft of one of these students, with all lines that the student is
charged and their total. -/
theorem drafting_stops_between_students (world : World) (billAll : Bool) (period : Period)
    (accepted : period.accepts) (ordered : Table.Ordered world.store.students)
    (kept : Table.WellKept world.store.invoices) :
    ∃ result after,
      (generateDrafts billAll period).perform world.begin = (.ok result, after) ∧
      ∀ refusal, result = .error refusal →
        refusal.report.code = draftingFailedCode ∧ after.pending = after.store ∧
        (world.store.toBill billAll).Pairwise (fun first second => first.id < second.id) ∧
        ∃ k ≤ (world.store.toBill billAll).length,
          (∃ counts done,
            (draftEach { period } ((world.store.toBill billAll).take k)).perform
              world.untroubled =
              (.ok counts, done) ∧ done.store = after.store) ∧
          ∀ invoice ∈ after.store.invoices,
            (invoice ∈ world.store.invoices ∧
              after.store.linesOf invoice.id = world.store.linesOf invoice.id) ∨
            ∃ student ∈ (world.store.toBill billAll).take k,
              world.store.Bills student.id period invoice after.store := by
  obtain ⟨result, after, performed, settled, reached⟩ :=
    (ends_generateDrafts_billed billAll accepted world.settled_begin).exists_ok
  refine ⟨result, after, performed, ?_⟩
  rintro refusal rfl
  have ascending := Store.toBill_ascending ordered billAll
  rcases reached with ⟨counts, impossible, -⟩ | ⟨fault, same, k, bound, counts, able⟩
  · cases impossible
  obtain rfl := Except.error.inj same
  have firsts := ascending.sublist (List.take_sublist k (world.store.toBill billAll))
  refine ⟨rfl, settled, ascending, k, bound, ⟨counts, ?_⟩, ?_⟩
  · exact perform_draftEach_of_calm rfl world.calm_untroubled able
  · exact Store.unchanged_or_bills kept firsts able

/-- Two students who are charged by the month, of whom the first has an
old draft without lines. -/
def Store.withTwoStudents : Store where
  students := [⟨1, "Anna", "", "", "", true⟩, ⟨2, "Berta", "", "", "", true⟩]
  courses := [⟨1, "Violin", .individual, .ofCents 1000, .ofCents 2500, true⟩]
  enrollments :=
    [⟨1, 1, 1, .subscription, .ofCents 0, ""⟩, ⟨2, 2, 1, .subscription, .ofCents 0, ""⟩]
  invoices := [{ Invoice.sample with total := .ofCents 100 }]

/-- The records of two students, where writing lines breaks off at the second student. -/
def World.struckAtSecond : World :=
  { World.struckAt .addLines .withTwoStudents with outages := [⟨.addLines, 2, "down"⟩] }

/-- Drafting that is struck when the second student has an invoice without lines leaves the first
student billed and nothing of the second. -/
theorem drafting_stops_between_students_when_struck :
    ∃ after,
      (generateDrafts false ⟨2024, 1⟩).perform World.struckAtSecond.begin =
        (.ok (.error (.generatingFailed ⟨2024, 1⟩ (.outage "down"))), after) ∧
      after.store.invoices.map Invoice.total = [.ofCents 2500] ∧
      ∃ k ≤ 2, ∃ counts done,
        (draftEach { period := ⟨2024, 1⟩ } ((Store.withTwoStudents.toBill false).take k)).perform
          World.struckAtSecond.untroubled = (.ok counts, done) ∧ done.store = after.store := by
  have refused : ((generateDrafts false ⟨2024, 1⟩).perform World.struckAtSecond.begin).1 =
      .ok (.error (.generatingFailed ⟨2024, 1⟩ (.outage "down"))) := by decide +kernel
  have totals : ((generateDrafts false ⟨2024, 1⟩).perform
      World.struckAtSecond.begin).2.store.invoices.map Invoice.total = [.ofCents 2500] := by
    decide +kernel
  obtain ⟨result, after, performed, stops⟩ :=
    drafting_stops_between_students World.struckAtSecond false ⟨2024, 1⟩ rfl (by decide)
      (by decide)
  rw [performed] at refused totals
  obtain rfl := Except.ok.inj refused
  obtain ⟨-, -, -, k, bound, ⟨counts, done, billed, same⟩, -⟩ := stops _ rfl
  exact ⟨after, performed, totals, k, bound, counts, done, billed, same⟩

end Tuition
