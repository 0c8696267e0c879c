/-
# What the store prices

The lines that a student is billed depend on the courses, enrollments, overrides and attendance of
the store alone. `Store.priceBook` looks them up in the store itself, without calls, so the lines
of a student become a value of the store; drafting finds exactly these lines.
-/

import Tuition.Billing.Drafting
import Tuition.Proofs.Calm

namespace Tuition

namespace Store

/-- The store as a place to look prices up. Numbers that do not fit into words are
refused, as in every access. -/
def priceBook (store : Store) : PriceBook (Except Fault) where
  course id := do
    Table.requireWords [id]
    return (Table.find? store.courses id).map Row.shown
  overridesUntil enrollmentId day := do
    Table.requireWords [enrollmentId]
    return (PriceOverride.startingBy store.overrides enrollmentId day).map Row.shown
  attendance studentId courseId period := do
    Table.requireWords [studentId, courseId, period.year, period.month]
    return store.attendance.find? (·.isOf studentId courseId period)

/-- The enrollments of a student, in the order of their keys. -/
def enrollmentsOf (store : Store) (studentId : Int) : List Enrollment :=
  (store.enrollments.filter (·.studentId == studentId)).map Row.shown

/-- The lines that a student is billed for a period. -/
def billedLines (store : Store) (studentId : Int) (period : Period) :
    Except Fault (List DraftLine) :=
  store.priceBook.draftLines period (store.enrollmentsOf studentId)

/-- A student has these lines to pay for a period, with this total. -/
structure Owes (store : Store) (studentId : Int) (period : Period) (drafts : List DraftLine)
    (total : Decimal) : Prop where
  lines : store.billedLines studentId period = .ok drafts
  some : drafts ≠ []
  total : DraftLine.total drafts = .ok total

end Store

namespace Billing

open Tx

theorem reads_arithmetic {α : Type} (result : Except Decimal.Fault α) :
    (PriceBook.arithmetic result : Tx α).Reads fun _ => PriceBook.arithmetic result := by
  cases result with
  | ok value => exact reads_pure value
  | error fault => exact does_throw _

theorem reads_days {α : Type} (result : Except Calendar.Fault α) :
    (PriceBook.days result : Tx α).Reads fun _ => PriceBook.days result := by
  cases result with
  | ok value => exact reads_pure value
  | error fault => exact does_throw _

/-- The prices of an enrollment are those that the store has. -/
theorem reads_resolve (enrollment : Enrollment) (period : Period) :
    (Access.priceBook.resolve enrollment period).Reads fun store =>
      store.priceBook.resolve enrollment period := by
  apply reads_bind reads_access
  rintro (_ | course)
  · exact reads_pure _
  apply reads_bind (reads_arithmetic _)
  intro prices
  apply reads_bind (reads_days _)
  rintro ⟨first, last⟩
  exact reads_bind reads_access fun _ => reads_pure _

theorem reads_draftLine (period : Period) (enrollment : Enrollment) :
    (Access.priceBook.draftLine period enrollment).Reads fun store =>
      store.priceBook.draftLine period enrollment := by
  apply reads_bind (reads_resolve enrollment period)
  rintro (_ | prices)
  · exact reads_pure _
  dsimp only
  cases enrollment.billingMode with
  | perLesson =>
      apply reads_bind reads_access
      intro attendance
      exact reads_bind (reads_arithmetic _) fun _ => reads_pure _
  | subscription => exact reads_arithmetic _
  | unknown => exact reads_pure _

/-- The lines of enrollments are those that the store prices. -/
theorem reads_draftLines (period : Period) (enrollments : List Enrollment) :
    (Access.priceBook.draftLines period enrollments).Reads fun store =>
      store.priceBook.draftLines period enrollments := by
  induction enrollments with
  | nil => exact reads_pure _
  | cons enrollment others ih =>
      apply reads_bind (reads_draftLine period enrollment)
      intro line
      exact reads_bind ih fun _ => reads_pure _

end Billing
end Tuition
