/-
# Windows as sets of days

A window stands for the days that it contains. Two windows with a day each overlap exactly where
they have a day in common, and the later of their first days is one then. So a window that begins
after another one has ended is apart from it, be it on the very next day.
-/

import Tuition.Billing.Window
import Tuition.Proofs.DayCount
import Mathlib.Tactic.Common

namespace Tuition

namespace Window

variable {window other : Window} {day : Date}

/-- The window does not end before it begins. -/
def NonEmpty (window : Window) : Prop :=
  ∀ last, window.stop = some last → window.start ≤ last

/-- No day lies in both windows. -/
def Apart (window other : Window) : Prop :=
  ∀ day, ¬(window.contains day ∧ other.contains day)

/-- The window has ended when the other one begins. -/
def EndsBefore (window other : Window) : Prop :=
  ∃ last, window.stop = some last ∧ last < other.start

theorem contains_iff :
    window.contains day ↔ window.start ≤ day ∧ ∀ last, window.stop = some last → day ≤ last := by
  unfold contains
  cases window.stop with
  | none => simp
  | some last => simp

theorem startsBy_iff {stop : Option Date} :
    window.startsBy stop ↔ ∀ last, stop = some last → window.start ≤ last := by
  cases stop with
  | none => simp [startsBy]
  | some last => simp [startsBy]

theorem reaches_iff : window.reaches day ↔ ∀ last, window.stop = some last → day ≤ last := by
  unfold reaches
  cases window.stop with
  | none => simp
  | some last => simp

theorem overlaps_iff_ends :
    window.overlaps other ↔
      (∀ last, other.stop = some last → window.start ≤ last) ∧
        ∀ last, window.stop = some last → other.start ≤ last := by
  rw [overlaps, Bool.and_eq_true, startsBy_iff, reaches_iff]

/-- Overlapping is mutual, for empty windows too. -/
theorem overlaps_comm (window other : Window) :
    window.overlaps other = other.overlaps window := by
  rw [Bool.eq_iff_iff, overlaps_iff_ends, overlaps_iff_ends]
  exact and_comm

theorem Apart.symm (apart : window.Apart other) : other.Apart window :=
  fun day both => apart day both.symm

/-- Windows that share a day overlap. -/
theorem overlaps_of_contains (inside : window.contains day) (insideOther : other.contains day) :
    window.overlaps other := by
  obtain ⟨started, running⟩ := contains_iff.mp inside
  obtain ⟨startedOther, runningOther⟩ := contains_iff.mp insideOther
  rw [overlaps_iff_ends]
  constructor
  · intro last stops
    exact Nat.le_trans started (runningOther last stops)
  · intro last stops
    exact Nat.le_trans startedOther (running last stops)

/-- Overlapping windows that are not empty share the later one of their first days. -/
theorem exists_day_of_overlaps (nonEmpty : window.NonEmpty) (nonEmptyOther : other.NonEmpty)
    (overlap : window.overlaps other) : ∃ day, window.contains day ∧ other.contains day := by
  obtain ⟨startedBy, reached⟩ := overlaps_iff_ends.mp overlap
  rcases Nat.le_total window.start.key other.start.key with earlier | later
  · exact ⟨other.start, contains_iff.mpr ⟨earlier, reached⟩,
      contains_iff.mpr ⟨Nat.le_refl _, nonEmptyOther⟩⟩
  · exact ⟨window.start, contains_iff.mpr ⟨Nat.le_refl _, nonEmpty⟩,
      contains_iff.mpr ⟨later, startedBy⟩⟩

/-- Windows that are not empty overlap exactly where they share a day. -/
theorem overlaps_iff_exists (nonEmpty : window.NonEmpty) (nonEmptyOther : other.NonEmpty) :
    window.overlaps other ↔ ∃ day, window.contains day ∧ other.contains day := by
  constructor
  · exact exists_day_of_overlaps nonEmpty nonEmptyOther
  · rintro ⟨day, inside, insideOther⟩
    exact overlaps_of_contains inside insideOther

theorem overlaps_eq_false_iff (nonEmpty : window.NonEmpty) (nonEmptyOther : other.NonEmpty) :
    window.overlaps other = false ↔ window.Apart other := by
  rw [← Bool.not_eq_true, overlaps_iff_exists nonEmpty nonEmptyOther, not_exists]
  rfl

/-- A window that begins after another one has ended is apart from it. -/
theorem EndsBefore.apart (ends : window.EndsBefore other) : window.Apart other := by
  obtain ⟨last, stops, before⟩ := ends
  rintro day ⟨inside, insideOther⟩
  have ended : day.key ≤ last.key := (contains_iff.mp inside).2 last stops
  have begun : other.start.key ≤ day.key := (contains_iff.mp insideOther).1
  rw [Date.lt_iff_key] at before
  omega

/-- Of two windows that are not empty and have no day in common, one ends before the other. -/
theorem Apart.endsBefore_or (apart : window.Apart other) (nonEmpty : window.NonEmpty)
    (nonEmptyOther : other.NonEmpty) : window.EndsBefore other ∨ other.EndsBefore window := by
  have different := (overlaps_eq_false_iff nonEmpty nonEmptyOther).mpr apart
  rw [← Bool.not_eq_true, overlaps_iff_ends, not_and_or] at different
  rcases different with late | early
  · right
    push Not at late
    obtain ⟨last, stops, before⟩ := late
    exact ⟨last, stops, Nat.lt_of_not_le before⟩
  · left
    push Not at early
    obtain ⟨last, stops, before⟩ := early
    exact ⟨last, stops, Nat.lt_of_not_le before⟩

end Window
end Tuition
