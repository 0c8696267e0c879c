/-
# The days of the calendar, counted

The lengths of the months add up to those of the years, and the lengths of the years, leap years
and all, to the ordinals of dates. So dates stand in the order of their ordinals, and a date is
found again from its ordinal. The day after a date is the one with the next ordinal, and no date
lies between the two, whether or not a month or a year ends there.
-/

import Tuition.Calendar.Date
import Tuition.Proofs.Basics
import Mathlib.Order.Monotone.Basic

namespace Tuition

namespace Calendar

/-! ## Lengths of months and years -/

theorem daysInMonth_bounds (year month : Nat) :
    28 ≤ daysInMonth year month ∧ daysInMonth year month ≤ 31 := by
  unfold daysInMonth
  repeat' split
  all_goals decide

theorem daysInMonth_le (year month : Nat) : daysInMonth year month ≤ 31 :=
  (daysInMonth_bounds year month).2

theorem one_le_daysInMonth (year month : Nat) : 1 ≤ daysInMonth year month :=
  Nat.le_trans (by decide) (daysInMonth_bounds year month).1

/-- The number of days of a year. -/
def daysInYear (year : Nat) : Nat :=
  if isLeap year then 366 else 365

/-- A month begins where the one before ends. -/
theorem daysBeforeMonth_succ (year : Nat) {month : Nat} (counted : 1 ≤ month) :
    daysBeforeMonth year (month + 1) = daysBeforeMonth year month + daysInMonth year month := by
  obtain ⟨past, rfl⟩ := Nat.exists_eq_add_of_le' counted
  show ((List.range (past + 1)).map fun index => daysInMonth year (index + 1)).sum =
    ((List.range past).map fun index => daysInMonth year (index + 1)).sum +
      daysInMonth year (past + 1)
  rw [List.range_succ, List.map_append, List.sum_append, List.map_singleton, List.sum_singleton]

theorem monotone_daysBeforeMonth (year : Nat) : Monotone (daysBeforeMonth year) := by
  apply monotone_nat_of_le_succ
  intro month
  rcases Nat.eq_zero_or_pos month with rfl | counted
  · exact Nat.zero_le _
  · rw [daysBeforeMonth_succ year counted]
    exact Nat.le_add_right _ _

/-- The months of a year make up the year. -/
theorem daysBeforeMonth_thirteen (year : Nat) : daysBeforeMonth year 13 = daysInYear year := by
  cases leap : isLeap year <;>
    simp [daysBeforeMonth, daysInMonth, daysInYear, leap, List.range_succ]

/-- A year begins where the one before ends. -/
theorem daysBeforeYear_succ {year : Nat} (counted : 1 ≤ year) :
    daysBeforeYear (year + 1) = daysBeforeYear year + daysInYear year := by
  obtain ⟨past, rfl⟩ := Nat.exists_eq_add_of_le' counted
  have centuries : past / 100 ≤ past * 365 :=
    (Nat.div_le_self past 100).trans (Nat.le_mul_of_pos_right past (by decide))
  simp only [daysBeforeYear, daysInYear, isLeap, Nat.add_sub_cancel, Nat.succ_div,
    Nat.dvd_iff_mod_eq_zero, Bool.and_eq_true, Bool.or_eq_true, beq_iff_eq, bne_iff_ne, ne_eq]
  -- the quotients up to the year before are kept apart from what the year itself divides by
  generalize past / 4 = fourths at *
  generalize past / 100 = hundredths at *
  generalize past / 400 = fourHundredths at *
  split_ifs <;> omega

theorem monotone_daysBeforeYear : Monotone daysBeforeYear := by
  apply monotone_nat_of_le_succ
  intro year
  rcases Nat.eq_zero_or_pos year with rfl | counted
  · decide
  · rw [daysBeforeYear_succ counted]
    exact Nat.le_add_right _ _

/-- Years have 365 days at least, and leap days add less than seven years up to the last one. -/
theorem daysBeforeYear_bounds {year : Nat} (least : 1 ≤ year) (most : year ≤ 10000) :
    365 * (year - 1) ≤ daysBeforeYear year ∧ daysBeforeYear year < 365 * (year + 6) := by
  dsimp only [daysBeforeYear]
  omega

end Calendar

namespace Date

variable {first second date : Date}

/-! ## The order of dates -/

/-- The order of dates is the order of their keys, which arithmetic can decide. -/
theorem le_iff_key : first ≤ second ↔ first.key ≤ second.key :=
  Iff.rfl

theorem lt_iff_key : first < second ↔ first.key < second.key :=
  Iff.rfl

theorem eq_of_key (same : first.key = second.key) : first = second := by
  obtain ⟨-, -, -, lastMonth, -, last⟩ := first.valid
  obtain ⟨-, -, -, lastMonthSecond, -, lastSecond⟩ := second.valid
  have short := Calendar.daysInMonth_le first.year first.month
  have shortSecond := Calendar.daysInMonth_le second.year second.month
  obtain ⟨year, month, day, valid⟩ := first
  obtain ⟨yearSecond, monthSecond, daySecond, validSecond⟩ := second
  simp only [key] at *
  obtain rfl : year = yearSecond := by omega
  obtain rfl : month = monthSecond := by omega
  obtain rfl : day = daySecond := by omega
  rfl

/-- Dates are ordered by the first of year, month and day in which they differ. -/
theorem lt_cases (before : first < second) :
    first.year < second.year ∨ first.year = second.year ∧
      (first.month < second.month ∨ first.month = second.month ∧ first.day < second.day) := by
  obtain ⟨-, -, -, lastMonth, -, last⟩ := second.valid
  have short := Calendar.daysInMonth_le second.year second.month
  rw [lt_iff_key, key, key] at before
  omega

/-! ## Ordinals -/

/-- The number of days of its year up to and including a date. -/
def dayOfYear (date : Date) : Nat :=
  Calendar.daysBeforeMonth date.year date.month + date.day

theorem ordinal_eq (date : Date) :
    date.ordinal = Calendar.daysBeforeYear date.year + date.dayOfYear :=
  Nat.add_assoc _ _ _

theorem lt_dayOfYear (date : Date) :
    Calendar.daysBeforeMonth date.year date.month < date.dayOfYear := by
  obtain ⟨-, -, -, -, begins, -⟩ := date.valid
  exact Nat.lt_add_of_pos_right begins

theorem dayOfYear_le (date : Date) :
    date.dayOfYear ≤ Calendar.daysBeforeMonth date.year (date.month + 1) := by
  obtain ⟨-, -, month, -, -, ends⟩ := date.valid
  rw [Calendar.daysBeforeMonth_succ date.year month]
  exact Nat.add_le_add_left ends _

theorem dayOfYear_le_daysInYear (date : Date) :
    date.dayOfYear ≤ Calendar.daysInYear date.year := by
  obtain ⟨-, -, -, month, -, -⟩ := date.valid
  calc date.dayOfYear
      ≤ Calendar.daysBeforeMonth date.year (date.month + 1) := date.dayOfYear_le
    _ ≤ Calendar.daysBeforeMonth date.year 13 :=
      Calendar.monotone_daysBeforeMonth date.year (Nat.succ_le_succ month)
    _ = Calendar.daysInYear date.year := Calendar.daysBeforeMonth_thirteen date.year

theorem lt_ordinal (date : Date) : Calendar.daysBeforeYear date.year < date.ordinal := by
  rw [ordinal_eq]
  exact Nat.lt_add_of_pos_right (Nat.zero_lt_of_lt date.lt_dayOfYear)

theorem ordinal_le (date : Date) : date.ordinal ≤ Calendar.daysBeforeYear (date.year + 1) := by
  rw [ordinal_eq, Calendar.daysBeforeYear_succ date.valid.1]
  exact Nat.add_le_add_left date.dayOfYear_le_daysInYear _

theorem ordinal_lt_of_lt (before : first < second) : first.ordinal < second.ordinal := by
  rcases lt_cases before with year | ⟨sameYear, month | ⟨sameMonth, day⟩⟩
  · calc first.ordinal
        ≤ Calendar.daysBeforeYear (first.year + 1) := first.ordinal_le
      _ ≤ Calendar.daysBeforeYear second.year := Calendar.monotone_daysBeforeYear year
      _ < second.ordinal := second.lt_ordinal
  · rw [ordinal_eq, ordinal_eq, sameYear]
    apply Nat.add_lt_add_left
    calc first.dayOfYear
        ≤ Calendar.daysBeforeMonth first.year (first.month + 1) := first.dayOfYear_le
      _ ≤ Calendar.daysBeforeMonth first.year second.month :=
        Calendar.monotone_daysBeforeMonth first.year month
      _ = Calendar.daysBeforeMonth second.year second.month := by rw [sameYear]
      _ < second.dayOfYear := second.lt_dayOfYear
  · rw [ordinal, ordinal, sameYear, sameMonth]
    exact Nat.add_lt_add_left day _

/-- Dates stand in the order of their ordinals. -/
theorem ordinal_lt_iff : first.ordinal < second.ordinal ↔ first < second := by
  refine ⟨fun less => ?_, ordinal_lt_of_lt⟩
  rcases Nat.lt_trichotomy first.key second.key with before | same | after
  · exact before
  · rw [eq_of_key same] at less
    exact absurd less (Nat.lt_irrefl _)
  · exact absurd less (Nat.lt_asymm (ordinal_lt_of_lt after))

theorem ordinal_monthStart (date : Date) : date.monthStart.ordinal =
    Calendar.daysBeforeYear date.year + Calendar.daysBeforeMonth date.year date.month + 1 :=
  rfl

/-- A month ends where the next one of its year begins, or the next year. -/
theorem ordinal_monthEnd (date : Date) : date.monthEnd.ordinal =
    Calendar.daysBeforeYear date.year + Calendar.daysBeforeMonth date.year (date.month + 1) := by
  obtain ⟨-, -, month, -⟩ := date.valid
  rw [Calendar.daysBeforeMonth_succ date.year month]
  exact Nat.add_assoc _ _ _

/-! ## The date with an ordinal -/

/-- The year of a date is the last one that begins before it. -/
theorem yearOfOrdinal?_ordinal (date : Date) : yearOfOrdinal? date.ordinal = some date.year := by
  obtain ⟨least, most, -⟩ := date.valid
  have begun := date.lt_ordinal
  have running := date.ordinal_le
  have lower := (Calendar.daysBeforeYear_bounds least (by omega)).1
  have upper := (Calendar.daysBeforeYear_bounds (Nat.le_add_left 1 date.year) (by omega)).2
  apply find?_downwards
  · omega
  · omega
  · simpa using And.intro (Nat.lt_of_succ_le least) begun
  · intro year later _
    have ended : Calendar.daysBeforeYear (date.year + 1) ≤ Calendar.daysBeforeYear year :=
      Calendar.monotone_daysBeforeYear later
    simp only [Bool.and_eq_false_iff, decide_eq_false_iff_not]
    exact .inr (Nat.not_lt.mpr (running.trans ended))

/-- The month of a date is the last one that begins before it. -/
theorem month_of_dayOfYear (date : Date) :
    [12, 11, 10, 9, 8, 7, 6, 5, 4, 3, 2, 1].find? (fun month =>
      Calendar.daysBeforeMonth date.year month < date.dayOfYear) = some date.month := by
  obtain ⟨-, -, least, most, -, -⟩ := date.valid
  show ((List.range 12).map (12 - ·)).find? _ = _
  apply find?_downwards most
  · omega
  · simpa using date.lt_dayOfYear
  · intro month later _
    have ended : Calendar.daysBeforeMonth date.year (date.month + 1) ≤
        Calendar.daysBeforeMonth date.year month :=
      Calendar.monotone_daysBeforeMonth date.year later
    simp only [decide_eq_false_iff_not]
    exact Nat.not_lt.mpr (date.dayOfYear_le.trans ended)

/-- A date is found again from its ordinal. -/
theorem ofOrdinal?_ordinal (date : Date) : ofOrdinal? date.ordinal = some date := by
  have inYear : date.ordinal - Calendar.daysBeforeYear date.year = date.dayOfYear := by
    rw [ordinal_eq, Nat.add_sub_cancel_left]
  have inMonth : date.dayOfYear - Calendar.daysBeforeMonth date.year date.month = date.day :=
    Nat.add_sub_cancel_left _ _
  simp only [ofOrdinal?, yearOfOrdinal?_ordinal, inYear, month_of_dayOfYear, inMonth,
    Option.bind_eq_bind, Option.bind_some]
  exact dif_pos date.valid

/-- The last day of the calendar is not followed by another. -/
example : ofOrdinal? (ordinal ⟨9999, 12, 31, by decide⟩ + 1) = none := by
  decide +kernel

/-! ## The day after -/

/-- The day after a date, unless the calendar ends there. -/
def next? (date : Date) : Option Date :=
  ofOrdinal? (date.ordinal + 1)

theorem next?_eq_some (follows : second.ordinal = first.ordinal + 1) :
    first.next? = some second := by
  rw [next?, ← follows, ofOrdinal?_ordinal]

/-- No date lies between two dates whose ordinals follow one another. -/
theorem le_iff_lt_of_ordinal (follows : second.ordinal = first.ordinal + 1) (other : Date) :
    other ≤ first ↔ other < second := by
  have notAfter : other ≤ first ↔ ¬first < other := Nat.not_lt.symm
  rw [notAfter, ← ordinal_lt_iff, ← ordinal_lt_iff]
  omega

end Date
end Tuition
