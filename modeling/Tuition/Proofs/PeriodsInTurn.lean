/-
# Periods tile the calendar

Each day lies between the bounds of one period, that of its own year and month, and the period
before ends on the eve of that month. So periods follow one another without a gap and have no day
in common, also where a year ends and where February has a day more. Only the first month of the
calendar has no period before it.

A year and a month of any size make a period exactly if they have a first and a last day, and
whole numbers in the values of a request are told apart in the same way.
-/

import Tuition.Proofs.MonthlyOverrides
import Tuition.Request.PeriodNumbers

namespace Tuition

/-! ## Years and months that have days -/

theorem Date.exists_of_make? {year month day : Nat} {date : Date}
    (made : make? year month day = some date) : Calendar.Exists year month day := by
  unfold make? at made
  split at made
  · assumption
  · cases made

namespace Period

variable {period : Period} {first last : Date}

theorem accepts_iff : period.accepts ↔
    (1 ≤ period.month ∧ period.month ≤ 12) ∧ 1 ≤ period.year ∧ period.year ≤ 9999 := by
  simp [accepts, and_assoc]

/-- What has a first day is a period. -/
theorem accepts_of_firstDay (begins : period.firstDay = .ok first) : period.accepts := by
  unfold firstDay at begins
  split at begins
  · cases begins
  · next inYear =>
      cases made : Date.make? period.year.toNat period.month.toNat 1 with
      | none =>
          rw [made] at begins
          cases begins
      | some day =>
          obtain ⟨yearLow, yearHigh, -⟩ := Date.exists_of_make? made
          rw [accepts_iff]
          omega

theorem accepts_of_bounds (bounded : period.bounds = .ok (first, last)) : period.accepts := by
  obtain ⟨start, begins, -⟩ := bind_eq_ok_iff.mp bounded
  exact accepts_of_firstDay begins

/-- A year and a month make a period exactly if they have a first and a last day. -/
theorem accepts_iff_exists_bounds :
    period.accepts ↔ ∃ first last, period.bounds = .ok (first, last) := by
  constructor
  · intro accepted
    obtain ⟨first, last, bounded, -⟩ := exists_bounds accepted
    exact ⟨first, last, bounded⟩
  · rintro ⟨first, last, bounded⟩
    exact accepts_of_bounds bounded

end Period

namespace Request

variable {year month : Json} {period : Period}

theorem liesBetween_of_whole {value : Json} {n : Int} (whole : value.whole? = some n)
    (least greatest : Int) :
    liesBetween least greatest value = .ok (least ≤ n && n ≤ greatest) := by
  unfold liesBetween
  rw [whole]

/-- Nothing is wrong with whole numbers exactly if they make a period. -/
theorem periodProblem?_eq_none_iff (isYear : year.whole? = some period.year)
    (isMonth : month.whole? = some period.month) :
    periodProblem? year month = .ok none ↔ period.accepts := by
  rw [periodProblem?, liesBetween_of_whole isMonth, liesBetween_of_whole isYear, Period.accepts,
    Bool.and_assoc]
  cases 1 ≤ period.month && period.month ≤ 12 <;>
    cases 1 ≤ period.year && period.year ≤ 9999 <;> simp [bind, Except.bind, pure, Except.pure]

/-- Whole numbers have the bounds of the period that they make, and no others. -/
theorem periodBounds_eq_ok_iff {bounds : Date × Date} (isYear : year.whole? = some period.year)
    (isMonth : month.whole? = some period.month) :
    periodBounds year month = .ok bounds ↔ period.bounds = .ok bounds := by
  unfold periodBounds
  rw [liesBetween_of_whole isMonth, liesBetween_of_whole isYear, isYear, isMonth]
  cases inYear : 1 ≤ period.month && period.month ≤ 12 with
  | true => exact mapError_eq_ok_iff
  | false =>
      refine iff_of_false (fun made => nomatch made) fun bounded => ?_
      have accepted := Period.accepts_iff.mp (Period.accepts_of_bounds bounded)
      simp [accepted.1] at inYear

end Request

/-! ## The period of a day -/

/-- The period of the year and month of a day. -/
def Date.period (day : Date) : Period :=
  ⟨day.year, day.month⟩

theorem Date.monthStart_le (day : Date) : day.monthStart ≤ day := by
  obtain ⟨-, -, -, -, begins, -⟩ := day.valid
  exact Nat.add_le_add_left begins _

theorem Date.isIn_iff {day : Date} {period : Period} : day.IsIn period ↔ period = day.period := by
  obtain ⟨year, month⟩ := period
  show (day.year : Int) = year ∧ (day.month : Int) = month ↔
    Period.mk year month = ⟨day.year, day.month⟩
  rw [Period.mk.injEq, eq_comm, eq_comm (a := (day.month : Int))]

namespace Period

variable {period : Period} {day : Date}

/-- A day lies between the bounds of a period. -/
def Covers (period : Period) (day : Date) : Prop :=
  ∃ first last, period.bounds = .ok (first, last) ∧ first ≤ day ∧ day ≤ last

/-- The period of a day goes from the first to the last day of its month. -/
theorem bounds_period (day : Date) : day.period.bounds = .ok (day.monthStart, day.monthEnd) := by
  obtain ⟨-, -, monthLow, monthHigh, -, -⟩ := day.valid
  have inYear : ¬((day.month : Int) < 1 ∨ 12 < (day.month : Int)) := by omega
  have begins : day.period.firstDay = .ok day.monthStart := by
    simp only [firstDay, Date.period, inYear, if_false, Int.toNat_natCast]
    rw [show Date.make? day.year day.month 1 = some day.monthStart from
      dif_pos day.monthStart.valid]
  exact bind_eq_ok_iff.mpr ⟨_, begins, rfl⟩

theorem accepts_period (day : Date) : day.period.accepts :=
  accepts_of_bounds (bounds_period day)

/-- A day is covered by its own period alone. -/
theorem covers_iff : period.Covers day ↔ period = day.period := by
  constructor
  · rintro ⟨first, last, bounded, begun, running⟩
    obtain ⟨_, _, same, -, days⟩ := exists_bounds (accepts_of_bounds bounded)
    obtain ⟨rfl, rfl⟩ := Prod.mk.inj (Except.ok.inj (bounded.symm.trans same))
    exact Date.isIn_iff.mp ((days day).mpr ⟨begun, running⟩)
  · rintro rfl
    exact ⟨_, _, bounds_period day, day.monthStart_le, day.le_monthEnd⟩

end Period

/-! ## The period before -/

namespace Date

variable {day : Date}

/-- The last day of the first month of the calendar. -/
def endOfFirstMonth : Date :=
  ⟨1, 1, 31, by decide⟩

theorem endOfFirstMonth_lt_iff : endOfFirstMonth < day ↔ 1 < day.year ∨ 1 < day.month := by
  obtain ⟨year, -, month, -, -, last⟩ := day.valid
  have short := Calendar.daysInMonth_le day.year day.month
  simp only [lt_iff_key, key, endOfFirstMonth]
  omega

/-- After the first month of the calendar each month has one before it, in its own year or in the
year before, and begins on the day after that one ends. -/
theorem exists_monthBefore (later : endOfFirstMonth < day) :
    ∃ past : Date, past.period = Period.before day ∧
      day.monthStart.ordinal = past.monthEnd.ordinal + 1 := by
  obtain ⟨yearLow, yearHigh, monthLow, monthHigh, -, -⟩ := day.valid
  rw [endOfFirstMonth_lt_iff] at later
  -- January follows the last month of the year before, any other month one of its own year
  rcases Nat.eq_or_lt_of_le monthLow with january | month
  · have december : Calendar.Exists (day.year - 1) 12 1 :=
      ⟨by omega, by omega, by decide, by decide, Nat.le_refl 1, Calendar.one_le_daysInMonth _ _⟩
    refine ⟨⟨day.year - 1, 12, 1, december⟩, ?_, ?_⟩
    · rw [Period.before, if_pos january.symm, period, Nat.cast_sub yearLow]
      rfl
    · rw [ordinal_monthEnd, ordinal_monthStart, Calendar.daysBeforeMonth_thirteen, ← january,
        ← Calendar.daysBeforeYear_succ (by dsimp only; omega), Nat.sub_add_cancel yearLow]
      rfl
  · have monthBefore : Calendar.Exists day.year (day.month - 1) 1 :=
      ⟨yearLow, yearHigh, by omega, by omega, Nat.le_refl 1, Calendar.one_le_daysInMonth _ _⟩
    refine ⟨⟨day.year, day.month - 1, 1, monthBefore⟩, ?_, ?_⟩
    · rw [Period.before, if_neg (Nat.ne_of_gt month), period, Nat.cast_sub monthLow]
      rfl
    · rw [ordinal_monthEnd, ordinal_monthStart, Nat.sub_add_cancel monthLow]

end Date

namespace Period

/-- The periods around a day tile the calendar. -/
structure TileAt (day : Date) : Prop where
  /-- The day lies between the bounds of one period, which is that of its year and month. -/
  covered : day.period.accepts ∧ ∀ period : Period, period.Covers day ↔ period = day.period
  /-- That period goes from the first to the last day of the month. -/
  bounded : day.period.bounds = .ok (day.monthStart, day.monthEnd)
  /-- There is a period before it unless it is the first month of the calendar. -/
  preceded : (before day).accepts ↔ Date.endOfFirstMonth < day
  /-- The period before ends on the eve of the month, so no date lies between them or in both. -/
  meets : Date.endOfFirstMonth < day → ∃ first last, (before day).bounds = .ok (first, last) ∧
    last.next? = some day.monthStart ∧ ∀ other, other ≤ last ↔ other < day.monthStart

theorem tileAt (day : Date) : TileAt day where
  covered := ⟨accepts_period day, fun _ => covers_iff⟩
  bounded := bounds_period day
  preceded := by
    obtain ⟨yearLow, yearHigh, monthLow, monthHigh, -, -⟩ := day.valid
    rw [Date.endOfFirstMonth_lt_iff, accepts_iff, before]
    split <;> dsimp only <;> omega
  meets later := by
    obtain ⟨past, isBefore, follows⟩ := Date.exists_monthBefore later
    exact ⟨past.monthStart, past.monthEnd, isBefore ▸ bounds_period past,
      Date.next?_eq_some follows, Date.le_iff_lt_of_ordinal follows⟩

/-- A year and a month make a period exactly if they have bounds, for whole numbers of any size
and for values of a request that stand for them. Each day lies between the bounds of one period,
and the period before ends on the day before the first day of its month. -/
theorem periods_tile_calendar :
    (∀ period : Period, period.accepts ↔ ∃ first last, period.bounds = .ok (first, last)) ∧
      (∀ (year month : Json) (period : Period), year.whole? = some period.year →
        month.whole? = some period.month →
          (Request.periodProblem? year month = .ok none ↔
            ∃ first last, Request.periodBounds year month = .ok (first, last))) ∧
      ∀ day : Date, TileAt day := by
  refine ⟨fun _ => accepts_iff_exists_bounds, ?_, tileAt⟩
  intro year month period isYear isMonth
  rw [Request.periodProblem?_eq_none_iff isYear isMonth, accepts_iff_exists_bounds]
  simp only [Request.periodBounds_eq_ok_iff isYear isMonth]

/-- The period before March of a leap year ends on the twenty-ninth of
February, and March follows. -/
theorem periods_tile_calendar_in_leap_year :
    let day : Date := ⟨2024, 3, 15, by decide⟩
    let february : Date × Date := (⟨2024, 2, 1, by decide⟩, ⟨2024, 2, 29, by decide⟩)
    Request.periodBounds (.int 2024) (.int 2) = .ok february ∧
      Request.periodProblem? (.int 2024) (.int 2) = .ok none ∧
      Date.endOfFirstMonth < day ∧ (before day).bounds = .ok february ∧
      february.2.next? = some ⟨2024, 3, 1, by decide⟩ := by
  intro day february
  have bounds : Request.periodBounds (.int 2024) (.int 2) = .ok february := rfl
  have unproblematic := (periods_tile_calendar.2.1 (.int 2024) (.int 2) ⟨2024, 2⟩ rfl rfl).mpr
    ⟨_, _, bounds⟩
  have later : Date.endOfFirstMonth < day := by decide
  have isBefore : (before day).bounds = .ok february := by
    rw [show before day = ⟨2024, 2⟩ by decide]
    rfl
  obtain ⟨first, last, bounded, next, -⟩ := (periods_tile_calendar.2.2 day).meets later
  obtain ⟨rfl, rfl⟩ := Prod.mk.inj (Except.ok.inj (bounded.symm.trans isBefore))
  exact ⟨bounds, unproblematic, later, isBefore, next⟩

end Period

end Tuition
