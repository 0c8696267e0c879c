/-
# Which months are billed

The month before is billed on a day of the present month, so the billing day has to come in it. A
worker that checks every day, and whose runs all come to an end, runs once in each month that has
the billing day. In a month that is too short for it the worker never runs, and once the month is
over it bills other periods only.
-/

import Tuition.Proofs.BillingSchedule

namespace Tuition

namespace Date

/-- The days of a month. -/
def daysOf (year month : Nat) : List Date :=
  (List.range 31).filterMap fun day => make? year month (day + 1)

theorem mem_daysOf {year month : Nat} {date : Date} :
    date ∈ daysOf year month ↔ date.year = year ∧ date.month = month := by
  simp only [daysOf, List.mem_filterMap, List.mem_range]
  constructor
  · rintro ⟨day, -, made⟩
    unfold make? at made
    split at made
    · obtain rfl := Option.some.inj made
      exact ⟨rfl, rfl⟩
    · cases made
  · rintro ⟨rfl, rfl⟩
    obtain ⟨-, -, -, -, first, last⟩ := date.valid
    have short := Calendar.daysInMonth_le date.year date.month
    refine ⟨date.day - 1, by omega, ?_⟩
    rw [Nat.sub_add_cancel first]
    exact dif_pos date.valid

end Date

namespace Worker

/-- The number of runs that checks start in a month. -/
def runsIn (worker : Worker) (month : Month) (checks : List Check) : Nat :=
  checks.countP fun check => check.month == month && (check.run? worker).isSome

/-- On each day of a month there is a check, every check in it finds the same billing day, and no
run in it is broken off. -/
structure ChecksDaily (worker : Worker) (month : Month) (day : Int) (checks : List Check) :
    Prop where
  daily : ∀ date : Date, monthOf date = month → ∃ check ∈ checks, check.today = date
  reads : ∀ check ∈ checks, check.month = month → check.reading.1 = .ok day
  unbroken : ∀ check ∈ checks, check.month = month → ¬check.Breaks worker

variable {worker : Worker} {founds : List World} {month : Month} {checks : List Check}

theorem runsIn_eq_zero :
    worker.runsIn month checks = 0 ↔
      ∀ check ∈ checks, check.month = month → ¬check.Starts worker := by
  simp [runsIn, List.countP_eq_zero, Check.Starts]

theorem runsIn_pos :
    0 < worker.runsIn month checks ↔
      ∃ check ∈ checks, check.month = month ∧ check.Starts worker := by
  simp [runsIn, List.countP_pos_iff, Check.Starts]

/-- Where no run of a month is broken off, at most one is started in it. -/
theorem runsIn_le_one (schedule : worker.OnSchedule checks)
    (unbroken : ∀ check ∈ checks, check.month = month → ¬check.Breaks worker) :
    worker.runsIn month checks ≤ 1 := by
  apply countP_le_one
  refine schedule.once.imp_of_mem ?_
  intro first second among _ once startsFirst startsSecond
  simp only [Bool.and_eq_true, beq_iff_eq] at startsFirst startsSecond
  have finishes : first.Finishes worker :=
    (Check.starts_iff_ends.mp startsFirst.2).resolve_right (unbroken first among startsFirst.1)
  exact once (startsFirst.1.trans startsSecond.1.symm) finishes startsSecond.2

/-- Where the billing day comes at some check of a month, a run is started in the month. -/
theorem runsIn_pos_of_hasCome (schedule : worker.OnSchedule checks) {check : Check}
    (among : check ∈ checks) (hasCome : check.HasCome) :
    0 < worker.runsIn check.month checks := by
  rw [runsIn_pos]
  by_cases starts : check.Starts worker
  · exact ⟨check, among, rfl, starts⟩
  · obtain ⟨earlier, later, split⟩ := List.append_of_mem among
    rw [schedule.starts earlier check later split] at starts
    push Not at starts
    obtain ⟨other, before, same, finishes⟩ := starts hasCome
    exact ⟨other, split ▸ List.mem_append_left _ before, same, finishes.starts⟩

/-- The periods before two days are the same exactly if the days lie in one month. -/
theorem before_eq_before_iff {first second : Date} :
    Period.before first = Period.before second ↔ monthOf first = monthOf second := by
  obtain ⟨-, -, begins, ends, -, -⟩ := first.valid
  obtain ⟨-, -, beginsSecond, endsSecond, -, -⟩ := second.valid
  simp only [Period.before, monthOf, Prod.mk.injEq]
  split <;> split <;> simp only [Period.mk.injEq, and_true] <;> omega

/-- A worker that checks every day of a month, and whose runs in it all come to an end, runs once
in the month if the month has the billing day, and not at all if it is too short. No run of
another month bills the period before. -/
theorem month_billed_if_long_enough (worker : Worker) {founds : List World}
    (order : InOrder founds) (someDay : Date) {day : Int}
    (daily : worker.ChecksDaily (monthOf someDay) day (worker.checksIn none founds)) :
    worker.runsIn (monthOf someDay) (worker.checksIn none founds) =
        (if day ≤ Calendar.daysInMonth someDay.year someDay.month then 1 else 0) ∧
      ∀ check ∈ worker.checksIn none founds, ∀ report after,
        check.run? worker = some (.ok report, after) →
          (report.period = Period.before someDay ↔ check.month = monthOf someDay) := by
  have schedule : worker.OnSchedule (worker.checksIn none founds) := onSchedule_checksIn order
  constructor
  · split
    · next long =>
        -- the billing day, or the first day of the month if it lies before that
        have there : Calendar.Exists someDay.year someDay.month (max day.toNat 1) := by
          have := someDay.valid
          unfold Calendar.Exists at *
          omega
        obtain ⟨check, among, today⟩ := daily.daily ⟨_, _, _, there⟩ rfl
        have same : check.month = monthOf someDay := by rw [Check.month, today]; rfl
        have hasCome : check.HasCome := by
          refine ⟨day, daily.reads check among same, ?_⟩
          rw [today]
          dsimp only
          omega
        have pos := runsIn_pos_of_hasCome schedule among hasCome
        rw [same] at pos
        have le := runsIn_le_one schedule daily.unbroken
        omega
    · next short =>
        rw [runsIn_eq_zero]
        intro check among same starts
        obtain ⟨known, read, come⟩ := (Check.starts_iff.mp starts).1
        obtain rfl : day = known := Except.ok.inj ((daily.reads check among same).symm.trans read)
        obtain ⟨-, -, -, -, -, last⟩ := check.today.valid
        simp only [Check.month, monthOf, Prod.mk.injEq] at same
        rw [same.1, same.2] at last
        omega
  · intro check _ report after ran
    rw [Check.period_of_run ran]
    exact before_eq_before_iff

/-- The checks at midnight of each day of a month, from a world on. -/
def checksDaily (worker : Worker) (world : World) (year month : Nat) : List Check :=
  worker.checksAt world ((Date.daysOf year month).map fun date => ⟨date, .midnight⟩)

theorem daily_checksDaily (worker : Worker) (world : World) {year month : Nat} (date : Date)
    (inMonth : monthOf date = (year, month)) :
    ∃ check ∈ worker.checksDaily world year month, check.today = date := by
  have among : (⟨date, .midnight⟩ : Moment) ∈
      (worker.checksDaily world year month).map (·.found.now) := by
    rw [checksDaily, map_now_checksAt]
    refine List.mem_cons_of_mem _ (List.mem_map_of_mem (Date.mem_daysOf.mpr ?_))
    simpa [monthOf] using inMonth
  obtain ⟨check, made, now⟩ := List.mem_map.mp among
  exact ⟨check, made, congrArg Moment.date now⟩

/-- A leap year has one run in February where the month before is billed
from the twenty-ninth on. -/
theorem month_billed_if_long_enough_in_leap_year :
    let worker : Worker := ⟨⟨"/", []⟩, false⟩
    let world : World := .quietOn ⟨2024, 1, 31, by decide⟩ (.billedFrom 29)
    worker.ChecksDaily (2024, 2) 29 (worker.checksDaily world 2024 2) ∧
      worker.runsIn (2024, 2) (worker.checksDaily world 2024 2) = 1 := by
  intro worker world
  have quiet : ∀ check ∈ worker.checksDaily world 2024 2, check.month = (2024, 2) →
      check.reading.1 = .ok 29 ∧ ∀ run ∈ check.run? worker, run.1.toOption.isSome := by
    decide +kernel
  have daily : worker.ChecksDaily (2024, 2) 29 (worker.checksDaily world 2024 2) := by
    refine ⟨worker.daily_checksDaily world,
      fun check among same => (quiet check among same).1, ?_⟩
    rintro check among same ⟨fault, after, broken⟩
    cases (quiet check among same).2 _ broken
  refine ⟨daily, ?_⟩
  exact (month_billed_if_long_enough worker (by unfold InOrder; decide +kernel)
    ⟨2024, 2, 1, by decide⟩ daily).1

/-- April is not billed at all by a worker that bills the month before
from the thirty-first on. -/
theorem april_not_billed :
    let worker : Worker := ⟨⟨"/", []⟩, false⟩
    let world : World := .quietOn ⟨2024, 3, 31, by decide⟩ (.billedFrom 31)
    worker.ChecksDaily (2024, 4) 31 (worker.checksDaily world 2024 4) ∧
      worker.runsIn (2024, 4) (worker.checksDaily world 2024 4) = 0 := by
  intro worker world
  have quiet : ∀ check ∈ worker.checksDaily world 2024 4, check.month = (2024, 4) →
      check.reading.1 = .ok 31 ∧ (check.run? worker).isNone := by
    decide +kernel
  refine ⟨⟨worker.daily_checksDaily world,
    fun check among same => (quiet check among same).1, ?_⟩, ?_⟩
  · rintro check among same ⟨fault, after, broken⟩
    have none := (quiet check among same).2
    rw [broken] at none
    cases none
  · rw [runsIn_eq_zero]
    intro check among same starts
    simp [Check.Starts, Option.isNone_iff_eq_none.mp (quiet check among same).2] at starts

end Worker
end Tuition
