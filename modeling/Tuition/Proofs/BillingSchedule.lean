/-
# The schedule of billing

A worker that keeps running remembers one month only: that of its last run that came to an
end. Where the clock never goes back this is enough. A month that was done before the one
that is remembered does not come again, so a check finds its own month done exactly if a
run came to an end in it.

What the records say of the billing day, and what breaks off, may be different at each check.
-/

import Tuition.Proofs.Checks
import Tuition.Proofs.MonthlyOverrides

namespace Tuition

open Tx

namespace Worker

/-- The days between two days of a month lie in that month. -/
theorem monthOf_between {first day last : Date} (same : monthOf first = monthOf last)
    (notBefore : first ≤ day) (notAfter : day ≤ last) : monthOf day = monthOf last := by
  obtain ⟨-, -, -, monthFirst, -, -⟩ := first.valid
  obtain ⟨-, -, -, month, -, days⟩ := day.valid
  obtain ⟨-, -, -, monthLast, -, daysLast⟩ := last.valid
  have short := Calendar.daysInMonth_le day.year day.month
  have shortLast := Calendar.daysInMonth_le last.year last.month
  simp only [monthOf, Prod.mk.injEq, Date.le_iff_key, Date.key] at same notBefore notAfter ⊢
  omega

/-- The clock never goes back from one check to the next. -/
def InOrder (founds : List World) : Prop :=
  founds.Pairwise fun first second => first.now.date ≤ second.now.date

/-- A month that is done has begun before any of the checks to come. -/
def Begun (done : Option Month) (founds : List World) : Prop :=
  ∀ month, done = some month →
    ∃ past : Date, monthOf past = month ∧ ∀ found ∈ founds, past ≤ found.now.date

variable {worker : Worker} {done : Option Month} {founds : List World}
  {earlier later : List Check} {check next : Check}

/-- The month that is done after a check has begun before the checks that follow it. -/
theorem Begun.doneAfter {found : World} (begun : Begun done (found :: founds))
    (order : InOrder (found :: founds)) :
    Begun (Check.doneAfter ⟨found, done⟩ worker) founds := by
  intro month remembered
  by_cases finishes : Check.Finishes ⟨found, done⟩ worker
  · rw [finishes.doneAfter_eq] at remembered
    exact ⟨found.now.date, Option.some.inj remembered, (List.pairwise_cons.mp order).1⟩
  · rw [Check.doneAfter_of_not_finishes finishes] at remembered
    obtain ⟨past, same, before⟩ := begun month remembered
    exact ⟨past, same, fun later among => before later (List.mem_cons_of_mem _ among)⟩

/-- What a worker remembers is told apart by what came to an end in the month at hand, or by what
was done to begin with. -/
theorem done_iff_finished (order : InOrder founds) (begun : Begun done founds)
    (split : worker.checksIn done founds = earlier ++ check :: later) :
    check.done = some check.month ↔
      (∃ other ∈ earlier, other.month = check.month ∧ other.Finishes worker) ∨
        done = some check.month := by
  induction founds generalizing done earlier with
  | nil => simp [checksIn] at split
  | cons found founds ih =>
      rw [checksIn] at split
      cases earlier with
      | nil =>
          obtain ⟨rfl, -⟩ := List.cons.inj split
          simp
      | cons first earlier =>
          obtain ⟨rfl, rest⟩ := List.cons.inj split
          rw [ih (List.pairwise_cons.mp order).2 (begun.doneAfter order) rest]
          have among : check.found ∈ founds := by
            rw [← worker.map_found_checksIn (Check.doneAfter ⟨found, done⟩ worker) founds, rest]
            exact List.mem_map_of_mem (List.mem_append_right _ List.mem_cons_self)
          have notBefore : found.now.date ≤ check.today :=
            (List.pairwise_cons.mp order).1 check.found among
          have step : Check.doneAfter ⟨found, done⟩ worker = some check.month ↔
              (Check.month ⟨found, done⟩ = check.month ∧ Check.Finishes ⟨found, done⟩ worker) ∨
                done = some check.month := by
            by_cases finishes : Check.Finishes ⟨found, done⟩ worker
            · rw [finishes.doneAfter_eq]
              refine ⟨fun same => .inl ⟨Option.some.inj same, finishes⟩, ?_⟩
              rintro (⟨same, -⟩ | remembered)
              · exact congrArg some same
              · -- the month that was done is that of a day before the check,
                -- and that of one after it
                obtain ⟨past, same, before⟩ := begun _ remembered
                exact congrArg some
                  (monthOf_between same (before found List.mem_cons_self) notBefore)
            · rw [Check.doneAfter_of_not_finishes finishes]
              exact ⟨.inr, fun either => either.resolve_left fun both => finishes both.2⟩
          rw [step]
          simp only [List.mem_cons, exists_eq_or_imp]
          exact or_left_comm.trans or_assoc.symm

/-- The days of the checks follow one another as the clock does. -/
theorem pairwise_today (order : InOrder founds) :
    (worker.checksIn done founds).Pairwise fun first second => first.today ≤ second.today := by
  unfold InOrder at order
  rw [← worker.map_found_checksIn done founds, List.pairwise_map] at order
  exact order

/-- A check starts a run exactly if the billing day has come and no run came
to an end in the month. -/
theorem starts_iff_unfinished (order : InOrder founds)
    (split : worker.checksIn none founds = earlier ++ check :: later) :
    check.Starts worker ↔
      check.HasCome ∧ ∀ other ∈ earlier, other.month = check.month → ¬other.Finishes worker := by
  have begun : Begun none founds := fun _ remembered => nomatch remembered
  rw [Check.starts_iff, ne_eq, done_iff_finished order begun split]
  simp

/-- After a run that broke off, only the billing day can hold up the next one. -/
theorem starts_after_break (order : InOrder founds)
    (split : worker.checksIn none founds = earlier ++ check :: next :: later)
    (breaks : check.Breaks worker) : next.Starts worker ↔ next.HasCome := by
  have splitNext : worker.checksIn none founds = (earlier ++ [check]) ++ next :: later := by
    rw [split, List.append_assoc, List.singleton_append]
  rw [starts_iff_unfinished order splitNext, and_iff_left_iff_imp]
  rintro - other among same finishes
  rcases List.mem_append.mp among with before | last
  · -- the check between the two lies in their month, and it would not have started a run
    have days : (worker.checksIn none founds).Pairwise fun first second =>
        first.today ≤ second.today := pairwise_today order
    rw [split, List.pairwise_append] at days
    obtain ⟨-, daysLater, daysEarlier⟩ := days
    have sameMonth : check.month = next.month :=
      monthOf_between same (daysEarlier other before check List.mem_cons_self)
        ((List.pairwise_cons.mp daysLater).1 next List.mem_cons_self)
    have unfinished := ((starts_iff_unfinished order split).mp breaks.starts).2
    exact unfinished other before (same.trans sameMonth.symm) finishes
  · obtain rfl := List.mem_singleton.mp last
    exact breaks.not_finishes finishes

/-- The checks of a worker keep to the schedule. -/
structure OnSchedule (worker : Worker) (checks : List Check) : Prop where
  /-- A check starts a run exactly if the billing day is known, it has come, and no run came to an
  end earlier in the month. -/
  starts : ∀ earlier check later, checks = earlier ++ check :: later →
    (check.Starts worker ↔
      (∃ day, check.reading.1 = .ok day ∧ day ≤ check.today.day) ∧
        ∀ other ∈ earlier, other.month = check.month → ¬other.Finishes worker)
  /-- Once a run has come to an end, no run starts in its month any more. -/
  once : checks.Pairwise fun first second =>
    first.month = second.month → first.Finishes worker → ¬second.Starts worker
  /-- After a run that broke off, the next check runs again if the billing day
  is known and has come. -/
  again : ∀ earlier check next later, checks = earlier ++ check :: next :: later →
    check.Breaks worker →
      (next.Starts worker ↔ ∃ day, next.reading.1 = .ok day ∧ day ≤ next.today.day)
  /-- A run bills the period before the day of the check. -/
  bills : ∀ check ∈ checks, ∀ result after, check.run? worker = some (result, after) →
    (session (worker.billPeriod (Period.before check.today))).perform check.reading.2 =
        (result, after) ∧
      ∀ report, result = .ok report → report.period = Period.before check.today
  /-- A check never breaks off. -/
  goesOn : ∀ check ∈ checks,
    (worker.check check.done).perform check.found =
      (.ok (check.doneAfter worker), check.left worker)

theorem onSchedule_checksIn (order : InOrder founds) :
    worker.OnSchedule (worker.checksIn none founds) := by
  refine ⟨fun _ _ _ split => starts_iff_unfinished order split, ?_,
    fun _ _ _ _ split breaks => starts_after_break order split breaks,
    fun check _ _ _ ran => ⟨check.perform_of_run ran, ?_⟩,
    fun check _ => check.perform_check worker⟩
  · apply pairwise_of_split
    intro earlier check later split other among same finishes started
    exact ((starts_iff_unfinished order split).mp started).2 other among same finishes
  · rintro report rfl
    exact check.period_of_run ran

/-- The checks that a worker makes at given times, left alone from a world on. -/
def checksAt (worker : Worker) (world : World) (times : List Moment) : List Check :=
  worker.checksIn none (worker.foundAt ⟨world, none⟩ times)

theorem map_now_checksAt (worker : Worker) (world : World) (times : List Moment) :
    (worker.checksAt world times).map (·.found.now) = world.now :: times := by
  calc (worker.checksAt world times).map (·.found.now)
      = ((worker.checksAt world times).map Check.found).map World.now := by rw [List.map_map]; rfl
    _ = (worker.foundAt ⟨world, none⟩ times).map World.now := by
      rw [checksAt, map_found_checksIn]
    _ = world.now :: times := worker.map_now_foundAt _ _

end Worker

/-- The records of one student, where the month before is billed from a day of the month on. -/
def Store.billedFrom (day : Int) : Store :=
  { withEnrollment with settings := some { billingDay := day } }

/-- A day on which no outage is to come, with the records of a store. -/
def World.quietOn (date : Date) (store : Store) : World :=
  { World.struckAt .commit store with outages := [], now := ⟨date, .midnight⟩ }

/-- The fourth of January. The third use of the settings from then on is struck. -/
def World.beforeBillingDay : World :=
  { World.quietOn ⟨2024, 1, 4, by decide⟩ (.billedFrom 5) with
    outages := [⟨.ensureSettings, 3, "down"⟩] }

namespace Worker

/-- The times of four checks after that. -/
def fromFifth : List Moment :=
  [⟨⟨2024, 1, 5, by decide⟩, .midnight⟩, ⟨⟨2024, 1, 6, by decide⟩, .midnight⟩,
    ⟨⟨2024, 1, 30, by decide⟩, .midnight⟩, ⟨⟨2024, 2, 7, by decide⟩, .midnight⟩]

end Worker
end Tuition
