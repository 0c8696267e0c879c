/-
# What a check of the billing schedule does

A check reads the billing day and then, if a run is due, runs the worker. It is taken apart here
into these two steps, each with what it comes to, and put together again: `perform_check` says
that a check never breaks off, what it leaves, and which month it remembers as done.

Between two checks anything may happen to the records, the files, the outages to come and the
clock. So the checks of a worker are given by the worlds that they find; all that goes from one
check to the next by way of the worker is the month that is done. A worker that is left alone is
the case where nothing but the clock changes in between.
-/

import Tuition.Proofs.WorkerRuns
import Tuition.Worker.Schedule

namespace Tuition

open Tx

/-! ## Sessions that go on -/

theorem Tx.Continuing.session {α : Type} {action : Tx α} (continuing : action.Continuing) :
    (Tx.session action).Continuing := by
  intro world
  have begins := (continuing_rollback world).after
  apply ends_session
  refine (continuing world.begin).mono ?_ ?_
  · intro value after continues
    exact (begins.trans continues).trans (continuing_rollback after).after
  · intro fault after continues
    exact (begins.trans continues).trans (continuing_rollback after).after

/-- Whatever a use case does, the tables are there afterwards if they were before. -/
theorem UseCase.Takes.hasTables {useCase : UseCase} {before after : World}
    (takes : useCase.Takes before after) : after.hasTables = before.hasTables := by
  obtain ⟨prepared, ⟨_, -, moves⟩, _, -, issues⟩ := takes
  exact issues.hasTables.trans moves.hasTables

namespace Worker

/-- Reading the billing day leaves files, clock and tables as they are. -/
theorem continuing_billingDay : billingDay.Continuing := by
  apply Continuing.bind Billing.does_ensureSettings.continuing
  intro settings
  have commits : commitPending.Continuing :=
    fun _ => ⟨rfl, rfl, rfl, fun calm => ⟨calm.tables, calm.quiet⟩⟩
  exact commits.bind fun _ => continuing_pure _

/-- A report is about the period that was billed. -/
theorem ends_billPeriod_period (worker : Worker) (period : Period) (world : World) :
    (worker.billPeriod period).Ends world (fun report _ => report.period = period)
      fun _ _ => True := by
  apply ends_bind_any _ fun _ _ => trivial
  rintro (refusal | counts) drafted
  · exact ends_pure rfl
  apply ends_bind_any _ fun _ _ => trivial
  intro settings between
  apply ends_bind_any _ fun _ _ => trivial
  intro _ ensured
  dsimp only
  split
  · apply ends_bind_any _ fun _ _ => trivial
    rintro (refusal | run) issued
    · exact ends_pure rfl
    · exact ends_pure rfl
  · exact ends_pure rfl

/-! ## A single check -/

/-- A check of a worker that keeps running: the world that it finds, and the month that is done by
then. -/
structure Check where
  found : World
  done : Option Month

namespace Check

/-- The day of a check. -/
def today (check : Check) : Date :=
  check.found.now.date

/-- The month of a check. -/
def month (check : Check) : Month :=
  monthOf check.today

/-- What reading the billing day comes to at a check, and the world after it. -/
def reading (check : Check) : Except Fault Int × World :=
  (session billingDay).perform check.found

/-- The run that a check starts, if it starts one: what the run ends with,
and the world after it. -/
def run? (check : Check) (worker : Worker) : Option (Except Fault BillingReport × World) :=
  match check.reading with
  | (.error _, _) => none
  | (.ok day, between) =>
    if isDue check.today day check.done then some ((worker.runOnce none none).perform between)
    else none

/-- A check starts a run. -/
def Starts (check : Check) (worker : Worker) : Prop :=
  (check.run? worker).isSome

/-- A check starts a run, and the run comes to an end: it returns a report. -/
def Finishes (check : Check) (worker : Worker) : Prop :=
  ∃ report after, check.run? worker = some (.ok report, after)

/-- A check starts a run, and a fault breaks the run off. -/
def Breaks (check : Check) (worker : Worker) : Prop :=
  ∃ fault after, check.run? worker = some (.error fault, after)

/-- The billing day is known at a check, and it has come. -/
def HasCome (check : Check) : Prop :=
  ∃ day, check.reading.1 = .ok day ∧ day ≤ check.today.day

/-- The month that is done after a check. -/
def doneAfter (check : Check) (worker : Worker) : Option Month :=
  match check.run? worker with
  | some (.ok _, _) => some check.month
  | _ => check.done

/-- The world after a check. -/
def left (check : Check) (worker : Worker) : World :=
  match check.run? worker with
  | some (_, after) => after
  | none => check.reading.2

variable {check : Check} {worker : Worker}

/-- A check never breaks off, and it leaves the world and the month that are done by its steps. -/
theorem perform_check (check : Check) (worker : Worker) :
    (worker.check check.done).perform check.found =
      (.ok (check.doneAfter worker), check.left worker) := by
  have checked : (worker.checkOnce check.done).perform check.found =
      match check.reading with
      | (.ok day, between) =>
        (if isDue check.today day check.done then (do
            let _ ← worker.runOnce none none
            return some (monthOf check.today))
          else return check.done : Tx (Option Month)).perform between
      | (.error fault, between) => (.error fault, between) := by
    have started : (worker.checkOnce check.done).perform check.found =
        ((do
          let day ← session billingDay
          if isDue check.today day check.done then
            let _ ← worker.runOnce none none
            return some (monthOf check.today)
          else return check.done) : Tx (Option Month)).perform check.found := rfl
    rw [started, perform_bind]
    unfold reading
    rcases (session billingDay).perform check.found with ⟨_ | _, _⟩ <;> rfl
  refine (perform_recover _ _ _).trans ?_
  rw [checked]
  unfold doneAfter left run?
  rcases read : check.reading with ⟨fault | day, between⟩
  · rfl
  · dsimp only
    by_cases due : isDue check.today day check.done = true
    · simp only [if_pos due, perform_bind]
      rcases (worker.runOnce none none).perform between with ⟨fault | report, after⟩ <;> rfl
    · simp only [if_neg due]
      rfl

/-- Reading the billing day takes no time. -/
theorem reading_continues (check : Check) : check.found.Continues check.reading.2 :=
  (continuing_billingDay.session check.found).after

/-- A run is started where the billing day is known, has come, and the month is not done. -/
theorem starts_iff : check.Starts worker ↔ check.HasCome ∧ check.done ≠ some check.month := by
  unfold Starts run? HasCome
  rcases check.reading with ⟨fault | day, between⟩
  · simp
  · simp [isDue, month]

theorem starts_iff_ends : check.Starts worker ↔ check.Finishes worker ∨ check.Breaks worker := by
  unfold Starts Finishes Breaks
  rcases check.run? worker with _ | ⟨_ | _, _⟩ <;> simp

theorem Finishes.starts (finishes : check.Finishes worker) : check.Starts worker :=
  starts_iff_ends.mpr (.inl finishes)

theorem Breaks.starts (breaks : check.Breaks worker) : check.Starts worker :=
  starts_iff_ends.mpr (.inr breaks)

theorem Breaks.not_finishes (breaks : check.Breaks worker) : ¬check.Finishes worker := by
  rintro ⟨report, after, finished⟩
  obtain ⟨fault, later, broken⟩ := breaks
  cases broken.symm.trans finished

/-- A run that comes to an end uses its month up. -/
theorem Finishes.doneAfter_eq (finishes : check.Finishes worker) :
    check.doneAfter worker = some check.month := by
  obtain ⟨report, after, finished⟩ := finishes
  simp only [doneAfter, finished]

/-- Nothing else uses a month up. -/
theorem doneAfter_of_not_finishes (unfinished : ¬check.Finishes worker) :
    check.doneAfter worker = check.done := by
  unfold Finishes at unfinished
  unfold doneAfter
  rcases ran : check.run? worker with _ | ⟨_ | report, after⟩
  · rfl
  · rfl
  · exact absurd ⟨report, after, ran⟩ unfinished

/-- The run that a check starts follows the reading, and it bills the month before. -/
theorem perform_of_run {result : Except Fault BillingReport} {after : World}
    (ran : check.run? worker = some (result, after)) :
    (session (worker.billPeriod (Period.before check.today))).perform check.reading.2 =
      (result, after) := by
  have now := check.reading_continues.now
  unfold run? at ran
  rcases read : check.reading with ⟨fault | day, between⟩
  · rw [read] at ran
    cases ran
  · rw [read] at ran now
    dsimp only at ran now
    split at ran
    · have performed : (worker.runOnce none none).perform between =
          (session (worker.billPeriod (Period.before between.now.date))).perform between := rfl
      rw [performed, now] at ran
      exact Option.some.inj ran
    · cases ran

/-- The report of a run is about the month before. -/
theorem period_of_run {report : BillingReport} {after : World}
    (ran : check.run? worker = some (.ok report, after)) :
    report.period = Period.before check.today := by
  have ends : (session (worker.billPeriod (Period.before check.today))).Ends check.reading.2
      (fun report _ => report.period = Period.before check.today) fun _ _ => True :=
    ends_session (ends_billPeriod_period worker _ _)
  exact ends.of_ok (perform_of_run ran)

end Check

/-! ## Checks one after another -/

/-- The checks of a worker that find the worlds given, the first one with a month
that is done by then. -/
def checksIn (worker : Worker) (done : Option Month) : List World → List Check
  | [] => []
  | found :: later =>
    ⟨found, done⟩ :: worker.checksIn (Check.doneAfter ⟨found, done⟩ worker) later

/-- The worlds that the checks of a worker find that is left alone but for the clock. -/
def foundAt (worker : Worker) (check : Check) : List Moment → List World
  | [] => [check.found]
  | next :: times =>
    check.found :: worker.foundAt
      ⟨{ (check.left worker).begin with now := next }, check.doneAfter worker⟩ times

theorem map_found_checksIn (worker : Worker) (done : Option Month) (founds : List World) :
    (worker.checksIn done founds).map Check.found = founds := by
  induction founds generalizing done with
  | nil => rfl
  | cons found later ih => exact congrArg (found :: ·) (ih _)

theorem map_now_foundAt (worker : Worker) (check : Check) (times : List Moment) :
    (worker.foundAt check times).map World.now = check.found.now :: times := by
  induction times generalizing check with
  | nil => rfl
  | cons next times ih =>
      rw [foundAt, List.map_cons, ih]

end Worker
end Tuition
