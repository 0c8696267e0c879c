/-
# Runs that fail

A run can fail in two ways. Drafting and issuing turn whatever strikes them into a report with an
error. Only between the two, where a run makes sure of the settings, a fault gets out of it and
breaks it off. The schedule tells the two apart: a run that breaks off is tried again at the next
check, while one that reports an error uses its month up like one that went well.
-/

import Tuition.Proofs.BillingSchedule

namespace Tuition

open Tx

namespace Worker

/-- What a run does between drafting and issuing: it makes sure of the settings. -/
def secureSettings : Tx Settings := do
  let settings ← Access.ensureSettings
  Tx.commit
  return settings

theorem settled_secureSettings {world : World} (settled : world.Settled) :
    secureSettings.Ends world (fun _ after => after.Settled) fun _ _ => True :=
  Billing.ends_ensured settled (fun _ _ secured _ => ends_pure secured) fun _ _ _ _ _ => trivial

/-- No fault gets out of issuing. -/
theorem faultless_issueDrafts (worker : Worker) (report : BillingReport) {world : World}
    (settled : world.Settled) :
    (worker.issueDrafts report).Ends world (fun _ _ => True) fun _ _ => False := by
  apply ends_bind
  refine (Billing.ends_issueAll worker.outputDirectory report.period settled).faultless ?_
  rintro (refusal | run) after -
  · exact ends_pure trivial
  · exact ends_pure trivial

/-- A fault gets out of billing a period exactly where drafting came to an end and the settings
could not be secured. -/
theorem perform_billPeriod_fault_iff (worker : Worker) (period : Period) {world : World}
    (settled : world.Settled) :
    (∃ fault after, (worker.billPeriod period).perform world = (.error fault, after)) ↔
      ∃ counts drafted fault after,
        (Billing.generateDrafts worker.billAll period).perform world =
          (.ok (.ok counts), drafted) ∧
          secureSettings.perform drafted = (.error fault, after) := by
  have drafts := Billing.ends_generateDrafts worker.billAll period settled
  unfold billPeriod
  rw [perform_bind]
  rcases drafting : (Billing.generateDrafts worker.billAll period).perform world with
    ⟨fault | refusal | counts, drafted⟩
  · exact (drafts.of_error drafting).elim
  · constructor
    · rintro ⟨fault, after, broken⟩
      cases broken
    · rintro ⟨counts, later, fault, after, done, -⟩
      cases done
  · have secures := settled_secureSettings (drafts.of_ok drafting).settled
    let report : BillingReport := { period, drafts := some counts }
    have regrouped : (do
        let settings ← Access.ensureSettings
        Tx.commit
        if settings.autoIssue then worker.issueDrafts report else return report) =
          secureSettings >>= fun settings =>
            if settings.autoIssue then worker.issueDrafts report else return report := by
      simp [secureSettings]
    dsimp only
    rw [regrouped, perform_bind]
    rcases securing : secureSettings.perform drafted with ⟨fault | settings, secured⟩
    · exact ⟨fun _ => ⟨counts, drafted, fault, secured, rfl, securing⟩,
        fun _ => ⟨fault, secured, rfl⟩⟩
    · have issues : (if settings.autoIssue then worker.issueDrafts report else return report).Ends
          secured (fun _ _ => True) fun _ _ => False := by
        split
        · exact worker.faultless_issueDrafts report (secures.of_ok securing)
        · exact ends_pure trivial
      constructor
      · rintro ⟨fault, after, broken⟩
        exact (issues.of_error broken).elim
      · rintro ⟨_, _, fault, after, done, broken⟩
        cases done
        cases securing.symm.trans broken

/-- The run of a check that starts one bills the period before in a session. -/
theorem run?_eq_of_starts {worker : Worker} {check : Check} (starts : check.Starts worker) :
    check.run? worker =
      some ((session (worker.billPeriod (Period.before check.today))).perform
        check.reading.2) := by
  obtain ⟨⟨result, after⟩, ran⟩ := Option.isSome_iff_exists.mp starts
  rw [ran, check.perform_of_run ran]

/-- A run is broken off exactly where drafting came to an end and the settings
could not be secured. -/
theorem breaks_iff {worker : Worker} {check : Check} (starts : check.Starts worker) :
    check.Breaks worker ↔
      ∃ counts drafted fault after,
        (Billing.generateDrafts worker.billAll (Period.before check.today)).perform
            check.reading.2.begin = (.ok (.ok counts), drafted) ∧
          secureSettings.perform drafted = (.error fault, after) := by
  rw [← perform_billPeriod_fault_iff worker _ check.reading.2.settled_begin, Check.Breaks,
    run?_eq_of_starts starts, perform_session]
  simp only [Option.some.injEq, Prod.mk.injEq]
  constructor
  · rintro ⟨fault, after, broken, -⟩
    exact ⟨fault, _, Prod.ext broken rfl⟩
  · rintro ⟨fault, after, broken⟩
    exact ⟨fault, _, congrArg Prod.fst broken, rfl⟩

/-- A refusal of drafting is reported, and the run comes to an end with it. -/
theorem finishes_of_refused {worker : Worker} {check : Check} (starts : check.Starts worker)
    {refusal : Refusal} {drafted : World}
    (refused : (Billing.generateDrafts worker.billAll (Period.before check.today)).perform
      check.reading.2.begin = (.ok (.error refusal), drafted)) :
    ∃ report after, check.run? worker = some (.ok report, after) ∧
      report.error = some refusal := by
  refine ⟨{ period := Period.before check.today, error := some refusal }, drafted.begin, ?_, rfl⟩
  rw [run?_eq_of_starts starts, perform_session, billPeriod, perform_bind, refused]
  rfl

variable {worker : Worker} {founds : List World} {earlier between later : List Check}
  {check next : Check}

/-- The first check after a run that finds the billing day come in the same month starts a run
exactly if the earlier one was broken off, and that was by the settings. A run whose drafting was
refused reports that as its error, and no run with a report is tried again. -/
theorem only_broken_runs_retried (worker : Worker) (order : InOrder founds)
    (split : worker.checksIn none founds = earlier ++ check :: (between ++ next :: later))
    (starts : check.Starts worker) (sameMonth : next.month = check.month)
    (hasCome : next.HasCome) (first : ∀ other ∈ between, ¬other.HasCome) :
    (next.Starts worker ↔
      ∃ counts drafted fault after,
        (Billing.generateDrafts worker.billAll (Period.before check.today)).perform
            check.reading.2.begin = (.ok (.ok counts), drafted) ∧
          secureSettings.perform drafted = (.error fault, after)) ∧
    (∀ refusal drafted,
      (Billing.generateDrafts worker.billAll (Period.before check.today)).perform
          check.reading.2.begin = (.ok (.error refusal), drafted) →
        ∃ report after, check.run? worker = some (.ok report, after) ∧
          report.error = some refusal) ∧
    ∀ report after, check.run? worker = some (.ok report, after) → ¬next.Starts worker := by
  have splitNext : worker.checksIn none founds =
      (earlier ++ check :: between) ++ next :: later := by
    rw [split, List.append_assoc, List.cons_append]
  have retried : next.Starts worker ↔ check.Breaks worker := by
    rw [starts_iff_unfinished order splitNext, and_iff_right hasCome]
    constructor
    · intro unfinished
      exact (Check.starts_iff_ends.mp starts).resolve_left
        (unfinished check (List.mem_append_right _ List.mem_cons_self) sameMonth.symm)
    · intro breaks other among same finishes
      rcases List.mem_append.mp among with before | here
      · have unfinished := ((starts_iff_unfinished order split).mp starts).2
        exact unfinished other before (same.trans sameMonth) finishes
      · rcases List.mem_cons.mp here with rfl | inBetween
        · exact breaks.not_finishes finishes
        · exact first other inBetween (Check.starts_iff.mp finishes.starts).1
  refine ⟨retried.trans (breaks_iff starts),
    fun _ _ refused => finishes_of_refused starts refused, ?_⟩
  intro report after ran startsNext
  exact (retried.mp startsNext).not_finishes ⟨report, after, ran⟩

/-- A run that the settings break off on the fifth of January is tried again on the sixth. -/
theorem only_broken_runs_retried_on_sixth :
    let worker : Worker := ⟨⟨"/", []⟩, false⟩
    ∃ check next, [check, next] <:+: worker.checksAt .beforeBillingDay fromFifth ∧
      check.Starts worker ∧ next.month = check.month ∧ next.Starts worker ∧
      ∃ counts drafted fault after,
        (Billing.generateDrafts worker.billAll (Period.before check.today)).perform
            check.reading.2.begin = (.ok (.ok counts), drafted) ∧
          secureSettings.perform drafted = (.error fault, after) := by
  intro worker
  obtain ⟨before, check, next, later, split⟩ : ∃ before check next later,
      worker.checksAt .beforeBillingDay fromFifth = [before] ++ check :: ([] ++ next :: later) :=
    ⟨_, _, _, _, rfl⟩
  have ran : ((worker.checksAt .beforeBillingDay fromFifth).map fun check =>
      (check.month, (check.run? worker).isSome)) =
        [((2024, 1), false), ((2024, 1), true), ((2024, 1), true), ((2024, 1), false),
          ((2024, 2), true)] := by
    decide +kernel
  rw [split] at ran
  simp only [List.cons_append, List.nil_append, List.map_cons, List.cons.injEq,
    Prod.mk.injEq] at ran
  obtain ⟨-, ⟨month, starts⟩, ⟨monthNext, startsNext⟩, -⟩ := ran
  have sameMonth : next.month = check.month := monthNext.trans month.symm
  have order : InOrder (worker.foundAt ⟨.beforeBillingDay, none⟩ fromFifth) := by
    unfold InOrder
    decide +kernel
  refine ⟨check, next, ⟨[before], later, split.symm⟩, starts, sameMonth, startsNext, ?_⟩
  exact (only_broken_runs_retried worker order split starts sameMonth
    (Check.starts_iff.mp startsNext).1 (by simp)).1.mp startsNext

end Worker

/-- The fifth of February. The next search for active students is struck. -/
def World.struckOnFifth : World :=
  { World.quietOn ⟨2024, 2, 5, by decide⟩ (.billedFrom 5) with
    outages := [⟨.activeStudents, 1, "down"⟩] }

namespace Worker

/-- A run that only reports an error uses its month up: January is not billed on the sixth of
February either, where nothing is struck any more. -/
theorem failed_run_not_retried :
    let worker : Worker := ⟨⟨"/", []⟩, false⟩
    ∃ first second,
      worker.checksAt .struckOnFifth [⟨⟨2024, 2, 6, by decide⟩, .midnight⟩] = [first, second] ∧
      (∃ report after, first.run? worker = some (.ok report, after) ∧ report.error.isSome) ∧
      second.month = first.month ∧ second.HasCome ∧ second.found.outages = [] ∧
      ¬second.Starts worker := by
  intro worker
  obtain ⟨first, second, both⟩ : ∃ first second,
      worker.checksAt .struckOnFifth [⟨⟨2024, 2, 6, by decide⟩, .midnight⟩] = [first, second] :=
    ⟨_, _, rfl⟩
  have facts : ((worker.checksAt .struckOnFifth [⟨⟨2024, 2, 6, by decide⟩, .midnight⟩]).map
      fun check => (check.month, (check.run? worker).map fun run => run.1.map (·.error.isSome))) =
        [((2024, 2), some (.ok true)), ((2024, 2), none)] := by
    decide +kernel
  have quiet : ((worker.checksAt .struckOnFifth [⟨⟨2024, 2, 6, by decide⟩, .midnight⟩]).map
      fun check => (check.found.outages, check.reading.1, check.today.day)) =
        [([⟨.activeStudents, 1, "down"⟩], .ok 5, 5), ([], .ok 5, 6)] := by
    decide +kernel
  rw [both] at facts quiet
  simp only [List.map_cons, List.map_nil, List.cons.injEq, Prod.mk.injEq, and_true] at facts quiet
  obtain ⟨⟨month, failed⟩, monthSecond, idle⟩ := facts
  obtain ⟨-, noOutage, reading, today⟩ := quiet
  refine ⟨first, second, both, ?_, monthSecond.trans month.symm, ⟨5, reading, ?_⟩, noOutage, ?_⟩
  · rcases ran : first.run? worker with _ | ⟨fault | report, after⟩
    · rw [ran] at failed
      cases failed
    · rw [ran] at failed
      cases failed
    · rw [ran] at failed
      exact ⟨report, after, rfl, Except.ok.inj (Option.some.inj failed)⟩
  · rw [today]
    decide
  · simpa [Check.Starts] using idle

end Worker
end Tuition
