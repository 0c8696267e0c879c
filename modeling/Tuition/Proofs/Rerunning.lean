/-
# Running the worker again

A run that was broken off can be repeated. Wherever it stopped, a whole run is possible from
there if one was possible before, and it leads to the same books: students who were billed are up
to date, invoices that were issued keep their numbers, and the others get the numbers they would
have got. So runs that break off, as many as there may be, and then one that nothing strikes
leave the books that the one run would have left alone. Only the keys of lines and the moments of
issue tell of the runs before.
-/

import Tuition.Proofs.StudentByStudent
import Tuition.Proofs.WorkerRuns

namespace Tuition

open Billing

/-! ## Issuing that was broken off -/

namespace Store

variable {store first second : Store} {ids more : List Int} {period : Period}
  {settings : Settings}

theorem ensured_of_settings (there : store.settings = some settings) : store.ensured = store := by
  rw [ensured, there, Option.getD_some, ← there]

theorem Relined.ensured (relined : first.Relined second) :
    first.ensured.Relined second.ensured where
  lines := relined.lines
  only := by
    rw [relined.only]
    rfl

/-- Issuing counts in the settings and changes nothing else about them. The documents that are
left to write follow the counter. -/
theorem Numbers.exists_settings {base : FilePath} {files : FileTree}
    (numbers : first.Numbers ids second) (kept : Table.WellKept first.invoices)
    (listed : draftIds first period = ids ++ more) (there : first.settings = some settings)
    (renderable : Renderable base period settings first files) :
    ∃ later : Settings, second.settings = some later ∧ later.autoIssue = settings.autoIssue ∧
      later.effectivePrefix = settings.effectivePrefix ∧
      Renderable base period later second files := by
  induction numbers generalizing settings with
  | nil => exact ⟨settings, there, rfl, rfl, renderable⟩
  | cons step rest ih =>
      have remaining := (Numbers.cons step .nil).draftIds_eq kept.ordered listed
      have left := ((renderable_cons_iff listed step remaining fun _ => .rfl).mp renderable).2
      obtain ⟨later, counted, auto, lead, rest⟩ :=
        ih (step.wellKept kept) remaining (step.settings_of_issued there) left
      exact ⟨later, counted, auto, lead, rest⟩

end Store

namespace Billing

/-- Documents that can be written into one tree of files can be written into
one that accepts alike. -/
theorem Renderable.of_alike {base : FilePath} {period : Period} {settings : Settings}
    {store : Store} {before after : FileTree}
    (renderable : Renderable base period settings store before)
    (alike : AcceptsAlike base period settings.effectivePrefix before after) :
    Renderable base period settings store after :=
  ⟨renderable.students, fun place below => (alike _).mpr (renderable.paths place below)⟩

end Billing

namespace Worker

variable {worker : Worker} {base : FilePath} {period : Period} {drafted again final other : Store}
  {files later : FileTree}

namespace Finishes

/-- A run comes to the same books whatever the keys of lines are. -/
theorem exists_same (finishes : Finishes base period drafted files final)
    (relined : drafted.Relined again) :
    ∃ other, Finishes base period again files other ∧ final.SameBooks other := by
  have ensured := relined.ensured
  have sameSettings : again.settings = drafted.settings := by rw [relined.only]
  have sameIds : draftIds again period = draftIds drafted period := by rw [relined.only]; rfl
  cases wanted : (drafted.settings.getD {}).autoIssue with
  | false =>
      refine ⟨again.ensured, .of_unwanted (sameSettings ▸ wanted), ?_⟩
      rw [finishes.unissued wanted]
      exact ensured.sameBooks
  | true =>
      obtain ⟨numbers, renderable⟩ := finishes.issued wanted
      obtain ⟨other, numbersAgain, same⟩ := numbers.exists_same ensured.sameBooks
      refine ⟨other, .of_wanted (sameSettings ▸ wanted) (sameIds ▸ numbersAgain) ?_, same⟩
      rw [sameSettings, ensured.only]
      exact ⟨renderable.students, renderable.paths⟩

/-- From where the first drafts were issued a run comes to the same books. -/
theorem exists_of_issued {done more : List Int} {issued : Store}
    (finishes : Finishes base period drafted files final) (kept : Table.WellKept drafted.invoices)
    (listed : draftIds drafted period = done ++ more)
    (wanted : done ≠ [] → (drafted.settings.getD {}).autoIssue = true)
    (numbers : drafted.ensured.Numbers done issued)
    (alike : Renderable base period (drafted.settings.getD {}) drafted.ensured files →
      AcceptsAlike base period (drafted.settings.getD {}).effectivePrefix files later) :
    ∃ other, Finishes base period issued later other ∧ final.SameBooks other := by
  cases issues : (drafted.settings.getD {}).autoIssue with
  | false =>
      have none : done = [] := by
        by_contra some
        cases issues.symm.trans (wanted some)
      subst none
      cases numbers
      exact ⟨drafted.ensured, .of_unwanted issues, finishes.unissued issues ▸ .refl _⟩
  | true =>
      obtain ⟨all, renderable⟩ := finishes.issued issues
      have listedEnsured : draftIds drafted.ensured period = done ++ more := listed
      rw [listed] at all
      obtain ⟨between, begun, ended⟩ := all.exists_between
      obtain ⟨other, rest, same⟩ := ended.exists_same (begun.sameBooks (.refl _) numbers)
      obtain ⟨settings, there, auto, lead, left⟩ :=
        numbers.exists_settings kept listedEnsured rfl renderable
      have remaining := numbers.draftIds_eq kept.ordered listedEnsured
      have sameSettings : issued.settings.getD {} = settings := by rw [there, Option.getD_some]
      have sameStore := Store.ensured_of_settings there
      refine ⟨other, .of_wanted (sameSettings ▸ auto.trans issues) ?_ ?_, same⟩
      · rwa [sameStore, remaining]
      · rw [sameStore, sameSettings]
        exact left.of_alike (lead ▸ alike renderable)

end Finishes

/-- Whole runs from one state leave the same books. -/
theorem Completes.sameBooks {store : Store}
    (completes : worker.Completes period store files drafted final)
    (others : worker.Completes period store files again other) : final.SameBooks other := by
  obtain rfl := completes.billed.unique others.billed
  cases wanted : (again.settings.getD {}).autoIssue with
  | false =>
      rw [completes.unissued wanted, others.unissued wanted]
      exact .refl _
  | true => exact (completes.issued wanted).1.sameBooks (.refl _) (others.issued wanted).1

end Worker

/-! ## What a run needs -/

/-- Students, invoices and lines obey their rules, every line belongs to an invoice, and there is
room for a number of new lines. -/
structure Store.Ready (store : Store) (count : Nat) : Prop extends store.HasRoom count where
  students : Table.Ordered store.students
  owned : store.LinesOwned

namespace Store

variable {period : Period} {students : List Student} {first second : Store} {count : Nat}
  {billAll : Bool}

/-- Students to bill are distinct. -/
theorem Ready.distinct (ready : first.Ready count) (billAll : Bool) :
    (first.toBill billAll).Pairwise fun first second => first.id ≠ second.id :=
  (toBill_ascending ready.students billAll).imp fun below => Int.ne_of_lt below

/-- Billing takes no more room than there are enrollments. -/
theorem BillsAll.ready (billed : BillsAll period students first second)
    (accepted : period.accepts)
    (distinct : students.Pairwise fun first second => first.id ≠ second.id)
    (ready : first.Ready (first.enrollments.length + count)) : second.Ready count where
  toHasRoom := billed.hasRoom accepted
    (ready.mono (Nat.add_le_add_right (enrollmentCount_le distinct) count))
  students := by
    rw [billed.only]
    exact ready.students
  owned := by
    obtain ⟨outcomes, soFar⟩ := billed.exists_billedSoFar ready.invoices distinct
    exact soFar.owned ready.owned

/-- Issuing takes no room. -/
theorem Numbers.ready {ids : List Int} (numbers : first.ensured.Numbers ids second)
    (ready : first.Ready count) : second.Ready count := by
  have lines : second.lines = first.lines := by
    rw [numbers.only]
    rfl
  refine ⟨⟨numbers.wellKept ready.invoices, lines ▸ ready.lines, lines ▸ ready.room⟩, ?_,
    numbers.linesOwned ready.invoices.ordered ready.owned⟩
  rw [numbers.only]
  exact ready.students

end Store

/-! ## Where a run stops -/

namespace Worker

variable {worker : Worker} {period : Period} {before after : World} {drafted final : Store}
  {count : Nat}

namespace Stops

/-- A run writes invoices, lines and settings. -/
theorem only (stops : worker.Stops period before after) :
    after.store = { before.store with
      invoices := after.store.invoices
      lines := after.store.lines
      settings := after.store.settings } := by
  cases stops with
  | drafting students billed files => rw [billed.only]
  | issuing billed listed wanted issued alike =>
      rw [issued.only, Store.ensured, billed.only]

/-- A run takes no more room than there are enrollments. -/
theorem ready (stops : worker.Stops period before after) (accepted : period.accepts)
    (ready : before.store.Ready (before.store.enrollments.length + count)) :
    after.store.Ready count := by
  have distinct := ready.distinct worker.billAll
  cases stops with
  | drafting students billed files =>
      rw [students] at distinct
      exact billed.ready accepted (distinct.sublist (List.sublist_append_left _ _)) ready
  | issuing billed listed wanted issued alike =>
      exact issued.ready (billed.ready accepted distinct ready)

/-- Wherever a run stops, a whole run is possible from there and leads to the same books. -/
theorem exists_completes (stops : worker.Stops period before after)
    (completes : worker.Completes period before.store before.files drafted final)
    (ready : before.store.Ready count)
    (left : after.store.Ready after.store.enrollments.length) :
    ∃ again other, worker.Completes period after.store after.files again other ∧
      final.SameBooks other := by
  have accepted := completes.accepted
  have distinct := ready.distinct worker.billAll
  have sameBill : after.store.toBill worker.billAll = before.store.toBill worker.billAll := by
    rw [stops.only]
    rfl
  have room : after.store.HasRoom
      (after.store.enrollmentCount (before.store.toBill worker.billAll) + 0) :=
    left.mono (Store.enrollmentCount_le distinct)
  cases stops with
  | @drafting done rest students billed files =>
      -- those who were billed are billed again, and the others for the first time
      have all := completes.billed
      rw [students] at all distinct room
      obtain ⟨outcomes, soFar⟩ := billed.exists_billedSoFar ready.invoices
        (distinct.sublist (List.sublist_append_left _ _))
      obtain ⟨again, billedAgain, relined⟩ :=
        all.exists_again billed (soFar.upToDate ready.invoices ready.owned) accepted room
      obtain ⟨other, finishes, same⟩ := completes.toFinishes.exists_same relined
      refine ⟨again, other, ⟨files ▸ finishes, accepted, ?_⟩, same⟩
      rw [sameBill, students]
      exact billedAgain
  | issuing billed listed wanted issued alike =>
      -- all students are up to date, whether their drafts are issued by now or not
      obtain rfl := completes.billed.unique billed
      obtain ⟨outcomes, soFar⟩ := billed.exists_billedSoFar ready.invoices distinct
      have upToDate := soFar.upToDate ready.invoices ready.owned
      obtain ⟨store, finishes, same⟩ :=
        completes.toFinishes.exists_of_issued soFar.kept listed wanted issued alike
      obtain ⟨again, billedAgain, relined, -⟩ := Store.exists_billsAll
        (fun student mem => ((upToDate student mem).of_settings _).of_numbers issued soFar.kept)
        billed.fits accepted room
      obtain ⟨other, finishesAgain, sameAgain⟩ := finishes.exists_same relined
      exact ⟨again, other, ⟨finishesAgain, accepted, sameBill ▸ billedAgain⟩,
        same.trans sameAgain⟩

end Stops
end Worker

/-! ## Turns of the worker -/

namespace Worker

/-- A turn of the worker: the outages that are to come in it, its moment, and
the month it is told. -/
structure Turn where
  outages : List Outage
  now : Moment
  year : Option Int := none
  month : Option Int := none

/-- The period that is billed in a turn. -/
def Turn.period (turn : Turn) : Period :=
  periodToBill turn.now.date turn.year turn.month

/-- What a turn of the worker comes to. -/
def turn (worker : Worker) (world : World) (turn : Turn) : Except Fault BillingReport × World :=
  (worker.runOnce turn.year turn.month).perform
    { world with outages := turn.outages, now := turn.now }

/-- The world after turns of the worker, one after another. -/
def afterTurns (worker : Worker) (world : World) (turns : List Turn) : World :=
  turns.foldl (fun world turn => (worker.turn world turn).2) world

/-- A turn of the worker is a run, which is complete if it reports no error. -/
theorem runs_turn (worker : Worker) (world : World) (turn : Turn)
    (kept : Table.WellKept world.store.invoices) :
    worker.Runs turn.period
      { world with pending := world.store, outages := turn.outages, now := turn.now }
      (∃ report, (worker.turn world turn).1 = .ok report ∧ report.error = none)
      (worker.turn world turn).2 := by
  have runs := ends_runOnce_runs worker { world with outages := turn.outages, now := turn.now }
    turn.year turn.month kept
  rcases performed : worker.turn world turn with ⟨fault | report, after⟩
  · simp only [reduceCtorEq, false_and, exists_false]
    exact runs.of_error performed
  · simp only [Except.ok.injEq, exists_eq_left']
    exact runs.of_ok performed

/-- A whole run is possible and leads to these books, and there is room for a number of runs. -/
structure Leads (worker : Worker) (period : Period) (books : Store) (count : Nat)
    (world : World) : Prop where
  tables : world.hasTables = true
  ready : world.store.Ready (count * world.store.enrollments.length)
  possible : ∃ drafted final, worker.Completes period world.store world.files drafted final ∧
    books.SameBooks final

namespace Leads

variable {worker : Worker} {period : Period} {world : World} {books : Store} {count : Nat}
  {turn : Turn} {turns : List Turn}

/-- After any turn a whole run is still possible and leads to the same books. -/
theorem step (leads : worker.Leads turn.period books (count + 2) world) :
    worker.Leads turn.period books (count + 1) (worker.turn world turn).2 := by
  have runs := runs_turn worker world turn leads.ready.invoices
  obtain ⟨drafted, final, completes, same⟩ := leads.possible
  have enrollments : (worker.turn world turn).2.store.enrollments = world.store.enrollments := by
    rw [runs.stops.only]
  have shared : (count + 2) * world.store.enrollments.length =
      world.store.enrollments.length + (count + 1) * world.store.enrollments.length := by
    rw [Nat.add_comm world.store.enrollments.length, ← Nat.succ_mul]
  have ready := runs.stops.ready completes.accepted (shared ▸ leads.ready)
  rw [← enrollments] at ready
  have enough : (worker.turn world turn).2.store.Ready
      (worker.turn world turn).2.store.enrollments.length :=
    ⟨ready.mono (Nat.le_mul_of_pos_left _ count.succ_pos), ready.students, ready.owned⟩
  obtain ⟨again, other, completesAgain, sameAgain⟩ :=
    runs.stops.exists_completes completes leads.ready enough
  exact ⟨runs.hasTables.trans leads.tables, ready, again, other, completesAgain,
    same.trans sameAgain⟩

/-- A whole run stays possible in any number of turns. -/
theorem afterTurns (leads : worker.Leads period books (count + turns.length + 1) world)
    (periods : ∀ turn ∈ turns, turn.period = period) :
    worker.Leads period books (count + 1) (worker.afterTurns world turns) := by
  induction turns generalizing world with
  | nil => exact leads
  | cons turn others ih =>
      obtain ⟨rfl, periods⟩ := List.forall_mem_cons.mp periods
      exact ih leads.step periods

/-- A turn that nothing strikes reports no error. -/
theorem unfailed (leads : worker.Leads turn.period books count world)
    (quiet : turn.outages = []) :
    ∃ report, (worker.turn world turn).1 = .ok report ∧ report.error = none := by
  obtain ⟨drafted, final, completes, -⟩ := leads.possible
  exact (runs_turn worker world turn leads.ready.invoices).calm ⟨leads.tables, quiet⟩
    ⟨drafted, final, completes⟩

/-- A turn that nothing strikes leaves the books that a whole run leads to. -/
theorem sameBooks (leads : worker.Leads turn.period books count world)
    (quiet : turn.outages = []) : books.SameBooks (worker.turn world turn).2.store := by
  obtain ⟨drafted, final, completes, same⟩ := leads.possible
  obtain ⟨again, completesAgain⟩ :=
    (runs_turn worker world turn leads.ready.invoices).completes (leads.unfailed quiet)
  exact same.trans (completes.sameBooks completesAgain)

end Leads

/-- Running the worker again is safe. Where one turn reports no error, after any number of turns
that are cut short one that nothing strikes reports no error either, and it and any further such
ones leave the books that the one turn leaves, as long as the keys of lines do not run out. -/
theorem rerunning_keeps_books (worker : Worker) (world : World) (period : Period)
    (tables : world.hasTables = true) (students : Table.Ordered world.store.students)
    (invoices : Table.WellKept world.store.invoices) (lines : Table.WellKept world.store.lines)
    (owned : world.store.LinesOwned) {once : Turn} (billing : once.period = period)
    {report : BillingReport} {done : World}
    (performed : worker.turn world once = (.ok report, done)) (unfailed : report.error = none)
    (cut : List Turn) (whole : Turn) (further : List Turn)
    (periods : ∀ turn ∈ cut ++ whole :: further, turn.period = period)
    (quiet : ∀ turn ∈ whole :: further, turn.outages = [])
    (room : Table.Room world.store.lines
      ((cut ++ whole :: further).length * world.store.enrollments.length)) :
    (∃ report, (worker.turn (worker.afterTurns world cut) whole).1 = .ok report ∧
      report.error = none) ∧
    done.store.SameBooks (worker.afterTurns world (cut ++ whole :: further)).store := by
  have runs := runs_turn worker world once invoices
  rw [performed] at runs
  obtain ⟨drafted, completes⟩ := runs.completes ⟨report, rfl, unfailed⟩
  have turns : (cut ++ whole :: further).length = further.length + cut.length + 1 := by
    rw [List.length_append, List.length_cons]
    omega
  have leads : worker.Leads period done.store (further.length + cut.length + 1) world :=
    ⟨tables, ⟨⟨invoices, lines, turns ▸ room⟩, students, owned⟩, drafted, done.store,
      billing ▸ completes, .refl _⟩
  obtain ⟨periodsCut, periodsWhole⟩ := List.forall_mem_append.mp periods
  have led := leads.afterTurns periodsCut
  constructor
  · obtain rfl := periodsWhole whole List.mem_cons_self
    exact led.unfailed (quiet whole List.mem_cons_self)
  · -- of the turns that nothing strikes it is the last that decides
    obtain ⟨between, last, split⟩ : ∃ between last, whole :: further = between ++ [last] :=
      ⟨_, _, (List.dropLast_append_getLast (List.cons_ne_nil whole further)).symm⟩
    have sameLength : further.length = between.length := by simpa using congrArg List.length split
    rw [split] at quiet periodsWhole ⊢
    obtain ⟨periodsBetween, periodLast⟩ := List.forall_mem_append.mp periodsWhole
    rw [sameLength, ← Nat.zero_add between.length] at led
    have ledLast := led.afterTurns periodsBetween
    obtain rfl := periodLast last List.mem_cons_self
    have same := ledLast.sameBooks (quiet last (List.mem_append_right _ List.mem_cons_self))
    rwa [Worker.afterTurns, List.foldl_append, List.foldl_append]

/-- A turn that bills January 2024. -/
def Turn.sample (outages : List Outage) : Turn where
  outages := outages
  now := default
  year := some 2024
  month := some 1

end Worker

/-- The records of two students whose invoices are issued as soon as they are drafted. -/
def Store.withAutoIssue : Store :=
  { withTwoStudents with settings := some { autoIssue := true } }

namespace Worker

/-- Turns that are cut short between two students and between an invoice and its document leave,
once the turn is repeated, the books that it leaves alone. -/
theorem rerunning_keeps_books_when_struck :
    ∃ report done,
      turn ⟨⟨"/", []⟩, false⟩ (.struckAt .commit .withAutoIssue) (.sample []) =
        (.ok report, done) ∧
      done.store.invoices.map Invoice.number = [some "LS-202401-001", some "LS-202401-002"] ∧
      done.store.SameBooks (afterTurns ⟨⟨"/", []⟩, false⟩ (.struckAt .commit .withAutoIssue)
        ([.sample [⟨.addLines, 2, "down"⟩], .sample [⟨.render, 1, "down"⟩]] ++
          .sample [] :: [.sample []])).store := by
  have unfailed : (turn ⟨⟨"/", []⟩, false⟩ (.struckAt .commit .withAutoIssue) (.sample [])).1.map
      BillingReport.error = .ok none := by decide +kernel
  have numbers : (turn ⟨⟨"/", []⟩, false⟩ (.struckAt .commit .withAutoIssue)
      (.sample [])).2.store.invoices.map Invoice.number =
        [some "LS-202401-001", some "LS-202401-002"] := by decide +kernel
  have owned : Store.withAutoIssue.LinesOwned := by
    unfold Store.LinesOwned
    decide
  rcases performed : turn ⟨⟨"/", []⟩, false⟩ (.struckAt .commit .withAutoIssue) (.sample []) with
    ⟨fault | report, done⟩
  · rw [performed] at unfailed
    cases unfailed
  · rw [performed] at unfailed numbers
    refine ⟨report, done, rfl, numbers, ?_⟩
    exact (rerunning_keeps_books ⟨⟨"/", []⟩, false⟩ (.struckAt .commit .withAutoIssue) ⟨2024, 1⟩
      rfl (by decide) (by decide) (by decide) owned rfl performed (Except.ok.inj unfailed)
      [.sample [⟨.addLines, 2, "down"⟩], .sample [⟨.render, 1, "down"⟩]] (.sample []) [.sample []]
      (by decide) (by decide) (by decide)).2

end Worker
end Tuition
