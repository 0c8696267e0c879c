/-
# Where a run of the worker stops

A run bills the students, makes sure of the settings and then issues the drafts if that is wanted,
and it commits after each step. `Stops` lists where it may stop, whatever strikes it: when the
first students were billed, when the settings were made, or when the first drafts were issued.
`Completes` says what a run has done that reports no error, as a relation on stores and files
alone. In a calm a run is complete if it can be.
-/

import Tuition.Proofs.IssuedDocuments
import Tuition.Proofs.Rebilling

namespace Tuition

open Tx Billing

/-- The store with settings, which are the defaults where they were missing. -/
def Store.ensured (store : Store) : Store :=
  { store with settings := some (store.settings.getD {}) }

namespace Billing

variable {world : World} {period : Period}

/-! ## Drafting -/

theorem continuing_generateDrafts (billAll : Bool) (period : Period) :
    (generateDrafts billAll period).Continuing := by
  unfold generateDrafts
  split
  · exact continuing_pure _
  apply Continuing.recover
  · apply (Does.continuing (reads_studentsToBill billAll)).bind
    intro students
    exact (does_draftEach _ students).continuing.bind fun _ => continuing_pure _
  · intro fault
    exact continuing_rollback.bind fun _ => continuing_pure _

/-- In a calm drafting bills all students if the store can bill them. -/
theorem ends_generateDrafts_of_calm {billAll : Bool} {drafted : Store} (accepted : period.accepts)
    (settled : world.Settled) (calm : world.Calm)
    (able : Store.BillsAll period (world.store.toBill billAll) world.store drafted) :
    (generateDrafts billAll period).Ends world (fun result _ => ∃ counts, result = .ok counts)
      fun _ _ => False := by
  obtain ⟨total, able⟩ := (Store.billsAll_iff { period }).mp able
  unfold generateDrafts
  simp only [accepted, Bool.not_true, Bool.false_eq_true, if_false]
  rw [← settled] at able
  apply ends_recover
  apply ends_bind
  refine (Does.ends_of_ok (reads_studentsToBill billAll) calm rfl).mono ?_ fun _ _ never =>
    never.elim
  rintro _ chosen ⟨rfl, same, continues⟩
  have begun : Store.billEach { period } (world.pending.toBill billAll) chosen.pending =
      .ok (total, drafted) := by
    rw [same]
    exact able
  apply ends_bind
  refine ((does_draftEach { period } _).ends_of_ok (continues.calm calm) begun).mono ?_
    fun _ _ never => never.elim
  rintro counts after -
  exact ends_pure ⟨counts, rfl⟩

/-- Drafting bills all students, or the first of them. In a calm it bills
all if that is possible. -/
inductive DraftsSome (billAll : Bool) (period : Period) (before : World) :
    Except Refusal DraftCounts → World → Prop
  | all {counts : DraftCounts} {after : World} (accepted : period.accepts)
      (billed : Store.BillsAll period (before.store.toBill billAll) before.store after.store) :
      DraftsSome billAll period before (.ok counts) after
  | some {refusal : Refusal} {after : World} {done rest : List Student}
      (students : before.store.toBill billAll = done ++ rest)
      (billed : Store.BillsAll period done before.store after.store)
      (struck : before.Calm → period.accepts → ∀ drafted,
        ¬Store.BillsAll period (before.store.toBill billAll) before.store drafted) :
      DraftsSome billAll period before (.error refusal) after

theorem ends_generateDrafts_some (billAll : Bool) (period : Period) (settled : world.Settled) :
    (generateDrafts billAll period).Ends world
      (fun result after => DraftsSome billAll period world result after ∧ after.Settled ∧
        world.Continues after) fun _ _ => False := by
  by_cases accepted : period.accepts
  · have struck : (generateDrafts billAll period).Ends world
        (fun result _ => ∀ refusal, result = .error refusal → world.Calm → ∀ drafted,
          ¬Store.BillsAll period (world.store.toBill billAll) world.store drafted)
        fun _ _ => False := by
      by_cases able : world.Calm ∧
          ∃ drafted, Store.BillsAll period (world.store.toBill billAll) world.store drafted
      · obtain ⟨calm, drafted, billed⟩ := able
        refine (ends_generateDrafts_of_calm accepted settled calm billed).weaken ?_
        rintro _ after ⟨counts, rfl⟩ refusal impossible
        cases impossible
      · exact (ends_generateDrafts_billed billAll accepted settled).weaken
          fun _ _ _ _ _ calm drafted billed => able ⟨calm, drafted, billed⟩
    refine (((ends_generateDrafts_billed billAll accepted settled).and struck).and
      (continuing_generateDrafts billAll period world)).mono ?_ fun _ _ failed => failed.1.1
    rintro result after ⟨⟨⟨settled, ends⟩, struck⟩, continues⟩
    rcases ends with ⟨counts, rfl, billed⟩ | ⟨fault, rfl, k, -, counts, billed⟩
    · exact ⟨.all accepted ((Store.billsAll_iff _).mpr ⟨counts, billed⟩), settled, continues⟩
    · exact ⟨.some (List.take_append_drop k _).symm ((Store.billsAll_iff _).mpr ⟨counts, billed⟩)
        fun calm _ => struck _ rfl calm, settled, continues⟩
  · unfold generateDrafts
    simp only [accepted, Bool.not_false, if_true]
    exact ends_pure ⟨.some (List.nil_append _).symm .nil fun _ holds => absurd holds accepted,
      settled, .refl world⟩

/-! ## Settings -/

/-- The settings are those that are there or the defaults, and they are there afterwards. -/
theorem does_ensureSettings :
    Access.ensureSettings.Does fun store => .ok (store.settings.getD {}, store.ensured) := by
  refine (does_bind (does_call _) fun _ => does_bind reads_access fun found =>
    (?_ : Does _ fun store => .ok (found.getD {},
      if found.isSome then store else { store with settings := some {} }))).congr fun store => ?_
  · cases found with
    | none => exact does_bind (does_change _) fun _ => does_pure _
    | some settings => exact does_pure settings
  · obtain ⟨students, courses, enrollments, overrides, attendance, invoices, lines, payments,
      settings⟩ := store
    cases settings <;> rfl

/-- Making sure of the settings and committing them, which is struck before
it commits or does so. -/
theorem ends_ensured {α : Type} {rest : Settings → Tx α} {good : α → World → Prop}
    {bad : Fault → World → Prop} (settled : world.Settled)
    (ensured : ∀ after, after.store = world.store.ensured → after.Settled →
      world.Continues after →
      (rest (world.store.settings.getD {})).Ends after good bad)
    (struck : ∀ fault after, after.store = world.store → world.Continues after → ¬world.Calm →
      bad fault after) :
    (do
      let settings ← Access.ensureSettings
      commit
      rest settings).Ends world good bad := by
  have uncommitted : Access.ensureSettings.Ends world (fun _ after => after.store = world.store)
      fun _ after => after.store = world.store :=
    (Access.ends_ensureSettings settled.works (fun _ _ _ works => works.store)
      fun _ _ works => works.store).mono (fun _ _ same => same) fun _ _ same => same.store
  apply ends_bind
  refine ((does_ensureSettings world).and uncommitted).mono ?_ ?_
  · rintro settings between ⟨⟨found, continues⟩, same⟩
    obtain ⟨rfl, pending⟩ := Prod.mk.inj (Except.ok.inj found)
    have commits : commit.Ends between
        (fun _ after => after.store = between.pending ∧ after.pending = between.pending)
        fun _ after => after.store = between.store :=
      ends_commit (fun _ => ⟨rfl, rfl⟩) fun _ _ => rfl
    apply ends_bind
    refine ((does_commit between).and commits).mono ?_ ?_
    · rintro _ after ⟨⟨-, more⟩, stored, pendingAfter⟩
      rw [settled] at pending ⊢
      exact ensured after (stored.trans pending.symm) (pendingAfter.trans stored.symm)
        (continues.trans more)
    · rintro fault after ⟨⟨failed, more⟩, stored⟩
      refine struck fault after (stored.trans same) (continues.trans more) fun calm => ?_
      cases failed (continues.calm calm)
  · rintro fault after ⟨⟨failed, continues⟩, same⟩
    refine struck fault after same continues fun calm => ?_
    cases failed calm

end Billing

namespace Worker

variable {worker : Worker} {period : Period} {world : World}

/-! ## Whole runs -/

/-- From a store in which all students were billed a run comes to a final one: it has made
the settings and, where that is wanted, issued all drafts, beside files into which their
documents can be written. -/
structure Finishes (base : FilePath) (period : Period) (drafted : Store) (files : FileTree)
    (final : Store) : Prop where
  issued : (drafted.settings.getD {}).autoIssue = true →
    drafted.ensured.Numbers (draftIds drafted period) final ∧
      Renderable base period (drafted.settings.getD {}) drafted.ensured files
  unissued : (drafted.settings.getD {}).autoIssue = false → final = drafted.ensured

namespace Finishes

variable {base : FilePath} {drafted final : Store} {files : FileTree}

/-- Where drafts are to be issued a run has come to its end when all are. -/
theorem of_wanted (wanted : (drafted.settings.getD {}).autoIssue = true)
    (numbers : drafted.ensured.Numbers (draftIds drafted period) final)
    (renderable : Renderable base period (drafted.settings.getD {}) drafted.ensured files) :
    Finishes base period drafted files final where
  issued _ := ⟨numbers, renderable⟩
  unissued unwanted := by cases wanted.symm.trans unwanted

/-- Where drafts are not to be issued a run has come to its end when the settings are made. -/
theorem of_unwanted (unwanted : (drafted.settings.getD {}).autoIssue = false) :
    Finishes base period drafted files drafted.ensured where
  issued wanted := by cases wanted.symm.trans unwanted
  unissued _ := rfl

end Finishes

/-- What a run for a period has done that reports no error. -/
structure Completes (worker : Worker) (period : Period) (store : Store) (files : FileTree)
    (drafted final : Store) : Prop
    extends Finishes worker.outputDirectory period drafted files final where
  accepted : period.accepts
  billed : Store.BillsAll period (store.toBill worker.billAll) store drafted

/-- Where a run may stop, whatever strikes it. -/
inductive Stops (worker : Worker) (period : Period) (before after : World) : Prop
  /-- The first students were billed. -/
  | drafting {done rest : List Student}
      (students : before.store.toBill worker.billAll = done ++ rest)
      (billed : Store.BillsAll period done before.store after.store)
      (files : after.files = before.files)
  /-- All students were billed, the settings made and, where that is wanted,
  the first drafts issued. -/
  | issuing {drafted : Store} {done more : List Int}
      (billed : Store.BillsAll period (before.store.toBill worker.billAll) before.store drafted)
      (listed : draftIds drafted period = done ++ more)
      (wanted : done ≠ [] → (drafted.settings.getD {}).autoIssue = true)
      (issued : drafted.ensured.Numbers done after.store)
      (alike : Renderable worker.outputDirectory period (drafted.settings.getD {}) drafted.ensured
        before.files → AcceptsAlike worker.outputDirectory period
          (drafted.settings.getD {}).effectivePrefix before.files after.files)

/-- What a run comes to, which is complete or not. -/
structure Runs (worker : Worker) (period : Period) (before : World) (complete : Prop)
    (after : World) : Prop where
  stops : worker.Stops period before after
  completes : complete →
    ∃ drafted, worker.Completes period before.store before.files drafted after.store
  calm : before.Calm → (∃ drafted final,
    worker.Completes period before.store before.files drafted final) → complete
  settled : after.Settled
  hasTables : after.hasTables = before.hasTables

/-- A run whose drafts are to be issued is complete when all are. -/
theorem Runs.of_issues {drafted ensured after : World} {complete : Prop}
    (accepted : period.accepts)
    (billed : Store.BillsAll period (world.store.toBill worker.billAll) world.store drafted.store)
    (stored : ensured.store = drafted.store.ensured) (continues : world.Continues ensured)
    (wanted : (drafted.store.settings.getD {}).autoIssue = true)
    (issues : IssuesDrafts worker.outputDirectory period (drafted.store.settings.getD {}) ensured
      complete after) : worker.Runs period world complete after := by
  have sameIds : draftIds ensured.store period = draftIds drafted.store period := by
    rw [stored]
    rfl
  obtain ⟨done, more, listed, numbers, all⟩ := issues.issued
  have renderable := issues.renderable
  have alike := issues.alike
  have able := issues.calm
  rw [sameIds] at listed able
  rw [stored] at numbers renderable alike able
  rw [continues.files] at renderable alike able
  refine ⟨.issuing billed listed (fun _ => wanted) numbers alike, ?_, ?_, issues.settled,
    issues.hasTables.trans continues.hasTables⟩
  · intro holds
    rw [all holds, List.append_nil] at listed
    exact ⟨drafted.store, .of_wanted wanted (listed ▸ numbers) (renderable holds),
      accepted, billed⟩
  · rintro calm ⟨other, final, completes⟩
    obtain rfl := billed.unique completes.billed
    obtain ⟨numbers, renders⟩ := completes.issued wanted
    exact able (continues.calm calm) ⟨final, numbers⟩ renders

/-- A run whose drafts are not to be issued is complete when the settings are made. -/
theorem Runs.of_ensured {drafted ensured : World} {complete : Prop} (accepted : period.accepts)
    (billed : Store.BillsAll period (world.store.toBill worker.billAll) world.store drafted.store)
    (stored : ensured.store = drafted.store.ensured) (settled : ensured.Settled)
    (continues : world.Continues ensured)
    (unwanted : (drafted.store.settings.getD {}).autoIssue = false) (holds : complete) :
    worker.Runs period world complete ensured where
  stops := by
    refine .issuing billed (List.nil_append _).symm (absurd rfl) (stored ▸ .nil) fun _ _ => ?_
    rw [continues.files]
  completes _ := ⟨drafted.store, stored ▸ .of_unwanted unwanted, accepted, billed⟩
  calm _ _ := holds
  settled := settled
  hasTables := continues.hasTables

/-- A report on issued drafts has an error if they were not all issued. -/
theorem ends_issueDrafts (worker : Worker) (report : BillingReport) {settings : Settings}
    (accepted : report.period.accepts) (settled : world.Settled)
    (kept : Table.WellKept world.store.invoices)
    (counter : world.store.settings = some settings) :
    (worker.issueDrafts report).Ends world
      (fun later after => IssuesDrafts worker.outputDirectory report.period settings world
        (later.error = none) after) fun _ _ => False := by
  apply ends_bind
  refine (ends_issueAll_drafts worker.outputDirectory accepted settled kept counter).faultless ?_
  intro result after issues
  cases result with
  | error refusal =>
      refine ends_pure ?_
      simpa using issues
  | ok run =>
      refine ends_pure ?_
      simpa using issues

/-- Wherever billing a period ends, it has come to what a run comes to. -/
theorem ends_billPeriod_runs (worker : Worker) (period : Period) (settled : world.Settled)
    (kept : Table.WellKept world.store.invoices) :
    (worker.billPeriod period).Ends world
      (fun report after => worker.Runs period world (report.error = none) after)
      fun _ after => worker.Runs period world False after.begin := by
  apply ends_bind
  refine (ends_generateDrafts_some worker.billAll period settled).faultless ?_
  rintro result drafted ⟨some, settledDrafted, continues⟩
  cases some with
  | @some refusal _ done rest students billed struck =>
      refine ends_pure ⟨.drafting students billed continues.files, nofun, ?_, settledDrafted,
        continues.hasTables⟩
      rintro calm ⟨other, final, completes⟩
      exact absurd completes.billed (struck calm completes.accepted other)
  | all accepted billed =>
      apply ends_ensured settledDrafted
      · intro ensured stored settledEnsured more
        have begun := continues.trans more
        have keptEnsured : Table.WellKept ensured.store.invoices := by
          rw [stored]
          exact billed.wellKept kept
        have counter : ensured.store.settings = some (drafted.store.settings.getD {}) := by
          rw [stored]
          rfl
        dsimp only
        split
        · next wanted =>
            refine (ends_issueDrafts worker _ accepted settledEnsured keptEnsured
              counter).faultless ?_
            exact fun _ _ issues => .of_issues accepted billed stored begun wanted issues
        · next unwanted =>
            exact ends_pure (.of_ensured accepted billed stored settledEnsured begun
              (by simpa using unwanted) rfl)
      · intro fault after stored more troubled
        refine ⟨.drafting (List.append_nil _).symm ?_ (continues.trans more).files, False.elim,
          fun calm _ => troubled (continues.calm calm), after.settled_begin,
          (continues.trans more).hasTables⟩
        have same : after.begin.store = drafted.store := stored
        exact same ▸ billed

/-- Wherever a run ends, it has come to what a run for its period comes to. -/
theorem ends_runOnce_runs (worker : Worker) (world : World) (year month : Option Int)
    (kept : Table.WellKept world.store.invoices) :
    (worker.runOnce year month).Ends world
      (fun report after => worker.Runs (periodToBill world.now.date year month) world.begin
        (report.error = none) after)
      fun _ after => worker.Runs (periodToBill world.now.date year month) world.begin False
        after := by
  apply ends_bind
  apply ends_now
  apply ends_session
  refine (ends_billPeriod_runs worker _ world.settled_begin kept).weaken ?_
  intro report after runs
  rwa [World.begin_of_settled runs.settled]

end Worker
end Tuition
