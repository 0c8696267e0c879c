/-
# Use cases and runs

All ways in which records are changed are use cases, and each runs in a session of its own.
Whatever strikes it, a use case first does some of the deeds that it may do and then issues some
of the invoices that it is to issue; both are lists that can be read off the use case and the
store.

A run is a sequence of use cases. In between the outages, the clock and the files may change, and
from outside the prefix of the numbers may be set and invoices may be canceled.
-/

import Tuition.Proofs.Drafting
import Tuition.Proofs.Issuing
import Tuition.Proofs.Recording
import Tuition.Worker.Run

namespace Tuition

open Tx

/-- The use cases that write, with their arguments. -/
inductive UseCase where
  | generateDrafts (billAll : Bool) (period : Period)
  | issueInvoice (id : Int)
  | issueAndRender (base : FilePath) (id : Int)
  | issueAll (base : FilePath) (period : Period)
  | renderInvoice (base : FilePath) (id : Int)
  | deleteDraft (id : Int)
  | recordPayment (command : Payments.PaymentCommand)
  | quickCash (studentId amount note : Entry)
  | deletePayment (id : Int)
  | addOverride (command : Billing.OverrideCommand)
  | runWorker (worker : Worker) (year month : Option Int)

namespace UseCase

/-- What a use case answers, apart from the value that it answers with. -/
def answer {α : Type} (operation : Tx (Except Refusal α)) : Tx (Except Refusal Unit) :=
  Except.map (fun _ => ()) <$> operation

/-- The operation of a use case. -/
def operation : UseCase → Tx (Except Refusal Unit)
  | .generateDrafts billAll period => answer (Billing.generateDrafts billAll period)
  | .issueInvoice id => answer (Billing.issueInvoice id)
  | .issueAndRender base id => answer (Billing.issueAndRender base id)
  | .issueAll base period => answer (Billing.issueAll base period)
  | .renderInvoice base id => answer (Billing.renderInvoice base id)
  | .deleteDraft id => answer (Billing.deleteDraft id)
  | .recordPayment command => answer (Payments.recordPayment command)
  | .quickCash studentId amount note => answer (Payments.quickCash studentId amount note)
  | .deletePayment id => answer (Payments.deletePayment id)
  | .addOverride command => answer (Billing.addOverride command)
  | .runWorker worker year month =>
    (fun report => match report.error with
      | some refusal => .error refusal
      | none => .ok ()) <$> worker.runOnce year month

/-- Run a use case in a session: what it answers or raises, and the world after it. -/
def perform (useCase : UseCase) (world : World) : Except Fault (Except Refusal Unit) × World :=
  (session useCase.operation).perform world

/-- The records after a use case. -/
def storeAfter (useCase : UseCase) (world : World) : Store :=
  (useCase.perform world).2.store

/-- The period that a run of the worker bills. -/
def workerPeriod (now : Moment) (year month : Option Int) : Period :=
  Worker.periodToBill now.date year month

/-- The deeds that a use case may do before it issues anything. -/
def preparations (world : World) : UseCase → List Deed
  | .generateDrafts _ period => world.store.students.map fun student => .drafted student.id period
  | .deleteDraft id => [.draftDeleted id]
  | .recordPayment command => [.paymentRecorded command.invoiceId]
  | .quickCash _ _ _ => [.paymentRecorded none]
  | .deletePayment id => [.paymentDeleted id]
  | .addOverride _ => [.overrideAdded]
  | .runWorker _ year month =>
    (world.store.students.map fun student =>
      .drafted student.id (workerPeriod world.now year month)) ++ [.settingsMade]
  | _ => []

/-- The invoices that a use case may issue at a moment, after its preparations left a store. -/
def toIssue (now : Moment) (prepared : Store) : UseCase → List Int
  | .issueInvoice id => [id]
  | .issueAndRender _ id => [id]
  | .issueAll _ period => Billing.draftIds prepared period
  | .runWorker _ year month => Billing.draftIds prepared (workerPeriod now year month)
  | _ => []

/-- A use case takes one world to another: it does some of its preparations and then issues
some of its invoices. -/
def Takes (useCase : UseCase) (before after : World) : Prop :=
  ∃ prepared, before.Attempts (useCase.preparations before) prepared ∧
    prepared.Attempts ((useCase.toIssue before.now prepared.store).map .issued) after

variable {world : World} {useCase : UseCase}

theorem Takes.settled {after : World} (takes : useCase.Takes world after) : after.Settled := by
  obtain ⟨prepared, -, issues⟩ := takes
  exact issues.settled

/-- What a use case does is a history. -/
theorem Takes.history {after : World} (takes : useCase.Takes world after) :
    ∃ deeds, History world.now world.store deeds after.store := by
  obtain ⟨prepared, ⟨done, -, moves⟩, issued, -, issues⟩ := takes
  exact ⟨done ++ issued, (moves.trans issues).history⟩

theorem takes_of_preparations {after : World}
    (attempts : world.Attempts (useCase.preparations world) after) : useCase.Takes world after :=
  ⟨after, attempts, .of_moves_nil (.refl attempts.settled)⟩

theorem takes_of_issues {after : World} (settled : world.Settled)
    (issues : world.Attempts ((useCase.toIssue world.now world.store).map .issued) after) :
    useCase.Takes world after :=
  ⟨world, .of_moves_nil (.refl settled), issues⟩

theorem takes_of_oneDeed {α : Type} {deed : Deed} {result : Except Refusal α} {after : World}
    (only : useCase.preparations world = [deed]) (one : world.OneDeed deed result after) :
    useCase.Takes world after :=
  takes_of_preparations (only ▸ .of_oneDeed one)

/-! ## Runs of the worker -/

/-- Making sure of the settings and committing them makes them where they are missing. -/
theorem ends_settings {α : Type} {rest : Settings → Tx α} {good : α → World → Prop}
    {bad : Fault → World → Prop} (settled : world.Settled)
    (ensured : ∀ settings after, world.Attempts [.settingsMade] after →
      (rest settings).Ends after good bad)
    (failed : ∀ fault after, world.Uncommitted after → bad fault after) :
    (do
      let settings ← Access.ensureSettings
      commit
      rest settings).Ends world good bad := by
  apply ends_bind
  refine (Access.ends_ensureSettings settled.works ?_ ?_).mono (fun _ _ ends => ends) failed
  · intro settings between there works
    apply ends_bind
    refine (ends_commit_of_history works .nil ?_).mono (fun _ _ ends => ends) failed
    intro after moves
    exact ensured settings after (.of_moves_nil moves)
  · intro between missing works
    have made : History world.now world.store [.settingsMade] _ := .single (.settingsMade missing)
    apply ends_bind
    refine (ends_commit_of_history works made ?_).mono (fun _ _ ends => ends) failed
    intro after moves
    exact ensured {} after ⟨_, .refl _, moves⟩

/-- Billing a period does what the worker may do, and a fault breaks it off after some of it. -/
theorem ends_billPeriod (worker : Worker) (year month : Option Int) (settled : world.Settled) :
    (worker.billPeriod (workerPeriod world.now year month)).Ends world
      (fun _ after => (UseCase.runWorker worker year month).Takes world after)
      fun _ after => (UseCase.runWorker worker year month).Takes world after.begin := by
  apply ends_bind
  refine (Billing.ends_generateDrafts worker.billAll _ settled).faultless ?_
  intro result drafted attempts
  have drafts : world.Attempts
      ((UseCase.runWorker worker year month).preparations world) drafted :=
    attempts.mono (List.sublist_append_left _ _)
  cases result with
  | error refusal => exact ends_pure (takes_of_preparations drafts)
  | ok counts =>
      apply ends_settings drafts.settled
      · intro settings between made
        have prepared : world.Attempts
            ((UseCase.runWorker worker year month).preparations world) between :=
          attempts.trans made
        dsimp only
        split
        · apply ends_bind
          refine (Billing.ends_issueAll worker.outputDirectory _ prepared.settled).faultless ?_
          intro result after issues
          cases result with
          | error refusal => exact ends_pure ⟨between, prepared, issues⟩
          | ok run => exact ends_pure ⟨between, prepared, issues⟩
        · exact ends_pure (takes_of_preparations prepared)
      · intro fault after uncommitted
        exact takes_of_preparations (drafts.giveUp uncommitted)

/-! ## All use cases -/

theorem ends_answer {α : Type} {action : Tx (Except Refusal α)}
    {good : Except Refusal Unit → World → Prop}
    {bad : Fault → World → Prop}
    (ends : action.Ends world (fun result after => good (result.map fun _ => ()) after) bad) :
    (answer action).Ends world good bad :=
  ends_map ends

/-- Whatever strikes a use case, it does no more than it may. -/
theorem ends_operation (useCase : UseCase) (settled : world.Settled) :
    useCase.operation.Ends world (fun _ after => useCase.Takes world after)
      fun _ after => useCase.Takes world after.begin := by
  cases useCase with
  | generateDrafts billAll period =>
      apply ends_answer
      refine (Billing.ends_generateDrafts billAll period settled).faultless ?_
      intro result after attempts
      exact takes_of_preparations attempts
  | issueInvoice id =>
      apply ends_answer
      refine (Billing.ends_issueInvoice settled id).faultless ?_
      intro result after one
      exact takes_of_issues settled (.of_oneDeed one)
  | issueAndRender base id =>
      apply ends_answer
      refine (Billing.ends_issueAndRender base id settled).faultless ?_
      intro result after issues
      exact takes_of_issues settled issues
  | issueAll base period =>
      apply ends_answer
      refine (Billing.ends_issueAll base period settled).faultless ?_
      intro result after issues
      exact takes_of_issues settled issues
  | renderInvoice base id =>
      apply ends_answer
      refine (Billing.ends_renderInvoice base id ?_).faultless fun _ _ takes => takes
      intro result outages files
      exact takes_of_preparations
        (.of_moves_nil ((World.Moves.refl settled).quietly outages files))
  | deleteDraft id =>
      apply ends_answer
      refine (Billing.ends_deleteDraft id settled).faultless ?_
      intro result after one
      exact takes_of_oneDeed rfl one
  | recordPayment command =>
      apply ends_answer
      refine (Payments.ends_recordPayment command settled).faultless ?_
      intro result after one
      exact takes_of_oneDeed rfl one
  | quickCash studentId amount note =>
      apply ends_answer
      refine (Payments.ends_quickCash studentId amount note settled).mono ?_ ?_
      · intro result after one
        exact takes_of_oneDeed rfl one
      · intro fault after moves
        rw [World.begin_of_settled moves.settled]
        exact takes_of_preparations (.of_moves_nil moves)
  | deletePayment id =>
      apply ends_answer
      refine (Payments.ends_deletePayment id settled).faultless ?_
      intro result after one
      exact takes_of_oneDeed rfl one
  | addOverride command =>
      apply ends_answer
      refine (Billing.ends_addOverride command settled).faultless ?_
      intro result after one
      exact takes_of_oneDeed rfl one
  | runWorker worker year month =>
      have own : world.begin = world := World.begin_of_settled settled
      apply ends_map
      apply ends_bind
      apply ends_now
      apply ends_session
      rw [own]
      refine (ends_billPeriod worker year month settled).mono ?_ ?_
      · intro report after takes
        rwa [World.begin_of_settled takes.settled]
      · intro fault after takes
        rwa [World.begin_of_settled takes.settled]

/-- What a use case comes to in a session, whatever is pending before. -/
theorem takes_perform (useCase : UseCase) (world : World) :
    useCase.Takes world.begin (useCase.perform world).2 := by
  have ends : (session useCase.operation).Ends world
      (fun _ after => useCase.Takes world.begin after)
      fun _ after => useCase.Takes world.begin after := by
    apply ends_session
    refine (ends_operation useCase world.settled_begin).mono ?_ fun _ _ takes => takes
    intro result after takes
    rwa [World.begin_of_settled takes.settled]
  exact ends.after

end UseCase

/-! ## Runs -/

/-- What happens to the records of an organisation. -/
inductive Event where
  /-- A use case runs. -/
  | used (useCase : UseCase)
  /-- Other outages are to come. -/
  | outages (ahead : List Outage)
  /-- The clock shows another moment. -/
  | clock (moment : Moment)
  /-- The files are other ones. -/
  | files (tree : FileTree)
  /-- The prefix of the numbers is set from outside. -/
  | prefixed (text : String)
  /-- An invoice is canceled from outside. -/
  | canceled (id : Int)

/-- The store with another prefix of numbers, if there are settings. -/
def Store.prefixed (store : Store) (text : String) : Store :=
  { store with
    settings := store.settings.map fun settings => { settings with invoicePrefix := text } }

/-- The store with an invoice canceled. -/
def Store.cancel (store : Store) (id : Int) : Store :=
  { store with
    invoices := store.invoices.map fun invoice =>
      if invoice.id = id then { invoice with status := .canceled } else invoice }

namespace World

/-- The world after an event. -/
def happen (world : World) : Event → World
  | .used useCase => (useCase.perform world).2
  | .outages ahead => { world with outages := ahead }
  | .clock moment => { world with now := moment }
  | .files tree => { world with files := tree }
  | .prefixed text => { world with store := world.store.prefixed text }
  | .canceled id => { world with store := world.store.cancel id }

/-- The world after a run. -/
def run (world : World) (events : List Event) : World :=
  events.foldl happen world

/-- What every event keeps holds at the end of a run if it holds at its beginning. -/
theorem run_induction (holds : World → Prop) {world : World} (begins : holds world)
    (kept : ∀ world event, holds world → holds (world.happen event)) (events : List Event) :
    holds (world.run events) := by
  induction events generalizing world with
  | nil => exact begins
  | cons event events ih => exact ih (kept world event begins)

end World

/-- A property of records that nothing in a run takes away: every transaction keeps it, and so do
setting a prefix and canceling an invoice. -/
structure Store.Invariant (good : Store → Prop) : Prop where
  transaction {now : Moment} {before after : Store} {deed : Deed} :
    Transaction now before deed after → good before → good after
  prefixed {store : Store} (text : String) : good store → good (store.prefixed text)
  canceled {store : Store} (id : Int) : good store → good (store.cancel id)

namespace Store.Invariant

variable {good : Store → Prop} {world : World}

/-- Every event keeps an invariant: a use case is a history of transactions. -/
theorem happen (invariant : Store.Invariant good) (holds : good world.store) (event : Event) :
    good (world.happen event).store := by
  cases event with
  | used useCase =>
      obtain ⟨deeds, history⟩ := (useCase.takes_perform world).history
      exact history.keeps invariant.transaction holds
  | outages ahead => exact holds
  | clock moment => exact holds
  | files tree => exact holds
  | prefixed text => exact invariant.prefixed text holds
  | canceled id => exact invariant.canceled id holds

/-- Every run keeps an invariant. -/
theorem run (invariant : Store.Invariant good) (holds : good world.store) (events : List Event) :
    good (world.run events).store :=
  World.run_induction (fun reached => good reached.store) holds
    (fun _ event holds => invariant.happen holds event) events

end Store.Invariant

namespace World

/-- The world with records in which a call of a kind is struck. -/
def struckAt (call : Call) (store : Store) : World where
  store := store
  pending := store
  hasTables := true
  outages := [⟨call, 1, "down"⟩]
  files := []
  now := default

/-- A world in a calm with records of which nothing is pending. -/
def calmWith (store : Store) : World :=
  { World.struckAt .commit store with outages := [] }

end World

/-- The records of an organisation with one student, who is charged by the
month, and no invoice. -/
def Store.withEnrollment : Store where
  students := [⟨1, "Anna", "", "", "", true⟩]
  courses := [⟨1, "Violin", .individual, .ofCents 1000, .ofCents 2500, true⟩]
  enrollments := [⟨1, 1, 1, .subscription, .ofCents 0, ""⟩]
  settings := some {}

/-- A draft of a student. -/
def Invoice.sample : Invoice :=
  { Invoice.draft 1 ⟨2024, 1⟩ (.ofCents 2500) with id := 1 }

/-- The records of an organisation that has drafted one invoice. -/
def Store.withDraft : Store :=
  { withEnrollment with invoices := [.sample] }

/-- The second of January in the year 2024, at midnight. -/
def Moment.sample : Moment :=
  ⟨⟨2024, 1, 2, by decide⟩, .midnight⟩

/-- The payment of that invoice in full. -/
def Payments.PaymentCommand.sample : Payments.PaymentCommand :=
  ⟨1, some 1, .ofCents 2500, .bank, ⟨default, none⟩, ""⟩

end Tuition
