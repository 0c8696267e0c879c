/-
# Issuing a period in turn

Issuing the drafts of a period is what its text says: they are issued and rendered one after
another, in the order of their keys, as if each were issued and rendered in a session of its own,
and the first that fails is where it stops. `InTurn` says so of worlds, with the outages, files
and clock that each session finds. What it leaves in the store follows by looking at one draft at
a time: the draft in a place has the sequence of that place in its number, and the drafts that
were not reached are as they were.

So issuing can be repeated. Every call takes the drafts up where the last one stopped, and the
numbers are those that one call would have given out.
-/

import Tuition.Proofs.NumberedInOrder

namespace Tuition

open Billing Tx

namespace Billing

variable {base : FilePath} {period : Period} {settings : Settings} {ids : List Int}
  {done : List RenderedInvoice} {before after world : World}

/-! ## Sessions in turn -/

/-- Where issuing in turn stops: at the end, at a draft that was not issued, or at one that was
issued and whose document was not written. -/
inductive Stop where
  | finished
  | unissued (id : Int) (refusal : Refusal)
  | unrendered (id : Int) (refusal : Refusal)

namespace Stop

/-- The failure that is reported. -/
def failure : Stop → Option IssueFailure
  | .finished => none
  | .unissued id refusal => some ⟨id, refusal⟩
  | .unrendered id refusal => some ⟨id, refusal⟩

/-- The number of invoices that were issued if some of them are finished. -/
def issued (finished : Nat) : Stop → Nat
  | .unrendered _ _ => finished + 1
  | _ => finished

/-- Issuing stops at the place behind those that are finished. -/
def IsAt (ids : List Int) (finished : Nat) : Stop → Prop
  | .finished => finished = ids.length
  | .unissued id _ => ids[finished]? = some id
  | .unrendered id _ => ids[finished]? = some id

theorem issued_succ (stop : Stop) (finished : Nat) :
    stop.issued (finished + 1) = stop.issued finished + 1 := by
  cases stop <;> rfl

theorem IsAt.issued_le {stop : Stop} {finished : Nat} (isAt : stop.IsAt ids finished) :
    stop.issued finished ≤ ids.length := by
  cases stop with
  | finished => exact Nat.le_of_eq isAt
  | unissued => exact Nat.le_of_lt (List.getElem?_eq_some_iff.mp isAt).1
  | unrendered => exact (List.getElem?_eq_some_iff.mp isAt).1

theorem isAt_cons_iff {stop : Stop} {id : Int} {finished : Nat} :
    stop.IsAt (id :: ids) (finished + 1) ↔ stop.IsAt ids finished := by
  cases stop <;> simp [IsAt]

end Stop

/-- Invoices are issued and rendered in turn, each call in a session of its own, up to the first
that fails. Those before it are finished. -/
inductive InTurn (base : FilePath) :
    World → List Int → List RenderedInvoice → Stop → World → Prop
  | finished {world : World} : InTurn base world [] [] .finished world
  | unissued {before after : World} {id : Int} {others : List Int} {refusal : Refusal}
      (refused : (session (issueInvoice id)).perform before = (.ok (.error refusal), after)) :
      InTurn base before (id :: others) [] (.unissued id refusal) after
  | unrendered {before issued after : World} {id : Int} {others : List Int}
      {invoice : IssuedInvoice} {refusal : Refusal}
      (issues : (session (issueInvoice id)).perform before = (.ok (.ok invoice), issued))
      (refused : (session (renderInvoice base id)).perform issued =
        (.ok (.error refusal), after)) :
      InTurn base before (id :: others) [] (.unrendered id refusal) after
  | rendered {before issued between after : World} {id : Int} {others : List Int}
      {invoice : IssuedInvoice} {document : RenderedInvoice} {documents : List RenderedInvoice}
      {stop : Stop}
      (issues : (session (issueInvoice id)).perform before = (.ok (.ok invoice), issued))
      (renders : (session (renderInvoice base id)).perform issued = (.ok (.ok document), between))
      (rest : InTurn base between others documents stop after) :
      InTurn base before (id :: others) (document :: documents) stop after

/-- Issuing invoices one after another is issuing them in turn. -/
theorem ends_issueEach_inTurn (base : FilePath) (ids : List Int) (run : IssueRun)
    (unfailed : run.failure = none) (settled : world.Settled) :
    (issueEach base run ids).Ends world
      (fun later after => ∃ done stop, InTurn base world ids done stop after ∧
        later = { run with
          paths := run.paths ++ done.map RenderedInvoice.path
          failure := stop.failure })
      fun _ _ => False := by
  induction ids generalizing world run with
  | nil =>
      refine ends_pure ⟨[], .finished, .finished, ?_⟩
      simp [Stop.failure, ← unfailed]
  | cons id others ih =>
      -- no call leaves anything pending, so each may as well have had a session of its own
      apply ends_bind
      have issuing : (issueInvoice id).Ends world (fun _ issued => issued.Settled)
          fun _ _ => False :=
        (ends_issueInvoice settled id).weaken fun _ _ deed =>
          (World.Attempts.of_oneDeed deed).settled
      refine (ends_as_session settled issuing).faultless ?_
      rintro (refusal | invoice) issued ⟨issues, settledIssued⟩
      · exact ends_pure ⟨[], _, .unissued issues, by simp [Stop.failure]⟩
      apply ends_bind
      have rendering : (renderInvoice base id).Ends issued (fun _ after => after.Settled)
          fun _ _ => False :=
        ends_renderInvoice base id fun _ _ _ => settledIssued
      refine (ends_as_session settledIssued rendering).faultless ?_
      rintro (refusal | document) between ⟨renders, settledBetween⟩
      · exact ends_pure ⟨[], _, .unrendered issues renders, by simp [Stop.failure]⟩
      · refine (ih { run with paths := run.paths ++ [document.path] } unfailed
          settledBetween).weaken ?_
        rintro _ after ⟨done, stop, rest, rfl⟩
        exact ⟨document :: done, stop, .rendered issues renders rest, by simp⟩

/-! ## What drafts come to in turn -/

/-- The document of an invoice that gets the number of a place after the next one. -/
def documentAt (base : FilePath) (period : Period) (settings : Settings) (place : Nat)
    (id : Int) : RenderedInvoice :=
  nextDocument base period (settings.advancedBy place) id

/-- The documents of invoices in a row are the next one and those that come then. -/
theorem mapIdx_documentAt_cons (base : FilePath) (period : Period) (settings : Settings)
    (id : Int) (ids : List Int) :
    (id :: ids).mapIdx (documentAt base period settings) =
      nextDocument base period settings id ::
        ids.mapIdx (documentAt base period settings.advanced) := by
  have shifted : (fun place => documentAt base period settings (place + 1)) =
      documentAt base period settings.advanced := by
    funext place other
    simp only [documentAt, settings.advanced_advancedBy]
  have first : documentAt base period settings 0 id = nextDocument base period settings id := by
    simp only [documentAt, settings.advancedBy_zero]
  rw [List.mapIdx_cons, shifted, first]

section Session

variable {id : Int} {issued : World}

/-- A draft that was not issued in its session is left with all else. -/
theorem store_of_unissued {refusal : Refusal} (settled : before.Settled)
    (kept : Table.WellKept before.store.invoices)
    (counter : before.store.settings = some settings) (mem : id ∈ draftIds before.store period)
    (refused : (session (issueInvoice id)).perform before = (.ok (.error refusal), after)) :
    after.store = before.store := by
  have draft : IssuesDraft before id (.error refusal) after :=
    (ends_issueInvoice_of_mem settled mem kept.ordered counter).of_session settled
      (fun _ _ draft => draft.settled) refused
  cases draft with
  | refused moves => exact moves.store_eq

/-- A draft that was issued in its session is all that was done. -/
theorem moves_of_issued {invoice : IssuedInvoice} (settled : before.Settled)
    (kept : Table.WellKept before.store.invoices)
    (counter : before.store.settings = some settings) (mem : id ∈ draftIds before.store period)
    (issues : (session (issueInvoice id)).perform before = (.ok (.ok invoice), issued)) :
    before.Moves [.issued id] issued := by
  have draft : IssuesDraft before id (.ok invoice) issued :=
    (ends_issueInvoice_of_mem settled mem kept.ordered counter).of_session settled
      (fun _ _ draft => draft.settled) issues
  cases draft with
  | issued moves => exact moves

/-- A draft that was issued stays so in the session that renders it, and if that writes a
document, it is the next one. -/
theorem moves_of_rendered {answer : Except Refusal RenderedInvoice}
    (kept : Table.WellKept before.store.invoices)
    (counter : before.store.settings = some settings) (mem : id ∈ draftIds before.store period)
    (moves : before.Moves [.issued id] issued)
    (renders : (session (renderInvoice base id)).perform issued = (.ok answer, after)) :
    before.Moves [.issued id] after ∧
      ∀ document, answer = .ok document → document = nextDocument base period settings id := by
  obtain ⟨rendered, movesAfter⟩ :=
    (ends_renderInvoice_issued base kept mem counter moves).of_session moves.settled
      (fun _ _ both => both.2.settled) renders
  refine ⟨movesAfter, ?_⟩
  cases rendered with
  | written =>
      rintro _ ⟨rfl⟩
      rfl
  | failed =>
      rintro _ ⟨⟩

end Session

/-- The drafts of a period that are issued in turn get consecutive numbers, and their
documents go by these. -/
theorem InTurn.numbers {stop : Stop} (turn : InTurn base before ids done stop after)
    (settled : before.Settled) (kept : Table.WellKept before.store.invoices)
    (counter : before.store.settings = some settings)
    (listed : draftIds before.store period = ids) :
    done = (ids.take done.length).mapIdx (documentAt base period settings) ∧
      before.store.Numbers (ids.take (stop.issued done.length)) after.store ∧
      stop.IsAt ids done.length := by
  induction turn generalizing settings with
  | finished => exact ⟨rfl, .nil, rfl⟩
  | unissued refused =>
      have mem := listed ▸ List.mem_cons_self
      have same := store_of_unissued settled kept counter mem refused
      exact ⟨rfl, same ▸ .nil, rfl⟩
  | unrendered issues refused =>
      have mem := listed ▸ List.mem_cons_self
      have moves := moves_of_issued settled kept counter mem issues
      obtain ⟨movesAfter, -⟩ := moves_of_rendered kept counter mem moves refused
      exact ⟨rfl, .cons movesAfter.history.of_single .nil, rfl⟩
  | rendered issues renders rest ih =>
      -- the rest begins where the next draft is the first one and the counter has moved on by one
      have mem := listed ▸ List.mem_cons_self
      have moves := moves_of_issued settled kept counter mem issues
      obtain ⟨movesAfter, next⟩ := moves_of_rendered kept counter mem moves renders
      have step := movesAfter.history.of_single
      have remaining := (Store.Numbers.cons step .nil).draftIds_eq kept.ordered listed
      obtain ⟨documents, numbers, isAt⟩ := ih movesAfter.settled (step.wellKept kept)
        (step.settings_of_issued counter) remaining
      refine ⟨?_, ?_, Stop.isAt_cons_iff.mpr isAt⟩
      · rw [List.length_cons, List.take_succ_cons, mapIdx_documentAt_cons, ← documents,
          next _ rfl]
      · rw [List.length_cons, Stop.issued_succ, List.take_succ_cons]
        exact .cons step numbers

/-- What becomes of the draft at which issuing in turn stops. One that was not issued is a draft
as before, and the next sequence is still that of its place; one whose document is missing has the
sequence of its place. -/
def Stop.Leaves (period : Period) (settings : Settings) (finished : Nat) (before after : Store) :
    Stop → Prop
  | .finished => finished = (draftIds before period).length ∧
      after.settings = some (settings.advancedBy finished)
  | .unissued id _ => (draftIds before period)[finished]? = some id ∧
      before.KeepsDraft id after ∧ after.settings = some (settings.advancedBy finished)
  | .unrendered id _ => (draftIds before period)[finished]? = some id ∧
      before.IssuesWith settings period (settings.nextSequence + finished) id after ∧
      after.settings = some (settings.advancedBy (finished + 1))

theorem Stop.leaves {stop : Stop} {finished : Nat} {before after : Store}
    (isAt : stop.IsAt (draftIds before period) finished)
    (issues : before.IssuesFirst settings period (stop.issued finished) after) :
    stop.Leaves period settings finished before after := by
  cases stop with
  | finished => exact ⟨isAt, issues.counted⟩
  | unissued id =>
      obtain ⟨below, there⟩ := List.getElem?_eq_some_iff.mp isAt
      have behind : id ∈ (draftIds before period).drop finished := by
        rw [← there, List.drop_eq_getElem_cons below]
        exact List.mem_cons_self
      exact ⟨isAt, issues.kept id behind, issues.counted⟩
  | unrendered id =>
      have issued : ((draftIds before period).take (finished + 1))[finished]? = some id := by
        rw [List.getElem?_take_of_lt (Nat.lt_succ_self finished)]
        exact isAt
      exact ⟨isAt, issues.issued finished id issued, issues.counted⟩

/-- What is left where the drafts of a period were issued in turn. -/
theorem InTurn.leaves {stop : Stop}
    (turn : InTurn base before (draftIds before.store period) done stop after)
    (settled : before.Settled) (intact : before.store.Intact)
    (counter : before.store.settings = some settings) :
    done = ((draftIds before.store period).take done.length).mapIdx
        (documentAt base period settings) ∧
      stop.Leaves period settings done.length before.store after.store ∧
      before.store.IssuesFirst settings period (stop.issued done.length) after.store := by
  obtain ⟨documents, numbers, isAt⟩ := turn.numbers settled intact.invoices counter rfl
  have issues := numbers.issuesFirst intact counter (List.take_append_drop _ _).symm
  rw [List.length_take, Nat.min_eq_left isAt.issued_le] at issues
  exact ⟨documents, Stop.leaves isAt issues, issues⟩

/-! ## Whole periods -/

/-- What issuing a period comes to: its drafts are issued in turn, unless
they cannot be listed. -/
structure IssuesAll (base : FilePath) (period : Period) (before : World)
    (result : Except Refusal IssueRun) (after : World) : Prop where
  unlisted : ∀ fault listed,
    (Access.invoicesOfPeriod period (some .draft)).perform before = (.error fault, listed) →
      result = .error (.listingDraftsFailed period fault) ∧ after = listed
  inTurn : ∀ drafts listed,
    (Access.invoicesOfPeriod period (some .draft)).perform before = (.ok drafts, listed) →
      ∃ done stop, InTurn base listed (draftIds before.store period) done stop after ∧
        result = .ok { period, paths := done.map RenderedInvoice.path, failure := stop.failure }

/-- Listing the drafts of a period finds them, and changes nothing but the outages. -/
theorem ends_listing (period : Period) (settled : world.Settled) :
    (Access.invoicesOfPeriod period (some .draft)).Ends world
      (fun drafts after => drafts.map Invoice.id = draftIds world.store period ∧
        after = { world with outages := after.outages })
      fun _ after => after = { world with outages := after.outages } := by
  apply ends_reading
  · intro outages
    refine ⟨?_, rfl⟩
    rw [settled, List.map_map]
    rfl
  · intro fault outages
    rfl

/-- Issuing a period lists its drafts and issues them in turn. -/
theorem ends_issueAll_inTurn (base : FilePath) (accepted : period.accepts)
    (settled : world.Settled) :
    (issueAll base period).Ends world (IssuesAll base period world) fun _ _ => False := by
  unfold issueAll
  simp only [accepted, Bool.not_true, Bool.false_eq_true, if_false]
  apply ends_bind
  apply ends_attempt
  refine ((ends_perform _ _).and (ends_listing period settled)).mono ?_ ?_
  · rintro drafts listed ⟨listing, ids, same⟩
    have settledListed : listed.Settled := by
      rw [same]
      exact settled
    apply ends_bind
    rw [ids]
    refine (ends_issueEach_inTurn base _ _ rfl settledListed).weaken ?_
    rintro _ after ⟨done, stop, turn, rfl⟩
    refine ends_pure ⟨fun _ _ struck => ?_, fun _ _ read => ?_⟩
    · cases listing.symm.trans struck
    · cases listing.symm.trans read
      exact ⟨done, stop, turn, rfl⟩
  · rintro fault listed ⟨listing, -⟩
    refine ends_pure ⟨fun _ _ struck => ?_, fun _ _ read => ?_⟩
    · cases listing.symm.trans struck
      exact ⟨rfl, rfl⟩
    · cases listing.symm.trans read

/-- A session that issues a period comes to an answer. -/
theorem exists_session_issueAll (world : World) (base : FilePath) (accepted : period.accepts) :
    ∃ result after, (session (issueAll base period)).perform world = (.ok result, after) ∧
      IssuesAll base period world.begin result after := by
  have settled := world.settled_begin
  have settles : (issueAll base period).Ends world.begin (fun _ after => after.Settled)
      fun _ _ => False :=
    (ends_issueAll base period settled).weaken fun _ _ attempts => attempts.settled
  have ends := (ends_as_session settled settles).and (ends_issueAll_inTurn base accepted settled)
  obtain ⟨result, after, -, ⟨performed, -⟩, issues⟩ :=
    (ends.mono (fun _ _ both => both) fun _ _ never => never.1).exists_ok
  rw [perform_session_begin] at performed
  exact ⟨result, after, performed, issues⟩

end Billing

/-! ## Repeated calls -/

/-- Issuing a period is called again, or outages, clock and files change in between. -/
inductive Event.Reissues (period : Period) : Event → Prop
  | again (base : FilePath) : Reissues period (.used (.issueAll base period))
  | outages (ahead : List Outage) : Reissues period (.outages ahead)
  | clock (moment : Moment) : Reissues period (.clock moment)
  | files (tree : FileTree) : Reissues period (.files tree)

namespace World

variable {world : World} {period : Period} {settings : Settings}

/-- One call issues the first of the drafts. -/
theorem numbers_reissue {event : Event} (reissues : event.Reissues period)
    (accepted : period.accepts) (kept : Table.WellKept world.store.invoices)
    (counter : world.store.settings = some settings) :
    ∃ issued more, draftIds world.store period = issued ++ more ∧
      world.store.Numbers issued (world.happen event).store := by
  cases reissues with
  | again base =>
      have ends : (UseCase.issueAll base period).operation.Ends world.begin
          (fun _ after => ∃ issued more, draftIds world.store period = issued ++ more ∧
            world.store.Numbers issued after.store)
          fun _ after => ∃ issued more, draftIds world.store period = issued ++ more ∧
            world.store.Numbers issued after.store := by
        apply UseCase.ends_answer
        refine (ends_issueAll_drafts base accepted world.settled_begin kept counter).faultless ?_
        intro result after issues
        obtain ⟨issued, more, listed, numbers, -⟩ := issues.issued
        exact ⟨issued, more, listed, numbers⟩
      rw [happen, UseCase.perform, perform_session]
      exact ends.after
  | outages ahead => exact ⟨[], _, rfl, .nil⟩
  | clock moment => exact ⟨[], _, rfl, .nil⟩
  | files tree => exact ⟨[], _, rfl, .nil⟩

/-- Calls one after another issue the first of the drafts. -/
theorem numbers_run {events : List Event} (reissues : ∀ event ∈ events, event.Reissues period)
    (accepted : period.accepts) (intact : world.store.Intact)
    (counter : world.store.settings = some settings) :
    ∃ issued more, draftIds world.store period = issued ++ more ∧
      world.store.Numbers issued (world.run events).store := by
  induction events generalizing world settings with
  | nil => exact ⟨[], _, rfl, .nil⟩
  | cons event events ih =>
      obtain ⟨again, others⟩ := List.forall_mem_cons.mp reissues
      obtain ⟨issued, more, listed, numbers⟩ :=
        numbers_reissue again accepted intact.invoices counter
      obtain ⟨later, left, remaining, rest⟩ :=
        ih others (numbers.intact intact counter) (numbers.settings_eq counter)
      rw [numbers.draftIds_eq intact.invoices.ordered listed] at remaining
      refine ⟨issued ++ later, left, ?_, numbers.append rest⟩
      rw [listed, remaining, List.append_assoc]

end World

/-- Issuing a period is the loop that it seems to be. If its drafts can be listed, then it answers
with what was done, and that is issuing and rendering them in the order of their keys, each call
in a session of its own, up to the first that fails: the answer counts those that are finished and
names their documents in that order and the failure. The finished ones have consecutive sequences
from the next one on, and so has the one whose document is missing; the others are untouched, and
the next sequence is that of the first of them. Called again and again, whatever strikes it, it
issues the drafts in the same order with the same sequences. -/
theorem period_issued_in_turn (world : World) (base : FilePath) (period : Period)
    (settings : Settings) (accepted : period.accepts) (intact : world.store.Intact)
    (counter : world.store.settings = some settings) :
    let drafts := draftIds world.store period
    let listing := (Access.invoicesOfPeriod period (some .draft)).perform world.begin
    let issuing := (session (issueAll base period)).perform world
    drafts.Pairwise (· < ·) ∧
    (∀ fault listed, listing = (.error fault, listed) →
      listed = { world.begin with outages := listed.outages } ∧
      issuing = (.ok (.error (.listingDraftsFailed period fault)), listed)) ∧
    (∀ found listed, listing = (.ok found, listed) →
      listed = { world.begin with outages := listed.outages } ∧
      ∃ run done stop after, issuing = (.ok (.ok run), after) ∧
        InTurn base listed drafts done stop after ∧
        run.period = period ∧ run.count = done.length ∧
        run.paths = done.map RenderedInvoice.path ∧ run.failure = stop.failure ∧
        done = (drafts.take done.length).mapIdx (documentAt base period settings) ∧
        stop.Leaves period settings done.length world.store after.store ∧
        world.store.IssuesFirst settings period (stop.issued done.length) after.store) ∧
    ∀ events : List Event, (∀ event ∈ events, event.Reissues period) →
      ∃ count ≤ drafts.length,
        world.store.IssuesFirst settings period count (world.run events).store ∧
        (world.run events).store.Intact := by
  intro drafts listing issuing
  obtain ⟨result, after, issued, issues⟩ := exists_session_issueAll world base accepted
  have reads := ends_listing period world.settled_begin
  refine ⟨draftIds_ascending intact.invoices.ordered period, ?_, ?_, ?_⟩
  · intro fault listed struck
    obtain ⟨rfl, rfl⟩ := issues.unlisted fault listed struck
    exact ⟨reads.of_error struck, issued⟩
  · intro found listed read
    obtain ⟨done, stop, turn, rfl⟩ := issues.inTurn found listed read
    have same := (reads.of_ok read).2
    obtain ⟨outages, rfl⟩ : ∃ outages, listed = { world.begin with outages } := ⟨_, same⟩
    obtain ⟨documents, leaves, issuesFirst⟩ := turn.leaves rfl intact counter
    have count : (done.map RenderedInvoice.path).length = done.length := List.length_map _
    exact ⟨rfl, _, done, stop, after, issued, turn, rfl, count, rfl, rfl, documents, leaves,
      issuesFirst⟩
  · intro events reissues
    obtain ⟨issued, more, listed, numbers⟩ := World.numbers_run reissues accepted intact counter
    refine ⟨issued.length, ?_, numbers.issuesFirst intact counter listed,
      numbers.intact intact counter⟩
    simp [drafts, listed]

/-- The records of three students who have drafts for one month. -/
def Store.withThreeDrafts : Store :=
  { Store.withEnrollment with
    students := [⟨1, "Anna", "", "", "", true⟩, ⟨2, "Berta", "", "", "", true⟩,
      ⟨3, "Clara", "", "", "", true⟩]
    invoices := [.sample, { Invoice.sample with id := 2, studentId := 2 },
      { Invoice.sample with id := 3, studentId := 3 }] }

/-- Those records, where rendering is struck the second time and committing the third time. -/
def World.struckTwice : World :=
  { World.struckAt .render .withThreeDrafts with
    outages := [⟨.render, 2, "down"⟩, ⟨.commit, 3, "down"⟩] }

/-- Issuing the month three times. -/
def Event.issuedThrice : List Event :=
  List.replicate 3 (.used (.issueAll ⟨"/", []⟩ ⟨2024, 1⟩))

theorem Store.withThreeDrafts_intact : Store.withThreeDrafts.Intact where
  invoices := by decide
  settings := by
    rintro _ ⟨rfl⟩
    rfl

/-- What the first of these calls answers. -/
def Billing.IssueRun.struckOnce : IssueRun where
  period := ⟨2024, 1⟩
  paths := [documentPath ⟨"/", []⟩ ⟨2024, 1⟩ "LS-202401-001"]
  failure := some ⟨2, .renderingFailed 2 (.outage "down")⟩

/-- The first call finishes the first draft and leaves the second one without a document, the next
one cannot issue the third draft, and the last one can. -/
theorem period_issued_in_turn_when_struck :
    (∃ listed done after,
      (session (issueAll ⟨"/", []⟩ ⟨2024, 1⟩)).perform .struckTwice =
        (.ok (.ok .struckOnce), after) ∧
      InTurn ⟨"/", []⟩ listed [1, 2, 3] done (.unrendered 2 (.renderingFailed 2 (.outage "down")))
        after ∧
      done = [nextDocument ⟨"/", []⟩ ⟨2024, 1⟩ {} 1] ∧
      Store.withThreeDrafts.IssuesFirst {} ⟨2024, 1⟩ 2 after.store) ∧
    Store.withThreeDrafts.IssuesFirst {} ⟨2024, 1⟩ 3
      (World.struckTwice.run Event.issuedThrice).store := by
  obtain ⟨-, -, inTurn, repeats⟩ := period_issued_in_turn .struckTwice ⟨"/", []⟩ ⟨2024, 1⟩ {} rfl
    Store.withThreeDrafts_intact rfl
  constructor
  · have answered : ((session (issueAll ⟨"/", []⟩ ⟨2024, 1⟩)).perform .struckTwice).1 =
        .ok (.ok .struckOnce) := by decide +kernel
    have counted :
        ((session (issueAll ⟨"/", []⟩ ⟨2024, 1⟩)).perform .struckTwice).2.store.settings =
          some { nextSequence := 3 } := by decide +kernel
    obtain ⟨-, run, done, stop, after, issued, turn, -, count, -, failure, documents,
        leaves, first⟩ :=
      inTurn _ _ rfl
    rw [issued] at answered counted
    cases answered
    have one : done.length = 1 := count.symm
    rw [one] at documents leaves first
    cases stop with
    | finished => cases failure
    | unissued => cases leaves.2.2.symm.trans counted
    | unrendered =>
        cases failure
        exact ⟨_, done, after, issued, turn, documents, first⟩
  · have again : ∀ event ∈ Event.issuedThrice, event.Reissues ⟨2024, 1⟩ := by
      intro event mem
      rw [List.eq_of_mem_replicate mem]
      exact .again _
    have counted : (World.struckTwice.run Event.issuedThrice).store.settings =
        some { nextSequence := 4 } := by decide +kernel
    obtain ⟨count, -, first, -⟩ := repeats Event.issuedThrice again
    have same := Option.some.inj (first.counted.symm.trans counted)
    have all : count = 3 := by
      have next := congrArg Settings.nextSequence same
      simp only [Settings.advancedBy] at next
      omega
    rwa [all] at first

end Tuition
