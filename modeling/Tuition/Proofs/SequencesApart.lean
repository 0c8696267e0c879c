/-
# Sequences that are given out once

Giving a number out counts on, and nothing ever counts back. So the sequences that a run gives out
are different from each other and not below the one that was next when the run began, whatever
invoices there were by then and whatever their numbers look like.

A use case does its preparations first, which give out no number, and then issues drafts one after
another; what happens between use cases gives out no number either.
-/

import Tuition.Proofs.NumberedInOrder

namespace Tuition

variable {now : Moment} {before between after : Store} {deed : Deed} {deeds : List Deed}
  {issued more : List Invoice} {invoice : Invoice} {world : World}

namespace Store

/-- The sequence that comes next. Settings that are missing are made before anything is issued. -/
def nextSequence (store : Store) : Int :=
  (store.settings.getD {}).nextSequence

theorem nextSequence_of_some {settings : Settings} (counter : before.settings = some settings) :
    before.nextSequence = settings.nextSequence := by
  rw [nextSequence, counter, Option.getD_some]

theorem Intact.one_le_nextSequence (intact : before.Intact) : 1 ≤ before.nextSequence := by
  cases counter : before.settings with
  | none =>
      rw [nextSequence, counter]
      decide
  | some settings =>
      rw [nextSequence_of_some counter]
      exact (admitSettings_eq_ok_iff.mp (intact.settings settings counter)).2.1

theorem Intact.nextSequence_nonneg (intact : before.Intact) : 0 ≤ before.nextSequence :=
  Int.le_trans Int.one_nonneg intact.one_le_nextSequence

/-! ## Where no number is given out -/

/-- From one store to another no number was given out. -/
structure GivesNone (before after : Store) : Prop where
  intact : after.Intact
  next : after.nextSequence = before.nextSequence
  keeps : before.KeepsNumbers after
  origin : ∀ invoice ∈ after.invoices, Origin before.invoices [] invoice

namespace GivesNone

theorem refl (intact : before.Intact) : before.GivesNone before :=
  ⟨intact, rfl, .refl before, fun _ mem => .same mem⟩

theorem trans (first : before.GivesNone between) (second : between.GivesNone after) :
    before.GivesNone after where
  intact := second.intact
  next := second.next.trans first.next
  keeps := first.keeps.trans second.keeps
  origin invoice mem := (second.origin invoice mem).trans first.origin

/-- Nothing is newly issued where no number was given out. -/
theorem newlyIssued_eq_nil (gives : before.GivesNone after) : before.newlyIssued after = [] := by
  refine List.eq_nil_iff_forall_not_mem.mpr fun invoice mem => ?_
  obtain ⟨memAfter, status, new⟩ := mem_newlyIssued_iff.mp mem
  rcases (gives.origin invoice memAfter).past_or_mem (status ▸ rfl) with past | impossible
  · exact new past
  · cases impossible

end GivesNone

/-- Setting a prefix gives out no number. -/
theorem givesNone_prefixed (intact : before.Intact) (text : String) :
    before.GivesNone (before.prefixed text) where
  intact := intact.prefixed text
  next := by
    cases there : before.settings <;> simp [nextSequence, prefixed, there]
  keeps := .refl before
  origin _ mem := .same mem

/-- Canceling an invoice gives out no number. -/
theorem givesNone_cancel (intact : before.Intact) (id : Int) :
    before.GivesNone (before.cancel id) where
  intact := intact.cancel id
  next := rfl
  keeps := keepsNumbers_cancel before id
  origin _ mem := origin_of_mem_cancel mem

end Store

/-- Settings change only when something is issued or when they are missing. -/
theorem Transaction.settings_of_unissued (step : Transaction now before deed after)
    (unissued : deed.issues = []) :
    after.settings = before.settings ∨ before.settings = none ∧ after.settings = some {} := by
  cases there : before.settings with
  | some settings =>
      rcases step.settings_eq there with ⟨-, same⟩ | ⟨⟨id, rfl⟩, -⟩
      · exact .inl same
      · cases unissued
  | none =>
      cases step with
      | settingsMade missing => exact .inr ⟨rfl, rfl⟩
      | issued found draft counter => cases unissued
      | paymentRecorded found payable linked owner written settles =>
          rw [settles.only_invoices]
          exact .inl there
      | paymentDeleted found linked settles =>
          rw [settles.only_invoices]
          exact .inl there
      | _ => exact .inl there

/-- A deed that issues nothing gives out no number. -/
theorem Transaction.givesNone (step : Transaction now before deed after)
    (unissued : deed.issues = []) (intact : before.Intact) : before.GivesNone after := by
  have ordered := intact.invoices.ordered
  have kept := step.wellKept intact.invoices
  have origin (invoice : Invoice) (mem : invoice ∈ after.invoices) :
      Origin before.invoices [] invoice := unissued ▸ step.origin ordered mem
  rcases step.settings_of_unissued unissued with same | ⟨missing, made⟩
  · refine ⟨⟨kept, same ▸ intact.settings⟩, ?_, step.keepsNumbers ordered, origin⟩
    rw [Store.nextSequence, same, Store.nextSequence]
  · refine ⟨⟨kept, ?_⟩, ?_, step.keepsNumbers ordered, origin⟩
    · rw [made]
      rintro _ ⟨rfl⟩
      rfl
    · rw [Store.nextSequence, made, Store.nextSequence, missing]
      rfl

/-- Deeds that issue nothing give out no number. -/
theorem History.givesNone (history : History now before deeds after)
    (unissued : ∀ deed ∈ deeds, deed.issues = []) (intact : before.Intact) :
    before.GivesNone after := by
  induction history with
  | nil => exact .refl intact
  | cons step _ ih =>
      have first := step.givesNone (unissued _ List.mem_cons_self) intact
      exact first.trans
        (ih (fun deed mem => unissued deed (List.mem_cons_of_mem _ mem)) first.intact)

/-- Deeds that issue drafts issue them one after another. -/
theorem History.numbersInOrder {ids : List Int}
    (history : History now before (ids.map .issued) after) : before.Numbers ids after := by
  induction ids generalizing before with
  | nil => exact history.eq_of_nil ▸ .nil
  | cons id ids ih =>
      cases history with
      | cons step rest => exact .cons step (ih rest)

/-! ## Where numbers are given out -/

namespace Store

/-- From one store to another these invoices were issued, each as it was when it was issued: with
sequences that are different from each other and were next after each other. No number on an
invoice comes from elsewhere. -/
structure GivesOut (before : Store) (issued : List Invoice) (after : Store) : Prop where
  intact : after.Intact
  le : before.nextSequence ≤ after.nextSequence
  given : ∀ invoice ∈ issued, ∃ lead period sequence,
    invoice.number = some (invoiceNumber lead period sequence) ∧
      before.nextSequence ≤ sequence ∧ sequence < after.nextSequence
  once : ∀ first ∈ issued, ∀ second ∈ issued, first.sequence = second.sequence → first = second
  origin : ∀ invoice ∈ after.invoices, ∀ number, invoice.number = some number →
    ∃ old, (old ∈ before.invoices ∨ old ∈ issued) ∧ old.id = invoice.id ∧ old.number = some number

namespace GivesOut

/-- Where nothing is issued and every number was there, no sequence is given out twice. -/
theorem of_none (intact : after.Intact) (le : before.nextSequence ≤ after.nextSequence)
    (origin : ∀ invoice ∈ after.invoices, ∀ number, invoice.number = some number →
      ∃ old ∈ before.invoices, old.id = invoice.id ∧ old.number = some number) :
    before.GivesOut [] after where
  intact := intact
  le := le
  given _ mem := absurd mem List.not_mem_nil
  once _ mem := absurd mem List.not_mem_nil
  origin invoice mem number own := by
    obtain ⟨old, memOld, same⟩ := origin invoice mem number own
    exact ⟨old, .inl memOld, same⟩

/-- The sequence of an invoice that was issued lies between those that were next. -/
theorem exists_sequence (gives : before.GivesOut issued after) (nonneg : 0 ≤ before.nextSequence)
    (mem : invoice ∈ issued) : ∃ sequence, invoice.sequence = some sequence ∧
      before.nextSequence ≤ sequence ∧ sequence < after.nextSequence := by
  obtain ⟨lead, period, sequence, number, least, less⟩ := gives.given invoice mem
  refine ⟨sequence, ?_, least, less⟩
  rw [Invoice.sequence, number, Option.map_some,
    sequenceOf_invoiceNumber_of_nonneg _ _ (Int.le_trans nonneg least)]

/-- What gives out numbers one after another gives out different ones. -/
theorem trans (first : before.GivesOut issued between) (second : between.GivesOut more after)
    (nonneg : 0 ≤ before.nextSequence) : before.GivesOut (issued ++ more) after where
  intact := second.intact
  le := first.le.trans second.le
  given invoice mem := by
    rcases List.mem_append.mp mem with old | new
    · obtain ⟨lead, period, sequence, number, least, less⟩ := first.given invoice old
      exact ⟨lead, period, sequence, number, least, Int.lt_of_lt_of_le less second.le⟩
    · obtain ⟨lead, period, sequence, number, least, less⟩ := second.given invoice new
      exact ⟨lead, period, sequence, number, first.le.trans least, less⟩
  once one memOne other memOther same := by
    have crossed {earlier later : Invoice} (memEarlier : earlier ∈ issued)
        (memLater : later ∈ more)
        (same : earlier.sequence = later.sequence) : False := by
      obtain ⟨low, readLow, -, below⟩ := first.exists_sequence nonneg memEarlier
      obtain ⟨high, readHigh, above, -⟩ :=
        second.exists_sequence (Int.le_trans nonneg first.le) memLater
      rw [readLow, readHigh] at same
      cases same
      omega
    rcases List.mem_append.mp memOne with old | new
    · rcases List.mem_append.mp memOther with oldOther | newOther
      · exact first.once one old other oldOther same
      · exact (crossed old newOther same).elim
    · rcases List.mem_append.mp memOther with oldOther | newOther
      · exact (crossed oldOther new same.symm).elim
      · exact second.once one new other newOther same
  origin invoice mem number own := by
    obtain ⟨row, found, key, same⟩ := second.origin invoice mem number own
    rcases found with memBetween | new
    · obtain ⟨old, foundOld, keyOld, sameOld⟩ := first.origin row memBetween number same
      exact ⟨old, foundOld.imp_right (List.mem_append_left _), keyOld.trans key, sameOld⟩
    · exact ⟨row, .inr (List.mem_append_right _ new), key, same⟩

end GivesOut

/-- Where no number was given out there is nothing newly issued to tell. -/
theorem GivesNone.givesOut (gives : before.GivesNone after) :
    before.GivesOut (before.newlyIssued after) after := by
  rw [gives.newlyIssued_eq_nil]
  refine .of_none gives.intact (Int.le_of_eq gives.next.symm) fun invoice mem number own => ?_
  exact ((gives.origin invoice mem).number_or_mem own).resolve_right List.not_mem_nil

/-- Where drafts are issued there are settings that count. -/
theorem Numbers.eq_nil_of_missing {ids : List Int} (numbers : before.Numbers ids after)
    (missing : before.settings = none) : ids = [] := by
  cases numbers with
  | nil => rfl
  | cons step rest =>
      obtain ⟨_, _, -, -, counter, -⟩ := step.exists_issued_found
      cases missing.symm.trans counter

/-- An invoice after drafts were issued is one of them, with the number of
its place, or was there. -/
theorem Numbers.numbered_or_mem {ids : List Int} {settings : Settings}
    (numbers : before.Numbers ids after) (ordered : Table.Ordered after.invoices)
    (counter : before.settings = some settings) (mem : invoice ∈ after.invoices) :
    (∃ place draft moment, ids[place]? = some invoice.id ∧
      Table.find? before.invoices invoice.id = some draft ∧ draft.status = .draft ∧
      invoice = draft.numberedBy (settings.advancedBy place) moment) ∨
    invoice ∈ before.invoices := by
  have found : Table.find? after.invoices invoice.id = some invoice :=
    ordered.find?_eq_some_iff.mpr ⟨mem, rfl⟩
  by_cases listed : invoice.id ∈ ids
  · obtain ⟨place, there⟩ := List.getElem?_of_mem listed
    obtain ⟨draft, moment, foundDraft, status, numbered⟩ := numbers.exists_numbered counter there
    exact .inl ⟨place, draft, moment, there, foundDraft, status,
      Option.some.inj (found.symm.trans numbered)⟩
  · rw [numbers.find?_of_not_mem listed] at found
    exact .inr (Table.mem_of_find? found)

section Issuing

variable {ids : List Int} {settings : Settings}

/-- What is newly issued was issued in a place of the order. -/
theorem Numbers.exists_place (numbers : between.Numbers ids after)
    (gives : before.GivesNone between) (counter : between.settings = some settings)
    (mem : invoice ∈ before.newlyIssued after) :
    ∃ (place : Nat) (draft : Invoice) (moment : Moment), ids[place]? = some invoice.id ∧
      invoice = draft.numberedBy (settings.advancedBy place) moment := by
  have ordered := (numbers.intact gives.intact counter).invoices.ordered
  obtain ⟨memAfter, status, fresh⟩ := mem_newlyIssued_iff.mp mem
  rcases numbers.numbered_or_mem ordered counter memAfter with
    ⟨place, draft, moment, there, -, -, same⟩ | old
  · exact ⟨place, draft, moment, there, same⟩
  · rcases (gives.origin invoice old).past_or_mem (status ▸ rfl) with past | impossible
    · exact absurd past fresh
    · cases impossible

/-- What has a number is newly issued, or had it before. -/
theorem Numbers.mem_newlyIssued_or (numbers : between.Numbers ids after)
    (gives : before.GivesNone between) (counter : between.settings = some settings)
    (mem : invoice ∈ after.invoices) {number : String} (own : invoice.number = some number) :
    invoice ∈ before.newlyIssued after ∨
      ∃ old ∈ before.invoices, old.id = invoice.id ∧ old.number = some number := by
  have ordered := (numbers.intact gives.intact counter).invoices.ordered
  rcases numbers.numbered_or_mem ordered counter mem with
    ⟨place, draft, moment, there, found, status, same⟩ | old
  · refine .inl (mem_newlyIssued_iff.mpr ⟨mem, by rw [same]; rfl, fun past => ?_⟩)
    -- what was past being a draft would have been so when the draft was found
    obtain ⟨row, memRow, key, pastRow⟩ := gives.keeps.past past
    have again := gives.intact.invoices.ordered.find?_eq_some_iff.mpr ⟨memRow, key⟩
    cases found.symm.trans again
    exact pastRow status
  · exact .inr (((gives.origin invoice old).number_or_mem own).resolve_right List.not_mem_nil)

/-- The sequence that is read off the number of a place. -/
theorem sequence_of_place (positive : 1 ≤ settings.nextSequence) (place : Nat) (draft : Invoice)
    (moment : Moment) : (draft.numberedBy (settings.advancedBy place) moment).sequence =
      some (settings.nextSequence + place) := by
  have nonneg : 0 ≤ settings.nextSequence + place := by omega
  exact congrArg some (sequenceOf_invoiceNumber_of_nonneg _ _ nonneg)

/-- Preparations and then drafts that are issued give out the numbers of what is newly issued. -/
theorem Numbers.givesOut (numbers : between.Numbers ids after)
    (gives : before.GivesNone between) : before.GivesOut (before.newlyIssued after) after := by
  cases counter : between.settings with
  | none =>
      cases numbers.eq_nil_of_missing counter
      cases numbers
      exact gives.givesOut
  | some settings =>
      have intact := numbers.intact gives.intact counter
      have next : before.nextSequence = settings.nextSequence := by
        rw [← gives.next, nextSequence_of_some counter]
      have nextAfter : after.nextSequence = settings.nextSequence + ids.length :=
        nextSequence_of_some (numbers.settings_eq counter)
      refine ⟨intact, by omega, ?_, ?_, ?_⟩
      · intro invoice mem
        obtain ⟨place, draft, moment, there, same⟩ := numbers.exists_place gives counter mem
        obtain ⟨inside, -⟩ := List.getElem?_eq_some_iff.mp there
        refine ⟨_, _, settings.nextSequence + place, by rw [same]; rfl, by omega, by omega⟩
      · intro first memFirst second memSecond same
        obtain ⟨place, draft, moment, there, own⟩ := numbers.exists_place gives counter memFirst
        obtain ⟨place', draft', moment', there', own'⟩ :=
          numbers.exists_place gives counter memSecond
        have positive : 1 ≤ settings.nextSequence :=
          nextSequence_of_some counter ▸ gives.intact.one_le_nextSequence
        rw [own, own', sequence_of_place positive, sequence_of_place positive] at same
        obtain rfl : place = place' := by
          have sum := Option.some.inj same
          omega
        exact intact.invoices.ordered.eq_of_key_eq (mem_newlyIssued_iff.mp memFirst).1
          (mem_newlyIssued_iff.mp memSecond).1 (Option.some.inj (there.symm.trans there'))
      · intro invoice mem number own
        rcases numbers.mem_newlyIssued_or gives counter mem own with new | ⟨old, memOld, same⟩
        · exact ⟨invoice, .inr new, rfl, own⟩
        · exact ⟨old, .inl memOld, same⟩

end Issuing

end Store

namespace World

/-- Whatever happens, different sequences are given out. -/
theorem givesOut_happen (intact : world.store.Intact) (event : Event) :
    world.store.GivesOut (world.store.newlyIssued (world.happen event).store)
      (world.happen event).store := by
  cases event with
  | used useCase =>
      obtain ⟨prepared, ⟨done, sublist, moves⟩, issued, sublistIssued, issues⟩ :=
        useCase.takes_perform world
      obtain ⟨ids, -, rfl⟩ := List.sublist_map_iff.mp sublistIssued
      have prepares : world.store.GivesNone prepared.store := moves.history.givesNone
        (fun deed mem => useCase.unissued_of_mem_preparations (sublist.subset mem)) intact
      exact issues.history.numbersInOrder.givesOut prepares
  | outages ahead => exact (Store.GivesNone.refl intact).givesOut
  | clock moment => exact (Store.GivesNone.refl intact).givesOut
  | files tree => exact (Store.GivesNone.refl intact).givesOut
  | prefixed text => exact (Store.givesNone_prefixed intact text).givesOut
  | canceled id => exact (Store.givesNone_cancel intact id).givesOut

/-- A run gives out different sequences. -/
theorem givesOut_run (intact : world.store.Intact) (events : List Event) :
    world.store.GivesOut (world.issuedIn events) (world.run events).store := by
  induction events generalizing world with
  | nil =>
      exact .of_none intact (Int.le_refl _) fun invoice mem _ own => ⟨invoice, mem, rfl, own⟩
  | cons event events ih =>
      have first := givesOut_happen intact event
      exact first.trans (ih first.intact) intact.nextSequence_nonneg

/-- A run that goes on issues what it issued before. -/
theorem issuedIn_append (world : World) (past later : List Event) :
    world.issuedIn (past ++ later) =
      world.issuedIn past ++ (world.run past).issuedIn later := by
  induction past generalizing world with
  | nil => rfl
  | cons event past ih =>
      rw [List.cons_append, issuedIn, issuedIn, ih, List.append_assoc]
      rfl

end World
end Tuition
