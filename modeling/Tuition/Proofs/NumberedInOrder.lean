/-
# Drafts that are numbered in their order

When the first of the drafts of a period are issued one after another, the draft in each place
gets the sequence of that place, counted from the next one on, and the drafts behind them are left
as they were. That holds whenever each of them was issued, so it does not matter whether they were
issued in one call or in several.
-/

import Tuition.Proofs.GaplessNumbers
import Tuition.Proofs.IssuedDocuments

namespace Tuition

open Billing

/-- The settings after some numbers were given out. -/
def Settings.advancedBy (settings : Settings) (count : Nat) : Settings :=
  { settings with nextSequence := settings.nextSequence + count }

theorem Settings.advancedBy_zero (settings : Settings) : settings.advancedBy 0 = settings := by
  simp [advancedBy]

theorem Settings.advanced_advancedBy (settings : Settings) (count : Nat) :
    settings.advanced.advancedBy count = settings.advancedBy (count + 1) := by
  simp only [advancedBy, advanced]
  congr 1
  omega

/-! ## Drafts that were issued one after another -/

/-- Issuing an invoice leaves every other one. -/
theorem Transaction.find?_of_issued {now : Moment} {before after : Store} {id other : Int}
    (step : Transaction now before (.issued id) after) (different : other ≠ id) :
    Table.find? after.invoices other = Table.find? before.invoices other := by
  cases step with
  | @issued _ invoice settings invoices found draft counter admitted written =>
      have own : Row.key invoice = id := Table.key_of_find? found
      have sameKey : Row.key (invoice.numberedBy settings now) = id := own
      rw [Table.find?_of_replace written, sameKey]
      cases there : Table.find? before.invoices other with
      | none => rfl
      | some row => rw [Option.map_some, if_neg (Table.key_of_find? there ▸ different)]

namespace Store

/-- From one store to another a draft was issued with the number of a sequence. -/
structure IssuesWith (before : Store) (settings : Settings) (period : Period) (sequence : Int)
    (id : Int) (after : Store) : Prop where
  draft : ∃ draft moment, Table.find? before.invoices id = some draft ∧ draft.status = .draft ∧
    Table.find? after.invoices id =
      some (draft.numberedBy { settings with nextSequence := sequence } moment)
  number : ∃ issued, Table.find? after.invoices id = some issued ∧ issued.status = .issued ∧
    issued.number = some (invoiceNumber settings.effectivePrefix period sequence) ∧
    issued.sequence = some sequence

/-- From one store to another a draft was left as it was, with its lines. -/
def KeepsDraft (before : Store) (id : Int) (after : Store) : Prop :=
  ∃ draft, Table.find? before.invoices id = some draft ∧ draft.status = .draft ∧
    Table.find? after.invoices id = some draft ∧ after.linesOf id = before.linesOf id

/-- No draft has a number. -/
def DraftsUnnumbered (store : Store) : Prop :=
  ∀ invoice ∈ store.invoices, invoice.status = .draft → invoice.number = none

namespace Numbers

variable {first second after : Store} {ids : List Int} {id : Int} {invoice : Invoice}
  {settings : Settings}

/-- Issuing counts. -/
theorem settings_eq (numbers : first.Numbers ids after)
    (counter : first.settings = some settings) :
    after.settings = some (settings.advancedBy ids.length) := by
  induction numbers generalizing settings with
  | nil => rw [counter, List.length_nil, settings.advancedBy_zero]
  | cons step rest ih =>
      rw [ih (step.settings_of_issued counter), settings.advanced_advancedBy, List.length_cons]

/-- What is not issued is left. -/
theorem find?_of_not_mem (numbers : first.Numbers ids after) (left : id ∉ ids) :
    Table.find? after.invoices id = Table.find? first.invoices id := by
  induction numbers with
  | nil => rfl
  | cons step rest ih =>
      rw [List.mem_cons, not_or] at left
      rw [ih left.2, step.find?_of_issued left.1]

/-- What is no draft is not issued again. -/
theorem find?_of_past (numbers : first.Numbers ids after)
    (found : Table.find? first.invoices id = some invoice) (past : invoice.status ≠ .draft) :
    Table.find? after.invoices id = some invoice := by
  refine (numbers.find?_of_not_mem fun mem => ?_).trans found
  induction numbers with
  | nil => cases mem
  | @cons _ _ _ _ own _ step rest ih =>
      have different : id ≠ own := by
        rintro rfl
        obtain ⟨_, -, foundDraft, draft, -⟩ := step.exists_issued_found
        cases found.symm.trans foundDraft
        exact past draft
      refine ih ((step.find?_of_issued different).trans found) ?_
      exact (List.mem_cons.mp mem).resolve_left different

/-- The draft in a place is issued under the settings that were counted on to that place. -/
theorem exists_numbered (numbers : first.Numbers ids after)
    (counter : first.settings = some settings) {place : Nat} (there : ids[place]? = some id) :
    ∃ draft moment, Table.find? first.invoices id = some draft ∧ draft.status = .draft ∧
      Table.find? after.invoices id =
        some (draft.numberedBy (settings.advancedBy place) moment) := by
  induction numbers generalizing settings place with
  | nil => cases there
  | @cons first second after now own ids step rest ih =>
      obtain ⟨invoice, _, found, draft, same, numbered⟩ := step.exists_issued_found
      cases counter.symm.trans same
      cases place with
      | zero =>
          obtain rfl : own = id := Option.some.inj there
          rw [settings.advancedBy_zero]
          exact ⟨invoice, now, found, draft, rest.find?_of_past numbered nofun⟩
      | succ place =>
          obtain ⟨later, moment, foundLater, draftLater, numberedLater⟩ :=
            ih (step.settings_of_issued counter) there
          have different : id ≠ own := by
            rintro rfl
            cases numbered.symm.trans foundLater
            cases draftLater
          rw [step.find?_of_issued different] at foundLater
          rw [settings.advanced_advancedBy] at numberedLater
          exact ⟨later, moment, foundLater, draftLater, numberedLater⟩

/-- Issuing keeps the rules on invoices and settings. -/
theorem intact (numbers : first.Numbers ids after) (intact : first.Intact)
    (counter : first.settings = some settings) : after.Intact := by
  induction numbers generalizing settings with
  | nil => exact intact
  | cons step rest ih =>
      refine ih ⟨step.wellKept intact.invoices, ?_⟩ (step.settings_of_issued counter)
      rcases step.settings_eq counter with ⟨none, -⟩ | ⟨-, advanced, admitted⟩
      · cases none
      · rw [advanced]
        rintro _ ⟨rfl⟩
        exact admitted

end Numbers

/-- The first drafts of a period were issued, as many as is said, and nothing else happened. -/
structure IssuesFirst (before : Store) (settings : Settings) (period : Period) (count : Nat)
    (after : Store) : Prop where
  /-- The draft in a place got the sequence of that place. -/
  issued : ∀ (place : Nat) (id : Int), ((draftIds before period).take count)[place]? = some id →
    before.IssuesWith settings period (settings.nextSequence + place) id after
  counted : after.settings = some (settings.advancedBy count)
  /-- The other drafts are left, in their order. -/
  left : draftIds after period = (draftIds before period).drop count
  kept : ∀ id ∈ (draftIds before period).drop count, before.KeepsDraft id after
  unnumbered : before.DraftsUnnumbered → after.DraftsUnnumbered
  others : ∀ id ∉ (draftIds before period).take count,
    Table.find? after.invoices id = Table.find? before.invoices id
  only : after = { before with invoices := after.invoices, settings := after.settings }

namespace Numbers

variable {before after : Store} {ids more : List Int} {settings : Settings} {period : Period}

/-- A draft of the period that was issued has the sequence of its place. -/
theorem issuesWith (numbers : before.Numbers ids after) (intact : before.Intact)
    (counter : before.settings = some settings) (listed : draftIds before period = ids ++ more)
    {place : Nat} {id : Int} (there : ids[place]? = some id) :
    before.IssuesWith settings period (settings.nextSequence + place) id after := by
  obtain ⟨draft, moment, found, status, numbered⟩ := numbers.exists_numbered counter there
  have month : draft.period = period := by
    have mem : id ∈ draftIds before period :=
      listed ▸ List.mem_append_left _ (List.mem_of_getElem? there)
    obtain ⟨same, again, month, -⟩ := exists_found_of_mem_draftIds intact.invoices.ordered mem
    rwa [Option.some.inj (found.symm.trans again)]
  have positive := (admitSettings_eq_ok_iff.mp (intact.settings settings counter)).2.1
  have nonneg : 0 ≤ settings.nextSequence + place := by omega
  refine ⟨⟨draft, moment, found, status, numbered⟩, _, numbered, rfl, month ▸ rfl, ?_⟩
  exact congrArg some (sequenceOf_invoiceNumber_of_nonneg _ _ nonneg)

/-- A draft that comes after those that were issued is left as it was. -/
theorem keepsDraft (numbers : before.Numbers ids after) (ordered : Table.Ordered before.invoices)
    (listed : draftIds before period = ids ++ more) {id : Int} (mem : id ∈ more) :
    before.KeepsDraft id after := by
  have ascending := draftIds_ascending ordered period
  rw [listed, List.pairwise_append] at ascending
  have left : id ∉ ids := fun issued => Int.lt_irrefl id (ascending.2.2 id issued id mem)
  have memDrafts : id ∈ draftIds before period := listed ▸ List.mem_append_right _ mem
  obtain ⟨draft, found, -, status⟩ := exists_found_of_mem_draftIds ordered memDrafts
  refine ⟨draft, found, status, (numbers.find?_of_not_mem left).trans found, ?_⟩
  rw [numbers.only]
  rfl

/-- Issuing gives no number to what stays a draft. -/
theorem draftsUnnumbered (numbers : before.Numbers ids after)
    (ordered : Table.Ordered before.invoices) (unnumbered : before.DraftsUnnumbered) :
    after.DraftsUnnumbered := by
  induction numbers with
  | nil => exact unnumbered
  | @cons first second third now id ids step rest ih =>
      refine ih (step.ordered ordered) fun invoice mem draft => ?_
      have found : Table.find? second.invoices invoice.id = some invoice :=
        (step.ordered ordered).find?_eq_some_iff.mpr ⟨mem, rfl⟩
      have different : invoice.id ≠ id := by
        rintro rfl
        obtain ⟨_, _, -, -, -, numbered⟩ := step.exists_issued_found
        cases found.symm.trans numbered
        cases draft
      rw [step.find?_of_issued different] at found
      exact unnumbered invoice (Table.mem_of_find? found) draft

/-- Where drafts of the period were issued one after another, the first of them were. -/
theorem issuesFirst (numbers : before.Numbers ids after) (intact : before.Intact)
    (counter : before.settings = some settings) (listed : draftIds before period = ids ++ more) :
    before.IssuesFirst settings period ids.length after where
  issued place id there := by
    rw [listed, List.take_left] at there
    exact numbers.issuesWith intact counter listed there
  counted := numbers.settings_eq counter
  left := by rw [numbers.draftIds_eq intact.invoices.ordered listed, listed, List.drop_left]
  kept id mem := by
    rw [listed, List.drop_left] at mem
    exact numbers.keepsDraft intact.invoices.ordered listed mem
  unnumbered := numbers.draftsUnnumbered intact.invoices.ordered
  others id left := by
    rw [listed, List.take_left] at left
    exact numbers.find?_of_not_mem left
  only := numbers.only

end Numbers
end Store

end Tuition
