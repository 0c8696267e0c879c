/-
# Numbers without gaps

Whatever strikes the use cases of a run and however often issuing is tried again, the sequences
that the run gives out are consecutive, in the order in which they are given out, and the counter
in the settings moves on by just as many. An invoice gets one number and keeps it, and no two have
the same.

Setting another prefix in between changes the numbers to come, but no sequence.
-/

import Tuition.Proofs.Numbering
import Tuition.Proofs.Unstruck

namespace Tuition

variable {before between after : Store} {next : Int} {world : World}

/-! ## One event -/

namespace Store

theorem Intact.prefixed (intact : before.Intact) (text : String) :
    (before.prefixed text).Intact := by
  refine ⟨intact.invoices, ?_⟩
  cases there : before.settings with
  | none => simp [Store.prefixed, there]
  | some settings =>
      have bounds := (admitSettings_eq_ok_iff.mp (intact.settings settings there)).2
      simp only [Store.prefixed, there, Option.map_some]
      rintro _ ⟨rfl⟩
      exact admitSettings_eq_ok_iff.mpr ⟨rfl, bounds⟩

/-- Setting a prefix leaves the count. -/
theorem CountsTo.prefixed (counts : before.CountsTo next) (text : String) :
    (before.prefixed text).CountsTo next := by
  obtain ⟨settings, there, sequence⟩ := counts.counter
  have same : (before.prefixed text).settings = some { settings with invoicePrefix := text } := by
    simp [Store.prefixed, there]
  exact ⟨counts.intact.prefixed text, ⟨_, same, sequence⟩, counts.below⟩

/-- Canceling an invoice changes nothing that the rules of the table are about. -/
theorem wellKept_cancel (kept : Table.WellKept before.invoices) (id : Int) :
    Table.WellKept (before.cancel id).invoices := by
  refine kept.map ?_ ?_ ?_ ?_
  · intro invoice
    split <;> rfl
  · intro invoice
    split <;> rfl
  · intro condition mem
    cases mem
  · intro combination mem first second
    rcases List.mem_cons.mp mem with rfl | rest
    · split <;> split <;> rfl
    · rw [List.mem_singleton.mp rest]
      split <;> split <;> rfl

/-- A row after canceling is one from before, but for its state. -/
theorem exists_of_mem_cancel {id : Int} {invoice : Invoice}
    (mem : invoice ∈ (before.cancel id).invoices) :
    ∃ old ∈ before.invoices, old.id = invoice.id ∧ invoice.number = old.number ∧
      (invoice.status.payable = true → old.status.payable = true) := by
  obtain ⟨old, memOld, rfl⟩ := List.mem_map.mp mem
  refine ⟨old, memOld, ?_⟩
  split
  · exact ⟨rfl, rfl, nofun⟩
  · exact ⟨rfl, rfl, fun owed => owed⟩

theorem Intact.cancel (intact : before.Intact) (id : Int) : (before.cancel id).Intact :=
  ⟨wellKept_cancel intact.invoices id, intact.settings⟩

theorem keepsNumbers_cancel (before : Store) (id : Int) :
    before.KeepsNumbers (before.cancel id) := by
  intro invoice mem past
  refine ⟨_, List.mem_map_of_mem mem, ?_⟩
  split
  · exact ⟨rfl, nofun, rfl⟩
  · exact ⟨rfl, past, rfl⟩

theorem origin_of_mem_cancel {id : Int} {invoice : Invoice}
    (mem : invoice ∈ (before.cancel id).invoices) : Origin before.invoices [] invoice := by
  obtain ⟨old, memOld, key, number, owed⟩ := exists_of_mem_cancel mem
  exact .kept memOld key number owed

/-- Canceling an invoice leaves the count. -/
theorem CountsTo.cancel (counts : before.CountsTo next) (id : Int) :
    (before.cancel id).CountsTo next where
  intact := counts.intact.cancel id
  counter := counts.counter
  below invoice mem number own := by
    obtain ⟨old, memOld, -, same, -⟩ := exists_of_mem_cancel mem
    exact counts.below old memOld number (same ▸ own)

end Store

/-- Canceling an invoice gives out no number. -/
theorem numbers_cancel (counts : before.CountsTo next) (id : Int) :
    Numbers before (before.cancel id) next [] :=
  numbers_of_unissued (counts.cancel id) (Store.keepsNumbers_cancel before id) fun _ mem =>
    Store.origin_of_mem_cancel mem

/-- Setting a prefix gives out no number. -/
theorem numbers_prefixed (counts : before.CountsTo next) (text : String) :
    Numbers before (before.prefixed text) next [] :=
  numbers_of_unissued (counts.prefixed text)
    (fun invoice mem past => ⟨invoice, mem, rfl, past, rfl⟩) fun _ mem => .same mem

/-- Whatever happens, consecutive numbers are given out in the order of the keys. -/
theorem World.numbers_happen (counts : world.store.CountsTo next) (event : Event) :
    ∃ ids, Numbers world.store (world.happen event).store next ids ∧ ids.Pairwise (· < ·) := by
  cases event with
  | used useCase => exact useCase.numbers counts
  | outages ahead => exact ⟨[], numbers_nil counts, .nil⟩
  | clock moment => exact ⟨[], numbers_nil counts, .nil⟩
  | files tree => exact ⟨[], numbers_nil counts, .nil⟩
  | prefixed text => exact ⟨[], numbers_prefixed counts text, .nil⟩
  | canceled id => exact ⟨[], numbers_cancel counts id, .nil⟩

/-! ## Runs -/

/-- The invoices that were issued from one store to another, each as it was when it was issued, in
the order in which they were: they are numbered without gaps, and their numbers are the only new
ones. -/
structure Gapless (before : Store) (next : Int) (issued : List Invoice) (after : Store) :
    Prop where
  counts : after.CountsTo (next + issued.length)
  keeps : before.KeepsNumbers after
  consecutive : Consecutive next issued
  drafts : ∀ invoice ∈ issued, ¬before.Past invoice.id
  once : (issued.map Invoice.id).Nodup
  stays : ∀ invoice ∈ issued, ∃ later ∈ after.invoices, later.id = invoice.id ∧
    later.status ≠ .draft ∧ later.number = invoice.number
  origin : ∀ invoice ∈ after.invoices, ∀ number, invoice.number = some number →
    ∃ old, (old ∈ before.invoices ∨ old ∈ issued) ∧ old.id = invoice.id ∧ old.number = some number

theorem gapless_nil (counts : before.CountsTo next) : Gapless before next [] before where
  counts := by simpa using counts
  keeps := .refl before
  consecutive := trivial
  drafts _ mem := by cases mem
  once := .nil
  stays _ mem := by cases mem
  origin invoice mem _ own := ⟨invoice, .inl mem, rfl, own⟩

/-- Numbers that are given out at once are numbers without gaps. -/
theorem Numbers.gapless {ids : List Int} (numbers : Numbers before after next ids)
    (ascending : ids.Pairwise (· < ·)) :
    Gapless before next (before.newlyIssued after) after := by
  obtain ⟨keys, consecutive⟩ := numbers.newlyIssued ascending
  have length : (before.newlyIssued after).length = ids.length := by rw [← keys, List.length_map]
  refine ⟨length ▸ numbers.counts, numbers.keeps, consecutive, ?_, ?_, ?_, ?_⟩
  · intro invoice mem
    exact (Store.mem_newlyIssued_iff.mp mem).2.2
  · rw [keys]
    exact ascending.imp Int.ne_of_lt
  · intro invoice mem
    obtain ⟨memAfter, status, -⟩ := Store.mem_newlyIssued_iff.mp mem
    exact ⟨invoice, memAfter, rfl, by simp [status], rfl⟩
  · intro invoice mem number own
    rcases (numbers.origin invoice mem).number_or_mem own with ⟨old, memOld, key, same⟩ | new
    · exact ⟨old, .inl memOld, key, same⟩
    · obtain ⟨issued, memIssued, key⟩ := List.mem_map.mp (keys ▸ new)
      have memAfter := (Store.mem_newlyIssued_iff.mp memIssued).1
      cases numbers.counts.intact.invoices.ordered.eq_of_key_eq memAfter mem key
      exact ⟨_, .inr memIssued, rfl, own⟩

/-- Numbers without gaps go on without gaps. -/
theorem Gapless.trans {first second : List Invoice} (one : Gapless before next first between)
    (other : Gapless between (next + first.length) second after) :
    Gapless before next (first ++ second) after where
  counts := by
    have counts := other.counts
    rwa [Int.add_assoc, ← Int.natCast_add, ← List.length_append] at counts
  keeps := one.keeps.trans other.keeps
  consecutive := consecutive_append.mpr ⟨one.consecutive, other.consecutive⟩
  drafts invoice mem := by
    rcases List.mem_append.mp mem with old | new
    · exact one.drafts invoice old
    · exact fun past => other.drafts invoice new (one.keeps.past past)
  once := by
    rw [List.map_append]
    refine List.nodup_append.mpr ⟨one.once, other.once, ?_⟩
    -- what was issued first was past being a draft when the others were issued
    rintro id memFirst _ memSecond rfl
    obtain ⟨invoice, memIssued, rfl⟩ := List.mem_map.mp memFirst
    obtain ⟨later, memLater, key⟩ := List.mem_map.mp memSecond
    obtain ⟨row, memRow, keyRow, past, -⟩ := one.stays invoice memIssued
    exact other.drafts later memLater ⟨row, memRow, keyRow.trans key.symm, past⟩
  stays invoice mem := by
    rcases List.mem_append.mp mem with old | new
    · obtain ⟨row, memRow, key, past, number⟩ := one.stays invoice old
      obtain ⟨later, memLater, keyLater, pastLater, numberLater⟩ := other.keeps row memRow past
      exact ⟨later, memLater, keyLater.trans key, pastLater, numberLater.trans number⟩
    · exact other.stays invoice new
  origin invoice mem number own := by
    obtain ⟨row, found, key, same⟩ := other.origin invoice mem number own
    rcases found with memBetween | new
    · obtain ⟨old, foundOld, keyOld, sameOld⟩ := one.origin row memBetween number same
      exact ⟨old, foundOld.imp_right (List.mem_append_left _), keyOld.trans key, sameOld⟩
    · exact ⟨row, .inr (List.mem_append_right _ new), key, same⟩

namespace World

/-- The invoices that a run issues, each as it is when it is issued, in the order in which they
are. -/
def issuedIn (world : World) : List Event → List Invoice
  | [] => []
  | event :: events =>
    world.store.newlyIssued (world.happen event).store ++ (world.happen event).issuedIn events

/-- A run gives out numbers without gaps. -/
theorem gapless_run (counts : world.store.CountsTo next) (events : List Event) :
    Gapless world.store next (world.issuedIn events) (world.run events).store := by
  induction events generalizing world next with
  | nil => exact gapless_nil counts
  | cons event events ih =>
      obtain ⟨ids, numbers, ascending⟩ := numbers_happen counts event
      have first := numbers.gapless ascending
      exact first.trans (ih first.counts)

theorem hasTables_happen (world : World) (event : Event) :
    (world.happen event).hasTables = world.hasTables := by
  cases event with
  | used useCase =>
      obtain ⟨prepared, ⟨_, -, moves⟩, _, -, issues⟩ := useCase.takes_perform world
      exact issues.hasTables.trans moves.hasTables
  | _ => rfl

theorem hasTables_run (world : World) (events : List Event) :
    (world.run events).hasTables = world.hasTables :=
  run_induction (fun reached => reached.hasTables = world.hasTables) rfl
    (fun reached event same => (hasTables_happen reached event).trans same) events

end World

/-! ## What numbers without gaps are -/

/-- The sequence in the number of an invoice. -/
def Invoice.sequence (invoice : Invoice) : Option Int :=
  invoice.number.map fun number => (sequenceOf number : Int)

/-- Consecutive numbers have exactly the sequences from the next one on. -/
theorem Consecutive.sequences {issued : List Invoice} (consecutive : Consecutive next issued)
    (nonneg : 0 ≤ next) :
    issued.map Invoice.sequence =
      (List.range issued.length).map fun k : Nat => some (next + (k : Int)) := by
  induction issued generalizing next with
  | nil => rfl
  | cons invoice issued ih =>
      obtain ⟨⟨lead, number⟩, rest⟩ := consecutive
      have first : invoice.sequence = some next := by
        rw [Invoice.sequence, number, Option.map_some,
          sequenceOf_invoiceNumber_of_nonneg _ _ nonneg]
      rw [List.map_cons, first, ih rest (by omega), List.length_cons, List.range_succ_eq_map,
        List.map_cons, List.map_map]
      congr 1
      · simp
      · apply List.map_congr_left
        intro k _
        rw [Function.comp_apply]
        congr 1
        omega

namespace Store

variable {store : Store}

/-- A number is on one invoice. -/
theorem Intact.eq_of_number_eq (intact : store.Intact) {first second : Invoice}
    (memFirst : first ∈ store.invoices) (memSecond : second ∈ store.invoices) {number : String}
    (ownFirst : first.number = some number) (ownSecond : second.number = some number) :
    first = second := by
  by_cases same : first.id = second.id
  · exact intact.invoices.ordered.eq_of_key_eq memFirst memSecond same
  · have different := intact.invoices.distinct first memFirst second memSecond same
      (["invoices.number"], fun first second =>
        first.number.isSome && first.number == second.number)
      (List.mem_cons_of_mem _ List.mem_cons_self)
    simp [ownFirst, ownSecond] at different

/-- A draft fits beside the other invoices with the next number, which none of them has. -/
theorem CountsTo.fits_numberedBy {settings : Settings} {draft : Invoice} {now : Moment}
    (counts : store.CountsTo settings.nextSequence) (mem : draft ∈ store.invoices) :
    Table.Fits (Table.erase store.invoices draft.id) (draft.numberedBy settings now) where
  words := counts.intact.invoices.words draft mem
  conditions _ memCondition := by cases memCondition
  key _ memOther := (Table.mem_erase_iff.mp memOther).2
  distinct other memOther combination memCombination := by
    obtain ⟨memOld, different⟩ := Table.mem_erase_iff.mp memOther
    rcases List.mem_cons.mp memCombination with rfl | rest
    · exact counts.intact.invoices.distinct draft mem other memOld different.symm _
        List.mem_cons_self
    · rw [List.mem_singleton.mp rest, Bool.eq_false_iff]
      intro repeated
      simp only [Bool.and_eq_true, beq_iff_eq] at repeated
      obtain ⟨lead, period, sequence, text, positive, less⟩ :=
        counts.below other memOld _ repeated.2.symm
      have read := congrArg (fun number => (sequenceOf number : Int)) text
      have nonneg : 0 ≤ sequence := by omega
      have nonnegNext : 0 ≤ settings.nextSequence := Int.le_trans Int.one_nonneg counts.positive
      simp only [sequenceOf_invoiceNumber_of_nonneg _ _ nonneg,
        sequenceOf_invoiceNumber_of_nonneg _ _ nonnegNext] at read
      omega

end Store

/-- Settings that are admitted count on if there is room for it, and are refused otherwise. -/
theorem Settings.admit_advanced {settings : Settings}
    (admitted : Store.admitSettings settings = .ok settings) :
    Store.admitSettings settings.advanced =
      if Word.fits (settings.nextSequence + 1) then .ok settings.advanced
      else .error .numberTooLarge := by
  obtain ⟨-, positive, -, day⟩ := Store.admitSettings_eq_ok_iff.mp admitted
  have positiveNext : 1 ≤ settings.nextSequence + 1 := by omega
  cases room : Word.fits (settings.nextSequence + 1) with
  | true => exact Store.admitSettings_eq_ok_iff.mpr ⟨rfl, positiveNext, room, day⟩
  | false =>
      simp [Store.admitSettings, Table.requireWords, Settings.advanced, room, bind, Except.bind]

/-- Issuing a draft, which succeeds and gives it the next number under the settings if the counter
has room to move on, and refuses and leaves the store otherwise. -/
def World.IssuesNext (world : World) (draft : Invoice) (settings : Settings) : Prop :=
  let issuing := (Tx.session (Billing.issueInvoice draft.id)).perform world
  let number := invoiceNumber settings.effectivePrefix draft.period settings.nextSequence
  if Word.fits (settings.nextSequence + 1) then
    issuing.1 = .ok (.ok ⟨draft.id, number, false⟩) ∧
      issuing.2.store = Billing.storeIssuing world.store draft settings world.now
  else
    issuing.1 = .ok (.error (.issuingFailed draft.id .numberTooLarge)) ∧
      issuing.2.store = world.store

/-- A draft that nothing strikes is issued with the next number. -/
theorem World.issuesNext {draft : Invoice} {settings : Settings}
    (counts : world.store.CountsTo settings.nextSequence) (tables : world.hasTables = true)
    (counter : world.store.settings = some settings) (mem : draft ∈ world.store.invoices)
    (status : draft.status = .draft) (spared : Spared Billing.issuingCalls world.outages) :
    world.IssuesNext draft settings := by
  have found : Table.find? world.store.invoices draft.id = some draft :=
    counts.intact.invoices.ordered.find?_eq_some_iff.mpr ⟨mem, rfl⟩
  have fits : Table.Fits _ (draft.numberedBy settings world.begin.now) :=
    counts.fits_numberedBy mem
  have admitted := Settings.admit_advanced (counts.intact.settings settings counter)
  have settled : world.begin.Settled := world.settled_begin
  have sameSpared : Spared Billing.issuingCalls world.begin.outages := spared
  have performed := Tx.perform_session (Billing.issueInvoice draft.id) world
  simp only [IssuesNext, performed]
  by_cases room : Word.fits (settings.nextSequence + 1)
  · rw [if_pos room] at admitted ⊢
    have ends :=
      Billing.ends_issueInvoice_of_spared settled tables sameSpared found status counter
        admitted fits
    obtain ⟨_, after, ended, rfl, stored⟩ := ends.exists_ok
    rw [ended]
    exact ⟨rfl, stored⟩
  · rw [if_neg room] at admitted ⊢
    have fitsKey : Word.fits draft.id := fits.words _ List.mem_cons_self
    have ends := Billing.ends_issueInvoice_of_full settled tables sameSpared found fitsKey status
      counter admitted
    obtain ⟨_, after, ended, rfl, stored⟩ := ends.exists_ok
    rw [ended]
    exact ⟨rfl, stored⟩

/-- After any run, whatever strikes it: the counter has moved on by the number of invoices that
were issued; their numbers are made with the sequences from the first on, in the order in which
they were issued, and those can be read off; each was issued once and has kept its number, and no
number comes from elsewhere; no number is on two invoices; and a draft that nothing strikes is
issued with the next number. -/
theorem numbers_without_gaps (world : World) (next : Int) (counts : world.store.CountsTo next)
    (events : List Event) :
    let reached := world.run events
    let issued := world.issuedIn events
    (∃ settings, reached.store.settings = some settings ∧
      settings.nextSequence = next + issued.length) ∧
    Consecutive next issued ∧
    issued.map Invoice.sequence =
      (List.range issued.length).map (fun k : Nat => some (next + (k : Int))) ∧
    (issued.map Invoice.id).Nodup ∧
    (∀ invoice ∈ issued, ∃ later ∈ reached.store.invoices, later.id = invoice.id ∧
      later.status ≠ .draft ∧ later.number = invoice.number) ∧
    (∀ invoice ∈ reached.store.invoices, ∀ number, invoice.number = some number →
      ∃ old, (old ∈ world.store.invoices ∨ old ∈ issued) ∧ old.id = invoice.id ∧
        old.number = some number) ∧
    (∀ first ∈ reached.store.invoices, ∀ second ∈ reached.store.invoices, ∀ number,
      first.number = some number → second.number = some number → first = second) ∧
    (world.hasTables = true → Spared Billing.issuingCalls reached.outages →
      ∀ draft ∈ reached.store.invoices, draft.status = .draft →
        ∀ settings, reached.store.settings = some settings →
          reached.IssuesNext draft settings) := by
  have gapless := World.gapless_run counts events
  have intact := gapless.counts.intact
  refine ⟨gapless.counts.counter, gapless.consecutive, gapless.consecutive.sequences ?_,
    gapless.once, gapless.stays, gapless.origin,
    fun _ memFirst _ memSecond _ => intact.eq_of_number_eq memFirst memSecond, ?_⟩
  · exact Int.le_trans Int.one_nonneg counts.positive
  · intro tables spared draft mem status settings counter
    obtain ⟨own, there, sequence⟩ := gapless.counts.counter
    cases there.symm.trans counter
    rw [← World.hasTables_run world events] at tables
    exact World.issuesNext (sequence ▸ gapless.counts) tables counter mem status spared

/-- The draft of an organisation that has issued nothing waits for the first number. -/
theorem Store.withDraft_countsTo : Store.withDraft.CountsTo 1 where
  intact := by
    refine ⟨⟨List.pairwise_singleton _ _, ?_, ?_, ?_⟩, ?_⟩
    · intro invoice mem
      cases List.mem_singleton.mp mem
      decide
    · intro invoice mem condition memCondition
      cases memCondition
    · intro first memFirst second memSecond different
      cases List.mem_singleton.mp memFirst
      cases List.mem_singleton.mp memSecond
      exact absurd rfl different
    · rintro _ ⟨rfl⟩
      rfl
  counter := ⟨{}, rfl, rfl⟩
  below invoice mem number own := by
    cases List.mem_singleton.mp mem
    cases own

/-- Issuing is struck, and the prefix is set to one with a dash and a digit. -/
def Event.struckIssuing : List Event :=
  [.used (.issueInvoice 1), .prefixed "A-7"]

/-- Issuing that is struck at the commit gives out nothing and leaves the first number to be given
out; trying it again does so, under the prefix that was set, and a third time changes nothing. -/
theorem numbers_without_gaps_when_struck :
    (World.struckAt .commit .withDraft).issuedIn Event.struckIssuing = [] ∧
    ((World.struckAt .commit .withDraft).run Event.struckIssuing).IssuesNext .sample
      { invoicePrefix := "A-7" } ∧
    ∃ settings, ((World.struckAt .commit .withDraft).run (Event.struckIssuing ++
      [.used (.issueInvoice 1), .used (.issueInvoice 1)])).store.settings = some settings ∧
      settings.nextSequence = 2 := by
  refine ⟨rfl, ?_, ?_⟩
  · obtain ⟨-, -, -, -, -, -, -, issues⟩ :=
      numbers_without_gaps (World.struckAt .commit .withDraft) 1 Store.withDraft_countsTo
        Event.struckIssuing
    refine issues rfl ?_ .sample (List.mem_singleton.mpr rfl) rfl _ rfl
    intro outage mem
    cases mem
  · exact (numbers_without_gaps (World.struckAt .commit .withDraft) 1
      Store.withDraft_countsTo _).1

end Tuition
