/-
# What transactions commit

Whatever a use case does, it changes the store by committing transactions, and each
transaction does one deed: it adds an override, drafts or deletes an invoice, numbers one, or
records or deletes a payment together with what follows for the invoice that it is on.
`Transaction` says for each deed how the store before and after are related, and a history is
a list of deeds one after another.

What a use case may do is then said by the deeds of its histories, and what holds of every history
is shown deed by deed.
-/

import Tuition.Billing.InvoiceNumber
import Tuition.Payments.Settlement
import Tuition.Proofs.Pricing
import Tuition.Refusal

namespace Tuition

/-- What a transaction does. -/
inductive Deed where
  | settingsMade
  | overrideAdded
  | drafted (studentId : Int) (period : Period)
  | draftDeleted (id : Int)
  | issued (id : Int)
  | paymentRecorded (invoiceId : Option Int)
  | paymentDeleted (id : Int)
  deriving DecidableEq, Repr

/-- The draft of an invoice that has no key yet. -/
def Invoice.draft (studentId : Int) (period : Period) (total : Decimal) : Invoice :=
  ⟨0, studentId, period, total, .draft, none, none, none⟩

/-- An invoice with the next number, under the settings that count the numbers. -/
def Invoice.numberedBy (invoice : Invoice) (settings : Settings) (now : Moment) : Invoice :=
  { invoice with
    number := some (invoiceNumber settings.effectivePrefix invoice.period settings.nextSequence)
    status := .issued
    issuedAt := some now }

/-- The settings after a number was given out. -/
def Settings.advanced (settings : Settings) : Settings :=
  { settings with nextSequence := settings.nextSequence + 1 }

/-- A total that an invoice may come to have beside others: one that is there already, or one that
was brought into the form that is kept. -/
def KeptTotal (invoices : List Invoice) (total : Decimal) : Prop :=
  (∃ invoice ∈ invoices, invoice.total = total) ∨ ∃ asked, Store.keepTotal asked = .ok total

/-- How an invoice follows the payments on it, which are already those of the store at hand. An
invoice that is not owed is left alone, and so is one whose state is right already. -/
inductive Settles (now : Moment) (store : Store) (invoice : Invoice) : Store → Prop
  | notOwed (notPayable : invoice.status.payable = false) : Settles now store invoice store
  | stillPaid {paid : Decimal} (status : invoice.status = .paid)
      (sum : store.paidOn invoice.id = .ok paid)
      (covered : Payments.covers paid (Row.shown invoice).total = .ok true) :
      Settles now store invoice store
  | stillIssued {paid : Decimal} (status : invoice.status = .issued)
      (sum : store.paidOn invoice.id = .ok paid)
      (uncovered : Payments.covers paid (Row.shown invoice).total = .ok false) :
      Settles now store invoice store
  | becamePaid {paid : Decimal} {invoices : List Invoice} (status : invoice.status = .issued)
      (sum : store.paidOn invoice.id = .ok paid)
      (covered : Payments.covers paid (Row.shown invoice).total = .ok true)
      (written : Table.replace store.invoices
        { invoice with status := .paid, paidAt := some now } = .ok invoices) :
      Settles now store invoice { store with invoices }
  | reopened {paid : Decimal} {invoices : List Invoice} (status : invoice.status = .paid)
      (sum : store.paidOn invoice.id = .ok paid)
      (uncovered : Payments.covers paid (Row.shown invoice).total = .ok false)
      (written : Table.replace store.invoices
        { invoice with status := .issued, paidAt := none } = .ok invoices) :
      Settles now store invoice { store with invoices }

/-- How a transaction at a moment changes the store. -/
inductive Transaction (now : Moment) : Store → Deed → Store → Prop
  | settingsMade {store : Store} (missing : store.settings = none) :
      Transaction now store .settingsMade { store with settings := some {} }
  | overrideAdded {store : Store} {override kept : PriceOverride} {overrides : List PriceOverride}
      (written : Table.insert store.overrides override = .ok (kept, overrides)) :
      Transaction now store .overrideAdded { store with overrides }
  | drafted {store : Store} {studentId : Int} {period : Period} {total : Decimal}
      {drafts : List DraftLine} {invoice : Invoice} {invoices : List Invoice}
      {lines : List InvoiceLine}
      (vacant : ∀ other ∈ store.invoices, other.studentId = studentId → other.period ≠ period)
      (written : Table.insert store.invoices (.draft studentId period total) =
        .ok (invoice, invoices))
      (attached : Table.insertAll store.lines (drafts.map (.ofDraft invoice.id)) = .ok lines)
      (owes : store.Owes studentId period drafts total) :
      Transaction now store (.drafted studentId period) { store with invoices, lines }
  | redrafted {store : Store} {invoice : Invoice} {total : Decimal} {drafts : List DraftLine}
      {invoices : List Invoice} {lines : List InvoiceLine} (mem : invoice ∈ store.invoices)
      (draft : invoice.status = .draft) (kept : KeptTotal store.invoices total)
      (attached : Table.insertAll (store.lines.filter (·.invoiceId != invoice.id))
        (drafts.map (.ofDraft invoice.id)) = .ok lines)
      (written : Table.replace store.invoices { invoice with total } = .ok invoices)
      (priced : ∃ asked, store.Owes invoice.studentId invoice.period drafts asked ∧
        Access.totalToKeep store.invoices { invoice with total := asked } = .ok total) :
      Transaction now store (.drafted invoice.studentId invoice.period)
        { store with invoices, lines }
  | draftDeleted {store : Store} {id : Int} {invoice : Invoice}
      (found : Table.find? store.invoices id = some invoice) (draft : invoice.status = .draft) :
      Transaction now store (.draftDeleted id)
        { store with
          invoices := Table.erase store.invoices id
          lines := store.lines.filter (·.invoiceId != id) }
  | issued {store : Store} {id : Int} {invoice : Invoice} {settings : Settings}
      {invoices : List Invoice} (found : Table.find? store.invoices id = some invoice)
      (draft : invoice.status = .draft) (counter : store.settings = some settings)
      (admitted : Store.admitSettings settings.advanced = .ok settings.advanced)
      (written : Table.replace store.invoices (invoice.numberedBy settings now) = .ok invoices) :
      Transaction now store (.issued id)
        { store with invoices, settings := some settings.advanced }
  | cashRecorded {store : Store} {payment kept : Payment} {payments : List Payment}
      (unlinked : payment.invoiceId = none)
      (written : Table.insert store.payments payment = .ok (kept, payments)) :
      Transaction now store (.paymentRecorded none) { store with payments }
  | paymentRecorded {store after : Store} {id : Int} {invoice : Invoice} {payment kept : Payment}
      {payments : List Payment} (found : Table.find? store.invoices id = some invoice)
      (payable : invoice.status.payable = true) (linked : payment.invoiceId = some id)
      (owner : payment.studentId = invoice.studentId)
      (written : Table.insert store.payments payment = .ok (kept, payments))
      (settles : Settles now { store with payments } invoice after) :
      Transaction now store (.paymentRecorded (some id)) after
  | looseDeleted {store : Store} {id : Int} {payment : Payment}
      (found : Table.find? store.payments id = some payment)
      (loose : payment.invoiceId.bind (Table.find? store.invoices) = none) :
      Transaction now store (.paymentDeleted id)
        { store with payments := Table.erase store.payments id }
  | paymentDeleted {store after : Store} {id : Int} {payment : Payment} {invoice : Invoice}
      (found : Table.find? store.payments id = some payment)
      (linked : payment.invoiceId.bind (Table.find? store.invoices) = some invoice)
      (settles : Settles now { store with payments := Table.erase store.payments id } invoice
        after) :
      Transaction now store (.paymentDeleted id) after

/-- Deeds done one after another. -/
inductive History (now : Moment) : Store → List Deed → Store → Prop
  | nil {store : Store} : History now store [] store
  | cons {first second third : Store} {deed : Deed} {deeds : List Deed}
      (step : Transaction now first deed second) (rest : History now second deeds third) :
      History now first (deed :: deeds) third

namespace History

variable {now : Moment} {first second third : Store} {deeds more : List Deed}

theorem single {deed : Deed} (step : Transaction now first deed second) :
    History now first [deed] second :=
  .cons step .nil

theorem eq_of_nil (history : History now first [] second) : second = first := by
  cases history
  rfl

theorem append (before : History now first deeds second) (after : History now second more third) :
    History now first (deeds ++ more) third := by
  induction before with
  | nil => exact after
  | cons step _ ih => exact .cons step (ih after)

/-- What every transaction keeps is kept by a history. -/
theorem keeps {good : Store → Prop} (history : History now first deeds second)
    (kept : ∀ {before after deed}, Transaction now before deed after → good before → good after)
    (holds : good first) : good second := by
  induction history with
  | nil => exact holds
  | cons step _ ih => exact ih (kept step holds)

end History

/-! ## Operations as histories -/

namespace World

/-- From one world to another the deeds were done and committed, and nothing else changed but the
outages and the files. -/
structure Moves (before : World) (deeds : List Deed) (after : World) : Prop where
  history : History before.now before.store deeds after.store
  settled : after.Settled
  now : after.now = before.now
  hasTables : after.hasTables = before.hasTables

namespace Moves

variable {before between after : World} {deeds more : List Deed}

theorem refl (settled : before.Settled) : before.Moves [] before :=
  ⟨.nil, settled, rfl, rfl⟩

theorem trans (first : before.Moves deeds between) (second : between.Moves more after) :
    before.Moves (deeds ++ more) after where
  history := first.history.append (first.now ▸ second.history)
  settled := second.settled
  now := second.now.trans first.now
  hasTables := second.hasTables.trans first.hasTables

/-- Outages and files do not count. -/
theorem quietly (moves : before.Moves deeds after) (outages : List Outage) (files : FileTree) :
    before.Moves deeds { after with outages, files } :=
  ⟨moves.history, moves.settled, moves.now, moves.hasTables⟩

/-- Where no deed was done the store is the same. -/
theorem store_eq (moves : before.Moves [] after) : after.store = before.store :=
  moves.history.eq_of_nil

end Moves

/-- Giving a transaction up leaves a world in which no deed was done. -/
theorem Uncommitted.moves_begin {before after : World} (uncommitted : before.Uncommitted after) :
    before.Moves [] after.begin where
  history := by
    have same : after.begin.store = before.store := uncommitted.store
    rw [same]
    exact .nil
  settled := settled_begin after
  now := uncommitted.now
  hasTables := uncommitted.hasTables

/-- Where nothing is pending but what is committed, no deed was done. -/
theorem Works.moves_nil {before after : World} (works : before.Works before.store after) :
    before.Moves [] after where
  history := by
    rw [works.store]
    exact .nil
  settled := works.pending.trans works.store.symm
  now := works.now
  hasTables := works.hasTables

/-- What a use case that is one transaction comes to: it does its deed and answers with a value,
or it did no deed. -/
def OneDeed {α : Type} (before : World) (deed : Deed) (result : Except Refusal α)
    (after : World) : Prop :=
  before.Moves [] after ∨ (∃ value, result = .ok value) ∧ before.Moves [deed] after

/-- From one world to another some of the deeds were done, in the order given. -/
def Attempts (before : World) (deeds : List Deed) (after : World) : Prop :=
  ∃ done : List Deed, done.Sublist deeds ∧ before.Moves done after

namespace Attempts

variable {before between after : World} {deeds more : List Deed}

theorem settled (attempts : before.Attempts deeds after) : after.Settled := by
  obtain ⟨_, -, moves⟩ := attempts
  exact moves.settled

theorem of_moves_nil (moves : before.Moves [] after) : before.Attempts deeds after :=
  ⟨[], deeds.nil_sublist, moves⟩

theorem of_oneDeed {α : Type} {deed : Deed} {result : Except Refusal α}
    (one : before.OneDeed deed result after) : before.Attempts [deed] after := by
  rcases one with moves | ⟨-, moves⟩
  · exact .of_moves_nil moves
  · exact ⟨[deed], .refl _, moves⟩

theorem mono (attempts : before.Attempts deeds after) (sublist : deeds.Sublist more) :
    before.Attempts more after := by
  obtain ⟨done, sublistDone, moves⟩ := attempts
  exact ⟨done, sublistDone.trans sublist, moves⟩

theorem trans (first : before.Attempts deeds between) (second : between.Attempts more after) :
    before.Attempts (deeds ++ more) after := by
  obtain ⟨done, sublist, moves⟩ := first
  obtain ⟨rest, sublistRest, movesRest⟩ := second
  exact ⟨done ++ rest, sublist.append sublistRest, moves.trans movesRest⟩

/-- Giving a further transaction up does nothing. -/
theorem giveUp (attempts : before.Attempts deeds between)
    (uncommitted : between.Uncommitted after) :
    before.Attempts deeds after.begin := by
  obtain ⟨done, sublist, moves⟩ := attempts
  exact ⟨done, sublist, by simpa using moves.trans uncommitted.moves_begin⟩

/-- Outages and files do not count. -/
theorem quietly (attempts : before.Attempts deeds after) (outages : List Outage)
    (files : FileTree) : before.Attempts deeds { after with outages, files } := by
  obtain ⟨done, sublist, moves⟩ := attempts
  exact ⟨done, sublist, moves.quietly outages files⟩

end Attempts
end World

namespace Tx

variable {world : World} {bad : Fault → World → Prop}

/-- A commit completes the deeds that are pending. -/
theorem ends_commit_of_history {origin : World} {pending : Store} {deeds : List Deed}
    {good : Unit → World → Prop} (works : origin.Works pending world)
    (done : History origin.now origin.store deeds pending)
    (passed : ∀ after, origin.Moves deeds after → good () after) :
    commit.Ends world good fun _ after => origin.Uncommitted after := by
  apply ends_commit
  · intro outages
    refine passed _ ⟨?_, rfl, works.now, works.hasTables⟩
    simpa only [works.pending] using done
  · intro message outages
    exact ⟨works.store, works.now, works.hasTables⟩

/-- The course of a use case that is one transaction: a fault gives up what is pending and is
turned into a refusal, after which no deed was done. -/
theorem ends_transaction {α : Type} {body : Tx (Except Refusal α)} {refusal : Fault → Refusal}
    {good : Except Refusal α → World → Prop}
    (ends : body.Ends world good fun _ after => world.Uncommitted after)
    (refused : ∀ fault after, world.Moves [] after → good (.error (refusal fault)) after) :
    (body.recover fun fault => do
      rollback
      return .error (refusal fault)).Ends world good bad :=
  ends_recover (ends.mono (fun _ _ holds => holds) fun fault _ uncommitted =>
    ends_bind (ends_rollback (ends_pure (refused fault _ uncommitted.moves_begin))))

end Tx
end Tuition
