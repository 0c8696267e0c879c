/-
# Accesses inside a transaction

A transaction that began in one world works on a pending store, which is not committed yet. Every
access to the records is a call, so an outage may strike it before it does anything. An access
that reads ends with what it looks up in the pending store; one that writes ends with the pending
store written; and wherever an access fails, nothing is committed.
-/

import Tuition.Proofs.Operations
import Tuition.Proofs.Tables
import Tuition.Store.Access

namespace Tuition

namespace World

/-- Nothing was committed from one world to another, whatever is pending. -/
structure Uncommitted (before after : World) : Prop where
  store : after.store = before.store
  now : after.now = before.now
  hasTables : after.hasTables = before.hasTables

/-- A transaction that began in a world has come to a world where it has a store pending. -/
structure Works (origin : World) (pending : Store) (world : World) : Prop
    extends Uncommitted origin world where
  pending : world.pending = pending

/-- A transaction begins with the store as it is. -/
theorem Settled.works {world : World} (settled : world.Settled) :
    world.Works world.store world where
  store := rfl
  now := rfl
  hasTables := rfl
  pending := settled

end World

/-- The sum of the payments on an invoice, as far as it has one. -/
def Store.paidOn (store : Store) (invoiceId : Int) : Except Fault Decimal := do
  let sum ←
    Amount.sum ((store.payments.filter (·.invoiceId == some invoiceId)).map Payment.amount)
  (Money.round sum).mapError .arithmetic

/-- The line of an invoice that a drafted line makes, before it has a key. -/
def InvoiceLine.ofDraft (invoiceId : Int) (line : DraftLine) : InvoiceLine :=
  { line with id := 0, invoiceId }

/-- A decimal comes neither before nor after itself. -/
theorem Decimal.order_self (amount : Decimal) : amount.order amount = .eq := by
  have magnitudes (coefficient : Nat) (exponent : Int) :
      compareMagnitudes coefficient exponent coefficient exponent = .eq := by
    simp [compareMagnitudes]
  cases amount with
  | finite negative coefficient exponent =>
      cases negative <;> by_cases zero : coefficient = 0 <;>
        simp [order, compare, compareFinite, zero, magnitudes]
  | infinite negative => cases negative <;> rfl
  | nan => rfl

namespace Access

open Tx

variable {origin world : World} {pending : Store}

section Reading

variable {α : Type} {good : α → World → Prop}

theorem ends_call {kind : Call} {good : Unit → World → Prop} (works : origin.Works pending world)
    (passed : ∀ after, origin.Works pending after → good () after) :
    (call kind).Ends world good fun _ after => origin.Uncommitted after := by
  apply Tx.ends_call
  · intro outages
    exact passed _ ⟨⟨works.store, works.now, works.hasTables⟩, works.pending⟩
  · intro message outages
    exact ⟨works.store, works.now, works.hasTables⟩

/-- The common course of accesses: a call and the demands on a table come first, and leave what is
pending as it is. -/
theorem ends_access {kind : Call} {table : String} {numbers : List Int} {rest : Tx α}
    (works : origin.Works pending world)
    (reached : ∀ after, origin.Works pending after →
      rest.Ends after good fun _ later => origin.Uncommitted later) :
    (do
      call kind
      requireTable table numbers
      rest).Ends world good fun _ after => origin.Uncommitted after := by
  refine ends_bind (ends_call works fun after works => ?_)
  exact ends_bind (ends_requireTable (reached after works) fun _ => works.toUncommitted)

/-- An access that writes looks at a part of the pending store and calculates what is to become of
it, which may be refused. -/
theorem ends_look_lift {β γ : Type} {view : Store → β} {write : β → Except Fault γ}
    {rest : β → γ → Tx α} (works : origin.Works pending world)
    (written : ∀ value, write (view pending) = .ok value →
      (rest (view pending) value).Ends world good fun _ after => origin.Uncommitted after) :
    (do
      let seen ← look view
      let value ← lift (write seen)
      rest seen value).Ends world good fun _ after => origin.Uncommitted after := by
  apply ends_bind
  apply ends_look
  rw [works.pending]
  exact ends_bind (ends_lift written fun _ _ => works.toUncommitted)

/-- Changing the pending store is all that is left of an access that writes. -/
theorem ends_change {edit : Store → Store} {good : Unit → World → Prop}
    (works : origin.Works pending world)
    (changed : ∀ after, origin.Works (edit pending) after → good () after) :
    (change edit).Ends world good fun _ after => origin.Uncommitted after :=
  Tx.ends_change (changed _
    ⟨⟨works.store, works.now, works.hasTables⟩, congrArg edit works.pending⟩)

/-- Reading ends with what is looked up in the pending store. -/
theorem ends_read {kind : Call} {table : String} {numbers : List Int} {view : Store → α}
    (works : origin.Works pending world)
    (read : ∀ after, origin.Works pending after → good (view pending) after) :
    (do
      call kind
      requireTable table numbers
      look view).Ends world good fun _ after => origin.Uncommitted after := by
  obtain ⟨uncommitted, rfl⟩ := works
  apply ends_reading
  · intro outages
    exact read _ ⟨⟨uncommitted.store, uncommitted.now, uncommitted.hasTables⟩, rfl⟩
  · intro fault outages
    exact ⟨uncommitted.store, uncommitted.now, uncommitted.hasTables⟩

/-- What only reads and calculates leaves what is pending as it is. -/
theorem ends_quiet {action : Tx α} (quiet : action.Quiet) (works : origin.Works pending world)
    (passed : ∀ value after, origin.Works pending after → good value after) :
    action.Ends world good fun _ after => origin.Uncommitted after := by
  apply Tx.ends_quiet quiet
  · intro value outages files
    exact passed value _ ⟨⟨works.store, works.now, works.hasTables⟩, works.pending⟩
  · intro fault outages files
    exact ⟨works.store, works.now, works.hasTables⟩

theorem quiet_read {kind : Call} {table : String} {numbers : List Int} {view : Store → α} :
    (do
      call kind
      requireTable table numbers
      look view : Tx α).Quiet :=
  (quiet_call kind).bind fun _ => (quiet_requireTable table numbers).bind fun _ => quiet_look view

end Reading

theorem ends_sumPaidOnInvoice {invoiceId : Int} {good : Decimal → World → Prop}
    (works : origin.Works pending world)
    (summed : ∀ paid after, origin.Works pending after → pending.paidOn invoiceId = .ok paid →
      good paid after) :
    (sumPaidOnInvoice invoiceId).Ends world good fun _ after => origin.Uncommitted after := by
  refine ends_access works fun after works => ?_
  refine ends_look_lift works ?_
  intro sum added
  refine ends_arithmetic ?_ fun _ _ => works.toUncommitted
  intro paid rounded
  apply summed paid after works
  simp only [Store.paidOn, added, bind, Except.bind, rounded, Except.mapError]

/-! ## Writing -/

/-- Adding a row writes it into its table and shows it as it is kept. -/
theorem ends_insert {α : Type} [Row α] {kind : Call} {table : String} {row : α}
    {good : α → World → Prop} (rows : Store → List α) (write : List α → Store → Store)
    (works : origin.Works pending world)
    (added : ∀ kept written after, Table.insert (rows pending) row = .ok (kept, written) →
      origin.Works (write written pending) after → good (Row.shown kept) after) :
    (do
      call kind
      requireTable table []
      let (kept, written) ← lift (Table.insert (← look rows) row)
      change (write written)
      return Row.shown kept).Ends world good fun _ after => origin.Uncommitted after := by
  refine ends_access works fun after works => ?_
  refine ends_look_lift works ?_
  rintro ⟨kept, written⟩ inserted
  refine ends_bind (ends_change works fun after works => ?_)
  exact ends_pure (added kept written after inserted works)

theorem ends_addOverride {override : PriceOverride} {good : PriceOverride → World → Prop}
    (works : origin.Works pending world)
    (added : ∀ kept overrides after,
      Table.insert pending.overrides override = .ok (kept, overrides) →
      origin.Works { pending with overrides } after → good (Row.shown kept) after) :
    (addOverride override).Ends world good fun _ after => origin.Uncommitted after :=
  ends_insert (·.overrides) (fun overrides store => { store with overrides }) works added

theorem ends_addInvoice {invoice : Invoice} {good : Invoice → World → Prop}
    (works : origin.Works pending world)
    (added : ∀ kept invoices after, Table.insert pending.invoices invoice = .ok (kept, invoices) →
      origin.Works { pending with invoices } after → good (Row.shown kept) after) :
    (addInvoice invoice).Ends world good fun _ after => origin.Uncommitted after :=
  ends_insert (·.invoices) (fun invoices store => { store with invoices }) works added

theorem ends_addPayment {payment : Payment} {good : Payment → World → Prop}
    (works : origin.Works pending world)
    (added : ∀ kept payments after, Table.insert pending.payments payment = .ok (kept, payments) →
      origin.Works { pending with payments } after → good (Row.shown kept) after) :
    (addPayment payment).Ends world good fun _ after => origin.Uncommitted after :=
  ends_insert (·.payments) (fun payments store => { store with payments }) works added

theorem ends_addLines {invoiceId : Int} {drafts : List DraftLine} {good : Unit → World → Prop}
    (works : origin.Works pending world)
    (added : ∀ lines after,
      Table.insertAll pending.lines (drafts.map (.ofDraft invoiceId)) = .ok lines →
      origin.Works { pending with lines } after → good () after) :
    (addLines invoiceId drafts).Ends world good fun _ after => origin.Uncommitted after := by
  refine ends_access works fun after works => ?_
  refine ends_look_lift works ?_
  intro lines inserted
  exact ends_change works fun after works => added lines after inserted works

theorem ends_removeLines {invoiceId : Int} {good : Unit → World → Prop}
    (works : origin.Works pending world)
    (removed : ∀ after,
      origin.Works
          { pending with lines := pending.lines.filter (·.invoiceId != invoiceId) } after →
        good () after) :
    (removeLines invoiceId).Ends world good fun _ after => origin.Uncommitted after :=
  ends_access works fun _ works => ends_change works removed

/-- Saving an invoice writes it over the one with its key, with the total that is to be kept. -/
theorem ends_saveInvoice {invoice : Invoice} {good : Unit → World → Prop}
    (works : origin.Works pending world)
    (saved : ∀ total invoices after, totalToKeep pending.invoices invoice = .ok total →
      Table.replace pending.invoices { invoice with total } = .ok invoices →
      origin.Works { pending with invoices } after → good () after) :
    (saveInvoice invoice).Ends world good fun _ after => origin.Uncommitted after := by
  refine ends_access works fun after works => ?_
  refine ends_look_lift works ?_
  intro total keeps
  refine ends_bind (ends_lift ?_ fun _ _ => works.toUncommitted)
  intro invoices replaced
  exact ends_change works fun after works => saved total invoices after keeps replaced works

/-- An invoice that is saved with the total that it shows keeps its total as it was. -/
theorem ends_saveInvoice_of_sameTotal {invoice edited : Invoice} {good : Unit → World → Prop}
    (works : origin.Works pending world)
    (found : Table.find? pending.invoices edited.id = some invoice)
    (sameTotal : edited.total = (Row.shown invoice).total)
    (saved : ∀ invoices after,
      Table.replace pending.invoices { edited with total := invoice.total } = .ok invoices →
      origin.Works { pending with invoices } after → good () after) :
    (saveInvoice edited).Ends world good fun _ after => origin.Uncommitted after := by
  have keeps : totalToKeep pending.invoices edited = .ok invoice.total := by
    simp only [totalToKeep, found, sameTotal, Decimal.order_self, beq_self_eq_true, if_true]
  apply ends_saveInvoice works
  intro total invoices after kept replaced works
  cases keeps.symm.trans kept
  exact saved invoices after replaced works

theorem ends_removeInvoice {id : Int} {good : Unit → World → Prop}
    (works : origin.Works pending world)
    (removed : ∀ after,
      origin.Works { pending with invoices := Table.erase pending.invoices id } after →
      good () after) :
    (removeInvoice id).Ends world good fun _ after => origin.Uncommitted after :=
  ends_bind (ends_call works fun _ works => ends_change works removed)

theorem ends_removePayment {id : Int} {good : Unit → World → Prop}
    (works : origin.Works pending world)
    (removed : ∀ after,
      origin.Works { pending with payments := Table.erase pending.payments id } after →
      good () after) :
    (removePayment id).Ends world good fun _ after => origin.Uncommitted after :=
  ends_bind (ends_call works fun _ works => ends_change works removed)

theorem ends_saveSettings {settings : Settings} {good : Unit → World → Prop}
    (works : origin.Works pending world)
    (saved : ∀ kept after, Store.admitSettings settings = .ok kept →
      origin.Works { pending with settings := some kept } after → good () after) :
    (saveSettings settings).Ends world good fun _ after => origin.Uncommitted after := by
  refine ends_access works fun after works => ?_
  refine ends_bind (ends_lift ?_ fun _ _ => works.toUncommitted)
  intro kept admitted
  exact ends_change works fun after works => saved kept after admitted works

/-- The settings are there afterwards: those that were, or the defaults. -/
theorem ends_ensureSettings {good : Settings → World → Prop} (works : origin.Works pending world)
    (found : ∀ settings after, pending.settings = some settings →
      origin.Works pending after → good settings after)
    (made : ∀ after, pending.settings = none →
      origin.Works { pending with settings := some {} } after → good {} after) :
    ensureSettings.Ends world good fun _ after => origin.Uncommitted after := by
  refine ends_bind (ends_call works fun after works => ?_)
  refine ends_bind (ends_read works fun after works => ?_)
  cases there : pending.settings with
  | none =>
      refine ends_bind (ends_change works fun after works => ?_)
      exact ends_pure (made after there works)
  | some settings => exact ends_pure (found settings after there works)

end Access
end Tuition
