/-
# Sound accounts

The accounts of an organisation are its invoices and its payments. They are sound if both tables
keep their rules, every state follows the payments, and a payment is on no invoice but one of its
own student that is past being a draft. Every run keeps accounts sound, and they are where there
are no invoices and no payments. In sound accounts it is decided of every invoice that is owed
whether the payments on it cover its total.
-/

import Tuition.Proofs.Charges
import Tuition.Proofs.SoundReferences
import Tuition.Proofs.UnsignedAmounts

namespace Tuition

open Store (OwesNothing)

/-- The rules of tables are kept, states follow the payments, and payments are on invoices
of their own students. -/
structure Store.SoundAccounts (store : Store) : Prop where
  invoices : Table.WellKept store.invoices
  payments : Table.WellKept store.payments
  reconciled : store.Reconciled
  owners : store.PaymentsOwned

variable {now : Moment} {store before after : Store} {invoice : Invoice} {deed : Deed}

theorem Store.soundAccounts_of_empty (noInvoices : store.invoices = [])
    (noPayments : store.payments = []) : store.SoundAccounts where
  invoices := noInvoices ▸ .nil
  payments := noPayments ▸ .nil
  reconciled := reconciled_of_empty noInvoices noPayments
  owners := .of_empty noPayments

/-! ## Every step keeps them sound -/

/-- A transaction keeps the rules that bind payments. -/
theorem Transaction.wellKept_payments (step : Transaction now before deed after)
    (kept : Table.WellKept before.payments) : Table.WellKept after.payments := by
  cases step with
  | cashRecorded unlinked written => exact kept.insert written
  | paymentRecorded found payable linked owner written settles =>
      rw [settles.only_invoices]
      exact kept.insert written
  | looseDeleted found loose => exact kept.erase _
  | paymentDeleted found linked settles =>
      rw [settles.only_invoices]
      exact kept.erase _
  | _ => exact kept

theorem Transaction.soundAccounts (step : Transaction now before deed after)
    (sound : before.SoundAccounts) : after.SoundAccounts where
  invoices := step.wellKept sound.invoices
  payments := step.wellKept_payments sound.payments
  reconciled := step.reconciled sound.reconciled
  owners := step.paymentsOwned sound.invoices.ordered sound.owners

/-- Nothing in a run takes sound accounts away. -/
theorem Store.invariant_soundAccounts : Store.Invariant Store.SoundAccounts where
  transaction step sound := step.soundAccounts sound
  prefixed _ sound :=
    ⟨sound.invoices, sound.payments, sound.reconciled.of_same rfl rfl, sound.owners⟩
  canceled id sound :=
    { invoices := wellKept_cancel sound.invoices id
      payments := sound.payments
      reconciled := sound.reconciled.cancel id
      owners := sound.owners.cancel id }

/-- From records without invoices and payments every run leaves the accounts sound. -/
theorem World.soundAccounts_run (world : World) (noInvoices : world.store.invoices = [])
    (noPayments : world.store.payments = []) (events : List Event) :
    (world.run events).store.SoundAccounts :=
  Store.invariant_soundAccounts.run (Store.soundAccounts_of_empty noInvoices noPayments) events

/-! ## Exact sums -/

namespace Decimal

theorem isNumber_of_quantize {amount rounded : Decimal} (number : amount.IsNumber)
    (rounds : amount.quantize = .ok rounded) : rounded.IsNumber := by
  cases amount with
  | infinite => cases rounds
  | nan => exact number.elim
  | finite negative coefficient exponent =>
      simp only [quantize] at rounds
      split at rounds
      · cases rounds
        trivial
      split at rounds
      · cases rounds
      split at rounds
      · cases rounds
      · cases rounds
        trivial

/-- What rounding leaves of a number of cents is that number. -/
theorem isCents_of_quantize_ofCents {cents : Int} {rounded : Decimal}
    (rounds : (ofCents cents).quantize = .ok rounded) : rounded.IsCents cents := by
  have places : (ofCents cents).TwoPlaces := rfl
  have given : (ofCents cents).IsNumber := trivial
  have number := isNumber_of_quantize given rounds
  have own : Amount.centsOf (ofCents cents) = cents := signed_ofInt cents
  exact own ▸ places.isCents_of_quantize rounds number

/-- More cents cover what fewer cents cover. -/
theorem IsCents.covers_mono {paid more total : Decimal} {m n : Int} (one : paid.IsCents m)
    (other : more.IsCents n) (le : m ≤ n) (places : total.TwoPlaces)
    (covered : Payments.covers paid total = .ok true) :
    Payments.covers more total = .ok true := by
  cases total with
  | finite negative coefficient exponent =>
      obtain rfl : exponent = -2 := places
      have cents :
          (Decimal.finite negative coefficient (-2)).IsCents (signed negative coefficient) :=
        ⟨_, _, rfl, rfl⟩
      rw [one.covers_eq cents] at covered
      rw [other.covers_eq cents]
      have least := of_decide_eq_true (Except.ok.inj covered)
      exact congrArg _ (decide_eq_true (least.trans le))
  | infinite negative =>
      obtain ⟨_, _, rfl, -⟩ := one
      obtain ⟨_, _, rfl, -⟩ := other
      cases negative with
      | true => rfl
      | false => cases covered
  | nan =>
      obtain ⟨_, _, rfl, -⟩ := one
      cases covered

end Decimal

/-- Where sums are exact, what is paid on an invoice has the cents of the payments on it. -/
theorem Store.isCents_of_paidOn (exact : Amount.SumsExact (store.payments.map Payment.amount))
    {id : Int} {paid : Decimal} (sum : store.paidOn id = .ok paid) :
    paid.IsCents (Payment.centsOn store.payments id) := by
  rw [paidOn_eq exact] at sum
  exact Decimal.isCents_of_quantize_ofCents (mapError_eq_ok_iff.mp sum)

/-! ## Whether invoices are covered -/

namespace Store

/-- It is decided whether the payments on an invoice cover its total. -/
def CoveredIs (store : Store) (invoice : Invoice) (covered : Bool) : Prop :=
  ∃ paid, store.paidOn invoice.id = .ok paid ∧
    Payments.covers paid (Row.shown invoice).total = .ok covered

theorem CoveredIs.unique {one other : Bool} (decided : store.CoveredIs invoice one)
    (decidedOther : store.CoveredIs invoice other) : one = other := by
  obtain ⟨paid, sum, same⟩ := decided
  obtain ⟨paidOther, sumOther, sameOther⟩ := decidedOther
  cases sum.symm.trans sumOther
  exact Except.ok.inj (same.symm.trans sameOther)

/-- An invoice on which nothing is owed is covered, whatever is paid on it. -/
theorem CoveredIs.of_owesNothing {covered : Bool} (decided : store.CoveredIs invoice covered)
    (kept : Table.WellKept store.payments) (owes : OwesNothing invoice) : covered = true := by
  obtain ⟨paid, sum, same⟩ := decided
  have free := (unsigned_paidOn kept sum).covers owes
  exact Except.ok.inj (same.symm.trans free)

/-- An issued invoice is not covered, unless nothing is owed on it and it is unpaid. -/
theorem SoundAccounts.coveredIs_of_issued (sound : store.SoundAccounts)
    (mem : invoice ∈ store.invoices) (issued : invoice.status = .issued) :
    store.CoveredIs invoice false ∨
      (OwesNothing invoice ∧ store.Unpaid invoice) ∧ store.CoveredIs invoice true := by
  have inLine := sound.reconciled.inLine invoice mem
  simp only [InLine, issued] at inLine
  rcases inLine.2 with uncovered | ⟨owes, unpaid⟩
  · exact .inl uncovered
  · exact .inr ⟨⟨owes, unpaid⟩, _, paidOn_of_no_payment unpaid, owes⟩

/-- A paid invoice is covered. -/
theorem SoundAccounts.coveredIs_of_paid (sound : store.SoundAccounts)
    (mem : invoice ∈ store.invoices) (paid : invoice.status = .paid) :
    store.CoveredIs invoice true := by
  have inLine := sound.reconciled.inLine invoice mem
  simp only [InLine, paid] at inLine
  exact inLine.2

theorem SoundAccounts.exists_coveredIs (sound : store.SoundAccounts)
    (mem : invoice ∈ store.invoices) (payable : invoice.status.payable = true) :
    ∃ covered, store.CoveredIs invoice covered := by
  cases status : invoice.status with
  | issued =>
      rcases sound.coveredIs_of_issued mem status with uncovered | ⟨-, covered⟩
      · exact ⟨_, uncovered⟩
      · exact ⟨_, covered⟩
  | paid => exact ⟨_, sound.coveredIs_of_paid mem status⟩
  | draft => simp [status, InvoiceStatus.payable] at payable
  | canceled => simp [status, InvoiceStatus.payable] at payable

end Store
end Tuition
