/-
# Use cases that leave the files

Only rendering writes files. Everything else goes on with the files as they are, wherever it ends:
drafting and deleting drafts, issuing a single invoice, adding overrides, and recording and
deleting payments. That is read off their texts, access by access.
-/

import Tuition.Proofs.Checks

namespace Tuition

open Tx

/-! ## Accesses that write -/

theorem Tx.Continuing.access {α : Type} {kind : Call} {table : String} {numbers : List Int}
    {rest : Tx α} (continuing : rest.Continuing) :
    (do
      call kind
      requireTable table numbers
      rest).Continuing :=
  (does_call kind).continuing.bind fun _ =>
    (does_requireTable table numbers).continuing.bind fun _ => continuing

theorem Tx.continuing_throw {α : Type} (fault : Fault) : (throw fault : Tx α).Continuing :=
  (does_throw fault).continuing

theorem Tx.continuing_arithmetic {α : Type} (result : Except Decimal.Fault α) :
    (arithmetic result).Continuing :=
  (does_lift _).continuing

/-- An operation on a record that may be missing goes on if it does so on the record. -/
theorem Tx.Continuing.mapM_option {α β : Type} {action : α → Tx β} (found : Option α)
    (continuing : ∀ value, (action value).Continuing) : (found.mapM action).Continuing := by
  cases found with
  | none => exact continuing_pure _
  | some value => exact (continuing value).bind fun _ => continuing_pure _

/-- Writing a row: the rows are looked at, what is to be written is worked
out and put in place. -/
theorem Tx.continuing_write {α β γ : Type} {view : Store → α} {write : α → Except Fault β}
    {edit : β → Store → Store} {answer : β → γ} :
    (do
      let written ← lift (write (← look view))
      change (edit written)
      return answer written).Continuing :=
  (does_look view).continuing.bind fun _ => (does_lift _).continuing.bind fun _ =>
    (does_change _).continuing.bind fun _ => continuing_pure _

namespace Payments

theorem continuing_addPayment (payment : Payment) : (Access.addPayment payment).Continuing :=
  continuing_write.access

theorem continuing_removePayment (id : Int) : (Access.removePayment id).Continuing :=
  (does_call _).continuing.bind fun _ => (does_change _).continuing

theorem continuing_sumPaidOnInvoice (invoiceId : Int) :
    (Access.sumPaidOnInvoice invoiceId).Continuing := by
  apply Continuing.access
  apply (does_look _).continuing.bind
  intro paid
  exact (does_lift _).continuing.bind fun _ => continuing_arithmetic _

/-! ## Payments -/

theorem continuing_settle (invoice : Invoice) : (settle invoice).Continuing := by
  have saves (later : Invoice) : (do
      Access.saveInvoice later
      return later : Tx Invoice).Continuing :=
    (Billing.does_saveInvoice later).continuing.bind fun _ => continuing_pure _
  unfold settle
  split
  · exact continuing_pure _
  apply (continuing_sumPaidOnInvoice invoice.id).bind
  intro paid
  apply (continuing_arithmetic _).bind
  intro covered
  split
  · split
    · exact continuing_pure _
    · exact continuing_now.bind fun _ => saves _
  · split
    · exact continuing_pure _
    · exact saves _

theorem continuing_invoiceToSettle (command : PaymentCommand) (student : Student) :
    (invoiceToSettle command student).Continuing := by
  unfold invoiceToSettle
  cases command.invoiceId with
  | none => exact continuing_pure _
  | some id =>
      apply (Does.continuing reads_access).bind
      rintro (_ | invoice)
      · exact continuing_pure _
      dsimp only
      split
      · exact continuing_pure _
      split
      · exact continuing_pure _
      · exact continuing_pure _

theorem continuing_writePayment (command : PaymentCommand) (student : Student)
    (invoice : Option Invoice) : (writePayment command student invoice).Continuing := by
  apply (continuing_arithmetic _).bind
  intro amount
  apply (continuing_addPayment _).bind
  intro payment
  apply (Continuing.mapM_option invoice continuing_settle).bind
  intro settled
  exact does_commit.continuing.bind fun _ => continuing_pure _

theorem continuing_recordPayment (command : PaymentCommand) :
    (recordPayment command).Continuing := by
  apply Continuing.recover
  · apply (Does.continuing reads_access).bind
    rintro (_ | student)
    · exact continuing_rollback.bind fun _ => continuing_pure _
    apply (continuing_invoiceToSettle command student).bind
    rintro (refusal | invoice)
    · exact continuing_rollback.bind fun _ => continuing_pure _
    · exact (continuing_writePayment _ _ _).bind fun _ => continuing_pure _
  · intro fault
    exact continuing_rollback.bind fun _ => continuing_pure _

theorem continuing_quickCash (studentId amount note : Entry) :
    (quickCash studentId amount note).Continuing := by
  apply continuing_now.bind
  intro now
  dsimp only
  split
  · exact continuing_throw _
  · exact continuing_pure _
  · exact continuing_recordPayment _

theorem continuing_deletePayment (id : Int) : (deletePayment id).Continuing := by
  have deletes (payment : Payment) (invoice : Option Invoice) : (do
      Access.removePayment payment.id
      let _ ← invoice.mapM settle
      commit
      return .ok () : Tx (Except Refusal Unit)).Continuing :=
    (continuing_removePayment _).bind fun _ =>
      (Continuing.mapM_option invoice continuing_settle).bind fun _ =>
        does_commit.continuing.bind fun _ => continuing_pure _
  apply Continuing.recover
  · apply (Does.continuing reads_access).bind
    rintro (_ | payment)
    · exact continuing_rollback.bind fun _ => continuing_pure _
    dsimp only
    cases payment.invoiceId with
    | none => exact (continuing_pure _).bind fun invoice => deletes payment invoice
    | some invoiceId =>
        exact (Does.continuing reads_access).bind fun invoice => deletes payment invoice
  · intro fault
    exact continuing_rollback.bind fun _ => continuing_pure _

end Payments

namespace Billing

/-! ## Drafts and overrides -/

theorem continuing_deleteDraft (id : Int) : (deleteDraft id).Continuing := by
  apply Continuing.recover
  · apply (Does.continuing reads_access).bind
    rintro (_ | invoice)
    · exact continuing_rollback.bind fun _ => continuing_pure _
    dsimp only
    split
    · exact continuing_rollback.bind fun _ => continuing_pure _
    apply (does_removeLines _).continuing.bind
    intro lines
    have removes : (Access.removeInvoice invoice.id).Continuing :=
      (does_call _).continuing.bind fun _ => (does_change _).continuing
    apply removes.bind
    intro removed
    exact does_commit.continuing.bind fun _ => continuing_pure _
  · intro fault
    exact continuing_rollback.bind fun _ => continuing_pure _

theorem continuing_writeOverride (command : OverrideCommand) :
    (writeOverride command).Continuing := by
  apply (continuing_arithmetic _).bind
  intro lessonPrice
  apply (continuing_arithmetic _).bind
  intro subscriptionPrice
  have adds (override : PriceOverride) : (Access.addOverride override).Continuing :=
    continuing_write.access
  apply (adds _).bind
  intro created
  exact does_commit.continuing.bind fun _ => continuing_pure _

theorem continuing_addOverride (command : OverrideCommand) :
    (addOverride command).Continuing := by
  apply Continuing.recover
  · apply (Does.continuing reads_access).bind
    rintro (_ | enrollment)
    · exact continuing_pure _
    apply (Does.continuing reads_access).bind
    intro existing
    split
    · exact continuing_pure _
    · exact (continuing_writeOverride command).bind fun _ => continuing_pure _
  · intro fault
    exact continuing_rollback.bind fun _ => continuing_pure _

end Billing
end Tuition
