/-
# How recording ends

A payment is recorded or deleted in one transaction, together with what follows for the invoice
that it is on, and so is a price override. No fault gets out of these but one: cash at the desk
may name an amount that is too large to be checked.
-/

import Tuition.Billing.Overriding
import Tuition.Payments.QuickCash
import Tuition.Proofs.Transactions

namespace Tuition

open Tx

variable {world : World}

namespace Payments

/-- Settling an invoice that was looked up leaves pending what its payments make of it. -/
theorem ends_settle {origin : World} {pending : Store}
    {good : Invoice → World → Prop} {invoice : Invoice} (works : origin.Works pending world)
    (found : Table.find? pending.invoices invoice.id = some invoice)
    (settled : ∀ result store after, Settles origin.now pending invoice store →
      origin.Works store after → good result after) :
    (settle (Row.shown invoice)).Ends world good fun _ after => origin.Uncommitted after := by
  have status : (Row.shown invoice).status = invoice.status := rfl
  unfold settle
  rw [status]
  cases payable : invoice.status.payable with
  | false => exact ends_pure (settled _ _ _ (.notOwed payable) works)
  | true =>
      simp only [Bool.not_true, Bool.false_eq_true, if_false]
      apply ends_bind
      apply Access.ends_sumPaidOnInvoice works
      intro paid between works sum
      apply ends_bind
      apply ends_arithmetic _ fun _ _ => works.toUncommitted
      have issued (notPaid : invoice.status ≠ .paid) : invoice.status = .issued := by
        cases state : invoice.status with
        | issued => rfl
        | paid => exact absurd state notPaid
        | draft => simp [state, InvoiceStatus.payable] at payable
        | canceled => simp [state, InvoiceStatus.payable] at payable
      rintro (_ | _) compared
      · simp only [Bool.false_eq_true, if_false]
        by_cases paid : invoice.status = .paid
        · rw [if_neg (not_not_intro paid)]
          apply ends_bind
          refine Access.ends_saveInvoice_of_sameTotal works found rfl ?_
          intro invoices after written works
          exact ends_pure (settled _ _ _ (.reopened paid sum compared written) works)
        · rw [if_pos paid]
          exact ends_pure (settled _ _ _ (.stillIssued (issued paid) sum compared) works)
      · simp only [if_true]
        by_cases paid : invoice.status = .paid
        · rw [if_pos paid]
          exact ends_pure (settled _ _ _ (.stillPaid paid sum compared) works)
        · rw [if_neg paid]
          apply ends_bind
          apply ends_now
          apply ends_bind
          rw [works.now]
          refine Access.ends_saveInvoice_of_sameTotal works found rfl ?_
          intro invoices after written works
          exact ends_pure (settled _ _ _ (.becamePaid (issued paid) sum compared written) works)

/-- The invoice that a payment settles is one of its student that is owed. -/
theorem ends_invoiceToSettle {origin : World} {pending : Store}
    {good : Except Refusal (Option Invoice) → World → Prop} (works : origin.Works pending world)
    (command : PaymentCommand) (student : Student)
    (loose : ∀ after, command.invoiceId = none → origin.Works pending after →
      good (.ok none) after)
    (found : ∀ id invoice after, command.invoiceId = some id →
      Table.find? pending.invoices id = some invoice → invoice.studentId = student.id →
      invoice.status.payable = true → origin.Works pending after →
      good (.ok (some (Row.shown invoice))) after)
    (refused : ∀ refusal after, origin.Works pending after → good (.error refusal) after) :
    (invoiceToSettle command student).Ends world good fun _ after =>
      origin.Uncommitted after := by
  unfold invoiceToSettle
  cases linked : command.invoiceId with
  | none => exact ends_pure (loose world linked works)
  | some id =>
      apply ends_bind
      apply Access.ends_read works
      intro between works
      cases there : Table.find? pending.invoices id with
      | none => exact ends_pure (refused _ between works)
      | some invoice =>
          have owner : (Row.shown invoice).studentId = invoice.studentId := rfl
          have status : (Row.shown invoice).status = invoice.status := rfl
          simp only [Option.map_some, owner, status]
          by_cases same : invoice.studentId = student.id
          · rw [if_neg (not_not_intro same)]
            cases payable : invoice.status.payable with
            | false => exact ends_pure (refused _ between works)
            | true => exact ends_pure (found id invoice between linked there same payable works)
          · rw [if_pos same]
            exact ends_pure (refused _ between works)

/-! ## Recording -/

/-- The payment that a command asks for, its amount being rounded; it has no key yet. -/
def PaymentCommand.asked (command : PaymentCommand) (amount : Decimal) : Payment :=
  ⟨0, command.studentId, command.invoiceId, command.paidAt.moment, amount, command.method,
    command.note⟩

/-- How recording a payment changes the store: it is written under a new key, and the invoice that
it names, which is one of its student that is owed, is settled. -/
inductive Records (now : Moment) (before : Store) (command : PaymentCommand) (kept : Payment) :
    Store → Prop
  | loose {amount : Decimal} {payments : List Payment} (unlinked : command.invoiceId = none)
      (rounded : Money.round command.amount = .ok amount)
      (written : Table.insert before.payments (command.asked amount) = .ok (kept, payments)) :
      Records now before command kept { before with payments }
  | linked {amount : Decimal} {payments : List Payment} {id : Int} {invoice : Invoice}
      {after : Store} (link : command.invoiceId = some id)
      (found : Table.find? before.invoices id = some invoice)
      (owner : invoice.studentId = command.studentId) (payable : invoice.status.payable = true)
      (rounded : Money.round command.amount = .ok amount)
      (written : Table.insert before.payments (command.asked amount) = .ok (kept, payments))
      (settles : Settles now { before with payments } invoice after) :
      Records now before command kept after

/-- Recording a payment is one transaction. -/
theorem Records.transaction {now : Moment} {before after : Store} {command : PaymentCommand}
    {kept : Payment} (records : Records now before command kept after) :
    Transaction now before (.paymentRecorded command.invoiceId) after := by
  cases records with
  | loose unlinked rounded written =>
      rw [unlinked]
      exact .cashRecorded unlinked written
  | linked link found owner payable rounded written settles =>
      rw [link]
      exact .paymentRecorded found payable link owner.symm written settles

/-- A payment was recorded and committed. -/
structure Recorded (before : World) (command : PaymentCommand) (kept : Payment) (after : World) :
    Prop where
  records : Records before.now before.store command kept after.store
  moves : before.Moves [.paymentRecorded command.invoiceId] after

/-- A payment was recorded, which the receipt shows, or it was refused and nothing was done. -/
def RecordedOrRefused (before : World) (command : PaymentCommand) :
    Except Refusal Receipt → World → Prop
  | .error _, after => before.Moves [] after
  | .ok receipt, after =>
    ∃ kept, receipt.payment = Row.shown kept ∧ Recorded before command kept after

/-- A payment that is pending is committed. -/
theorem ends_commit_of_records {origin : World} {pending : Store} {command : PaymentCommand}
    {kept : Payment} {good : Unit → World → Prop} (works : origin.Works pending world)
    (records : Records origin.now origin.store command kept pending)
    (committed : ∀ after, Recorded origin command kept after → good () after) :
    commit.Ends world good fun _ after => origin.Uncommitted after := by
  apply ends_commit
  · intro outages
    have written : Records origin.now origin.store command kept world.pending :=
      works.pending.symm ▸ records
    exact committed _ ⟨written, .single written.transaction, rfl, works.now, works.hasTables⟩
  · intro message outages
    exact ⟨works.store, works.now, works.hasTables⟩

theorem asked_eq {command : PaymentCommand} {student : Student} {invoice : Option Invoice}
    (named : student.id = command.studentId) (link : invoice.map Invoice.id = command.invoiceId)
    (amount : Decimal) :
    (⟨0, student.id, invoice.map Invoice.id, command.paidAt.moment, amount, command.method,
      command.note⟩ : Payment) = command.asked amount := by
  rw [named, link]
  rfl

theorem ends_writePayment_none {origin : World} (works : origin.Works origin.store world)
    {command : PaymentCommand} {student : Student} (named : student.id = command.studentId)
    (unlinked : command.invoiceId = none) :
    (writePayment command student none).Ends world
      (fun receipt after => RecordedOrRefused origin command (.ok receipt) after)
      fun _ after => origin.Uncommitted after := by
  apply ends_bind
  apply ends_arithmetic _ fun fault _ => works.toUncommitted
  intro amount rounded
  apply ends_bind
  have same : (none : Option Invoice).map Invoice.id = command.invoiceId := unlinked.symm
  rw [asked_eq named same]
  apply Access.ends_addPayment works
  intro kept payments between written works
  apply ends_bind
  apply ends_pure
  apply ends_bind
  exact ends_commit_of_records works (.loose unlinked rounded written)
    fun _ recorded => ⟨kept, rfl, recorded⟩

theorem ends_writePayment_some {origin : World} (works : origin.Works origin.store world)
    {command : PaymentCommand} {student : Student} (named : student.id = command.studentId)
    {id : Int} (link : command.invoiceId = some id) {invoice : Invoice}
    (found : Table.find? origin.store.invoices id = some invoice)
    (owner : invoice.studentId = student.id) (payable : invoice.status.payable = true) :
    (writePayment command student (some (Row.shown invoice))).Ends world
      (fun receipt after => RecordedOrRefused origin command (.ok receipt) after)
      fun _ after => origin.Uncommitted after := by
  obtain rfl : invoice.id = id := Table.key_of_find? found
  apply ends_bind
  apply ends_arithmetic _ fun fault _ => works.toUncommitted
  intro amount rounded
  apply ends_bind
  have same : (some (Row.shown invoice)).map Invoice.id = command.invoiceId := link.symm
  rw [asked_eq named same]
  apply Access.ends_addPayment works
  intro kept payments between written works
  apply ends_bind
  apply ends_map
  apply ends_settle works found
  intro result store between settles works
  apply ends_bind
  exact ends_commit_of_records works
    (.linked link found (owner.trans named) payable rounded written settles)
    fun _ recorded => ⟨kept, rfl, recorded⟩

/-- Recording a payment records it or refuses it and does nothing, and no fault gets out of it. -/
theorem ends_recordPayment_recorded (command : PaymentCommand) (settled : world.Settled) :
    (recordPayment command).Ends world (RecordedOrRefused world command) fun _ _ => False := by
  refine ends_transaction ?_ fun fault after moves => moves
  apply ends_bind
  apply Access.ends_read settled.works
  intro between works
  cases there : Table.find? world.store.students command.studentId with
  | none => exact ends_bind (ends_rollback (ends_pure works.moves_begin))
  | some student =>
      have named : student.id = command.studentId := Table.key_of_find? there
      apply ends_bind
      apply ends_invoiceToSettle works command student
      · intro between unlinked works
        apply ends_bind
        exact (ends_writePayment_none works named unlinked).weaken fun _ _ recorded => recorded
      · intro id invoice between link found owner payable works
        apply ends_bind
        exact (ends_writePayment_some works named link found owner payable).weaken
          fun _ _ recorded => recorded
      · intro refusal between works
        exact ends_bind (ends_rollback (ends_pure works.moves_begin))

/-- Recording a payment is one transaction, and no fault gets out of it. -/
theorem ends_recordPayment (command : PaymentCommand) (settled : world.Settled) :
    (recordPayment command).Ends world (world.OneDeed (.paymentRecorded command.invoiceId))
      fun _ _ => False := by
  refine (ends_recordPayment_recorded command settled).weaken ?_
  rintro (refusal | receipt) after ends
  · exact .inl ends
  · obtain ⟨kept, -, recorded⟩ := ends
    exact .inr ⟨⟨receipt, rfl⟩, recorded.moves⟩

/-! ## Deleting -/

/-- What is left of deleting a payment once its invoice was looked up. -/
theorem ends_erasePayment {origin : World} (works : origin.Works origin.store world)
    {payment : Payment} {invoice : Option Invoice}
    (found : Table.find? origin.store.payments payment.id = some payment)
    (linked : payment.invoiceId.bind (Table.find? origin.store.invoices) = invoice) :
    (do
      Access.removePayment payment.id
      let _ ← (invoice.map Row.shown).mapM settle
      commit
      return .ok () : Tx (Except Refusal Unit)).Ends world
      (origin.OneDeed (.paymentDeleted payment.id)) fun _ after => origin.Uncommitted after := by
  have committed (after : World) (moves : origin.Moves [.paymentDeleted payment.id] after) :
      (pure (.ok ()) : Tx (Except Refusal Unit)).Ends after
        (origin.OneDeed (.paymentDeleted payment.id)) fun _ after => origin.Uncommitted after :=
    .inr ⟨⟨(), rfl⟩, moves⟩
  apply ends_bind
  apply Access.ends_removePayment works
  intro between works
  apply ends_bind
  cases invoice with
  | none =>
      apply ends_pure
      apply ends_bind
      exact ends_commit_of_history works (.single (.looseDeleted found linked)) committed
  | some invoice =>
      obtain ⟨id, -, there⟩ := Option.bind_eq_some_iff.mp linked
      obtain rfl : invoice.id = id := Table.key_of_find? there
      apply ends_map
      apply ends_settle works there
      intro result store between settles works
      apply ends_bind
      exact ends_commit_of_history works
        (.single (.paymentDeleted found linked settles)) committed

/-- Deleting a payment is one transaction, and no fault gets out of it. -/
theorem ends_deletePayment (id : Int) (settled : world.Settled) :
    (deletePayment id).Ends world (world.OneDeed (.paymentDeleted id)) fun _ _ => False := by
  refine ends_transaction ?_ fun fault after moves => .inl moves
  apply ends_bind
  apply Access.ends_read settled.works
  intro between works
  cases found : Table.find? world.store.payments id with
  | none => exact ends_bind (ends_rollback (ends_pure (.inl works.moves_begin)))
  | some payment =>
      obtain rfl : payment.id = id := Table.key_of_find? found
      have erased {between : World} (works : world.Works world.store between) :=
        ends_erasePayment works found rfl
      have link : (Row.shown payment).invoiceId = payment.invoiceId := rfl
      simp only [Option.map_some, link]
      cases linked : payment.invoiceId with
      | none =>
          simp only [linked, Option.bind_none] at erased
          exact ends_bind (ends_pure (erased works))
      | some invoiceId =>
          simp only [linked, Option.bind_some] at erased
          apply ends_bind
          exact Access.ends_read works fun after works => erased works

/-! ## Cash -/

/-- Two parts of a form are accepted together only if each is accepted. -/
theorem accepted_of_seq {α β : Type} {part : Request.Checked (α → β)} {next : Request.Checked α}
    {value : β} (accepted : part <*> next = .accepted value) :
    ∃ f argument, part = .accepted f ∧ next = .accepted argument ∧ f argument = value := by
  have both : Request.Checked.both (fun f argument => f argument) part next = .accepted value :=
    accepted
  cases part with
  | accepted f =>
      cases next with
      | accepted argument =>
          exact ⟨f, argument, rfl, rfl, by simpa [Request.Checked.both] using both⟩
      | refused complaints => cases both
      | broken fault => cases both
  | refused complaints => cases next <;> cases both
  | broken fault => cases next <;> cases both

/-- A payment that fits its form and is on no invoice was asked for without one. -/
theorem invoiceId_of_accepted {entries : Request.Entries} {command : PaymentCommand}
    (unnamed : entries.lookup "invoice_id" = none)
    (accepted : Request.paymentCommand entries = .accepted command) :
    command.invoiceId = none := by
  obtain ⟨withNote, note, noteLeft, -, named⟩ := accepted_of_seq accepted
  obtain ⟨withPaidAt, paidAt, paidAtLeft, -, timed⟩ := accepted_of_seq noteLeft
  obtain ⟨withMethod, method, methodLeft, -, paid⟩ := accepted_of_seq paidAtLeft
  obtain ⟨withAmount, amount, amountLeft, -, valued⟩ := accepted_of_seq methodLeft
  obtain ⟨withInvoice, invoiceId, owner, optional, linked⟩ := accepted_of_seq amountLeft
  have student : Request.Checked.map PaymentCommand.mk
      (Request.required "student_id" Request.key entries) = .accepted withInvoice := owner
  have unlinked : invoiceId = none := by
    simpa [Request.optional, unnamed, eq_comm] using optional
  cases there : Request.required "student_id" Request.key entries with
  | accepted studentId =>
      rw [there] at student
      cases student
      rw [← named, ← timed, ← paid, ← valued, ← linked, unlinked]
  | refused complaints =>
      rw [there] at student
      cases student
  | broken fault =>
      rw [there] at student
      cases student

/-- Cash is on no invoice. -/
theorem invoiceId_of_cash {today : Date} {studentId amount note : Entry}
    {command : PaymentCommand}
    (accepted : Request.paymentCommand (cashEntries today studentId amount note) =
      .accepted command) :
    command.invoiceId = none :=
  invoiceId_of_accepted rfl accepted

/-- Recording cash is one transaction; a fault gets out of it only before it does anything. -/
theorem ends_quickCash (studentId amount note : Entry) (settled : world.Settled) :
    (quickCash studentId amount note).Ends world (world.OneDeed (.paymentRecorded none))
      fun _ after => world.Moves [] after := by
  apply ends_bind
  apply ends_now
  dsimp only
  cases checked : Request.paymentCommand (cashEntries world.now.date studentId amount note) with
  | broken fault => exact ends_throw (.refl settled)
  | refused complaints => exact ends_pure (.inl (.refl settled))
  | accepted command =>
      refine (ends_recordPayment command settled).faultless ?_
      intro result after one
      rwa [invoiceId_of_cash checked] at one

end Payments

/-! ## Overrides -/

/-- The records with one override more, which is for the enrollment and
the window of a command. -/
def Store.HasOverrideOf (before : Store) (command : Billing.OverrideCommand) (after : Store) :
    Prop :=
  ∃ kept : PriceOverride, kept.enrollmentId = command.enrollmentId ∧
    kept.window = command.window ∧
    after = { before with overrides := before.overrides ++ [kept] }

/-- The enrollment of a command is there, and none of its windows overlaps that of the command. -/
structure Store.HasPlaceFor (store : Store) (command : Billing.OverrideCommand) : Prop where
  enrolled : ∃ enrollment ∈ store.enrollments, enrollment.id = command.enrollmentId
  free : ∀ override ∈ store.overrides, override.enrollmentId = command.enrollmentId →
    override.window.overlaps command.window = false

namespace Billing

theorem ends_writeOverride {origin : World} (works : origin.Works origin.store world)
    (command : OverrideCommand) :
    (writeOverride command).Ends world
      (fun _ after => origin.Moves [.overrideAdded] after ∧
        origin.store.HasOverrideOf command after.store)
      fun _ after => origin.Uncommitted after := by
  apply ends_bind
  apply ends_arithmetic _ fun fault _ => works.toUncommitted
  intro lessonPrice rounded
  apply ends_bind
  apply ends_arithmetic _ fun fault _ => works.toUncommitted
  intro subscriptionPrice rounded
  apply ends_bind
  apply Access.ends_addOverride works
  intro override overrides between written works
  obtain ⟨rfl, keeps, -, -⟩ := Table.insert_eq_ok written
  obtain ⟨lesson, subscription, rfl⟩ := Store.keep_override_eq_ok keeps
  apply ends_bind
  apply ends_commit
  · intro outages
    refine ends_pure ⟨⟨?_, rfl, works.now, works.hasTables⟩, _, rfl, rfl, works.pending⟩
    rw [works.pending]
    exact .single (.overrideAdded written)
  · intro message outages
    exact ⟨works.store, works.now, works.hasTables⟩

/-- The overrides that are read for an enrollment show the windows of those that it has. -/
theorem mem_overridesShown {store : Store} {enrollmentId : Int} {shown : PriceOverride} :
    shown ∈ ((store.overrides.filter (·.enrollmentId == enrollmentId)).map Row.shown).mergeSort
        (fun first second => first.validFrom ≤ second.validFrom) ↔
      ∃ override ∈ store.overrides, override.enrollmentId = enrollmentId ∧
        Row.shown override = shown := by
  simp [List.mem_mergeSort, and_assoc]

/-- Adding an override refuses and does nothing, or it comes to write the override of a command
that there is a place for. -/
theorem ends_addOverride_of_write {command : OverrideCommand}
    {good : Except Refusal PriceOverride → World → Prop} (settled : world.Settled)
    (refused : ∀ refusal after, world.Moves [] after → good (.error refusal) after)
    (written : ∀ between, world.Works world.store between → world.store.HasPlaceFor command →
      (writeOverride command).Ends between (fun override after => good (.ok override) after)
        fun _ after => world.Uncommitted after) :
    (addOverride command).Ends world good fun _ _ => False := by
  refine ends_transaction ?_ fun fault after moves => refused _ after moves
  apply ends_bind
  apply Access.ends_read settled.works
  intro between works
  cases found : Table.find? world.store.enrollments command.enrollmentId with
  | none => exact ends_pure (refused _ between works.moves_nil)
  | some enrollment =>
      have key : enrollment.id = command.enrollmentId := Table.key_of_find? found
      apply ends_bind
      apply Access.ends_read works
      intro between works
      split
      · exact ends_pure (refused _ between works.moves_nil)
      · next clear =>
          apply ends_bind
          refine (written between works
            ⟨⟨enrollment, Table.mem_of_find? found, key⟩, ?_⟩).weaken ?_
          · intro override mem own
            have apart := List.find?_eq_none.mp clear (Row.shown override)
              (mem_overridesShown.mpr ⟨override, mem, own.trans key.symm, rfl⟩)
            exact Bool.eq_false_iff.mpr apart
          · intro override after holds
            exact ends_pure holds

/-- Adding a price override is one transaction, and no fault gets out of it. -/
theorem ends_addOverride (command : OverrideCommand) (settled : world.Settled) :
    (addOverride command).Ends world (world.OneDeed .overrideAdded) fun _ _ => False := by
  apply ends_addOverride_of_write settled
  · intro refusal after moves
    exact .inl moves
  · intro between works place
    refine (ends_writeOverride works command).weaken ?_
    intro override after done
    exact .inr ⟨⟨override, rfl⟩, done.1⟩

end Billing
end Tuition
