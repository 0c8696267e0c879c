/-
# The paid status follows the payments

Whether an invoice is paid is kept with the invoice, but it is a fact about the payments on it.
The two agree in every store that use cases make from one without invoices and payments, also when
outages strike them and invoices are canceled from outside. An invoice whose total is nothing or
less is the exception: it may stay issued, but only as long as no payment is on it.

The invariant beside it says that a payment is only ever on an invoice that is there and past
being a draft, so a new invoice, which may get the key of a deleted one, has no payment.
-/

import Tuition.Proofs.Fates
import Tuition.Proofs.Totals
import Tuition.Proofs.UseCases

namespace Tuition

namespace Store

/-- The payments on an invoice cover its total. -/
def Covered (store : Store) (invoice : Invoice) : Prop :=
  ∃ paid, store.paidOn invoice.id = .ok paid ∧
    Payments.covers paid (Row.shown invoice).total = .ok true

/-- The payments on an invoice do not cover its total. -/
def Uncovered (store : Store) (invoice : Invoice) : Prop :=
  ∃ paid, store.paidOn invoice.id = .ok paid ∧
    Payments.covers paid (Row.shown invoice).total = .ok false

/-- No payment is on an invoice. -/
def Unpaid (store : Store) (invoice : Invoice) : Prop :=
  ∀ payment ∈ store.payments, payment.invoiceId ≠ some invoice.id

/-- The total of an invoice is nothing or less. -/
def OwesNothing (invoice : Invoice) : Prop :=
  Payments.covers Money.nothing (Row.shown invoice).total = .ok true

/-- The state of an invoice is right beside the payments. -/
def InLine (store : Store) (invoice : Invoice) : Prop :=
  match invoice.status with
  | .draft => invoice.paidAt = none ∧ store.Unpaid invoice
  | .issued =>
    invoice.paidAt = none ∧
      (store.Uncovered invoice ∨ OwesNothing invoice ∧ store.Unpaid invoice)
  | .paid => invoice.paidAt.isSome ∧ store.Covered invoice
  | .canceled => True

/-- All states are right, and what makes them stay so: keys are in order, totals are numbers, and
a payment is on an invoice that is there and past being a draft. -/
structure Reconciled (store : Store) : Prop where
  invoices : Table.Ordered store.invoices
  payments : Table.Ordered store.payments
  inLine : ∀ invoice ∈ store.invoices, store.InLine invoice
  total : ∀ invoice ∈ store.invoices, invoice.total.IsNumber
  linked : ∀ payment ∈ store.payments, ∀ id, payment.invoiceId = some id →
    ∃ invoice ∈ store.invoices, invoice.id = id ∧ invoice.status ≠ .draft

variable {store first second : Store} {invoice : Invoice}

/-- Without invoices and payments all is right. -/
theorem reconciled_of_empty (noInvoices : store.invoices = [])
    (noPayments : store.payments = []) : store.Reconciled where
  invoices := noInvoices ▸ .nil
  payments := noPayments ▸ .nil
  inLine invoice mem := by simp [noInvoices] at mem
  total invoice mem := by simp [noInvoices] at mem
  linked payment mem := by simp [noPayments] at mem

/-! ## Payments on an invoice -/

/-- The same payments are on an invoice. -/
def SamePayments (first second : Store) (id : Int) : Prop :=
  second.payments.filter (·.invoiceId == some id) = first.payments.filter (·.invoiceId == some id)

/-- The state of an invoice stays right while the payments on it stay. -/
theorem InLine.congr (same : SamePayments first second invoice.id)
    (inLine : first.InLine invoice) : second.InLine invoice := by
  have paid : second.paidOn invoice.id = first.paidOn invoice.id := paidOn_congr same
  have unpaid (none : first.Unpaid invoice) : second.Unpaid invoice := by
    intro payment mem own
    have there : payment ∈ second.payments.filter (·.invoiceId == some invoice.id) :=
      List.mem_filter.mpr ⟨mem, by simp [own]⟩
    rw [same] at there
    exact none payment (List.mem_filter.mp there).1 own
  unfold InLine at inLine ⊢
  cases status : invoice.status with
  | draft =>
      simp only [status] at inLine
      exact ⟨inLine.1, unpaid inLine.2⟩
  | issued =>
      simp only [status, Uncovered, ← paid] at inLine
      exact ⟨inLine.1, inLine.2.imp_right fun owes => ⟨owes.1, unpaid owes.2⟩⟩
  | paid =>
      simp only [status, Covered, ← paid] at inLine
      exact inLine
  | canceled => trivial

/-- An invoice whose key no invoice has is on no payment. -/
theorem Reconciled.unpaid_of_absent (reconciled : store.Reconciled)
    (absent : ∀ other ∈ store.invoices, other.id ≠ invoice.id) : store.Unpaid invoice := by
  intro payment mem own
  obtain ⟨other, memOther, same, -⟩ := reconciled.linked payment mem _ own
  exact absent other memOther same

/-- A draft is on no payment and was never paid. -/
theorem Reconciled.of_draft (reconciled : store.Reconciled) (mem : invoice ∈ store.invoices)
    (draft : invoice.status = .draft) : invoice.paidAt = none ∧ store.Unpaid invoice := by
  have inLine := reconciled.inLine invoice mem
  simpa only [InLine, draft] using inLine

/-- All stays right where invoices are written while the payments stay: an invoice that is new or
changed has to be right, and one that is past being a draft has to stay so. -/
theorem Reconciled.of_samePayments (reconciled : first.Reconciled)
    (payments : second.payments = first.payments) (ordered : Table.Ordered second.invoices)
    (each : ∀ invoice ∈ second.invoices,
      invoice ∈ first.invoices ∨ first.InLine invoice ∧ invoice.total.IsNumber)
    (stays : ∀ invoice ∈ first.invoices, invoice.status ≠ .draft →
      ∃ later ∈ second.invoices, later.id = invoice.id ∧ later.status ≠ .draft) :
    second.Reconciled where
  invoices := ordered
  payments := payments ▸ reconciled.payments
  inLine invoice mem := by
    have inLine : first.InLine invoice := by
      rcases each invoice mem with old | ⟨inLine, -⟩
      · exact reconciled.inLine invoice old
      · exact inLine
    exact inLine.congr (by rw [SamePayments, payments])
  total invoice mem := by
    rcases each invoice mem with old | ⟨-, number⟩
    · exact reconciled.total invoice old
    · exact number
  linked payment mem id own := by
    obtain ⟨invoice, memInvoice, rfl, past⟩ := reconciled.linked payment (payments ▸ mem) id own
    exact stays invoice memInvoice past

/-- All is right but perhaps for the state of one invoice, whose payments have just changed. -/
structure Reconciling (store : Store) (invoice : Invoice) : Prop where
  invoices : Table.Ordered store.invoices
  payments : Table.Ordered store.payments
  mem : invoice ∈ store.invoices
  past : invoice.status ≠ .draft
  others : ∀ other ∈ store.invoices, other.id ≠ invoice.id → store.InLine other
  total : ∀ other ∈ store.invoices, other.total.IsNumber
  linked : ∀ payment ∈ store.payments, ∀ id, payment.invoiceId = some id →
    ∃ other ∈ store.invoices, other.id = id ∧ other.status ≠ .draft

namespace Reconciling

/-- Once the state of that invoice is right, all is. -/
theorem done (reconciling : store.Reconciling invoice) (inLine : store.InLine invoice) :
    store.Reconciled where
  invoices := reconciling.invoices
  payments := reconciling.payments
  inLine other mem := by
    by_cases own : other.id = invoice.id
    · rwa [reconciling.invoices.eq_of_key_eq mem reconciling.mem own]
    · exact reconciling.others other mem own
  total := reconciling.total
  linked := reconciling.linked

/-- Writing over that invoice leaves it the only one whose state may be wrong. -/
theorem write {edited : Invoice} {invoices : List Invoice}
    (reconciling : store.Reconciling invoice)
    (replaced : Table.replace store.invoices edited = .ok invoices) (key : edited.id = invoice.id)
    (total : edited.total = invoice.total) (past : edited.status ≠ .draft) :
    ({ store with invoices } : Store).Reconciling edited := by
  have found : Table.find? store.invoices edited.id = some invoice :=
    reconciling.invoices.find?_eq_some_iff.mpr ⟨reconciling.mem, key.symm⟩
  have mem {other : Invoice} :
      other ∈ invoices ↔ other = edited ∨ other ∈ store.invoices ∧ other.id ≠ edited.id :=
    Table.mem_replace_iff found replaced
  refine ⟨reconciling.invoices.replace replaced, reconciling.payments, mem.mpr (.inl rfl), past,
    ?_, ?_, ?_⟩
  · intro other memOther different
    obtain ⟨old, -⟩ := (mem.mp memOther).resolve_left fun same => different (same ▸ rfl)
    exact (reconciling.others other old fun same => different (same.trans key.symm)).congr rfl
  · intro other memOther
    rcases mem.mp memOther with rfl | ⟨old, -⟩
    · exact total ▸ reconciling.total invoice reconciling.mem
    · exact reconciling.total other old
  · intro payment memPayment id own
    obtain ⟨other, memOther, rfl, pastOther⟩ := reconciling.linked payment memPayment id own
    by_cases same : other.id = edited.id
    · exact ⟨edited, mem.mpr (.inl rfl), same.symm, past⟩
    · exact ⟨other, mem.mpr (.inr ⟨memOther, same⟩), rfl, pastOther⟩

end Reconciling

/-- Changing the payments on one invoice that is past being a draft leaves it the only one whose
state may be wrong. -/
theorem Reconciled.reconciling {payments : List Payment} (reconciled : store.Reconciled)
    (mem : invoice ∈ store.invoices) (past : invoice.status ≠ .draft)
    (ordered : Table.Ordered payments)
    (same : ∀ id, id ≠ invoice.id → SamePayments store { store with payments } id)
    (each : ∀ payment ∈ payments, payment ∈ store.payments ∨
      payment.invoiceId = some invoice.id) :
    ({ store with payments } : Store).Reconciling invoice where
  invoices := reconciled.invoices
  payments := ordered
  mem := mem
  past := past
  others other memOther different :=
    (reconciled.inLine other memOther).congr (same other.id different)
  total := reconciled.total
  linked payment memPayment id own := by
    rcases each payment memPayment with old | new
    · exact reconciled.linked payment old id own
    · obtain rfl : id = invoice.id := by simpa [own] using new
      exact ⟨invoice, mem, rfl, past⟩

end Store

/-! ## Single transactions -/

variable {now : Moment} {store before after : Store} {invoice : Invoice} {deed : Deed}

/-- Settling an invoice whose payments have changed makes all right, if the moment it was paid at
was kept right. -/
theorem Settles.reconciled (settles : Settles now store invoice after)
    (reconciling : store.Reconciling invoice)
    (paidAt : invoice.status = .paid → invoice.paidAt.isSome)
    (unpaidAt : invoice.status = .issued → invoice.paidAt = none) : after.Reconciled := by
  cases settles with
  | notOwed notPayable =>
      apply reconciling.done
      cases status : invoice.status with
      | draft => exact absurd status reconciling.past
      | issued => simp [status, InvoiceStatus.payable] at notPayable
      | paid => simp [status, InvoiceStatus.payable] at notPayable
      | canceled => simp only [Store.InLine, status]
  | stillPaid status sum covered =>
      apply reconciling.done
      simp only [Store.InLine, status]
      exact ⟨paidAt status, _, sum, covered⟩
  | stillIssued status sum uncovered =>
      apply reconciling.done
      simp only [Store.InLine, status]
      exact ⟨unpaidAt status, .inl ⟨_, sum, uncovered⟩⟩
  | becamePaid status sum covered written =>
      apply (reconciling.write written rfl rfl (by simp)).done
      exact ⟨rfl, _, sum, covered⟩
  | reopened status sum uncovered written =>
      apply (reconciling.write written rfl rfl (by simp)).done
      exact ⟨rfl, .inl ⟨_, sum, uncovered⟩⟩

/-- A paid invoice has a moment at which it was paid, and an issued one has none. -/
theorem Store.Reconciled.paidAt (reconciled : store.Reconciled) (mem : invoice ∈ store.invoices) :
    (invoice.status = .paid → invoice.paidAt.isSome) ∧
      (invoice.status = .issued → invoice.paidAt = none) := by
  have inLine := reconciled.inLine invoice mem
  constructor
  · intro status
    simp only [Store.InLine, status] at inLine
    exact inLine.1
  · intro status
    simp only [Store.InLine, status] at inLine
    exact inLine.1

/-- Numbering a draft leaves an issued invoice without payments, which is right: either its total
is nothing or less, or nothing does not cover it. -/
theorem Store.Reconciled.inLine_numberedBy (reconciled : store.Reconciled)
    (mem : invoice ∈ store.invoices) (draft : invoice.status = .draft) (settings : Settings) :
    store.InLine (invoice.numberedBy settings now) := by
  obtain ⟨neverPaid, unpaid⟩ := reconciled.of_draft mem draft
  have number : (Row.shown invoice).total.IsNumber :=
    Amount.isNumber_shown (reconciled.total invoice mem)
  have nothing : Money.nothing.IsNumber := trivial
  obtain ⟨covered, decided⟩ := nothing.exists_covers number
  refine ⟨neverPaid, ?_⟩
  cases covered with
  | false => exact .inl ⟨_, Store.paidOn_of_no_payment unpaid, decided⟩
  | true => exact .inr ⟨decided, unpaid⟩

/-- A payment that is kept stays on its invoice and with its student. -/
theorem Store.owner_of_insert {payment kept : Payment} {payments : List Payment}
    (written : Table.insert store.payments payment = .ok (kept, payments)) :
    kept.invoiceId = payment.invoiceId ∧ kept.studentId = payment.studentId := by
  obtain ⟨-, keeps, -, -⟩ := Table.insert_eq_ok written
  obtain ⟨amount, rfl⟩ := Store.keep_payment_eq_ok keeps
  exact ⟨rfl, rfl⟩

theorem Store.mem_of_insert {payment kept other : Payment} {payments : List Payment}
    (written : Table.insert store.payments payment = .ok (kept, payments))
    (mem : other ∈ payments) :
    other ∈ store.payments ∨
      other.invoiceId = payment.invoiceId ∧ other.studentId = payment.studentId := by
  have owner := Store.owner_of_insert written
  obtain ⟨rfl, -, -, -⟩ := Table.insert_eq_ok written
  rcases List.mem_append.mp mem with old | new
  · exact .inl old
  · exact .inr (List.mem_singleton.mp new ▸ owner)

/-- Adding a payment changes the payments on its own invoice alone. -/
theorem Store.samePayments_of_insert {payment kept : Payment} {payments : List Payment} {id : Int}
    (written : Table.insert store.payments payment = .ok (kept, payments))
    (other : payment.invoiceId ≠ some id) :
    Store.SamePayments store { store with payments } id := by
  have link := (Store.owner_of_insert written).1
  obtain ⟨rfl, -, -, -⟩ := Table.insert_eq_ok written
  have foreign : [kept].filter (·.invoiceId == some id) = [] := by simp [link, other]
  simp only [Store.SamePayments, List.filter_append, foreign, List.append_nil]

/-- Deleting a payment changes the payments on its own invoice alone. -/
theorem Store.samePayments_of_erase {payment : Payment} {paymentId id : Int}
    (ordered : Table.Ordered store.payments)
    (found : Table.find? store.payments paymentId = some payment)
    (other : payment.invoiceId ≠ some id) :
    Store.SamePayments store
      { store with payments := Table.erase store.payments paymentId } id := by
  simp only [Store.SamePayments, Table.erase, List.filter_filter]
  apply List.filter_congr
  intro another mem
  by_cases own : another.invoiceId = some id
  · have different : Row.key another ≠ paymentId := by
      intro same
      cases (ordered.find?_eq_some_iff.mpr ⟨mem, same⟩).symm.trans found
      exact other own
    simp [own, different]
  · simp [own]

/-- All stays right where only payments change that are on no invoice. -/
theorem Store.Reconciled.of_sameInvoices {payments : List Payment} (reconciled : store.Reconciled)
    (ordered : Table.Ordered payments)
    (same : ∀ id, Store.SamePayments store { store with payments } id)
    (each : ∀ payment ∈ payments, payment ∈ store.payments ∨ payment.invoiceId = none) :
    ({ store with payments } : Store).Reconciled where
  invoices := reconciled.invoices
  payments := ordered
  inLine invoice mem := (reconciled.inLine invoice mem).congr (same invoice.id)
  total := reconciled.total
  linked payment mem id own := by
    rcases each payment mem with old | loose
    · exact reconciled.linked payment old id own
    · simp [loose] at own

/-- All stays right where neither invoices nor payments change. -/
theorem Store.Reconciled.of_same (reconciled : before.Reconciled)
    (invoices : after.invoices = before.invoices) (payments : after.payments = before.payments) :
    after.Reconciled :=
  reconciled.of_samePayments payments (invoices ▸ reconciled.invoices)
    (fun _ mem => .inl (invoices ▸ mem))
    fun invoice mem past => ⟨invoice, invoices ▸ mem, rfl, past⟩

/-- All stays right where a draft is written over and what is written is right. -/
theorem Store.Reconciled.of_draftWritten {edited : Invoice} (reconciled : before.Reconciled)
    (mem : invoice ∈ before.invoices) (draft : invoice.status = .draft)
    (written : Table.replace before.invoices edited = .ok after.invoices)
    (key : edited.id = invoice.id) (inLine : before.InLine edited)
    (number : edited.total.IsNumber) (payments : after.payments = before.payments) :
    after.Reconciled := by
  refine reconciled.of_samePayments payments (reconciled.invoices.replace written) ?_ ?_
  · intro other memOther
    rcases eq_or_mem_of_replace reconciled.invoices mem written key memOther with rfl | old
    · exact .inr ⟨inLine, number⟩
    · exact .inl old
  · intro other memOther past
    rcases mem_or_eq_of_replace reconciled.invoices mem written key memOther with
      ⟨rfl, -⟩ | ⟨-, same⟩
    · exact absurd draft past
    · exact ⟨other, same, rfl, past⟩

/-- All stays right where a draft is added: its key may have been another invoice's once, but no
payment is on it. -/
theorem Store.Reconciled.of_draftAdded {studentId : Int} {period : Period} {total : Decimal}
    (reconciled : before.Reconciled)
    (written : Table.insert before.invoices (.draft studentId period total) =
      .ok (invoice, after.invoices))
    (payments : after.payments = before.payments) : after.Reconciled := by
  have ordered := reconciled.invoices.insert written
  obtain ⟨appended, keeps, key, -⟩ := Table.insert_eq_ok written
  obtain ⟨kept, keepsTotal, rfl⟩ := Store.keep_invoice_eq_ok keeps
  refine reconciled.of_samePayments payments ordered ?_ ?_
  · intro other mem
    rw [appended] at mem
    rcases List.mem_append.mp mem with old | new
    · exact .inl old
    · obtain rfl := List.mem_singleton.mp new
      refine .inr ⟨⟨rfl, reconciled.unpaid_of_absent ?_⟩, Store.isNumber_of_keepTotal keepsTotal⟩
      intro another memAnother same
      have below := Table.key_lt_nextKey memAnother
      exact absurd (same.trans key) (Int.ne_of_lt below)
  · intro other mem past
    exact ⟨other, appended ▸ List.mem_append_left _ mem, rfl, past⟩

/-- Every transaction keeps all states right. -/
theorem Transaction.reconciled (step : Transaction now before deed after)
    (reconciled : before.Reconciled) : after.Reconciled := by
  cases step with
  | settingsMade => exact reconciled.of_same rfl rfl
  | overrideAdded => exact reconciled.of_same rfl rfl
  | drafted vacant written => exact reconciled.of_draftAdded written rfl
  | redrafted mem draft kept attached written =>
      have number := kept.isNumber reconciled.total
      refine reconciled.of_draftWritten mem draft written rfl ?_ number rfl
      simp only [Store.InLine, draft]
      exact reconciled.of_draft mem draft
  | draftDeleted found draft =>
      refine reconciled.of_samePayments rfl (reconciled.invoices.erase _) ?_ ?_
      · intro other memOther
        exact .inl (Table.mem_erase_iff.mp memOther).1
      · intro other memOther past
        refine ⟨other, Table.mem_erase_iff.mpr ⟨memOther, ?_⟩, rfl, past⟩
        intro same
        cases (reconciled.invoices.find?_eq_some_iff.mpr ⟨memOther, same⟩).symm.trans found
        exact past draft
  | issued found draft counter admitted written =>
      have mem := Table.mem_of_find? found
      have number := reconciled.total _ mem
      exact reconciled.of_draftWritten mem draft written rfl
        (reconciled.inLine_numberedBy mem draft _) number rfl
  | cashRecorded unlinked written =>
      refine reconciled.of_sameInvoices (reconciled.payments.insert written) ?_ ?_
      · intro id
        exact Store.samePayments_of_insert written (by simp [unlinked])
      · intro payment mem
        exact (Store.mem_of_insert written mem).imp_right fun owner => owner.1.trans unlinked
  | @paymentRecorded _ _ owed _ _ _ found payable linked owner written settles =>
      have mem := Table.mem_of_find? found
      obtain rfl : owed.id = _ := Table.key_of_find? found
      obtain ⟨paidAt, unpaidAt⟩ := reconciled.paidAt mem
      refine settles.reconciled (reconciled.reconciling mem ?_ ?_ ?_ ?_) paidAt unpaidAt
      · intro draft
        simp [draft, InvoiceStatus.payable] at payable
      · exact reconciled.payments.insert written
      · intro id different
        refine Store.samePayments_of_insert written ?_
        rw [linked]
        exact fun same => different (Option.some.inj same).symm
      · intro payment memPayment
        exact (Store.mem_of_insert written memPayment).imp_right fun link => link.1.trans linked
  | looseDeleted found loose =>
      have mem := Table.mem_of_find? found
      refine reconciled.of_sameInvoices (reconciled.payments.erase _) ?_ ?_
      · intro id
        refine Store.samePayments_of_erase reconciled.payments found ?_
        intro own
        obtain ⟨invoice, memInvoice, key, -⟩ := reconciled.linked _ mem id own
        have there := reconciled.invoices.find?_eq_some_iff.mpr ⟨memInvoice, key⟩
        simp [own, there] at loose
      · intro payment memPayment
        exact .inl (Table.mem_erase_iff.mp memPayment).1
  | @paymentDeleted _ _ payment owed found linked settles =>
      obtain ⟨id, link, there⟩ := Option.bind_eq_some_iff.mp linked
      obtain rfl : owed.id = id := Table.key_of_find? there
      have mem := Table.mem_of_find? there
      obtain ⟨paidAt, unpaidAt⟩ := reconciled.paidAt mem
      refine settles.reconciled (reconciled.reconciling mem ?_ ?_ ?_ ?_) paidAt unpaidAt
      · obtain ⟨other, memOther, key, past⟩ :=
          reconciled.linked payment (Table.mem_of_find? found) owed.id link
        rwa [← reconciled.invoices.eq_of_key_eq memOther mem key]
      · exact reconciled.payments.erase _
      · intro id different
        refine Store.samePayments_of_erase reconciled.payments found ?_
        rw [link]
        exact fun same => different (Option.some.inj same).symm
      · intro payment memPayment
        exact .inl (Table.mem_erase_iff.mp memPayment).1

/-! ## Runs -/

/-- Canceling an invoice keeps all states right. -/
theorem Store.Reconciled.cancel (reconciled : store.Reconciled) (id : Int) :
    (store.cancel id).Reconciled := by
  refine reconciled.of_samePayments rfl ?_ ?_ ?_
  · refine List.pairwise_map.mpr (reconciled.invoices.imp fun {first second} below => ?_)
    split <;> split <;> exact below
  · intro invoice mem
    obtain ⟨old, memOld, rfl⟩ := List.mem_map.mp mem
    split
    · exact .inr ⟨trivial, reconciled.total old memOld⟩
    · exact .inl memOld
  · intro invoice mem past
    refine ⟨_, List.mem_map_of_mem mem, ?_, ?_⟩
    · split <;> rfl
    · split
      · simp
      · exact past

/-- Nothing in a run takes right states away. -/
theorem Store.invariant_reconciled : Store.Invariant Store.Reconciled where
  transaction step reconciled := step.reconciled reconciled
  prefixed _ reconciled := reconciled.of_same rfl rfl
  canceled id reconciled := reconciled.cancel id

/-- From records without invoices and payments, every invoice is in line with the payments after
every run: a paid one has the moment at which it was paid, and the payments on it cover its total;
an issued one has no such moment, and the payments on it do not cover its total, unless that is
nothing or less and no payment is on it; a draft has no such moment, and no payment is on it. -/
theorem status_follows_payments (world : World) (noInvoices : world.store.invoices = [])
    (noPayments : world.store.payments = []) (events : List Event) :
    ∀ invoice ∈ (world.run events).store.invoices, (world.run events).store.InLine invoice := by
  have reconciled : (world.run events).store.Reconciled :=
    Store.invariant_reconciled.run (Store.reconciled_of_empty noInvoices noPayments) events
  exact reconciled.inLine

/-- An invoice is drafted, issued and paid in full. -/
def Event.samples : List Event :=
  [.used (.generateDrafts false ⟨2024, 1⟩), .used (.issueInvoice 1),
    .used (.recordPayment .sample)]

/-- An invoice that is drafted, issued and paid in full is covered by its payment. -/
theorem status_follows_payments_when_paid :
    ∃ invoice ∈ ((World.struckAt .render .withEnrollment).run Event.samples).store.invoices,
      invoice.status = .paid ∧
      ((World.struckAt .render .withEnrollment).run Event.samples).store.InLine invoice := by
  have statuses : ((World.struckAt .render .withEnrollment).run Event.samples).store.invoices.map
      Invoice.status = [.paid] := by decide +kernel
  obtain ⟨invoice, only, status⟩ := List.map_eq_singleton_iff.mp statuses
  have mem : invoice ∈
      ((World.struckAt .render .withEnrollment).run Event.samples).store.invoices := by
    rw [only]
    exact List.mem_singleton.mpr rfl
  exact ⟨invoice, mem, status,
    status_follows_payments (World.struckAt .render .withEnrollment) rfl rfl Event.samples invoice
      mem⟩

end Tuition
