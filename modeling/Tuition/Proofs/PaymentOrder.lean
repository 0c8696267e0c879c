/-
# Payments in any order

Bookings come to the same in whatever order they are made. In a calm each is answered what is
known at the start, and the records that it leaves are those that the bookings so far make of
the records at the start (`Store.Booked`). Bookings that are made in another order leave
stores with the same accounts: only the keys of the payments that were recorded and the
moments at which invoices were paid may differ. So how far an invoice is paid and what a
student owes read the same.

This holds as long as the payments on an invoice, those at the start and those that are recorded
taken together, need no more than the 28 digits of decimal arithmetic. Beyond them a sum cannot be
rounded and settling is broken off, which deleting a payment first may avoid.
-/

import Tuition.Proofs.Bookings

namespace Tuition

open Tx

namespace Store

variable {start : Store} {done later bookings others : List Booking} {booking : Booking}

/-- The payments at the start, and those that bookings add. -/
def paymentsWith (start : Store) (bookings : List Booking) : List Payment :=
  start.payments ++ bookings.flatMap (Booking.added start)

/-- Bookings can be made: the tables obey their rules and have keys for as many
payments, the payments that are deleted are there and are deleted once, and sums of
payments are exact to the cent. -/
structure Bookable (start : Store) (bookings : List Booking) : Prop where
  keptInvoices : Table.WellKept start.invoices
  keptPayments : Table.WellKept start.payments
  numbers : ∀ invoice ∈ start.invoices, invoice.total.IsNumber
  room : Table.Room start.payments bookings.length
  present : ∀ id ∈ bookings.flatMap Booking.deleted, ∃ payment ∈ start.payments, payment.id = id
  once : (bookings.flatMap Booking.deleted).Nodup
  exact : Amount.SumsExact ((start.paymentsWith bookings).map Payment.amount)

/-- On an invoice that is owed and booked on, the payments come to no more than decimal arithmetic
has digits for, even before any of them is deleted. -/
def WithinPrecision (start : Store) (bookings : List Booking) : Prop :=
  ∀ invoice ∈ start.invoices, invoice.status.payable = true →
    bookings.any (·.isOn start invoice.id) = true →
      Decimal.centsSize (((start.paymentsWith bookings).filter
        (·.invoiceId == some invoice.id)).map Payment.cents) < 10 ^ 28

theorem paymentsAfter_sublist (start : Store) (done later : List Booking) :
    (start.paymentsAfter done).Sublist (start.paymentsWith (done ++ later)) := by
  rw [paymentsWith, List.flatMap_append, ← List.append_assoc]
  exact (List.filter_sublist.append (List.Sublist.refl _)).trans (List.sublist_append_left _ _)

/-- Payments that are left out make the cents of an invoice no larger than all are. -/
theorem natAbs_centsOn_le {fewer payments : List Payment} (sublist : fewer.Sublist payments)
    (id : Int) : (Payment.centsOn fewer id).natAbs ≤
      Decimal.centsSize ((payments.filter (·.invoiceId == some id)).map Payment.cents) := by
  refine (Decimal.natAbs_sum_le _).trans ?_
  have cents := ((sublist.filter (·.invoiceId == some id)).map Payment.cents).map Int.natAbs
  exact cents.sum_le_sum fun _ _ => Nat.zero_le _

/-! ## In another order -/

theorem Bookable.perm (bookable : start.Bookable bookings) (same : bookings.Perm others) :
    start.Bookable others where
  keptInvoices := bookable.keptInvoices
  keptPayments := bookable.keptPayments
  numbers := bookable.numbers
  room := same.length_eq ▸ bookable.room
  present id mem := bookable.present id ((same.flatMap_right _).mem_iff.mpr mem)
  once := (same.flatMap_right _).nodup_iff.mp bookable.once
  exact := by
    have payments := ((same.flatMap_right (Booking.added start)).append_left start.payments)
    exact bookable.exact.mono (payments.symm.map Payment.amount).subperm

theorem WithinPrecision.perm (within : start.WithinPrecision bookings)
    (same : bookings.Perm others) : start.WithinPrecision others := by
  intro invoice mem payable touched
  have payments := ((same.flatMap_right (Booking.added start)).append_left start.payments)
  have sizes := (((payments.filter (·.invoiceId == some invoice.id)).map Payment.cents).map
    Int.natAbs).sum_eq
  have bound := within invoice mem payable (by rwa [same.any_eq])
  rw [Decimal.centsSize] at bound ⊢
  exact sizes ▸ bound

theorem paymentsAfter_perm (same : bookings.Perm others) :
    (start.paymentsAfter bookings).Perm (start.paymentsAfter others) := by
  have deleted := same.flatMap_right Booking.deleted
  have kept :
      start.payments.filter (fun payment => payment.id ∉ bookings.flatMap Booking.deleted) =
        start.payments.filter fun payment => payment.id ∉ others.flatMap Booking.deleted :=
    List.filter_congr fun payment _ => by simp only [deleted.mem_iff]
  rw [paymentsAfter, kept]
  exact (same.flatMap_right _).append_left _

theorem invoiceAfter_perm (same : bookings.Perm others) :
    start.invoiceAfter bookings = start.invoiceAfter others := by
  have payments : (start.paymentsAfter bookings).Perm (start.paymentsAfter others) :=
    paymentsAfter_perm same
  funext invoice
  rw [invoiceAfter, same.any_eq, Payment.centsOn_eq (payments.map _), invoiceAfter]

/-- Bookings that were made in two orders have come to stores with the same accounts. -/
theorem Booked.sameAccounts {store other : Store} (booked : start.Booked bookings store)
    (bookedOther : start.Booked others other) (same : bookings.Perm others) :
    store.SameAccounts other where
  invoices := by rw [booked.invoices, bookedOther.invoices, invoiceAfter_perm same]
  payments := booked.payments.trans
    (((paymentsAfter_perm same).map Payment.unkeyed).trans bookedOther.payments.symm)
  others := booked.others.trans bookedOther.others.symm

/-! ## One booking after another -/

/-- In a calm, bookings have been made and there are keys for more payments. -/
structure Reached (start : Store) (done : List Booking) (count : Nat) (world : World) : Prop where
  calm : world.Calm
  booked : start.Booked done world.store
  room : Table.Room world.store.payments count

/-- In a session a use case answers as its operation, and what is
committed is all that is left. -/
theorem perform_answer {α : Type} {operation : Tx (Except Refusal α)} {world after : World}
    {result : Except Refusal α} (performed : operation.perform world.begin = (.ok result, after))
    (settled : after.Settled) :
    (session (UseCase.answer operation)).perform world =
      (.ok (result.map fun _ => ()), after) := by
  rw [perform_session, UseCase.answer, perform_map, performed]
  exact congrArg (Prod.mk _) (World.begin_of_settled settled)

/-- A booking that adds nothing and deletes nothing leaves the records where they are. -/
theorem Booked.idle {store : Store} (booked : start.Booked done store)
    (added : booking.added start = []) (deleted : booking.deleted = [])
    (nowhere : ∀ id, booking.isOn start id = false) : start.Booked (done ++ [booking]) store := by
  have payments : start.paymentsAfter (done ++ [booking]) = start.paymentsAfter done := by
    rw [paymentsAfter_append, added, deleted, List.append_nil, List.append_nil, paymentsAfter]
  have invoices : start.invoiceAfter (done ++ [booking]) = start.invoiceAfter done := by
    funext invoice
    simp only [invoiceAfter, payments, List.any_append, List.any_cons, List.any_nil, nowhere,
      Bool.or_false]
  refine ⟨payments ▸ booked.payments, invoices ▸ booked.invoices, booked.others, ?_,
    booked.keptInvoices, booked.keptPayments⟩
  intro payment mem remains
  rw [List.flatMap_append] at remains
  exact booked.undeleted payment mem fun gone => remains (List.mem_append_left _ gone)

section Performing

variable {count : Nat} {world : World}
  (bookable : start.Bookable (done ++ booking :: later))
  (within : start.WithinPrecision (done ++ booking :: later))
include bookable within

/-- Once a booking has changed the payments, it is decided whether their invoice is covered. -/
theorem Posted.decides_within {store paid : Store} {link : Option Int}
    (posted : start.Posted done booking store paid link) :
    paid.Decides link (start.coveredAfter (done ++ [booking]) link) := by
  have fewer := paymentsAfter_sublist start (done ++ [booking]) later
  rw [List.append_assoc, List.singleton_append] at fewer
  refine posted.decides (bookable.exact.mono (fewer.map Payment.amount).subperm) ?_
    bookable.numbers
  intro invoice mem payable named
  have touched : (done ++ booking :: later).any (·.isOn start invoice.id) = true := by
    simp [(posted.isOn_iff invoice.id).mpr named]
  exact Nat.lt_of_le_of_lt (natAbs_centsOn_le fewer _) (within invoice mem payable touched)

/-- Recording a payment answers what is known at the start, and brings the records on. -/
theorem Reached.record {command : Payments.PaymentCommand} (own : booking = .record command)
    (reached : start.Reached done (count + 1) world) :
    ∃ after, (UseCase.recordPayment command).perform world =
        (.ok (Booking.verdict start (.record command)), after) ∧
      start.Reached (done ++ [booking]) count after := by
  subst own
  have calm : world.begin.Calm := ⟨reached.calm.tables, reached.calm.quiet⟩
  have fits : Word.fits (Table.nextKey world.store.payments) :=
    reached.booked.keptPayments.fits_nextKey reached.room
  have judged := reached.booked.judge command
  cases verdict : start.judge command with
  | error refusal =>
      have performed := Payments.perform_recordPayment_of_refused calm world.settled_begin fits
        (judged.trans verdict)
      have known : Booking.verdict start (.record command) = .error refusal := by
        rw [Booking.verdict, verdict]
        rfl
      rw [known]
      -- A refused payment is no booking on any invoice, so nothing is brought on but the list.
      refine ⟨_, perform_answer performed world.settled_begin, calm, ?_,
        reached.room.mono (Nat.le_succ count)⟩
      refine reached.booked.idle ?_ rfl fun id => ?_
      · simp [Booking.added, verdict, Except.toOption]
      · simp [Booking.isOn, verdict, Except.toOption]
  | ok row =>
      have posted := reached.booked.posted_record fits verdict
      have performed := Payments.perform_recordPayment_of_accepted calm world.settled_begin
        reached.booked.keptInvoices fits (judged.trans verdict)
        (posted.decides_within bookable within)
      have known : Booking.verdict start (.record command) = .ok () := by
        rw [Booking.verdict, verdict]
        rfl
      have answered := perform_answer performed rfl
      rw [known]
      refine ⟨_, answered, ⟨calm.tables, calm.quiet⟩, posted.settle bookable.keptInvoices _, ?_⟩
      dsimp only
      rw [settledOn_eq]
      exact reached.room.append_single rfl

/-- Deleting a payment that is there goes through, and brings the records on. -/
theorem Reached.delete {id : Int} (own : booking = .delete id)
    (reached : start.Reached done (count + 1) world) :
    ∃ after, (UseCase.deletePayment id).perform world = (.ok (.ok ()), after) ∧
      start.Reached (done ++ [booking]) count after := by
  subst own
  have calm : world.begin.Calm := ⟨reached.calm.tables, reached.calm.quiet⟩
  obtain ⟨payment, mem, rfl⟩ := bookable.present id (by simp [Booking.deleted])
  have once : payment.id ∉ done.flatMap Booking.deleted := by
    have once := bookable.once
    rw [List.flatMap_append, List.nodup_append] at once
    intro gone
    exact once.2.2 _ gone payment.id (by simp [Booking.deleted]) rfl
  have posted := reached.booked.posted_delete bookable.keptPayments.ordered mem once
  have performed := Payments.perform_deletePayment calm world.settled_begin
    reached.booked.keptInvoices reached.booked.keptPayments
    (reached.booked.undeleted payment mem once) (posted.decides_within bookable within)
  have answered := perform_answer performed rfl
  refine ⟨_, answered, ⟨calm.tables, calm.quiet⟩, posted.settle bookable.keptInvoices _, ?_⟩
  dsimp only
  rw [settledOn_eq]
  exact (reached.room.mono (Nat.le_succ count)).filter _

/-- A booking answers what is known at the start, and brings the records on. -/
theorem Reached.book (reached : start.Reached done (count + 1) world) :
    ∃ after, booking.useCase.perform world = (.ok (booking.verdict start), after) ∧
      start.Reached (done ++ [booking]) count after := by
  cases booking with
  | record command => exact reached.record bookable within rfl
  | delete id => exact reached.delete bookable within rfl

end Performing

/-- All bookings are answered what is known at the start, and bring the records on. -/
theorem Reached.run {timed : List (Moment × Booking)} {world : World}
    (bookable : start.Bookable (done ++ timed.map Prod.snd))
    (within : start.WithinPrecision (done ++ timed.map Prod.snd))
    (reached : start.Reached done timed.length world) :
    (world.book timed).1 = timed.map (fun entry => .ok (entry.2.verdict start)) ∧
      start.Reached (done ++ timed.map Prod.snd) 0 (world.book timed).2 := by
  -- What is made next joins what is done, so the bookings as a whole stay the same.
  induction timed generalizing done world with
  | nil =>
      have whole : done ++ List.map Prod.snd ([] : List (Moment × Booking)) = done :=
        List.append_nil done
      rw [whole]
      exact ⟨rfl, reached⟩
  | cons entry timed ih =>
      obtain ⟨now, booking⟩ := entry
      have reachedAt : start.Reached done (timed.length + 1) { world with now } :=
        ⟨⟨reached.calm.tables, reached.calm.quiet⟩, reached.booked, reached.room⟩
      obtain ⟨after, performed, next⟩ := reachedAt.book bookable within
      have whole : done ++ ((now, booking) :: timed).map Prod.snd =
          (done ++ [booking]) ++ timed.map Prod.snd := by simp
      rw [whole] at bookable within ⊢
      obtain ⟨answers, last⟩ := ih bookable within next
      simp only [World.book, performed, List.map_cons, answers]
      exact ⟨trivial, last⟩

end Store

/-- Bookings that are made in two orders, at whatever moments, answer the same and leave the
same accounts: the invoices are the same but for the moments at which they were paid, the
payments but for their keys, and nothing else is touched. How far each invoice is paid and what
each student owes read the same. -/
theorem payments_in_any_order (world : World) (calm : world.Calm)
    {first second : List (Moment × Booking)}
    (same : (first.map Prod.snd).Perm (second.map Prod.snd))
    (bookable : world.store.Bookable (first.map Prod.snd))
    (within : world.store.WithinPrecision (first.map Prod.snd)) :
    (world.book first).1 = first.map (fun entry => .ok (entry.2.verdict world.store)) ∧
    (world.book second).1 = second.map (fun entry => .ok (entry.2.verdict world.store)) ∧
    (world.book first).2.store.SameAccounts (world.book second).2.store ∧
    (∀ id, ((session (Payments.invoiceProgress id)).perform (world.book first).2).1 =
      ((session (Payments.invoiceProgress id)).perform (world.book second).2).1) ∧
    ∀ studentId, ((session (Payments.studentBalance studentId)).perform (world.book first).2).1 =
      ((session (Payments.studentBalance studentId)).perform (world.book second).2).1 := by
  have begins (timed : List (Moment × Booking))
      (room : Table.Room world.store.payments timed.length) :
      world.store.Reached [] timed.length world :=
    ⟨calm, Store.booked_nil bookable.keptInvoices bookable.keptPayments, room⟩
  have one := begins first (by simpa using bookable.room)
  have other := begins second (by simpa using (bookable.perm same).room)
  obtain ⟨answers, reached⟩ := one.run bookable within
  obtain ⟨answersOther, reachedOther⟩ := other.run (bookable.perm same) (within.perm same)
  have accounts := reached.booked.sameAccounts reachedOther.booked same
  have exact : Amount.SumsExact ((world.book first).2.store.payments.map Payment.amount) := by
    have payments := (Payment.perm_amounts reached.booked.payments).subperm
    have fewer := Store.paymentsAfter_sublist world.store (first.map Prod.snd) []
    rw [List.append_nil] at fewer
    exact bookable.exact.mono (payments.trans (fewer.map Payment.amount).subperm)
  refine ⟨answers, answersOther, accounts, fun id => ?_, fun studentId => ?_⟩
  · have reads := Payments.reads_invoiceProgress id
    rw [reads.perform_session reached.calm, reads.perform_session reachedOther.calm,
      accounts.progressOf exact]
  · have reads := Payments.reads_studentBalance studentId
    rw [reads.perform_session reached.calm, reads.perform_session reachedOther.calm,
      accounts.balanceOf exact]

/-- The records of an organisation with an invoice that was paid by one payment. -/
def Store.withPaidInvoice (amount : Decimal) : Store :=
  { withEnrollment with
    invoices := [{ Invoice.sample with
      status := .paid, number := some "LS-202401-001", issuedAt := some default
      paidAt := some default }]
    payments := [⟨1, 1, some 1, default, amount, .bank, ""⟩] }

/-- The payment of the invoice is recorded a second time. -/
def Booking.again (amount : Decimal) : Booking :=
  .record { Payments.PaymentCommand.sample with amount }

/-- An invoice that is paid again before its first payment is deleted stays paid; one whose
payment is deleted first is paid anew. -/
theorem payments_in_any_order_when_paid_again :
    let world := World.calmWith (.withPaidInvoice (.ofCents 2500))
    let payFirst := [(Moment.sample, Booking.again (.ofCents 2500)), (Moment.sample, .delete 1)]
    let deleteFirst :=
      [(Moment.sample, .delete 1), (Moment.sample, Booking.again (.ofCents 2500))]
    (world.book payFirst).1 = [.ok (.ok ()), .ok (.ok ())] ∧
    (world.book deleteFirst).1 = [.ok (.ok ()), .ok (.ok ())] ∧
    (world.book payFirst).2.store.SameAccounts (world.book deleteFirst).2.store ∧
    (world.book payFirst).2.store.invoices.map (fun invoice => (invoice.status, invoice.paidAt)) =
      [(.paid, some default)] ∧
    (world.book deleteFirst).2.store.invoices.map
        (fun invoice => (invoice.status, invoice.paidAt)) =
      [(.paid, some .sample)] := by
  intro world payFirst deleteFirst
  have bookable : world.store.Bookable (payFirst.map Prod.snd) := by
    refine ⟨by decide, by decide, ?_, by decide, by decide, by decide, ?_⟩
    · intro invoice mem
      rw [List.mem_singleton.mp mem]
      trivial
    · exact .of_sumsExactly (by decide +kernel)
  have within : world.store.WithinPrecision (payFirst.map Prod.snd) := by
    unfold Store.WithinPrecision
    decide +kernel
  have same : (payFirst.map Prod.snd).Perm (deleteFirst.map Prod.snd) := .swap _ _ _
  obtain ⟨-, -, accounts, -, -⟩ := payments_in_any_order world ⟨rfl, rfl⟩ same bookable within
  exact ⟨by decide +kernel, by decide +kernel, accounts, by decide +kernel, by decide +kernel⟩

/-- With payments of `2 ^ 86` the order makes a difference, though sums are exact to the cent: a
second one makes the sum too long to be rounded unless the first one is deleted before it. -/
theorem order_of_payments_matters :
    let amount : Decimal := .finite false (2 ^ 86) 0
    let world := World.calmWith (.withPaidInvoice amount)
    let payFirst := [(Moment.sample, Booking.again amount), (Moment.sample, .delete 1)]
    let deleteFirst := [(Moment.sample, .delete 1), (Moment.sample, Booking.again amount)]
    world.Calm ∧ (payFirst.map Prod.snd).Perm (deleteFirst.map Prod.snd) ∧
    world.store.Bookable (payFirst.map Prod.snd) ∧
    (world.book payFirst).1 =
      [.ok (.error (.recordingFailed (.arithmetic .invalid))), .ok (.ok ())] ∧
    (world.book deleteFirst).1 = [.ok (.ok ()), .ok (.ok ())] ∧
    (world.book payFirst).2.store.invoices.map Invoice.status = [.issued] ∧
    (world.book deleteFirst).2.store.invoices.map Invoice.status = [.paid] := by
  intro amount world payFirst deleteFirst
  have bookable : world.store.Bookable (payFirst.map Prod.snd) := by
    refine ⟨by decide, by decide, ?_, by decide, by decide, by decide, ?_⟩
    · intro invoice mem
      rw [List.mem_singleton.mp mem]
      trivial
    · have twice : (world.store.paymentsWith (payFirst.map Prod.snd)).map Payment.amount =
          List.replicate 2 amount := by decide +kernel
      rw [twice]
      exact .of_replicate (by decide +kernel)
  exact ⟨⟨rfl, rfl⟩, .swap _ _ _,
    bookable, by decide +kernel, by decide +kernel, by decide +kernel, by decide +kernel⟩

end Tuition
