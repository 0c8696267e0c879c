/-
# Payments booked one after another

Bookings record payments and delete payments that were there at the start. Whether a booking is
accepted depends only on what no booking changes: the students, the payment itself, and of its
invoice the owner and whether it is owed at all. So the verdict on each is known at the start, and
after any number of bookings the records are told by which ones were made, in whatever order:
`Store.Booked` says which payments are there, and that an invoice which was booked on has the
state that its payments make. A booking first changes the payments (`Store.Posted`), and settling
their invoice then brings the records on.

Two provisos stand behind it. Sums of amounts are exact to the cent, and the payments that are
ever on one invoice need no more than the 28 digits of decimal arithmetic.
-/

import Tuition.Proofs.Accounts
import Tuition.Proofs.CalmPayments
import Tuition.Proofs.UseCases

namespace Tuition

open Tx

/-- A payment is recorded or deleted. -/
inductive Booking where
  | record (command : Payments.PaymentCommand)
  | delete (id : Int)

namespace Booking

/-- The use case of a booking. -/
def useCase : Booking → UseCase
  | .record command => .recordPayment command
  | .delete id => .deletePayment id

/-- What a booking is answered, by the records at the start. -/
def verdict (start : Store) : Booking → Except Refusal Unit
  | .record command => (start.judge command).map fun _ => ()
  | .delete _ => .ok ()

/-- The payments that a booking adds, without their keys. -/
def added (start : Store) : Booking → List Payment
  | .record command => (start.judge command).toOption.toList
  | .delete _ => []

/-- The keys of the payments that a booking deletes. -/
def deleted : Booking → List Int
  | .record _ => []
  | .delete id => [id]

/-- A booking adds or deletes a payment on an invoice. -/
def isOn (start : Store) (invoiceId : Int) : Booking → Bool
  | .record command => (start.judge command).toOption.any (·.invoiceId == some invoiceId)
  | .delete id => start.payments.any fun payment =>
      payment.id == id && payment.invoiceId == some invoiceId

end Booking

/-- Bookings made one after another, each at a moment of its own: what they are answered, and
the world after them. -/
def World.book (world : World) :
    List (Moment × Booking) → List (Except Fault (Except Refusal Unit)) × World
  | [] => ([], world)
  | (now, booking) :: later =>
    let (answer, after) := booking.useCase.perform { world with now }
    let (answers, last) := after.book later
    (answer :: answers, last)

namespace Invoice

/-- Whether a number of cents covers the total of an invoice. -/
def coveredBy (invoice : Invoice) (cents : Int) : Bool :=
  (Payments.covers (.ofCents cents) (Row.shown invoice).total).toOption.getD false

/-- An invoice that was booked on, once it is known whether its payments cover it. -/
def bookedAs (invoice : Invoice) (covered : Bool) : Invoice :=
  { invoice with
    status :=
      if invoice.status.payable then if covered then .paid else .issued else invoice.status
    paidAt := none }

/-- What the judgement on a payment takes from its invoice. -/
def judged (invoice : Invoice) : Int × Int × Option InvoiceStatus :=
  (invoice.id, invoice.studentId, if invoice.status.payable then none else some invoice.status)

theorem covers_eq_coveredBy {invoice : Invoice} (number : invoice.total.IsNumber) (cents : Int) :
    Payments.covers (.ofCents cents) (Row.shown invoice).total =
      .ok (invoice.coveredBy cents) := by
  have one : (Decimal.ofCents cents).IsNumber := trivial
  have other : (Row.shown invoice).total.IsNumber := Amount.isNumber_shown number
  obtain ⟨covered, decided⟩ := one.exists_covers other
  rw [coveredBy, decided]
  rfl

/-- Settling changes the state of an invoice and the moment at which it was
paid, and nothing else. -/
theorem settledAs_columns (invoice : Invoice) (now : Moment) (covered : Bool) :
    invoice.settledAs now covered =
      { invoice with
        status := (invoice.settledAs now covered).status
        paidAt := (invoice.settledAs now covered).paidAt } := by
  unfold settledAs
  repeat' split
  all_goals rfl

theorem id_settledAs (invoice : Invoice) (now : Moment) (covered : Bool) :
    (invoice.settledAs now covered).id = invoice.id := by
  rw [settledAs_columns]

theorem untimed_settledAs (invoice : Invoice) (now : Moment) (covered : Bool) :
    (invoice.settledAs now covered).untimed = invoice.untimed.bookedAs covered := by
  obtain ⟨id, studentId, period, total, status, number, issuedAt, paidAt⟩ := invoice
  cases status <;> cases covered <;> rfl

theorem bookedAs_bookedAs (invoice : Invoice) (first second : Bool) :
    (invoice.bookedAs first).bookedAs second = invoice.bookedAs second := by
  obtain ⟨id, studentId, period, total, status, number, issuedAt, paidAt⟩ := invoice
  cases status <;> cases first <;> cases second <;> rfl

theorem judged_bookedAs (invoice : Invoice) (covered : Bool) :
    (invoice.bookedAs covered).judged = invoice.judged := by
  obtain ⟨id, studentId, period, total, status, number, issuedAt, paidAt⟩ := invoice
  cases status <;> cases covered <;> rfl

/-- Invoices that are judged alike are owed alike. -/
theorem payable_eq_of_judged_eq {first second : Invoice} (same : first.judged = second.judged) :
    first.status.payable = second.status.payable := by
  have notOwed := congrArg (fun judged => judged.2.2.isNone) same
  cases one : first.status.payable <;> cases other : second.status.payable <;>
    simp [judged, one, other] at notOwed ⊢

end Invoice

namespace Store

variable {start store : Store} {done : List Booking} {booking : Booking}

/-- The payments after bookings, but for the keys of those that they add. -/
def paymentsAfter (start : Store) (done : List Booking) : List Payment :=
  start.payments.filter (fun payment => payment.id ∉ done.flatMap Booking.deleted) ++
    done.flatMap (Booking.added start)

/-- An invoice after bookings, but for the moment at which it was paid. -/
def invoiceAfter (start : Store) (done : List Booking) (invoice : Invoice) : Invoice :=
  if done.any (·.isOn start invoice.id) then
    invoice.bookedAs (invoice.coveredBy (Payment.centsOn (start.paymentsAfter done) invoice.id))
  else invoice.untimed

/-- Whether the invoice that a payment names is covered after bookings. -/
def coveredAfter (start : Store) (done : List Booking) (link : Option Int) : Bool :=
  (link.bind (Table.find? start.invoices)).any fun invoice =>
    invoice.coveredBy (Payment.centsOn (start.paymentsAfter done) invoice.id)

/-- Bookings that began in one store have come to another. -/
structure Booked (start : Store) (done : List Booking) (store : Store) : Prop where
  payments : (store.payments.map Payment.unkeyed).Perm
    ((start.paymentsAfter done).map Payment.unkeyed)
  invoices : store.invoices.map Invoice.untimed = start.invoices.map (start.invoiceAfter done)
  others : { store with invoices := [], payments := [] } =
    { start with invoices := [], payments := [] }
  undeleted : ∀ payment ∈ start.payments, payment.id ∉ done.flatMap Booking.deleted →
    payment ∈ store.payments
  keptInvoices : Table.WellKept store.invoices
  keptPayments : Table.WellKept store.payments

theorem booked_nil (keptInvoices : Table.WellKept start.invoices)
    (keptPayments : Table.WellKept start.payments) : start.Booked [] start where
  payments := by
    have all : start.paymentsAfter [] = start.payments := by simp [paymentsAfter]
    rw [all]
  invoices := rfl
  others := rfl
  undeleted _ mem _ := mem
  keptInvoices := keptInvoices
  keptPayments := keptPayments

/-! ## The verdict -/

theorem judged_untimed (invoice : Invoice) : invoice.untimed.judged = invoice.judged :=
  rfl

theorem judged_invoiceAfter (invoice : Invoice) :
    (start.invoiceAfter done invoice).judged = invoice.judged := by
  unfold invoiceAfter
  split
  · exact invoice.judged_bookedAs _
  · rfl

theorem id_invoiceAfter (invoice : Invoice) : (start.invoiceAfter done invoice).id = invoice.id :=
  congrArg Prod.fst (judged_invoiceAfter invoice)

/-- Whether an invoice can be paid on is told by what is judged of it. -/
theorem map_invoiceFor (store : Store) (command : Payments.PaymentCommand) (student : Student) :
    (store.invoiceFor command student).map (fun _ => ()) =
      match command.invoiceId with
      | none => .ok ()
      | some id =>
        match (Table.find? store.invoices id).map Invoice.judged with
        | none => .error (.noInvoice id)
        | some (key, owner, notOwed) =>
          if owner ≠ student.id then .error (.otherStudent key student.id owner)
          else
            match notOwed with
            | none => .ok ()
            | some status => .error (.notPayable key status) := by
  unfold invoiceFor
  cases command.invoiceId with
  | none => rfl
  | some id =>
      dsimp only
      cases Table.find? store.invoices id with
      | none => rfl
      | some invoice =>
          dsimp only [Option.map_some, Invoice.judged]
          split
          · rfl
          · cases invoice.status.payable <;> rfl

/-- The judgement on a payment takes from the invoices only what is judged of them. -/
theorem judge_congr {one other : Store} (students : one.students = other.students)
    (invoices : ∀ id, (Table.find? one.invoices id).map Invoice.judged =
      (Table.find? other.invoices id).map Invoice.judged) (command : Payments.PaymentCommand) :
    one.judge command = other.judge command := by
  have toSettle (student : Student) : (one.invoiceFor command student).map (fun _ => ()) =
      (other.invoiceFor command student).map fun _ => () := by
    rw [map_invoiceFor, map_invoiceFor]
    cases command.invoiceId with
    | none => rfl
    | some id =>
        dsimp only
        rw [invoices]
  unfold judge
  rw [students]
  refine bind_congr fun _ => ?_
  cases Table.find? other.students command.studentId with
  | none => rfl
  | some student =>
      refine bind_congr fun _ => ?_
      have same := toSettle student
      cases found : one.invoiceFor command student with
      | error refusal =>
          rw [found] at same
          rw [map_eq_error_iff.mp same.symm]
      | ok invoice =>
          rw [found] at same
          obtain ⟨twin, there, -⟩ := map_eq_ok_iff.mp same.symm
          rw [there]
          rfl

namespace Booked

theorem map_find? (booked : start.Booked done store) (id : Int) :
    (Table.find? store.invoices id).map Invoice.untimed =
      (Table.find? start.invoices id).map (start.invoiceAfter done) := by
  rw [← Table.find?_untimed, booked.invoices, Table.find?_map id_invoiceAfter]

theorem students (booked : start.Booked done store) : store.students = start.students := by
  have others := congrArg Store.students booked.others
  exact others

/-- Bookings change no judgement. -/
theorem judge (booked : start.Booked done store) (command : Payments.PaymentCommand) :
    store.judge command = start.judge command := by
  refine judge_congr booked.students (fun id => ?_) command
  have same := congrArg (Option.map Invoice.judged) (booked.map_find? id)
  rw [Option.map_map, Option.map_map] at same
  have after : Invoice.judged ∘ start.invoiceAfter done = Invoice.judged :=
    funext judged_invoiceAfter
  rwa [after] at same

end Booked

/-! ## A single booking -/

/-- Settling writes over the invoice that is named, if it is there. -/
theorem settledOn_invoices (kept : Table.WellKept store.invoices) (link : Option Int)
    (now : Moment) (covered : Bool) :
    (store.settledOn link now covered).invoices = store.invoices.map fun invoice =>
      if link = some invoice.id then invoice.settledAs now covered else invoice := by
  unfold settledOn
  cases named : link.bind (Table.find? store.invoices) with
  | none =>
      have nowhere : ∀ invoice ∈ store.invoices, link ≠ some invoice.id := by
        rintro invoice mem rfl
        rw [Option.bind_some] at named
        exact Table.find?_eq_none_iff.mp named invoice mem rfl
      exact (List.map_id' _).symm.trans
        (List.map_congr_left fun invoice mem => (if_neg (nowhere invoice mem)).symm)
  | some invoice =>
      obtain ⟨id, rfl, found⟩ := Option.bind_eq_some_iff.mp named
      obtain rfl : invoice.id = id := Table.key_of_find? found
      have mem := Table.mem_of_find? found
      refine List.map_congr_left fun other memOther => ?_
      rw [invoice.id_settledAs]
      by_cases same : other.id = invoice.id
      · rw [if_pos same, if_pos (congrArg some same.symm),
          kept.ordered.eq_of_key_eq memOther mem same]
      · have different : some invoice.id ≠ some other.id := fun equal =>
          same (Option.some.inj equal).symm
        rw [if_neg same]
        exact (if_neg different).symm

/-- Settling leaves the rules on invoices kept. -/
theorem wellKept_settledOn (kept : Table.WellKept store.invoices) (link : Option Int)
    (now : Moment) (covered : Bool) :
    Table.WellKept (store.settledOn link now covered).invoices := by
  rw [settledOn_invoices kept]
  let edit (invoice : Invoice) : Invoice :=
    if link = some invoice.id then invoice.settledAs now covered else invoice
  have columns (invoice : Invoice) : edit invoice =
      { invoice with status := (edit invoice).status, paidAt := (edit invoice).paidAt } := by
    by_cases hit : link = some invoice.id
    · simp only [edit, if_pos hit]
      exact invoice.settledAs_columns now covered
    · simp only [edit, if_neg hit]
  refine kept.map (fun invoice => ?_) (fun invoice => ?_) nofun
    fun combination listed one other => ?_
  · show Row.key (edit invoice) = _
    rw [columns]
    rfl
  · show Row.words (edit invoice) = _
    rw [columns]
    rfl
  · show combination.2 (edit one) (edit other) = _
    rw [columns one, columns other]
    rcases List.mem_cons.mp listed with rfl | rest
    · rfl
    · rw [List.mem_singleton.mp rest]

theorem bookedAs_invoiceAfter (invoice : Invoice) (covered : Bool) :
    (start.invoiceAfter done invoice).bookedAs covered = invoice.bookedAs covered := by
  unfold invoiceAfter
  split
  · exact invoice.bookedAs_bookedAs _ covered
  · rfl

theorem coveredAfter_of_mem (kept : Table.WellKept start.invoices) {invoice : Invoice}
    (mem : invoice ∈ start.invoices) : start.coveredAfter done (some invoice.id) =
      invoice.coveredBy (Payment.centsOn (start.paymentsAfter done) invoice.id) := by
  have found : Table.find? start.invoices invoice.id = some invoice :=
    kept.ordered.find?_eq_some_iff.mpr ⟨mem, rfl⟩
  rw [coveredAfter, Option.bind_some, found, Option.any_some]

theorem total_invoiceAfter (invoice : Invoice) :
    (start.invoiceAfter done invoice).total = invoice.total := by
  unfold invoiceAfter
  split <;> rfl

/-- A booking has changed the payments of a store, on one invoice at most, and that one
is yet to be settled. -/
structure Posted (start : Store) (done : List Booking) (booking : Booking) (store paid : Store)
    (link : Option Int) : Prop where
  booked : start.Booked done store
  invoices : paid.invoices = store.invoices
  others : { paid with invoices := [], payments := [] } =
    { store with invoices := [], payments := [] }
  payments : (paid.payments.map Payment.unkeyed).Perm
    ((start.paymentsAfter (done ++ [booking])).map Payment.unkeyed)
  undeleted : ∀ payment ∈ start.payments,
    payment.id ∉ (done ++ [booking]).flatMap Booking.deleted → payment ∈ paid.payments
  keptPayments : Table.WellKept paid.payments
  isOn_iff : ∀ id, booking.isOn start id = true ↔ link = some id
  elsewhere : ∀ id, link ≠ some id →
    Payment.centsOn (start.paymentsAfter (done ++ [booking])) id =
    Payment.centsOn (start.paymentsAfter done) id

namespace Posted

variable {paid : Store} {link : Option Int} (posted : start.Posted done booking store paid link)
include posted

/-- Settling the invoice brings the invoices on. -/
theorem invoices_settledOn (kept : Table.WellKept start.invoices) (now : Moment) :
    (paid.settledOn link now (start.coveredAfter (done ++ [booking]) link)).invoices.map
        Invoice.untimed =
      start.invoices.map (start.invoiceAfter (done ++ [booking])) := by
  -- Settling writes over one invoice at most; on all others the cents are what they were.
  let write (invoice : Invoice) : Invoice :=
    if link = some invoice.id then invoice.bookedAs (start.coveredAfter (done ++ [booking]) link)
    else invoice
  have written :
      (paid.settledOn link now (start.coveredAfter (done ++ [booking]) link)).invoices.map
        Invoice.untimed = (store.invoices.map Invoice.untimed).map write := by
    rw [settledOn_invoices (posted.invoices ▸ posted.booked.keptInvoices), posted.invoices,
      List.map_map, List.map_map]
    refine List.map_congr_left fun invoice _ => ?_
    have untimed : invoice.untimed.id = invoice.id := rfl
    simp only [Function.comp_apply, write, untimed]
    split
    · exact invoice.untimed_settledAs now _
    · rfl
  rw [written, posted.booked.invoices, List.map_map]
  refine List.map_congr_left fun invoice mem => ?_
  simp only [Function.comp_apply, write, id_invoiceAfter]
  by_cases named : link = some invoice.id
  · have any : (done ++ [booking]).any (·.isOn start invoice.id) = true := by
      simp [(posted.isOn_iff invoice.id).mpr named]
    rw [if_pos named, bookedAs_invoiceAfter, invoiceAfter, if_pos any, named,
      coveredAfter_of_mem kept mem]
  · have notOn : booking.isOn start invoice.id = false :=
      Bool.eq_false_iff.mpr fun isOn => named ((posted.isOn_iff invoice.id).mp isOn)
    rw [if_neg named]
    simp only [invoiceAfter, List.any_append, List.any_cons, List.any_nil, notOn, Bool.or_false,
      posted.elsewhere invoice.id named]

/-- Settling the invoice brings the records on. -/
theorem settle (kept : Table.WellKept start.invoices) (now : Moment) :
    start.Booked (done ++ [booking])
      (paid.settledOn link now (start.coveredAfter (done ++ [booking]) link)) := by
  have keptInvoices : Table.WellKept paid.invoices := posted.invoices ▸ posted.booked.keptInvoices
  have settled := settledOn_eq paid link now (start.coveredAfter (done ++ [booking]) link)
  refine ⟨?_, posted.invoices_settledOn kept now, ?_, ?_,
    wellKept_settledOn keptInvoices link now _, ?_⟩
  · rw [settled]
    exact posted.payments
  · rw [settled]
    exact posted.others.trans posted.booked.others
  · rw [settled]
    exact posted.undeleted
  · rw [settled]
    exact posted.keptPayments

/-- It is decided whether the invoice is covered. -/
theorem decides
    (exact : Amount.SumsExact ((start.paymentsAfter (done ++ [booking])).map Payment.amount))
    (bounded : ∀ invoice ∈ start.invoices, invoice.status.payable = true →
      link = some invoice.id →
      (Payment.centsOn (start.paymentsAfter (done ++ [booking])) invoice.id).natAbs < 10 ^ 28)
    (numbers : ∀ invoice ∈ start.invoices, invoice.total.IsNumber) :
    paid.Decides link (start.coveredAfter (done ++ [booking]) link) := by
  intro invoice named payable
  obtain ⟨id, rfl, found⟩ := Option.bind_eq_some_iff.mp named
  obtain rfl : invoice.id = id := Table.key_of_find? found
  rw [posted.invoices] at found
  -- What bookings have left of the invoice has the total of the start and
  -- is owed as at the start.
  have begun := posted.booked.map_find? invoice.id
  rw [found, Option.map_some, eq_comm, Option.map_eq_some_iff] at begun
  obtain ⟨first, there, after⟩ := begun
  have mem := Table.mem_of_find? there
  have total : first.total = invoice.total :=
    (total_invoiceAfter first).symm.trans (by rw [after]; rfl)
  have key : first.id = invoice.id := Table.key_of_find? there
  have judged : first.judged = invoice.judged :=
    (judged_invoiceAfter first).symm.trans
      ((congrArg Invoice.judged after).trans (judged_untimed invoice))
  have owed : first.status.payable = true :=
    (Invoice.payable_eq_of_judged_eq judged).trans payable
  have cents := Payment.centsOn_eq posted.payments invoice.id
  have exactPaid : Amount.SumsExact (paid.payments.map Payment.amount) :=
    exact.mono (Payment.perm_amounts posted.payments).subperm
  have bound := bounded first mem owed (congrArg some key.symm)
  have rounds : Money.round (.ofCents (Payment.centsOn paid.payments invoice.id)) =
      .ok (.ofCents (Payment.centsOn paid.payments invoice.id)) :=
    (Decimal.isCents_ofCents _).quantize_eq (cents ▸ key ▸ bound)
  refine ⟨_, (paidOn_eq exactPaid invoice.id).trans (by rw [rounds]; rfl), ?_⟩
  have number : invoice.total.IsNumber := total ▸ numbers first mem
  rw [Invoice.covers_eq_coveredBy number, cents, coveredAfter, Option.bind_some, there,
    Option.any_some, key]
  simp only [Invoice.coveredBy, Row.shown, total]

end Posted

/-! ## Recording and deleting -/

theorem paymentsAfter_append (done : List Booking) (booking : Booking) :
    start.paymentsAfter (done ++ [booking]) =
      start.payments.filter (fun payment =>
          payment.id ∉ done.flatMap Booking.deleted ++ booking.deleted) ++
        (done.flatMap (Booking.added start) ++ booking.added start) := by
  simp only [paymentsAfter, List.flatMap_append, List.flatMap_singleton]

theorem centsOn_append (first second : List Payment) (id : Int) :
    Payment.centsOn (first ++ second) id =
      Payment.centsOn first id + Payment.centsOn second id := by
  simp [Payment.centsOn]

theorem paymentsAfter_record {command : Payments.PaymentCommand} {row : Payment}
    (accepted : start.judge command = .ok row) :
    start.paymentsAfter (done ++ [.record command]) = start.paymentsAfter done ++ [row] := by
  have added : (Booking.record command).added start = [row] := by
    simp [Booking.added, accepted, Except.toOption]
  rw [paymentsAfter_append, added, paymentsAfter]
  simp [Booking.deleted]

/-- A payment that is accepted has been recorded, and its invoice is yet to be settled. -/
theorem Booked.posted_record {command : Payments.PaymentCommand} {row : Payment}
    (booked : start.Booked done store) (fits : Word.fits (Table.nextKey store.payments))
    (accepted : start.judge command = .ok row) :
    start.Posted done (.record command) store (store.withPayment row) command.invoiceId := by
  have judged : store.judge command = .ok row := (booked.judge command).trans accepted
  have link := (row_of_judge accepted).2
  have after : start.paymentsAfter (done ++ [.record command]) =
      start.paymentsAfter done ++ [row] :=
    paymentsAfter_record accepted
  refine ⟨booked, rfl, rfl, ?_, ?_, wellKept_withPayment booked.keptPayments fits judged, ?_, ?_⟩
  · have unkeyed : (store.withPayment row).payments.map Payment.unkeyed =
        store.payments.map Payment.unkeyed ++ [row.unkeyed] := by
      simp [withPayment, Payment.unkeyed]
    rw [unkeyed, after, List.map_append]
    exact booked.payments.append_right _
  · intro payment mem remains
    refine List.mem_append_left _ (booked.undeleted payment mem fun gone => remains ?_)
    rw [List.flatMap_append]
    exact List.mem_append_left _ gone
  · intro id
    simp [Booking.isOn, accepted, Except.toOption, link]
  · intro id other
    rw [after, centsOn_append]
    simp [Payment.centsOn, link, other]

/-- A table is a row of it and the others. -/
theorem perm_cons_erase {rows : List Payment} (ordered : Table.Ordered rows) {payment : Payment}
    (mem : payment ∈ rows) : rows.Perm (payment :: Table.erase rows payment.id) := by
  have distinct : rows.Nodup := ordered.imp fun below same => by
    rw [same] at below
    exact absurd below (Int.lt_irrefl _)
  have erased : rows.erase payment = Table.erase rows payment.id := by
    rw [distinct.erase_eq_filter]
    refine List.filter_congr fun other memOther => ?_
    have keys : other = payment ↔ Row.key other = payment.id :=
      ⟨congrArg Row.key, ordered.eq_of_key_eq memOther mem⟩
    rw [Bool.eq_iff_iff, bne_iff_ne, bne_iff_ne, Ne, Ne, keys]
  rw [← erased]
  exact List.perm_cons_erase mem

theorem paymentsAfter_delete (ordered : Table.Ordered start.payments) {payment : Payment}
    (mem : payment ∈ start.payments) (once : payment.id ∉ done.flatMap Booking.deleted) :
    (start.paymentsAfter done).Perm
      (payment :: start.paymentsAfter (done ++ [.delete payment.id])) := by
  have there : payment ∈ start.payments.filter fun other =>
      other.id ∉ done.flatMap Booking.deleted :=
    List.mem_filter.mpr ⟨mem, by simpa using once⟩
  have apart := perm_cons_erase (ordered.filter _) there
  have erased : Table.erase (start.payments.filter fun other =>
        other.id ∉ done.flatMap Booking.deleted) payment.id =
      start.payments.filter fun other =>
        other.id ∉ done.flatMap Booking.deleted ++ [payment.id] := by
    rw [Table.erase, List.filter_filter]
    refine List.filter_congr fun other _ => ?_
    have key : Row.key other = other.id := rfl
    rw [Bool.eq_iff_iff]
    simp [key, and_comm]
  rw [erased] at apart
  rw [paymentsAfter_append, paymentsAfter]
  simpa [Booking.added, Booking.deleted] using
    apart.append_right (done.flatMap (Booking.added start))

/-- A payment that was there at the start has been deleted, and its invoice
is yet to be settled. -/
theorem Booked.posted_delete {payment : Payment} (booked : start.Booked done store)
    (ordered : Table.Ordered start.payments) (mem : payment ∈ start.payments)
    (once : payment.id ∉ done.flatMap Booking.deleted) :
    start.Posted done (.delete payment.id) store (store.withoutPayment payment.id)
      payment.invoiceId := by
  have after := (paymentsAfter_delete ordered mem once).map Payment.unkeyed
  have there := booked.undeleted payment mem once
  have deleted : (done ++ [Booking.delete payment.id]).flatMap Booking.deleted =
      done.flatMap Booking.deleted ++ [payment.id] := by
    simp [Booking.deleted]
  refine ⟨booked, rfl, rfl, ?_, ?_, booked.keptPayments.erase payment.id, ?_, ?_⟩
  · -- Payments that were recorded may be equal but for their keys,
    -- so the deleted one is canceled.
    have apart := (perm_cons_erase booked.keptPayments.ordered there).map Payment.unkeyed
    exact List.Perm.cons_inv (apart.symm.trans (booked.payments.trans after))
  · intro other memOther remains
    rw [deleted, List.mem_append, not_or] at remains
    exact Table.mem_erase_iff.mpr ⟨booked.undeleted other memOther remains.1,
      fun key => remains.2 (List.mem_singleton.mpr key)⟩
  · intro id
    simp only [Booking.isOn, List.any_eq_true, Bool.and_eq_true, beq_iff_eq]
    constructor
    · rintro ⟨other, memOther, key, named⟩
      rwa [ordered.eq_of_key_eq memOther mem key] at named
    · intro named
      exact ⟨payment, mem, rfl, named⟩
  · intro id other
    rw [Payment.centsOn_eq after]
    simp [Payment.centsOn, other]

end Store
end Tuition
