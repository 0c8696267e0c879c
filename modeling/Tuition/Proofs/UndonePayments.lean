/-
# Payments that are undone

A payment that was recorded is deleted right afterwards. Its invoice is settled twice, once with
the payment and once without it, and nothing remembers how it stood before; still it comes back to
where it was, because in sound accounts its state was that of its payments. One invoice does not:
if nothing is owed on it, it is issued all the same when it gets its number, and the first
settling, which is that of the payment, turns it to paid for good.

No proviso is made about sums. Where they are inexact, a payment may lower the sum of its invoice
and turn it from paid to issued; deleting it then pays the invoice anew, at another moment.
-/

import Tuition.Proofs.Bookings
import Tuition.Proofs.Charges
import Tuition.Proofs.SoundAccounts

namespace Tuition

open Tx

/-! ## Settling twice -/

namespace Store

variable {store : Store} {invoice : Invoice} {link : Option Int} {now later : Moment}
  {first second covered : Bool}

/-- What was written over an invoice gives way to what is written over it next. -/
theorem withInvoice_withInvoice {edited again : Invoice} (same : again.id = edited.id) :
    (store.withInvoice edited).withInvoice again = store.withInvoice again := by
  unfold withInvoice
  refine congrArg (fun invoices => { store with invoices }) ?_
  dsimp only
  rw [List.map_map]
  refine List.map_congr_left fun other _ => ?_
  by_cases own : other.id = edited.id
  · simp [own, same]
  · simp [own, same]

theorem find?_withInvoice {edited : Invoice} (same : edited.id = invoice.id) {id : Int}
    (found : Table.find? store.invoices id = some invoice) :
    Table.find? (store.withInvoice edited).invoices id = some edited := by
  have keys (other : Invoice) :
      Row.key (if other.id = edited.id then edited else other) = Row.key other := by
    split
    · next own => exact own.symm
    · rfl
  unfold withInvoice
  rw [Table.find?_map keys, found, Option.map_some, if_pos same.symm]

/-- Settling the invoice of a payment where one is found. -/
theorem settledOn_of_some (named : link.bind (Table.find? store.invoices) = some invoice) :
    store.settledOn link now covered = store.withInvoice (invoice.settledAs now covered) := by
  unfold settledOn
  rw [named]

theorem settledOn_of_none (named : link.bind (Table.find? store.invoices) = none) :
    store.settledOn link now covered = store := by
  unfold settledOn
  rw [named]

/-- After settling, the invoice of a payment is found as it was settled. -/
theorem bind_find?_settledOn (store : Store) (link : Option Int) (now : Moment) (covered : Bool) :
    link.bind (Table.find? (store.settledOn link now covered).invoices) =
      (link.bind (Table.find? store.invoices)).map (·.settledAs now covered) := by
  cases named : link.bind (Table.find? store.invoices) with
  | none =>
      rw [settledOn_of_none named, named]
      rfl
  | some invoice =>
      obtain ⟨id, rfl, found⟩ := Option.bind_eq_some_iff.mp named
      rw [settledOn_of_some named]
      exact find?_withInvoice (invoice.id_settledAs now covered) found

theorem settledOn_settledOn (named : link.bind (Table.find? store.invoices) = some invoice) :
    (store.settledOn link now first).settledOn link later second =
      store.withInvoice ((invoice.settledAs now first).settledAs later second) := by
  have again := store.bind_find?_settledOn link now first
  rw [named, Option.map_some] at again
  rw [settledOn_of_some again, settledOn_of_some named, withInvoice_withInvoice]
  exact Invoice.id_settledAs _ later second

/-- Whether an invoice is covered stays decided while the invoice is settled. -/
theorem Decides.settledOn (decides : store.Decides link covered) (now : Moment) (first : Bool) :
    (store.settledOn link now first).Decides link covered := by
  intro edited found payable
  rw [bind_find?_settledOn, Option.map_eq_some_iff] at found
  obtain ⟨invoice, named, rfl⟩ := found
  have columns := invoice.settledAs_columns now first
  have owed : invoice.status.payable = true := by
    unfold Invoice.settledAs at payable
    cases status : invoice.status with
    | issued => rfl
    | paid => rfl
    | draft => simp [status, InvoiceStatus.payable] at payable
    | canceled => simp [status, InvoiceStatus.payable] at payable
  obtain ⟨paid, sum, compared⟩ := decides invoice named owed
  have total : (Row.shown (invoice.settledAs now first)).total = (Row.shown invoice).total := by
    rw [columns]
    rfl
  refine ⟨paid, ?_, total ▸ compared⟩
  rw [invoice.id_settledAs, settledOn_eq]
  exact sum

theorem SoundAccounts.exists_decides (sound : store.SoundAccounts) (link : Option Int) :
    ∃ covered, store.Decides link covered := by
  cases named : link.bind (Table.find? store.invoices) with
  | none => exact ⟨false, fun invoice found => by cases named.symm.trans found⟩
  | some invoice =>
      obtain ⟨id, -, found⟩ := Option.bind_eq_some_iff.mp named
      cases payable : invoice.status.payable with
      | false =>
          refine ⟨false, fun other there owed => ?_⟩
          cases named.symm.trans there
          cases payable.symm.trans owed
      | true =>
          obtain ⟨covered, decided⟩ := sound.exists_coveredIs (Table.mem_of_find? found) payable
          refine ⟨covered, fun other there owed => ?_⟩
          cases named.symm.trans there
          exact decided

/-! ## A payment and its deletion -/

/-- Where a payment was added under a new key, deleting that key leaves the
payments as they were. -/
theorem withoutPayment_withPayment (store : Store) (payment : Payment) :
    (store.withPayment payment).withoutPayment (Table.nextKey store.payments) = store := by
  have others : Table.erase store.payments (Table.nextKey store.payments) = store.payments := by
    refine List.filter_eq_self.mpr fun other mem => ?_
    exact bne_iff_ne.mpr (Int.ne_of_lt (Table.key_lt_nextKey mem))
  have erased : Table.erase (store.withPayment payment).payments (Table.nextKey store.payments) =
      store.payments := by
    unfold withPayment Table.erase
    rw [List.filter_append]
    refine (congrArg (· ++ _) others).trans ?_
    simp [Row.key]
  unfold withoutPayment
  rw [erased]
  rfl

/-- Settling does not touch the payments, so it makes no difference whether
one is deleted before. -/
theorem withoutPayment_settledOn (store : Store) (link : Option Int) (now : Moment)
    (covered : Bool) (id : Int) : (store.settledOn link now covered).withoutPayment id =
      (store.withoutPayment id).settledOn link now covered := by
  have same : (store.withoutPayment id).invoices = store.invoices := rfl
  unfold settledOn
  rw [same]
  cases link.bind (Table.find? store.invoices) <;> rfl

end Store

/-- Settling an invoice leaves it as it is decided that its payments cover it or not. -/
theorem Settles.eq_withInvoice {now : Moment} {store after : Store} {invoice : Invoice}
    (settles : Settles now store invoice after) (kept : Table.WellKept store.invoices)
    (mem : invoice ∈ store.invoices) :
    ∃ covered, (invoice.status.payable = true → store.CoveredIs invoice covered) ∧
      after = store.withInvoice (invoice.settledAs now covered) := by
  have self := Store.withInvoice_self kept mem
  cases settles with
  | notOwed notPayable =>
      refine ⟨false, fun payable => ?_, ?_⟩
      · cases notPayable.symm.trans payable
      · simp [Invoice.settledAs, notPayable, self]
  | stillPaid status sum covered =>
      refine ⟨true, fun _ => ⟨_, sum, covered⟩, ?_⟩
      simp [Invoice.settledAs, status, self]
  | stillIssued status sum uncovered =>
      refine ⟨false, fun _ => ⟨_, sum, uncovered⟩, ?_⟩
      simp [Invoice.settledAs, status, self]
  | becamePaid status sum covered written =>
      refine ⟨true, fun _ => ⟨_, sum, covered⟩, ?_⟩
      rw [(Table.replace_eq_ok_iff.mp written).1]
      simp [Invoice.settledAs, status, InvoiceStatus.payable]
      rfl
  | reopened status sum uncovered written =>
      refine ⟨false, fun _ => ⟨_, sum, uncovered⟩, ?_⟩
      rw [(Table.replace_eq_ok_iff.mp written).1]
      simp [Invoice.settledAs, status, InvoiceStatus.payable]
      rfl

namespace Payments

variable {now : Moment} {before after : Store} {command : PaymentCommand} {kept : Payment}

/-- A payment is recorded under the next key, and its invoice is settled with it. -/
theorem Records.eq_settledOn (records : Records now before command kept after)
    (rules : Table.WellKept before.invoices) :
    kept.id = Table.nextKey before.payments ∧ kept.invoiceId = command.invoiceId ∧
      ∃ covered, (before.withPayment kept).Decides command.invoiceId covered ∧
        after = (before.withPayment kept).settledOn command.invoiceId now covered := by
  have placed {amount : Decimal} {payments : List Payment}
      (written : Table.insert before.payments (command.asked amount) = .ok (kept, payments)) :
      kept.id = Table.nextKey before.payments ∧ kept.invoiceId = command.invoiceId ∧
        { before with payments } = before.withPayment kept := by
    have link := (Store.owner_of_insert written).1
    obtain ⟨rfl, -, key, -⟩ := Table.insert_eq_ok written
    have own : { kept with id := Table.nextKey before.payments } = kept := by
      rw [← key]
      rfl
    exact ⟨key, link,
      congrArg (fun row => { before with payments := before.payments ++ [row] }) own.symm⟩
  cases records with
  | loose unlinked rounded written =>
      obtain ⟨key, link, same⟩ := placed written
      refine ⟨key, link, false, ?_, ?_⟩
      · intro invoice found
        rw [unlinked] at found
        cases found
      · rw [same, unlinked]
        rfl
  | @linked _ _ _ invoice _ named found owner payable rounded written settles =>
      obtain ⟨key, link, same⟩ := placed written
      rw [same] at settles
      have mem : invoice ∈ (before.withPayment kept).invoices := Table.mem_of_find? found
      have there : command.invoiceId.bind (Table.find? (before.withPayment kept).invoices) =
          some invoice := by
        rw [named]
        exact found
      obtain ⟨covered, decided, shape⟩ := settles.eq_withInvoice rules mem
      refine ⟨key, link, covered, ?_, ?_⟩
      · intro other found owed
        cases there.symm.trans found
        exact decided owed
      · rw [shape, Store.settledOn_of_some there]

end Payments

/-! ## The round trip -/

namespace Store

variable {store : Store} {invoice : Invoice} {payment : Payment} {covered : Bool}

/-- Where sums are exact, a covered invoice stays covered with one payment more. -/
theorem CoveredIs.withPayment (decided : store.CoveredIs invoice true)
    (rules : Table.WellKept (store.withPayment payment).payments)
    (exact : Amount.SumsExact ((store.withPayment payment).payments.map Payment.amount))
    (again : (store.withPayment payment).CoveredIs invoice covered) : covered = true := by
  obtain ⟨paid, sum, compared⟩ := decided
  obtain ⟨more, sumMore, comparedMore⟩ := again
  let added : Payment := { payment with id := Table.nextKey store.payments }
  have fewer : store.payments.Sublist (store.withPayment payment).payments :=
    List.sublist_append_left store.payments [added]
  have one := isCents_of_paidOn (exact.mono (fewer.map Payment.amount).subperm) sum
  have other := isCents_of_paidOn exact sumMore
  have least : 0 ≤ Payment.centsOn [added] invoice.id := by
    refine List.sum_nonneg fun cents mem => ?_
    obtain ⟨listed, among, rfl⟩ := List.mem_map.mp mem
    exact rules.cents_nonneg (List.mem_append_right _ (List.mem_filter.mp among).1)
  have parts : Payment.centsOn (store.withPayment payment).payments invoice.id =
      Payment.centsOn store.payments invoice.id + Payment.centsOn [added] invoice.id :=
    centsOn_append store.payments [added] invoice.id
  have le : Payment.centsOn store.payments invoice.id ≤
      Payment.centsOn (store.withPayment payment).payments invoice.id := by omega
  have places := Decimal.twoPlaces_shown invoice.total
  exact Except.ok.inj (comparedMore.symm.trans (one.covers_mono other le places compared))

/-- What recording a payment at one moment and deleting it at another leaves of a store. -/
inductive Undone (before : Store) (link : Option Int) (recorded deleted : Moment)
    (payments : List Payment) : Store → Prop
  /-- All is as before, unless the invoice was issued though nothing is owed on it. -/
  | same (owing : ∀ invoice, link.bind (Table.find? before.invoices) = some invoice →
      invoice.status = .issued → ¬OwesNothing invoice) :
      Undone before link recorded deleted payments before
  /-- An unpaid invoice on which nothing is owed stays paid since the payment. -/
  | leftPaid {invoice : Invoice} (named : link.bind (Table.find? before.invoices) = some invoice)
      (issued : invoice.status = .issued) (owes : OwesNothing invoice)
      (unpaid : before.Unpaid invoice) :
      Undone before link recorded deleted payments
        (before.withInvoice { invoice with status := .paid, paidAt := some recorded })
  /-- A paid invoice, which the payment turned to issued by an inexact sum, is paid anew. -/
  | paidAnew {invoice : Invoice} (named : link.bind (Table.find? before.invoices) = some invoice)
      (paid : invoice.status = .paid)
      (inexact : ¬Amount.SumsExact (payments.map Payment.amount)) :
      Undone before link recorded deleted payments
        (before.withInvoice { invoice with paidAt := some deleted })

/-- Settling an invoice with a payment and then without it leaves it as it was, but for the two
exceptions. -/
theorem SoundAccounts.undone {link : Option Int} {recorded deleted : Moment} {first second : Bool}
    (sound : store.SoundAccounts) (rules : Table.WellKept (store.withPayment payment).payments)
    (decides : (store.withPayment payment).Decides link first)
    (decidesBefore : store.Decides link second) :
    store.Undone link recorded deleted (store.withPayment payment).payments
      ((store.settledOn link recorded first).settledOn link deleted second) := by
  cases named : link.bind (Table.find? store.invoices) with
  | none =>
      rw [settledOn_of_none named, settledOn_of_none named]
      exact .same fun invoice found => by cases named.symm.trans found
  | some invoice =>
      obtain ⟨id, -, found⟩ := Option.bind_eq_some_iff.mp named
      have mem := Table.mem_of_find? found
      have self := withInvoice_self sound.invoices mem
      have back {edited : Invoice} (same : edited = invoice)
          (owing : invoice.status = .issued → ¬OwesNothing invoice) :
          store.Undone link recorded deleted (store.withPayment payment).payments
            (store.withInvoice edited) := by
        rw [same, self]
        refine .same fun other there issued => ?_
        cases named.symm.trans there
        exact owing issued
      rw [settledOn_settledOn named]
      cases status : invoice.status with
      | draft =>
          refine back ?_ (by simp [status])
          simp [Invoice.settledAs, status, InvoiceStatus.payable]
      | canceled =>
          refine back ?_ (by simp [status])
          simp [Invoice.settledAs, status, InvoiceStatus.payable]
      | issued =>
          have payable : invoice.status.payable = true := by rw [status]; rfl
          have now := decides invoice named payable
          have before := decidesBefore invoice named payable
          have unpaidAt := (sound.reconciled.paidAt mem).2 status
          rcases sound.coveredIs_of_issued mem status with
            uncovered | ⟨⟨owes, unpaid⟩, coveredBefore⟩
          · obtain rfl := uncovered.unique before
            refine back ?_ fun _ owes => ?_
            · obtain ⟨key, studentId, period, total, state, number, issuedAt, paidAt⟩ := invoice
              cases status
              cases unpaidAt
              cases first <;> rfl
            · cases uncovered.of_owesNothing sound.payments owes
          · obtain rfl := coveredBefore.unique before
            obtain rfl := CoveredIs.of_owesNothing now rules owes
            have left : (invoice.settledAs recorded true).settledAs deleted true =
                { invoice with status := .paid, paidAt := some recorded } := by
              simp [Invoice.settledAs, status, InvoiceStatus.payable]
            rw [left]
            exact .leftPaid named status owes unpaid
      | paid =>
          have payable : invoice.status.payable = true := by rw [status]; rfl
          have now := decides invoice named payable
          have before := decidesBefore invoice named payable
          have covered := sound.coveredIs_of_paid mem status
          obtain rfl := covered.unique before
          cases first with
          | true => exact back (by simp [Invoice.settledAs, status]) (by simp [status])
          | false =>
              have left : (invoice.settledAs recorded false).settledAs deleted true =
                  { invoice with paidAt := some deleted } := by
                simp [Invoice.settledAs, status, InvoiceStatus.payable]
              rw [left]
              refine .paidAnew named status fun exact => ?_
              cases covered.withPayment rules exact now

end Store

namespace Payments

variable {reached after : World} {command : PaymentCommand}

/-- In a session a payment is recorded or refused, whatever was pending before. -/
theorem exists_recordedOrRefused (reached : World) (command : PaymentCommand) :
    ∃ result after, (session (recordPayment command)).perform reached = (.ok result, after) ∧
      RecordedOrRefused reached.begin command result after := by
  have recorded := ends_recordPayment_recorded command reached.settled_begin
  have settles : ∀ result after, RecordedOrRefused reached.begin command result after →
      after.Settled := by
    rintro (refusal | receipt) last ends
    · exact World.Moves.settled ends
    · obtain ⟨kept, -, recorded⟩ := ends
      exact recorded.moves.settled
  obtain ⟨result, after, -, performed, -⟩ :=
    (ends_as_session reached.settled_begin (recorded.weaken settles)).exists_ok
  refine ⟨result, after, (perform_session_begin _ _).symm.trans performed, ?_⟩
  exact recorded.of_session reached.settled_begin settles performed

/-- What a payment that is accepted in a session has done, whatever was pending before. -/
theorem recorded_of_accepted {receipt : Receipt}
    (accepted : (session (recordPayment command)).perform reached = (.ok (.ok receipt), after)) :
    ∃ kept, receipt.payment = Row.shown kept ∧ Recorded reached.begin command kept after := by
  obtain ⟨_, _, performed, recorded⟩ := exists_recordedOrRefused reached command
  cases accepted.symm.trans performed
  exact recorded

/-- In sound accounts a payment that was recorded can be deleted again, which leaves nothing of it
but for the two exceptions. -/
theorem Recorded.undone {kept : Payment} (recorded : Recorded reached command kept after)
    (sound : reached.store.SoundAccounts) (tables : reached.hasTables = true) (later : Moment) :
    ∃ last,
      (session (deletePayment kept.id)).perform { after with outages := [], now := later } =
        (.ok (.ok ()), last) ∧
      reached.store.Undone command.invoiceId reached.now later after.store.payments
        last.store := by
  let begun : World := { after with outages := [], now := later }
  have calm : begun.Calm := ⟨recorded.moves.hasTables.trans tables, rfl⟩
  have settled : begun.Settled := recorded.moves.settled
  have soundAfter := recorded.records.transaction.soundAccounts sound
  obtain ⟨key, link, first, decides, shape⟩ := recorded.records.eq_settledOn sound.invoices
  obtain ⟨second, decidesBefore⟩ := sound.exists_decides command.invoiceId
  have payments : after.store.payments = (reached.store.withPayment kept).payments := by
    rw [shape, Store.settledOn_eq]
  have removed : begun.store.withoutPayment kept.id =
      reached.store.settledOn command.invoiceId reached.now first := by
    show after.store.withoutPayment kept.id = _
    rw [shape, Store.withoutPayment_settledOn, key, Store.withoutPayment_withPayment]
  have mem : kept ∈ begun.store.payments := by
    show kept ∈ after.store.payments
    rw [payments]
    refine List.mem_append_right _ (List.mem_singleton.mpr ?_)
    rw [← key]
  have again : (begun.store.withoutPayment kept.id).Decides kept.invoiceId second := by
    rw [removed, link]
    exact decidesBefore.settledOn reached.now first
  have performed :=
    perform_deletePayment calm settled soundAfter.invoices soundAfter.payments mem again
  rw [removed, link] at performed
  refine ⟨((deletePayment kept.id).perform begun).2.begin, ?_, ?_⟩
  · show (session (deletePayment kept.id)).perform begun = _
    rw [perform_session, World.begin_of_settled settled, performed]
  · rw [performed, payments]
    exact sound.undone (payments ▸ soundAfter.payments) decides decidesBefore

end Payments

/-- Where there were no invoices and payments at the beginning of a run, deleting a payment right
after it was accepted goes through and leaves the store that was there before it, with two
exceptions. An invoice on which nothing is owed, issued and unpaid, stays paid since the payment;
and where the sum of the payments on a paid invoice is inexact, the invoice may be paid anew. -/
theorem payment_undone (world : World) (noInvoices : world.store.invoices = [])
    (noPayments : world.store.payments = []) (tables : world.hasTables = true)
    (events : List Event) {command : Payments.PaymentCommand} {receipt : Payments.Receipt}
    {after : World}
    (accepted : (session (Payments.recordPayment command)).perform (world.run events) =
      (.ok (.ok receipt), after)) (later : Moment) :
    ∃ last, (session (Payments.deletePayment receipt.payment.id)).perform
        { after with outages := [], now := later } = (.ok (.ok ()), last) ∧
      (world.run events).store.Undone command.invoiceId (world.run events).now later
        after.store.payments last.store := by
  obtain ⟨kept, shows, recorded⟩ := Payments.recorded_of_accepted accepted
  have key : receipt.payment.id = kept.id := by
    rw [shows]
    rfl
  rw [key]
  exact recorded.undone (world.soundAccounts_run noInvoices noPayments events)
    ((world.hasTables_run events).trans tables) later

/-- The first month of the year 2024 is billed, and its first invoice is issued. -/
def Event.issuesFirst : List Event :=
  [.used (.generateDrafts false ⟨2024, 1⟩), .used (.issueInvoice 1)]

/-- An invoice that is paid in full and whose payment is deleted, at another
moment, is issued again. -/
theorem payment_undone_when_paid_in_full :
    let reached := (World.calmWith .withEnrollment).run Event.issuesFirst
    ∃ receipt after last,
      (session (Payments.recordPayment .sample)).perform reached = (.ok (.ok receipt), after) ∧
      after.store.invoices.map Invoice.status = [.paid] ∧
      (session (Payments.deletePayment receipt.payment.id)).perform
        { after with outages := [], now := .sample } = (.ok (.ok ()), last) ∧
      last.store = reached.store ∧
      reached.store.invoices.map (fun invoice => (invoice.status, invoice.paidAt)) =
        [(.issued, none)] := by
  intro reached
  have accepted : ((session (Payments.recordPayment .sample)).perform reached).1.toOption.any
      (·.toOption.isSome) = true := by decide +kernel
  have paid : ((session (Payments.recordPayment .sample)).perform reached).2.store.invoices.map
      Invoice.status = [.paid] := by decide +kernel
  have states : reached.store.invoices.map (fun invoice => (invoice.status, invoice.paidAt)) =
      [(.issued, none)] := by decide +kernel
  have issued : ∀ invoice ∈ reached.store.invoices, invoice.status = .issued ∧
      Payments.covers Money.nothing (Row.shown invoice).total = .ok false := by decide +kernel
  rcases performed : (session (Payments.recordPayment .sample)).perform reached with
    ⟨fault | refusal | receipt, after⟩
  · rw [performed] at accepted
    cases accepted
  · rw [performed] at accepted
    cases accepted
  · rw [performed] at paid
    obtain ⟨last, deleted, undone⟩ := payment_undone (World.calmWith .withEnrollment) rfl rfl rfl
      Event.issuesFirst performed .sample
    refine ⟨receipt, after, last, rfl, paid, deleted, ?_, states⟩
    have mem {link : Option Int} {invoice : Invoice}
        (named : link.bind (Table.find? reached.store.invoices) = some invoice) :
        invoice ∈ reached.store.invoices := by
      obtain ⟨id, -, found⟩ := Option.bind_eq_some_iff.mp named
      exact Table.mem_of_find? found
    generalize last.store = left at undone
    cases undone with
    | same owing => rfl
    | leftPaid named status owes unpaid =>
        cases owes.symm.trans (issued _ (mem named)).2
    | paidAnew named status inexact =>
        cases status.symm.trans (issued _ (mem named)).1

/-- The records of an organisation whose student is charged by the lesson, and took none. -/
def Store.withoutLessons : Store :=
  { withEnrollment with enrollments := [⟨1, 1, 1, .perLesson, .ofCents 0, ""⟩] }

/-- An invoice over nothing that is paid by mistake stays paid when the payment is deleted, and
since the moment of the payment. -/
theorem mistaken_payment_not_undone :
    let world := World.calmWith .withoutLessons
    let reached := world.run Event.issuesFirst
    let command := { Payments.PaymentCommand.sample with amount := .ofCents 100 }
    let paid := (UseCase.recordPayment command).perform reached
    let deleted := (UseCase.deletePayment 1).perform { paid.2 with now := .sample }
    world.store.invoices = [] ∧ world.store.payments = [] ∧
    paid.1 = .ok (.ok ()) ∧ paid.2.store.payments.map Payment.id = [1] ∧
    deleted.1 = .ok (.ok ()) ∧ deleted.2.store.payments = reached.store.payments ∧
    reached.store.invoices.map (fun invoice => (invoice.status, invoice.paidAt)) =
      [(.issued, none)] ∧
    deleted.2.store.invoices.map (fun invoice => (invoice.status, invoice.paidAt)) =
      [(.paid, some default)] := by
  decide +kernel

end Tuition
