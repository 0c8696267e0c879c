/-
# What recording a payment does

A payment of a sound command is refused for the first of four reasons, or it is written. Writing
it adds one row, changes the state of the invoice that it is on and nothing else. Between the two
stands one thing that the command does not decide: the payments on the invoice, with the new one,
must have a sum. Where they have none the payment is given up as a whole.
-/

import Tuition.Proofs.AccountsInCents
import Tuition.Proofs.Rounding
import Tuition.Proofs.UndonePayments

namespace Tuition

open Tx

/-! ## Sums -/

namespace Amount

/-- A sum is a number where there is one. -/
theorem isNumber_sum {amounts : List Decimal} {total : Decimal}
    (added : sum amounts = .ok total) : total.IsNumber := by
  unfold sum at added
  split at added
  · cases added
    trivial
  unfold RunningSum.value at added
  split at added
  · cases added
  split at added
  · cases added
    exact isNumber_shownBinary (Binary64.ofFraction_ne_nan _ _ _)
  split at added
  · cases added
    trivial
  · next number =>
      cases added
      exact isNumber_shownBinary number

end Amount

theorem Store.isNumber_paidOn {store : Store} {id : Int} {paid : Decimal}
    (sum : store.paidOn id = .ok paid) : paid.IsNumber := by
  obtain ⟨total, added, rounded⟩ := bind_eq_ok_iff.mp sum
  exact Decimal.isNumber_of_quantize (Amount.isNumber_sum added) (mapError_eq_ok_iff.mp rounded)

/-! ## Sound commands -/

namespace Payments

/-- The numbers of a command fit into a word, and its amount comes to a cent or more and, rounded
to cents, fits its column. -/
structure PaymentCommand.Sound (command : PaymentCommand) : Prop where
  student : Word.fits command.studentId
  invoice : ∀ id, command.invoiceId = some id → Word.fits id
  least : 1 / 200 ≤ command.amount.value
  most : command.amount.value < 10 ^ 10 - 1 / 200

/-- The row that a payment makes, before it has a key: the amount is rounded to cents, half up. -/
def PaymentCommand.written (command : PaymentCommand) : Payment where
  id := 0
  studentId := command.studentId
  invoiceId := command.invoiceId
  paidAt := command.paidAt.moment
  amount := .ofCents (Decimal.nearestCents command.amount.value)
  method := command.method
  note := command.note

variable {command : PaymentCommand}

namespace PaymentCommand.Sound

variable (sound : command.Sound)
include sound

theorem cents_pos : 0 < Decimal.nearestCents command.amount.value :=
  Decimal.nearestCents_pos_iff.mpr sound.least

theorem cents_lt : Decimal.nearestCents command.amount.value < 10 ^ 12 := by
  have most := sound.most
  refine (Nat.floor_lt' (by decide)).mpr ?_
  push_cast
  linarith

theorem fitsColumn : (Decimal.ofCents (Decimal.nearestCents command.amount.value)).FitsColumn :=
  ⟨Decimal.nearestCents command.amount.value, sound.cents_lt, rfl⟩

/-- Rounding the amount of a sound command has a value. -/
theorem round_eq : Money.round command.amount =
    .ok (.ofCents (Decimal.nearestCents command.amount.value)) := by
  have least := sound.least
  have few := sound.cents_lt
  cases amount : command.amount with
  | infinite negative =>
      norm_num [amount, Decimal.value] at least
  | nan negative signaling payload =>
      norm_num [amount, Decimal.value] at least
  | finite negative coefficient exponent =>
      rw [amount] at least few
      have positive : 0 < (Decimal.finite negative coefficient exponent).value := by linarith
      obtain ⟨-, rfl⟩ := Decimal.value_pos_iff.mp positive
      have short : Decimal.nearestCents (Decimal.magnitude coefficient exponent) <
          10 ^ Decimal.precision := Nat.lt_trans few (by decide)
      have unsigned :
          decide ((Decimal.nearestCents (Decimal.magnitude coefficient exponent) : ℤ) < 0) =
            false := decide_eq_false (by omega)
      show (Decimal.finite false coefficient exponent).quantize = _
      rw [Decimal.quantize_finite, if_pos short]
      simp only [Decimal.value, Decimal.ofCents, unsigned, Int.natAbs_natCast, Bool.false_eq_true,
        if_false]

/-- The row of a sound command is admitted. -/
theorem row_eq {student : Student} (named : student.id = command.studentId) :
    command.row student = .ok command.written := by
  have kept := (Decimal.isCents_ofCents (Decimal.nearestCents command.amount.value)).keepAmount
    (Nat.lt_trans sound.cents_lt (by decide)) "payments.amount"
  have some := sound.cents_pos
  have positive : (Decimal.ofCents (Decimal.nearestCents command.amount.value)).order (.ofInt 0) =
      .gt := by
    refine Decimal.order_ofInt_zero_eq_gt_iff.mpr ⟨?_, decide_eq_false (by omega)⟩
    rw [Int.natAbs_natCast]
    exact some.ne'
  unfold PaymentCommand.row
  rw [sound.round_eq, named]
  refine bind_eq_ok_iff.mpr ⟨_, rfl, bind_eq_ok_iff.mpr ⟨command.written, ?_, ?_⟩⟩
  · exact bind_eq_ok_iff.mpr ⟨_, kept, rfl⟩
  · refine Table.check_eq_ok_iff.mpr ⟨rfl, ?_, ?_, fun _ none => absurd none List.not_mem_nil,
      fun _ none => absurd none List.not_mem_nil⟩
    · intro number listed
      rcases List.mem_cons.mp listed with rfl | listed
      · exact (by decide : Word.fits 0 = true)
      rcases List.mem_cons.mp listed with rfl | listed
      · exact sound.student
      · exact sound.invoice number (Option.mem_toList.mp listed)
    · intro condition listed
      rw [List.mem_singleton.mp listed]
      exact beq_iff_eq.mpr positive

/-- The row of a sound command is shown as it is kept. -/
theorem shown_written (key : Int) :
    Row.shown { command.written with id := key } = { command.written with id := key } := by
  show { command.written with id := key, amount := Amount.shown command.written.amount } = _
  have shown : Amount.shown command.written.amount = command.written.amount :=
    sound.fitsColumn.shown_eq
  rw [shown]

end PaymentCommand.Sound

end Payments

/-! ## The refusal -/

/-- The code that a payment is refused with: the first reason there is counts. -/
def Store.refusalCode? (store : Store) (command : Payments.PaymentCommand) : Option String :=
  if store.students.all (·.id ≠ command.studentId) then some "STUDENT_NOT_FOUND"
  else
    match command.invoiceId with
    | none => none
    | some id =>
      match store.invoices.find? (·.id = id) with
      | none => some "INVOICE_NOT_FOUND"
      | some invoice =>
        if invoice.studentId ≠ command.studentId then some "INVOICE_STUDENT_MISMATCH"
        else if invoice.status = .draft ∨ invoice.status = .canceled then
          some "INVOICE_NOT_PAYABLE"
        else none

namespace Payments

variable {world : World} {store : Store} {command : PaymentCommand}

theorem payable_eq_false_iff {status : InvoiceStatus} :
    status.payable = false ↔ status = .draft ∨ status = .canceled := by
  cases status <;> decide

/-- The judgement on a payment to an invoice goes through the reasons that lie in the invoice. -/
theorem invoiceFor_cases (store : Store) (command : PaymentCommand) {student : Student}
    (found : Table.find? store.students command.studentId = some student) :
    match store.refusalCode? command with
    | some code => ∃ refusal, store.invoiceFor command student = .error refusal ∧
        refusal.report.code = code
    | none => ∃ invoice, store.invoiceFor command student = .ok invoice := by
  have there : (store.students.all (·.id ≠ command.studentId)) = false := by
    refine Bool.eq_false_iff.mpr fun all => ?_
    have other := List.all_eq_true.mp all student (Table.mem_of_find? found)
    exact of_decide_eq_true other (Table.key_of_find? found)
  have named : student.id = command.studentId := Table.key_of_find? found
  unfold Store.refusalCode? Store.invoiceFor
  rw [there, named]
  simp only [Bool.false_eq_true, if_false]
  cases command.invoiceId with
  | none => exact ⟨none, rfl⟩
  | some id =>
      have same : store.invoices.find? (fun invoice => decide (invoice.id = id)) =
          Table.find? store.invoices id := rfl
      dsimp only
      rw [same]
      cases Table.find? store.invoices id with
      | none => exact ⟨_, rfl, rfl⟩
      | some invoice =>
          dsimp only
          by_cases owner : invoice.studentId = command.studentId
          · rw [if_neg (not_not_intro owner), if_neg (not_not_intro owner)]
            cases payable : invoice.status.payable with
            | false =>
                rw [if_pos (payable_eq_false_iff.mp payable)]
                exact ⟨_, rfl, rfl⟩
            | true =>
                have owed : ¬(invoice.status = .draft ∨ invoice.status = .canceled) := by
                  rw [← payable_eq_false_iff, payable]
                  decide
                rw [if_neg owed]
                exact ⟨_, rfl⟩
          · rw [if_pos owner, if_pos owner]
            exact ⟨_, rfl, rfl⟩

/-- A sound command is refused with its code, or its row is accepted. -/
theorem PaymentCommand.Sound.judge_cases (sound : command.Sound) (store : Store) :
    match store.refusalCode? command with
    | some code => ∃ refusal, store.judge command = .error refusal ∧ refusal.report.code = code
    | none => store.judge command = .ok command.written := by
  have words : Table.requireWords [command.studentId] = .ok () :=
    requireWords_single sound.student
  have link : Table.requireWords command.invoiceId.toList = .ok () :=
    Table.requireWords_eq_ok_iff.mpr fun id mem => sound.invoice id (Option.mem_toList.mp mem)
  unfold Store.judge
  rw [words, link]
  cases found : Table.find? store.students command.studentId with
  | none =>
      have nowhere : (store.students.all (·.id ≠ command.studentId)) = true := by
        refine List.all_eq_true.mpr fun student mem => decide_eq_true fun same => ?_
        exact Table.find?_eq_none_iff.mp found student mem same
      simp only [Store.refusalCode?, nowhere, if_true]
      exact ⟨_, rfl, rfl⟩
  | some student =>
      have cases := invoiceFor_cases store command found
      cases code : store.refusalCode? command with
      | some code =>
          rw [code] at cases
          obtain ⟨refusal, refused, same⟩ := cases
          refine ⟨refusal, ?_, same⟩
          dsimp only [Except.mapError]
          rw [refused]
          rfl
      | none =>
          rw [code] at cases
          obtain ⟨invoice, accepted⟩ := cases
          dsimp only [Except.mapError]
          rw [accepted, sound.row_eq (Table.key_of_find? found)]
          rfl

/-! ## Payments that are given up -/

/-- Settling an invoice is broken off where the payments on it have no sum. -/
theorem perform_settle_of_fault (calm : world.Calm) {invoice : Invoice} {fault : Fault}
    (word : Word.fits invoice.id) (payable : invoice.status.payable = true)
    (sum : world.pending.paidOn invoice.id = .error fault) :
    (settle (Row.shown invoice)).perform world = (.error fault, world) := by
  have status : (Row.shown invoice).status = invoice.status := rfl
  have summed : (Access.sumPaidOnInvoice (Row.shown invoice).id).perform world =
      (.error fault, world) := by
    rw [← sum]
    exact perform_sumPaidOnInvoice calm (requireWords_single word)
  unfold settle
  rw [status, payable]
  simp only [Bool.not_true, Bool.false_eq_true, if_false]
  rw [perform_bind, summed]

/-- An invoice that a payment settles is owed. -/
theorem payable_of_invoiceFor {student : Student} {invoice : Invoice}
    (found : store.invoiceFor command student = .ok (some invoice)) :
    invoice.status.payable = true := by
  unfold Store.invoiceFor at found
  split at found
  · cases found
  split at found
  · cases found
  split at found
  · cases found
  split at found
  · cases found
  · next payable =>
      cases found
      simpa using payable

/-- Writing a payment is broken off where the payments on its invoice would have no sum. -/
theorem perform_writePayment_of_fault (calm : world.Calm)
    (fits : Word.fits (Table.nextKey world.pending.payments)) {student : Student}
    {invoice : Invoice} (link : some invoice.id = command.invoiceId) (word : Word.fits invoice.id)
    (payable : invoice.status.payable = true) {row : Payment}
    (admitted : command.row student = .ok row) {fault : Fault}
    (sum : (world.pending.withPayment row).paidOn invoice.id = .error fault) :
    (writePayment command student (some (Row.shown invoice))).perform world =
      (.error fault, { world with pending := world.pending.withPayment row }) := by
  obtain ⟨amount, rounded, admits⟩ := bind_eq_ok_iff.mp admitted
  have shownLink : (some (Row.shown invoice)).map Invoice.id = command.invoiceId := link
  let written : World := { world with pending := world.pending.withPayment row }
  have calmWritten : written.Calm := ⟨calm.tables, calm.quiet⟩
  have settles : ((some (Row.shown invoice)).mapM settle).perform written =
      (.error fault, written) := by
    refine (perform_map _ _ _).trans ?_
    rw [perform_settle_of_fault calmWritten word payable sum]
  unfold writePayment arithmetic
  rw [perform_bind, perform_lift, rounded]
  dsimp only
  rw [shownLink, perform_bind, perform_addPayment calm fits rfl, admits]
  dsimp only
  rw [perform_bind, settles]

/-- A payment that is judged to be accepted is given up if the payments on its
invoice would have no sum. -/
theorem perform_recordPayment_of_fault (calm : world.Calm) (settled : world.Settled)
    (fits : Word.fits (Table.nextKey world.store.payments)) {row : Payment} {id : Int}
    {fault : Fault} (accepted : world.store.judge command = .ok row)
    (link : command.invoiceId = some id)
    (sum : (world.store.withPayment row).paidOn id = .error fault) :
    (recordPayment command).perform world = (.ok (.error (.recordingFailed fault)), world) := by
  have pending : world.pending = world.store := settled
  obtain ⟨student, found?, words, found, fitsLink, toSettle, admitted⟩ :=
    Store.judge_eq_ok accepted
  obtain ⟨-, linked⟩ := Store.invoiceFor_eq_ok toSettle
  rw [link] at linked
  obtain ⟨invoice, rfl, rfl⟩ := Option.map_eq_some_iff.mp linked
  have word : Word.fits invoice.id := Table.requireWords_eq_ok_iff.mp fitsLink _ (by simp [link])
  rw [← pending] at fits sum toSettle
  rw [perform_recordPayment_of_found calm settled words found,
    perform_invoiceToSettle calm fitsLink, toSettle]
  dsimp only [Except.map, Option.map_some]
  rw [perform_writePayment_of_fault calm fits link.symm word
    (payable_of_invoiceFor toSettle) admitted
    sum]
  exact congrArg (Prod.mk _) (World.begin_of_settled settled)

end Payments

/-! ## Payments that are written -/

/-- An invoice after a payment on it: it is paid if its payments cover its total and issued
otherwise. The moment is set when it becomes paid and taken away when it becomes issued again. -/
def Invoice.afterPayment (invoice : Invoice) (now : Moment) (covered : Bool) : Invoice :=
  { invoice with
    status := if covered then .paid else .issued
    paidAt :=
      if invoice.status = .issued ∧ covered then some now
      else if invoice.status = .paid ∧ ¬covered then none
      else invoice.paidAt }

theorem Invoice.settledAs_eq_afterPayment {invoice : Invoice}
    (payable : invoice.status.payable = true) (now : Moment) (covered : Bool) :
    invoice.settledAs now covered = invoice.afterPayment now covered := by
  obtain ⟨id, studentId, period, total, status, number, issuedAt, paidAt⟩ := invoice
  cases status with
  | draft => cases payable
  | canceled => cases payable
  | issued => cases covered <;> rfl
  | paid => cases covered <;> rfl

namespace Payments

/-- A payment was written: one row more, under a key that no payment had, and the invoice that it
is on brought in line with the payments on it. Nothing else changed, and the receipt shows the row
and the state of the invoice. -/
structure Written (before : World) (command : PaymentCommand) (receipt : Receipt)
    (after : World) : Prop where
  row : receipt.payment = { command.written with id := receipt.payment.id }
  fresh : ∀ payment ∈ before.store.payments, payment.id ≠ receipt.payment.id
  payments : after.store.payments = before.store.payments ++ [receipt.payment]
  loose : command.invoiceId = none →
    after.store.invoices = before.store.invoices ∧ receipt.invoiceStatus = none
  linked : ∀ id, command.invoiceId = some id → ∃ invoice ∈ before.store.invoices, ∃ paid covered,
    invoice.id = id ∧ after.store.paidOn id = .ok paid ∧
    covers paid (Row.shown invoice).total = .ok covered ∧
    after.store.invoices = before.store.invoices.map (fun other =>
      if other.id = id then other.afterPayment before.now covered else other) ∧
    receipt.invoiceStatus = some (invoice.afterPayment before.now covered).status
  tables : after.store = { before.store with
    payments := after.store.payments
    invoices := after.store.invoices }
  others : after = { before with store := after.store, pending := after.store }

variable {world : World} {command : PaymentCommand}

/-- The payments on the invoice of a command, with the one it asks for, have a sum. -/
def PaymentCommand.HasSum (command : PaymentCommand) (store : Store) : Prop :=
  ∀ id, command.invoiceId = some id →
    ∃ paid, (store.withPayment command.written).paidOn id = .ok paid

/-- Payments that are added exactly have a sum if it is within the precision. -/
theorem PaymentCommand.hasSum_iff {store : Store}
    (exact : Amount.SumsExact ((store.withPayment command.written).payments.map Payment.amount)) :
    command.HasSum store ↔ ∀ id, command.invoiceId = some id →
      (Payment.centsOn (store.withPayment command.written).payments id).natAbs < 10 ^ 28 := by
  have each (id : Int) : (∃ paid, (store.withPayment command.written).paidOn id = .ok paid) ↔
      (Payment.centsOn (store.withPayment command.written).payments id).natAbs < 10 ^ 28 := by
    rw [Store.paidOn_eq exact]
    constructor
    · rintro ⟨paid, sum⟩
      have rounds := mapError_eq_ok_iff.mp sum
      exact (Decimal.isCents_of_quantize_ofCents rounds).bound_of_quantize rounds
    · intro bound
      exact ⟨_, mapError_eq_ok_iff.mpr ((Decimal.isCents_ofCents _).quantize_eq bound)⟩
  simp only [HasSum, each]

theorem exists_fault_of_not_hasSum {store : Store} (unsummed : ¬command.HasSum store) :
    ∃ id, command.invoiceId = some id ∧
      ∃ fault, (store.withPayment command.written).paidOn id = .error fault := by
  simp only [PaymentCommand.HasSum, not_forall] at unsummed
  obtain ⟨id, link, unsummed⟩ := unsummed
  refine ⟨id, link, ?_⟩
  cases sum : (store.withPayment command.written).paidOn id with
  | ok paid => exact absurd ⟨paid, sum⟩ unsummed
  | error fault => exact ⟨fault, rfl⟩

section Accepted

variable (calm : world.Calm) (settled : world.Settled)
  (kept : Table.WellKept world.store.invoices)
  (room : Word.fits (Table.nextKey world.store.payments)) (sound : command.Sound)
  (accepted : world.store.judge command = .ok command.written)
include calm settled kept room sound accepted

/-- The payment of an accepted command that is on no invoice is written. -/
theorem written_of_loose (loose : command.invoiceId = none) :
    ∃ receipt after, (recordPayment command).perform world = (.ok (.ok receipt), after) ∧
      Written world command receipt after := by
  have decides : (world.store.withPayment command.written).Decides command.invoiceId false := by
    intro invoice named
    rw [loose] at named
    cases named
  refine ⟨_, _, perform_recordPayment_of_accepted calm settled kept room accepted decides, ?_⟩
  have unsettled : (world.store.withPayment command.written).settledOn command.invoiceId world.now
      false = world.store.withPayment command.written := by
    rw [loose]
    rfl
  rw [sound.shown_written, unsettled]
  exact {
    row := rfl
    fresh := fun payment mem => Int.ne_of_lt (Table.key_lt_nextKey mem)
    payments := rfl
    loose := fun _ => ⟨rfl, by rw [loose]; rfl⟩
    linked := fun id link => by cases loose.symm.trans link
    tables := rfl
    others := rfl }

/-- The payment of an accepted command that is on an invoice is written, if the payments on that
invoice have a sum. -/
theorem written_of_linked {invoice : Invoice} (number : invoice.total.IsNumber)
    (named : command.invoiceId.bind (Table.find? world.store.invoices) = some invoice)
    (payable : invoice.status.payable = true) {paid : Decimal}
    (sum : (world.store.withPayment command.written).paidOn invoice.id = .ok paid) :
    ∃ receipt after, (recordPayment command).perform world = (.ok (.ok receipt), after) ∧
      Written world command receipt after := by
  obtain ⟨id, link, found⟩ := Option.bind_eq_some_iff.mp named
  obtain rfl : invoice.id = id := Table.key_of_find? found
  have mem := Table.mem_of_find? found
  obtain ⟨covered, decided⟩ := (Store.isNumber_paidOn sum).exists_covers
    (Amount.isNumber_shown number)
  have decides : (world.store.withPayment command.written).Decides command.invoiceId covered := by
    intro other there _
    cases named.symm.trans there
    exact ⟨paid, sum, decided⟩
  refine ⟨_, _, perform_recordPayment_of_accepted calm settled kept room accepted decides, ?_⟩
  have keptWritten : Table.WellKept (world.store.withPayment command.written).invoices := kept
  have frame := Store.settledOn_eq (world.store.withPayment command.written) command.invoiceId
    world.now covered
  have invoices : ((world.store.withPayment command.written).settledOn command.invoiceId world.now
      covered).invoices = world.store.invoices.map fun other =>
        if other.id = invoice.id then other.afterPayment world.now covered else other := by
    rw [Store.settledOn_invoices keptWritten, link]
    refine List.map_congr_left fun other among => ?_
    by_cases same : other.id = invoice.id
    · obtain rfl := kept.ordered.eq_of_key_eq among mem same
      rw [if_pos rfl, if_pos rfl, Invoice.settledAs_eq_afterPayment payable]
    · rw [if_neg same, if_neg fun equal => same (Option.some.inj equal).symm]
  rw [frame, sound.shown_written, named, Option.map_some,
    Invoice.settledAs_eq_afterPayment payable]
  exact {
    row := rfl
    fresh := fun payment mem => Int.ne_of_lt (Table.key_lt_nextKey mem)
    payments := rfl
    loose := fun loose => by cases loose.symm.trans link
    linked := fun other linked => by
      cases linked.symm.trans link
      exact ⟨invoice, mem, paid, covered, rfl, sum, decided, invoices, rfl⟩
    tables := rfl
    others := rfl }

/-- A payment of an accepted command is written if the payments on its invoice have a sum. -/
theorem written_of_accepted (numbers : ∀ invoice ∈ world.store.invoices, invoice.total.IsNumber)
    (sums : command.HasSum world.store) :
    ∃ receipt after, (recordPayment command).perform world = (.ok (.ok receipt), after) ∧
      Written world command receipt after := by
  obtain ⟨student, invoice, -, -, -, toSettle, -⟩ := Store.judge_eq_ok accepted
  obtain ⟨named, linked⟩ := Store.invoiceFor_eq_ok toSettle
  cases invoice with
  | none => exact written_of_loose calm settled kept room sound accepted linked.symm
  | some invoice =>
      obtain ⟨paid, sum⟩ := sums invoice.id linked.symm
      obtain ⟨id, -, found⟩ := Option.bind_eq_some_iff.mp named.symm
      exact written_of_linked calm settled kept room sound accepted
        (numbers invoice (Table.mem_of_find? found)) named.symm
        (payable_of_invoiceFor toSettle) sum

end Accepted

end Payments

open Payments

/-- Recording the payment of a sound command, where nothing is struck. It is refused with the
first code for which there is a reason, and then nothing changes. Otherwise it is written, unless
the payments on its invoice would have no sum, with the new one among them: then it is given up
and nothing changes either. Payments that are added exactly have a sum as long as it needs no more
digits than decimal arithmetic has. -/
theorem payment_recorded {world : World} (calm : world.Calm)
    (kept : Table.WellKept world.store.invoices)
    (numbers : ∀ invoice ∈ world.store.invoices, invoice.total.IsNumber)
    (room : Word.fits (Table.nextKey world.store.payments)) {command : PaymentCommand}
    (sound : command.Sound) :
    (∃ answer after, (session (recordPayment command)).perform world = (.ok answer, after) ∧
      match world.store.refusalCode? command with
      | some code => after = world.begin ∧ ∃ refusal, answer = .error refusal ∧
          refusal.report.code = code
      | none =>
        (command.HasSum world.store → ∃ receipt, answer = .ok receipt ∧
          Written world command receipt after) ∧
        (¬command.HasSum world.store → after = world.begin ∧ ∃ refusal, answer = .error refusal ∧
          refusal.report.code = "CREATE_PAYMENT_FAILED")) ∧
    (Amount.SumsExact ((world.store.withPayment command.written).payments.map Payment.amount) →
      (command.HasSum world.store ↔ ∀ id, command.invoiceId = some id →
        (Payment.centsOn (world.store.withPayment command.written).payments id).natAbs <
          10 ^ 28)) := by
  refine ⟨?_, PaymentCommand.hasSum_iff⟩
  have calmBegin : world.begin.Calm := ⟨calm.tables, calm.quiet⟩
  have settled : world.begin.Settled := rfl
  have cases := sound.judge_cases world.store
  rw [perform_session]
  cases code : world.store.refusalCode? command with
  | some code =>
      rw [code] at cases
      obtain ⟨refusal, refused, same⟩ := cases
      have performed := perform_recordPayment_of_refused calmBegin settled room refused
      rw [performed]
      exact ⟨_, _, rfl, rfl, refusal, rfl, same⟩
  | none =>
      rw [code] at cases
      by_cases sums : command.HasSum world.store
      · obtain ⟨receipt, after, performed, written⟩ :=
          written_of_accepted calmBegin settled kept room sound cases numbers sums
        rw [performed]
        have own : after.begin = after :=
          World.begin_of_settled (congrArg World.pending written.others)
        refine ⟨_, _, rfl, fun _ => ⟨receipt, rfl, ?_⟩, fun unsummed => absurd sums unsummed⟩
        dsimp only
        rw [own]
        exact ⟨written.row, written.fresh, written.payments, written.loose, written.linked,
          written.tables, written.others⟩
      · obtain ⟨id, link, fault, unsummed⟩ := exists_fault_of_not_hasSum sums
        have performed :=
          perform_recordPayment_of_fault calmBegin settled room cases link unsummed
        rw [performed]
        exact ⟨_, _, rfl, fun summed => absurd summed sums, fun _ => ⟨rfl, _, rfl, rfl⟩⟩

/-- The records of an organisation that has issued one invoice. -/
def Store.withIssued : Store :=
  { withEnrollment with
    invoices := [{ Invoice.sample with status := .issued, number := some "LS-202401-001" }] }

/-- The payment of an issued invoice in full is written, and the invoice is paid. -/
theorem payment_recorded_in_full :
    ∃ receipt after, (session (recordPayment .sample)).perform (.calmWith .withIssued) =
        (.ok (.ok receipt), after) ∧ receipt.invoiceStatus = some .paid := by
  have sound : PaymentCommand.sample.Sound := by
    refine ⟨by decide, fun id link => ?_, ?_, ?_⟩
    · cases link
      decide
    · norm_num [PaymentCommand.sample, Decimal.ofCents, Decimal.value, Decimal.magnitude]
    · norm_num [PaymentCommand.sample, Decimal.ofCents, Decimal.value, Decimal.magnitude]
  have cents : Decimal.nearestCents PaymentCommand.sample.amount.value = 2500 := by
    norm_num [PaymentCommand.sample, Decimal.ofCents, Decimal.value, Decimal.magnitude,
      Decimal.nearestCents, Nat.floor_eq_iff]
  have row :
      PaymentCommand.sample.written = ⟨0, 1, some 1, default, .ofCents 2500, .bank, ""⟩ := by
    rw [PaymentCommand.written, cents]
    rfl
  have sum : (Store.withIssued.withPayment PaymentCommand.sample.written).paidOn 1 =
      .ok (.ofCents 2500) := by
    rw [row]
    decide +kernel
  have code : (World.calmWith .withIssued).store.refusalCode? .sample = none := by decide +kernel
  have calm : (World.calmWith .withIssued).Calm := ⟨rfl, rfl⟩
  obtain ⟨⟨answer, after, performed, ends⟩, -⟩ := payment_recorded calm (by decide +kernel)
    (fun invoice mem => List.mem_singleton.mp mem ▸ trivial) (by decide) sound
  rw [code] at ends
  obtain ⟨receipt, rfl, written⟩ := ends.1 fun id link => by
    cases link
    exact ⟨_, sum⟩
  obtain ⟨invoice, mem, paid, covered, -, summed, decided, -, status⟩ := written.linked 1 rfl
  have paidInFull : after.store.paidOn 1 = .ok (.ofCents 2500) := by
    rw [← sum]
    unfold Store.paidOn
    rw [written.payments, written.row]
    rfl
  cases summed.symm.trans paidInFull
  rw [List.mem_singleton.mp mem] at decided status
  have covers : Payments.covers (.ofCents 2500) (.ofCents 2500) = .ok true := by decide +kernel
  cases decided.symm.trans covers
  exact ⟨receipt, after, performed, status⟩

/-- A sound command is given up on an invoice whose payments come to almost `10 ^ 26` already, for
their sum would have more digits than decimal arithmetic. -/
theorem sound_payment_given_up :
    let large : Payment :=
      ⟨1, 1, some 1, default, .finite false 99999999999999987584860160 0, .bank, ""⟩
    let command := { PaymentCommand.sample with amount := .ofCents 999999999999 }
    let world := World.calmWith { Store.withIssued with payments := [large] }
    command.Sound ∧ world.store.refusalCode? command = none ∧
      ∃ refusal after, (session (recordPayment command)).perform world =
        (.ok (.error refusal), after) ∧ refusal.report.code = "CREATE_PAYMENT_FAILED" := by
  intro large command world
  have cents : Decimal.nearestCents command.amount.value = 999999999999 := by
    norm_num [command, Decimal.ofCents, Decimal.value, Decimal.magnitude, Decimal.nearestCents,
      Nat.floor_eq_iff]
  have row : command.written = ⟨0, 1, some 1, default, .ofCents 999999999999, .bank, ""⟩ := by
    rw [PaymentCommand.written, cents]
    rfl
  have sound : command.Sound := by
    refine ⟨by decide, fun id link => ?_, ?_, ?_⟩
    · cases link
      decide
    · norm_num [command, Decimal.ofCents, Decimal.value, Decimal.magnitude]
    · norm_num [command, Decimal.ofCents, Decimal.value, Decimal.magnitude]
  have code : world.store.refusalCode? command = none := by decide +kernel
  have accepted := sound.judge_cases world.store
  rw [code] at accepted
  have sum : (world.store.withPayment command.written).paidOn 1 =
      .error (.arithmetic .invalid) := by
    rw [row]
    decide +kernel
  refine ⟨sound, code, .recordingFailed (.arithmetic .invalid), world, ?_, rfl⟩
  have calm : world.Calm := ⟨rfl, rfl⟩
  have performed := perform_recordPayment_of_fault calm rfl (by decide) accepted rfl sum
  rw [perform_session]
  exact congrArg (fun ended => (ended.1, ended.2.begin)) performed

end Tuition
