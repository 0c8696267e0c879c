/-
# Views that agree

What a student owes and what remains of the student's invoices are read separately. In sound
accounts a payment on an invoice is one of its own student, so the payments of a student are those
on the invoices that the student is billed, and others: on no invoice, or on one that was
canceled. The others lower the debt and no remainder, and a remainder is cut off at nothing on
each invoice by itself, so the remainders never come to less than the debt.
-/

import Tuition.Proofs.AccountsInCents
import Tuition.Proofs.UndonePayments

namespace Tuition

open Tx

/-! ## The payments of a student -/

/-- A payment is on one of some invoices. -/
def Payment.isOn (payment : Payment) (ids : List Int) : Bool :=
  ids.any fun id => payment.invoiceId == some id

/-- The payments on each of some invoices come to what all payments on them come to. -/
theorem Payment.sum_centsOn (payments : List Payment) {ids : List Int} (once : ids.Nodup) :
    (ids.map (centsOn payments)).sum = ((payments.filter (·.isOn ids)).map cents).sum := by
  induction ids with
  | nil => simp [isOn]
  | cons id ids ih =>
      obtain ⟨fresh, rest⟩ := List.nodup_cons.mp once
      have apart : ∀ payment ∈ payments, (payment.invoiceId == some id) = true →
          payment.isOn ids = false := by
        intro payment _ own
        rw [isOn, List.any_eq_false]
        intro other mem same
        rw [beq_iff_eq] at own same
        cases own.symm.trans same
        exact fresh mem
      rw [List.map_cons, List.sum_cons, ih rest, centsOn, ← sum_filter_or cents apart]
      rfl

namespace Store

variable {store : Store} {studentId : Int} {invoice : Invoice} {payment : Payment}

/-- The keys of the invoices that a student is billed. -/
def billedIds (store : Store) (studentId : Int) : List Int :=
  (store.billed studentId).map Invoice.id

/-- The payments of a student that are on none of these invoices. -/
def astray (store : Store) (studentId : Int) : List Payment :=
  store.payments.filter fun payment =>
    payment.studentId == studentId && !payment.isOn (store.billedIds studentId)

theorem isOn_billedIds_iff : payment.isOn (store.billedIds studentId) = true ↔
    ∃ invoice ∈ store.billed studentId, payment.invoiceId = some invoice.id := by
  simp [Payment.isOn, billedIds]

namespace SoundAccounts

variable (sound : store.SoundAccounts)
include sound

theorem nodup_billedIds : (store.billedIds studentId).Nodup := by
  have ordered : (store.billed studentId).Pairwise fun first second => first.id < second.id :=
    sound.invoices.ordered.filter _
  exact List.pairwise_map.mpr (ordered.imp Int.ne_of_lt)

/-- A payment on an invoice that a student is billed is one of the student. -/
theorem studentId_of_isOn (mem : payment ∈ store.payments)
    (on : payment.isOn (store.billedIds studentId) = true) : payment.studentId = studentId := by
  obtain ⟨invoice, among, link⟩ := isOn_billedIds_iff.mp on
  obtain ⟨there, owner, -⟩ := mem_billed_iff.mp among
  obtain ⟨other, memOther, key, ownerOther, -⟩ := sound.owners payment mem invoice.id link
  obtain rfl := sound.invoices.ordered.eq_of_key_eq memOther there key
  exact ownerOther.symm.trans owner

/-- The payments of a student come to those on the invoices that the student is
billed, and the others. -/
theorem paidCents_eq : store.paidCents studentId =
    ((store.billedIds studentId).map (Payment.centsOn store.payments)).sum +
      ((store.astray studentId).map Payment.cents).sum := by
  have same : store.paymentsOf studentId = store.payments.filter fun payment =>
      payment.isOn (store.billedIds studentId) ||
        (payment.studentId == studentId && !payment.isOn (store.billedIds studentId)) := by
    refine List.filter_congr fun payment mem => ?_
    cases on : payment.isOn (store.billedIds studentId) with
    | true => simp [sound.studentId_of_isOn mem on]
    | false => simp
  rw [paidCents, same, sum_filter_or]
  · rw [Payment.sum_centsOn _ sound.nodup_billedIds]
    rfl
  · intro payment _ on
    simp [on]

theorem astray_nonneg : 0 ≤ ((store.astray studentId).map Payment.cents).sum := by
  refine List.sum_nonneg fun cents mem => ?_
  obtain ⟨payment, among, rfl⟩ := List.mem_map.mp mem
  exact sound.payments.cents_nonneg (List.mem_filter.mp among).1

/-- No payment goes astray if each is on an invoice that was not canceled. -/
theorem astray_eq_nil (linked : ∀ payment ∈ store.paymentsOf studentId, payment.invoiceId ≠ none)
    (owed : ∀ payment ∈ store.paymentsOf studentId, ∀ invoice ∈ store.invoices,
      payment.invoiceId = some invoice.id → invoice.status ≠ .canceled) :
    store.astray studentId = [] := by
  refine List.filter_eq_nil_iff.mpr fun payment mem => ?_
  rw [Bool.and_eq_true, beq_iff_eq, Bool.not_eq_true', not_and, Bool.not_eq_false]
  intro owner
  have among : payment ∈ store.paymentsOf studentId := by simp [paymentsOf, mem, owner]
  obtain ⟨id, link⟩ := Option.ne_none_iff_exists'.mp (linked payment among)
  obtain ⟨invoice, there, rfl, ownerInvoice, past⟩ := sound.owners payment mem id link
  have standing := owed payment among invoice there link
  refine isOn_billedIds_iff.mpr
    ⟨invoice, mem_billed_iff.mpr ⟨there, ownerInvoice.trans owner, ?_⟩, link⟩
  cases status : invoice.status with
  | draft => exact absurd status past
  | canceled => exact absurd status standing
  | issued => rfl
  | paid => rfl

/-! ## Remainders and the debt -/

/-- What the invoices of a student come to beyond the payments on them. -/
theorem sum_differences : ((store.billed studentId).map fun invoice =>
      invoice.cents - Payment.centsOn store.payments invoice.id).sum =
    store.billedCents studentId - store.paidCents studentId +
      ((store.astray studentId).map Payment.cents).sum := by
  have parts (invoices : List Invoice) : (invoices.map fun invoice =>
      invoice.cents - Payment.centsOn store.payments invoice.id).sum =
        (invoices.map Invoice.cents).sum -
          ((invoices.map Invoice.id).map (Payment.centsOn store.payments)).sum := by
    induction invoices with
    | nil => rfl
    | cons invoice invoices ih =>
        simp only [List.map_cons, List.sum_cons, ih]
        omega
  have paid : store.paidCents studentId = _ := sound.paidCents_eq
  rw [parts, billedCents]
  unfold billedIds at paid
  omega

/-- The remainders come to no less than the debt. -/
theorem debtCents_le : store.debtCents studentId ≤
    ((store.billed studentId).map store.remainingCents).sum := by
  have cut := max_zero_sum_le ((store.billed studentId).map fun invoice =>
    invoice.cents - Payment.centsOn store.payments invoice.id)
  rw [sound.sum_differences, List.map_map] at cut
  have least : 0 ≤ ((store.astray studentId).map Payment.cents).sum := sound.astray_nonneg
  refine le_trans ?_ cut
  unfold debtCents
  omega

/-- The remainders come to the debt where no payment goes astray and none
is more than is billed. -/
theorem debtCents_eq (none : store.astray studentId = [])
    (within : ∀ invoice ∈ store.billed studentId,
      Payment.centsOn store.payments invoice.id ≤ invoice.cents) :
    store.debtCents studentId = ((store.billed studentId).map store.remainingCents).sum := by
  have least : ∀ amount ∈ (store.billed studentId).map fun invoice =>
      invoice.cents - Payment.centsOn store.payments invoice.id, 0 ≤ amount := by
    intro amount mem
    obtain ⟨invoice, among, rfl⟩ := List.mem_map.mp mem
    exact Int.sub_nonneg_of_le (within invoice among)
  have cut := max_zero_sum_eq least
  rw [sound.sum_differences, List.map_map, none, List.map_nil, List.sum_nil, Int.add_zero] at cut
  exact cut

end SoundAccounts

/-! ## Invoices that are paid -/

/-- Where sums are exact, an invoice is covered if the payments on it come to its total. -/
theorem CoveredIs.eq_decide {covered : Bool} (decided : store.CoveredIs invoice covered)
    (exactTotals : Amount.SumsExact (store.invoices.map Invoice.total))
    (exactPayments : Amount.SumsExact (store.payments.map Payment.amount))
    (mem : invoice ∈ store.invoices) (number : invoice.total.IsNumber) :
    covered = decide (invoice.cents ≤ Payment.centsOn store.payments invoice.id) := by
  obtain ⟨paid, sum, compared⟩ := decided
  have exactPaid := isCents_of_paidOn exactPayments sum
  have exactTotal := isCents_total exactTotals mem number
  exact Except.ok.inj (compared.symm.trans (exactPaid.covers_eq exactTotal))

/-- Nothing remains of an invoice over more than nothing exactly where it is paid. -/
theorem SoundAccounts.remainingCents_eq_zero_iff (sound : store.SoundAccounts)
    (exactTotals : Amount.SumsExact (store.invoices.map Invoice.total))
    (exactPayments : Amount.SumsExact (store.payments.map Payment.amount))
    (mem : invoice ∈ store.invoices) (payable : invoice.status.payable = true)
    (positive : 0 < invoice.cents) :
    store.remainingCents invoice = 0 ↔ invoice.status = .paid := by
  have number := sound.reconciled.total invoice mem
  unfold remainingCents
  cases status : invoice.status with
  | draft => simp [status, InvoiceStatus.payable] at payable
  | canceled => simp [status, InvoiceStatus.payable] at payable
  | paid =>
      have covered := sound.coveredIs_of_paid mem status
      have enough := covered.eq_decide exactTotals exactPayments mem number
      rw [eq_comm, decide_eq_true_eq] at enough
      exact ⟨fun _ => rfl, fun _ => by omega⟩
  | issued =>
      rcases sound.coveredIs_of_issued mem status with uncovered | ⟨⟨owes, -⟩, -⟩
      · have short := uncovered.eq_decide exactTotals exactPayments mem number
        rw [eq_comm, decide_eq_false_iff_not] at short
        exact ⟨fun none => by omega, fun paid => by cases paid⟩
      · have total := isCents_total exactTotals mem number
        have free := (Decimal.isCents_ofCents 0).covers_eq total
        have none := Except.ok.inj (free.symm.trans owes)
        rw [decide_eq_true_eq] at none
        omega

end Store

/-! ## The views -/

/-- A view is answered with a value, under some outages. -/
def World.Shows {α : Type} (world : World) (view : Tx (Except Refusal α)) (value : α) : Prop :=
  ∃ outages, ((session view).perform { world with outages }).1 = .ok (.ok value)

/-- An operation that reads has found in the store what it answers. -/
theorem Tx.Reads.of_session {α : Type} {action : Tx α} {view : Store → Except Fault α}
    {world : World} {value : α} (reads : action.Reads view)
    (answered : ((session action).perform world).1 = .ok value) :
    view world.store = .ok value := by
  rw [Tx.perform_session] at answered
  have ends : action.Ends world.begin _ _ := reads.ends
  rcases found : action.perform world.begin with ⟨result, after⟩
  rw [found] at answered
  cases answered
  exact (ends.of_ok found).1

theorem World.Shows.view_eq {α : Type} {world : World} {action : Tx (Except Refusal α)}
    {value : α} {view : Store → Except Fault (Except Refusal α)}
    (shows : world.Shows action value) (reads : action.Reads view) :
    view world.store = .ok (.ok value) := by
  obtain ⟨outages, answered⟩ := shows
  have seen := reads.of_session answered
  exact seen

namespace Store

/-- The account of a student and what remains of the student's invoices agree. -/
structure ViewsAgree (store : Store) (studentId : Int) (balance : Payments.Balance)
    (progress : Invoice → Payments.InvoiceProgress) : Prop where
  debt : balance.debt.IsCents (store.debtCents studentId)
  remaining : ∀ invoice ∈ store.billed studentId,
    (progress invoice).remaining.IsCents (store.remainingCents invoice)
  /-- The remainders come to no less than the debt. -/
  atLeast : store.debtCents studentId ≤ ((store.billed studentId).map store.remainingCents).sum
  /-- They come to the debt if each payment of the student is on an invoice, which was not
  canceled, and the payments on an invoice come to no more than its total. -/
  equal : (∀ payment ∈ store.paymentsOf studentId, payment.invoiceId ≠ none) →
    (∀ payment ∈ store.paymentsOf studentId, ∀ invoice ∈ store.invoices,
      payment.invoiceId = some invoice.id → invoice.status ≠ .canceled) →
    (∀ invoice ∈ store.billed studentId,
      Payment.centsOn store.payments invoice.id ≤ invoice.cents) →
    ((store.billed studentId).map store.remainingCents).sum = store.debtCents studentId
  /-- Nothing remains of an invoice over more than nothing exactly where it is paid. -/
  settled : ∀ invoice ∈ store.billed studentId, 0 < invoice.cents →
    (store.remainingCents invoice = 0 ↔ invoice.status = .paid)

variable {store : Store} {studentId : Int} {invoice : Invoice}

theorem balanceOn_of_balanceOf {balance : Payments.Balance}
    (shown : store.balanceOf studentId = .ok (.ok balance)) :
    ∃ student ∈ store.students, student.id = studentId ∧
      store.balanceOn student = .ok balance := by
  obtain ⟨_, -, more⟩ := bind_eq_ok_iff.mp shown
  cases found : Table.find? store.students studentId with
  | none =>
      rw [found] at more
      cases more
  | some student =>
      rw [found] at more
      obtain ⟨given, account, same⟩ := bind_eq_ok_iff.mp more
      cases same
      exact ⟨student, Table.mem_of_find? found, Table.key_of_find? found, account⟩

theorem progressOn_of_progressOf (ordered : Table.Ordered store.invoices)
    (mem : invoice ∈ store.invoices) {progress : Payments.InvoiceProgress}
    (shown : store.progressOf invoice.id = .ok (.ok progress)) :
    store.progressOn (Row.shown invoice) = .ok progress := by
  obtain ⟨_, -, more⟩ := bind_eq_ok_iff.mp shown
  have found : Table.find? store.invoices invoice.id = some invoice :=
    ordered.find?_eq_some_iff.mpr ⟨mem, rfl⟩
  rw [found] at more
  obtain ⟨given, account, same⟩ := bind_eq_ok_iff.mp more
  cases same
  exact account

/-- In sound accounts whose sums are exact the views that are answered agree. -/
theorem SoundAccounts.viewsAgree (sound : store.SoundAccounts)
    (exactTotals : Amount.SumsExact (store.invoices.map Invoice.total))
    (exactPayments : Amount.SumsExact (store.payments.map Payment.amount))
    {balance : Payments.Balance} {progress : Invoice → Payments.InvoiceProgress}
    (account : store.balanceOf studentId = .ok (.ok balance))
    (each : ∀ invoice ∈ store.billed studentId,
      store.progressOf invoice.id = .ok (.ok (progress invoice))) :
    store.ViewsAgree studentId balance progress where
  debt := by
    obtain ⟨student, -, rfl, given⟩ := balanceOn_of_balanceOf account
    exact (isOf_of_balanceOn exactTotals exactPayments given).debt
  remaining invoice among := by
    obtain ⟨mem, -, -⟩ := mem_billed_iff.mp among
    have number := sound.reconciled.total invoice mem
    have given := progressOn_of_progressOf sound.invoices.ordered mem (each invoice among)
    have within := progressFits_of_progressOn exactTotals exactPayments mem number given
    obtain ⟨found, same, rest⟩ := exists_progressOn exactTotals exactPayments mem number
      (sound.invoices.words invoice mem invoice.id List.mem_cons_self) within
    cases given.symm.trans same
    exact rest
  atLeast := sound.debtCents_le
  equal linked owed within := (sound.debtCents_eq (sound.astray_eq_nil linked owed) within).symm
  settled invoice among positive := by
    obtain ⟨mem, -, payable⟩ := mem_billed_iff.mp among
    exact sound.remainingCents_eq_zero_iff exactTotals exactPayments mem payable positive

/-- Within the precision the account of a student who is there is given. -/
theorem exists_balanceOf (exactTotals : Amount.SumsExact (store.invoices.map Invoice.total))
    (exactPayments : Amount.SumsExact (store.payments.map Payment.amount)) {student : Student}
    (mem : student ∈ store.students) (fits : Word.fits student.id)
    (within : store.BalanceFits student.id) :
    ∃ balance, store.balanceOf student.id = .ok (.ok balance) := by
  obtain ⟨named, found⟩ : ∃ named, Table.find? store.students student.id = some named :=
    Option.isSome_iff_exists.mp (List.find?_isSome.mpr ⟨student, mem, beq_self_eq_true _⟩)
  have key : named.id = student.id := Table.key_of_find? found
  obtain ⟨balance, given, -⟩ :=
    exists_balanceOn exactTotals exactPayments (key.symm ▸ fits) (key.symm ▸ within)
  refine ⟨balance, bind_eq_ok_iff.mpr ⟨_, requireWords_single fits, ?_⟩⟩
  rw [found]
  exact bind_eq_ok_iff.mpr ⟨_, given, rfl⟩

/-- Within the precision it is given what remains of an invoice. -/
theorem SoundAccounts.exists_progressOf (sound : store.SoundAccounts)
    (exactTotals : Amount.SumsExact (store.invoices.map Invoice.total))
    (exactPayments : Amount.SumsExact (store.payments.map Payment.amount))
    (mem : invoice ∈ store.invoices) (within : store.ProgressFits invoice) :
    ∃ progress, store.progressOf invoice.id = .ok (.ok progress) := by
  have fits := sound.invoices.words invoice mem invoice.id List.mem_cons_self
  have found : Table.find? store.invoices invoice.id = some invoice :=
    sound.invoices.ordered.find?_eq_some_iff.mpr ⟨mem, rfl⟩
  obtain ⟨progress, given, -⟩ := exists_progressOn exactTotals exactPayments mem
    (sound.reconciled.total invoice mem) fits within
  refine ⟨progress, bind_eq_ok_iff.mpr ⟨_, requireWords_single fits, ?_⟩⟩
  rw [found]
  exact bind_eq_ok_iff.mpr ⟨_, given, rfl⟩

end Store

/-- After a run from records without invoices and payments, where sums are exact to the cent,
the account of a student and what remains of the student's invoices agree wherever they are
answered. In a calm they are answered as long as no sum and no difference needs more digits than
decimal arithmetic has. -/
theorem views_agree (world : World) (noInvoices : world.store.invoices = [])
    (noPayments : world.store.payments = []) (tables : world.hasTables = true)
    (events : List Event)
    (exactTotals : Amount.SumsExact ((world.run events).store.invoices.map Invoice.total))
    (exactPayments : Amount.SumsExact ((world.run events).store.payments.map Payment.amount)) :
    (∀ studentId balance progress,
      (world.run events).Shows (Payments.studentBalance studentId) balance →
      (∀ invoice ∈ (world.run events).store.billed studentId,
        (world.run events).Shows (Payments.invoiceProgress invoice.id) (progress invoice)) →
      (world.run events).store.ViewsAgree studentId balance progress) ∧
    ((world.run events).outages = [] →
      (∀ student ∈ (world.run events).store.students, Word.fits student.id →
        (world.run events).store.BalanceFits student.id →
        ∃ balance, ((session (Payments.studentBalance student.id)).perform (world.run events)).1 =
          .ok (.ok balance)) ∧
      ∀ invoice ∈ (world.run events).store.invoices,
        (world.run events).store.ProgressFits invoice →
        ∃ progress,
          ((session (Payments.invoiceProgress invoice.id)).perform (world.run events)).1 =
          .ok (.ok progress)) := by
  have sound := world.soundAccounts_run noInvoices noPayments events
  refine ⟨?_, fun quiet => ⟨?_, ?_⟩⟩
  · intro studentId balance progress account each
    exact sound.viewsAgree exactTotals exactPayments
      (account.view_eq (Payments.reads_studentBalance studentId)) fun invoice mem =>
        (each invoice mem).view_eq (Payments.reads_invoiceProgress invoice.id)
  · intro student mem fits within
    have calm : (world.run events).Calm := ⟨(world.hasTables_run events).trans tables, quiet⟩
    rw [(Payments.reads_studentBalance student.id).perform_session calm]
    exact Store.exists_balanceOf exactTotals exactPayments mem fits within
  · intro invoice mem within
    have calm : (world.run events).Calm := ⟨(world.hasTables_run events).trans tables, quiet⟩
    rw [(Payments.reads_invoiceProgress invoice.id).perform_session calm]
    exact sound.exists_progressOf exactTotals exactPayments mem within

/-- The first invoice is issued, and a part of it is paid. -/
def Event.paysInPart : List Event :=
  issuesFirst ++
    [.used (.recordPayment { Payments.PaymentCommand.sample with amount := .ofCents 1000 })]

/-- Of an invoice over 25.00 on which 10.00 are paid, 15.00 remain, and so
much the student owes. -/
theorem views_agree_when_paid_in_part :
    let reached := (World.calmWith .withEnrollment).run Event.paysInPart
    ∃ balance progress,
      ((session (Payments.studentBalance 1)).perform reached).1 = .ok (.ok balance) ∧
      ((session (Payments.invoiceProgress 1)).perform reached).1 = .ok (.ok progress) ∧
      balance.debt.IsCents 1500 ∧ progress.remaining.IsCents 1500 := by
  intro reached
  have there :
      (⟨1, "Anna", "", "", "", true⟩ : Student) ∈ reached.store.students := by decide +kernel
  obtain ⟨invoice, only⟩ : ∃ invoice, reached.store.invoices = [invoice] :=
    List.length_eq_one_iff.mp (by decide +kernel)
  have mem : invoice ∈ reached.store.invoices := only ▸ List.mem_singleton_self invoice
  have billed : ∀ invoice ∈ reached.store.invoices, invoice ∈ reached.store.billed 1 ∧
      invoice.id = 1 ∧ invoice.cents = 2500 := by decide +kernel
  have onlyBilled : ∀ other ∈ reached.store.billed 1, other = invoice := by
    intro other among
    have listed := (Store.mem_billed_iff.mp among).1
    rw [only] at listed
    exact List.mem_singleton.mp listed
  obtain ⟨own, key, cents⟩ := billed invoice mem
  have paidOn : Payment.centsOn reached.store.payments 1 = 1000 := by decide +kernel
  obtain ⟨agree, given⟩ :=
    views_agree (World.calmWith .withEnrollment) rfl rfl rfl Event.paysInPart
      (.of_sumsExactly (by decide +kernel)) (.of_sumsExactly (by decide +kernel))
  obtain ⟨accounts, progresses⟩ := given (by decide +kernel)
  obtain ⟨balance, account⟩ := accounts _ there rfl
    ⟨by decide +kernel, by decide +kernel, by decide +kernel⟩
  have fits : reached.store.ProgressFits invoice := by
    refine ⟨?_, ?_, ?_⟩ <;> simp [cents, key, paidOn]
  obtain ⟨progress, shown⟩ := progresses invoice mem fits
  have views := agree 1 balance (fun _ => progress) ⟨_, account⟩ fun other among => by
    rw [onlyBilled other among]
    exact ⟨_, shown⟩
  have debt : reached.store.debtCents 1 = 1500 := by decide +kernel
  have remaining : reached.store.remainingCents invoice = 1500 := by
    simp [Store.remainingCents, cents, key, paidOn]
  rw [key] at shown
  exact ⟨balance, progress, account, shown, debt ▸ views.debt,
    remaining ▸ views.remaining invoice own⟩

/-- Two payments of `2 ^ 86` are added exactly, but the account of the student is not given, for
their sum has more digits than decimal arithmetic. -/
theorem long_account_not_given :
    let command : Payments.PaymentCommand := { Payments.PaymentCommand.sample with
      invoiceId := none
      amount := .finite false (2 ^ 86) 0 }
    let world := World.calmWith .withEnrollment
    let reached := world.run [.used (.recordPayment command), .used (.recordPayment command)]
    world.store.invoices = [] ∧ world.store.payments = [] ∧ reached.outages = [] ∧
    Amount.SumsExact (reached.store.invoices.map Invoice.total) ∧
    Amount.SumsExact (reached.store.payments.map Payment.amount) ∧
    reached.store.payments.map Payment.id = [1, 2] ∧
    ((session (Payments.studentBalance 1)).perform reached).1 =
      .error (.arithmetic .invalid) := by
  intro command world reached
  have twice : reached.store.payments.map Payment.amount =
      List.replicate 2 (.finite false (2 ^ 86) 0) := by decide +kernel
  have exactPayments : Amount.SumsExact (reached.store.payments.map Payment.amount) :=
    twice ▸ .of_replicate (by decide +kernel)
  have exactTotals : Amount.SumsExact (reached.store.invoices.map Invoice.total) :=
    .of_sumsExactly (by decide +kernel)
  have invoiced : reached.store.invoicedTo 1 = .ok (.ofCents 0) := by
    rw [Store.invoicedTo_eq exactTotals]
    decide +kernel
  have paid : reached.store.paidBy 1 = .error (.arithmetic .invalid) := by
    rw [Store.paidBy_eq exactPayments]
    decide +kernel
  have found : Table.find? reached.store.students 1 = some ⟨1, "Anna", "", "", "", true⟩ := by
    decide +kernel
  have calm : reached.Calm := ⟨by decide +kernel, by decide +kernel⟩
  refine ⟨rfl, rfl, by decide +kernel, exactTotals, exactPayments, by decide +kernel, ?_⟩
  rw [(Payments.reads_studentBalance 1).perform_session calm]
  simp only [Store.balanceOf, Store.balanceOn, found, invoiced, paid]
  rfl

end Tuition
