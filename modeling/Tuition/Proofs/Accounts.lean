/-
# What is read off the accounts

How far an invoice is paid and what a student owes are read off the store. Both add up payments,
in the order of their keys or of their times. Where sums of stored amounts are exact to the cent,
the order makes no difference, so stores with the same invoices and the same payments, whatever
the keys of the payments and the moments at which invoices were paid, give the same accounts.
-/

import Tuition.Payments.Balance
import Tuition.Proofs.Calm
import Tuition.Proofs.Cents
import Mathlib.Data.List.Perm.Subperm
import Mathlib.Algebra.BigOperators.Group.List.Basic
import Mathlib.Algebra.Order.BigOperators.Group.List
import Mathlib.Algebra.Order.Ring.Nat

namespace Tuition

/-! ## Reading -/

namespace Tx

variable {α : Type} {world : World}

theorem Reads.congr {action : Tx α} {view other : Store → Except Fault α}
    (reads : action.Reads view) (same : ∀ store, view store = other store) :
    action.Reads other := by
  rwa [← funext same]

theorem reads_look (view : Store → α) : (look view).Reads fun store => .ok (view store) :=
  does_look view

theorem reads_lift (result : Except Fault α) : (lift result).Reads fun _ => result :=
  does_lift result

/-- An access reads what is left of it after the call, if the demands on numbers are met. -/
theorem Reads.access {kind : Call} {table : String} {numbers : List Int} {rest : Tx α}
    {view : Store → Except Fault α} (reads : rest.Reads view) :
    (do
      call kind
      requireTable table numbers
      rest).Reads fun store => Table.requireWords numbers >>= fun _ => view store := by
  refine (does_access reads).congr fun store => ?_
  cases Table.requireWords numbers <;> rfl

/-- In a calm a session that reads gives what is to be seen in the store. -/
theorem Reads.perform_session {action : Tx α} {view : Store → Except Fault α}
    (reads : action.Reads view) (calm : world.Calm) :
    ((session action).perform world).1 = view world.store := by
  have ends : action.Ends world.begin _ _ := reads.ends
  rw [Tx.perform_session]
  rcases found : action.perform world.begin with ⟨fault | value, after⟩
  · exact ((ends.of_error found).1 ⟨calm.tables, calm.quiet⟩).symm
  · exact (ends.of_ok found).1.symm

end Tx

open Tx

/-- Rows that are edited under their keys are found as they were, edited. -/
theorem Table.find?_map {α : Type} [Row α] {edit : α → α}
    (keys : ∀ row, Row.key (edit row) = Row.key row) (rows : List α) (key : Int) :
    find? (rows.map edit) key = (find? rows key).map edit := by
  have same : (Row.key · == key) ∘ edit = (Row.key · == key) :=
    funext fun row => congrArg (· == key) (keys row)
  rw [find?, List.find?_map, same, find?]

/-! ## Sums of amounts -/

namespace Amount

/-- The cents that a column shows of a kept amount. -/
def shownCents (kept : Decimal) : Int :=
  centsOf (shown kept)

/-- The sums of any of the amounts, in any order, are exact to the cent. -/
def SumsExact (amounts : List Decimal) : Prop :=
  ∀ some : List Decimal, some.Subperm amounts →
    sum some = .ok (.ofCents (some.map shownCents).sum)

variable {amounts others : List Decimal}

theorem SumsExact.mono (exact : SumsExact amounts) (fewer : others.Subperm amounts) :
    SumsExact others :=
  fun some among => exact some (among.trans fewer)

/-- Amounts of some rows of a table are added exactly where those of all are. -/
theorem SumsExact.sum_map {α : Type} {amount : α → Decimal} {rows some : List α}
    (exact : SumsExact (rows.map amount)) (among : some.Subperm rows) :
    sum (some.map amount) = .ok (.ofCents (some.map fun row => shownCents (amount row)).sum) := by
  obtain ⟨ordered, permuted, fewer⟩ := among
  have amounts : (some.map amount).Subperm (rows.map amount) :=
    ⟨ordered.map amount, permuted.map _, fewer.map _⟩
  rw [exact _ amounts, List.map_map]
  rfl

theorem totalSize_eq (amounts : List Decimal) :
    totalSize amounts = (amounts.map fun amount => (centsOf amount).natAbs).sum := by
  rw [totalSize, List.sum_eq_foldr]

/-- Sums are exact where amounts are kept exactly and come to little enough. -/
theorem SumsExact.of_sumsExactly (few : sumsExactly amounts = true) : SumsExact amounts := by
  intro some among
  simp only [sumsExactly, Bool.and_eq_true, List.all_eq_true, decide_eq_true_eq] at few
  obtain ⟨exact, bound⟩ := few
  have exactSome : ∀ amount ∈ some, isExact amount = true :=
    fun amount mem => exact amount (among.subset mem)
  have smaller : totalSize some ≤ totalSize amounts := by
    rw [totalSize_eq, totalSize_eq]
    obtain ⟨ordered, permuted, fewer⟩ := among
    rw [← (permuted.map _).sum_eq]
    exact (fewer.map _).sum_le_sum fun _ _ => Nat.zero_le _
  have boundSome : some.length * totalSize some < exactBound :=
    Nat.lt_of_le_of_lt (Nat.mul_le_mul among.length_le smaller) bound
  have shownSome : some.map shownCents = some.map centsOf :=
    List.map_congr_left fun amount mem => by rw [shownCents, shown, if_pos (exactSome amount mem)]
  have fewSome : sumsExactly some = true := by
    simp only [sumsExactly, Bool.and_eq_true, List.all_eq_true, decide_eq_true_eq]
    exact ⟨exactSome, boundSome⟩
  rw [sum, if_pos fewSome, shownSome, List.sum_eq_foldr]

/-- Sums of one amount, taken so many times, are exact if each number of
times gives the multiple. -/
theorem SumsExact.of_replicate {count : Nat} {amount : Decimal}
    (each : ∀ n ≤ count, sum (List.replicate n amount) = .ok (.ofCents (n * shownCents amount))) :
    SumsExact (List.replicate count amount) := by
  rintro some ⟨ordered, permuted, fewer⟩
  obtain ⟨n, le, rfl⟩ := List.sublist_replicate_iff.mp fewer
  obtain rfl := List.perm_replicate.mp permuted.symm
  rw [each n le, List.map_replicate, List.sum_replicate]
  simp

end Amount

/-- The cents of a payment, as they are shown. -/
def Payment.cents (payment : Payment) : Int :=
  Amount.shownCents payment.amount

/-- The cents of the payments on an invoice. -/
def Payment.centsOn (payments : List Payment) (id : Int) : Int :=
  ((payments.filter (·.invoiceId == some id)).map cents).sum

/-- A payment without its key. -/
def Payment.unkeyed (payment : Payment) : Payment :=
  { payment with id := 0 }

/-- The cents of payments with a property that has nothing to do with keys. -/
theorem Payment.sum_cents_eq {first second : List Payment}
    (same : (first.map unkeyed).Perm (second.map unkeyed)) (property : Payment → Bool)
    (blind : ∀ payment : Payment, property payment.unkeyed = property payment) :
    ((first.filter property).map cents).sum = ((second.filter property).map cents).sum := by
  have moved (payments : List Payment) : (payments.filter property).map cents =
      ((payments.map unkeyed).filter property).map cents := by
    have unkeyed : property ∘ unkeyed = property := funext blind
    rw [List.filter_map, unkeyed, List.map_map]
    rfl
  rw [moved, moved second]
  exact ((same.filter property).map cents).sum_eq

theorem Payment.perm_amounts {first second : List Payment}
    (same : (first.map unkeyed).Perm (second.map unkeyed)) :
    (first.map amount).Perm (second.map amount) := by
  have moved (payments : List Payment) :
      payments.map amount = (payments.map unkeyed).map amount := by
    rw [List.map_map]
    rfl
  rw [moved, moved second]
  exact same.map _

theorem Payment.centsOn_eq {first second : List Payment}
    (same : (first.map unkeyed).Perm (second.map unkeyed)) (id : Int) :
    centsOn first id = centsOn second id :=
  sum_cents_eq same _ fun _ => rfl

/-- An invoice without the moment at which it was paid. -/
def Invoice.untimed (invoice : Invoice) : Invoice :=
  { invoice with paidAt := none }

theorem Table.find?_untimed (invoices : List Invoice) (id : Int) :
    find? (invoices.map Invoice.untimed) id = (find? invoices id).map Invoice.untimed := by
  have keys (invoice : Invoice) : Row.key invoice.untimed = Row.key invoice := rfl
  exact find?_map keys invoices id

theorem Invoice.untimed_eq_iff {first second : Invoice} :
    first.untimed = second.untimed ↔ second = { first with paidAt := second.paidAt } := by
  obtain ⟨⟩ := first
  obtain ⟨⟩ := second
  simp [untimed, eq_comm]

namespace Store

/-- The sum of the payments of a student, as far as it has one. -/
def paidBy (store : Store) (studentId : Int) : Except Fault Decimal := do
  let paid := store.payments.filter (·.studentId == studentId)
  let sum ← Amount.sum ((paid.mergeSort Access.madeBy).map Payment.amount)
  (Money.round sum).mapError .arithmetic

/-- The sum of what a student is billed, as far as it has one. -/
def invoicedTo (store : Store) (studentId : Int) : Except Fault Decimal := do
  let billed := store.invoices.filter fun invoice =>
    invoice.studentId == studentId && invoice.status.payable
  let byPeriod := billed.mergeSort fun first second => first.period.notAfter second.period
  let sum ← Amount.sum (byPeriod.map Invoice.total)
  (Money.round sum).mapError .arithmetic

/-- How far an invoice that was looked up is paid. -/
def progressOn (store : Store) (invoice : Invoice) : Except Fault Payments.InvoiceProgress := do
  let total ← (Money.round invoice.total).mapError .arithmetic
  Table.requireWords [invoice.id]
  let paid ← store.paidOn invoice.id
  let paid ← (Money.round paid).mapError .arithmetic
  let remaining ← (Payments.remainder total paid).mapError .arithmetic
  return ⟨invoice.id, invoice.number, total, paid, remaining, invoice.status⟩

/-- How far the invoice with a key is paid. -/
def progressOf (store : Store) (id : Int) :
    Except Fault (Except Refusal Payments.InvoiceProgress) := do
  Table.requireWords [id]
  match (Table.find? store.invoices id).map Row.shown with
  | none => return .error (.noInvoice id)
  | some invoice => return .ok (← store.progressOn invoice)

/-- The account of a student who was looked up. -/
def balanceOn (store : Store) (student : Student) : Except Fault Payments.Balance := do
  Table.requireWords [student.id]
  let invoiced ← store.invoicedTo student.id
  Table.requireWords [student.id]
  let paid ← store.paidBy student.id
  (Payments.Balance.ofSums student invoiced paid).mapError .arithmetic

/-- The account of the student with a key. -/
def balanceOf (store : Store) (studentId : Int) :
    Except Fault (Except Refusal Payments.Balance) := do
  Table.requireWords [studentId]
  match Table.find? store.students studentId with
  | none => return .error (.noStudent studentId)
  | some student => return .ok (← store.balanceOn student)

end Store

namespace Payments

theorem reads_sumPaidOnInvoice (id : Int) :
    (Access.sumPaidOnInvoice id).Reads fun store =>
      Table.requireWords [id] >>= fun _ => store.paidOn id :=
  .access (reads_bind (reads_look _) fun _ => reads_bind (reads_lift _) fun _ => reads_lift _)

theorem reads_sumPaidByStudent (studentId : Int) :
    (Access.sumPaidByStudent studentId).Reads fun store =>
      Table.requireWords [studentId] >>= fun _ => store.paidBy studentId :=
  .access (reads_bind (reads_look _) fun _ => reads_bind (reads_lift _) fun _ => reads_lift _)

theorem reads_sumInvoiced (studentId : Int) :
    (Access.sumInvoiced studentId).Reads fun store =>
      Table.requireWords [studentId] >>= fun _ => store.invoicedTo studentId :=
  .access (reads_bind (reads_look _) fun _ => reads_bind (reads_lift _) fun _ => reads_lift _)

theorem reads_balanceFor (student : Student) : (balanceFor student).Reads (·.balanceOn student) :=
  (reads_bind (reads_sumInvoiced student.id) fun _ =>
    reads_bind (reads_sumPaidByStudent student.id) fun _ => reads_lift _).congr fun store => by
      simp only [Store.balanceOn, bind_assoc]

theorem reads_progressOn (invoice : Invoice) :
    (do
      let total ← arithmetic (Money.round invoice.total)
      let paid ← Access.sumPaidOnInvoice invoice.id
      let paid ← arithmetic (Money.round paid)
      let remaining ← arithmetic (remainder total paid)
      return .ok ⟨invoice.id, invoice.number, total, paid, remaining, invoice.status⟩ :
        Tx (Except Refusal InvoiceProgress)).Reads fun store =>
          Except.ok <$> store.progressOn invoice :=
  (reads_bind (reads_lift _) fun _ => reads_bind (reads_sumPaidOnInvoice invoice.id) fun _ =>
    reads_bind (reads_lift _) fun _ => reads_bind (reads_lift _) fun _ => reads_pure _).congr
      fun store => by
        simp only [Store.progressOn, bind_assoc, map_bind, map_pure]
        rfl

theorem reads_invoiceProgress (id : Int) : (invoiceProgress id).Reads (·.progressOf id) := by
  have looked : (Access.findInvoice id).Reads fun store => Table.requireWords [id] >>= fun _ =>
      .ok ((Table.find? store.invoices id).map Row.shown) := reads_access
  let view (found : Option Invoice) (store : Store) :
      Except Fault (Except Refusal InvoiceProgress) :=
    match found with
    | none => .ok (.error (.noInvoice id))
    | some invoice => .ok <$> store.progressOn invoice
  refine Reads.congr (@reads_bind _ _ _ _ _ view looked ?_) ?_
  · rintro (_ | invoice)
    · exact reads_pure _
    · exact reads_progressOn invoice
  · intro store
    simp only [Store.progressOf, bind_assoc]
    refine bind_congr fun _ => ?_
    cases (Table.find? store.invoices id).map Row.shown <;> rfl

theorem reads_studentBalance (studentId : Int) :
    (studentBalance studentId).Reads (·.balanceOf studentId) := by
  have looked : (Access.findStudent studentId).Reads fun store =>
      Table.requireWords [studentId] >>= fun _ => .ok (Table.find? store.students studentId) :=
    reads_access
  let view (found : Option Student) (store : Store) : Except Fault (Except Refusal Balance) :=
    match found with
    | none => .ok (.error (.noStudent studentId))
    | some student => .ok <$> store.balanceOn student
  refine Reads.congr (@reads_bind _ _ _ _ _ view looked ?_) ?_
  · rintro (_ | student)
    · exact reads_pure _
    · refine (reads_bind (reads_balanceFor student) fun _ => reads_pure _).congr fun store => ?_
      rfl
  · intro store
    simp only [Store.balanceOf, bind_assoc]
    refine bind_congr fun _ => ?_
    cases Table.find? store.students studentId <;> rfl

end Payments

/-! ## Stores with the same accounts -/

namespace Store

/-- Two stores have the same invoices but for the moments at which they were paid, the same
payments but for their keys and their order, and the same of all else. -/
structure SameAccounts (first second : Store) : Prop where
  invoices : first.invoices.map Invoice.untimed = second.invoices.map Invoice.untimed
  payments : (first.payments.map Payment.unkeyed).Perm (second.payments.map Payment.unkeyed)
  others : { first with invoices := [], payments := [] } =
    { second with invoices := [], payments := [] }

variable {first second store : Store}

theorem sum_amounts {payments : List Payment}
    (exact : Amount.SumsExact (store.payments.map Payment.amount))
    (among : payments.Subperm store.payments) :
    Amount.sum (payments.map Payment.amount) = .ok (.ofCents (payments.map Payment.cents).sum) :=
  exact.sum_map among

/-- What is paid on an invoice comes to the cents of the payments on it. -/
theorem paidOn_eq (exact : Amount.SumsExact (store.payments.map Payment.amount)) (id : Int) :
    store.paidOn id =
      (Money.round (.ofCents (Payment.centsOn store.payments id))).mapError .arithmetic := by
  rw [paidOn, sum_amounts exact List.filter_sublist.subperm]
  rfl

/-- What a student has paid comes to the cents of the student's payments. -/
theorem paidBy_eq (exact : Amount.SumsExact (store.payments.map Payment.amount))
    (studentId : Int) :
    store.paidBy studentId =
      (Money.round (.ofCents ((store.payments.filter (·.studentId == studentId)).map
        Payment.cents).sum)).mapError .arithmetic := by
  have sorted := List.mergeSort_perm (store.payments.filter (·.studentId == studentId))
    Access.madeBy
  rw [paidBy, sum_amounts exact (sorted.subperm.trans List.filter_sublist.subperm)]
  rw [(sorted.map Payment.cents).sum_eq]
  rfl

namespace SameAccounts

variable (same : first.SameAccounts second)
  (exact : Amount.SumsExact (first.payments.map Payment.amount))
include same exact

/-- Sums of the payments of the one are exact if those of the other are. -/
theorem sumsExact : Amount.SumsExact (second.payments.map Payment.amount) :=
  exact.mono (Payment.perm_amounts same.payments).symm.subperm

theorem paidOn (id : Int) : first.paidOn id = second.paidOn id := by
  rw [paidOn_eq exact, paidOn_eq (same.sumsExact exact), Payment.centsOn_eq same.payments]

theorem paidBy (studentId : Int) : first.paidBy studentId = second.paidBy studentId := by
  rw [paidBy_eq exact, paidBy_eq (same.sumsExact exact),
    Payment.sum_cents_eq same.payments _ fun _ => rfl]

omit exact in
theorem invoicedTo (studentId : Int) :
    first.invoicedTo studentId = second.invoicedTo studentId := by
  let billed (invoice : Invoice) : Bool :=
    invoice.studentId == studentId && invoice.status.payable
  let byPeriod (one other : Invoice) : Bool := one.period.notAfter other.period
  have untimed (invoices : List Invoice) :
      ((invoices.filter billed).mergeSort byPeriod).map Invoice.total =
        (((invoices.map Invoice.untimed).filter billed).mergeSort byPeriod).map
          Invoice.total := by
    have blind : billed ∘ Invoice.untimed = billed := rfl
    have sorted : ((invoices.filter billed).mergeSort byPeriod).map Invoice.untimed =
        ((invoices.filter billed).map Invoice.untimed).mergeSort byPeriod :=
      List.map_mergeSort fun _ _ _ _ => rfl
    rw [List.filter_map, blind, ← sorted, List.map_map]
    rfl
  have totals : ((first.invoices.filter billed).mergeSort byPeriod).map Invoice.total =
      ((second.invoices.filter billed).mergeSort byPeriod).map Invoice.total := by
    rw [untimed, untimed second.invoices, same.invoices]
  unfold Store.invoicedTo
  exact congrArg (fun amounts => Amount.sum amounts >>= fun sum =>
    (Money.round sum).mapError Fault.arithmetic) totals

theorem progressOf (id : Int) : first.progressOf id = second.progressOf id := by
  have found : (Table.find? first.invoices id).map Invoice.untimed =
      (Table.find? second.invoices id).map Invoice.untimed := by
    rw [← Table.find?_untimed, same.invoices, Table.find?_untimed]
  unfold Store.progressOf
  cases one : Table.find? first.invoices id with
  | none =>
      rw [one, Option.map_none, eq_comm, Option.map_eq_none_iff] at found
      rw [found]
      rfl
  | some invoice =>
      rw [one, Option.map_some, eq_comm, Option.map_eq_some_iff] at found
      obtain ⟨other, there, equal⟩ := found
      have shape := Invoice.untimed_eq_iff.mp equal.symm
      generalize other.paidAt = stamp at shape
      subst shape
      have progress : first.progressOn (Row.shown invoice) =
          second.progressOn (Row.shown { invoice with paidAt := stamp }) := by
        unfold Store.progressOn
        rw [same.paidOn exact]
        rfl
      rw [there]
      dsimp only [Option.map_some]
      rw [progress]

theorem balanceOf (studentId : Int) : first.balanceOf studentId = second.balanceOf studentId := by
  have students := congrArg Store.students same.others
  dsimp only at students
  have balances : first.balanceOn = second.balanceOn := by
    funext student
    rw [Store.balanceOn, same.invoicedTo, same.paidBy exact, Store.balanceOn]
  rw [Store.balanceOf, students, balances, Store.balanceOf]

end SameAccounts

end Store
end Tuition
