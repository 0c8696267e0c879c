/-
# Debtors

The list of debtors repeats accounts. The active students are gone through in the order of
their keys, and the accounts that say something is owed are kept; then the greatest debts are
moved to the front. The sort is stable, so equal debts stay in the order of the keys. The
list therefore holds each active student with a debt once, with the account that the student
is shown, and nobody else.

An account that needs more digits than decimal arithmetic has is not given, and
then neither is the list.
-/

import Tuition.Proofs.ConsistentViews

namespace Tuition

open Tx

/-! ## Accounts of debtors -/

namespace Store

/-- The accounts of those students who owe something. -/
def owingAmong (store : Store) : List Student → Except Fault (List Payments.Balance)
  | [] => .ok []
  | student :: others => do
    let balance ← store.balanceOn student
    let owes ← (balance.debt.compare Money.nothing).mapError .arithmetic
    let more ← store.owingAmong others
    return if owes = .gt then balance :: more else more

/-- The debtors, the greatest debt first. -/
def debtors (store : Store) : Except Fault (List Payments.Balance) := do
  return (← store.owingAmong (store.students.filter (·.active))).mergeSort
    Payments.greatestDebtFirst

/-- The account of a student, if it is given and something is owed. -/
def owedBy (store : Store) (student : Student) : Option Payments.Balance :=
  match store.balanceOn student with
  | .ok balance => if 0 < store.debtCents student.id then some balance else none
  | .error _ => none

end Store

namespace Payments

variable {first second : Balance} {m n : Int}

theorem greatestDebtFirst_eq (one : first.debt.IsCents m) (other : second.debt.IsCents n) :
    greatestDebtFirst first second = decide (n ≤ m) := by
  have compared : second.debt.order first.debt = Ord.compare n m := by
    rw [Decimal.order, other.compare_eq one]
  rw [greatestDebtFirst, compared, Bool.eq_iff_iff, bne_iff_ne, decide_eq_true_eq, ne_eq,
    compare_gt_iff_gt]
  exact not_lt

theorem reads_owing (students : List Student) :
    (owing students).Reads (·.owingAmong students) := by
  induction students with
  | nil => exact reads_pure []
  | cons student others ih =>
      exact reads_bind (reads_balanceFor student) fun _ => reads_bind (reads_lift _) fun _ =>
        reads_bind ih fun _ => reads_pure _

theorem reads_listDebtors : listDebtors.Reads (·.debtors) := by
  have active : Access.activeStudents.Reads fun store => .ok (store.students.filter (·.active)) :=
    reads_access
  exact (reads_bind active fun _ => reads_bind (reads_owing _) fun _ => reads_pure _)

end Payments

namespace Store

variable {store : Store} {student : Student} {students : List Student}
  {balance : Payments.Balance} {debtors : List Payments.Balance}

/-- Of two students the one who owes more comes first, and the one with the lesser key
if both owe the same. -/
def OwesMore (store : Store) (first second : Int) : Prop :=
  store.debtCents second < store.debtCents first ∨
    store.debtCents first = store.debtCents second ∧ first < second

instance (store : Store) (first second : Int) : Decidable (store.OwesMore first second) :=
  inferInstanceAs (Decidable (_ ∨ _))

theorem OwesMore.asymm {first second : Int} (before : store.OwesMore first second) :
    ¬store.OwesMore second first := by
  unfold OwesMore at *
  omega

theorem owedBy_eq_some_iff : store.owedBy student = some balance ↔
    store.balanceOn student = .ok balance ∧ 0 < store.debtCents student.id := by
  unfold owedBy
  cases store.balanceOn student with
  | error => simp
  | ok => simp [and_comm]

section Exact

variable (exactTotals : Amount.SumsExact (store.invoices.map Invoice.total))
  (exactPayments : Amount.SumsExact (store.payments.map Payment.amount))
include exactTotals exactPayments

theorem owingAmong_cons_eq_ok_iff {others : List Student} :
    store.owingAmong (student :: others) = .ok debtors ↔
      ∃ balance more, store.balanceOn student = .ok balance ∧ store.owingAmong others = .ok more ∧
        (if 0 < store.debtCents student.id then balance :: more else more) = debtors := by
  have owes {balance : Payments.Balance} (given : store.balanceOn student = .ok balance) :
      balance.debt.compare Money.nothing = .ok (Ord.compare (store.debtCents student.id) 0) :=
    (isOf_of_balanceOn exactTotals exactPayments given).debt.compare_eq
      (Decimal.isCents_ofCents 0)
  simp only [← gt_iff_lt, ← compare_gt_iff_gt]
  constructor
  · intro kept
    obtain ⟨balance, given, next⟩ := bind_eq_ok_iff.mp kept
    obtain ⟨found, compared, next⟩ := bind_eq_ok_iff.mp next
    obtain ⟨more, rest, same⟩ := bind_eq_ok_iff.mp next
    cases (owes given).symm.trans (mapError_eq_ok_iff.mp compared)
    exact ⟨balance, more, given, rest, Except.ok.inj same⟩
  · rintro ⟨balance, more, given, rest, rfl⟩
    exact bind_eq_ok_iff.mpr ⟨balance, given,
      bind_eq_ok_iff.mpr ⟨_, mapError_eq_ok_iff.mpr (owes given),
        bind_eq_ok_iff.mpr ⟨more, rest, rfl⟩⟩⟩

/-- The accounts of students who owe something are kept, if all accounts are given. -/
theorem owingAmong_eq_ok_iff : store.owingAmong students = .ok debtors ↔
    (∀ student ∈ students, ∃ balance, store.balanceOn student = .ok balance) ∧
      students.filterMap store.owedBy = debtors := by
  induction students generalizing debtors with
  | nil => simp [owingAmong]
  | cons student others ih =>
      rw [owingAmong_cons_eq_ok_iff exactTotals exactPayments, List.forall_mem_cons]
      have kept {balance : Payments.Balance} (given : store.balanceOn student = .ok balance) :
          (student :: others).filterMap store.owedBy =
            if 0 < store.debtCents student.id then balance :: others.filterMap store.owedBy
            else others.filterMap store.owedBy := by
        rw [List.filterMap_cons, owedBy, given]
        by_cases owes : 0 < store.debtCents student.id <;> simp [owes]
      constructor
      · rintro ⟨balance, more, given, rest, rfl⟩
        obtain ⟨all, rfl⟩ := ih.mp rest
        exact ⟨⟨⟨balance, given⟩, all⟩, kept given⟩
      · rintro ⟨⟨⟨balance, given⟩, all⟩, rfl⟩
        exact ⟨balance, _, given, ih.mpr ⟨all, rfl⟩, (kept given).symm⟩

theorem isOf_of_owedBy (owed : store.owedBy student = some balance) :
    balance.IsOf student (store.billedCents student.id) (store.paidCents student.id) :=
  isOf_of_balanceOn exactTotals exactPayments (owedBy_eq_some_iff.mp owed).1

/-! ## The list -/

/-- The debtors are given if the accounts of all active students are. -/
theorem debtors_eq_ok_iff : store.debtors = .ok debtors ↔
    (∀ student ∈ store.students, student.active = true →
      ∃ balance, store.balanceOn student = .ok balance) ∧
    ((store.students.filter (·.active)).filterMap store.owedBy).mergeSort
      Payments.greatestDebtFirst = debtors := by
  simp only [← and_imp, ← List.mem_filter]
  rw [Store.debtors, bind_eq_ok_iff]
  constructor
  · rintro ⟨owing, among, same⟩
    obtain ⟨all, rfl⟩ := (owingAmong_eq_ok_iff exactTotals exactPayments).mp among
    exact ⟨all, Except.ok.inj same⟩
  · rintro ⟨all, rfl⟩
    exact ⟨_, (owingAmong_eq_ok_iff exactTotals exactPayments).mpr ⟨all, rfl⟩, rfl⟩

/-- The debtors are the active students who owe something, each with the own account. -/
theorem mem_debtors_iff (given : store.debtors = .ok debtors) : balance ∈ debtors ↔
    ∃ student ∈ store.students, student.active = true ∧ store.owedBy student = some balance := by
  obtain ⟨-, rfl⟩ := (debtors_eq_ok_iff exactTotals exactPayments).mp given
  simp [and_assoc]

theorem pairwise_debtors (ordered : Table.Ordered store.students)
    (given : store.debtors = .ok debtors) :
    debtors.Pairwise fun first second => store.OwesMore first.studentId second.studentId := by
  obtain ⟨-, rfl⟩ := (debtors_eq_ok_iff exactTotals exactPayments).mp given
  have owner {student : Student} {balance : Payments.Balance}
      (owed : store.owedBy student = some balance) : balance.studentId = student.id :=
    (isOf_of_owedBy exactTotals exactPayments owed).studentId
  have debt : ∀ balance ∈ (store.students.filter (·.active)).filterMap store.owedBy,
      balance.debt.IsCents (store.debtCents balance.studentId) := by
    intro balance mem
    obtain ⟨student, -, owed⟩ := List.mem_filterMap.mp mem
    rw [owner owed]
    exact (isOf_of_owedBy exactTotals exactPayments owed).debt
  have keys : ((store.students.filter (·.active)).filterMap store.owedBy).Pairwise
      fun first second => first.studentId < second.studentId := by
    refine (ordered.filter _).filterMap _
      fun student other before balance owed second owedSecond => ?_
    rw [owner owed, owner owedSecond]
    exact before
  rw [mergeSort_congr fun first mem second memSecond =>
    Payments.greatestDebtFirst_eq (debt first mem) (debt second memSecond)]
  refine (pairwise_mergeSort_ties ?_ ?_ keys).imp fun {first second} ties => ?_
  · intro first second third
    simp only [decide_eq_true_eq]
    omega
  · intro first second
    simp only [Bool.or_eq_true, decide_eq_true_eq]
    omega
  · simp only [decide_eq_true_eq] at ties
    unfold OwesMore
    omega

/-- Within the precision the debtors are given. -/
theorem exists_debtors (words : ∀ student ∈ store.students, Word.fits student.id)
    (within : ∀ student ∈ store.students, student.active = true → store.BalanceFits student.id) :
    ∃ debtors, store.debtors = .ok debtors := by
  refine ⟨_,
    (debtors_eq_ok_iff exactTotals exactPayments).mpr ⟨fun student mem active => ?_, rfl⟩⟩
  obtain ⟨balance, given, -⟩ :=
    exists_balanceOn exactTotals exactPayments (words student mem) (within student mem active)
  exact ⟨balance, given⟩

end Exact

/-- The account of a student is looked up under the key. -/
theorem balanceOf_of_balanceOn (ordered : Table.Ordered store.students)
    (mem : student ∈ store.students) (given : store.balanceOn student = .ok balance) :
    store.balanceOf student.id = .ok (.ok balance) := by
  obtain ⟨_, words, -⟩ := bind_eq_ok_iff.mp given
  have found : Table.find? store.students student.id = some student :=
    ordered.find?_eq_some_iff.mpr ⟨mem, rfl⟩
  refine bind_eq_ok_iff.mpr ⟨_, words, ?_⟩
  rw [found]
  exact bind_eq_ok_iff.mpr ⟨balance, given, rfl⟩

end Store

/-- A list of debtors. -/
structure World.ListsDebtors (world : World) (debtors : List Payments.Balance) : Prop where
  /-- A debtor is an active student who owes something, and has the account that
  the student is shown. -/
  shown : ∀ balance ∈ debtors, ∃ student ∈ world.store.students, student.active = true ∧
    0 < world.store.debtCents student.id ∧ balance.studentId = student.id ∧
    world.Shows (Payments.studentBalance student.id) balance
  all : ∀ student ∈ world.store.students, student.active = true →
    0 < world.store.debtCents student.id → ∃ balance ∈ debtors, balance.studentId = student.id
  once : (debtors.map Payments.Balance.studentId).Nodup
  order : debtors.Pairwise fun first second =>
    world.store.OwesMore first.studentId second.studentId

/-- The debtors that a store has are listed. -/
theorem World.listsDebtors {world : World} {debtors : List Payments.Balance}
    (tables : world.hasTables = true) (ordered : Table.Ordered world.store.students)
    (exactTotals : Amount.SumsExact (world.store.invoices.map Invoice.total))
    (exactPayments : Amount.SumsExact (world.store.payments.map Payment.amount))
    (given : world.store.debtors = .ok debtors) : world.ListsDebtors debtors := by
  have members {balance : Payments.Balance} : balance ∈ debtors ↔ _ :=
    Store.mem_debtors_iff exactTotals exactPayments given
  have order := Store.pairwise_debtors exactTotals exactPayments ordered given
  refine { shown := ?_, all := ?_, once := ?_, order := order }
  · intro balance mem
    obtain ⟨student, listed, active, owed⟩ := members.mp mem
    obtain ⟨account, owes⟩ := Store.owedBy_eq_some_iff.mp owed
    have own := Store.isOf_of_owedBy exactTotals exactPayments owed
    have calm : ({ world with outages := [] } : World).Calm := ⟨tables, rfl⟩
    refine ⟨student, listed, active, owes, own.studentId, [], ?_⟩
    exact ((Payments.reads_studentBalance student.id).perform_session calm).trans
      (Store.balanceOf_of_balanceOn ordered listed account)
  · intro student listed active owes
    obtain ⟨all, -⟩ := (Store.debtors_eq_ok_iff exactTotals exactPayments).mp given
    obtain ⟨balance, account⟩ := all student listed active
    have owed := Store.owedBy_eq_some_iff.mpr ⟨account, owes⟩
    exact ⟨balance, members.mpr ⟨student, listed, active, owed⟩,
      (Store.isOf_of_owedBy exactTotals exactPayments owed).studentId⟩
  · refine List.pairwise_map.mpr (order.imp fun {first second} before same => ?_)
    rw [same] at before
    exact before.asymm before

/-- The accounts and the list of debtors agree, where sums are exact to the cent. An account that
is given says to the cent what the issued and paid invoices of a student come to, what the
payments come to, the difference, and what of it is owed. A list of debtors that is given holds
each active student who owes something, once and with this account, and nobody else; greater debts
come first, and equal ones in the order of the keys of the students. In a calm they are given as
long as no sum and no difference needs more digits than decimal arithmetic has. -/
theorem debtors_have_their_accounts (world : World) (tables : world.hasTables = true)
    (students : Table.WellKept world.store.students)
    (exactTotals : Amount.SumsExact (world.store.invoices.map Invoice.total))
    (exactPayments : Amount.SumsExact (world.store.payments.map Payment.amount)) :
    (∀ studentId balance,
      ((session (Payments.studentBalance studentId)).perform world).1 = .ok (.ok balance) →
      ∃ student ∈ world.store.students, student.id = studentId ∧
        balance.IsOf student (world.store.billedCents studentId)
          (world.store.paidCents studentId)) ∧
    (∀ debtors, ((session Payments.listDebtors).perform world).1 = .ok debtors →
      world.ListsDebtors debtors) ∧
    (world.outages = [] →
      (∀ student ∈ world.store.students, world.store.BalanceFits student.id →
        ∃ balance, ((session (Payments.studentBalance student.id)).perform world).1 =
          .ok (.ok balance)) ∧
      ((∀ student ∈ world.store.students, student.active = true →
          world.store.BalanceFits student.id) →
        ∃ debtors, ((session Payments.listDebtors).perform world).1 = .ok debtors)) := by
  have words : ∀ student ∈ world.store.students, Word.fits student.id :=
    fun student mem => students.words student mem student.id List.mem_cons_self
  refine ⟨?_, ?_, fun quiet => ⟨?_, ?_⟩⟩
  · intro studentId balance answered
    have account := (Payments.reads_studentBalance studentId).of_session answered
    obtain ⟨student, mem, rfl, given⟩ := Store.balanceOn_of_balanceOf account
    exact ⟨student, mem, rfl, Store.isOf_of_balanceOn exactTotals exactPayments given⟩
  · intro debtors answered
    exact World.listsDebtors tables students.ordered exactTotals exactPayments
      (Payments.reads_listDebtors.of_session answered)
  · intro student mem within
    rw [(Payments.reads_studentBalance student.id).perform_session ⟨tables, quiet⟩]
    exact Store.exists_balanceOf exactTotals exactPayments mem (words student mem) within
  · intro within
    rw [Payments.reads_listDebtors.perform_session ⟨tables, quiet⟩]
    exact Store.exists_debtors exactTotals exactPayments words within

/-- The records of an organisation whose students are all billed 25.00, of whom one has paid all
and another one a part, and of whom one is not active. -/
def Store.withDebtors : Store where
  students := [⟨1, "Anna", "", "", "", true⟩, ⟨2, "Berta", "", "", "", true⟩,
    ⟨3, "Carl", "", "", "", false⟩, ⟨4, "Dora", "", "", "", true⟩, ⟨5, "Emil", "", "", "", true⟩]
  invoices := [1, 2, 3, 4, 5].map fun id =>
    { Invoice.sample with id := id, studentId := id, status := .issued }
  payments := [⟨1, 1, none, .sample, .ofCents 1500, .cash, ""⟩,
    ⟨2, 5, some 5, .sample, .ofCents 2500, .bank, ""⟩]

/-- Two students who owe as much come in the order of their keys, before
one who has paid a part. -/
theorem debtors_have_their_accounts_of_five :
    ∃ debtors, ((session Payments.listDebtors).perform (.calmWith .withDebtors)).1 = .ok debtors ∧
      debtors.map Payments.Balance.studentId = [2, 4, 1] := by
  obtain ⟨-, lists, given⟩ := debtors_have_their_accounts (.calmWith .withDebtors) rfl
    (by decide +kernel) (.of_sumsExactly (by decide +kernel))
    (.of_sumsExactly (by decide +kernel))
  obtain ⟨debtors, listed⟩ := (given rfl).2 fun student mem _ => by
    constructor <;> revert student <;> decide +kernel
  refine ⟨debtors, listed, ?_⟩
  obtain ⟨shown, all, once, order⟩ := lists debtors listed
  have members (id : Int) : id ∈ debtors.map Payments.Balance.studentId ↔ id ∈ [2, 4, 1] := by
    have owe : ∀ student ∈ Store.withDebtors.students, student.active = true →
        0 < Store.withDebtors.debtCents student.id → student.id ∈ [2, 4, 1] := by decide +kernel
    have owing : ∀ id ∈ [2, 4, 1], ∃ student ∈ Store.withDebtors.students, student.id = id ∧
        student.active = true ∧ 0 < Store.withDebtors.debtCents student.id := by decide +kernel
    constructor
    · intro mem
      obtain ⟨balance, among, rfl⟩ := List.mem_map.mp mem
      obtain ⟨student, there, active, owes, same, -⟩ := shown balance among
      exact same ▸ owe student there active owes
    · intro mem
      obtain ⟨student, there, rfl, active, owes⟩ := owing id mem
      exact List.mem_map.mpr (all student there active owes)
  refine List.Perm.eq_of_pairwise (fun _ _ _ _ before after => absurd after before.asymm)
    (List.pairwise_map.mpr order) (?_ : [2, 4, 1].Pairwise Store.withDebtors.OwesMore)
    ((List.perm_ext_iff_of_nodup once (by decide)).mpr members)
  decide +kernel

/-- The records of an organisation in which one student is billed 25.00, and another one
has paid `2 ^ 86` twice. -/
def Store.withLongAccount : Store where
  students := [⟨1, "Anna", "", "", "", true⟩, ⟨2, "Berta", "", "", "", true⟩]
  invoices := [{ Invoice.sample with studentId := 2, status := .issued }]
  payments := [⟨1, 1, none, .sample, .finite false (2 ^ 86) 0, .bank, ""⟩,
    ⟨2, 1, none, .sample, .finite false (2 ^ 86) 0, .bank, ""⟩]

/-- One account with more digits than decimal arithmetic has keeps the debts of all
others from being listed. -/
theorem debtors_not_listed :
    let world := World.calmWith .withLongAccount
    Table.WellKept world.store.students ∧
    Amount.SumsExact (world.store.invoices.map Invoice.total) ∧
    Amount.SumsExact (world.store.payments.map Payment.amount) ∧ world.store.debtCents 2 = 2500 ∧
    ((session Payments.listDebtors).perform world).1 = .error (.arithmetic .invalid) ∧
    ((session (Payments.studentBalance 1)).perform world).1 = .error (.arithmetic .invalid) := by
  intro world
  have twice : world.store.payments.map Payment.amount =
      List.replicate 2 (.finite false (2 ^ 86) 0) := rfl
  have exactPayments : Amount.SumsExact (world.store.payments.map Payment.amount) :=
    twice ▸ .of_replicate (by decide +kernel)
  have exactTotals : Amount.SumsExact (world.store.invoices.map Invoice.total) :=
    .of_sumsExactly (by decide +kernel)
  have invoiced : world.store.invoicedTo 1 = .ok (.ofCents 0) := by
    rw [Store.invoicedTo_eq exactTotals]
    decide +kernel
  have paid : world.store.paidBy 1 = .error (.arithmetic .invalid) := by
    rw [Store.paidBy_eq exactPayments]
    decide +kernel
  have account : world.store.balanceOn ⟨1, "Anna", "", "", "", true⟩ =
      .error (.arithmetic .invalid) := by
    simp only [Store.balanceOn, invoiced, paid]
    rfl
  have calm : world.Calm := ⟨rfl, rfl⟩
  refine ⟨by decide +kernel, exactTotals, exactPayments, by decide +kernel, ?_, ?_⟩
  · rw [Payments.reads_listDebtors.perform_session calm]
    have active : world.store.students.filter (·.active) =
      [⟨1, "Anna", "", "", "", true⟩, ⟨2, "Berta", "", "", "", true⟩] := rfl
    rw [Store.debtors, active, Store.owingAmong, account]
    rfl
  · rw [(Payments.reads_studentBalance 1).perform_session calm]
    have found : Table.find? world.store.students 1 = some ⟨1, "Anna", "", "", "", true⟩ := by
      decide +kernel
    simp only [Store.balanceOf, found, account]
    rfl

end Tuition
