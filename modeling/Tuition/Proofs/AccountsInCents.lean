/-
# The accounts in cents

What a student owes and what remains of an invoice are differences of two sums, rounded, and cut
off at nothing. Where the sums are exact to the cent, an account is given exactly as long as no
sum and no difference needs more than the 28 digits of decimal arithmetic, and then it says what
the cents of the invoices and the payments come to; beyond them it is not given at all.
-/

import Tuition.Proofs.CalmPayments
import Tuition.Proofs.SoundAccounts

namespace Tuition

/-! ## Differences -/

namespace Decimal

theorem sub_eq_add {first second : Decimal} {m n : Int} (one : first.IsCents m)
    (other : second.IsCents n) :
    first.sub second = first.add second.flipSign ∧ second.flipSign.IsCents (-n) := by
  obtain ⟨_, _, rfl, rfl⟩ := one
  obtain ⟨sign, coefficient, rfl, rfl⟩ := other
  refine ⟨rfl, _, _, rfl, ?_⟩
  cases sign <;> simp [signed]

/-- The difference of two numbers of cents is exact if it fits into the precision. -/
theorem IsCents.sub {first second : Decimal} {m n : Int} (one : first.IsCents m)
    (other : second.IsCents n) (bound : m.natAbs < 10 ^ 28) (boundOther : n.natAbs < 10 ^ 28)
    (boundDifference : (m - n).natAbs < 10 ^ 28) :
    ∃ difference, first.sub second = .ok difference ∧ difference.IsCents (m - n) := by
  obtain ⟨same, flipped⟩ := sub_eq_add one other
  rw [same]
  exact one.add flipped bound (by omega) boundDifference

/-- A difference of numbers of cents that can be rounded fits into the precision. -/
theorem bound_of_sub {first second difference rounded : Decimal} {m n : Int}
    (one : first.IsCents m) (other : second.IsCents n) (bound : m.natAbs < 10 ^ 28)
    (boundOther : n.natAbs < 10 ^ 28) (subtracted : first.sub second = .ok difference)
    (rounds : difference.quantize = .ok rounded) : (m - n).natAbs < 10 ^ 28 := by
  by_contra wide
  obtain ⟨same, flipped⟩ := sub_eq_add one other
  rw [same] at subtracted
  obtain ⟨n₁, c₁, rfl, own⟩ := one
  obtain ⟨n₂, c₂, shape, ownOther⟩ := flipped
  have size := natAbs_signed n₁ c₁
  have sizeOther := natAbs_signed n₂ c₂
  have some₁ : c₁ ≠ 0 := by omega
  have some₂ : c₂ ≠ 0 := by omega
  have digits : digitCount c₁ ≤ 28 := (digitCount_le_iff (by decide)).mpr (by omega)
  have positive := digitCount_pos c₂
  have reaches : ¬(digitCount c₂ + (-2) - 1 <
      (-2 : Int) + min (-1) ((digitCount c₁ : Int) - precision - 2)) := by
    simp only [precision]
    omega
  have whole : c₁ * tenTo ((-2 : Int) - -2).toNat = c₁ := Nat.mul_one _
  have level : ¬((-2 : Int) < -2) := by decide
  have adds : addFinite n₁ c₁ (-2) n₂ c₂ (-2) = .ok difference := by
    rw [shape] at subtracted
    exact subtracted
  simp only [addFinite, some₁, some₂, false_and, if_false, addNonzero, level, reaches,
    whole] at adds
  rw [if_neg (by omega)] at adds
  have narrow := (isCents_of_finalize adds rounds).2
  omega

theorem IsCents.neg {amount : Decimal} {cents : Int} (exact : amount.IsCents cents)
    (bound : cents.natAbs < 10 ^ 28) :
    ∃ opposite, amount.neg = .ok opposite ∧ opposite.IsCents (-cents) := by
  obtain ⟨sign, coefficient, rfl, rfl⟩ := exact
  rw [natAbs_signed] at bound
  refine ⟨_, finalize_cents _ bound, _, _, rfl, ?_⟩
  by_cases zero : coefficient = 0
  · cases sign <;> simp [zero, signed]
  · cases sign <;> simp [zero, signed]

/-- A number of cents is cut off at nothing. -/
theorem IsCents.atLeastNothing {amount : Decimal} {cents : Int} (exact : amount.IsCents cents) :
    ∃ cut, Money.atLeastNothing amount = .ok cut ∧ cut.IsCents (max 0 cents) := by
  have compared := (isCents_ofCents 0).compare_eq exact
  have ints : Ord.compare 0 cents =
      if (0 : Int) < cents then .lt else if 0 = cents then .eq else .gt := rfl
  rw [ints] at compared
  by_cases above : 0 < cents
  · rw [if_pos above] at compared
    refine ⟨amount, bind_eq_ok_iff.mpr ⟨_, compared, rfl⟩, ?_⟩
    rwa [max_eq_right above.le]
  · refine ⟨Money.nothing, bind_eq_ok_iff.mpr ⟨_, compared, ?_⟩, ?_⟩
    · rw [if_neg above]
      by_cases zero : 0 = cents
      · rw [if_pos zero]
        rfl
      · rw [if_neg zero]
        rfl
    · rw [max_eq_left (Int.not_lt.mp above)]
      exact isCents_ofCents 0

end Decimal

namespace Payments

variable {total paid : Decimal} {m n : Int}

/-- What remains of a total is exact if it is within the precision. -/
theorem exists_remainder (one : total.IsCents m) (other : paid.IsCents n)
    (bound : m.natAbs < 10 ^ 28) (boundOther : n.natAbs < 10 ^ 28)
    (boundDifference : (m - n).natAbs < 10 ^ 28) :
    ∃ rest, remainder total paid = .ok rest ∧ rest.IsCents (max 0 (m - n)) := by
  obtain ⟨difference, subtracted, exact⟩ := one.sub other bound boundOther boundDifference
  obtain ⟨cut, cuts, value⟩ := exact.atLeastNothing
  refine ⟨cut, ?_, value⟩
  exact bind_eq_ok_iff.mpr ⟨_, subtracted,
    bind_eq_ok_iff.mpr ⟨_, exact.quantize_eq boundDifference, cuts⟩⟩

theorem bound_of_remainder {rest : Decimal} (one : total.IsCents m) (other : paid.IsCents n)
    (bound : m.natAbs < 10 ^ 28) (boundOther : n.natAbs < 10 ^ 28)
    (given : remainder total paid = .ok rest) : (m - n).natAbs < 10 ^ 28 := by
  obtain ⟨difference, subtracted, more⟩ := bind_eq_ok_iff.mp given
  obtain ⟨rounded, rounds, -⟩ := bind_eq_ok_iff.mp more
  exact Decimal.bound_of_sub one other bound boundOther subtracted rounds

/-- The account of a student who was billed some cents and has paid others, to the cent: what is
billed and paid, the difference of the two, and what of it is owed. -/
structure Balance.IsOf (account : Balance) (student : Student) (m n : Int) : Prop where
  studentId : account.studentId = student.id
  studentName : account.studentName = student.fullName
  invoiced : account.invoiced.IsCents m
  paid : account.paid.IsCents n
  balance : account.balance.IsCents (n - m)
  debt : account.debt.IsCents (max 0 (m - n))

/-- An account is exact if its balance is within the precision. -/
theorem exists_ofSums (student : Student) (one : total.IsCents m) (other : paid.IsCents n)
    (bound : m.natAbs < 10 ^ 28) (boundOther : n.natAbs < 10 ^ 28)
    (boundDifference : (n - m).natAbs < 10 ^ 28) :
    ∃ balance, Balance.ofSums student total paid = .ok balance ∧ balance.IsOf student m n := by
  obtain ⟨difference, subtracted, exact⟩ := other.sub one boundOther bound boundDifference
  obtain ⟨opposite, negated, value⟩ := exact.neg boundDifference
  obtain ⟨cut, cuts, debt⟩ := value.atLeastNothing
  rw [Int.neg_sub] at debt
  refine ⟨⟨student.id, student.fullName, total, paid, difference, cut⟩, ?_,
    rfl, rfl, one, other, exact, debt⟩
  exact bind_eq_ok_iff.mpr ⟨_, one.quantize_eq bound, bind_eq_ok_iff.mpr ⟨_,
    other.quantize_eq boundOther, bind_eq_ok_iff.mpr ⟨_, subtracted, bind_eq_ok_iff.mpr ⟨_,
      exact.quantize_eq boundDifference, bind_eq_ok_iff.mpr ⟨_, negated,
        bind_eq_ok_iff.mpr ⟨_, cuts, rfl⟩⟩⟩⟩⟩⟩

theorem bound_of_ofSums {student : Student} {balance : Balance} (one : total.IsCents m)
    (other : paid.IsCents n) (bound : m.natAbs < 10 ^ 28) (boundOther : n.natAbs < 10 ^ 28)
    (given : Balance.ofSums student total paid = .ok balance) : (n - m).natAbs < 10 ^ 28 := by
  obtain ⟨_, keptTotal, more⟩ := bind_eq_ok_iff.mp given
  obtain ⟨_, keptPaid, more⟩ := bind_eq_ok_iff.mp more
  cases (one.quantize_eq bound).symm.trans keptTotal
  cases (other.quantize_eq boundOther).symm.trans keptPaid
  obtain ⟨difference, subtracted, more⟩ := bind_eq_ok_iff.mp more
  obtain ⟨rounded, rounds, -⟩ := bind_eq_ok_iff.mp more
  exact Decimal.bound_of_sub other one boundOther bound subtracted rounds

end Payments

/-! ## Sums of a store -/

/-- An amount that is added exactly is shown as a whole number of cents. -/
theorem Amount.SumsExact.isCents_shown {amounts : List Decimal} {amount : Decimal}
    (exact : SumsExact amounts) (mem : amount ∈ amounts) (number : amount.IsNumber) :
    (shown amount).IsCents (shownCents amount) := by
  have places := Decimal.twoPlaces_shown amount
  cases shape : shown amount with
  | finite negative coefficient exponent =>
      rw [shape] at places
      obtain rfl : exponent = -2 := places
      exact ⟨negative, coefficient, rfl, by rw [shownCents, shape]; rfl⟩
  | nan =>
      have shows := isNumber_shown number
      rw [shape] at shows
      exact shows.elim
  | infinite negative =>
      -- then the sum of this amount alone would be infinite too
      exfalso
      have alone := exact [amount] (List.singleton_subperm_iff.mpr mem)
      have inexact : isExact amount = false := by
        rw [Bool.eq_false_iff]
        intro kept
        rw [shown, if_pos kept] at shape
        rw [shape] at kept
        cases kept
      have binary : toBinary amount = .infinite negative := by
        rw [shown, if_neg (by simp [inexact])] at shape
        cases found : toBinary amount with
        | finite => rw [found] at shape; cases shape
        | nan => rw [found] at shape; cases shape
        | infinite sign =>
            rw [found] at shape
            cases shape
            rfl
      have rough : sumsExactly [amount] = false := by simp [sumsExactly, inexact]
      rw [sum, if_neg (by simp [rough]), List.map_singleton, binary] at alone
      cases alone

/-- The cents of the total of an invoice, as they are shown. -/
def Invoice.cents (invoice : Invoice) : Int :=
  Amount.shownCents invoice.total

namespace Store

variable {store : Store} {studentId : Int} {invoice : Invoice}

/-- The invoices that a student is to pay or has paid. -/
def billed (store : Store) (studentId : Int) : List Invoice :=
  store.invoices.filter fun invoice => invoice.studentId == studentId && invoice.status.payable

/-- The payments of a student. -/
def paymentsOf (store : Store) (studentId : Int) : List Payment :=
  store.payments.filter (·.studentId == studentId)

/-- What the invoices of a student come to. -/
def billedCents (store : Store) (studentId : Int) : Int :=
  ((store.billed studentId).map Invoice.cents).sum

/-- What the payments of a student come to. -/
def paidCents (store : Store) (studentId : Int) : Int :=
  ((store.paymentsOf studentId).map Payment.cents).sum

/-- What a student owes. -/
def debtCents (store : Store) (studentId : Int) : Int :=
  max 0 (store.billedCents studentId - store.paidCents studentId)

/-- What remains of an invoice after the payments on it. -/
def remainingCents (store : Store) (invoice : Invoice) : Int :=
  max 0 (invoice.cents - Payment.centsOn store.payments invoice.id)

theorem mem_billed_iff : invoice ∈ store.billed studentId ↔
    invoice ∈ store.invoices ∧ invoice.studentId = studentId ∧ invoice.status.payable = true := by
  simp [billed]

/-- What a student is billed comes to the cents of the invoices. -/
theorem invoicedTo_eq (exact : Amount.SumsExact (store.invoices.map Invoice.total))
    (studentId : Int) :
    store.invoicedTo studentId =
      (Money.round (.ofCents (store.billedCents studentId))).mapError .arithmetic := by
  have sorted := List.mergeSort_perm (store.billed studentId)
    fun first second => first.period.notAfter second.period
  have among : ((store.billed studentId).mergeSort
      fun first second => first.period.notAfter second.period).Subperm store.invoices :=
    sorted.subperm.trans List.filter_sublist.subperm
  have same := (sorted.map Invoice.cents).sum_eq
  rw [billedCents, ← same]
  show (Amount.sum (((store.billed studentId).mergeSort _).map Invoice.total) >>= _) = _
  rw [exact.sum_map among]
  rfl

/-- The total of an invoice is shown as a whole number of cents, where it is added exactly. -/
theorem isCents_total (exact : Amount.SumsExact (store.invoices.map Invoice.total))
    (mem : invoice ∈ store.invoices) (number : invoice.total.IsNumber) :
    (Amount.shown invoice.total).IsCents invoice.cents :=
  exact.isCents_shown (List.mem_map_of_mem mem) number

/-! ## The account of a student -/

/-- The sums of an account and their difference are within the precision. -/
structure BalanceFits (store : Store) (studentId : Int) : Prop where
  billed : (store.billedCents studentId).natAbs < 10 ^ 28
  paid : (store.paidCents studentId).natAbs < 10 ^ 28
  balance : (store.paidCents studentId - store.billedCents studentId).natAbs < 10 ^ 28

section Balance

variable (exactTotals : Amount.SumsExact (store.invoices.map Invoice.total))
  (exactPayments : Amount.SumsExact (store.payments.map Payment.amount)) {student : Student}
include exactTotals exactPayments

/-- An account within the precision is given, to the cent. -/
theorem exists_balanceOn (fits : Word.fits student.id) (within : store.BalanceFits student.id) :
    ∃ balance, store.balanceOn student = .ok balance ∧
      balance.IsOf student (store.billedCents student.id) (store.paidCents student.id) := by
  have billed := Decimal.isCents_ofCents (store.billedCents student.id)
  have paid := Decimal.isCents_ofCents (store.paidCents student.id)
  obtain ⟨balance, given, own⟩ :=
    Payments.exists_ofSums student billed paid within.billed within.paid within.balance
  refine ⟨balance, ?_, own⟩
  have sumBilled :
      store.invoicedTo student.id = .ok (.ofCents (store.billedCents student.id)) := by
    rw [invoicedTo_eq exactTotals, Money.round, billed.quantize_eq within.billed]
    rfl
  have sumPaid : store.paidBy student.id = .ok (.ofCents (store.paidCents student.id)) := by
    have sum := paidBy_eq exactPayments student.id
    rw [Money.round] at sum
    rw [sum]
    exact congrArg (Except.mapError Fault.arithmetic) (paid.quantize_eq within.paid)
  have word := Tx.requireWords_single fits
  exact bind_eq_ok_iff.mpr ⟨_, word, bind_eq_ok_iff.mpr ⟨_, sumBilled,
    bind_eq_ok_iff.mpr ⟨_, word, bind_eq_ok_iff.mpr ⟨_, sumPaid, mapError_eq_ok_iff.mpr given⟩⟩⟩⟩

/-- An account that is given is within the precision. -/
theorem balanceFits_of_balanceOn {balance : Payments.Balance}
    (given : store.balanceOn student = .ok balance) : store.BalanceFits student.id := by
  obtain ⟨_, -, more⟩ := bind_eq_ok_iff.mp given
  obtain ⟨billed, sumBilled, more⟩ := bind_eq_ok_iff.mp more
  obtain ⟨_, -, more⟩ := bind_eq_ok_iff.mp more
  obtain ⟨paid, sumPaid, last⟩ := bind_eq_ok_iff.mp more
  rw [invoicedTo_eq exactTotals] at sumBilled
  rw [paidBy_eq exactPayments] at sumPaid
  have roundsBilled := mapError_eq_ok_iff.mp sumBilled
  have roundsPaid := mapError_eq_ok_iff.mp sumPaid
  have exactBilled := Decimal.isCents_of_quantize_ofCents roundsBilled
  have exactPaid := Decimal.isCents_of_quantize_ofCents roundsPaid
  have boundBilled := exactBilled.bound_of_quantize roundsBilled
  have boundPaid := exactPaid.bound_of_quantize roundsPaid
  exact ⟨boundBilled, boundPaid,
    Payments.bound_of_ofSums exactBilled exactPaid boundBilled boundPaid
      (mapError_eq_ok_iff.mp last)⟩

/-- An account that is given is that of the student. -/
theorem isOf_of_balanceOn {balance : Payments.Balance}
    (given : store.balanceOn student = .ok balance) :
    balance.IsOf student (store.billedCents student.id) (store.paidCents student.id) := by
  obtain ⟨_, words, -⟩ := bind_eq_ok_iff.mp given
  have fits := Table.requireWords_eq_ok_iff.mp words student.id (List.mem_singleton_self _)
  have within := balanceFits_of_balanceOn exactTotals exactPayments given
  obtain ⟨found, same, own⟩ := exists_balanceOn exactTotals exactPayments fits within
  cases given.symm.trans same
  exact own

end Balance

/-! ## How far an invoice is paid -/

/-- The amounts of an invoice and their difference are within the precision. -/
structure ProgressFits (store : Store) (invoice : Invoice) : Prop where
  total : invoice.cents.natAbs < 10 ^ 28
  paid : (Payment.centsOn store.payments invoice.id).natAbs < 10 ^ 28
  remaining : (invoice.cents - Payment.centsOn store.payments invoice.id).natAbs < 10 ^ 28

section Progress

variable (exactTotals : Amount.SumsExact (store.invoices.map Invoice.total))
  (exactPayments : Amount.SumsExact (store.payments.map Payment.amount))
  (mem : invoice ∈ store.invoices) (number : invoice.total.IsNumber)
include exactTotals exactPayments mem number

/-- What remains of an invoice is given within the precision, to the cent. -/
theorem exists_progressOn (fits : Word.fits invoice.id) (within : store.ProgressFits invoice) :
    ∃ progress, store.progressOn (Row.shown invoice) = .ok progress ∧
      progress.remaining.IsCents (store.remainingCents invoice) := by
  have total := isCents_total exactTotals mem number
  have paid := Decimal.isCents_ofCents (Payment.centsOn store.payments invoice.id)
  obtain ⟨rest, given, exact⟩ :=
    Payments.exists_remainder total paid within.total within.paid within.remaining
  refine ⟨⟨invoice.id, invoice.number, Amount.shown invoice.total,
    .ofCents (Payment.centsOn store.payments invoice.id), rest, invoice.status⟩, ?_, exact⟩
  have sum :
      store.paidOn invoice.id = .ok (.ofCents (Payment.centsOn store.payments invoice.id)) := by
    rw [paidOn_eq exactPayments, Money.round, paid.quantize_eq within.paid]
    rfl
  exact bind_eq_ok_iff.mpr ⟨_, mapError_eq_ok_iff.mpr (total.quantize_eq within.total),
    bind_eq_ok_iff.mpr ⟨_, Tx.requireWords_single fits, bind_eq_ok_iff.mpr ⟨_, sum,
      bind_eq_ok_iff.mpr ⟨_, mapError_eq_ok_iff.mpr (paid.quantize_eq within.paid),
        bind_eq_ok_iff.mpr ⟨_, mapError_eq_ok_iff.mpr given, rfl⟩⟩⟩⟩⟩

/-- Where it is given what remains of an invoice, it is within the precision. -/
theorem progressFits_of_progressOn {progress : Payments.InvoiceProgress}
    (given : store.progressOn (Row.shown invoice) = .ok progress) :
    store.ProgressFits invoice := by
  have exactTotal := isCents_total exactTotals mem number
  obtain ⟨total, sumTotal, more⟩ := bind_eq_ok_iff.mp given
  obtain ⟨_, -, more⟩ := bind_eq_ok_iff.mp more
  obtain ⟨sum, sumPaid, more⟩ := bind_eq_ok_iff.mp more
  obtain ⟨paid, roundedPaid, more⟩ := bind_eq_ok_iff.mp more
  obtain ⟨rest, remains, -⟩ := bind_eq_ok_iff.mp more
  have roundsTotal : (Amount.shown invoice.total).quantize = .ok total :=
    mapError_eq_ok_iff.mp sumTotal
  have sumsPaid : store.paidOn invoice.id = .ok sum := sumPaid
  have exactSum := isCents_of_paidOn exactPayments sumsPaid
  rw [paidOn_eq exactPayments] at sumsPaid
  have boundPaid := exactSum.bound_of_quantize (mapError_eq_ok_iff.mp sumsPaid)
  have roundsPaid : sum.quantize = .ok paid := mapError_eq_ok_iff.mp roundedPaid
  rw [exactSum.quantize_eq boundPaid] at roundsPaid
  cases roundsPaid
  have numberTotal := Decimal.isNumber_of_quantize (Amount.isNumber_shown number) roundsTotal
  have kept : total.IsCents invoice.cents :=
    (Decimal.twoPlaces_shown invoice.total).isCents_of_quantize roundsTotal numberTotal
  have boundTotal := kept.bound_of_quantize roundsTotal
  exact ⟨boundTotal, boundPaid, Payments.bound_of_remainder kept exactSum boundTotal boundPaid
    (mapError_eq_ok_iff.mp remains)⟩

end Progress

end Store
end Tuition
