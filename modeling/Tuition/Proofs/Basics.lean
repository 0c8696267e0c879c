/-
# Results that may fail, and lists

General lemmas that mention nothing of tuition. Results are taken apart where one is made from
another. A list is searched and sorted; what is said of sorting is that a stable sort leaves alone
what it need not move, and that a list with keys of its own has one sorted order.
-/

import Mathlib.Algebra.Order.BigOperators.Group.List
import Mathlib.Algebra.Order.Ring.Int
import Mathlib.Data.List.Nodup
import Mathlib.Tactic.Common

namespace Tuition

/-! ## Results -/

section Results

variable {ε δ α β : Type}

/-- A calculation in two steps gives a value if both steps do. -/
theorem bind_eq_ok_iff {first : Except ε α} {next : α → Except ε β} {value : β} :
    first >>= next = .ok value ↔ ∃ between, first = .ok between ∧ next between = .ok value := by
  cases first with
  | error fault => simp [bind, Except.bind]
  | ok between => simp [bind, Except.bind]

theorem map_eq_ok_iff {result : Except ε α} {f : α → β} {value : β} :
    result.map f = .ok value ↔ ∃ before, result = .ok before ∧ f before = value := by
  cases result with
  | error fault => simp [Except.map]
  | ok before => simp [Except.map]

theorem map_eq_error_iff {result : Except ε α} {f : α → β} {fault : ε} :
    result.map f = .error fault ↔ result = .error fault := by
  cases result with
  | error fault => simp [Except.map]
  | ok before => simp [Except.map]

theorem mapError_eq_ok_iff {result : Except ε α} {f : ε → δ} {value : α} :
    result.mapError f = .ok value ↔ result = .ok value := by
  cases result with
  | error fault => simp [Except.mapError]
  | ok before => simp [Except.mapError]

/-- Each of some values passes a test if the test of all does. -/
theorem forM_eq_ok_iff {test : α → Except ε Unit} {values : List α} :
    values.forM test = .ok () ↔ ∀ value ∈ values, test value = .ok () := by
  induction values with
  | nil => simp [pure, Except.pure]
  | cons value values ih =>
      have first : (value :: values).forM test = test value >>= fun _ => values.forM test := rfl
      rw [first, bind_eq_ok_iff, List.forall_mem_cons, ih]
      exact ⟨fun ⟨_, one, others⟩ => ⟨one, others⟩, fun ⟨one, others⟩ => ⟨(), one, others⟩⟩

end Results

/-! ## Searching -/

section Searching

variable {α : Type} {test : α → Bool} {rows : List α}

/-- In a list sorted by a relation, the first row that passes a test is related to every row that
passes it. -/
theorem rel_of_find? {related : α → α → Prop} (sorted : rows.Pairwise related)
    (reflexive : ∀ row, related row row) {first other : α} (found : rows.find? test = some first)
    (mem : other ∈ rows) (also : test other) : related first other := by
  obtain ⟨-, before, after, rfl, passed⟩ := List.find?_eq_some_iff_append.mp found
  rcases List.mem_append.mp mem with earlier | rest
  · have left := passed other earlier
    rw [also] at left
    cases left
  · rcases List.mem_cons.mp rest with rfl | later
    · exact reflexive other
    · exact (List.pairwise_cons.mp (List.pairwise_append.mp sorted).2.1).1 other later

/-- A search downwards finds the greatest number that passes. -/
theorem find?_downwards {passes : Nat → Bool} {top count found : Nat} (below : found ≤ top)
    (reached : top - found < count) (good : passes found)
    (greatest : ∀ other, found < other → other ≤ top → passes other = false) :
    ((List.range count).map (top - ·)).find? passes = some found := by
  have step : (List.range count).find? (passes ∘ (top - ·)) = some (top - found) := by
    rw [List.find?_range_eq_some]
    refine ⟨?_, List.mem_range.mpr reached, fun index earlier => ?_⟩
    · show passes (top - (top - found))
      rwa [Nat.sub_sub_self below]
    · show !passes (top - index)
      rw [greatest (top - index) (by omega) (Nat.sub_le _ _)]
      rfl
  rw [List.find?_map, step]
  exact congrArg some (Nat.sub_sub_self below)

theorem dropWhile_append_of_kept (rest : List α) (some : rows ≠ [])
    (kept : ∀ row ∈ rows, test row = false) : (rows ++ rest).dropWhile test = rows ++ rest := by
  cases rows with
  | nil => exact absurd rfl some
  | cons row rows => exact List.dropWhile_cons_of_neg (by simp [kept row List.mem_cons_self])

/-- At most one row passes a test that no two rows pass. -/
theorem countP_le_one (apart : rows.Pairwise fun first second => test first → ¬test second) :
    rows.countP test ≤ 1 := by
  induction rows with
  | nil => exact Nat.zero_le 1
  | cons row rows ih =>
      obtain ⟨others, rest⟩ := List.pairwise_cons.mp apart
      rw [List.countP_cons]
      split
      · next holds =>
          rw [List.countP_eq_zero.mpr fun other among => others other among holds]
      · exact ih rest

/-- What holds of each row and those before it holds of any two in their order. -/
theorem pairwise_of_split {related : α → α → Prop}
    (splits : ∀ earlier row later, rows = earlier ++ row :: later →
      ∀ other ∈ earlier, related other row) : rows.Pairwise related := by
  rw [List.pairwise_iff_getElem]
  intro i j _ within less
  refine splits (rows.take j) rows[j] (rows.drop (j + 1)) (by simp) _ ?_
  exact List.mem_take_iff_getElem.mpr ⟨i, by omega, rfl⟩

end Searching

/-! ## Sorting -/

section Sorting

variable {α : Type} {le : α → α → Bool} {rows : List α}

/-- A row ties with another if neither has to come first. -/
def ties (le : α → α → Bool) (row other : α) : Bool :=
  le row other && le other row

section Stable

variable (trans : ∀ first second third, le first second → le second third → le first third)
  (total : ∀ first second, le first second || le second first)
include trans total

/-- Rows that tie with one are a sorted part of the list, so sorting leaves them as they are. -/
theorem filter_ties_mergeSort (row : α) :
    (rows.mergeSort le).filter (ties le row) = rows.filter (ties le row) := by
  have level : (rows.filter (ties le row)).Pairwise fun first second => le first second := by
    refine List.pairwise_of_forall_mem_list fun first mem second memSecond => ?_
    obtain ⟨-, back⟩ := Bool.and_eq_true_iff.mp (List.mem_filter.mp mem).2
    obtain ⟨forth, -⟩ := Bool.and_eq_true_iff.mp (List.mem_filter.mp memSecond).2
    exact trans first row second back forth
  have kept := (List.sublist_mergeSort trans total level List.filter_sublist).filter (ties le row)
  simp only [List.filter_filter, Bool.and_self] at kept
  exact (kept.eq_of_length ((List.mergeSort_perm rows le).filter _).length_eq.symm).symm

/-- Rows that are sorted stay in their order where they tie. -/
theorem pairwise_mergeSort_ties {before : α → α → Prop} (ordered : rows.Pairwise before) :
    (rows.mergeSort le).Pairwise fun first second =>
      le first second ∧ (le second first → before first second) := by
  refine List.pairwise_iff_forall_sublist.mpr fun {first second} pair => ?_
  have forth : le first second :=
    List.pairwise_iff_forall_sublist.mp (List.pairwise_mergeSort trans total rows) pair
  refine ⟨forth, fun back => ?_⟩
  have reflexive := total first first
  rw [Bool.or_self] at reflexive
  have both : [first, second].filter (ties le first) = [first, second] := by
    simp [ties, reflexive, forth, back]
  have among := pair.filter (ties le first)
  rw [both, filter_ties_mergeSort trans total] at among
  exact List.pairwise_iff_forall_sublist.mp ordered (among.trans List.filter_sublist)

end Stable

/-- Rows are sorted alike by orders that agree on them. -/
theorem mergeSort_congr {other : α → α → Bool}
    (same : ∀ first ∈ rows, ∀ second ∈ rows, le first second = other first second) :
    rows.mergeSort le = rows.mergeSort other := by
  have mapped := List.map_mergeSort (f := id) same
  rwa [List.map_id, List.map_id] at mapped

/-- Rows with keys of their own have one order. -/
theorem mergeSort_eq_of_perm {key : α → Int} {ascending : List α} (perm : rows.Perm ascending)
    (ordered : ascending.Pairwise fun first second => key first < key second) :
    rows.mergeSort (fun first second => key first ≤ key second) = ascending := by
  have sorted : (rows.mergeSort fun first second => key first ≤ key second).Pairwise
      fun first second => key first ≤ key second := by
    have result : (rows.mergeSort fun first second => key first ≤ key second).Pairwise
        fun first second => decide (key first ≤ key second) = true :=
      List.pairwise_mergeSort (by simpa using fun _ _ _ => Int.le_trans)
        (by simpa using fun _ _ => Int.le_total _ _) rows
    simpa using result
  have same := (List.mergeSort_perm rows fun first second => key first ≤ key second).trans perm
  refine same.eq_of_pairwise ?_ sorted (ordered.imp Int.le_of_lt)
  intro first second memFirst memSecond below above
  exact List.inj_on_of_nodup_map (f := key) (List.pairwise_map.mpr (ordered.imp Int.ne_of_lt))
    (same.subset memFirst) memSecond (Int.le_antisymm below above)

end Sorting

/-! ## Sums -/

theorem max_zero_sum_le (amounts : List Int) :
    max 0 amounts.sum ≤ (amounts.map (max 0 ·)).sum := by
  induction amounts with
  | nil => exact Int.le_refl 0
  | cons amount amounts ih =>
      rw [List.sum_cons, List.map_cons, List.sum_cons]
      omega

theorem max_zero_sum_eq {amounts : List Int} (least : ∀ amount ∈ amounts, 0 ≤ amount) :
    max 0 amounts.sum = (amounts.map (max 0 ·)).sum := by
  induction amounts with
  | nil => rfl
  | cons amount amounts ih =>
      obtain ⟨first, others⟩ := List.forall_mem_cons.mp least
      have rest := ih others
      have sum := List.sum_nonneg others
      rw [List.sum_cons, List.map_cons, List.sum_cons]
      omega

/-- A sum over the rows with one of two properties that exclude each other. -/
theorem sum_filter_or {α : Type} (value : α → Int) {one other : α → Bool} {rows : List α}
    (apart : ∀ row ∈ rows, one row = true → other row = false) :
    ((rows.filter fun row => one row || other row).map value).sum =
      ((rows.filter one).map value).sum + ((rows.filter other).map value).sum := by
  induction rows with
  | nil => rfl
  | cons row rows ih =>
      obtain ⟨first, others⟩ := List.forall_mem_cons.mp apart
      have rest := ih others
      cases isOne : one row with
      | true =>
          have isOther := first isOne
          simp only [List.filter_cons, isOne, isOther, Bool.or_false, if_true, Bool.false_eq_true,
            if_false, List.map_cons, List.sum_cons, rest]
          omega
      | false =>
          cases isOther : other row with
          | true =>
              simp only [List.filter_cons, isOne, isOther, Bool.or_true, if_true,
                Bool.false_eq_true, if_false, List.map_cons, List.sum_cons, rest]
              omega
          | false =>
              simp only [List.filter_cons, isOne, isOther, Bool.or_false, Bool.false_eq_true,
                if_false, rest]

end Tuition
