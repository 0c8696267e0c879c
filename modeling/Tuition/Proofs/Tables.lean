/-
# Tables under their keys

A table lists its rows in the order of their keys, so a key stands for at most one row, and a new
row gets a key that no row has. The store refuses whatever would break a rule of a table; a table
that breaks none is well kept, and writing, replacing and removing rows keep it so.
-/

import Tuition.Proofs.Basics
import Tuition.Store.Basic

namespace Tuition.Table

variable {α : Type} [Row α]

/-! ## Rows in the order of their keys -/

/-- The rows stand in the order of their keys, each key once. -/
def Ordered (rows : List α) : Prop :=
  rows.Pairwise fun first second => Row.key first < Row.key second

instance (rows : List α) : Decidable (Ordered rows) :=
  inferInstanceAs (Decidable (rows.Pairwise _))

/-- A key stands for one row. -/
theorem Ordered.eq_of_key_eq {rows : List α} (ordered : Ordered rows) {first second : α}
    (memFirst : first ∈ rows) (memSecond : second ∈ rows)
    (same : Row.key first = Row.key second) : first = second := by
  induction rows with
  | nil => cases memFirst
  | cons row rows ih =>
      obtain ⟨below, rest⟩ := List.pairwise_cons.mp ordered
      rcases List.mem_cons.mp memFirst with rfl | inFirst
      · rcases List.mem_cons.mp memSecond with rfl | inSecond
        · rfl
        · have := below second inSecond
          omega
      · rcases List.mem_cons.mp memSecond with rfl | inSecond
        · have := below first inFirst
          omega
        · exact ih rest inFirst inSecond

/-- Rows of a table are the same where their keys are. -/
theorem Ordered.eq_of_map_key_eq {rows first second : List α} (ordered : Ordered rows)
    (memFirst : ∀ row ∈ first, row ∈ rows) (memSecond : ∀ row ∈ second, row ∈ rows)
    (same : first.map Row.key = second.map Row.key) : first = second := by
  induction first generalizing second with
  | nil => exact (List.map_eq_nil_iff.mp same.symm).symm
  | cons row first ih =>
      cases second with
      | nil => cases same
      | cons other second =>
          obtain ⟨key, rest⟩ := List.cons.inj same
          congr 1
          · exact ordered.eq_of_key_eq (memFirst row List.mem_cons_self)
              (memSecond other List.mem_cons_self) key
          · exact ih (fun row mem => memFirst row (List.mem_cons_of_mem _ mem))
              (fun row mem => memSecond row (List.mem_cons_of_mem _ mem)) rest

theorem mem_of_find? {rows : List α} {key : Int} {row : α} (found : find? rows key = some row) :
    row ∈ rows :=
  List.mem_of_find?_eq_some found

theorem key_of_find? {rows : List α} {key : Int} {row : α} (found : find? rows key = some row) :
    Row.key row = key := by
  simpa using List.find?_some found

/-- Looking a key up finds exactly the row that has it. -/
theorem Ordered.find?_eq_some_iff {rows : List α} (ordered : Ordered rows) {key : Int} {row : α} :
    find? rows key = some row ↔ row ∈ rows ∧ Row.key row = key := by
  constructor
  · intro found
    exact ⟨mem_of_find? found, key_of_find? found⟩
  · rintro ⟨mem, rfl⟩
    cases found : find? rows (Row.key row) with
    | none =>
        have absent := List.find?_eq_none.mp found row mem
        simp at absent
    | some other =>
        rw [ordered.eq_of_key_eq (mem_of_find? found) mem (key_of_find? found)]

theorem find?_eq_none_iff {rows : List α} {key : Int} :
    find? rows key = none ↔ ∀ row ∈ rows, Row.key row ≠ key := by
  simp [find?, List.find?_eq_none]

/-- The next key is above every key of the table. -/
theorem key_lt_nextKey {rows : List α} {row : α} (mem : row ∈ rows) :
    Row.key row < nextKey rows := by
  have listed : Row.key row ∈ rows.map Row.key := List.mem_map_of_mem mem
  unfold nextKey
  cases found : (rows.map Row.key).max? with
  | none =>
      rw [List.max?_eq_none_iff.mp found] at listed
      cases listed
  | some greatest =>
      have bound := (List.max?_eq_some_iff.mp found).2 _ listed
      simp only
      omega

theorem Ordered.append_single {rows : List α} (ordered : Ordered rows) {row : α}
    (above : ∀ other ∈ rows, Row.key other < Row.key row) : Ordered (rows ++ [row]) := by
  refine List.pairwise_append.mpr ⟨ordered, List.pairwise_singleton _ _, ?_⟩
  intro other mem last memLast
  rw [List.mem_singleton.mp memLast]
  exact above other mem

theorem Ordered.erase {rows : List α} (ordered : Ordered rows) (key : Int) :
    Ordered (erase rows key) :=
  ordered.filter _

theorem mem_erase_iff {rows : List α} {key : Int} {row : α} :
    row ∈ erase rows key ↔ row ∈ rows ∧ Row.key row ≠ key := by
  simp [erase, List.mem_filter]

/-! ## Rows that are written -/

/-- What the rows of a table do under the rules of the store: a row keeps its key when its amounts
are brought into the form that is kept, and repeating a combination of columns is mutual. -/
class LawfulRow (α : Type) [Row α] : Prop where
  key_withKey (row : α) (key : Int) : Row.key (Row.withKey row key) = key
  key_keep {row kept : α} (keeps : Row.keep row = .ok kept) : Row.key kept = Row.key row
  distinct_comm (combination : List String × (α → α → Bool)) (mem : combination ∈ Row.distinct)
    (first second : α) : combination.2 first second = combination.2 second first

/-- A row obeys the rules of its table beside other rows. -/
structure Fits (others : List α) (row : α) : Prop where
  words : ∀ number ∈ Row.key row :: Row.words row, Word.fits number
  conditions : ∀ condition ∈ Row.conditions (α := α), condition.2 row
  key : ∀ other ∈ others, Row.key other ≠ Row.key row
  distinct : ∀ other ∈ others, ∀ combination ∈ Row.distinct, combination.2 row other = false

theorem violation?_eq_none_iff {others : List α} {row : α} :
    violation? others row = none ↔
      (∀ condition ∈ Row.conditions (α := α), condition.2 row) ∧
        (∀ other ∈ others, Row.key other ≠ Row.key row) ∧
        ∀ other ∈ others, ∀ combination ∈ Row.distinct, combination.2 row other = false := by
  unfold violation?
  cases broken : (Row.conditions (α := α)).find? fun condition => !condition.2 row with
  | some condition =>
      have mem := List.mem_of_find?_eq_some broken
      have fails := List.find?_some broken
      simp only [reduceCtorEq, false_iff]
      intro holds
      simp [holds.1 condition mem] at fails
  | none =>
      have holds := List.find?_eq_none.mp broken
      have conditions : ∀ condition ∈ Row.conditions (α := α), condition.2 row := by
        intro condition mem
        simpa using holds condition mem
      by_cases taken : others.any (Row.key · == Row.key row)
      · simp only [taken, if_true, reduceCtorEq, false_iff]
        intro free
        obtain ⟨other, mem, same⟩ := List.any_eq_true.mp taken
        exact free.2.1 other mem (by simpa using same)
      · have free : ∀ other ∈ others, Row.key other ≠ Row.key row := by
          intro other mem same
          exact taken (List.any_eq_true.mpr ⟨other, mem, by simpa using same⟩)
        simp only [taken, Bool.false_eq_true, if_false, Option.map_eq_none_iff,
          List.find?_eq_none, List.any_eq_true, not_exists, not_and, Bool.not_eq_true]
        exact ⟨fun distinct => ⟨conditions, free, fun other memOther combination mem =>
            distinct combination mem other memOther⟩,
          fun rules combination mem other memOther => rules.2.2 other memOther combination mem⟩

/-- Whole numbers pass that fit into words. -/
theorem requireWords_eq_ok_iff {numbers : List Int} :
    requireWords numbers = .ok () ↔ ∀ number ∈ numbers, Word.fits number := by
  simp [requireWords]

/-- A check passes exactly the rows that obey the rules, and leaves them as they are. -/
theorem check_eq_ok_iff {others : List α} {row kept : α} :
    check others row = .ok kept ↔ kept = row ∧ Fits others row := by
  have rules : violation? others row = none ↔ _ := violation?_eq_none_iff
  unfold check
  constructor
  · intro passed
    obtain ⟨_, fits, passed⟩ := bind_eq_ok_iff.mp passed
    cases broken : violation? others row with
    | some violation =>
        rw [broken] at passed
        cases passed
    | none =>
        rw [broken] at passed
        obtain ⟨conditions, key, distinct⟩ := rules.mp broken
        exact ⟨(Except.ok.inj passed).symm, requireWords_eq_ok_iff.mp fits, conditions, key,
          distinct⟩
  · rintro ⟨rfl, fits⟩
    rw [requireWords_eq_ok_iff.mpr fits.words,
      rules.mpr ⟨fits.conditions, fits.key, fits.distinct⟩]
    rfl

/-- What writing a new row does: it is kept under the next key, behind all others. -/
theorem insert_eq_ok [LawfulRow α] {rows written : List α} {row kept : α}
    (inserted : insert rows row = .ok (kept, written)) :
    written = rows ++ [kept] ∧ Row.keep (Row.withKey row (nextKey rows)) = .ok kept ∧
      Row.key kept = nextKey rows ∧ Fits rows kept := by
  obtain ⟨checked, admitted, placed⟩ := bind_eq_ok_iff.mp inserted
  obtain ⟨amounts, keeps, passed⟩ := bind_eq_ok_iff.mp admitted
  obtain ⟨rfl, fits⟩ := check_eq_ok_iff.mp passed
  obtain ⟨rfl, rfl⟩ := Prod.mk.inj (Except.ok.inj placed)
  exact ⟨rfl, keeps, (LawfulRow.key_keep keeps).trans (LawfulRow.key_withKey _ _), fits⟩

theorem Ordered.insert [LawfulRow α] {rows written : List α} {row kept : α}
    (ordered : Ordered rows) (inserted : insert rows row = .ok (kept, written)) :
    Ordered written := by
  obtain ⟨rfl, -, key, -⟩ := insert_eq_ok inserted
  refine ordered.append_single fun other mem => ?_
  rw [key]
  exact key_lt_nextKey mem

/-- New rows are written behind those that are there, each as it was given but for its key and the
form of its amounts. -/
theorem insertAll_eq_ok [LawfulRow α] {rows written new : List α}
    (inserted : insertAll rows new = .ok written) :
    ∃ added, written = rows ++ added ∧
      List.Forall₂ (fun row kept => ∃ key, Row.keep (Row.withKey row key) = .ok kept) new
        added := by
  induction new generalizing rows with
  | nil =>
      simp only [insertAll, Except.ok.injEq] at inserted
      exact ⟨[], by simp [inserted], .nil⟩
  | cons row new ih =>
      obtain ⟨⟨kept, between⟩, first, rest⟩ := bind_eq_ok_iff.mp inserted
      obtain ⟨added, rfl, all⟩ := ih rest
      obtain ⟨rfl, keeps, -, -⟩ := insert_eq_ok first
      exact ⟨kept :: added, by simp, .cons ⟨_, keeps⟩ all⟩

/-- What writing over a row does: the row with the key gives way, and all others stay. -/
theorem replace_eq_ok_iff {rows written : List α} {row : α} :
    replace rows row = .ok written ↔
      written = rows.map (fun other => if Row.key other = Row.key row then row else other) ∧
        Fits (erase rows (Row.key row)) row := by
  constructor
  · intro replaced
    obtain ⟨checked, passed, written⟩ := bind_eq_ok_iff.mp replaced
    obtain ⟨rfl, fits⟩ := check_eq_ok_iff.mp passed
    exact ⟨by simpa using (Except.ok.inj written).symm, fits⟩
  · rintro ⟨rfl, fits⟩
    refine bind_eq_ok_iff.mpr ⟨row, check_eq_ok_iff.mpr ⟨rfl, fits⟩, ?_⟩
    simp [pure, Except.pure]

theorem map_key_of_replace {rows written : List α} {row : α}
    (replaced : replace rows row = .ok written) : written.map Row.key = rows.map Row.key := by
  obtain ⟨rfl, -⟩ := replace_eq_ok_iff.mp replaced
  rw [List.map_map]
  refine List.map_congr_left fun other _ => ?_
  by_cases same : Row.key other = Row.key row
  · simp [same]
  · simp [same]

/-- Writing over a row makes no new key. -/
theorem exists_key_of_mem_replace {rows written : List α} {row other : α}
    (replaced : replace rows row = .ok written) (mem : other ∈ written) :
    ∃ old ∈ rows, Row.key old = Row.key other := by
  have listed : Row.key other ∈ written.map Row.key := List.mem_map_of_mem mem
  rw [map_key_of_replace replaced] at listed
  exact List.mem_map.mp listed

/-- Looking a key up after a row was written over. -/
theorem find?_of_replace {rows written : List α} {row : α}
    (replaced : replace rows row = .ok written) (key : Int) :
    find? written key =
      (find? rows key).map fun other => if Row.key other = Row.key row then row else other := by
  obtain ⟨rfl, -⟩ := replace_eq_ok_iff.mp replaced
  have keys :
      (Row.key · == key) ∘ (fun other => if Row.key other = Row.key row then row else other) =
        (Row.key · == key) := by
    funext other
    by_cases same : Row.key other = Row.key row
    · simp [same]
    · simp [same]
  rw [find?, find?, List.find?_map, keys]

theorem Ordered.replace {rows written : List α} {row : α} (ordered : Ordered rows)
    (replaced : replace rows row = .ok written) : Ordered written := by
  have keys := List.pairwise_map.mpr ordered
  rw [← map_key_of_replace replaced] at keys
  exact List.pairwise_map.mp keys

/-- The rows after a row was written over: the row itself, and those with another key. -/
theorem mem_replace_iff {rows written : List α} {row old : α}
    (found : find? rows (Row.key row) = some old) (replaced : replace rows row = .ok written)
    {other : α} :
    other ∈ written ↔ other = row ∨ (other ∈ rows ∧ Row.key other ≠ Row.key row) := by
  obtain ⟨rfl, -⟩ := replace_eq_ok_iff.mp replaced
  rw [List.mem_map]
  constructor
  · rintro ⟨before, mem, rfl⟩
    by_cases same : Row.key before = Row.key row
    · exact .inl (by simp [same])
    · exact .inr (by simp [same, mem])
  · rintro (rfl | ⟨mem, different⟩)
    · exact ⟨old, mem_of_find? found, by simp [key_of_find? found]⟩
    · exact ⟨other, mem, by simp [different]⟩

/-! ## Tables that break no rule -/

/-- The store guarantees this of every table that is written row by row: keys are in order, whole
numbers fit into words, conditions hold, and no combination of columns repeats. -/
structure WellKept (rows : List α) : Prop where
  ordered : Ordered rows
  words : ∀ row ∈ rows, ∀ number ∈ Row.key row :: Row.words row, Word.fits number
  conditions : ∀ row ∈ rows, ∀ condition ∈ Row.conditions (α := α), condition.2 row
  distinct : ∀ first ∈ rows, ∀ second ∈ rows, Row.key first ≠ Row.key second →
    ∀ combination ∈ Row.distinct, combination.2 first second = false

instance (rows : List α) : Decidable (WellKept rows) :=
  decidable_of_iff (Ordered rows ∧
      (∀ row ∈ rows, ∀ number ∈ Row.key row :: Row.words row, Word.fits number) ∧
      (∀ row ∈ rows, ∀ condition ∈ Row.conditions (α := α), condition.2 row) ∧
      ∀ first ∈ rows, ∀ second ∈ rows, Row.key first ≠ Row.key second →
        ∀ combination ∈ Row.distinct, combination.2 first second = false)
    ⟨fun ⟨ordered, words, conditions, distinct⟩ => ⟨ordered, words, conditions, distinct⟩,
      fun kept => ⟨kept.ordered, kept.words, kept.conditions, kept.distinct⟩⟩

/-- A table without rows breaks no rule. -/
theorem WellKept.nil : WellKept ([] : List α) :=
  ⟨.nil, List.forall_mem_nil _, List.forall_mem_nil _, List.forall_mem_nil _⟩

theorem WellKept.erase {rows : List α} (kept : WellKept rows) (key : Int) :
    WellKept (erase rows key) where
  ordered := kept.ordered.erase key
  words row mem := kept.words row (mem_erase_iff.mp mem).1
  conditions row mem := kept.conditions row (mem_erase_iff.mp mem).1
  distinct first memFirst second memSecond :=
    kept.distinct first (mem_erase_iff.mp memFirst).1 second (mem_erase_iff.mp memSecond).1

/-- A table stays well kept when its rows come to be those of a well-kept one and one that fits
beside them. -/
theorem WellKept.of_fits [LawfulRow α] {rows written : List α} {row : α} (kept : WellKept rows)
    (ordered : Ordered written) (fits : Fits rows row)
    (mem : ∀ other ∈ written, other = row ∨ other ∈ rows) : WellKept written where
  ordered := ordered
  words other memOther := by
    rcases mem other memOther with rfl | old
    · exact fits.words
    · exact kept.words other old
  conditions other memOther := by
    rcases mem other memOther with rfl | old
    · exact fits.conditions
    · exact kept.conditions other old
  distinct first memFirst second memSecond different combination memCombination := by
    rcases mem first memFirst with rfl | oldFirst
    · rcases mem second memSecond with rfl | oldSecond
      · exact absurd rfl different
      · exact fits.distinct second oldSecond combination memCombination
    · rcases mem second memSecond with rfl | oldSecond
      · rw [LawfulRow.distinct_comm combination memCombination]
        exact fits.distinct first oldFirst combination memCombination
      · exact kept.distinct first oldFirst second oldSecond different combination memCombination

theorem WellKept.insert [LawfulRow α] {rows written : List α} {row added : α}
    (kept : WellKept rows) (inserted : insert rows row = .ok (added, written)) :
    WellKept written := by
  obtain ⟨rfl, -, -, fits⟩ := insert_eq_ok inserted
  refine kept.of_fits (kept.ordered.insert inserted) fits fun other mem => ?_
  rcases List.mem_append.mp mem with old | new
  · exact .inr old
  · exact .inl (List.mem_singleton.mp new)

theorem WellKept.replace [LawfulRow α] {rows written : List α} {row : α}
    (kept : WellKept rows) (replaced : replace rows row = .ok written) : WellKept written := by
  have fits := (replace_eq_ok_iff.mp replaced).2
  refine (kept.erase (Row.key row)).of_fits (kept.ordered.replace replaced) fits ?_
  intro other mem
  rw [(replace_eq_ok_iff.mp replaced).1, List.mem_map] at mem
  obtain ⟨before, memBefore, rfl⟩ := mem
  by_cases same : Row.key before = Row.key row
  · exact .inl (by simp [same])
  · exact .inr (by simp [same, mem_erase_iff, memBefore])

/-- A row of a well-kept table can be written over itself, which changes nothing. -/
theorem WellKept.replace_self {rows : List α} {row : α} (kept : WellKept rows)
    (mem : row ∈ rows) : Table.replace rows row = .ok rows := by
  refine replace_eq_ok_iff.mpr ⟨?_, kept.words row mem, kept.conditions row mem, ?_, ?_⟩
  · have unchanged : ∀ other ∈ rows,
        (if Row.key other = Row.key row then row else other) = other := by
      intro other memOther
      split
      · next same => exact kept.ordered.eq_of_key_eq mem memOther same.symm
      · rfl
    rw [List.map_congr_left unchanged, List.map_id']
  · intro other memOther
    exact (mem_erase_iff.mp memOther).2
  · intro other memOther
    obtain ⟨memRows, different⟩ := mem_erase_iff.mp memOther
    exact kept.distinct row mem other memRows different.symm

/-- A table stays well kept when its rows are changed in nothing that the rules are about. -/
theorem WellKept.map {rows : List α} (kept : WellKept rows) {edit : α → α}
    (key : ∀ row, Row.key (edit row) = Row.key row)
    (words : ∀ row, Row.words (edit row) = Row.words row)
    (conditions : ∀ condition ∈ Row.conditions (α := α), ∀ row,
      condition.2 (edit row) = condition.2 row)
    (distinct : ∀ combination ∈ Row.distinct, ∀ first second,
      combination.2 (edit first) (edit second) = combination.2 first second) :
    WellKept (rows.map edit) where
  ordered := by
    refine List.pairwise_map.mpr (kept.ordered.imp fun {first second} below => ?_)
    rwa [key, key]
  words := by
    intro row mem
    obtain ⟨old, memOld, rfl⟩ := List.mem_map.mp mem
    rw [key, words]
    exact kept.words old memOld
  conditions := by
    intro row mem condition memCondition
    obtain ⟨old, memOld, rfl⟩ := List.mem_map.mp mem
    rw [conditions condition memCondition]
    exact kept.conditions old memOld condition memCondition
  distinct := by
    intro first memFirst second memSecond different combination memCombination
    obtain ⟨oldFirst, memOldFirst, rfl⟩ := List.mem_map.mp memFirst
    obtain ⟨oldSecond, memOldSecond, rfl⟩ := List.mem_map.mp memSecond
    rw [distinct combination memCombination]
    rw [key, key] at different
    exact kept.distinct oldFirst memOldFirst oldSecond memOldSecond different combination
      memCombination

end Tuition.Table

namespace Tuition.Store

/-! ## The tables of the store -/

/-- The form in which an invoice is kept differs in its total alone. -/
theorem keep_invoice_eq_ok {invoice kept : Invoice} (keeps : Row.keep invoice = .ok kept) :
    ∃ total, keepTotal invoice.total = .ok total ∧ kept = { invoice with total } := by
  obtain ⟨total, found, same⟩ := bind_eq_ok_iff.mp keeps
  exact ⟨total, found, (Except.ok.inj same).symm⟩

theorem keep_payment_eq_ok {payment kept : Payment} (keeps : Row.keep payment = .ok kept) :
    ∃ amount, kept = { payment with amount } := by
  obtain ⟨amount, -, same⟩ := bind_eq_ok_iff.mp keeps
  exact ⟨amount, (Except.ok.inj same).symm⟩

theorem keep_override_eq_ok {override kept : PriceOverride}
    (keeps : Row.keep override = .ok kept) :
    ∃ lessonPrice subscriptionPrice, kept = { override with lessonPrice, subscriptionPrice } := by
  obtain ⟨lessonPrice, -, rest⟩ := bind_eq_ok_iff.mp keeps
  obtain ⟨subscriptionPrice, -, same⟩ := bind_eq_ok_iff.mp rest
  exact ⟨lessonPrice, subscriptionPrice, (Except.ok.inj same).symm⟩

theorem keep_line_eq_ok {line kept : InvoiceLine} (keeps : Row.keep line = .ok kept) :
    ∃ unitPrice amount, kept = { line with unitPrice, amount } := by
  obtain ⟨unitPrice, -, rest⟩ := bind_eq_ok_iff.mp keeps
  obtain ⟨amount, -, same⟩ := bind_eq_ok_iff.mp rest
  exact ⟨unitPrice, amount, (Except.ok.inj same).symm⟩

/-- Settings that are admitted are kept as they are, and they count from one on, within words. -/
theorem admitSettings_eq_ok_iff {settings kept : Settings} :
    admitSettings settings = .ok kept ↔
      kept = settings ∧ 1 ≤ settings.nextSequence ∧
        Word.fits settings.nextSequence ∧ Word.fits settings.billingDay := by
  constructor
  · intro admitted
    obtain ⟨_, words, checked⟩ := bind_eq_ok_iff.mp admitted
    have fits := Table.requireWords_eq_ok_iff.mp words
    dsimp only at checked
    by_cases low : settings.nextSequence < 1
    · rw [if_pos low] at checked
      cases checked
    · rw [if_neg low] at checked
      have positive : 1 ≤ settings.nextSequence := by omega
      exact ⟨(Except.ok.inj checked).symm, positive, fits _ List.mem_cons_self,
        fits _ (List.mem_cons_of_mem _ List.mem_cons_self)⟩
  · rintro ⟨rfl, positive, next, day⟩
    have notLow : ¬kept.nextSequence < 1 := by omega
    refine bind_eq_ok_iff.mpr ⟨(), Table.requireWords_eq_ok_iff.mpr ?_, ?_⟩
    · simp [next, day]
    · exact if_neg notLow

instance : Table.LawfulRow Invoice where
  key_withKey _ _ := rfl
  key_keep keeps := by
    obtain ⟨total, -, rfl⟩ := keep_invoice_eq_ok keeps
    rfl
  distinct_comm combination mem first second := by
    rw [Bool.eq_iff_iff]
    rcases List.mem_cons.mp mem with rfl | rest
    · simp only [Bool.and_eq_true, beq_iff_eq]
      exact and_congr eq_comm eq_comm
    · rw [List.mem_singleton.mp rest]
      simp only [Bool.and_eq_true, beq_iff_eq]
      constructor
      · rintro ⟨numbered, same⟩
        exact ⟨same ▸ numbered, same.symm⟩
      · rintro ⟨numbered, same⟩
        exact ⟨same ▸ numbered, same.symm⟩

instance : Table.LawfulRow Payment where
  key_withKey _ _ := rfl
  key_keep keeps := by
    obtain ⟨amount, rfl⟩ := keep_payment_eq_ok keeps
    rfl
  distinct_comm _ mem := by cases mem

instance : Table.LawfulRow PriceOverride where
  key_withKey _ _ := rfl
  key_keep keeps := by
    obtain ⟨lessonPrice, subscriptionPrice, rfl⟩ := keep_override_eq_ok keeps
    rfl
  distinct_comm _ mem := by cases mem

instance : Table.LawfulRow InvoiceLine where
  key_withKey _ _ := rfl
  key_keep keeps := by
    obtain ⟨unitPrice, amount, rfl⟩ := keep_line_eq_ok keeps
    rfl
  distinct_comm _ mem := by cases mem

end Tuition.Store
