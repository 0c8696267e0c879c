/-
# Books that say the same

Two stores keep the same books if they differ at most in the moments at which invoices were issued
and in the keys of lines. Issuing cannot tell such stores apart: the same invoices get the same
numbers, whenever that is. So a month that was issued with interruptions can be compared with one
that was issued at once.
-/

import Tuition.Proofs.AttachedLines
import Tuition.Proofs.Issuing

namespace Tuition

/-- An invoice without the moment at which it was issued. -/
def Invoice.undated (invoice : Invoice) : Invoice :=
  { invoice with issuedAt := none }

namespace Store

/-- Two stores differ at most in the moments at which invoices were issued and
in the keys of lines. -/
structure SameBooks (first second : Store) : Prop where
  invoices : first.invoices.map Invoice.undated = second.invoices.map Invoice.undated
  lines : InvoiceLine.Same first.lines second.lines
  only : second = { first with invoices := second.invoices, lines := second.lines }

namespace SameBooks

variable {first second third : Store}

theorem refl (store : Store) : SameBooks store store :=
  ⟨rfl, fun _ => rfl, rfl⟩

theorem trans (same : first.SameBooks second) (other : second.SameBooks third) :
    first.SameBooks third where
  invoices := same.invoices.trans other.invoices
  lines id := (same.lines id).trans (other.lines id)
  only := by rw [other.only, same.only]

theorem settings (same : first.SameBooks second) : second.settings = first.settings := by
  rw [same.only]

end SameBooks
end Store

/-! ## Rules do not see the moment of issue -/

namespace Table

variable {first second others : List Invoice} {invoice twin : Invoice}

theorem find?_undated (invoices : List Invoice) (id : Int) :
    find? (invoices.map Invoice.undated) id = (find? invoices id).map Invoice.undated := by
  rw [find?, List.find?_map]
  rfl

theorem erase_undated (invoices : List Invoice) (id : Int) :
    erase (invoices.map Invoice.undated) id = (erase invoices id).map Invoice.undated := by
  rw [erase, List.filter_map]
  rfl

theorem distinct_undated {combination : List String × (Invoice → Invoice → Bool)}
    (mem : combination ∈ Row.distinct) (invoice other : Invoice) :
    combination.2 invoice.undated other.undated = combination.2 invoice other := by
  rcases List.mem_cons.mp mem with rfl | rest
  · rfl
  · rw [List.mem_singleton.mp rest]
    rfl

/-- An invoice fits beside others whenever they were issued. -/
theorem fits_undated_iff : Fits (others.map Invoice.undated) invoice.undated ↔
    Fits others invoice := by
  have unconditional : Row.conditions (α := Invoice) = [] := rfl
  constructor
  · intro fits
    refine ⟨fits.words, by simp [unconditional], ?_, ?_⟩
    · intro other mem
      have listed : other.undated ∈ others.map Invoice.undated := List.mem_map_of_mem mem
      have apart := fits.key _ listed
      exact apart
    · intro other mem combination memCombination
      rw [← distinct_undated memCombination]
      exact fits.distinct _ (List.mem_map_of_mem mem) combination memCombination
  · intro fits
    refine ⟨fits.words, by simp [unconditional], ?_, ?_⟩
    · intro other mem
      obtain ⟨old, memOld, rfl⟩ := List.mem_map.mp mem
      exact fits.key old memOld
    · intro other mem combination memCombination
      obtain ⟨old, memOld, rfl⟩ := List.mem_map.mp mem
      rw [distinct_undated memCombination]
      exact fits.distinct old memOld combination memCombination

/-- Writing over an invoice writes over it whenever it was issued. -/
theorem undated_of_replace {written : List Invoice}
    (replaced : replace others invoice = .ok written) :
    written.map Invoice.undated = (others.map Invoice.undated).map fun other =>
      if other.id = invoice.id then invoice.undated else other := by
  obtain ⟨rfl, -⟩ := replace_eq_ok_iff.mp replaced
  rw [List.map_map, List.map_map]
  refine List.map_congr_left fun other _ => ?_
  have key (row : Invoice) : Row.key row = row.id := rfl
  have sameKey : other.undated.id = other.id := rfl
  by_cases own : other.id = invoice.id
  · simp [key, sameKey, own]
  · simp [key, sameKey, own]

/-- What can be written over an invoice can be written over its twin, and comes to the same. -/
theorem exists_replace_of_undated {written : List Invoice}
    (same : first.map Invoice.undated = second.map Invoice.undated)
    (twins : twin.undated = invoice.undated) (replaced : replace first invoice = .ok written) :
    ∃ other, replace second twin = .ok other ∧
      written.map Invoice.undated = other.map Invoice.undated := by
  have undatedKeys : twin.undated.id = invoice.undated.id := congrArg Invoice.id twins
  have sameKey : twin.id = invoice.id := undatedKeys
  have fits : Fits (erase second (Row.key twin)) twin := by
    rw [← fits_undated_iff, ← erase_undated, ← same, erase_undated, twins, fits_undated_iff]
    have fits := (replace_eq_ok_iff.mp replaced).2
    exact (show Row.key twin = Row.key invoice from sameKey) ▸ fits
  refine ⟨_, replace_eq_ok_iff.mpr ⟨rfl, fits⟩, ?_⟩
  rw [undated_of_replace replaced, undated_of_replace (replace_eq_ok_iff.mpr ⟨rfl, fits⟩), same,
    twins, sameKey]

end Table

/-! ## Issuing -/

namespace Transaction

variable {now later : Moment} {first second after other : Store} {id : Int}

/-- Issuing does the same in stores with the same books, at any moment. -/
theorem exists_issued (same : first.SameBooks second)
    (step : Transaction now first (.issued id) after) (later : Moment) :
    ∃ other, Transaction later second (.issued id) other ∧ after.SameBooks other := by
  cases step with
  | @issued _ invoice settings invoices found draft counter admitted written =>
      obtain ⟨twin, foundTwin, twins⟩ : ∃ twin,
          Table.find? second.invoices id = some twin ∧ twin.undated = invoice.undated := by
        rw [← Option.map_eq_some_iff, ← Table.find?_undated, ← same.invoices, Table.find?_undated,
          found]
        rfl
      have numbered : (twin.numberedBy settings later).undated =
          (invoice.numberedBy settings now).undated := by
        have undated (row : Invoice) (moment : Moment) :
            (row.numberedBy settings moment).undated =
              (row.undated.numberedBy settings now).undated := rfl
        rw [undated twin, twins, ← undated invoice]
      obtain ⟨others, writtenTwin, sameInvoices⟩ :=
        Table.exists_replace_of_undated same.invoices numbered written
      have sameStatus : twin.undated.status = invoice.undated.status :=
        congrArg Invoice.status twins
      have draftTwin : twin.status = .draft := sameStatus.trans draft
      refine ⟨_, .issued foundTwin draftTwin (same.settings.trans counter) admitted writtenTwin,
        sameInvoices, same.lines, ?_⟩
      rw [same.only]

/-- Issuing an invoice leaves one result at each moment. -/
theorem issued_unique (step : Transaction now first (.issued id) after)
    (again : Transaction now first (.issued id) other) : other = after := by
  cases step with
  | issued found draft counter admitted written =>
      cases again with
      | issued foundAgain _ counterAgain _ writtenAgain =>
          cases found.symm.trans foundAgain
          cases counter.symm.trans counterAgain
          cases written.symm.trans writtenAgain
          rfl

/-- Issuing writes invoices and settings. -/
theorem only_of_issued (step : Transaction now first (.issued id) after) :
    after = { first with invoices := after.invoices, settings := after.settings } := by
  cases step
  rfl

/-- An invoice is the same with its lines after one was issued, or has been issued. -/
theorem same_or_numbered {invoice : Invoice} (step : Transaction now first (.issued id) after)
    (ordered : Table.Ordered first.invoices) (mem : invoice ∈ first.invoices) :
    (invoice ∈ after.invoices ∧ after.linesOf invoice.id = first.linesOf invoice.id) ∨
      ∃ settings, invoice.numberedBy settings now ∈ after.invoices := by
  cases step.fate ordered mem with
  | same mem lines => exact .inl ⟨mem, lines⟩
  | rebuilt draft own => cases own
  | issued draft own counter mem => exact .inr ⟨_, mem⟩
  | deleted draft own => cases own
  | switched switches own => cases own

/-- Issuing an invoice takes it from the drafts. -/
theorem draftIds_of_issued (step : Transaction now first (.issued id) after) (period : Period) :
    Billing.draftIds after period = (Billing.draftIds first period).filter (· ≠ id) := by
  cases step with
  | @issued _ invoice settings invoices found draft counter admitted written =>
      have own : invoice.id = id := Table.key_of_find? found
      obtain ⟨rfl, -⟩ := Table.replace_eq_ok_iff.mp written
      have key (row : Invoice) : Row.key row = row.id := rfl
      have sameKey : (invoice.numberedBy settings now).id = id := own
      have status : (invoice.numberedBy settings now).status = .issued := rfl
      simp only [Billing.draftIds, List.filter_map, List.map_map, List.filter_filter,
        key, sameKey]
      rw [List.filter_congr (q := fun other => decide (other.id ≠ id) &&
        (other.period == period && .draft == other.status))]
      · refine List.map_congr_left fun other _ => ?_
        by_cases same : other.id = id
        · simp [same, sameKey]
        · simp [same]
      · intro other _
        by_cases same : other.id = id
        · simp [same, status]
        · simp [same]

end Transaction

namespace Store

/-- Drafts that were issued one after another, whenever that was. -/
inductive Numbers : Store → List Int → Store → Prop
  | nil {store : Store} : Numbers store [] store
  | cons {first second third : Store} {now : Moment} {id : Int} {ids : List Int}
      (step : Transaction now first (.issued id) second) (rest : Numbers second ids third) :
      Numbers first (id :: ids) third

namespace Numbers

variable {first second after other : Store} {ids more : List Int}

theorem only (numbers : first.Numbers ids after) :
    after = { first with invoices := after.invoices, settings := after.settings } := by
  induction numbers with
  | nil => rfl
  | cons step _ ih => rw [ih, step.only_of_issued]

theorem wellKept (numbers : first.Numbers ids after) (kept : Table.WellKept first.invoices) :
    Table.WellKept after.invoices := by
  induction numbers with
  | nil => exact kept
  | cons step _ ih => exact ih (step.wellKept kept)

theorem linesOwned (numbers : first.Numbers ids after) (ordered : Table.Ordered first.invoices)
    (owned : first.LinesOwned) : after.LinesOwned := by
  induction numbers with
  | nil => exact owned
  | cons step _ ih => exact ih (step.ordered ordered) (step.linesOwned ordered owned)

/-- Drafts that were issued one after another may be looked at in two parts. -/
theorem exists_between (numbers : first.Numbers (ids ++ more) after) :
    ∃ between, first.Numbers ids between ∧ between.Numbers more after := by
  induction ids generalizing first with
  | nil => exact ⟨first, .nil, numbers⟩
  | cons id ids ih =>
      cases numbers with
      | cons step rest =>
          obtain ⟨between, begun, ended⟩ := ih rest
          exact ⟨between, .cons step begun, ended⟩

theorem append (numbers : first.Numbers ids second) (rest : second.Numbers more after) :
    first.Numbers (ids ++ more) after := by
  induction numbers with
  | nil => exact rest
  | cons step _ ih => exact .cons step (ih rest)

/-- A draft that was issued first can be issued first at any moment. -/
theorem exists_issued {id : Int} (numbers : first.Numbers (id :: ids) after) (now : Moment) :
    ∃ store, Transaction now first (.issued id) store := by
  cases numbers with
  | cons step _ =>
      obtain ⟨store, again, -⟩ := step.exists_issued (.refl first) now
      exact ⟨store, again⟩

/-- Drafts are issued in the same way in stores with the same books. -/
theorem exists_same (numbers : first.Numbers ids after) (same : first.SameBooks second) :
    ∃ other, second.Numbers ids other ∧ after.SameBooks other := by
  induction numbers generalizing second with
  | nil => exact ⟨second, .nil, same⟩
  | cons step rest ih =>
      obtain ⟨next, stepped, sameNext⟩ := step.exists_issued same default
      obtain ⟨other, others, sameAfter⟩ := ih sameNext
      exact ⟨other, .cons stepped others, sameAfter⟩

/-- Issuing the same drafts leads from the same books to the same books. -/
theorem sameBooks (numbers : first.Numbers ids after) (same : first.SameBooks second)
    (others : second.Numbers ids other) : after.SameBooks other := by
  induction numbers generalizing second with
  | nil =>
      cases others
      exact same
  | cons step rest ih =>
      cases others with
      | cons stepOther restOther =>
          obtain ⟨next, stepped, sameNext⟩ := step.exists_issued same _
          obtain rfl := stepOther.issued_unique stepped
          exact ih sameNext restOther

/-- When the first of the drafts of a period were issued, the others are left. -/
theorem draftIds_eq {period : Period} (numbers : first.Numbers ids after)
    (ordered : Table.Ordered first.invoices)
    (listed : Billing.draftIds first period = ids ++ more) :
    Billing.draftIds after period = more := by
  induction numbers with
  | nil => exact listed
  | @cons first second third now id ids step rest ih =>
      refine ih (step.ordered ordered) ?_
      have ascending := Billing.draftIds_ascending ordered period
      rw [listed, List.cons_append, List.pairwise_cons] at ascending
      rw [step.draftIds_of_issued, listed, List.cons_append, List.filter_cons_of_neg (by simp),
        List.filter_eq_self]
      intro other mem
      simpa using Int.ne_of_gt (ascending.1 other mem)

end Numbers
end Store
end Tuition
