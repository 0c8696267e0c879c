/-
# Lines that are written again

Writing lines takes keys behind those that are there, so lines that are removed and written again
have other keys and say the same. `InvoiceLine.Same` is what then stays: for each invoice the
lines say the same in the same order. The keys run out in the end; `Table.Room` says how many rows
a table has room for, and what is written takes its share.
-/

import Tuition.Proofs.InvoiceContents

namespace Tuition

namespace Table

variable {α : Type} [Row α]

/-- A table has room for a number of new rows: their keys are within a word. -/
structure Room (rows : List α) (count : Nat) : Prop where
  behind : ∀ row ∈ rows, Row.key row + count < Word.bound
  alone : (count : Int) < Word.bound

instance (rows : List α) (count : Nat) : Decidable (Room rows count) :=
  decidable_of_iff ((∀ row ∈ rows, Row.key row + count < Word.bound) ∧ (count : Int) < Word.bound)
    ⟨fun ⟨behind, alone⟩ => ⟨behind, alone⟩, fun room => ⟨room.behind, room.alone⟩⟩

namespace Room

variable {rows fewer : List α} {count less : Nat}

theorem mono (room : Room rows count) (le : less ≤ count) : Room rows less where
  behind row mem := by
    have := room.behind row mem
    omega
  alone := by
    have := room.alone
    omega

/-- Rows that are removed leave as much room as there was. -/
theorem filter (room : Room rows count) (keeps : α → Bool) : Room (rows.filter keeps) count :=
  ⟨fun row mem => room.behind row (List.mem_of_mem_filter mem), room.alone⟩

theorem nextKey_lt (room : Room rows (count + 1)) : nextKey rows + count < Word.bound := by
  unfold nextKey
  cases found : (rows.map Row.key).max? with
  | none =>
      have := room.alone
      simp only
      omega
  | some greatest =>
      obtain ⟨row, mem, rfl⟩ := List.mem_map.mp (List.max?_mem found)
      have := room.behind row mem
      simp only
      omega

/-- A new row takes one of the keys that there is room for. -/
theorem append_single (room : Room rows (count + 1)) {row : α}
    (key : Row.key row = nextKey rows) : Room (rows ++ [row]) count where
  behind other mem := by
    rcases List.mem_append.mp mem with old | new
    · exact (room.mono (Nat.le_succ count)).behind other old
    · rw [List.mem_singleton.mp new, key]
      exact room.nextKey_lt
  alone := (room.mono (Nat.le_succ count)).alone

end Room

theorem WellKept.filter {rows : List α} (kept : WellKept rows) (keeps : α → Bool) :
    WellKept (rows.filter keeps) where
  ordered := kept.ordered.filter _
  words row mem := kept.words row (List.mem_of_mem_filter mem)
  conditions row mem := kept.conditions row (List.mem_of_mem_filter mem)
  distinct first memFirst second memSecond :=
    kept.distinct first (List.mem_of_mem_filter memFirst) second
      (List.mem_of_mem_filter memSecond)

/-- Where there is room the next key fits into a word. -/
theorem WellKept.fits_nextKey {rows : List α} {count : Nat} (kept : WellKept rows)
    (room : Room rows (count + 1)) : Word.fits (nextKey rows) := by
  have above : -Word.bound ≤ nextKey rows := by
    unfold nextKey
    cases found : (rows.map Row.key).max? with
    | none => decide
    | some greatest =>
        obtain ⟨row, mem, rfl⟩ := List.mem_map.mp (List.max?_mem found)
        have fits := kept.words row mem _ List.mem_cons_self
        simp only [Word.fits, Bool.and_eq_true, decide_eq_true_eq] at fits ⊢
        omega
  have below := room.nextKey_lt
  simp only [Word.fits, Bool.and_eq_true, decide_eq_true_eq]
  omega

end Table

/-! ## Lines that say the same -/

/-- What the lines of an invoice say, without their keys. -/
def InvoiceLine.contents (lines : List InvoiceLine) (invoiceId : Int) : List DraftLine :=
  (lines.filter (·.invoiceId == invoiceId)).map InvoiceLine.toDraftLine

/-- The lines of each invoice say the same. -/
def InvoiceLine.Same (first second : List InvoiceLine) : Prop :=
  ∀ invoiceId, contents first invoiceId = contents second invoiceId

namespace DraftLine

variable {draft : DraftLine} {line other : InvoiceLine} {drafts : List DraftLine}
  {lines others : List InvoiceLine}

/-- What is kept of a drafted line says one thing. -/
theorem KeptAs.toDraftLine_eq (kept : draft.KeptAs line) (again : draft.KeptAs other) :
    other.toDraftLine = line.toDraftLine := by
  have unitPrice := Except.ok.inj (kept.unitPrice.symm.trans again.unitPrice)
  have amount := Except.ok.inj (kept.amount.symm.trans again.amount)
  rw [again.same, kept.same, unitPrice, amount]

theorem KeptAs.numbers_eq (kept : draft.KeptAs line) :
    line.enrollmentId = draft.enrollmentId ∧ line.quantity = draft.quantity := by
  rw [kept.same]
  exact ⟨rfl, rfl⟩

theorem KeptAs.congr (kept : draft.KeptAs line) (same : other.toDraftLine = line.toDraftLine) :
    draft.KeptAs other := by
  have unitPrice : other.unitPrice = line.unitPrice := congrArg DraftLine.unitPrice same
  have amount : other.amount = line.amount := congrArg DraftLine.amount same
  refine ⟨unitPrice ▸ kept.unitPrice, amount ▸ kept.amount, ?_⟩
  rw [unitPrice, amount]
  exact same.trans kept.same

/-- Lines that are kept of the same drafted ones say the same. -/
theorem contents_eq_of_keptAs (kept : List.Forall₂ KeptAs drafts lines)
    (again : List.Forall₂ KeptAs drafts others) :
    others.map InvoiceLine.toDraftLine = lines.map InvoiceLine.toDraftLine := by
  induction kept generalizing others with
  | nil =>
      cases again
      rfl
  | cons first rest ih =>
      cases again with
      | cons firstAgain restAgain =>
          rw [List.map_cons, List.map_cons, first.toDraftLine_eq firstAgain, ih restAgain]

/-- Lines that say the same are kept of the same drafted ones. -/
theorem keptAs_of_contents_eq (kept : List.Forall₂ KeptAs drafts lines)
    (same : others.map InvoiceLine.toDraftLine = lines.map InvoiceLine.toDraftLine) :
    List.Forall₂ KeptAs drafts others := by
  induction kept generalizing others with
  | nil =>
      rw [List.map_eq_nil_iff.mp same]
      exact .nil
  | cons first rest ih =>
      obtain ⟨line, more, rfl, sameLine, sameMore⟩ := List.map_eq_cons_iff.mp same
      exact .cons (first.congr sameLine) (ih sameMore)

end DraftLine

/-! ## Writing lines -/

/-- A drafted line can be written for an invoice if there is a key for it. -/
structure DraftLine.Admitted (invoiceId : Int) (draft : DraftLine) : Prop where
  kept : ∃ line, draft.KeptAs line
  words : ∀ number ∈ [invoiceId, draft.enrollmentId, draft.quantity], Word.fits number

section Attaching

variable {rows written others : List InvoiceLine} {drafts : List DraftLine} {invoiceId : Int}

/-- A drafted line that is admitted is written where there is room for it. -/
theorem exists_insert_line {draft : DraftLine} {count : Nat} (kept : Table.WellKept rows)
    (room : Table.Room rows (count + 1)) (admitted : draft.Admitted invoiceId) :
    ∃ written, Table.insert rows (.ofDraft invoiceId draft) = .ok written := by
  obtain ⟨line, keeps⟩ := admitted.kept
  have amounts :
      Row.keep (Row.withKey (InvoiceLine.ofDraft invoiceId draft) (Table.nextKey rows)) =
        .ok { line with id := Table.nextKey rows, invoiceId } := by
    refine bind_eq_ok_iff.mpr ⟨line.unitPrice, keeps.unitPrice, ?_⟩
    refine bind_eq_ok_iff.mpr ⟨line.amount, keeps.amount, ?_⟩
    rw [keeps.same]
    rfl
  refine ⟨_, bind_eq_ok_iff.mpr ⟨_, bind_eq_ok_iff.mpr ⟨_, amounts,
    Table.check_eq_ok_iff.mpr ⟨rfl, ?_⟩⟩, rfl⟩⟩
  have unconditional : Row.conditions (α := InvoiceLine) = [] := rfl
  have indistinct : Row.distinct (α := InvoiceLine) = [] := rfl
  refine ⟨?_, by simp [unconditional], ?_, by simp [indistinct]⟩
  · have words := admitted.words
    rw [← keeps.numbers_eq.1, ← keeps.numbers_eq.2] at words
    exact List.forall_mem_cons.mpr ⟨kept.fits_nextKey room, words⟩
  · intro other mem
    exact Int.ne_of_lt (Table.key_lt_nextKey mem)

/-- Drafted lines that were written are admitted. -/
theorem admitted_of_attached
    (attached : Table.insertAll rows (drafts.map (.ofDraft invoiceId)) = .ok written) :
    ∀ draft ∈ drafts, draft.Admitted invoiceId := by
  induction drafts generalizing rows with
  | nil => exact List.forall_mem_nil _
  | cons draft drafts ih =>
      obtain ⟨⟨line, between⟩, first, rest⟩ := bind_eq_ok_iff.mp attached
      refine List.forall_mem_cons.mpr ⟨?_, ih rest⟩
      obtain ⟨-, keeps, -, fits⟩ := Table.insert_eq_ok first
      obtain ⟨unitPrice, price, amounts⟩ := bind_eq_ok_iff.mp keeps
      obtain ⟨amount, product, same⟩ := bind_eq_ok_iff.mp amounts
      cases same
      have keptAs : draft.KeptAs { InvoiceLine.ofDraft invoiceId draft with
          id := Table.nextKey rows, unitPrice, amount } := ⟨price, product, rfl⟩
      exact ⟨⟨_, keptAs⟩, fun number mem => fits.words number (List.mem_cons_of_mem _ mem)⟩

/-- Drafted lines that lines with fitting numbers are kept of are admitted. -/
theorem admitted_of_keptAs (kept : List.Forall₂ DraftLine.KeptAs drafts rows)
    (words : ∀ line ∈ rows, ∀ number ∈ [invoiceId, line.enrollmentId, line.quantity],
      Word.fits number) : ∀ draft ∈ drafts, draft.Admitted invoiceId := by
  induction kept with
  | nil => exact List.forall_mem_nil _
  | cons first rest ih =>
      obtain ⟨wordsFirst, wordsRest⟩ := List.forall_mem_cons.mp words
      rw [first.numbers_eq.1, first.numbers_eq.2] at wordsFirst
      exact List.forall_mem_cons.mpr ⟨⟨⟨_, first⟩, wordsFirst⟩, ih wordsRest⟩

/-- Drafted lines that are admitted are written where there is room for them. -/
theorem exists_attached {count : Nat} (kept : Table.WellKept rows)
    (room : Table.Room rows (drafts.length + count))
    (admitted : ∀ draft ∈ drafts, draft.Admitted invoiceId) :
    ∃ written, Table.insertAll rows (drafts.map (.ofDraft invoiceId)) = .ok written ∧
      Table.WellKept written ∧ Table.Room written count := by
  induction drafts generalizing rows with
  | nil => exact ⟨rows, rfl, kept, room.mono (by simp)⟩
  | cons draft drafts ih =>
      obtain ⟨admittedFirst, admittedRest⟩ := List.forall_mem_cons.mp admitted
      have more : Table.Room rows (drafts.length + count + 1) :=
        room.mono (by rw [List.length_cons]; omega)
      obtain ⟨⟨line, between⟩, first⟩ := exists_insert_line kept more admittedFirst
      obtain ⟨rfl, -, key, -⟩ := Table.insert_eq_ok first
      obtain ⟨written, rest, keptRest, roomRest⟩ :=
        ih (kept.insert first) (more.append_single key) admittedRest
      exact ⟨written, bind_eq_ok_iff.mpr ⟨_, first, rest⟩, keptRest, roomRest⟩

/-- Lines that are attached to the same lines, as far as they say, say the same. -/
theorem InvoiceLine.Same.attach {againWritten : List InvoiceLine} (same : Same rows others)
    (attached : Table.insertAll rows (drafts.map (.ofDraft invoiceId)) = .ok written)
    (again : Table.insertAll others (drafts.map (.ofDraft invoiceId)) = .ok againWritten) :
    Same written againWritten := by
  intro other
  by_cases own : other = invoiceId
  · subst own
    obtain ⟨added, lines, kept⟩ := filter_attached attached
    obtain ⟨addedAgain, linesAgain, keptAgain⟩ := filter_attached again
    have before := same other
    simp only [contents] at before
    simp only [contents, lines, linesAgain, List.map_append, before,
      DraftLine.contents_eq_of_keptAs kept keptAgain]
  · simp only [contents, linesOf_attached own attached, linesOf_attached own again]
    exact same other

/-- Lines that say the same do so without those of an invoice. -/
theorem InvoiceLine.Same.detach (same : Same rows others) :
    Same (rows.filter (·.invoiceId != invoiceId)) (others.filter (·.invoiceId != invoiceId)) := by
  intro other
  by_cases own : other = invoiceId
  · simp only [contents, own, linesOf_removed]
  · simp only [contents, linesOf_detached _ own]
    exact same other

/-- Lines of an invoice that are removed and written again say the same. -/
theorem InvoiceLine.same_of_reattached
    (kept : List.Forall₂ DraftLine.KeptAs drafts (rows.filter (·.invoiceId == invoiceId)))
    (attached : Table.insertAll (rows.filter (·.invoiceId != invoiceId))
      (drafts.map (.ofDraft invoiceId)) = .ok written) : Same rows written := by
  intro other
  by_cases own : other = invoiceId
  · subst own
    obtain ⟨added, lines, keptAdded⟩ := filter_attached attached
    rw [linesOf_removed, List.nil_append] at lines
    simp only [contents, lines, DraftLine.contents_eq_of_keptAs kept keptAdded]
  · simp only [contents, linesOf_attached own attached, linesOf_detached _ own]

end Attaching
end Tuition
