/-
# Where documents are written

A prefix may have slashes, points and dashes, so an invoice number that is made a path is taken
apart again and may lead anywhere. But it ends with a dash and the digits of its sequence, and so
does the last name of the path, before its ending. The sequence can therefore be read off the
place that the path leads to, whatever directory, period and prefix it was made with: documents
with different sequences are never written to one place.
-/

import Tuition.Proofs.FileChanges
import Tuition.Proofs.NumberText

namespace Tuition

/-- What follows a dash in a text, and has no slash, ends the path that
the text is appended to. -/
theorem FilePath.exists_getLast?_join (path : FilePath) (lead : String) :
    ∃ front, ∀ tail : String, '/' ∉ tail.toList →
      (path.join (lead ++ ("-" ++ tail))).parts.getLast? = some (front ++ "-" ++ tail) := by
  obtain ⟨before, last, ends⟩ := exists_names_dash lead
  refine ⟨last, fun tail whole => ?_⟩
  unfold join
  split
  · rw [ends tail whole, List.getLast?_concat]
  · rw [ends tail whole, ← List.append_assoc, List.getLast?_concat]

/-- The ending of the file of a document with a sequence. -/
def documentEnding (sequence : Nat) : String :=
  Text.padded 3 sequence ++ ".pdf"

theorem toList_documentEnding (sequence : Nat) :
    (documentEnding sequence).toList = (Text.padded 3 sequence).toList ++ ['.', 'p', 'd', 'f'] :=
  String.toList_append

/-- An ending consists of digits, a point and letters. -/
theorem not_mem_documentEnding {letter : Char} (sequence : Nat) (digit : letter.isDigit = false)
    (ending : letter ∉ ['.', 'p', 'd', 'f']) : letter ∉ (documentEnding sequence).toList := by
  rw [toList_documentEnding, List.mem_append, not_or]
  exact ⟨Text.not_mem_padded digit 3 sequence, ending⟩

/-- The sequence can be read off a name that ends with it. -/
theorem sequence_eq_of_name_eq {front other : String} {first second : Nat}
    (same : front ++ "-" ++ documentEnding first = other ++ "-" ++ documentEnding second) :
    first = second := by
  have noDash (sequence : Nat) : '-' ∉ (documentEnding sequence).toList :=
    not_mem_documentEnding sequence (by decide) (by decide)
  have endings := congrArg afterLastDash same
  rw [afterLastDash_append _ _ (noDash first), afterLastDash_append _ _ (noDash second),
    toList_documentEnding, toList_documentEnding] at endings
  have digits :=
    congrArg (fun text => Nat.ofDigitChars 10 text 0) (List.append_cancel_right endings)
  simpa only [Text.ofDigitChars_padded] using digits

/-- A path ends with a sequence, as those of documents do. -/
def FilePath.EndsWith (path : FilePath) (sequence : Nat) : Prop :=
  ∃ front, path.parts.getLast? = some (front ++ "-" ++ documentEnding sequence)

namespace FilePath.EndsWith

variable {path other : FilePath} {first second : Nat} {tree tree' : FileTree} {place : Location}

/-- Paths with the same last name end with the same sequence. -/
theorem sequence_eq (ends : path.EndsWith first) (ends' : other.EndsWith second)
    (same : path.parts.getLast? = other.parts.getLast?) : first = second := by
  obtain ⟨front, last⟩ := ends
  obtain ⟨front', last'⟩ := ends'
  rw [last, last'] at same
  exact sequence_eq_of_name_eq (Option.some.inj same)

/-- Paths that lead to one place, be it in different trees, end with the same sequence. -/
theorem sequence_eq_of_leadsTo (ends : path.EndsWith first) (ends' : other.EndsWith second)
    (leads : tree.LeadsTo path place) (leads' : tree'.LeadsTo other place) : first = second := by
  refine ends.sequence_eq ends' ?_
  have same := leads.getLast?_eq.symm.trans leads'.getLast?_eq
  obtain ⟨front, last⟩ := ends
  obtain ⟨front', last'⟩ := ends'
  rw [last, last'] at same ⊢
  exact same

end FilePath.EndsWith

/-- The path of a document ends with the sequence in its number, whatever else the number says. -/
theorem Billing.endsWith_documentPath (base : FilePath) (period : Period) (lead : String)
    (month : Period) (sequence : Nat) :
    (documentPath base period (invoiceNumber lead month sequence)).EndsWith sequence := by
  obtain ⟨front, ends⟩ := FilePath.exists_getLast?_join
    ((base.join (Text.padded 4 period.year)).join (Text.padded 2 period.month))
    (lead ++ "-" ++ Text.padded 4 month.year ++ Text.padded 2 month.month)
  refine ⟨front, ?_⟩
  rw [← ends _ (not_mem_documentEnding sequence (by decide) (by decide))]
  simp only [documentPath, invoiceNumber, documentEnding, String.append_assoc]

/-- A prefix that goes up and names another file still ends with the sequence. -/
example : (Billing.documentPath ⟨"/", ["out"]⟩ ⟨2024, 1⟩
    (invoiceNumber "../LS-202401-001.pdf/x" ⟨2024, 1⟩ 2)).parts =
      ["out", "2024", "01", "..", "LS-202401-001.pdf", "x-202401-002.pdf"] := by
  decide +kernel

end Tuition
