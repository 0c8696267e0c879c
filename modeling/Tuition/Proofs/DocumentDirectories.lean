/-
# The directory of a month

A document is meant to be in the directory of its month, in a file named by its number. That is so
exactly if the number has no slash. What the period and the sequence add to a number is digits and
dashes, so it is the prefix in the settings that decides: without a slash in it every document is
in its place, and with one none is, be it that the number is taken apart into directories or that
it starts a path of its own.
-/

import Tuition.Proofs.FileWrites
import Tuition.Proofs.IssuingInTurn

namespace Tuition

/-- A number in a column has a digit. -/
theorem Text.exists_digit_mem_padded (width : Nat) (n : Int) :
    ∃ digit ∈ (padded width n).toList, digit.isDigit = true := by
  obtain ⟨digit, mem⟩ :=
    List.exists_mem_of_ne_nil _ (Nat.toDigits_ne_nil (n := n.natAbs) (b := 10))
  refine ⟨digit, ?_, Nat.isDigit_of_mem_toDigits (by decide) (by decide) mem⟩
  unfold padded
  split <;> simp [zeroFilled, digits, mem]

theorem Text.split_ne_nil (separates : Char → Bool) (text : List Char) :
    split separates text ≠ [] := by
  obtain ⟨before, last, ends⟩ := exists_split_append separates text
  have parts := ends [] nofun
  rw [List.append_nil] at parts
  simp [parts]

/-- No part of a text holds a separator. -/
theorem Text.not_separates_of_mem_split {separates : Char → Bool} {text part : List Char}
    {c : Char} (mem : part ∈ split separates text) (inPart : c ∈ part) : separates c = false := by
  induction text generalizing part with
  | nil =>
      obtain rfl : part = [] := List.mem_singleton.mp mem
      cases inPart
  | cons first rest ih =>
      rw [split] at mem
      split at mem
      · next none => exact absurd none (split_ne_nil separates rest)
      · next before others parts =>
          rw [parts] at ih
          split at mem
          · rcases List.mem_cons.mp mem with rfl | mem
            · cases inPart
            · exact ih mem inPart
          · next kept =>
              rcases List.mem_cons.mp mem with rfl | mem
              · rcases List.mem_cons.mp inPart with rfl | inPart
                · simpa using kept
                · exact ih List.mem_cons_self inPart
              · exact ih (List.mem_cons_of_mem _ mem) inPart

/-! ## Names in a directory -/

namespace FilePath

/-- What is in a directory under a name. -/
def child (directory : FilePath) (name : String) : FilePath :=
  { directory with parts := directory.parts ++ [name] }

theorem rootOf?_of_whole {name : String} (whole : '/' ∉ name.toList) : rootOf? name = none := by
  unfold rootOf?
  split <;> simp_all

theorem names_of_whole {name : String} (whole : '/' ∉ name.toList) (some : name ≠ "")
    (proper : name ≠ ".") : names name = [name] := by
  have noSlash : ∀ c ∈ name.toList, decide (c = '/') = false := by
    intro c mem
    rw [decide_eq_false_iff_not]
    rintro rfl
    exact whole mem
  rw [names, Text.split_of_whole noSlash]
  simp [some, proper]

/-- A name without a slash that is appended is the name of an entry of the directory. -/
theorem join_of_whole (directory : FilePath) {name : String} (whole : '/' ∉ name.toList)
    (some : name ≠ "") (proper : name ≠ ".") : directory.join name = directory.child name := by
  rw [join, rootOf?_of_whole whole, names_of_whole whole some proper]
  rfl

/-- No name in a text has a slash. -/
theorem slash_not_mem_of_mem_names {text name : String} (mem : name ∈ names text) :
    '/' ∉ name.toList := by
  obtain ⟨part, memPart, rfl⟩ := List.mem_map.mp (List.mem_filter.mp mem).1
  intro slash
  rw [String.toList_ofList] at slash
  simpa using Text.not_separates_of_mem_split memPart slash

/-- The last of the names that are appended is the last of the path. -/
theorem getLast?_join (path : FilePath) {text : String} (some : names text ≠ []) :
    (path.join text).parts.getLast? = (names text).getLast? := by
  rw [join]
  split
  · rfl
  · exact List.getLast?_append_of_ne_nil _ some

/-- Only a text without a slash names an entry of a directory when it is appended to a path. -/
theorem whole_of_join_eq {path directory : FilePath} {text : String} (some : names text ≠ [])
    (inside : path.join text = directory.child text) : '/' ∉ text.toList := by
  have last := path.getLast?_join some
  rw [inside, child, List.getLast?_concat] at last
  exact slash_not_mem_of_mem_names (List.mem_of_getLast? last.symm)

end FilePath

/-! ## Documents in their months -/

namespace Billing

/-- The directory of the documents of a month. -/
def monthDirectory (base : FilePath) (period : Period) : FilePath :=
  (base.child (Text.padded 4 period.year)).child (Text.padded 2 period.month)

/-- The document of a number is in the directory of its month, in a file named by the number. -/
def InMonth (base : FilePath) (period : Period) (number : String) : Prop :=
  documentPath base period number = (monthDirectory base period).child (number ++ ".pdf")

/-- A number in a column is the name of an entry of the directory that it is appended to. -/
theorem join_padded (directory : FilePath) (width : Nat) (n : Int) :
    directory.join (Text.padded width n) = directory.child (Text.padded width n) := by
  obtain ⟨digit, mem, isDigit⟩ := Text.exists_digit_mem_padded width n
  apply FilePath.join_of_whole directory (Text.slash_not_mem_padded width n)
  · intro none
    rw [none] at mem
    cases mem
  · intro point
    rw [point] at mem
    cases List.mem_singleton.mp mem
    exact absurd isDigit (by decide)

/-- A file that is named by a number with a slash is in another directory. -/
theorem inMonth_iff (base : FilePath) (period : Period) {number : String}
    (some : FilePath.names (number ++ ".pdf") ≠ []) :
    InMonth base period number ↔ '/' ∉ number.toList := by
  have ending : ".pdf".toList = ['.', 'p', 'd', 'f'] := rfl
  have slash : '/' ∈ (number ++ ".pdf").toList ↔ '/' ∈ number.toList := by
    simp [String.toList_append, ending]
  unfold InMonth documentPath monthDirectory
  rw [join_padded, join_padded]
  constructor
  · intro inside
    exact mt slash.mpr (FilePath.whole_of_join_eq some inside)
  · intro whole
    apply FilePath.join_of_whole _ (mt slash.mp whole)
    · intro none
      have letters := congrArg String.toList none
      simp [String.toList_append, ending] at letters
    · intro point
      have letters := congrArg (·.toList.length) point
      simp [String.toList_append, ending] at letters

/-- What a period and a sequence add to the prefix has no slash. -/
theorem slash_mem_invoiceNumber_iff (lead : String) (period : Period) (sequence : Int) :
    '/' ∈ (invoiceNumber lead period sequence).toList ↔ '/' ∈ lead.toList := by
  have dash : "-".toList = ['-'] := rfl
  simp [invoiceNumber, String.toList_append, Text.slash_not_mem_padded, dash]

/-- The file of a number has a name, whatever the prefix is. -/
theorem names_invoiceNumber_ne_nil (lead : String) (period : Period) (sequence : Int) :
    FilePath.names (invoiceNumber lead period sequence ++ ".pdf") ≠ [] := by
  obtain ⟨before, last, ends⟩ := FilePath.exists_names_dash
    (lead ++ "-" ++ Text.padded 4 period.year ++ Text.padded 2 period.month)
  have ending : ".pdf".toList = ['.', 'p', 'd', 'f'] := rfl
  have parts := ends (Text.padded 3 sequence ++ ".pdf")
    (by simp [String.toList_append, Text.slash_not_mem_padded, ending])
  have text : invoiceNumber lead period sequence ++ ".pdf" =
      lead ++ "-" ++ Text.padded 4 period.year ++ Text.padded 2 period.month ++
        ("-" ++ (Text.padded 3 sequence ++ ".pdf")) := by
    simp only [invoiceNumber, String.append_assoc]
  rw [text, parts]
  simp

theorem slash_mem_effectivePrefix_iff (settings : Settings) :
    '/' ∈ settings.effectivePrefix.toList ↔ '/' ∈ settings.invoicePrefix.toList := by
  unfold Settings.effectivePrefix
  split
  · next none =>
      have empty : settings.invoicePrefix = "" := String.isEmpty_iff.mp none
      simp [empty, Settings.defaultPrefix]
  · rfl

end Billing

/-! ## Numbers that are given -/

/-- A number is the next one for a draft of the store. -/
def Store.NextNumber (store : Store) (id : Int) (number : String) : Prop :=
  ∃ invoice settings, Table.find? store.invoices id = some invoice ∧ invoice.status = .draft ∧
    store.settings = some settings ∧
    number = invoiceNumber settings.effectivePrefix invoice.period settings.nextSequence

namespace Billing

open Tx

variable {world : World}

/-- Whatever the store is, numbering answers with the number that it made. -/
theorem ends_numberDraft_answer (invoice : Invoice) (settings : Settings) :
    (numberDraft invoice settings).Ends world
      (fun issued _ => issued.number =
        invoiceNumber settings.effectivePrefix invoice.period settings.nextSequence)
      fun _ _ => True := by
  rw [numberDraft_eq]
  refine ends_bind_any (fun _ _ => ?_) fun _ _ => trivial
  refine ends_bind_any (fun _ _ => ?_) fun _ _ => trivial
  refine ends_bind_any (fun _ _ => ?_) fun _ _ => trivial
  refine ends_bind_any (fun _ _ => ?_) fun _ _ => trivial
  exact ends_pure rfl

/-- Issuing gives a draft the next number, whenever it answers that it did. -/
theorem ends_issueInvoice_number (id : Int) (settled : world.Settled) :
    (issueInvoice id).Ends world
      (fun result _ => ∀ issued, result = .ok issued → issued.already = false →
        world.store.NextNumber id issued.number) fun _ _ => False := by
  refine ends_transaction ?_ fun fault after _ => nofun
  apply ends_bind
  apply Access.ends_read settled.works
  intro found works
  cases there : Table.find? world.store.invoices id with
  | none => exact ends_bind (ends_rollback (ends_pure nofun))
  | some invoice =>
      have status : (Row.shown invoice).status = invoice.status := rfl
      simp only [Option.map_some, status]
      by_cases draft : invoice.status = .draft
      · rw [if_neg (not_not_intro draft)]
        apply ends_bind
        apply Access.ends_read works
        intro read works
        cases counter : world.store.settings with
        | none => exact ends_bind (ends_rollback (ends_pure nofun))
        | some settings =>
            apply ends_bind
            refine ((ends_numberDraft works there draft counter).and
              (ends_numberDraft_answer (Row.shown invoice) settings)).mono ?_
              fun _ _ both => both.1
            rintro issued after ⟨-, number⟩
            apply ends_pure
            rintro _ ⟨rfl⟩ -
            exact ⟨invoice, settings, there, draft, counter, number⟩
      · rw [if_pos draft]
        refine ends_bind (ends_rollback (ends_pure ?_))
        -- an invoice that is no draft was issued before
        intro issued answered fresh
        unfold issuedBefore at answered
        split at answered
        · cases answered
          cases fresh
        · cases answered

end Billing

open Tx

/-- Documents are in the directories of their months exactly if the prefix has no slash, whatever
the period and the sequence are: the file is then named by the number and stands in the directory
of the year and the month below the one that was set up. The numbers are those that issuing gives,
in every world and under all outages. -/
theorem documents_in_month_iff (world : World) :
    (∀ base period sequence, ∀ settings : Settings,
      Billing.InMonth base period (invoiceNumber settings.effectivePrefix period sequence) ↔
        '/' ∉ settings.invoicePrefix.toList) ∧
    ∀ id issued after,
      (session (Billing.issueInvoice id)).perform world = (.ok (.ok issued), after) →
      issued.already = false → world.store.NextNumber id issued.number := by
  constructor
  · intro base period sequence settings
    rw [Billing.inMonth_iff base period (Billing.names_invoiceNumber_ne_nil _ period sequence),
      Billing.slash_mem_invoiceNumber_iff, Billing.slash_mem_effectivePrefix_iff]
  · intro id issued after performed
    have ends : (session (Billing.issueInvoice id)).Ends world
        (fun result _ => ∀ issued, result = .ok issued → issued.already = false →
          world.store.NextNumber id issued.number) fun _ _ => False :=
      ends_session (Billing.ends_issueInvoice_number id rfl)
    exact ends.of_ok performed issued rfl

/-- The next number of the first draft under the usual prefix is that of a
document in its month. -/
theorem documents_in_month_iff_usual :
    let world := World.calmWith .withThreeDrafts
    (∃ after, (session (Billing.issueInvoice 1)).perform world =
      (.ok (.ok ⟨1, "LS-202401-001", false⟩), after)) ∧
    world.store.NextNumber 1 "LS-202401-001" ∧
    Billing.InMonth ⟨"/", ["srv", "invoices"]⟩ ⟨2024, 1⟩ "LS-202401-001" := by
  intro world
  obtain ⟨inMonth, given⟩ := documents_in_month_iff world
  have answered : ((session (Billing.issueInvoice 1)).perform world).1 =
      .ok (.ok ⟨1, "LS-202401-001", false⟩) := by decide +kernel
  have performed := Prod.ext answered rfl
  refine ⟨⟨_, performed⟩, given _ _ _ performed rfl, ?_⟩
  exact (inMonth ⟨"/", ["srv", "invoices"]⟩ ⟨2024, 1⟩ 1 {}).mpr (by decide +kernel)

/-- Under a prefix that starts with a slash, the first document of a month is written to the top
of all directories instead of the directory that was set up. -/
theorem document_outside_month :
    let world := (World.calmWith .withThreeDrafts).run [.prefixed "/abs"]
    let base : FilePath := ⟨"/", ["srv", "invoices"]⟩
    ((session (Billing.issueAndRender base 1)).perform world).1 =
        .ok (.ok ⟨1, "/abs-202401-001", ⟨"/", ["abs-202401-001.pdf"]⟩⟩) ∧
      Billing.documentPath base ⟨2024, 1⟩ "/abs-202401-001" = ⟨"/", ["abs-202401-001.pdf"]⟩ ∧
      ¬Billing.InMonth base ⟨2024, 1⟩ "/abs-202401-001" := by
  intro world base
  have path : Billing.documentPath base ⟨2024, 1⟩ "/abs-202401-001" =
      ⟨"/", ["abs-202401-001.pdf"]⟩ := by decide +kernel
  refine ⟨by decide +kernel, path, ?_⟩
  unfold Billing.InMonth
  rw [path]
  decide +kernel

end Tuition
