/-
# The times of payments are read back

The time of a payment is entered as the text of a stamp or of a date. Blanks around it are passed
over, `Z` stands for the offset of universal time, and only the text of a date has ten letters, so
no stamp is taken for one. Every stamp is read back as it is, except where its offset is less than
a second and not none: such an offset is read as that of universal time.
-/

import Tuition.Proofs.StampTexts
import Tuition.Request.Entry

namespace Tuition

open Text

namespace Payments

/-- A text without the blanks around it. -/
def trimmed (text : String) : String :=
  String.ofList (trim isBlank text.toList)

/-- The text is taken for a date: it has ten letters, blanks around it aside. -/
def TakenForDate (text : String) : Prop :=
  size (trimmed text) = 10

instance (text : String) : Decidable (TakenForDate text) :=
  inferInstanceAs (Decidable (_ = _))

theorem readPaidAt_eq (text : String) : readPaidAt text =
    if TakenForDate text then
      (Calendar.readDate (trimmed text)).map fun date => ⟨.atMidnight date, none⟩
    else Calendar.readStamp (spellOffset (trimmed text)) :=
  rfl

/-- A text holds nothing but characters of ASCII that are no blanks. -/
def Solid (text : String) : Prop :=
  ∀ c ∈ text.toList, 0x20 < c.toNat ∧ c.toNat < 0x80

theorem Solid.size_eq {text : String} (solid : Solid text) : size text = text.toList.length :=
  size_of_ascii fun c mem => (solid c mem).2

theorem solid_date (date : Date) : Solid date.text :=
  fun _ => Date.bounds_of_mem_text

theorem solid_stamp (stamp : Stamp) : Solid stamp.text :=
  fun _ mem => (Stamp.writes_of_mem_text mem).bounds

/-! ## The mark of universal time -/

theorem text_unknown (moment : Moment) : (Stamp.mk moment none).text = moment.text :=
  String.append_empty

theorem solid_zulu (moment : Moment) : Solid (moment.text ++ "Z") := by
  intro c mem
  rw [String.toList_append, List.mem_append] at mem
  rcases mem with known | letter
  · rw [← text_unknown] at known
    exact solid_stamp _ c known
  · obtain rfl : c = 'Z' := List.mem_singleton.mp letter
    decide

theorem ne_zulu_of_writes {c : Char} (writes : Stamp.Writes c) : c ≠ 'Z' := by
  rintro rfl
  exact absurd writes (by unfold Stamp.Writes; decide)

/-- A text without the mark is spelled as it is. -/
theorem flatMap_spelled {text : List Char} (unmarked : ∀ c ∈ text, c ≠ 'Z') :
    text.flatMap (fun c => if c = 'Z' then "+00:00".toList else [c]) = text := by
  induction text with
  | nil => rfl
  | cons c rest ih =>
      obtain ⟨first, others⟩ := List.forall_mem_cons.mp unmarked
      rw [List.flatMap_cons, if_neg first, ih others]
      rfl

theorem spellOffset_stamp (stamp : Stamp) : spellOffset stamp.text = stamp.text := by
  have kept := flatMap_spelled fun c (mem : c ∈ stamp.text.toList) =>
    ne_zulu_of_writes (Stamp.writes_of_mem_text mem)
  rw [spellOffset, kept, String.ofList_toList]

/-- The mark stands for the offset of universal time. -/
theorem spellOffset_zulu (moment : Moment) :
    spellOffset (moment.text ++ "Z") = (Stamp.mk moment (some .utc)).text := by
  have known := spellOffset_stamp ⟨moment, none⟩
  rw [text_unknown] at known
  have letter : "Z".toList = ['Z'] := rfl
  have universal : (Stamp.mk moment (some .utc)).text = moment.text ++ "+00:00" := rfl
  rw [spellOffset, String.toList_append, List.flatMap_append, letter, String.ofList_append]
  exact (congrArg (· ++ "+00:00") known).trans universal.symm

/-! ## Blanks around a text -/

/-- A date with a time is written in 19 letters or more. -/
theorem length_stamp (stamp : Stamp) : 19 ≤ stamp.text.toList.length := by
  obtain ⟨hours, minutes, seconds, -⟩ := stamp.moment.time.valid
  simp only [Stamp.toList_text, TimeOfDay.toList_text, List.length_append, List.length_cons,
    stamp.moment.date.length_text, length_pair (by omega : stamp.moment.time.hour < 100),
    length_pair (by omega : stamp.moment.time.minute < 100),
    length_pair (by omega : stamp.moment.time.second < 100)]
  omega

theorem length_zulu (moment : Moment) : 19 ≤ (moment.text ++ "Z").toList.length := by
  have known := length_stamp ⟨moment, none⟩
  rw [text_unknown] at known
  rw [String.toList_append, List.length_append]
  omega

/-- The time of a payment, entered as a text with others around it. -/
def entered (before text after : String) : Entry :=
  .json (.str (before ++ text ++ after))

theorem asPaidAt_entered {before text after : String} {stamp : Stamp}
    (read : readPaidAt (before ++ text ++ after) = .ok stamp) :
    (entered before text after).asPaidAt = .ok (.stamp stamp) := by
  rw [entered, Entry.asPaidAt, read]
  rfl

section Surrounded

variable {before after : String} (blankBefore : ∀ c ∈ before.toList, isBlank c = true)
  (blankAfter : ∀ c ∈ after.toList, isBlank c = true)

include blankBefore blankAfter

theorem trimmed_surrounded {text : String} (solid : Solid text) :
    trimmed (before ++ text ++ after) = text := by
  have kept : ∀ c ∈ text.toList, isBlank c = false := fun c mem =>
    isBlank_of_bounds (solid c mem).1 (solid c mem).2
  rw [trimmed, String.toList_append, String.toList_append,
    trim_surrounded blankBefore blankAfter kept, String.ofList_toList]

theorem takenForDate_surrounded_iff {text : String} (solid : Solid text) :
    TakenForDate (before ++ text ++ after) ↔ text.toList.length = 10 := by
  rw [TakenForDate, trimmed_surrounded blankBefore blankAfter solid, solid.size_eq]

theorem not_takenForDate_of_long {text : String} (solid : Solid text)
    (long : 19 ≤ text.toList.length) : ¬TakenForDate (before ++ text ++ after) := by
  rw [takenForDate_surrounded_iff blankBefore blankAfter solid]
  omega

/-- A long text between blanks is read as a date with a time. -/
theorem readPaidAt_long {text : String} (solid : Solid text) (long : 19 ≤ text.toList.length) :
    readPaidAt (before ++ text ++ after) = Calendar.readStamp (spellOffset text) := by
  rw [readPaidAt_eq, if_neg (not_takenForDate_of_long blankBefore blankAfter solid long),
    trimmed_surrounded blankBefore blankAfter solid]

theorem asPaidAt_date (date : Date) :
    (entered before date.text after).asPaidAt = .ok (.stamp ⟨.atMidnight date, none⟩) := by
  have taken : TakenForDate (before ++ date.text ++ after) :=
    (takenForDate_surrounded_iff blankBefore blankAfter (solid_date date)).mpr date.length_text
  refine asPaidAt_entered ?_
  rw [readPaidAt_eq, if_pos taken, trimmed_surrounded blankBefore blankAfter (solid_date date),
    Calendar.readDate_text]
  rfl

/-- A stamp between blanks is read as it is read back from its own text. -/
theorem asPaidAt_stamp (stamp : Stamp) :
    (entered before stamp.text after).asPaidAt = .ok (.stamp stamp.readBack) := by
  refine asPaidAt_entered ?_
  rw [readPaidAt_long blankBefore blankAfter (solid_stamp stamp) (length_stamp stamp),
    spellOffset_stamp, Calendar.readStamp_text]

theorem asPaidAt_zulu (moment : Moment) :
    (entered before (moment.text ++ "Z") after).asPaidAt = .ok (.stamp ⟨moment, some .utc⟩) := by
  refine asPaidAt_entered ?_
  rw [readPaidAt_long blankBefore blankAfter (solid_zulu moment) (length_zulu moment),
    spellOffset_zulu, Calendar.readStamp_text]
  rfl

end Surrounded

theorem asPaidAt_of_asPaidAt {entry read : Entry} (found : entry.asPaidAt = .ok read) :
    read.asPaidAt = .ok read := by
  cases entry with
  | stamp => cases found; rfl
  | date => cases found; rfl
  | decimal => cases found; rfl
  | json value =>
      cases value with
      | str text =>
          rw [Entry.asPaidAt] at found
          cases taken : readPaidAt text with
          | error =>
              rw [taken] at found
              cases found
          | ok stamp =>
              rw [taken] at found
              cases found
              rfl
      | null => cases found; rfl
      | bool => cases found; rfl
      | int => cases found; rfl
      | real => cases found; rfl
      | arr => cases found; rfl
      | obj => cases found; rfl

/-- How times of payments are read from texts with blanks around them. -/
structure ReadsTimes (before after : String) : Prop where
  /-- A stamp is read back, unless its offset is less than a second but not none. -/
  stamps : ∀ stamp : Stamp, (¬∃ offset ∈ stamp.offset, offset.IsBrief) →
    (entered before stamp.text after).asPaidAt = .ok (.stamp stamp)
  /-- Such an offset is read as that of universal time. -/
  brief : ∀ moment offset, offset.IsBrief →
    (entered before (Stamp.mk moment (some offset)).text after).asPaidAt =
      .ok (.stamp ⟨moment, some .utc⟩)
  /-- The offset of universal time can be marked by a letter. -/
  universal : ∀ moment : Moment, (entered before (moment.text ++ "Z") after).asPaidAt =
    .ok (.stamp ⟨moment, some .utc⟩)
  /-- A date is read as its midnight. -/
  dates : ∀ date : Date, (entered before date.text after).asPaidAt =
    .ok (.stamp ⟨.atMidnight date, none⟩)
  /-- No stamp is taken for a date. -/
  apart : ∀ stamp : Stamp, ¬TakenForDate (before ++ stamp.text ++ after)
  /-- Nor is one with the letter. -/
  apartUniversal : ∀ moment : Moment, ¬TakenForDate (before ++ (moment.text ++ "Z") ++ after)
  /-- What was read is not read differently. -/
  settled : ∀ entry read : Entry, entry.asPaidAt = .ok read → read.asPaidAt = .ok read

/-- Times of payments are read back from their texts, whatever blanks stand around them. -/
theorem paid_at_read_back {before after : String}
    (blankBefore : ∀ c ∈ before.toList, isBlank c = true)
    (blankAfter : ∀ c ∈ after.toList, isBlank c = true) : ReadsTimes before after where
  stamps stamp notBrief := by
    rw [asPaidAt_stamp blankBefore blankAfter, Stamp.readBack_of_not_brief notBrief]
  brief moment offset brief := by
    rw [asPaidAt_stamp blankBefore blankAfter, Stamp.readBack_of_brief moment brief]
  universal := asPaidAt_zulu blankBefore blankAfter
  dates := asPaidAt_date blankBefore blankAfter
  apart stamp := not_takenForDate_of_long blankBefore blankAfter (solid_stamp stamp)
    (length_stamp stamp)
  apartUniversal moment :=
    not_takenForDate_of_long blankBefore blankAfter (solid_zulu moment) (length_zulu moment)
  settled _ _ := asPaidAt_of_asPaidAt

/-- A stamp whose offset has seconds and microseconds is read back between blanks of two kinds. -/
theorem paid_at_read_back_to_microseconds :
    let before := "\u2003\t"
    let after := " \n"
    let stamp : Stamp := ⟨⟨⟨2024, 2, 29, by decide⟩, ⟨23, 59, 59, 1, by decide⟩⟩,
      some ⟨-19815000123, by decide⟩⟩
    (∀ c ∈ before.toList, isBlank c = true) ∧ (∀ c ∈ after.toList, isBlank c = true) ∧
      stamp.text = "2024-02-29T23:59:59.000001-05:30:15.000123" ∧
      (entered before stamp.text after).asPaidAt = .ok (.stamp stamp) := by
  intro before after stamp
  have blankBefore : ∀ c ∈ before.toList, isBlank c = true := List.all_eq_true.mp (by decide)
  have blankAfter : ∀ c ∈ after.toList, isBlank c = true := List.all_eq_true.mp (by decide)
  refine ⟨blankBefore, blankAfter, by decide,
    (paid_at_read_back blankBefore blankAfter).stamps stamp ?_⟩
  rintro ⟨offset, known, brief⟩
  cases known
  exact absurd brief (by decide)

/-- An offset of a microsecond is not read back. -/
theorem brief_offset_not_read_back :
    ¬∀ stamp : Stamp, (Entry.json (.str stamp.text)).asPaidAt = .ok (.stamp stamp) := by
  intro all
  let offset : ClockOffset := ⟨1, by decide⟩
  let stamp : Stamp := ⟨.atMidnight ⟨2024, 1, 1, by decide⟩, some offset⟩
  have read := @asPaidAt_stamp "" "" (List.forall_mem_nil _) (List.forall_mem_nil _) stamp
  rw [entered, String.empty_append, String.append_empty, all stamp] at read
  have same : some offset = some .utc :=
    congrArg Stamp.offset (Entry.stamp.inj (Except.ok.inj read))
  exact absurd same (by decide)

end Payments
end Tuition
