/-
# Stamps are read back

A moment is written as its date, a `T` and its time, and its offset from universal time follows.
Times and offsets share one form, hours and minutes with or without seconds and microseconds,
and one reader: `readClock?_minutes` and `readClock?_seconds` say what it makes of that form
whatever follows. A stamp is read back from its text, except that an offset of less than a
second is taken for universal time.
-/

import Tuition.Proofs.DateTexts

namespace Tuition

/-- The offset is neither none nor as much as a second. -/
def ClockOffset.IsBrief (offset : ClockOffset) : Prop :=
  offset.microseconds ≠ 0 ∧ offset.microseconds.natAbs < 1000000

instance (offset : ClockOffset) : Decidable offset.IsBrief :=
  inferInstanceAs (Decidable (_ ∧ _))

/-- The offset as it is read from its text. -/
def ClockOffset.readBack (offset : ClockOffset) : ClockOffset :=
  if offset.IsBrief then .utc else offset

/-- The stamp as it is read from its text. -/
def Stamp.readBack (stamp : Stamp) : Stamp :=
  ⟨stamp.moment, stamp.offset.map ClockOffset.readBack⟩

theorem Stamp.readBack_of_not_brief {stamp : Stamp}
    (notBrief : ¬∃ offset ∈ stamp.offset, offset.IsBrief) : stamp.readBack = stamp := by
  obtain ⟨moment, offset⟩ := stamp
  cases offset with
  | none => rfl
  | some offset =>
      have kept : offset.readBack = offset := if_neg fun brief => notBrief ⟨offset, rfl, brief⟩
      rw [readBack, Option.map_some, kept]

theorem Stamp.readBack_of_brief (moment : Moment) {offset : ClockOffset}
    (brief : offset.IsBrief) :
    (Stamp.mk moment (some offset)).readBack = ⟨moment, some .utc⟩ := by
  have lost : offset.readBack = .utc := if_pos brief
  rw [readBack, Option.map_some, lost]

/-! ## Texts in columns -/

namespace Text

/-- A number in a column of two. -/
def pair (n : Nat) : List Char :=
  (padded 2 n).toList

theorem toList_pair (n : Nat) : (zeroFilled 2 (digits n)).toList = pair n := by
  rw [pair, padded_natCast]

theorem length_pair {n : Nat} (fits : n < 100) : (pair n).length = 2 :=
  length_padded (by decide) fits

end Text

open Text

/-- A fraction of a second as characters. -/
def TimeOfDay.fraction (microsecond : Nat) : List Char :=
  (fractionText microsecond).toList

namespace TimeOfDay

theorem fraction_zero : fraction 0 = [] :=
  rfl

theorem fraction_of_ne_zero {microsecond : Nat} (some : microsecond ≠ 0) :
    fraction microsecond = '.' :: (padded 6 microsecond).toList := by
  have point : ".".toList = ['.'] := rfl
  rw [fraction, fractionText, if_neg some, String.toList_append, point, padded_natCast]
  rfl

theorem toList_text (time : TimeOfDay) :
    time.text.toList = pair time.hour ++ ':' :: (pair time.minute ++
      ':' :: (pair time.second ++ fraction time.microsecond)) := by
  have colon : ":".toList = [':'] := rfl
  simp [text, colon, toList_pair, fraction]

end TimeOfDay

namespace ClockOffset

variable (offset : ClockOffset)

/-- The numbers in which an offset is written. -/
def reading : Calendar.ClockReading where
  hour := offset.microseconds.natAbs / 60000000 / 60
  minute := offset.microseconds.natAbs / 60000000 % 60
  second := offset.microseconds.natAbs % 60000000 / 1000000
  microsecond := offset.microseconds.natAbs % 60000000 % 1000000

/-- The characters of an offset behind its sign. -/
def body : List Char :=
  pair offset.reading.hour ++ ':' :: (pair offset.reading.minute ++
    if offset.microseconds.natAbs % 60000000 = 0 then []
    else ':' :: (pair offset.reading.second ++ TimeOfDay.fraction offset.reading.microsecond))

/-- The sign of an offset. -/
def sign : Char :=
  if offset.microseconds < 0 then '-' else '+'

theorem toList_text : offset.text.toList = offset.sign :: offset.body := by
  have colon : ":".toList = [':'] := rfl
  have minus : "-".toList = ['-'] := rfl
  have plus : "+".toList = ['+'] := rfl
  by_cases negative : offset.microseconds < 0 <;>
    by_cases full : offset.microseconds.natAbs % 60000000 = 0 <;>
      simp [text, sign, body, reading, hoursMinutes, TimeOfDay.fraction, colon, minus, plus,
        toList_pair, negative, full]

theorem reading_fits : offset.reading.hour < 24 ∧ offset.reading.minute < 60 ∧
    offset.reading.second < 60 ∧ offset.reading.microsecond < 1000000 := by
  have bound : offset.microseconds.natAbs < 86400000000 := by
    have := offset.valid
    unfold Calendar.microsecondsPerDay at this
    omega
  simp only [reading]
  omega

/-- The numbers make up the size of the offset. -/
theorem reading_seconds : (offset.reading.hour * 60 + offset.reading.minute) * 60 +
    offset.reading.second = offset.microseconds.natAbs / 1000000 := by
  simp only [reading]
  omega

theorem reading_microsecond :
    offset.reading.microsecond = offset.microseconds.natAbs % 1000000 := by
  simp only [reading]
  omega

theorem microseconds_readBack : offset.readBack.microseconds =
    if offset.microseconds.natAbs < 1000000 then 0 else offset.microseconds := by
  unfold readBack
  split
  · next brief =>
      rw [if_pos brief.2]
      rfl
  · next notBrief =>
      split
      · next small =>
          by_contra some
          exact notBrief ⟨some, small⟩
      · rfl

end ClockOffset

namespace Calendar

/-! ## The reader of times and offsets -/

theorem takeDigits?_pair {n : Nat} (fits : n < 100) (rest : List Char) :
    takeDigits? 2 (pair n ++ rest) = some (n, rest) :=
  takeDigits?_padded (by decide) fits rest

variable {hour minute second microsecond : Nat}

/-- Hours and minutes are read off the front. -/
theorem readClock?_minutes (hours : hour < 100) (minutes : minute < 100) (rest : List Char) :
    readClock? 3 0 5 true (pair hour ++ ':' :: (pair minute ++ rest)) {} =
      some ({ hour, minute }, decide (firstOctet rest ≠ '\x00')) := by
  have colon (rest : List Char) : firstOctet (':' :: rest) = ':' := rfl
  simp [readClock?, takeDigits?_pair hours, takeDigits?_pair minutes, colon, ClockReading.set]

/-- Hours, minutes and seconds are read off the front, with the microseconds if there are any. -/
theorem readClock?_seconds (hours : hour < 100) (minutes : minute < 100) (seconds : second < 100)
    (fits : microsecond < 10 ^ 6) (rest : List Char) (stops : (firstOctet rest).isDigit = false) :
    readClock? 3 0 (8 + (TimeOfDay.fraction microsecond).length) true
        (pair hour ++ ':' :: (pair minute ++ ':' :: (pair second ++
          (TimeOfDay.fraction microsecond ++ rest)))) {} =
      some (⟨hour, minute, second, microsecond⟩, decide (firstOctet rest ≠ '\x00')) := by
  have colon (rest : List Char) : firstOctet (':' :: rest) = ':' := rfl
  have point (rest : List Char) : firstOctet ('.' :: rest) = '.' := rfl
  by_cases none : microsecond = 0
  · simp [readClock?, takeDigits?_pair hours, takeDigits?_pair minutes,
      takeDigits?_pair seconds, colon, ClockReading.set, none, TimeOfDay.fraction_zero]
  · have whole : rest.dropWhile Char.isDigit = rest := by
      cases rest with
      | nil => rfl
      | cons c rest =>
          have notDigit : c.isDigit = false := stops
          exact List.dropWhile_cons_of_neg (by simp [notDigit])
    have length : (padded 6 microsecond).toList.length = 6 := length_padded (by decide) fits
    have taken : takeDigits? 6 ((padded 6 microsecond).toList ++ rest) =
        some (microsecond, rest) :=
      takeDigits?_padded (by decide) fits rest
    simp [readClock?, readFraction?, takeDigits?_pair hours, takeDigits?_pair minutes,
      takeDigits?_pair seconds, colon, point, ClockReading.set,
      TimeOfDay.fraction_of_ne_zero none, length, taken, whole]

/-- The numbers of an offset are read back. -/
theorem readClock?_body (offset : ClockOffset) :
    readClock? 3 0 offset.body.length true offset.body {} = some (offset.reading, false) := by
  obtain ⟨hours, minutes, seconds, microseconds⟩ := offset.reading_fits
  have hourPair := length_pair (by omega : offset.reading.hour < 100)
  have minutePair := length_pair (by omega : offset.reading.minute < 100)
  unfold ClockOffset.body
  split
  · next full =>
      have five :
          (pair offset.reading.hour ++ ':' :: (pair offset.reading.minute ++ [])).length = 5 := by
        simp [hourPair, minutePair]
      have same : offset.reading = ⟨offset.reading.hour, offset.reading.minute, 0, 0⟩ := by
        simp [ClockOffset.reading, full]
      rw [five, readClock?_minutes (by omega) (by omega), ← same]
      rfl
  · have secondPair := length_pair (by omega : offset.reading.second < 100)
    have length : (pair offset.reading.hour ++ ':' :: (pair offset.reading.minute ++ ':' ::
        (pair offset.reading.second ++ TimeOfDay.fraction offset.reading.microsecond))).length =
          8 + (TimeOfDay.fraction offset.reading.microsecond).length := by
      simp only [List.length_append, List.length_cons, hourPair, minutePair, secondPair]
      omega
    have all := readClock?_seconds (by omega : offset.reading.hour < 100)
      (by omega : offset.reading.minute < 100) (by omega : offset.reading.second < 100)
      microseconds [] rfl
    rw [List.append_nil] at all
    rw [length, all]
    rfl

/-- The offset is read from what follows its sign. -/
theorem readOffset?_body (offset : ClockOffset) :
    readOffset? (offset.sign = '-') offset.body = some offset.readBack.microseconds := by
  have total := offset.reading_seconds
  have part := offset.reading_microsecond
  have negative : offset.sign = '-' ↔ offset.microseconds < 0 := by
    unfold ClockOffset.sign
    split <;> simp_all
  have size : (((offset.reading.hour : Int) * 60 + offset.reading.minute) * 60 +
      offset.reading.second) * 1000000 + offset.reading.microsecond =
        offset.microseconds.natAbs := by
    omega
  simp only [readOffset?, readClock?_body, negative, decide_eq_true_eq,
    offset.microseconds_readBack, size]
  by_cases small : offset.microseconds.natAbs < 1000000
  · rw [if_pos (by omega), if_pos small]
  · have signed : (if offset.microseconds < 0 then -(offset.microseconds.natAbs : Int)
        else offset.microseconds.natAbs) = offset.microseconds := by
      split <;> omega
    rw [if_neg (by omega), if_neg small, signed]

/-- A sign starts an offset, and is neither a digit nor the letter that
stands for universal time. -/
theorem startsOffset_sign (offset : ClockOffset) :
    startsOffset offset.sign = true ∧ offset.sign.isDigit = false ∧ offset.sign ≠ 'Z' := by
  unfold ClockOffset.sign
  split <;> decide

/-- The characters of a time before those of its offset are counted up to the sign. -/
theorem clockLength_append {clock : List Char} (rest : List Char) (some : clock ≠ [])
    (clean : ∀ c ∈ clock, startsOffset c = false)
    (stops : rest ≠ [] → startsOffset (firstOctet rest) = true) :
    clockLength (clock ++ rest) = clock.length := by
  obtain ⟨first, others, rfl⟩ := List.exists_cons_of_ne_nil some
  obtain ⟨notFirst, notOthers⟩ := List.forall_mem_cons.mp clean
  have passed : ∀ c ∈ others, (!startsOffset c) = true :=
    fun c mem => by rw [notOthers c mem]; rfl
  have stopped : rest.takeWhile (!startsOffset ·) = [] := by
    cases rest with
    | nil => rfl
    | cons c rest =>
        have sign : startsOffset c = true := stops (List.cons_ne_nil c rest)
        exact List.takeWhile_cons_of_neg (by simp [sign])
  have head : firstOctet (first :: others ++ rest) = first := rfl
  have tail : (first :: others ++ rest).drop 1 = others ++ rest := rfl
  rw [clockLength, head, notFirst, if_neg Bool.false_ne_true, tail,
    List.takeWhile_append_of_pos passed, stopped, List.append_nil, List.length_cons, Nat.add_comm]

end Calendar

/-! ## Characters of stamps -/

/-- The character stands in the text of a stamp. -/
def Stamp.Writes (c : Char) : Prop :=
  c.isDigit = true ∨ c ∈ ['-', 'T', ':', '.', '+']

namespace TimeOfDay

theorem isDigit_or_mark_of_mem_fraction {microsecond : Nat} {c : Char}
    (mem : c ∈ fraction microsecond) : c.isDigit = true ∨ c ∈ [':', '.'] := by
  by_cases none : microsecond = 0
  · rw [none, fraction_zero] at mem
    cases mem
  · rw [fraction_of_ne_zero none, List.mem_cons] at mem
    rcases mem with rfl | digit
    · exact .inr (by decide)
    · exact .inl (isDigit_of_mem_padded digit)

theorem isDigit_or_mark_of_mem_text {time : TimeOfDay} {c : Char} (mem : c ∈ time.text.toList) :
    c.isDigit = true ∨ c ∈ [':', '.'] := by
  rw [toList_text] at mem
  simp only [List.mem_append, List.mem_cons] at mem
  rcases mem with hour | rfl | minute | rfl | second | fraction
  · exact .inl (isDigit_of_mem_padded hour)
  · exact .inr (by decide)
  · exact .inl (isDigit_of_mem_padded minute)
  · exact .inr (by decide)
  · exact .inl (isDigit_of_mem_padded second)
  · exact isDigit_or_mark_of_mem_fraction fraction

end TimeOfDay

namespace ClockOffset

theorem isDigit_or_mark_of_mem_body {offset : ClockOffset} {c : Char} (mem : c ∈ offset.body) :
    c.isDigit = true ∨ c ∈ [':', '.'] := by
  simp only [body, List.mem_append, List.mem_cons] at mem
  rcases mem with hour | rfl | minute | rest
  · exact .inl (isDigit_of_mem_padded hour)
  · exact .inr (by decide)
  · exact .inl (isDigit_of_mem_padded minute)
  · split at rest
    · cases rest
    · simp only [List.mem_cons, List.mem_append] at rest
      rcases rest with rfl | second | fraction
      · exact .inr (by decide)
      · exact .inl (isDigit_of_mem_padded second)
      · exact TimeOfDay.isDigit_or_mark_of_mem_fraction fraction

end ClockOffset

namespace Stamp

/-- The characters of an offset that may be missing. -/
def offsetChars (stamp : Stamp) : List Char :=
  ((stamp.offset.map ClockOffset.text).getD "").toList

theorem toList_text (stamp : Stamp) :
    stamp.text.toList = stamp.moment.date.text.toList ++
      'T' :: (stamp.moment.time.text.toList ++ stamp.offsetChars) := by
  have letter : "T".toList = ['T'] := rfl
  simp [text, Moment.text, letter, offsetChars]

theorem writes_of_mem_text {stamp : Stamp} {c : Char} (mem : c ∈ stamp.text.toList) :
    Writes c := by
  rw [toList_text] at mem
  simp only [List.mem_append, List.mem_cons] at mem
  have marks : [':', '.'] ⊆ ['-', 'T', ':', '.', '+'] := by decide
  rcases mem with date | rfl | time | offset
  · rcases Date.isDigit_or_dash_of_mem_text date with digit | rfl
    · exact .inl digit
    · exact .inr (by decide)
  · exact .inr (by decide)
  · exact (TimeOfDay.isDigit_or_mark_of_mem_text time).imp_right (marks ·)
  · unfold offsetChars at offset
    cases known : stamp.offset with
    | none =>
        rw [known] at offset
        cases offset
    | some clock =>
        rw [known] at offset
        simp only [Option.map_some, Option.getD_some, ClockOffset.toList_text,
          List.mem_cons] at offset
        rcases offset with sign | rest
        · refine .inr ?_
          rw [sign, ClockOffset.sign]
          split <;> decide
        · exact (ClockOffset.isDigit_or_mark_of_mem_body rest).imp_right (marks ·)

theorem Writes.bounds {c : Char} (writes : Writes c) : 0x20 < c.toNat ∧ c.toNat < 0x80 := by
  rcases writes with digit | mark
  · exact bounds_of_isDigit digit
  · have marks :
        ['-', 'T', ':', '.', '+'].all (fun c => 0x20 < c.toNat ∧ c.toNat < 0x80) := by decide
    exact of_decide_eq_true (List.all_eq_true.mp marks c mark)

end Stamp

namespace Calendar

/-! ## Reading stamps -/

/-- A text of ASCII characters is read from its characters. -/
theorem readStamp_of_ascii {text : String} (ascii : ∀ c ∈ text.toList, c.toNat < 0x80) :
    readStamp text = (readStampOctets? text.toList).getD (.error (.unreadable text)) := by
  have paired (place : Nat) :
      ((letters text)[place]?.any Letter.isUnpaired) = false := by
    rw [letters_of_ascii ascii, List.getElem?_map]
    cases text.toList[place]? <;> rfl
  have clean : withSeparator text = text := by
    have none :
        (dateLengths.find? fun place => (letters text)[place]?.any Letter.isUnpaired) = none := by
      simp only [paired]
      rfl
    unfold withSeparator
    dsimp only
    rw [none]
  rw [readStamp, clean, hasUnpaired_of_ascii ascii, octets_of_ascii ascii]
  rfl

/-- A date in columns comes before its separator. -/
theorem dateLength_text (date : Date) (tail : List Char) :
    dateLength (date.text.toList ++ 'T' :: tail) = 10 := by
  obtain ⟨year, -⟩ := date.fits
  have long : ¬(date.text.toList ++ 'T' :: tail).length ≤ 10 := by
    rw [List.length_append, List.length_cons, date.length_text]
    omega
  have columns : (date.text.toList ++ 'T' :: tail).drop 4 =
      '-' ::
        ((padded 2 date.month).toList ++ '-' :: ((padded 2 date.day).toList ++ 'T' :: tail)) := by
    rw [Date.toList_text]
    simp only [List.append_assoc, List.cons_append]
    exact List.drop_left' (length_padded (by decide) year)
  have dash : firstOctet ((date.text.toList ++ 'T' :: tail).drop 4) = '-' := by rw [columns]; rfl
  have noWeek : firstOctet ((date.text.toList ++ 'T' :: tail).drop 5) ≠ 'W' := by
    rw [← List.drop_drop (i := 1) (j := 4), columns]
    intro week
    have digit := isDigit_firstOctet_padded 2 date.month
      ('-' :: ((padded 2 date.day).toList ++ 'T' :: tail))
    rw [List.drop_one, List.tail_cons] at week
    rw [week] at digit
    exact absurd digit (by decide)
  unfold dateLength
  dsimp only
  rw [if_neg (by omega), if_pos dash, if_neg noWeek]

/-- What follows a date and a separator is read as a time. -/
theorem readStampOctets?_date (date : Date) {tail : List Char} :
    readStampOctets? (date.text.toList ++ 'T' :: tail) =
      (readTimePart? tail).map fun read => assemble (.ok date) read.1 read.2 := by
  have length := date.length_text
  have behind : (date.text.toList ++ 'T' :: tail).drop 10 = 'T' :: tail := List.drop_left' length
  have long : ¬(date.text.toList ++ 'T' :: tail).length ≤ 10 := by
    rw [List.length_append, List.length_cons, length]
    omega
  have separator : separatorLength (firstOctet ('T' :: tail)) = 1 := rfl
  unfold readStampOctets?
  rw [if_neg (by omega)]
  simp only [dateLength_text, readDatePart?_append, Option.bind_eq_bind, Option.bind_some,
    if_neg long, behind, separator, List.drop_one, List.tail_cons]
  cases readTimePart? tail <;> rfl

/-- The numbers of a time of day. -/
def ClockReading.ofTime (time : TimeOfDay) : ClockReading :=
  ⟨time.hour, time.minute, time.second, time.microsecond⟩

/-- A time is read up to what starts its offset. -/
theorem readClock?_time (time : TimeOfDay) (rest : List Char)
    (stops : (firstOctet rest).isDigit = false) :
    readClock? 3 0 time.text.toList.length true (time.text.toList ++ rest) {} =
      some (.ofTime time, decide (firstOctet rest ≠ '\x00')) := by
  obtain ⟨hours, minutes, seconds, microseconds⟩ := time.valid
  have length : time.text.toList.length = 8 + (TimeOfDay.fraction time.microsecond).length := by
    simp only [TimeOfDay.toList_text, List.length_append, List.length_cons,
      length_pair (by omega : time.hour < 100), length_pair (by omega : time.minute < 100),
      length_pair (by omega : time.second < 100)]
    omega
  rw [length, TimeOfDay.toList_text]
  simp only [List.append_assoc, List.cons_append]
  exact readClock?_seconds (by omega) (by omega) (by omega) microseconds rest stops

theorem startsOffset_eq_false_of_mem_text {time : TimeOfDay} {c : Char}
    (mem : c ∈ time.text.toList) : startsOffset c = false := by
  rcases TimeOfDay.isDigit_or_mark_of_mem_text mem with digit | mark
  · simp only [startsOffset, Bool.or_eq_false_iff, beq_eq_false_iff_ne]
    refine ⟨⟨?_, ?_⟩, ?_⟩ <;> rintro rfl <;> exact absurd digit (by decide)
  · have marks : [':', '.'].all (!startsOffset ·) := by decide
    exact (Bool.not_eq_true' _).mp (List.all_eq_true.mp marks c mark)

/-- A time is read with the offset behind it, if there is one. -/
theorem readTimePart?_text (stamp : Stamp) :
    readTimePart? (stamp.moment.time.text.toList ++ stamp.offsetChars) =
      some (.ofTime stamp.moment.time, stamp.readBack.offset.map ClockOffset.microseconds) := by
  have some : stamp.moment.time.text.toList ≠ [] := by
    rw [TimeOfDay.toList_text]
    exact List.append_ne_nil_of_right_ne_nil _ (List.cons_ne_nil _ _)
  have clean : ∀ c ∈ stamp.moment.time.text.toList, startsOffset c = false := fun _ =>
    startsOffset_eq_false_of_mem_text
  unfold Stamp.offsetChars Stamp.readBack
  cases stamp.offset with
  | none =>
      have length := clockLength_append [] some clean fun none => absurd rfl none
      have read := readClock?_time stamp.moment.time [] rfl
      have nothing : ("" : String).toList = [] := rfl
      simp only [Option.map_none, Option.getD_none, nothing, List.append_nil] at length read ⊢
      simp only [readTimePart?, length, read, Option.bind_eq_bind, Option.bind_some,
        List.drop_length]
      rfl
  | some offset =>
      obtain ⟨starts, stops, notZulu⟩ := startsOffset_sign offset
      have length := clockLength_append (offset.sign :: offset.body) some clean fun _ => starts
      have read := readClock?_time stamp.moment.time (offset.sign :: offset.body) stops
      simp only [Option.map_some, Option.getD_some, ClockOffset.toList_text]
      simp only [readTimePart?, length, read, Option.bind_eq_bind, Option.bind_some,
        List.drop_left]
      rw [readOffset?_body]
      rfl

/-- The parts of a stamp that was read make it up. -/
theorem assemble_eq (moment : Moment) (offset : Option ClockOffset) :
    assemble (.ok moment.date) (.ofTime moment.time) (offset.map ClockOffset.microseconds) =
      .ok ⟨moment, offset⟩ := by
  obtain ⟨date, hour, minute, second, microsecond, valid⟩ := moment
  have time : TimeOfDay.make hour minute second microsecond =
      .ok ⟨hour, minute, second, microsecond, valid⟩ := by
    have bounds : hour < 24 ∧ minute < 60 ∧ second < 60 := ⟨valid.1, valid.2.1, valid.2.2.1⟩
    have within : microsecond % 1000000 = microsecond := Nat.mod_eq_of_lt valid.2.2.2
    simp only [TimeOfDay.make, dif_pos bounds, within]
  cases offset with
  | none =>
      simp only [assemble, ClockReading.ofTime, time]
      rfl
  | some clock =>
      have made : ClockOffset.make clock.microseconds = .ok clock := dif_pos clock.valid
      simp only [assemble, ClockReading.ofTime, time, Option.map_some, Option.mapM_some, made]
      rfl

/-- A stamp is read back from its text, but for an offset of less than a second. -/
theorem readStamp_text (stamp : Stamp) : readStamp stamp.text = .ok stamp.readBack := by
  have ascii : ∀ c ∈ stamp.text.toList, c.toNat < 0x80 := fun _ mem =>
    (Stamp.writes_of_mem_text mem).bounds.2
  rw [readStamp_of_ascii ascii, Stamp.toList_text, readStampOctets?_date, readTimePart?_text,
    Option.map_some, Option.getD_some]
  exact assemble_eq stamp.moment stamp.readBack.offset

end Calendar
end Tuition
