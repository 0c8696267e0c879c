/-
# Letters

A text from outside is a list of letters: characters, and surrogates without their partner, which
are no characters. A text of characters keeps such letters behind a mark, and the mark itself is
written twice, so every list of letters is kept and can be had back: `letters_ofLetters`.
-/

namespace Tuition.Text

/-- Whether a code is the one of a surrogate. -/
def isSurrogate (code : Nat) : Bool :=
  0xD800 ≤ code && code ≤ 0xDFFF

/-- Whether a code is the one of a surrogate that comes first in its pair. -/
def isLeadingSurrogate (code : Nat) : Bool :=
  0xD800 ≤ code && code ≤ 0xDBFF

/-- Whether a code is the one of a surrogate that comes last in its pair. -/
def isTrailingSurrogate (code : Nat) : Bool :=
  0xDC00 ≤ code && code ≤ 0xDFFF

/-- The code that a pair of surrogates stands for. -/
def codeOfPair (first last : Nat) : Nat :=
  0x10000 + (first - 0xD800) * 0x400 + (last - 0xDC00)

/-- A letter of a text: a character, or a surrogate without its partner, counted from the first
surrogate on. -/
inductive Letter where
  | char (c : Char)
  | unpaired (index : Fin 0x800)
  deriving DecidableEq, Repr

/-- The mark behind which letters are kept that need it. -/
def mark : Char := Char.ofNat 0x10FFFF

/-- The code of the character that keeps the first surrogate behind a mark. -/
def keptBase : Nat := 0x10D800

namespace Letter

/-- The letter with a code. -/
def ofCode (code : Nat) : Letter :=
  if isSurrogate code then .unpaired (Fin.ofNat 0x800 (code - 0xD800))
  else .char (Char.ofNat code)

/-- The code of a letter. -/
def code : Letter → Nat
  | .char c => c.toNat
  | .unpaired index => 0xD800 + index

/-- Whether a letter is a surrogate without its partner. -/
def isUnpaired : Letter → Bool
  | .char _ => false
  | .unpaired _ => true

/-- The characters that keep a letter. -/
def kept : Letter → List Char
  | .char c => if c = mark then [mark, mark] else [c]
  | .unpaired index => [mark, Char.ofNat (keptBase + index)]

/-- The letter that a character behind a mark keeps. -/
def ofKept (c : Char) : Letter :=
  if c = mark then .char mark else .unpaired (Fin.ofNat 0x800 (c.toNat - keptBase))

end Letter

/-- The letters that characters keep. -/
def lettersOf : List Char → List Letter
  | [] => []
  | [c] => [.char c]
  | c :: next :: rest =>
    if c = mark then .ofKept next :: lettersOf rest else .char c :: lettersOf (next :: rest)

/-- The letters of a text. -/
def letters (text : String) : List Letter :=
  lettersOf text.toList

/-- The text that keeps letters. -/
def ofLetters (letters : List Letter) : String :=
  String.ofList (letters.flatMap Letter.kept)

/-- How many letters a text has. -/
def size (text : String) : Nat :=
  (letters text).length

/-- Whether a text holds a surrogate without its partner. -/
def hasUnpaired (text : String) : Bool :=
  (letters text).any Letter.isUnpaired

/-- The first surrogates without partners that follow each other in a text: their place in it and
their codes. -/
def unpairedRun? (text : String) : Option (Nat × List Nat) :=
  let before := (letters text).takeWhile (!Letter.isUnpaired ·)
  match ((letters text).drop before.length).takeWhile Letter.isUnpaired with
  | [] => none
  | run => some (before.length, run.map Letter.code)

theorem ofKept_keptBase (index : Fin 0x800) :
    Letter.ofKept (Char.ofNat (keptBase + index)) = .unpaired index := by
  revert index
  decide +kernel

theorem lettersOf_kept (letter : Letter) (rest : List Char) :
    lettersOf (letter.kept ++ rest) = letter :: lettersOf rest := by
  cases letter with
  | char c =>
    by_cases marked : c = mark
    · simp [Letter.kept, lettersOf, Letter.ofKept, marked]
    · cases rest <;> simp [Letter.kept, lettersOf, marked]
  | unpaired index => simp [Letter.kept, lettersOf, ofKept_keptBase]

/-- What a text keeps can be had back. -/
theorem letters_ofLetters (kept : List Letter) : letters (ofLetters kept) = kept := by
  simp only [letters, ofLetters, String.toList_ofList]
  induction kept with
  | nil => rfl
  | cons letter rest ih => rw [List.flatMap_cons, lettersOf_kept, ih]

end Tuition.Text
