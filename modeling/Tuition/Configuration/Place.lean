/-
# Places in a text of lines

A place is what is left of a text, with the number of the line and of the column that come next.
Between two tokens stand spaces, comments and line ends. A marker of three characters at the start
of a line stands between documents.
-/

namespace Tuition.Configuration

/-- Whether a character ends a line. -/
def isLineEnd (c : Char) : Bool :=
  c == '\n' || c == '\u0085' || c == '\u2028' || c == '\u2029'

/-- Whether a character is a space within a line. -/
def isSpace (c : Char) : Bool :=
  c == ' ' || c == '\t'

/-- Whether a text is over or goes on with a space or a line end. -/
def startsBlank (text : List Char) : Bool :=
  (text.head?.map fun c => isSpace c || isLineEnd c).getD true

/-- The marker before a document. -/
def startMark : List Char := ['-', '-', '-']

/-- The marker behind a document. -/
def endMark : List Char := ['.', '.', '.']

/-- Whether a marker stands at the front of a text. -/
def startsMark (mark text : List Char) : Bool :=
  mark.isPrefixOf text && startsBlank (text.drop mark.length)

/-- Whether either marker stands at the front of a text. -/
def startsAnyMark (text : List Char) : Bool :=
  startsMark startMark text || startsMark endMark text

/-- Whether the dash of an item stands at the front of a text. -/
def startsItem (text : List Char) : Bool :=
  match text with
  | '-' :: rest => startsBlank rest
  | _ => false

/-- Whether a colon that ends a name stands at the front of a text. -/
def startsValue (text : List Char) : Bool :=
  match text with
  | ':' :: rest => startsBlank rest
  | _ => false

/-- A place in a text. A byte order mark takes up no column. -/
structure Place where
  rest : List Char
  line : Nat := 0
  column : Nat := 0
  deriving DecidableEq, Repr

namespace Place

/-- Move over some characters. -/
def skip (count : Nat) (place : Place) : Place :=
  match count, place.rest with
  | 0, _ => place
  | _, [] => place
  | count + 1, c :: rest =>
    if isLineEnd c then skip count ⟨rest, place.line + 1, 0⟩
    else skip count ⟨rest, place.line, if c = '\uFEFF' then place.column else place.column + 1⟩

/-- How many characters at the front of a text say nothing: spaces, line ends and comments. -/
def idleLength (inComment : Bool) : List Char → Nat
  | [] => 0
  | c :: rest =>
    if isLineEnd c then 1 + idleLength false rest
    else if inComment || c == '#' then 1 + idleLength true rest
    else if c = ' ' then 1 + idleLength false rest
    else 0

/-- The place of the next token. -/
def next (place : Place) : Place :=
  place.skip (idleLength false place.rest)

/-- Move over the spaces at a place. -/
def skipSpaces (place : Place) : Place :=
  place.skip (place.rest.takeWhile (· = ' ')).length

/-- Whether the document is over at a place. -/
def isEnd (place : Place) : Bool :=
  place.rest.isEmpty || (place.column == 0 && startsAnyMark place.rest)

end Place

/-! ## Blanks inside a scalar -/

/-- The line ends at the front of a text, with the number of characters that they and the spaces
between them take; nothing when a marker stands among them. -/
def lineEnds? (isGap : Char → Bool) (atStart : Bool) : List Char → Option (List Char × Nat)
  | [] => some ([], 0)
  | c :: rest =>
    if atStart && startsAnyMark (c :: rest) then none
    else if isLineEnd c then
      (lineEnds? isGap true rest).map fun found =>
        ((if c = '\u0085' then '\n' else c) :: found.1, found.2 + 1)
    else if isGap c then (lineEnds? isGap false rest).map fun found => (found.1, found.2 + 1)
    else some ([], 0)

/-- What line ends inside a scalar stand for: the first alone for a space, and the first before
others for nothing, unless it separates lines or paragraphs. -/
def folded : List Char → List Char
  | [] => []
  | '\n' :: [] => [' ']
  | '\n' :: others => others
  | ends => ends

/-- What the blanks at the front of a text stand for inside a scalar, and how many characters they
take. Spaces before a line end and after it stand for nothing. -/
def gap? (isGap : Char → Bool) (text : List Char) : Option (List Char × Nat) :=
  let spaces := text.takeWhile isGap
  let behind := text.drop spaces.length
  if (behind.head?.map isLineEnd).getD false then
    (lineEnds? isGap false behind).map fun found => (folded found.1, spaces.length + found.2)
  else some (spaces, spaces.length)

end Tuition.Configuration
