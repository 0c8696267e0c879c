/-
# How scalars are written

A scalar without quotes ends at a colon before a blank, at a comment, at the end of its indented
lines, and between brackets at the marks of a list too. In single quotes two quotes stand for one;
in double quotes a backslash starts an escape. Scalars can go on on further lines, which are
joined by spaces; an empty line between them stands for itself.
-/

import Tuition.Configuration.Place
import Tuition.Json.Reader
import Tuition.Text.Letter

namespace Tuition.Configuration

/-! ## Without quotes -/

/-- Whether a character has a meaning of its own between brackets. -/
def isFlowMark (c : Char) : Bool :=
  c == ',' || c == '?' || c == '[' || c == ']' || c == '\x7b' || c == '\x7d'

/-- Whether a scalar ends before a colon that is followed by a text. -/
def endsAtColon (inFlow : Bool) (behind : List Char) : Bool :=
  startsBlank behind ||
    (inFlow && (behind.head?.map fun c => c != '?' && isFlowMark c).getD false)

/-- The characters of a scalar without quotes up to the next blank. -/
def plainRun (inFlow : Bool) : List Char → List Char
  | [] => []
  | c :: rest =>
    if isSpace c || isLineEnd c || (c == ':' && endsAtColon inFlow rest) ||
        (inFlow && isFlowMark c) then []
    else c :: plainRun inFlow rest

/-- Read a scalar without quotes whose lines stand at a column or behind it: the text, and the
place behind it. Each step takes a character, so the length of the text bounds the steps. -/
def plainText (fuel : Nat) (inFlow : Bool) (column : Nat) (place : Place) : List Char × Place :=
  let run := if place.rest.head? = some '#' then [] else plainRun inFlow place.rest
  let after := place.skip run.length
  match fuel, run.isEmpty, gap? (· = ' ') after.rest with
  | fuel + 1, false, some (between, length) =>
    let next := after.skip length
    if between.isEmpty || (!inFlow && next.column < column) then (run, after)
    else
      match plainText fuel inFlow column next with
      | ([], _) => (run, after)
      | (more, stop) => (run ++ between ++ more, stop)
  | _, _, _ => (run, after)

/-- Whether a scalar without quotes can start with a text. -/
def startsPlain (inFlow : Bool) (text : List Char) : Bool :=
  match text with
  | [] => false
  | c :: rest =>
    if "-?:".toList.contains c then !startsBlank rest && (c == '-' || !inFlow)
    else !isSpace c && !isLineEnd c && !",[]\x7b\x7d#&*!|>'\"%@\x60".toList.contains c

/-! ## In quotes -/

/-- The character of an escape of one letter. -/
def shortEscape? : Char → Option Char
  | '0' => some '\x00'
  | 'a' => some '\x07'
  | 'b' => some '\x08'
  | 't' => some '\t'
  | '\t' => some '\t'
  | 'n' => some '\n'
  | 'v' => some '\x0b'
  | 'f' => some '\x0c'
  | 'r' => some '\r'
  | 'e' => some '\x1b'
  | ' ' => some ' '
  | '"' => some '"'
  | '/' => some '/'
  | '\\' => some '\\'
  | 'N' => some '\u0085'
  | '_' => some '\u00a0'
  | 'L' => some '\u2028'
  | 'P' => some '\u2029'
  | _ => none

/-- How many hexadecimal digits follow the letter of an escape by code. -/
def codeLength? : Char → Option Nat
  | 'x' => some 2
  | 'u' => some 4
  | 'U' => some 8
  | _ => none

/-- What the escape behind a backslash stands for, and how many characters it takes. An escaped
line end stands for nothing, and so do the spaces behind it. -/
def escape? : List Char → Option (List Char × Nat)
  | [] => none
  | letter :: rest =>
    if isLineEnd letter then
      (lineEnds? isSpace true rest).map fun found => (found.1, found.2 + 1)
    else
      match codeLength? letter with
      | none => (shortEscape? letter).map fun c => ([c], 1)
      | some length => do
        let digits ← (rest.take length).mapM Json.hexDigit?
        let code := digits.foldl (fun value digit => 16 * value + digit) 0
        if digits.length = length ∧ code < 0x110000 then
          return ((Text.Letter.ofCode code).kept, length + 1)
        else none

/-- Read a text in quotes from behind the first one, after passing over some characters: the text,
and how many characters it takes with its last quote. -/
def quotedText? (quote : Char) (passed : Nat) : List Char → Option (List Char × Nat)
  | [] => none
  | c :: rest =>
    let goOn (meant : List Char) (length : Nat) : Option (List Char × Nat) :=
      (quotedText? quote length rest).map fun found => (meant ++ found.1, found.2 + 1)
    match passed with
    | passed + 1 => goOn [] passed
    | 0 =>
      if c = quote then
        if quote = '\'' ∧ rest.head? = some '\'' then goOn ['\''] 1 else some ([], 1)
      else if c = '\\' ∧ quote = '"' then
        (escape? rest).bind fun escape => goOn escape.1 escape.2
      else if isSpace c || isLineEnd c then
        (gap? isSpace (c :: rest)).bind fun gap => goOn gap.1 (gap.2 - 1)
      else goOn [c] 0

/-- Read a text in quotes of either kind, if one stands at a place: the text, and the place behind
it. -/
def quoted? (place : Place) : Option (List Char × Place) :=
  match place.rest with
  | c :: rest =>
    if c = '"' ∨ c = '\'' then
      (quotedText? c 0 rest).map fun found => (found.1, place.skip (found.2 + 1))
    else none
  | [] => none

/-! ## As a block of lines -/

/-- How a block of lines is read: whether its lines are joined, what becomes of the line ends
behind it (`none` keeps one of them), and how far its lines are indented beyond what they have to
be, if that is given. -/
structure BlockStyle where
  joins : Bool
  keepsEnds : Option Bool := none
  indentation : Option Nat := none
  deriving DecidableEq, Repr

/-- Read the marks behind the first one of a block. -/
def BlockStyle.read? (style : BlockStyle) : List Char → Option BlockStyle
  | [] => some style
  | c :: rest =>
    if (c = '+' ∨ c = '-') ∧ style.keepsEnds.isNone then
      { style with keepsEnds := some (c = '+') }.read? rest
    else if '1' ≤ c ∧ c ≤ '9' ∧ style.indentation.isNone then
      { style with indentation := some (c.toNat - 48) }.read? rest
    else none

/-- The line ends at a place, before each of which spaces are passed over up to a column, and
the place behind them. -/
def emptyLines (fuel column : Nat) (place : Place) : List Char × Place :=
  let inside := place.skip (min (column - place.column) (place.rest.takeWhile (· = ' ')).length)
  match fuel, inside.rest with
  | fuel + 1, c :: _ =>
    if isLineEnd c then
      let found := emptyLines fuel column (inside.skip 1)
      ((if c = '\u0085' then '\n' else c) :: found.1, found.2)
    else ([], inside)
  | _, _ => ([], inside)

/-- The greatest column that spaces reach before the first character that is neither a
space nor a line end. -/
def deepestColumn (column : Nat) : List Char → Nat
  | [] => column
  | c :: rest =>
    if c = ' ' then deepestColumn (column + 1) rest
    else if isLineEnd c then max column (deepestColumn 0 rest)
    else column

/-- The lines of a block that stand at a column, from a place on, behind the line ends before
them: the text without the line ends behind it, those line ends, and the place behind them. -/
def blockLines (fuel : Nat) (joins : Bool) (column : Nat) (place : Place) :
    List Char × List Char × Place :=
  match fuel, place.column == column && !place.rest.isEmpty with
  | fuel + 1, true =>
    let line := place.rest.takeWhile (!isLineEnd ·)
    let behind := place.skip line.length
    let first := behind.rest.take 1
    let (others, next) := emptyLines fuel column (behind.skip 1)
    let ends := first.map (fun c => if c = '\u0085' then '\n' else c) ++ others
    match blockLines fuel joins column next with
    | ([], _, _) => (line, ends, next)
    | (more, last, stop) =>
      let flush (text : List Char) : Bool := !(text.head?.map isSpace).getD false
      let between := if joins && flush line && flush more then folded ends else ends
      (line ++ between ++ more, last, stop)
  | _, _ => ([], [], place)

/-- Read a block of lines that is indented beyond a column: the text, and the place behind it. The
marks of the block stand at the place. -/
def block? (least : Nat) (place : Place) : Option (List Char × Place) := do
  let joins := place.rest.head? = some '>'
  let marks := (place.rest.drop 1).takeWhile fun c => !isLineEnd c && c != ' '
  let style ← BlockStyle.read? { joins } marks
  let header := (place.skip (1 + marks.length)).skipSpaces
  let comment := header.rest.takeWhile fun c => !isLineEnd c
  if comment.head?.any (· ≠ '#') then none
  let start := header.skip (comment.length + 1)
  let column := match style.indentation with
    | some more => least + more - 1
    | none => max least (deepestColumn 0 start.rest)
  let fuel := start.rest.length + 1
  let (before, first) := emptyLines fuel column start
  let (text, ends, stop) := blockLines fuel joins column first
  let behind (ends : List Char) : List Char := if style.keepsEnds = some true then ends else []
  if text.isEmpty then return (behind before, stop)
  else if style.keepsEnds.isNone then return (before ++ text ++ ends.take 1, stop)
  else return (before ++ text ++ behind ends, stop)

end Tuition.Configuration
