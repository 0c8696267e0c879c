/-
# Reading JSON

The reader accepts RFC 8259 and the three words `NaN`, `Infinity` and `-Infinity`. A
malformed text is refused with the number of letters before the place where reading had to
stop. A whole number of more than 4300 digits is refused as too long, and so are values that
stand too deep in others.
-/

import Tuition.Json.Basic
import Tuition.Text.Digit
import Tuition.Text.Letter
import Tuition.Text.WholeNumber

namespace Tuition.Json

open Tuition.Text (Letter)

/-- Why a text is not read. -/
inductive ReadError where
  | malformed (position : Nat)
  | numberTooLong
  | tooDeep
  deriving DecidableEq, Repr

/-- A place in a text: the letters before it, counted, and the letters from it on. -/
structure Cursor where
  position : Nat
  rest : List Letter

namespace Cursor

/-- Move over some letters. -/
def skip (cursor : Cursor) (count : Nat) : Cursor :=
  ⟨cursor.position + count, cursor.rest.drop count⟩

/-- The character at a place, if there is one. -/
def next? (cursor : Cursor) : Option Char :=
  match cursor.rest with
  | .char c :: _ => some c
  | _ => none

/-- The characters of a class that stand at the front of letters. -/
def leading (belongs : Char → Bool) : List Letter → List Char
  | .char c :: rest => if belongs c then c :: leading belongs rest else []
  | _ => []

/-- Whether a character may stand between two tokens. -/
def isSpace (c : Char) : Bool :=
  c == ' ' || c == '\t' || c == '\n' || c == '\r'

/-- Move over the space before the next token. -/
def skipSpace (cursor : Cursor) : Cursor :=
  cursor.skip (leading isSpace cursor.rest).length

/-- Refuse the text at this place. -/
def refuse {α : Type} (cursor : Cursor) : Except ReadError α :=
  .error (.malformed cursor.position)

end Cursor

/-- How many arrays and objects may stand in each other. -/
def depthLimit : Nat := 9900

/-- The value of a hexadecimal digit. -/
def hexDigit? (c : Char) : Option Nat :=
  if '0' ≤ c ∧ c ≤ '9' then some (c.toNat - 48)
  else if 'a' ≤ c ∧ c ≤ 'f' then some (c.toNat - 87)
  else if 'A' ≤ c ∧ c ≤ 'F' then some (c.toNat - 55)
  else none

/-- The number that four hexadecimal digits at the front of a text spell. -/
def fourHex? (text : List Letter) : Option Nat := do
  let digits ← (Cursor.leading (fun _ => true) (text.take 4)).mapM hexDigit?
  if digits.length = 4 then return digits.foldl (fun value digit => 16 * value + digit) 0
  else none

/-- The character of an escape of one letter. -/
def shortEscape? : Char → Option Char
  | '"' => some '"'
  | '\\' => some '\\'
  | '/' => some '/'
  | 'b' => some '\x08'
  | 'f' => some '\x0c'
  | 'n' => some '\n'
  | 'r' => some '\r'
  | 't' => some '\t'
  | _ => none

/-- Read an escape from behind its `u` on: the letter, and how many letters its digits take. A
pair of escapes is one letter, unless nothing follows it. -/
def readEscapedCode (cursor : Cursor) : Except ReadError (Letter × Nat) :=
  match if (cursor.rest.take 5).length = 5 then fourHex? cursor.rest else none with
  | none => .error (.malformed (cursor.position - 1))
  | some high =>
    let tail := cursor.rest.drop 4
    if Text.isLeadingSurrogate high ∧ (tail.take 7).length = 7 ∧
        tail.take 2 = [.char '\\', .char 'u'] then
      match fourHex? (tail.drop 2) with
      | none => .error (.malformed (cursor.position + 5))
      | some low =>
        if Text.isTrailingSurrogate low then .ok (.ofCode (Text.codeOfPair high low), 10)
        else .ok (.ofCode high, 4)
    else .ok (.ofCode high, 4)

/-- Read an escape from behind its backslash on: the letter, and how many letters it takes.
`opening` is the place of the opening quote. -/
def readEscape (opening : Nat) (cursor : Cursor) : Except ReadError (Letter × Nat) :=
  match cursor.rest with
  | [] => .error (.malformed opening)
  | .char 'u' :: _ => do
    let (letter, length) ← readEscapedCode (cursor.skip 1)
    return (letter, length + 1)
  | .char c :: _ =>
    match shortEscape? c with
    | some meant => .ok (.char meant, 1)
    | none => .error (.malformed (cursor.position - 1))
  | .unpaired _ :: _ => .error (.malformed (cursor.position - 1))

/-- Read a text up to its closing quote, after passing over some letters. `opening` is the
place of the opening quote, `position` that of the next letter, and `read` holds the
letters so far, last first. -/
def readString (opening position passed : Nat) (read : List Letter) :
    List Letter → Except ReadError (String × Cursor)
  | [] => .error (.malformed opening)
  | letter :: rest =>
    match passed with
    | passed + 1 => readString opening (position + 1) passed read rest
    | 0 =>
      if letter = .char '"' then .ok (Text.ofLetters read.reverse, ⟨position + 1, rest⟩)
      else if letter = .char '\\' then
        match readEscape opening ⟨position + 1, rest⟩ with
        | .error fault => .error fault
        | .ok (meant, length) => readString opening (position + 1) length (meant :: read) rest
      else if letter.code ≤ 0x1F then .error (.malformed position)
      else readString opening (position + 1) 0 (letter :: read) rest

/-- The length of the exponent of a number, or zero if there is none. -/
def exponentLength (text : List Char) : Nat :=
  match text with
  | letter :: tail =>
    if letter = 'e' ∨ letter = 'E' then
      let sign := match tail with
        | '+' :: _ => 1
        | '-' :: _ => 1
        | _ => 0
      let count := ((tail.drop sign).takeWhile Char.isDigit).length
      if count = 0 then 0 else 1 + sign + count
    else 0
  | [] => 0

/-- The length of the fraction of a number with its point, or zero if there is none. -/
def fractionLength (text : List Char) : Nat :=
  match text with
  | '.' :: tail =>
    let count := (tail.takeWhile Char.isDigit).length
    if count = 0 then 0 else 1 + count
  | _ => 0

/-- The digits before the point: a zero alone, or digits that do not start with one. -/
def wholePart (text : List Char) : List Char :=
  match text with
  | '0' :: _ => ['0']
  | _ => text.takeWhile Char.isDigit

/-- The power of ten that an exponent stands for. -/
def exponentValue (text : List Char) : Int :=
  match text.drop 1 with
  | '-' :: digits => -((Text.asciiNumeral? digits).getD 0 : Int)
  | '+' :: digits => (Text.asciiNumeral? digits).getD 0
  | digits => (Text.asciiNumeral? digits).getD 0

/-- Whether a character can belong to a number. -/
def isNumeric (c : Char) : Bool :=
  c.isDigit || c == '-' || c == '+' || c == '.' || c == 'e' || c == 'E'

/-- Read a number. -/
def readNumber (cursor : Cursor) : Except ReadError (Json × Cursor) :=
  let text := Cursor.leading isNumeric cursor.rest
  let negative := text.head? = some '-'
  let unsigned := if negative then text.drop 1 else text
  let whole := wholePart unsigned
  if whole.isEmpty then cursor.refuse
  else
    let afterWhole := unsigned.drop whole.length
    let fraction := afterWhole.take (fractionLength afterWhole)
    let afterFraction := afterWhole.drop fraction.length
    let exponent := afterFraction.take (exponentLength afterFraction)
    let length := (if negative then 1 else 0) + whole.length + fraction.length + exponent.length
    if fraction.isEmpty ∧ exponent.isEmpty then
      if Text.wholeDigitLimit < whole.length then .error .numberTooLong
      else
        let size := (Text.asciiNumeral? whole).getD 0
        .ok (.int (if negative then -(size : Int) else size), cursor.skip length)
    else
      let decimals := fraction.drop 1
      let coefficient := (Text.asciiNumeral? (whole ++ decimals)).getD 0
      let power := exponentValue exponent - decimals.length
      .ok (.real (Binary64.ofDecimal negative coefficient power), cursor.skip length)

/-- The words that stand for a value. -/
def words : List (List Char × Json) :=
  [("null".toList, .null), ("true".toList, .bool true), ("false".toList, .bool false),
   ("NaN".toList, .real .nan), ("Infinity".toList, .real (.infinite false)),
   ("-Infinity".toList, .real (.infinite true))]

/-- Read a word, or else a number. -/
def readAtom (cursor : Cursor) : Except ReadError (Json × Cursor) :=
  match words.find? fun word => (word.1.map Letter.char).isPrefixOf cursor.rest with
  | some word => .ok (word.2, cursor.skip word.1.length)
  | none => readNumber cursor

mutual

/-- Read one value, in which `depth` arrays and objects may stand in each other. Each step into
the text takes a letter, so its length bounds the steps. -/
def readValue (fuel depth : Nat) (cursor : Cursor) : Except ReadError (Json × Cursor) :=
  match fuel with
  | 0 => cursor.refuse
  | fuel + 1 =>
    match cursor.next? with
    | some '"' =>
      match readString cursor.position (cursor.position + 1) 0 [] (cursor.rest.drop 1) with
      | .ok (text, next) => .ok (.str text, next)
      | .error fault => .error fault
    | some '\x7b' =>
      let inside := (cursor.skip 1).skipSpace
      if depth = 0 then .error .tooDeep
      else if inside.next? = some '\x7d' then .ok (.obj [], inside.skip 1)
      else readMembers fuel (depth - 1) [] inside
    | some '[' =>
      let inside := (cursor.skip 1).skipSpace
      if depth = 0 then .error .tooDeep
      else if inside.next? = some ']' then .ok (.arr [], inside.skip 1)
      else readItems fuel (depth - 1) [] inside
    | _ => readAtom cursor

/-- Read the members of an object from a name on, up to the closing brace. -/
def readMembers (fuel depth : Nat) (read : List (String × Json)) (cursor : Cursor) :
    Except ReadError (Json × Cursor) :=
  match fuel with
  | 0 => cursor.refuse
  | fuel + 1 => do
    if cursor.next? ≠ some '"' then cursor.refuse
    let (name, named) ← readString cursor.position (cursor.position + 1) 0 [] (cursor.rest.drop 1)
    let colon := named.skipSpace
    if colon.next? ≠ some ':' then colon.refuse
    let (value, behind) ← readValue fuel depth (colon.skip 1).skipSpace
    let members := put read name value
    let next := behind.skipSpace
    match next.next? with
    | some '\x7d' => return (.obj members, next.skip 1)
    | some ',' => readMembers fuel depth members (next.skip 1).skipSpace
    | _ => next.refuse

/-- Read the items of an array from a value on, up to the closing bracket. `read` holds the
items so far, last first. -/
def readItems (fuel depth : Nat) (read : List Json) (cursor : Cursor) :
    Except ReadError (Json × Cursor) :=
  match fuel with
  | 0 => cursor.refuse
  | fuel + 1 => do
    let (value, behind) ← readValue fuel depth cursor
    let next := behind.skipSpace
    match next.next? with
    | some ']' => return (.arr (value :: read).reverse, next.skip 1)
    | some ',' => readItems fuel depth (value :: read) (next.skip 1).skipSpace
    | _ => next.refuse

end

/-- Read letters that hold exactly one value. -/
def readLetters (text : List Letter) : Except ReadError Json := do
  let (value, behind) ← readValue (2 * text.length + 2) depthLimit (Cursor.mk 0 text).skipSpace
  let stop := behind.skipSpace
  if stop.rest.isEmpty then return value else stop.refuse

/-- Read a text of characters that holds exactly one value. -/
def read (text : String) : Except ReadError Json :=
  readLetters (text.toList.map .char)

end Tuition.Json
