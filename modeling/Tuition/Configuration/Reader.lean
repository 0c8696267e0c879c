/-
# Reading the configuration

A configuration names values, each on a line of its own. A value is a scalar, a list or a group of
further names; lists and groups are written between brackets, or in lines that stand at one
column, each item after a dash. The only document of a text can stand between two markers. What is
written in another way, such as with tags or references, is refused.
-/

import Tuition.Configuration.Scalar
import Tuition.Configuration.Wording

namespace Tuition.Configuration

/-- What is read, and the place behind it. -/
abbrev Reading := Except ReadFault (Json × Place)

/-- The name that a value stands for in a group. Lists and groups are no names. -/
def nameOf : Json → Except ReadFault String
  | .str text => .ok text
  | .null => .ok "null"
  | .bool value => .ok (if value then "true" else "false")
  | .int n => .ok (Text.integer n)
  | .real value => .ok value.text
  | _ => .error .malformed

/-- A member of a group that has one name. -/
def single (name value : Json) : Except ReadFault Json := do
  return .obj [(← nameOf name, value)]

/-- Read a scalar in quotes or without, whose further lines stand at a column or behind it. -/
def scalar (inFlow : Bool) (column : Nat) (place : Place) : Reading :=
  match quoted? place with
  | some (text, stop) => .ok (.str (String.ofList text), stop)
  | none =>
    if startsPlain inFlow place.rest then
      let (text, stop) := plainText place.rest.length inFlow column place
      (plain (String.ofList text)).map fun value => (value, stop)
    else .error .malformed

/-- The place behind the colon that makes a name of what stands between two places;
they are on one line. -/
def behindColon? (inFlow : Bool) (start stop : Place) : Option Place :=
  let colon := stop.skipSpaces
  if colon.line = start.line ∧
      (if inFlow then colon.rest.head? = some ':' else startsValue colon.rest) then
    some (colon.skip 1)
  else none

/-! ## Between brackets -/

mutual

/-- Read a value between brackets. Each step takes a character, so the length of the
text bounds the steps. -/
def flowValue (fuel : Nat) (place : Place) : Reading :=
  match fuel, place.rest with
  | fuel + 1, '[' :: _ => flowItems fuel [] (place.skip 1).next
  | fuel + 1, '\x7b' :: _ => flowMembers fuel [] (place.skip 1).next
  | _, _ => scalar true 0 place

/-- Read the items of a list from one on, up to the closing bracket. `read` holds the
items so far, last first. -/
def flowItems (fuel : Nat) (read : List Json) (place : Place) : Reading :=
  match fuel, place.rest with
  | _, ']' :: _ => .ok (.arr read.reverse, place.skip 1)
  | 0, _ => .error .malformed
  | fuel + 1, _ => do
    let (first, stop) ← flowValue fuel place
    let (item, behind) ← match behindColon? true place stop with
      | none => pure (first, stop)
      | some colon => do
        let (value, behind) ← flowMember fuel colon.next
        pure (← single first value, behind)
    let next := behind.next
    match next.rest with
    | ',' :: _ => flowItems fuel (item :: read) (next.skip 1).next
    | ']' :: _ => return (.arr (item :: read).reverse, next.skip 1)
    | _ => throw .malformed

/-- Read the members of a group from one on, up to the closing brace. -/
def flowMembers (fuel : Nat) (read : List (String × Json)) (place : Place) : Reading :=
  match fuel, place.rest with
  | _, '\x7d' :: _ => .ok (.obj read, place.skip 1)
  | 0, _ => .error .malformed
  | fuel + 1, _ => do
    let (key, stop) ← flowValue fuel place
    let name ← nameOf key
    let (value, behind) ← match behindColon? true place stop with
      | none => pure (.null, stop)
      | some colon => flowMember fuel colon.next
    let members := Json.put read name value
    let next := behind.next
    match next.rest with
    | ',' :: _ => flowMembers fuel members (next.skip 1).next
    | '\x7d' :: _ => return (.obj members, next.skip 1)
    | _ => throw .malformed

/-- Read the value behind a colon, which may be missing. -/
def flowMember (fuel : Nat) (place : Place) : Reading :=
  match fuel, place.rest with
  | fuel + 1, c :: _ =>
    if c = ',' ∨ c = ']' ∨ c = '\x7d' then .ok (.null, place) else flowValue fuel place
  | _, _ => .error .malformed

end

/-! ## In lines -/

mutual

/-- Read a value that stands deeper than `outer` columns. It may be a list or a group of lines
if it `opens` a line. -/
def value (fuel : Nat) (opens : Bool) (outer : Nat) (place : Place) : Reading :=
  match fuel, place.rest with
  | 0, _ => .error .malformed
  | _, [] => .error .malformed
  | fuel + 1, c :: _ =>
    if startsItem place.rest then
      if opens then items fuel place.column [] place else .error .malformed
    else if c = '|' ∨ c = '>' then
      match block? (max 1 outer) place with
      | some (text, stop) => .ok (.str (String.ofList text), stop)
      | none => .error .malformed
    else do
      let (first, stop) ←
        if c = '[' ∨ c = '\x7b' then flowValue fuel place else scalar false outer place
      match behindColon? false place stop with
      | none => return (first, stop)
      | some _ => if opens then members fuel place.column [] place else throw .malformed

/-- Read the items of a list from a dash at a column on. `read` holds the
items so far, last first. -/
def items (fuel column : Nat) (read : List Json) (place : Place) : Reading :=
  match fuel with
  | 0 => .error .malformed
  | fuel + 1 => do
    let inside := (place.skip 1).next
    let (item, stop) ←
      if inside.isEnd || (inside.line != place.line && inside.column ≤ column) then
        pure (.null, place.skip 1)
      else value fuel true (column + 1) inside
    let next := stop.next
    if !next.isEnd && next.column == column && next.line != place.line &&
        startsItem next.rest then
      items fuel column (item :: read) next
    else return (.arr (item :: read).reverse, stop)

/-- Read the members of a group from a name at a column on. -/
def members (fuel column : Nat) (read : List (String × Json)) (place : Place) : Reading :=
  match fuel with
  | 0 => .error .malformed
  | fuel + 1 => do
    let (key, behind) ← scalar false (column + 1) place
    let name ← nameOf key
    match behindColon? false place behind with
    | none => throw .malformed
    | some colon =>
      let inside := colon.next
      let opens := inside.line != place.line
      let (member, stop) ←
        if inside.isEnd then pure (.null, colon)
        else if opens && inside.column == column && startsItem inside.rest then
          items fuel column [] inside
        else if opens && inside.column ≤ column then pure (.null, colon)
        else value fuel opens (column + 1) inside
      let known := Json.put read name member
      let next := stop.next
      if next.isEnd || next.column < column then return (.obj known, stop)
      else if next.column == column && next.line != place.line then members fuel column known next
      else throw .malformed

end

/-! ## The document -/

/-- Whether a character may stand in a configuration. -/
def isAllowed (c : Char) : Bool :=
  c == '\t' || c == '\n' || c == '\u0085' || (' ' ≤ c && c ≤ '~') ||
    ('\u00a0' ≤ c && c != '\ufffe' && c != '\uffff')

/-- A text in which every line ends in the same way, however its ends were written. -/
def withPlainEnds : List Char → List Char
  | '\r' :: '\n' :: rest => '\n' :: withPlainEnds rest
  | '\r' :: rest => '\n' :: withPlainEnds rest
  | c :: rest => c :: withPlainEnds rest
  | [] => []

/-- Characters without a byte order mark before them. -/
def withoutMark : List Char → List Char
  | '\uFEFF' :: rest => rest
  | text => text

/-- The place where the first document starts: behind the lines that say nothing of it. A line
that starts with a percent sign instructs the reader. -/
def documentStart (fuel : Nat) (place : Place) : Place :=
  let next := place.next
  match fuel, next.column, next.rest with
  | fuel + 1, 0, c :: _ =>
    if c = '%' || startsMark endMark next.rest then
      documentStart fuel (next.skip (next.rest.takeWhile (!isLineEnd ·)).length)
    else next
  | _, _, _ => next

/-- Whether nothing but ends of documents follows. -/
def isLast (fuel : Nat) (place : Place) : Bool :=
  let next := place.next
  match fuel, next.rest with
  | _, [] => true
  | fuel + 1, _ => next.column == 0 && startsMark endMark next.rest && isLast fuel (next.skip 3)
  | 0, _ => false

/-- Read the only document of a text. -/
def document (text : List Char) : Except ReadFault Json := do
  if text.any (!isAllowed ·) then throw .malformed
  let fuel := 2 * text.length + 2
  let start := documentStart fuel ⟨text, 0, 0⟩
  let marked := start.column == 0 && startsMark startMark start.rest
  let first := if marked then (start.skip 3).next else start
  let (found, stop) ←
    if first.isEnd then pure (.null, first)
    else value fuel (!marked || first.line != start.line) 0 first
  if isLast fuel stop then return found else throw .malformed

/-- Read the members of a configuration. A single value that counts as nothing has none. -/
def readText (text : String) : Except ReadFault (List (String × Json)) := do
  match ← document (withoutMark (withPlainEnds text.toList)) with
  | .obj members => return members
  | other => if other.isTruthy then throw (.notNamed other.kindName) else return []

end Tuition.Configuration
