/-
# Texts as octets

A text is sent as octets, in UTF-8 as a rule. Octets that are no UTF-8 are either refused or
read leniently, the replacement character standing for each octet that does not fit. In
UTF-16 a unit has two octets and in UTF-32 four, the greater one first or last; surrogates
without a partner are kept.
-/

import Tuition.Text.Letter
import Tuition.Word

namespace Tuition.Text

/-- The octets of a code in UTF-8: one below 128, else two to four. -/
def codeOctets (code : Nat) : List Nat :=
  if code < 0x80 then [code]
  else if code < 0x800 then [0xC0 + code / 64, 0x80 + code % 64]
  else if code < 0x10000 then [0xE0 + code / 4096, 0x80 + code / 64 % 64, 0x80 + code % 64]
  else [0xF0 + code / 262144, 0x80 + code / 4096 % 64, 0x80 + code / 64 % 64, 0x80 + code % 64]

/-- The octets of a text in UTF-8. A surrogate without a partner is written as if it were a
character. -/
def utf8Octets (text : String) : List Nat :=
  (letters text).flatMap fun letter => codeOctets letter.code

/-- How many octets follow the first one of a character in UTF-8. -/
def followers (first : Nat) : Nat :=
  if first < 0xC0 then 0
  else if first < 0xE0 then 1
  else if first < 0xF0 then 2
  else if first < 0xF8 then 3
  else 0

/-- The least code that takes so many octets after the first. -/
def leastCode : Nat → Nat
  | 0 => 0
  | 1 => 0x80
  | 2 => 0x800
  | _ => 0x10000

/-- The letter at the front of octets in UTF-8, with the number of octets
that follow its first. -/
def leadingLetter? : List Nat → Option (Letter × Nat)
  | [] => none
  | first :: rest =>
    let count := followers first
    let tail := rest.take count
    if first < 0x80 then some (.ofCode first, 0)
    else if count = 0 || tail.length < count || !tail.all (fun octet => octet / 64 == 2) then none
    else
      let code :=
        tail.foldl (fun code octet => 64 * code + octet % 64) (first % twoTo (6 - count))
      if leastCode count ≤ code ∧ code < 0x110000 ∧ !isSurrogate code then
        some (.ofCode code, count)
      else none

/-- Read octets in UTF-8 leniently, after passing over some of them. -/
def lenientUtf8 (passed : Nat) : List Nat → List Letter
  | [] => []
  | first :: rest =>
    match passed with
    | passed + 1 => lenientUtf8 passed rest
    | 0 =>
      match leadingLetter? (first :: rest) with
      | some (letter, count) => letter :: lenientUtf8 count rest
      | none => .char '\uFFFD' :: lenientUtf8 0 rest

/-- Read octets in UTF-8, if all of them fit, after passing over some of them. -/
def strictUtf8? (passed : Nat) : List Nat → Option (List Letter)
  | [] => some []
  | first :: rest =>
    match passed with
    | passed + 1 => strictUtf8? passed rest
    | 0 =>
      match leadingLetter? (first :: rest) with
      | some (letter, count) => (strictUtf8? count rest).map (letter :: ·)
      | none => none

/-- The units of two octets each, unless an octet is left over. -/
def pairUnits? (greaterFirst : Bool) : List Nat → Option (List Nat)
  | [] => some []
  | [_] => none
  | a :: b :: rest =>
    (pairUnits? greaterFirst rest).map ((if greaterFirst then 256 * a + b else 256 * b + a) :: ·)

/-- Join the halves of units, unless one is left over. -/
def joinHalves? (greaterFirst : Bool) : List Nat → Option (List Nat)
  | [] => some []
  | [_] => none
  | a :: b :: rest =>
    (joinHalves? greaterFirst rest).map
      ((if greaterFirst then 65536 * a + b else 65536 * b + a) :: ·)

/-- The units of four octets each, unless octets are left over. -/
def quadUnits? (greaterFirst : Bool) (octets : List Nat) : Option (List Nat) :=
  (pairUnits? greaterFirst octets).bind (joinHalves? greaterFirst)

/-- The codes of units in UTF-16, in which pairs of surrogates are joined. -/
def joinPairs : List Nat → List Nat
  | first :: last :: rest =>
    if isLeadingSurrogate first && isTrailingSurrogate last then
      codeOfPair first last :: joinPairs rest
    else first :: joinPairs (last :: rest)
  | codes => codes

/-- Read octets in UTF-16. -/
def utf16? (greaterFirst : Bool) (octets : List Nat) : Option (List Letter) :=
  (pairUnits? greaterFirst octets).map fun units => (joinPairs units).map Letter.ofCode

/-- Read octets in UTF-32. -/
def utf32? (greaterFirst : Bool) (octets : List Nat) : Option (List Letter) := do
  let codes ← quadUnits? greaterFirst octets
  if codes.all (· < 0x110000) then return codes.map Letter.ofCode else none

end Tuition.Text
