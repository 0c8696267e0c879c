/-
# The encoding of a JSON text

A JSON text starts with a character of ASCII, so the null octets among its first four show
whether it is written in UTF-16 or UTF-32. Without any it is written in UTF-8, and a byte order
mark may stand before it.
-/

import Tuition.Text.Octets

namespace Tuition.Json

/-- The encodings of a JSON text; the flag says whether the greater octets come first. -/
inductive Encoding where
  | utf8
  | utf16 (greaterFirst : Bool)
  | utf32 (greaterFirst : Bool)
  deriving DecidableEq, Repr

namespace Encoding

/-- The encoding of a JSON text, by its first octets. -/
def detect : List Nat → Encoding
  | 0 :: 0 :: _ :: _ :: _ => .utf32 true
  | 0 :: _ :: _ :: _ :: _ => .utf16 true
  | _ :: 0 :: 0 :: 0 :: _ => .utf32 false
  | _ :: 0 :: _ :: _ :: _ => .utf16 false
  | [0, _] => .utf16 true
  | [_, 0] => .utf16 false
  | _ => .utf8

/-- Read octets in an encoding. -/
def read? (octets : List Nat) : Encoding → Option (List Text.Letter)
  | .utf8 => Text.strictUtf8? 0 octets
  | .utf16 greaterFirst => Text.utf16? greaterFirst octets
  | .utf32 greaterFirst => Text.utf32? greaterFirst octets

end Encoding

/-- Letters without a byte order mark before them. -/
def withoutMark : List Text.Letter → List Text.Letter
  | .char '\uFEFF' :: rest => rest
  | text => text

/-- The letters that octets stand for, if they stand for a text. -/
def decode? (octets : List Nat) : Option (List Text.Letter) :=
  let encoding := Encoding.detect octets
  (encoding.read? octets).map fun text => if encoding = .utf8 then withoutMark text else text

end Tuition.Json
