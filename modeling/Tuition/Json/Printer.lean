/-
# Writing JSON

Two ways to write a value as text. `Json.compress` is the interchange format on one line in ASCII.
`Json.inspect` is the form that messages show: texts in quotes, the words `None`, `True` and
`False`, and a space after every comma and colon.
-/

import Tuition.Json.Basic
import Tuition.Text.Quoted

namespace Tuition.Json

/-- An escape of four hexadecimal digits. -/
def unicodeEscape (code : Nat) : String :=
  "\\u" ++ Text.hexadecimal 4 code

/-- The escape of a code: one of four digits, or two for a code that takes a pair. -/
def escapedCode (code : Nat) : String :=
  if code < 0x10000 then unicodeEscape code
  else
    let offset := code - 0x10000
    unicodeEscape (0xD800 + offset / 0x400) ++ unicodeEscape (0xDC00 + offset % 0x400)

/-- One character inside a JSON text, in ASCII. -/
def escapedChar (c : Char) : String :=
  if c = '"' then "\\\""
  else if c = '\\' then "\\\\"
  else if c = '\n' then "\\n"
  else if c = '\r' then "\\r"
  else if c = '\t' then "\\t"
  else if 0x20 ≤ c.toNat ∧ c.toNat < 0x7F then String.singleton c
  else escapedCode c.toNat

/-- One letter inside a JSON text, in ASCII. -/
def escapedLetter : Text.Letter → String
  | .char c => escapedChar c
  | .unpaired index => escapedCode (Text.Letter.unpaired index).code

/-- A text as JSON. -/
def escaped (text : String) : String :=
  "\"" ++ String.join ((Text.letters text).map escapedLetter) ++ "\""

/-- A fractional number as JSON, with the three words for the values that have no digits. -/
def realText : Binary64 → String
  | .nan => "NaN"
  | .infinite negative => if negative then "-Infinity" else "Infinity"
  | value => value.text

mutual

/-- A value on one line, in ASCII. -/
def compress : Json → String
  | .null => "null"
  | .bool value => if value then "true" else "false"
  | .int value => Text.integer value
  | .real value => realText value
  | .str value => escaped value
  | .arr items => "[" ++ ",".intercalate (compressItems items) ++ "]"
  | .obj members => "\x7b" ++ ",".intercalate (compressMembers members) ++ "\x7d"

/-- The items of an array, each on its own. -/
def compressItems : List Json → List String
  | [] => []
  | item :: rest => compress item :: compressItems rest

/-- The members of an object, each on its own. -/
def compressMembers : List (String × Json) → List String
  | [] => []
  | (name, value) :: rest => (escaped name ++ ":" ++ compress value) :: compressMembers rest

end

mutual

/-- A value as messages show it. -/
def inspect : Json → String
  | .null => "None"
  | .bool value => if value then "True" else "False"
  | .int value => Text.integer value
  | .real value => value.text
  | .str value => Text.quoted value
  | .arr items => "[" ++ ", ".intercalate (inspectItems items) ++ "]"
  | .obj members => "\x7b" ++ ", ".intercalate (inspectMembers members) ++ "\x7d"

/-- The items of an array, each on its own. -/
def inspectItems : List Json → List String
  | [] => []
  | item :: rest => inspect item :: inspectItems rest

/-- The members of an object, each on its own. -/
def inspectMembers : List (String × Json) → List String
  | [] => []
  | (name, value) :: rest => (Text.quoted name ++ ": " ++ inspect value) :: inspectMembers rest

end

end Tuition.Json
