/-
# Quoted text

A text shown inside a message stands between quotes: single ones, unless it holds a single quote
and no double one. The backslash, the quote in use, the three named controls and every unprintable
character are written as escapes, so a quoted text takes up one line.
-/

import Tuition.Text.Letter
import Tuition.Text.Number
import Tuition.Text.Printable

namespace Tuition.Text

/-- The escape of a letter by its code: two, four or eight hexadecimal digits. -/
def escapedCode (code : Nat) : String :=
  if code < 0x100 then "\\x" ++ hexadecimal 2 code
  else if code < 0x10000 then "\\u" ++ hexadecimal 4 code
  else "\\U" ++ hexadecimal 8 code

/-- One character inside the given quotes. -/
def quotedChar (quote c : Char) : String :=
  if c = quote || c = '\\' then String.ofList ['\\', c]
  else if c = '\n' then "\\n"
  else if c = '\r' then "\\r"
  else if c = '\t' then "\\t"
  else if isPrintable c then String.singleton c
  else escapedCode c.toNat

/-- One letter inside the given quotes. -/
def quotedLetter (quote : Char) : Letter → String
  | .char c => quotedChar quote c
  | .unpaired index => escapedCode (Letter.unpaired index).code

/-- The quote that a text is put in. -/
def quoteFor (text : List Char) : Char :=
  if text.contains '\'' && !text.contains '"' then '"' else '\''

/-- A text in quotes, as messages show it. -/
def quoted (text : String) : String :=
  let quote := quoteFor text.toList
  String.singleton quote ++ String.join ((letters text).map (quotedLetter quote)) ++
    String.singleton quote

end Tuition.Text
