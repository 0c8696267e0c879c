/-
# JSON values in fixed-width columns

A number of an invoice is put together from values that are meant to be whole numbers. A truth
value counts as 0 or 1; any other kind of value cannot be put in a column.
-/

import Tuition.Json.Printer

namespace Tuition.Json

/-- Why a value cannot be put in a column. -/
inductive ColumnFault where
  | noSuchFormat (kind : String)
  | noFormat (kind : String)
  deriving DecidableEq, Repr

/-- How a fault is reported. -/
def ColumnFault.message : ColumnFault → String
  | .noSuchFormat kind => "Unknown format code 'd' for object of type '" ++ kind ++ "'"
  | .noFormat kind => "unsupported format string passed to " ++ kind ++ ".__format__"

/-- The whole number that a value counts as in a column. -/
def columnNumber (value : Json) : Except ColumnFault Int :=
  match value.whole?, value with
  | some n, _ => .ok n
  | none, .real _ | none, .str _ => .error (.noSuchFormat value.kindName)
  | none, _ => .error (.noFormat value.kindName)

/-- A value in running text: a text as it is, anything else as messages show it. -/
def plain : Json → String
  | .str text => text
  | other => other.inspect

end Tuition.Json
