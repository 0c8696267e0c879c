/-
# Columns

A record arrives as an object of column values. A column says of what kind its values are
and which value it has when none is given. Values are brought into one form: a decimal
and a date become their text, and a word must be one of those that the column knows,
unless unknown words are kept.
-/

import Tuition.Calendar.IsoReader
import Tuition.Decimal.Printer
import Tuition.Fault
import Tuition.Money

namespace Tuition.Record

/-- The kinds of values in a column. A stamp is a moment, and where none is given the one at which
the row is written. -/
inductive ColumnKind where
  | whole
  | decimal
  | text
  | flag
  | date
  | moment
  | stamp
  | word (kind : String) (words : List String)
  deriving Repr

/-- A column, with the value that it has when none is given. -/
structure Column where
  name : String
  kind : ColumnKind
  default : Json := .null

/-- A table: its name in the store, what a record of it is called, and its columns. -/
structure Shape where
  table : String
  record : String
  columns : List Column

/-- A record with a value for every column, in the order of the columns. -/
abbrev Cells := List (String × Json)

/-- How a record is completed. -/
structure Completion where
  /-- Whether a value of nothing gives way to the default of its column. -/
  nothingIsDefault : Bool
  /-- Whether words that a column does not know are kept. -/
  keepsUnknownWords : Bool
  /-- The moment at which the record is written, if it is. -/
  writtenAt : Option Moment := none

/-- A new row of the store. -/
def Completion.insert (now : Moment) : Completion := ⟨true, false, some now⟩

/-- A changed row of the store. -/
def Completion.update : Completion := { nothingIsDefault := false, keepsUnknownWords := false }

/-- A record at hand, whose words have to be known. -/
def Completion.atHand : Completion := { nothingIsDefault := false, keepsUnknownWords := false }

/-- A record at hand, whose words may be any. -/
def Completion.loose : Completion := { nothingIsDefault := false, keepsUnknownWords := true }

namespace Column

/-- A value in the form of its column. -/
def normalize (completion : Completion) (column : Column) (value : Json) : Except Fault Json :=
  match column.kind, value with
  | _, .null => .ok .null
  | .decimal, value =>
    ((Decimal.ofJson value).mapError .arithmetic).map fun found => .str found.text
  | .date, .str text =>
    ((Calendar.readDate text).mapError .calendar).map fun found => .str found.text
  | .moment, .str text | .stamp, .str text =>
    ((Calendar.readStamp text).mapError .calendar).map fun found => .str found.text
  | .word kind words, .str text =>
    if completion.keepsUnknownWords || words.contains text then .ok value
    else .error (.notAMember text kind)
  | _, value => .ok value

/-- The value of a column that a record does not name. -/
def initial (completion : Completion) (column : Column) : Json :=
  match column.kind, completion.writtenAt with
  | .stamp, some moment => .str moment.text
  | _, _ => column.default

/-- The value of a column in a record, in the form of the column. -/
def complete (completion : Completion) (members : List (String × Json)) (column : Column) :
    Except Fault (String × Json) :=
  let value := match members.lookup column.name with
    | none => column.initial completion
    | some .null => if completion.nothingIsDefault then column.default else .null
    | some value => value
  (column.normalize completion value).map fun found => (column.name, found)

/-- The decimals in two cells of a column, if both hold one. -/
def decimals? (column : Column) (first second : Json) : Option (Decimal × Decimal) :=
  match column.kind, first, second with
  | .decimal, .str one, .str other => do
    return (← (Decimal.read one).toOption, ← (Decimal.read other).toOption)
  | _, _, _ => none

/-- The cell that a changed cell leaves behind: the one that is kept, if the new one holds an
equal decimal to the one that was seen. A signaling decimal cannot be compared. -/
def settle (column : Column) (kept seen new : Json) : Except Fault Json :=
  match column.decimals? seen new with
  | some (_, .nan _ true _) => .error (.arithmetic .invalid)
  | some (old, value) => .ok (if value.compare old matches .ok .eq then kept else new)
  | none => .ok new

/-- A cell in the form that can be written: a decimal that is no number becomes nothing. -/
def bind (column : Column) (value : Json) : Except Fault Json :=
  match column.kind, value with
  | .decimal, .str text =>
    match Decimal.read text with
    | .ok (.nan _ true _) => .error .signalingAmount
    | .ok (.nan _ false _) => .ok .null
    | _ => .ok value
  | _, value => .ok value

end Column

/-- A record with a value for every column of a table. -/
def complete (completion : Completion) (shape : Shape) (members : List (String × Json)) :
    Except Fault Cells :=
  shape.columns.mapM (Column.complete completion members)

/-- Refuse a cell that cannot be written: a whole number of more than 64 bits, or a text that
holds a surrogate without its partner. -/
def requireWritable (cell : Json) : Except Fault Unit :=
  match cell with
  | .int n => if Word.fits n then .ok () else .error .numberTooLarge
  | .str text =>
    match Text.unpairedRun? text with
    | none => .ok ()
    | some (place, codes) => .error (.unpaired place codes)
  | _ => .ok ()

/-- The cells of a record in the form that can be written. Those that cannot be written are
refused before anything else is. -/
def bindAll (shape : Shape) (cells : Cells) : Except Fault Cells := do
  let bound ← shape.columns.mapM fun column => do
    return (column.name, ← column.bind ((cells.lookup column.name).getD .null))
  for cell in bound do
    requireWritable cell.2
  return bound

/-! ## Reading cells -/

/-- A value that must be there. -/
def notNull {α : Type} (shape : Shape) (name : String) (value : Option α) : Except Fault α :=
  match value with
  | some found => .ok found
  | none => .error (.violation (.notNull (shape.table ++ "." ++ name)))

/-- The whole number in a column. -/
def whole? (cells : Cells) (name : String) : Option Int :=
  match cells.lookup name with
  | some (.int n) => some n
  | _ => none

/-- The text in a column. -/
def text? (cells : Cells) (name : String) : Option String :=
  match cells.lookup name with
  | some (.str text) => some text
  | _ => none

/-- The flag in a column. -/
def flag? (cells : Cells) (name : String) : Option Bool :=
  match cells.lookup name with
  | some (.bool value) => some value
  | some (.int n) => some (n != 0)
  | _ => none

/-- The decimal in a column. -/
def decimal? (cells : Cells) (name : String) : Option Decimal :=
  (text? cells name).bind fun text => (Decimal.read text).toOption

/-- The date in a column. -/
def date? (cells : Cells) (name : String) : Option Date :=
  (text? cells name).bind fun text => (Calendar.readDate text).toOption

/-- The moment in a column, without its offset. -/
def moment? (cells : Cells) (name : String) : Option Moment :=
  (text? cells name).bind fun text => (Calendar.readStamp text).toOption.map Stamp.moment

end Tuition.Record
