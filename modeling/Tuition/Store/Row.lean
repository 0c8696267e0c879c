/-
# Rows and tables

A table is a list of rows in the order of their keys. A new row gets the key after the
greatest one, so the key of a deleted last row is used again. Before a row is written its
whole numbers have to fit into 64 bits, its amounts are brought into the form the store keeps,
and the rules of the table are checked: conditions on the row first, then keys and
combinations of columns that must not repeat.
-/

import Tuition.Fault
import Tuition.Word

namespace Tuition

/-- What the store knows about the rows of a table. -/
class Row (α : Type) where
  /-- The name of the table. -/
  table : String
  /-- The key of a row. -/
  key : α → Int
  /-- The row under another key. -/
  withKey : α → Int → α
  /-- The whole numbers of a row. -/
  words : α → List Int
  /-- The row with its amounts as they are kept. -/
  keep : α → Except Fault α
  /-- The row with its amounts as they are shown. -/
  shown : α → α
  /-- The conditions on a row, with their names. -/
  conditions : List (String × (α → Bool))
  /-- The combinations of columns that must not repeat, and when two rows repeat one. -/
  distinct : List (List String × (α → α → Bool))

namespace Table

/-- Refuse whole numbers of more than 64 bits. -/
def requireWords (numbers : List Int) : Except Fault Unit :=
  if numbers.all Word.fits then .ok () else .error .numberTooLarge

variable {α : Type} [Row α]

/-- The key of the next new row. -/
def nextKey (rows : List α) : Int :=
  match (rows.map Row.key).max? with
  | none => 1
  | some greatest => greatest + 1

/-- The first rule that a row breaks beside the other rows of its table. -/
def violation? (others : List α) (row : α) : Option Violation :=
  match (Row.conditions (α := α)).find? fun condition => !condition.2 row with
  | some condition => some (.check condition.1)
  | none =>
    if others.any (Row.key · == Row.key row) then some (.unique [Row.table α ++ ".id"])
    else
      (Row.distinct.find? fun combination => others.any (combination.2 row)).map
        fun combination => .unique combination.1

/-- Check a row in the form that is kept against the rules of its table. -/
def check (others : List α) (kept : α) : Except Fault α := do
  requireWords (Row.key kept :: Row.words kept)
  match violation? others kept with
  | some broken => throw (.violation broken)
  | none => return kept

/-- Bring a row into the form that is kept, or say why it cannot be written beside the others. -/
def admit? (others : List α) (row : α) : Except Fault α := do
  check others (← Row.keep row)

/-- Put a row into a table at the place of its key. -/
def place (rows : List α) (row : α) : List α :=
  rows.takeWhile (fun other => decide (Row.key other < Row.key row)) ++ row ::
    rows.dropWhile (fun other => decide (Row.key other < Row.key row))

/-- Write a row under its key. -/
def insertKeyed (rows : List α) (row : α) : Except Fault (α × List α) := do
  let kept ← admit? rows row
  return (kept, place rows kept)

/-- Write a new row under the next key. -/
def insert (rows : List α) (row : α) : Except Fault (α × List α) := do
  let kept ← admit? rows (Row.withKey row (nextKey rows))
  return (kept, rows ++ [kept])

/-- Write new rows one after another. -/
def insertAll (rows : List α) : List α → Except Fault (List α)
  | [] => .ok rows
  | row :: more => do
    let written ← insert rows row
    insertAll written.2 more

/-- The row with a key. -/
def find? (rows : List α) (key : Int) : Option α :=
  rows.find? (Row.key · == key)

/-- The rows of a table but the one with a key. -/
def erase (rows : List α) (key : Int) : List α :=
  rows.filter (Row.key · != key)

/-- Write a row in the form that is kept over the one with its key. -/
def replace (rows : List α) (kept : α) : Except Fault (List α) := do
  let checked ← check (erase rows (Row.key kept)) kept
  return rows.map fun other => if Row.key other == Row.key checked then checked else other

end Table
end Tuition
