/-
# Keeping records

Rows can be written, changed and removed as records, whichever table they are in.
These are changes from outside: they obey the rules of the tables, and they are no
calls that an outage could strike.
-/

import Tuition.Record.Tables

namespace Tuition.Record

/-- The tables. -/
inductive TableName where
  | student
  | course
  | enrollment
  | priceOverride
  | attendance
  | invoice
  | invoiceLine
  | payment
  | settings
  deriving DecidableEq, Repr

/-- The word for a table. -/
def TableName.text : TableName → String
  | .student => "student"
  | .course => "course"
  | .enrollment => "enrollment"
  | .priceOverride => "price_override"
  | .attendance => "attendance"
  | .invoice => "invoice"
  | .invoiceLine => "invoice_line"
  | .payment => "payment"
  | .settings => "settings"

/-- All tables. -/
def TableName.list : List TableName :=
  [.student, .course, .enrollment, .priceOverride, .attendance, .invoice, .invoiceLine, .payment,
   .settings]

/-- The table that a word stands for. -/
def TableName.ofText? : String → Option TableName
  | "student" => some .student
  | "course" => some .course
  | "enrollment" => some .enrollment
  | "price_override" => some .priceOverride
  | "attendance" => some .attendance
  | "invoice" => some .invoice
  | "invoice_line" => some .invoiceLine
  | "payment" => some .payment
  | "settings" => some .settings
  | _ => none

/-- The columns of a table. -/
def TableName.shape : TableName → Shape
  | .student => studentShape
  | .course => courseShape
  | .enrollment => enrollmentShape
  | .priceOverride => overrideShape
  | .attendance => attendanceShape
  | .invoice => invoiceShape
  | .invoiceLine => lineShape
  | .payment => paymentShape
  | .settings => settingsShape

/-- Where in the store the rows of a table are. -/
structure Shelf (α : Type) where
  view : Store → List α
  put : Store → List α → Store

/-- Do something with the rows of a table. The settings are no list of rows
and are treated apart. -/
def onShelf {β : Type} (forSettings : β)
    (forRows : {α : Type} → [Row α] → [Recorded α] → Shelf α → β) : TableName → β
  | .student => forRows ⟨Store.students, fun store students => { store with students }⟩
  | .course => forRows ⟨Store.courses, fun store courses => { store with courses }⟩
  | .enrollment =>
    forRows ⟨Store.enrollments, fun store enrollments => { store with enrollments }⟩
  | .priceOverride => forRows ⟨Store.overrides, fun store overrides => { store with overrides }⟩
  | .attendance => forRows ⟨Store.attendance, fun store attendance => { store with attendance }⟩
  | .invoice => forRows ⟨Store.invoices, fun store invoices => { store with invoices }⟩
  | .invoiceLine => forRows ⟨Store.lines, fun store lines => { store with lines }⟩
  | .payment => forRows ⟨Store.payments, fun store payments => { store with payments }⟩
  | .settings => forSettings

/-- Write the settings from a record. There is one row of them, under the key 1. -/
def insertSettings (now : Moment) (store : Store) (members : List (String × Json)) :
    Except Fault (Int × Store) := do
  let cells ← bindAll settingsShape (← complete (.insert now) settingsShape members)
  let settings : Settings ← Recorded.ofCells cells
  if keyOf cells ≠ Settings.key then throw (.violation (.check "settings_singleton"))
  let kept ← Store.admitSettings settings
  if store.settings.isSome then throw (.violation (.unique ["settings.id"]))
  return (Settings.key, { store with settings := some kept })

/-- Write a row from a record, under the key that it gives or else the next one. -/
def insertRow {α : Type} [Row α] [Recorded α] (shelf : Shelf α) (now : Moment) (store : Store)
    (members : List (String × Json)) : Except Fault (Int × Store) := do
  let cells ← bindAll (Recorded.shape α) (← complete (.insert now) (Recorded.shape α) members)
  let row : α ← Recorded.ofCells cells
  let (kept, rows) ←
    if (whole? cells "id").isSome then Table.insertKeyed (shelf.view store) row
    else Table.insert (shelf.view store) row
  return (Row.key kept, shelf.put store rows)

/-- Write a record into a table at a moment: its key, and the store with it. -/
def insert (now : Moment) (store : Store) (table : TableName) (members : List (String × Json)) :
    Except Fault (Int × Store) :=
  onShelf (insertSettings now store members)
    (fun shelf => insertRow shelf now store members) table

/-- Write records one after another at a moment: their keys, and the store with them. -/
def insertAll (now : Moment) (store : Store) : List (TableName × List (String × Json)) →
    Except Fault (List Int × Store)
  | [] => .ok ([], store)
  | (table, members) :: others => do
    let (key, written) ← insert now store table members
    let (keys, last) ← insertAll now written others
    return (key :: keys, last)

/-- The cells of a record with some of them changed. Only columns of the table can be changed, and
a decimal that is set to what it shows stays as it is kept. -/
def change (shape : Shape) (kept shown : Cells) (changes : List (String × Json)) :
    Except Fault Cells := do
  let asked := changes.foldl (fun cells change => Json.put cells change.1 change.2) shown
  let changed ← complete .update shape asked
  match changes.find? fun change => !shape.columns.any (·.name == change.1) with
  | some stranger => throw (.noSuchField shape.record stranger.1)
  | none =>
    let cell (cells : Cells) (column : Column) : Json := (cells.lookup column.name).getD .null
    let settled ← shape.columns.mapM fun column => do
      return (column.name,
        ← column.settle (cell kept column) (cell shown column) (cell changed column))
    bindAll shape settled

/-- Change the settings. -/
def updateSettings (store : Store) (changes : List (String × Json)) :
    Except Fault (Option Store) := do
  match store.settings with
  | none => return none
  | some settings =>
    let old := Recorded.toCells settings
    let cells ← change settingsShape old old changes
    let changed : Settings ← Recorded.ofCells cells
    if keyOf cells ≠ Settings.key then throw (.violation (.check "settings_singleton"))
    let kept ← Store.admitSettings changed
    return some { store with settings := some kept }

/-- Change the row with a key, if there is one. The key itself can change. -/
def updateRow {α : Type} [Row α] [Recorded α] (shelf : Shelf α) (store : Store) (key : Int)
    (changes : List (String × Json)) : Except Fault (Option Store) := do
  match Table.find? (shelf.view store) key with
  | none => return none
  | some row =>
    let old := Recorded.toCells row
    let seen := Recorded.toCells (Row.shown row)
    let changed : α ← Recorded.ofCells (← change (Recorded.shape α) old seen changes)
    let (_, rows) ← Table.insertKeyed (Table.erase (shelf.view store) key) changed
    return some (shelf.put store rows)

/-- Change a record, if there is one under the key. -/
def update (store : Store) (table : TableName) (key : Int) (changes : List (String × Json)) :
    Except Fault (Option Store) :=
  onShelf (if key = Settings.key then updateSettings store changes else .ok none)
    (fun shelf => updateRow shelf store key changes) table

/-- Remove a record, if there is one under the key. -/
def delete? (store : Store) (table : TableName) (key : Int) : Option Store :=
  onShelf
    (if key = Settings.key && store.settings.isSome then some { store with settings := none }
    else none)
    (fun shelf =>
      if (Table.find? (shelf.view store) key).isSome then
        some (shelf.put store (Table.erase (shelf.view store) key))
      else none)
    table

/-- All records of a table, as they are shown. -/
def all (store : Store) (table : TableName) : List Cells :=
  onShelf (store.settings.toList.map Recorded.toCells)
    (fun shelf => (shelf.view store).map fun row => Recorded.toCells (Row.shown row)) table

/-! ## Records at hand -/

/-- The cells of a record with what follows from them: for an invoice whether it is a draft and
whether it is owed, for the settings the prefix that numbers start with. -/
def withDerived (table : TableName) (cells : Cells) : Cells :=
  match table with
  | .invoice =>
    let status := (text? cells "status").bind InvoiceStatus.ofText?
    cells ++ [("@is_draft", .bool (status == some .draft)),
      ("@is_payable", .bool ((status.map InvoiceStatus.payable).getD false))]
  | .settings =>
    let lead := (text? cells "invoice_prefix").getD ""
    cells ++ [("@effective_prefix", .str (Settings.effectivePrefix { invoicePrefix := lead }))]
  | _ => cells

/-- A record of a table with all its columns. -/
def describe (table : TableName) (members : List (String × Json)) : Except Fault Cells := do
  return withDerived table (← complete .loose table.shape members)

end Tuition.Record
