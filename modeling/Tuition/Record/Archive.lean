/-
# Archives

An archive is a text that holds all records of a store: a JSON array of pairs, each the name of a
table and a record. Reading one writes its records into an empty store in their order, so a text
that breaks a rule of a table is no archive.
-/

import Tuition.Json.Printer
import Tuition.Json.Reader
import Tuition.Record.Keeping

namespace Tuition.Record

/-- A table and a record of it. -/
abbrev Entry := TableName × List (String × Json)

/-- Why a text is no archive. -/
inductive ArchiveFault where
  | notJson
  | notRecords
  | refused (fault : Fault)
  deriving DecidableEq, Repr

/-- How a fault is reported. -/
def ArchiveFault.message : ArchiveFault → String
  | .notJson => "the records are no JSON"
  | .notRecords => "the records are no list of tables and records"
  | .refused fault => fault.message

/-- An entry as a pair. -/
def entryToJson (entry : Entry) : Json :=
  .arr [.str entry.1.text, .obj entry.2]

/-- The entry that a pair stands for. -/
def entryOfJson? : Json → Option Entry
  | .arr [.str name, .obj members] => (TableName.ofText? name).map fun table => (table, members)
  | _ => none

/-- The entries that an array of pairs stands for. -/
def entriesOfJson? : Json → Option (List Entry)
  | .arr items => items.mapM entryOfJson?
  | _ => none

/-- All entries of a store, table after table. -/
def entries (store : Store) : List Entry :=
  TableName.list.flatMap fun table => (all store table).map fun cells => (table, cells)

/-- The archive of a store. -/
def archive (store : Store) : String :=
  (Json.arr ((entries store).map entryToJson)).compress

/-- The store that entries make up when they are written at a moment. -/
def storeOfEntries (now : Moment) (entries : List Entry) : Except Fault Store := do
  let (_, store) ← insertAll now {} entries
  return store

/-- The store that an archive holds when it is read at a moment. -/
def ofArchive (now : Moment) (text : String) : Except ArchiveFault Store :=
  match Json.read text with
  | .error _ => .error .notJson
  | .ok value =>
    match entriesOfJson? value with
    | none => .error .notRecords
    | some entries => (storeOfEntries now entries).mapError .refused

end Tuition.Record
