/-
# Transactions on the store

Operations work on a pending copy of the store; committing makes it the store, and rolling back
puts the store in its place. Every access to the records, every commit and every rendering is a
call that may be out of order: an outage waits for a call of its kind, lets a number of them pass,
and then breaks one off before it does anything.
-/

import Tuition.Files
import Tuition.Store.Basic

namespace Tuition

/-- The kinds of call that an outage can strike. -/
inductive Call where
  | findStudent
  | findStudents
  | activeStudents
  | allStudents
  | findCourse
  | findEnrollment
  | enrollmentsOfStudent
  | overridesUntil
  | overridesOfEnrollment
  | addOverride
  | findAttendance
  | addInvoice
  | findInvoice
  | findInvoiceFor
  | invoicesOfPeriod
  | saveInvoice
  | removeInvoice
  | sumInvoiced
  | linesOfInvoice
  | addLines
  | removeLines
  | countLines
  | addPayment
  | findPayment
  | removePayment
  | paymentsOfStudent
  | sumPaidOnInvoice
  | sumPaidByStudent
  | findSettings
  | saveSettings
  | ensureSettings
  | commit
  | render
  deriving DecidableEq, Repr

/-- An outage strikes the call of its kind that its countdown reaches one at. -/
structure Outage where
  call : Call
  countdown : Int
  message : String
  deriving DecidableEq, Repr

/-- All that operations read and change. -/
structure World where
  /-- What is committed. -/
  store : Store
  /-- What the current transaction sees. -/
  pending : Store
  /-- Whether the tables of the store exist. -/
  hasTables : Bool
  /-- The outages to come, at most one for each kind of call. -/
  outages : List Outage
  /-- The files. -/
  files : FileTree
  /-- The present moment. -/
  now : Moment

/-- An operation on the world that may break off. What it has done until then stays done. -/
abbrev Tx (α : Type) := ExceptT Fault (StateM World) α

namespace World

/-- Begin a transaction: what was not committed is gone. -/
def begin (world : World) : World :=
  { world with pending := world.store }

/-- Count a call down in one outage. -/
def countDown (call : Call) (outage : Outage) : Outage :=
  if outage.call = call then { outage with countdown := outage.countdown - 1 } else outage

/-- Count a call. The outage that strikes it is over. -/
def count (world : World) (call : Call) : Option Outage × World :=
  let counted := world.outages.map (countDown call)
  let strikes (outage : Outage) : Bool := outage.call == call && outage.countdown == 0
  (counted.find? strikes, { world with outages := counted.filter (!strikes ·) })

/-- Set an outage, in place of one for the same kind of call. The first call is the
earliest that it can strike. -/
def setOutage (world : World) (outage : Outage) : World :=
  let ahead := { outage with countdown := max 1 outage.countdown }
  { world with outages := world.outages.filter (·.call != outage.call) ++ [ahead] }

end World

namespace Tx

/-- Take the result of a computation that may be at fault. -/
def lift {α : Type} (result : Except Fault α) : Tx α :=
  ExceptT.mk (pure result)

/-- Take the result of decimal arithmetic. -/
def arithmetic {α : Type} (result : Except Decimal.Fault α) : Tx α :=
  lift (result.mapError .arithmetic)

/-- Make a call, unless an outage strikes it. -/
def call (kind : Call) : Tx Unit := do
  let counted := (← get).count kind
  set counted.2
  match counted.1 with
  | some outage => throw (.outage outage.message)
  | none => return ()

/-- Require the tables of the store and numbers that fit into them. -/
def requireTable (table : String) (numbers : List Int) : Tx Unit := do
  if !(← get).hasTables then throw (.noTable table)
  lift (Table.requireWords numbers)

/-- Look at the pending store. -/
def look {α : Type} (view : Store → α) : Tx α := do
  return view (← get).pending

/-- Change the pending store. -/
def change (edit : Store → Store) : Tx Unit :=
  modify fun world => { world with pending := edit world.pending }

/-- Make the pending store the store. -/
def commitPending : Tx Unit :=
  modify fun world => { world with store := world.pending }

/-- Commit the transaction. -/
def commit : Tx Unit := do
  call .commit
  commitPending

/-- Give the transaction up. -/
def rollback : Tx Unit :=
  modify World.begin

/-- The present moment. -/
def now : Tx Moment := do
  return (← get).now

/-- Work on the tree of files. -/
def onFiles (action : FileAction Unit) : Tx Unit := do
  let (result, files) := (ExceptT.run action).run (← get).files
  modify fun world => { world with files }
  lift (result.mapError .file)

/-- Run an operation, and answer a fault in another way. -/
def recover {α : Type} (action : Tx α) (answer : Fault → Tx α) : Tx α :=
  tryCatch action answer

/-- Run an operation and keep its fault as a value. -/
def attempt {α : Type} (action : Tx α) : Tx (Except Fault α) :=
  tryCatch (Except.ok <$> action) fun fault => pure (.error fault)

/-- Set the clock. -/
def setClock (moment : Moment) : Tx Unit :=
  modify fun world => { world with now := moment }

/-- Run an operation in a session of its own: it begins with what is committed, and what it leaves
uncommitted is gone. -/
def session {α : Type} (action : Tx α) : Tx α := do
  rollback
  let result ← attempt action
  rollback
  lift result

/-- Run an operation on a world. -/
def perform {α : Type} (action : Tx α) (world : World) : Except Fault α × World :=
  (ExceptT.run action).run world

end Tx
end Tuition
