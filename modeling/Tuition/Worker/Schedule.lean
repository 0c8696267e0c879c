/-
# The billing schedule

A worker that keeps running checks from time to time. On the first check of a month that is on or
after the billing day it bills the month before. A run that comes to an end uses up the month,
while one that a fault breaks off is tried again at the next check.
-/

import Tuition.Worker.Run

namespace Tuition.Worker

/-- A year and a month of the calendar. -/
abbrev Month := Nat × Nat

/-- The month of a date. -/
def monthOf (date : Date) : Month :=
  (date.year, date.month)

/-- The day of the month from which on the month before is billed. -/
def billingDay : Tx Int := do
  let settings ← Access.ensureSettings
  Tx.commitPending
  return settings.billingDay

/-- Whether a run is due on a day. -/
def isDue (today : Date) (billingDay : Int) (done : Option Month) : Bool :=
  billingDay ≤ today.day && done != some (monthOf today)

/-- What a check does unless a fault breaks it off: the month that is done afterwards. -/
def checkOnce (worker : Worker) (done : Option Month) : Tx (Option Month) := do
  let today := (← Tx.now).date
  let day ← Tx.session billingDay
  if isDue today day done then
    let _ ← worker.runOnce none none
    return some (monthOf today)
  else return done

/-- Check, and pass over a fault. -/
def check (worker : Worker) (done : Option Month) : Tx (Option Month) :=
  Tx.recover (worker.checkOnce done) fun _ => return done

/-- The invoices that are committed. -/
def committedInvoices : Tx (List Invoice) :=
  Tx.session do
    Tx.requireTable "invoices" []
    Tx.look (·.invoices)

/-- Check now and at each of the times to come, and look at the invoices after each check. -/
def keepRunning (worker : Worker) (done : Option Month) : List Moment → Tx (List (List Invoice))
  | [] => do
    let _ ← worker.check done
    return [← committedInvoices]
  | next :: times => do
    let done ← worker.check done
    let seen ← committedInvoices
    Tx.setClock next
    return seen :: (← worker.keepRunning done times)

/-- The seconds between two checks: what is asked for, unless that is nothing. -/
def interval (asked : Json) (usual : Json) : Json :=
  if asked.isTruthy then asked else usual

end Tuition.Worker
