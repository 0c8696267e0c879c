/-
# Windows of validity

A window is the span of days on which a price override holds. It is closed at both
ends, and it may have no end.
-/

import Tuition.Calendar.Date

namespace Tuition

/-- A span of days from a first day to a last day, or without a last day. -/
structure Window where
  start : Date
  stop : Option Date
  deriving DecidableEq, Repr

namespace Window

/-- Whether a day lies in the window. -/
def contains (window : Window) (day : Date) : Bool :=
  window.start ≤ day && (window.stop.map fun last => decide (day ≤ last)).getD true

/-- Whether the window starts no later than a day, which may be missing. -/
def startsBy (window : Window) : Option Date → Bool
  | none => true
  | some last => window.start ≤ last

/-- Whether the window still holds on a day. -/
def reaches (window : Window) (day : Date) : Bool :=
  match window.stop with
  | none => true
  | some last => day ≤ last

/-- Whether two windows share a day, each of them being non-empty. -/
def overlaps (window other : Window) : Bool :=
  window.startsBy other.stop && window.reaches other.start

end Window
end Tuition
