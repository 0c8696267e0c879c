/-
# Overriding prices

A price override is added to an enrollment unless its window shares a day with one that is there.
-/

import Tuition.Refusal
import Tuition.Store.Access

namespace Tuition.Billing

/-- An override to be added. -/
structure OverrideCommand where
  enrollmentId : Int
  window : Window
  lessonPrice : Option Decimal
  subscriptionPrice : Option Decimal
  deriving DecidableEq, Repr

/-- Round a price that may be missing. -/
def roundPrice? (price : Option Decimal) : Except Decimal.Fault (Option Decimal) :=
  price.mapM Money.round

/-- Write the override of a command. -/
def writeOverride (command : OverrideCommand) : Tx PriceOverride := do
  let lessonPrice ← Tx.arithmetic (roundPrice? command.lessonPrice)
  let subscriptionPrice ← Tx.arithmetic (roundPrice? command.subscriptionPrice)
  let created ← Access.addOverride
    ⟨0, command.enrollmentId, command.window.start, command.window.stop, lessonPrice,
      subscriptionPrice⟩
  Tx.commit
  return created

/-- Add an override. -/
def addOverride (command : OverrideCommand) : Tx (Except Refusal PriceOverride) :=
  Tx.recover (do
    let some enrollment ← Access.findEnrollment command.enrollmentId
      | return .error (.noEnrollment command.enrollmentId)
    let existing ← Access.overridesOfEnrollment enrollment.id
    match existing.find? fun override => override.window.overlaps command.window with
    | some override => return .error (.overlapping enrollment.id override.validFrom override.id)
    | none => return .ok (← writeOverride command)) fun fault => do
    Tx.rollback
    return .error (.addingOverrideFailed fault)

end Tuition.Billing
