/-
# Checking all fields of a form

Every field of a form is checked, so that all complaints are gathered; the form has a value only
if there are none. A fault of arithmetic is no complaint: it breaks the whole check off.
-/

import Tuition.Decimal.Basic
import Tuition.Request.Problem

namespace Tuition.Request

/-- The outcome of checking a form or a part of it. -/
inductive Checked (α : Type) where
  | accepted (value : α)
  | refused (complaints : List Complaint)
  | broken (fault : Decimal.Fault)
  deriving Repr

namespace Checked

/-- Apply a function to an accepted value. -/
def map {α β : Type} (f : α → β) : Checked α → Checked β
  | .accepted value => .accepted (f value)
  | .refused complaints => .refused complaints
  | .broken fault => .broken fault

/-- Put two parts together: a fault of either breaks off, and complaints
about both are gathered. -/
def both {α β γ : Type} (f : α → β → γ) : Checked α → Checked β → Checked γ
  | .broken fault, _ => .broken fault
  | _, .broken fault => .broken fault
  | .refused first, .refused second => .refused (first ++ second)
  | .refused complaints, _ => .refused complaints
  | _, .refused complaints => .refused complaints
  | .accepted first, .accepted second => .accepted (f first second)

/-- Put a function of an accepted part to a further part. -/
def apply {α β : Type} (part : Checked (α → β)) (next : Checked α) : Checked β :=
  both (fun f value => f value) part next

instance : Functor Checked := ⟨map, fun value => map fun _ => value⟩
instance : Pure Checked := ⟨.accepted⟩
instance : Seq Checked := ⟨fun part next => apply part (next ())⟩

/-- Check an accepted value as a whole. -/
def andThen {α β : Type} (part : Checked α) (check : α → Checked β) : Checked β :=
  match part with
  | .accepted value => check value
  | .refused complaints => .refused complaints
  | .broken fault => .broken fault

/-- Complain about the form as a whole unless a condition holds. -/
def requiring {α : Type} (part : Checked α) (holds : α → Bool) (message : String) : Checked α :=
  part.andThen fun value =>
    if holds value then .accepted value else .refused [⟨[], .rule message⟩]

end Checked
end Tuition.Request
