/-
# JSON values

Whole numbers and fractional numbers are kept apart, because a request may treat `7` and
`7.0` differently. An object keeps the order in which its members first appear, and a
repeated name keeps its last value.
-/

import Tuition.Binary64

namespace Tuition

/-- A JSON value. -/
inductive Json where
  | null
  | bool (value : Bool)
  | int (value : Int)
  | real (value : Binary64)
  | str (value : String)
  | arr (items : List Json)
  | obj (members : List (String × Json))
  deriving Repr, Inhabited

namespace Json

/-- Write a member: in place if the name is known, else at the end. -/
def put (members : List (String × Json)) (name : String) (value : Json) : List (String × Json) :=
  if members.any (·.1 == name) then
    members.map fun member => if member.1 == name then (name, value) else member
  else members ++ [(name, value)]

/-- The value of a member, if the value is an object that has it. -/
def get? (value : Json) (name : String) : Option Json :=
  match value with
  | .obj members => members.lookup name
  | _ => none

/-- A text, or `null`. -/
def ofText? : Option String → Json
  | none => .null
  | some text => .str text

/-- A whole number, or `null`. -/
def ofInt? : Option Int → Json
  | none => .null
  | some n => .int n

/-- Whether a value counts as true: all do but nothing, `false`, zero, and what is empty. -/
def isTruthy : Json → Bool
  | .null => false
  | .bool value => value
  | .int n => n != 0
  | .real (.finite _ mantissa _) => mantissa != 0
  | .real _ => true
  | .str text => !text.isEmpty
  | .arr items => !items.isEmpty
  | .obj members => !members.isEmpty

/-- The kind of a value, as messages call it. -/
def kindName : Json → String
  | .null => "NoneType"
  | .bool _ => "bool"
  | .int _ => "int"
  | .real _ => "float"
  | .str _ => "str"
  | .arr _ => "list"
  | .obj _ => "dict"

/-- The whole number that a value is. A truth value counts as 0 or 1. -/
def whole? : Json → Option Int
  | .int n => some n
  | .bool value => some (if value then 1 else 0)
  | _ => none

/-- Leave out the members that are `null`. -/
def withoutNulls (members : List (String × Json)) : Json :=
  .obj (members.filter fun member => match member.2 with | .null => false | _ => true)

end Json
end Tuition
