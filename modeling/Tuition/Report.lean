/-
# Reports

What a refused operation answers: a code for programs, a message for
people, and sometimes a reason.
-/

namespace Tuition

/-- The answer of a refused operation. -/
structure Report where
  code : String
  message : String
  reason : Option String := none
  deriving DecidableEq, Repr, Inhabited

end Tuition
