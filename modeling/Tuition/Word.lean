/-
# Powers and words

Powers of two and of ten scale numbers in both systems. A word of 64 bits holds the whole numbers
from minus a bound to below it, and so does a half word of 32 bits.
-/

namespace Tuition

/-- A power of ten. -/
abbrev tenTo (n : Nat) : Nat := Nat.pow 10 n

/-- A power of two. -/
abbrev twoTo (n : Nat) : Nat := Nat.pow 2 n

namespace Word

/-- The bound of a word. -/
def bound : Int := 9223372036854775808

/-- The bound of a half word. -/
def halfBound : Int := 2147483648

/-- Whether a whole number fits into a word. -/
def fits (n : Int) : Bool :=
  -bound ≤ n && n < bound

end Word
end Tuition
