/-
# Binary floating-point numbers of 64 bits

A number is kept as what it is, a mantissa times a power of two, so every operation is
exact arithmetic on whole numbers followed by one rounding to the nearest representable
number, ties to the even mantissa. The shortest text of a number is the one with the fewest
digits that rounds back to it.
-/

import Tuition.Text.Number
import Tuition.Word

namespace Tuition

/-- A binary64 number. A finite one has a mantissa below `2 ^ 53` and an exponent of at least
`-1074`; the mantissa reaches `2 ^ 52` unless the exponent is the least one. -/
inductive Binary64 where
  | finite (negative : Bool) (mantissa : Nat) (exponent : Int)
  | infinite (negative : Bool)
  | nan
  deriving DecidableEq, Repr, Inhabited

namespace Binary64

/-- The least exponent of a finite number. -/
def leastExponent : Int := -1074

/-- The greatest exponent of a finite number. -/
def greatestExponent : Int := 971

/-- Divide and round to the nearest whole number, a tie going to the even neighbour. -/
def divideToEven (dividend divisor : Nat) : Nat :=
  let quotient := dividend / divisor
  let twice := 2 * (dividend % divisor)
  if twice > divisor || (twice == divisor && quotient % 2 == 1) then quotient + 1 else quotient

/-- The quotient of `num` by `den * 2 ^ exponent`, rounded to even. -/
def scaledToEven (num den : Nat) (exponent : Int) : Nat :=
  divideToEven (num * twoTo (-exponent).toNat) (den * twoTo exponent.toNat)

/-- The exponent with which a positive fraction has a mantissa of 53 bits, or the least one. -/
def exponentOf (num den : Nat) : Int :=
  let guess : Int := (Nat.log2 num : Int) - (Nat.log2 den : Int) - 52
  let fits := den * twoTo (52 + guess).toNat ≤ num * twoTo (-(52 + guess)).toNat
  max leastExponent (if fits then guess else guess - 1)

/-- The number nearest to a non-negative fraction, with a sign. -/
def ofFraction (negative : Bool) (num den : Nat) : Binary64 :=
  if num = 0 then .finite negative 0 leastExponent
  else
    let exponent := exponentOf num den
    let mantissa := scaledToEven num den exponent
    if mantissa = twoTo 53 then
      if greatestExponent < exponent + 1 then .infinite negative
      else .finite negative (twoTo 52) (exponent + 1)
    else if greatestExponent < exponent then .infinite negative
    else .finite negative mantissa exponent

/-- The number nearest to `coefficient * 10 ^ exponent`, with a sign. -/
def ofDecimal (negative : Bool) (coefficient : Nat) (exponent : Int) : Binary64 :=
  let size : Int := (Nat.toDigits 10 coefficient).length + exponent
  if coefficient = 0 || size < -330 then .finite negative 0 leastExponent
  else if 320 < size then .infinite negative
  else ofFraction negative (coefficient * tenTo exponent.toNat) (tenTo (-exponent).toNat)

/-- The number nearest to a whole number. -/
def ofInt (n : Int) : Binary64 :=
  ofFraction (n < 0) n.natAbs 1

/-- The value of a finite number as a signed numerator over a positive denominator. -/
def fraction (negative : Bool) (mantissa : Nat) (exponent : Int) : Int × Nat :=
  let size : Int := mantissa * twoTo exponent.toNat
  (if negative then -size else size, twoTo (-exponent).toNat)

/-- The number nearest to a signed fraction. -/
def ofSigned (num : Int) (den : Nat) : Binary64 :=
  ofFraction (num < 0) num.natAbs den

/-- The opposite number. -/
def neg : Binary64 → Binary64
  | .finite negative mantissa exponent => .finite (!negative) mantissa exponent
  | .infinite negative => .infinite (!negative)
  | .nan => .nan

/-- The absolute value. -/
def abs : Binary64 → Binary64
  | .finite _ mantissa exponent => .finite false mantissa exponent
  | .infinite _ => .infinite false
  | .nan => .nan

/-- The sum, rounded once. -/
def add : Binary64 → Binary64 → Binary64
  | .nan, _ => .nan
  | _, .nan => .nan
  | .infinite first, .infinite second => if first = second then .infinite first else .nan
  | .infinite first, _ => .infinite first
  | _, .infinite second => .infinite second
  | .finite n₁ m₁ e₁, .finite n₂ m₂ e₂ =>
    let first := fraction n₁ m₁ e₁
    let second := fraction n₂ m₂ e₂
    let num := first.1 * second.2 + second.1 * first.2
    if num = 0 then .finite (n₁ && n₂) 0 leastExponent
    else ofSigned num (first.2 * second.2)

/-- The difference, rounded once. -/
def sub (first second : Binary64) : Binary64 :=
  add first second.neg

/-- Whether the first number is less than the second; nothing compares with `nan`. -/
def lt : Binary64 → Binary64 → Bool
  | .nan, _ => false
  | _, .nan => false
  | .infinite first, .infinite second => first && !second
  | .infinite first, _ => first
  | _, .infinite second => !second
  | .finite n₁ m₁ e₁, .finite n₂ m₂ e₂ =>
    let first := fraction n₁ m₁ e₁
    let second := fraction n₂ m₂ e₂
    first.1 * second.2 < second.1 * first.2

/-- A whole number, if the number is one. -/
def toInt? : Binary64 → Option Int
  | .finite negative mantissa exponent =>
    let value := fraction negative mantissa exponent
    if value.1 % value.2 = 0 then some (value.1 / value.2) else none
  | _ => none

/-- The greatest whole number that is not above a finite number. -/
def floor? : Binary64 → Option Int
  | .finite negative mantissa exponent =>
    let value := fraction negative mantissa exponent
    some (value.1 / value.2)
  | _ => none

/-- The nearest whole number, the greater one in size of two that are equally near; nothing is
nearest to a number that is not finite. -/
def roundAway : Binary64 → Int
  | .finite negative mantissa exponent =>
    let value := fraction false mantissa exponent
    let size := (2 * value.1 + value.2) / (2 * value.2)
    if negative then -size else size
  | _ => 0

/-! ## The shortest text -/

/-- Compare `first * 10 ^ tens` with `second * 2 ^ twos`. -/
def compareScaled (first : Nat) (tens : Int) (second : Nat) (twos : Int) : Ordering :=
  compare (first * tenTo tens.toNat * twoTo (-twos).toNat)
    (second * twoTo twos.toNat * tenTo (-tens).toNat)

/-- The power of ten of the first significant digit of a positive number. -/
def leadingPower (mantissa : Nat) (exponent : Int) : Int :=
  let scaled := mantissa * tenTo 330 * twoTo exponent.toNat / twoTo (-exponent).toNat
  (Nat.toDigits 10 scaled).length - 331

/-- Whether `first * 10 ^ tens` rounds to the given positive number. -/
def roundsBack (mantissa : Nat) (exponent : Int) (first : Nat) (tens : Int) : Bool :=
  let lower :=
    if mantissa = twoTo 52 ∧ leastExponent < exponent then 4 * mantissa - 1 else 4 * mantissa - 2
  let upper := 4 * mantissa + 2
  let even := mantissa % 2 = 0
  let above := compareScaled first tens lower (exponent - 2)
  let below := compareScaled first tens upper (exponent - 2)
  (above = .gt ∨ (above = .eq ∧ even)) ∧ (below = .lt ∨ (below = .eq ∧ even))

/-- The neighbour of a positive number on the grid of multiples of `10 ^ tens` that rounds back to
it; of two such neighbours the nearer, and of two equally near the even one. -/
def gridNeighbour? (mantissa : Nat) (exponent : Int) (tens : Int) : Option Nat :=
  let num := mantissa * twoTo exponent.toNat * tenTo (-tens).toNat
  let den := twoTo (-exponent).toNat * tenTo tens.toNat
  let below := num / den
  let nearest := divideToEven num den
  let other := if nearest = below then below + 1 else below
  if roundsBack mantissa exponent nearest tens then some nearest
  else if roundsBack mantissa exponent other tens then some other
  else none

/-- The fewest digits that round back to a positive number, with the power of ten of the last one.
Seventeen digits always suffice. -/
def shortestDigits (mantissa : Nat) (exponent : Int) : Nat × Int :=
  let lead := leadingPower mantissa exponent
  let grids := (List.range 18).map fun (count : Nat) => lead - (count : Int)
  (grids.findSome? fun tens =>
    (gridNeighbour? mantissa exponent tens).map fun found => (found, tens)).getD (0, 0)

/-- Strip the zeros at the end of a number, counting them into the exponent. -/
def stripZeros (fuel : Nat) (digits : Nat) (tens : Int) : Nat × Int :=
  match fuel with
  | 0 => (digits, tens)
  | fuel + 1 =>
    if digits ≠ 0 ∧ digits % 10 = 0 then stripZeros fuel (digits / 10) (tens + 1)
    else (digits, tens)

/-- The shortest digits laid out: positional for first digits from `10 ^ -4` to `10 ^ 15`, with
`.0` after a whole number, and otherwise with an exponent of at least two digits. -/
def layOut (digits : Nat) (tens : Int) : String :=
  let text := Text.digits digits
  let lead := tens + text.length - 1
  if -4 ≤ lead ∧ lead ≤ 15 then
    if 0 ≤ tens then text ++ String.ofList (List.replicate tens.toNat '0') ++ ".0"
    else if 0 ≤ lead then
      String.ofList (text.toList.take (lead.toNat + 1)) ++ "." ++
        String.ofList (text.toList.drop (lead.toNat + 1))
    else "0." ++ String.ofList (List.replicate (-lead - 1).toNat '0') ++ text
  else
    let exponentText :=
      (if lead < 0 then "e-" else "e+") ++ Text.zeroFilled 2 (Text.digits lead.natAbs)
    match text.toList with
    | [] => exponentText
    | [digit] => String.singleton digit ++ exponentText
    | digit :: rest => String.singleton digit ++ "." ++ String.ofList rest ++ exponentText

/-- The shortest text that reads back as the number. -/
def text : Binary64 → String
  | .nan => "nan"
  | .infinite negative => if negative then "-inf" else "inf"
  | .finite negative mantissa exponent =>
    let sign := if negative then "-" else ""
    if mantissa = 0 then sign ++ "0.0"
    else
      let found := shortestDigits mantissa exponent
      let short := stripZeros 20 found.1 found.2
      sign ++ layOut short.1 short.2

/-- The nearest multiple of one hundredth, as a number of hundredths; a tie
goes to the even one. -/
def hundredths? : Binary64 → Option Int
  | .finite negative mantissa exponent =>
    let count := divideToEven (mantissa * 100 * twoTo exponent.toNat) (twoTo (-exponent).toNat)
    some (if negative then -(count : Int) else count)
  | _ => none

end Binary64
end Tuition
