/-
# Decimal numbers

A decimal is a signed whole coefficient times a power of ten, so `1.50` and `1.5` are different
decimals of equal value. Zeros have a sign and an exponent as well. Beside the finite ones there
are the two infinities and the values that stand for no number, each with a payload.
-/

import Tuition.Word

namespace Tuition

/-- A decimal number, kept with its exponent. -/
inductive Decimal where
  | finite (negative : Bool) (coefficient : Nat) (exponent : Int)
  | infinite (negative : Bool)
  | nan (negative : Bool) (signaling : Bool) (payload : Nat)
  deriving DecidableEq, Repr, Inhabited

namespace Decimal

/-- Why an operation has no result: the text is not a number, the operation has no value within
the precision, or the value is too large. -/
inductive Fault where
  | notANumber
  | invalid
  | overflow
  deriving DecidableEq, Repr

/-- How a fault is reported. -/
def Fault.message : Fault → String
  | .notANumber => "[<class 'decimal.ConversionSyntax'>]"
  | .invalid => "[<class 'decimal.InvalidOperation'>]"
  | .overflow => "[<class 'decimal.Overflow'>]"

/-- The decimal of a whole number. -/
def ofInt (n : Int) : Decimal :=
  .finite (n < 0) n.natAbs 0

/-- The decimal with two places that is a whole number of cents. -/
def ofCents (n : Int) : Decimal :=
  .finite (n < 0) n.natAbs (-2)

/-- The number of decimal digits; zero has one. -/
def digitCount (n : Nat) : Nat :=
  (Nat.toDigits 10 n).length

/-- Whether the decimal is a number other than an infinity. -/
def isFinite : Decimal → Bool
  | .finite .. => true
  | _ => false

/-- A coefficient with its sign. -/
def signed (negative : Bool) (coefficient : Nat) : Int :=
  if negative then -(coefficient : Int) else coefficient

/-- Compare two positive magnitudes. The place of the first digit decides unless it is the same,
so no power of ten is larger than the longer coefficient. -/
def compareMagnitudes (c₁ : Nat) (e₁ : Int) (c₂ : Nat) (e₂ : Int) : Ordering :=
  let lead₁ := digitCount c₁ + e₁
  let lead₂ := digitCount c₂ + e₂
  if lead₁ < lead₂ then .lt
  else if lead₂ < lead₁ then .gt
  else
    let least := min e₁ e₂
    compare (c₁ * tenTo (e₁ - least).toNat) (c₂ * tenTo (e₂ - least).toNat)

/-- Compare two finite decimals by value. -/
def compareFinite (n₁ : Bool) (c₁ : Nat) (e₁ : Int) (n₂ : Bool) (c₂ : Nat) (e₂ : Int) :
    Ordering :=
  if c₁ = 0 ∧ c₂ = 0 then .eq
  else if c₁ = 0 then if n₂ then .gt else .lt
  else if c₂ = 0 then if n₁ then .lt else .gt
  else
    match n₁, n₂ with
    | true, false => .lt
    | false, true => .gt
    | false, false => compareMagnitudes c₁ e₁ c₂ e₂
    | true, true => compareMagnitudes c₂ e₂ c₁ e₁

/-- Compare two decimals by value; a value that is no number cannot be compared. -/
def compare : Decimal → Decimal → Except Fault Ordering
  | .nan .., _ => .error .invalid
  | _, .nan .. => .error .invalid
  | .infinite true, .infinite true => .ok .eq
  | .infinite true, _ => .ok .lt
  | _, .infinite true => .ok .gt
  | .infinite false, .infinite false => .ok .eq
  | .infinite false, _ => .ok .gt
  | _, .infinite false => .ok .lt
  | .finite n₁ c₁ e₁, .finite n₂ c₂ e₂ => .ok (compareFinite n₁ c₁ e₁ n₂ c₂ e₂)

/-- Compare a decimal with zero. -/
def compareZero (x : Decimal) : Except Fault Ordering :=
  x.compare (ofInt 0)

/-- The order of two decimals by value, taking those that are no number as equal to everything. -/
def order (x y : Decimal) : Ordering :=
  match x.compare y with
  | .ok found => found
  | .error _ => .eq

end Decimal
end Tuition
