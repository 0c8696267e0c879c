/-
# Decimal arithmetic

Every operation takes the exact result and rounds it once, to 28 significant digits with ties to
the even digit. A result whose first digit stands beyond `10 ^ 999999` overflows. `quantize`
instead fixes the number of places, rounds half up, and refuses a result of more than 28 digits.
-/

import Tuition.Decimal.Basic

namespace Tuition.Decimal

/-- The number of significant digits of a result. -/
def precision : Nat := 28

/-- The greatest place of a first digit. -/
def greatestPlace : Int := 999999

/-- The least place of a last digit. -/
def leastExponent : Int := -1000026

/-- The greatest exponent of a coefficient that has all its digits. -/
def fullExponent : Int := 999972

/-- Drop digits at the end, a tie going to the even digit. -/
def dropToEven (coefficient dropped : Nat) : Nat :=
  if digitCount coefficient < dropped then 0
  else
    let unit := tenTo dropped
    let quotient := coefficient / unit
    let twice := 2 * (coefficient % unit)
    if twice > unit || (twice == unit && quotient % 2 == 1) then quotient + 1 else quotient

/-- Drop digits at the end, a tie going away from zero. -/
def dropHalfUp (coefficient dropped : Nat) : Nat :=
  if digitCount coefficient < dropped then 0
  else (2 * coefficient + tenTo dropped) / (2 * tenTo dropped)

/-- Fit an exact result into the precision. -/
def finalize (negative : Bool) (coefficient : Nat) (exponent : Int) : Except Fault Decimal :=
  if coefficient = 0 then
    .ok (.finite negative 0 (max leastExponent (min exponent greatestPlace)))
  else
    let kept := digitCount coefficient + exponent - precision
    let lowest := max leastExponent kept
    if fullExponent < kept then .error .overflow
    else if exponent < lowest then
      let rounded := dropToEven coefficient (lowest - exponent).toNat
      if rounded = tenTo precision then
        if fullExponent < lowest + 1 then .error .overflow
        else .ok (.finite negative (tenTo (precision - 1)) (lowest + 1))
      else .ok (.finite negative rounded lowest)
    else .ok (.finite negative coefficient exponent)

/-- A result that stands for no number: silent, with a payload within the precision. -/
def silence (negative : Bool) (payload : Nat) : Decimal :=
  .nan negative false (payload % tenTo precision)

/-- What becomes of two operands when one of them is no number: a signaling one is refused, and of
silent ones the first is passed on. -/
def nanOperand? : Decimal → Decimal → Option (Except Fault Decimal)
  | .nan _ true _, _ => some (.error .invalid)
  | _, .nan _ true _ => some (.error .invalid)
  | .nan negative false payload, _ => some (.ok (silence negative payload))
  | _, .nan negative false payload => some (.ok (silence negative payload))
  | _, _ => none

/-- The sum of two finite decimals that are not zero. When one is too small to reach the digits
that are kept, a single unit far below them takes its place, which rounds alike. -/
def addNonzero (n₁ : Bool) (c₁ : Nat) (e₁ : Int) (n₂ : Bool) (c₂ : Nat) (e₂ : Int) :
    Except Fault Decimal :=
  let first := if e₁ < e₂ then (n₂, c₂, e₂) else (n₁, c₁, e₁)
  let second := if e₁ < e₂ then (n₁, c₁, e₁) else (n₂, c₂, e₂)
  let floor := first.2.2 + min (-1) ((digitCount first.2.1 : Int) - precision - 2)
  let low : Nat × Int :=
    if digitCount second.2.1 + second.2.2 - 1 < floor then (1, floor) else second.2
  let total :=
    signed first.1 (first.2.1 * tenTo (first.2.2 - low.2).toNat) + signed second.1 low.1
  if total = 0 then finalize false 0 (min e₁ e₂)
  else finalize (total < 0) total.natAbs low.2

/-- The sum of two finite decimals. -/
def addFinite (n₁ : Bool) (c₁ : Nat) (e₁ : Int) (n₂ : Bool) (c₂ : Nat) (e₂ : Int) :
    Except Fault Decimal :=
  if c₁ = 0 ∧ c₂ = 0 then finalize (n₁ && n₂) 0 (min e₁ e₂)
  else if c₁ = 0 then
    let exponent := max (min e₁ e₂) (e₂ - precision - 1)
    finalize n₂ (c₂ * tenTo (e₂ - exponent).toNat) exponent
  else if c₂ = 0 then
    let exponent := max (min e₁ e₂) (e₁ - precision - 1)
    finalize n₁ (c₁ * tenTo (e₁ - exponent).toNat) exponent
  else addNonzero n₁ c₁ e₁ n₂ c₂ e₂

/-- The sum. -/
def add (x y : Decimal) : Except Fault Decimal :=
  match nanOperand? x y with
  | some result => result
  | none =>
    match x, y with
    | .infinite n₁, .infinite n₂ => if n₁ = n₂ then .ok x else .error .invalid
    | .infinite _, _ => .ok x
    | _, .infinite _ => .ok y
    | .finite n₁ c₁ e₁, .finite n₂ c₂ e₂ => addFinite n₁ c₁ e₁ n₂ c₂ e₂
    | _, _ => .error .invalid

/-- The same magnitude with the other sign. -/
def flipSign : Decimal → Decimal
  | .finite negative coefficient exponent => .finite (!negative) coefficient exponent
  | .infinite negative => .infinite (!negative)
  | .nan negative signaling payload => .nan (!negative) signaling payload

/-- The difference. -/
def sub (x y : Decimal) : Except Fault Decimal :=
  match nanOperand? x y with
  | some result => result
  | none => add x y.flipSign

/-- The opposite number; the opposite of a zero is the positive zero. -/
def neg : Decimal → Except Fault Decimal
  | .finite negative coefficient exponent =>
    finalize (if coefficient = 0 then false else !negative) coefficient exponent
  | .infinite negative => .ok (.infinite (!negative))
  | .nan _ true _ => .error .invalid
  | .nan negative false payload => .ok (silence negative payload)

/-- The product. -/
def mul (x y : Decimal) : Except Fault Decimal :=
  match nanOperand? x y with
  | some result => result
  | none =>
    match x, y with
    | .infinite n₁, .infinite n₂ => .ok (.infinite (n₁ != n₂))
    | .infinite n₁, .finite n₂ c₂ _ =>
      if c₂ = 0 then .error .invalid else .ok (.infinite (n₁ != n₂))
    | .finite n₁ c₁ _, .infinite n₂ =>
      if c₁ = 0 then .error .invalid else .ok (.infinite (n₁ != n₂))
    | .finite n₁ c₁ e₁, .finite n₂ c₂ e₂ => finalize (n₁ != n₂) (c₁ * c₂) (e₁ + e₂)
    | _, _ => .error .invalid

/-- The hundredth part. The quotient keeps the exponent of the dividend where its value allows. -/
def percent : Decimal → Except Fault Decimal
  | .finite negative coefficient exponent =>
    if coefficient % 100 = 0 then finalize negative (coefficient / 100) exponent
    else if coefficient % 10 = 0 then finalize negative (coefficient / 10) (exponent - 1)
    else finalize negative coefficient (exponent - 2)
  | .infinite negative => .ok (.infinite negative)
  | .nan _ true _ => .error .invalid
  | .nan negative false payload => .ok (silence negative payload)

/-- The magnitude in hundredths, rounded half up. -/
def toHundredths (coefficient : Nat) (exponent : Int) : Nat :=
  if -2 ≤ exponent then coefficient * tenTo (exponent + 2).toNat
  else dropHalfUp coefficient (-2 - exponent).toNat

/-- Round to two places, a tie going away from zero. -/
def quantize : Decimal → Except Fault Decimal
  | .finite negative coefficient exponent =>
    if coefficient = 0 then .ok (.finite negative 0 (-2))
    else if (precision : Int) < digitCount coefficient + exponent + 2 then .error .invalid
    else
      let hundredths := toHundredths coefficient exponent
      if precision < digitCount hundredths then .error .invalid
      else .ok (.finite negative hundredths (-2))
  | .infinite _ => .error .invalid
  | .nan _ true _ => .error .invalid
  | .nan negative false payload => .ok (silence negative payload)

/-- The sum of a list, starting from zero. -/
def sum (terms : List Decimal) : Except Fault Decimal :=
  terms.foldlM add (ofInt 0)

end Tuition.Decimal
