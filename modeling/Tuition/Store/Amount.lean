/-
# Amounts in the store

A column of amounts keeps binary fractions and shows two places. An amount of whole cents below
`10 ^ 15` cents is kept exactly; any other is replaced by the nearest binary64 number, which shows
rounded to even. Sums run over binary64 numbers and round at every step; a sum of exactly kept
amounts is exact as long as their number times their size stays below the same bound, because the
roundings then come to less than half a cent. Beyond that bound the model is the `SUM` of SQLite
before version 3.43, which adds the terms one after the other; from that version on `SUM` also
keeps the error of every rounding and adds it at the end.
-/

import Tuition.Binary64
import Tuition.Decimal.Arithmetic
import Tuition.Fault
import Tuition.Word

namespace Tuition.Amount

/-- Amounts of fewer cents are kept exactly. -/
def exactBound : Nat := 1000000000000000

/-- The cents of a decimal, if it is a whole number of cents below the bound. -/
def cents? : Decimal → Option Int
  | .finite negative coefficient exponent =>
    if coefficient = 0 then some 0
    else if Decimal.digitCount coefficient + exponent + 2 > 15 then none
    else if -2 ≤ exponent then
      some (Decimal.signed negative (coefficient * tenTo (exponent + 2).toNat))
    else
      let places := (-2 - exponent).toNat
      if Decimal.digitCount coefficient < places then none
      else if coefficient % tenTo places = 0 then
        some (Decimal.signed negative (coefficient / tenTo places))
      else none
  | _ => none

/-- The exact value of a binary number as a decimal. -/
def ofBinary : Binary64 → Decimal
  | .finite negative mantissa exponent =>
    if 0 ≤ exponent then .finite negative (mantissa * twoTo exponent.toNat) 0
    else .finite negative (mantissa * Nat.pow 5 (-exponent).toNat) exponent
  | .infinite negative => .infinite negative
  | .nan => .nan false false 0

/-- The binary number nearest to a decimal. -/
def toBinary : Decimal → Binary64
  | .finite negative coefficient exponent => Binary64.ofDecimal negative coefficient exponent
  | .infinite negative => .infinite negative
  | .nan .. => .nan

/-- What a column keeps of a decimal: nothing for a decimal that is no number. -/
def keep (amount : Decimal) : Except Fault (Option Decimal) :=
  match amount with
  | .nan _ true _ => .error .signalingAmount
  | .nan _ false _ => .ok none
  | .infinite negative => .ok (some (.infinite negative))
  | .finite negative coefficient exponent =>
    match cents? amount with
    | some cents => .ok (some (.ofCents cents))
    | none => .ok (some (ofBinary (Binary64.ofDecimal negative coefficient exponent)))

/-- Whether a kept amount is a whole number of cents below the bound. -/
def isExact : Decimal → Bool
  | .finite _ coefficient exponent => exponent == -2 && coefficient < exactBound
  | _ => false

/-- The two places that a binary number shows. -/
def shownBinary : Binary64 → Decimal
  | .finite negative mantissa exponent =>
    match (Binary64.finite false mantissa exponent).hundredths? with
    | some count => .finite negative count.toNat (-2)
    | none => .finite negative 0 (-2)
  | .infinite negative => .infinite negative
  | .nan => .nan false false 0

/-- What a column shows of a kept amount. -/
def shown (kept : Decimal) : Decimal :=
  if isExact kept then kept else shownBinary (toBinary kept)

/-- The cents of an exactly kept amount. -/
def centsOf : Decimal → Int
  | .finite negative coefficient _ => Decimal.signed negative coefficient
  | _ => 0

/-! ## Sums -/

/-- A running sum: a binary number, beside which whole numbers are added exactly until a fraction
comes. It overflows when such a whole number leaves a word. -/
structure RunningSum where
  whole : Int := 0
  fractional : Bool := false
  overflown : Bool := false
  binary : Binary64 := .finite false 0 Binary64.leastExponent

/-- The whole number that a column keeps of a binary number, if it is one within a word. -/
def wholeWord? (amount : Binary64) : Option Int :=
  amount.toInt?.filter fun n => Word.fits n && Word.fits (-n)

/-- Add a term. -/
def RunningSum.add (running : RunningSum) (term : Binary64) : RunningSum :=
  let added := { running with binary := running.binary.add term }
  match wholeWord? term with
  | none => { added with fractional := true }
  | some n =>
    if running.fractional || running.overflown then added
    else if Word.fits (running.whole + n) then { added with whole := running.whole + n }
    else { added with overflown := true }

/-- The value of the sum; what is no number counts as nothing. -/
def RunningSum.value (running : RunningSum) : Except Fault Decimal :=
  if running.overflown then .error .sumTooLarge
  else if !running.fractional then .ok (shownBinary (Binary64.ofInt running.whole))
  else if running.binary = .nan then .ok (.ofCents 0)
  else .ok (shownBinary running.binary)

/-- The size of a list of exactly kept amounts, in cents. -/
def totalSize (kept : List Decimal) : Nat :=
  (kept.map fun amount => (centsOf amount).natAbs).foldr (· + ·) 0

/-- Whether a list of kept amounts is summed without a loss that shows. -/
def sumsExactly (kept : List Decimal) : Bool :=
  kept.all isExact && kept.length * totalSize kept < exactBound

/-- The sum of kept amounts, added one after the other without compensation, as it is
shown. A `SUM` that compensates for the roundings gives the same in the exact case and
may differ in the other. -/
def sum (kept : List Decimal) : Except Fault Decimal :=
  if sumsExactly kept then .ok (.ofCents ((kept.map centsOf).foldr (· + ·) 0))
  else ((kept.map toBinary).foldl RunningSum.add {}).value

end Tuition.Amount
