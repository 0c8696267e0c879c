/-
# Money

Every amount is rounded to cents by one rule: two places, a half going away from zero. A number
that arrives as a binary fraction is first read as its shortest text, so no residue of it is kept.
-/

import Tuition.Decimal.Arithmetic
import Tuition.Decimal.Reader
import Tuition.Json.Basic

namespace Tuition

/-- The decimal that a JSON value is written as. -/
def Decimal.ofJson : Json → Except Decimal.Fault Decimal
  | .int value => .ok (.ofInt value)
  | .real value => Decimal.read value.text
  | .str value => Decimal.read value
  | _ => .error .notANumber

namespace Money

/-- No money. -/
def nothing : Decimal :=
  .ofCents 0

/-- Round to cents, a half going away from zero. -/
def round (amount : Decimal) : Except Decimal.Fault Decimal :=
  amount.quantize

/-- What remains of each unit of a price after a discount in percent. -/
def factor (discount : Decimal) : Except Decimal.Fault Decimal := do
  Decimal.sub (.ofInt 1) (← discount.percent)

/-- A price times a factor, rounded to cents. -/
def scaled (price factor : Decimal) : Except Decimal.Fault Decimal := do
  round (← price.mul factor)

/-- A price less a discount in percent, rounded to cents. -/
def discounted (price discount : Decimal) : Except Decimal.Fault Decimal := do
  scaled price (← factor discount)

/-- The greater of nothing and an amount. -/
def atLeastNothing (amount : Decimal) : Except Decimal.Fault Decimal := do
  match ← nothing.compare amount with
  | .lt => return amount
  | _ => return nothing

/-- The sum of amounts, rounded to cents. -/
def total (amounts : List Decimal) : Except Decimal.Fault Decimal := do
  round (← Decimal.sum amounts)

end Money
end Tuition
