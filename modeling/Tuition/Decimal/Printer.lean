/-
# Writing decimals

`Decimal.text` writes coefficient and exponent so that both can be read back:
positional when the exponent is not positive and at most six zeros would follow the
point, else in scientific notation. `Decimal.grouped` is for documents: two places, and
a comma between groups of three digits.
-/

import Tuition.Decimal.Arithmetic
import Tuition.Text.Number

namespace Tuition.Decimal

/-- A text of one repeated character. -/
def repeated (count : Nat) (c : Char) : String :=
  String.ofList (List.replicate count c)

/-- A number with a point before the last `places` digits. -/
def pointed (n places : Nat) : String :=
  let digits := Text.zeroFilled (places + 1) (Text.digits n)
  if places = 0 then digits
  else
    let whole := digits.length - places
    String.ofList (digits.toList.take whole) ++ "." ++ String.ofList (digits.toList.drop whole)

/-- A magnitude in scientific notation, one digit before the point. -/
def scientific (coefficient : Nat) (lead : Int) : String :=
  let digits := Text.digits coefficient
  let power := (if lead < 0 then "E-" else "E+") ++ Text.digits lead.natAbs
  match digits.toList with
  | [] => power
  | [digit] => String.singleton digit ++ power
  | digit :: rest => String.singleton digit ++ "." ++ String.ofList rest ++ power

/-- The sign of a decimal, as a text. -/
def signText (negative : Bool) : String :=
  if negative then "-" else ""

/-- The text of a decimal. -/
def text : Decimal → String
  | .finite negative coefficient exponent =>
    let lead := digitCount coefficient + exponent - 1
    signText negative ++
      if exponent ≤ 0 ∧ -6 ≤ lead then pointed coefficient (-exponent).toNat
      else scientific coefficient lead
  | .infinite negative => signText negative ++ "Infinity"
  | .nan negative signaling payload =>
    signText negative ++ (if signaling then "sNaN" else "NaN") ++
      if payload = 0 then "" else Text.digits payload

/-- Put a comma before every group of three digits but the first. The digits come last first. -/
def groupThrees : List Char → List Char
  | a :: b :: c :: d :: rest => a :: b :: c :: ',' :: groupThrees (d :: rest)
  | few => few

/-- A number with a comma between groups of three digits. -/
def groupedDigits (n : Nat) : String :=
  String.ofList (groupThrees (Text.digits n).toList.reverse).reverse

/-- A number of hundredths with two places and grouped digits. -/
def groupedHundredths (n : Nat) : String :=
  groupedDigits (n / 100) ++ "." ++ Text.zeroFilled 2 (Text.digits (n % 100))

/-- The magnitude in hundredths, a tie going to the even one. -/
def toHundredthsEven (coefficient : Nat) (exponent : Int) : Nat :=
  if -2 ≤ exponent then coefficient * tenTo (exponent + 2).toNat
  else dropToEven coefficient (-2 - exponent).toNat

/-- An amount for a document: two places, a tie going to the even one, and grouped digits. -/
def grouped : Decimal → String
  | .finite negative coefficient exponent =>
    signText negative ++ groupedHundredths (toHundredthsEven coefficient exponent)
  | other => other.text

end Tuition.Decimal
