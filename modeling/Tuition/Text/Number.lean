/-
# Whole numbers in fixed-width columns

A padded number fills its column with zeros between the sign and the digits; a number that is too
wide for the column is written in full.
-/

namespace Tuition.Text

/-- The decimal digits of a number, as a text. -/
def digits (n : Nat) : String :=
  String.ofList (Nat.toDigits 10 n)

/-- A whole number in decimal, with a minus sign when it is negative. -/
def integer (n : Int) : String :=
  if n < 0 then "-" ++ digits n.natAbs else digits n.natAbs

/-- Fill a text on the left with zeros up to a width. -/
def zeroFilled (width : Nat) (text : String) : String :=
  String.ofList (List.replicate (width - text.length) '0') ++ text

/-- A whole number in a column: the sign counts towards the width, and zeros follow it. -/
def padded (width : Nat) (n : Int) : String :=
  if n < 0 then "-" ++ zeroFilled (width - 1) (digits n.natAbs)
  else zeroFilled width (digits n.natAbs)

/-- Lower-case hexadecimal digits of a number, filled with zeros up to a width. -/
def hexadecimal (width n : Nat) : String :=
  zeroFilled width (String.ofList (Nat.toDigits 16 n))

end Tuition.Text
