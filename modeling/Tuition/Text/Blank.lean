/-
# Blanks at the ends of a text

Two sets of blanks are in use. Readers of numbers and of the wording of a date take the Unicode
property `White_Space` together with the four information separators; the checks of a request take
the property alone. Trimming only ever removes characters at the two ends.
-/

namespace Tuition.Text

/-- The Unicode property `White_Space`. -/
def isWhiteSpace (c : Char) : Bool :=
  let code := c.toNat
  (0x09 ≤ code && code ≤ 0x0D) || code == 0x20 || code == 0x85 || code == 0xA0 ||
    code == 0x1680 || (0x2000 ≤ code && code ≤ 0x200A) || code == 0x2028 || code == 0x2029 ||
    code == 0x202F || code == 0x205F || code == 0x3000

/-- White space together with the four information separators. -/
def isBlank (c : Char) : Bool :=
  isWhiteSpace c || (0x1C ≤ c.toNat && c.toNat ≤ 0x1F)

/-- Remove the characters of a class from both ends. -/
def trim (removed : Char → Bool) (text : List Char) : List Char :=
  ((text.dropWhile removed).reverse.dropWhile removed).reverse

end Tuition.Text
