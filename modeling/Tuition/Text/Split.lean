/-
# Splitting a text

A text is split at every separator. There is always one part more than there are separators, and
parts can be empty.
-/

namespace Tuition.Text

/-- The parts of a text between its separators. -/
def split (separates : Char → Bool) : List Char → List (List Char)
  | [] => [[]]
  | c :: rest =>
    match split separates rest with
    | [] => [[c]]
    | first :: others => if separates c then [] :: first :: others else (c :: first) :: others

end Tuition.Text
