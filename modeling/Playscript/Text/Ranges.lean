/-!
Classes of characters as ascending ranges of code points.
-/

namespace Playscript.Text

/-- Ranges by their first and last members, from low to high and apart from each other. -/
abbrev Ranges := List (Nat × Nat)

/-- Whether a code lies in one of the ranges. The search ends at the first range above it. -/
def Ranges.has (code : Nat) : Ranges → Bool
  | [] => false
  | (first, last) :: rest => first ≤ code && (code ≤ last || has code rest)

end Playscript.Text
