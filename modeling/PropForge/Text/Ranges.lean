/-!
Sets of code points as ascending ranges, both ends included.
-/

namespace PropForge.Text

abbrev Ranges := List (Nat × Nat)

/-- Whether a code point lies in one of the ranges. -/
def inRanges (n : Nat) : Ranges → Bool
  | [] => false
  | (first, last) :: rest => if n < first then false else n ≤ last || inRanges n rest

end PropForge.Text
