/-! Character classes given as lists of code point ranges. -/

namespace RobotPuzzle.Text

/-- The code point of `c` lies in one of the ranges, both ends included. -/
def inRanges (ranges : List (Nat × Nat)) (c : Char) : Bool :=
  ranges.any fun (first, last) => first ≤ c.toNat && c.toNat ≤ last

end RobotPuzzle.Text
