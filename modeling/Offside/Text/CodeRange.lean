/-! # Classes of characters as ranges of code points

A class of characters is tabled as inclusive ranges of code points.
-/

namespace Offside.Text

/-- Whether the code point of a character lies in one of the ranges, ends included. -/
def inRanges (ranges : List (Nat × Nat)) (c : Char) : Bool :=
  ranges.any fun (first, last) => first ≤ c.toNat && c.toNat ≤ last

end Offside.Text
