/-!
# Ranges of characters

Many properties of characters are given by tables of code points.  A table lists
inclusive ranges in increasing order.
-/

namespace Ascent.Text

/-- Whether a character lies in one of the ranges. -/
def isWithin (ranges : List (Nat × Nat)) (c : Char) : Bool :=
  let code := c.toNat
  ranges.any fun (low, high) => low ≤ code && code ≤ high

end Ascent.Text
