import Ascent.Solution

/-!
# Neighborhoods

The neighbors of a solution are the solutions that differ from it in exactly
one variable, ordered by that variable.
-/

namespace Ascent

/-- The name of the neighborhood, as reported by a run. -/
def neighborhoodName : String :=
  "single-bit-complement"

namespace Solution

/-- The neighbors of a solution: neighbor `k` has variable `k` inverted. -/
def neighbors (s : Solution) : List Solution :=
  (List.range s.length).map s.flipped

@[simp]
theorem length_neighbors (s : Solution) : s.neighbors.length = s.length := by
  simp [neighbors]

end Solution

end Ascent
