import Ascent.Addressing
import Ascent.Solution

/-!
# Events of a climb

A climb tells about every iteration by a `Step` and about its end by a `Final`.
Both are plain data: a report may also be fed with events that no climb made.
-/

namespace Ascent.Climb

/-- A neighbor as it was seen in a step. -/
structure Neighbor where
  solution : Solution
  /-- The number of the inverted variable, counted from one. -/
  bit : Int
  feasible : Bool
  /-- The fitness of a feasible neighbor, otherwise zero. -/
  fitness : Int64
deriving DecidableEq, Repr

/-- The bytes of a neighbor: each of its four fields takes a word. -/
def Neighbor.size : Nat :=
  4 * wordSize

/-- One iteration. -/
structure Step where
  iteration : Int
  current : Solution
  fitness : Int64
  feasible : Bool
  neighbors : List Neighbor
  /-- The index of the neighbor moved to; negative if there is none. -/
  selected : Int
deriving DecidableEq, Repr

/-- Whether the search ends with this step. -/
def Step.terminal (step : Step) : Bool :=
  step.selected < 0

/-- The end of a climb. -/
structure Final where
  iteration : Int
  solution : Solution
  fitness : Int64
  feasible : Bool
  reason : String
deriving DecidableEq, Repr

/-- What a climb tells. -/
inductive Event where
  | step (step : Step)
  | final (final : Final)
deriving DecidableEq, Repr

/-- Why a climb ended. -/
inductive Stop where
  | localOptimum
  | iterationCap
  | interrupted (signal : Interrupt)
deriving DecidableEq, Repr

namespace Stop

/-- The reason as it is reported. -/
def reason : Stop → String
  | .localOptimum => "local-optimum"
  | .iterationCap => "max-iterations"
  | .interrupted _ => "context"

/-- The error that an interrupted climb returns beside its result. -/
def error? : Stop → Option Error
  | .interrupted signal => some (.of (.interrupted signal))
  | _ => none

end Stop

end Ascent.Climb
