import Ascent.Constraint
import Ascent.Objective

/-!
# Problems

A problem is an objective to maximise under a set of constraints.  Its parts
may be missing, because a caller can put one together without checking it;
`Problem.validate` says whether it can be searched, and `Problem.make` builds
only such problems.
-/

namespace Ascent

/-- A 0/1 problem, possibly not yet checked. -/
structure Problem where
  name : String
  objective : Option Objective
  constraints : Option ConstraintSet
deriving DecidableEq, Repr

namespace Problem

/-- The constraints of a problem; a missing set has none. -/
def members (p : Problem) : List Constraint :=
  match p.constraints with
  | some cs => cs.members
  | none => []

/-- Every constraint must have the given number of weights; the first one has
index `index`. -/
def checkWidths (width : Nat) : Nat → List Constraint → Except Error Unit
  | _, [] => .ok ()
  | index, c :: rest =>
      if c.length = width then checkWidths width (index + 1) rest
      else
        .error (((Error.of (.weightCount c.length width)).within (.member index)).within .problem)

/-- A problem can be searched when it is there, has an objective with at least
one variable, and all constraints have the objective's width. -/
def validate : Option Problem → Except Error Unit
  | none => .error (.of .noProblem)
  | some p =>
      match p.objective with
      | none => .error (.of .noObjective)
      | some o =>
          if o.length = 0 then .error ((Error.of .emptyWeights).within .problem)
          else checkWidths o.length 0 p.members

/-- Build a checked problem without a name. -/
def make (objective : Option Objective) (constraints : Option ConstraintSet) :
    Except Error Problem := do
  let p : Problem := ⟨"", objective, some (constraints.getD .empty)⟩
  validate (some p)
  return p

/-- The number of variables. -/
def width (p : Problem) : Except Fault Nat := do
  return (← present p.objective).length

/-- A solution can be evaluated when it is there and has the problem's width. -/
def check (p : Option Problem) : Option Solution → Except Fault Unit
  | none => .error (.rejected (.of .noSolution))
  | some s => do
      let width ← (← present p).width
      if s.length = width then return ()
      else .error (.rejected ((Error.of (.solutionWidth s.length width)).within .problem))

/-- The objective's value at a solution of the problem's width. -/
def fitness (p : Problem) (s : Solution) : Except Fault Int64 := do
  insist (report ((← present p.objective).evaluate s))

/-- Whether a solution of the problem's width satisfies all constraints. -/
def feasible (p : Problem) (s : Solution) : Except Fault Bool :=
  match p.constraints with
  | some cs => cs.mustFeasible s
  | none => .ok true

/-- The ten-item knapsack the search is demonstrated with. -/
def knapsack : Problem where
  name := "knapsack-10"
  objective := some ⟨[8, 12, 9, 14, 16, 10, 6, 7, 11, 13]⟩
  constraints := some ⟨[⟨[3, 2, 1, 4, 3, 3, 1, 2, 2, 5], some .lessOrEqual, 12⟩]⟩

/-- The three starting points of the demonstration. -/
def knapsackStarts : List Solution :=
  [.ofInts [0, 0, 0, 0, 0, 0, 0, 0, 0, 0],
    .ofInts [0, 0, 0, 0, 0, 0, 0, 0, 1, 0],
    .ofInts [0, 1, 1, 1, 0, 1, 0, 1, 0, 0]]

end Problem

end Ascent
