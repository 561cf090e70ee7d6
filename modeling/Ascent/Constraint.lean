import Ascent.Operator
import Ascent.Solution

/-!
# Linear constraints

A constraint compares a weighted sum with a threshold.  A set of constraints is
checked in order and the first member that is violated or has another width
decides the outcome.

A constraint value without a comparison can be written down too.  It is not
the result of `Constraint.make`, and evaluating it does not return.
-/

namespace Ascent

/-- A weighted sum, a comparison and a threshold. -/
structure Constraint where
  weights : List Int64
  operator : Option Operator
  threshold : Int64
deriving DecidableEq, Repr

namespace Constraint

/-- The constraint that nothing was said about: no weights and no comparison. -/
def blank : Constraint :=
  ⟨[], none, 0⟩

/-- A constraint needs at least one variable. -/
def make (weights : List Int64) (operator : Operator) (threshold : Int64) :
    Except Error Constraint :=
  if weights.isEmpty then .error ((Error.of .emptyWeights).within .constraint)
  else .ok ⟨weights, some operator, threshold⟩

/-- `make` with the comparison given by its symbol, which is checked first. -/
def ofSymbol (weights : List Int64) (symbol : String) (threshold : Int64) :
    Except Error Constraint := do
  make weights (← Operator.ofSymbol symbol) threshold

/-- The number of variables. -/
def length (c : Constraint) : Nat :=
  c.weights.length

/-- The symbol of the comparison, empty if there is none. -/
def symbol (c : Constraint) : String :=
  match c.operator with
  | some operator => operator.symbol
  | none => ""

/-- The weights between brackets, the comparison and the threshold. -/
def text (c : Constraint) : String :=
  "[" ++ " ".intercalate (c.weights.map toString) ++ "] " ++ c.symbol ++ s!" {c.threshold}"

/-- The weighted sum at a solution of the constraint's width. -/
def value (c : Constraint) (s : Solution) : Except Error Int64 :=
  if s.length = c.length then .ok (weightedSum c.weights s.bits)
  else .error ((Error.of (.solutionWidth s.length c.length)).within .constraint)

/-- Whether a solution satisfies the constraint. -/
def isFeasible (c : Constraint) (s : Solution) : Except Fault Bool :=
  match c.value s with
  | .error error => .error (.rejected error)
  | .ok sum =>
      match c.operator with
      | some operator => .ok (operator.holds sum c.threshold)
      | none => .error (.aborted (.noComparison ""))

/-- `isFeasible` for solutions known to have the right width. -/
def mustFeasible (c : Constraint) (s : Solution) : Except Fault Bool :=
  insist (c.isFeasible s)

end Constraint

/-- Constraints that have to hold together, in the order they were added. -/
structure ConstraintSet where
  members : List Constraint
deriving DecidableEq, Repr

namespace ConstraintSet

/-- The set without constraints. -/
def empty : ConstraintSet :=
  ⟨[]⟩

/-- The number of constraints. -/
def size (cs : ConstraintSet) : Nat :=
  cs.members.length

/-- Add a constraint at the end; a missing one is refused. -/
def add (cs : ConstraintSet) : Option Constraint → Except Fault ConstraintSet
  | some c => .ok ⟨cs.members ++ [c]⟩
  | none => .error (.aborted .noConstraint)

/-- Check constraints in order; the first one has index `index`. -/
def feasibleFrom (s : Solution) : Nat → List Constraint → Except Fault Bool
  | _, [] => .ok true
  | index, c :: rest =>
      match c.isFeasible s with
      | .error fault => .error (fault.within (.member index))
      | .ok false => .ok false
      | .ok true => feasibleFrom s (index + 1) rest

/-- Whether a solution satisfies all constraints.  Checking stops at the first
constraint that is violated or cannot be evaluated. -/
def isFeasible (cs : ConstraintSet) (s : Solution) : Except Fault Bool :=
  feasibleFrom s 0 cs.members

/-- `isFeasible` for solutions known to have the right width. -/
def mustFeasible (cs : ConstraintSet) (s : Solution) : Except Fault Bool :=
  insist (cs.isFeasible s)

/-- The constraints of a set that may be missing; a missing set has none. -/
def listed : Option ConstraintSet → List Constraint
  | some cs => cs.members
  | none => []

/-- `isFeasible` for a set that may be missing; a missing set accepts every solution. -/
def allows (s : Solution) : Option ConstraintSet → Except Fault Bool
  | some cs => cs.isFeasible s
  | none => .ok true

end ConstraintSet

end Ascent
