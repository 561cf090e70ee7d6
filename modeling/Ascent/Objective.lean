import Ascent.Solution

/-!
# Objectives

An objective gives every variable a weight; its value at a solution is the sum
of the weights of the true variables, modulo 2^64.
-/

namespace Ascent

/-- The weights to maximise. -/
structure Objective where
  weights : List Int64
deriving DecidableEq, Repr

namespace Objective

/-- An objective needs at least one variable. -/
def make (weights : List Int64) : Except Error Objective :=
  if weights.isEmpty then .error ((Error.of .emptyWeights).within .objective)
  else .ok ⟨weights⟩

/-- The number of variables. -/
def length (o : Objective) : Nat :=
  o.weights.length

/-- The value of a solution of the objective's width. -/
def evaluate (o : Objective) (s : Solution) : Except Error Int64 :=
  if s.length = o.length then .ok (weightedSum o.weights s.bits)
  else .error ((Error.of (.solutionWidth s.length o.length)).within .objective)

end Objective

end Ascent
