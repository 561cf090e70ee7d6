import Ascent.Problem

/-!
# Drafts

A draft is a problem as it is written down: weights without checks, operators
as texts, starting points as numbers.  `Draft.build` turns it into a problem
and its starts, or names the first thing that is wrong with it: the objective,
then the constraints one by one, then their widths, then the starts.
-/

namespace Ascent

/-- A constraint as it is written down. -/
structure ConstraintDraft where
  weights : Option (List Int64)
  operator : String
  threshold : Int64
deriving DecidableEq, Repr

/-- A problem as it is written down.  A list that was not given is absent. -/
structure Draft where
  name : String
  objective : Option (List Int64)
  constraints : List ConstraintDraft
  starts : Option (List (Option (List Int64)))
deriving DecidableEq, Repr

namespace Draft

/-- The constraints of a draft; the first one has index `index`. -/
def buildConstraints : Nat → List ConstraintDraft → Except Error (List Constraint)
  | _, [] => .ok []
  | index, draft :: rest =>
      let built : Except Error Constraint := do
        Constraint.make (draft.weights.getD []) (← Operator.parse draft.operator) draft.threshold
      match built with
      | .error error => .error (error.within (.member index))
      | .ok c => (c :: ·) <$> buildConstraints (index + 1) rest

/-- The starting points of a draft, which must have the width of the problem; the
first one has index `index`. -/
def buildStarts (width : Nat) : Nat → List (Option (List Int64)) → Except Error (List Solution)
  | _, [] => .ok []
  | index, values :: rest =>
      let start := Solution.ofInts (values.getD [])
      if start.length = width then (start :: ·) <$> buildStarts width (index + 1) rest
      else
        .error (((Error.of (.solutionWidth start.length width)).within .problem).within
          (.startAt index))

/-- The problem that a draft describes, and its starting points. -/
def build (draft : Draft) : Except Error (Problem × List Solution) := do
  let objective ← Objective.make (draft.objective.getD [])
  let constraints ← buildConstraints 0 draft.constraints
  let problem ← Problem.make (some objective) (some ⟨constraints⟩)
  let starts ← buildStarts objective.length 0 (draft.starts.getD [])
  return ({ problem with name := draft.name }, starts)

end Draft

end Ascent
