import Ascent.Draft

/-!
# Putting a draft together

`Draft.build` gives the problem of a draft in one piece.  This file puts it together
part by part, with every point at which that could break down: a comparison is
checked again by its symbol, constraints are added to a set one at a time, which
refuses a missing one, a start is made blank before its variables are turned on, and
the width of a start is asked of a problem that might have no objective.
-/

namespace Ascent

/-- Turn on the variables of a solution whose numbers are not zero; the first number
belongs to variable `index`. -/
def Solution.turnOn : (index : Nat) → List Int64 → Solution → Solution
  | _, [], s => s
  | index, value :: values, s =>
      turnOn (index + 1) values (if value != 0 then ⟨s.bits.set index true⟩ else s)

/-- The solution of a list of numbers, made blank first. -/
def Solution.fill (values : List Int64) : Except Fault Solution := do
  let blank ← Solution.make values.length
  return blank.turnOn 0 values

namespace Draft

/-- The constraint of a draft; its comparison is checked when it is read and when the
constraint is made. -/
def assembleConstraint (draft : ConstraintDraft) : Except Error Constraint := do
  let operator ← Operator.parse draft.operator
  Constraint.ofSymbol (draft.weights.getD []) operator.symbol draft.threshold

/-- Add the constraints of drafts to a set; the first one has index `index`. -/
def assembleConstraints :
    (index : Nat) → ConstraintSet → List ConstraintDraft → Except Fault ConstraintSet
  | _, cs, [] => .ok cs
  | index, cs, draft :: rest => do
      let c ← report ((assembleConstraint draft).mapError (Error.within (.member index)))
      let cs ← cs.add (some c)
      assembleConstraints (index + 1) cs rest

/-- Add starting points to a list; the first one has index `index`. -/
def assembleStarts (p : Problem) :
    (index : Nat) → List Solution → List (Option (List Int64)) → Except Fault (List Solution)
  | _, starts, [] => .ok starts
  | index, starts, values :: rest => do
      let start ← Solution.fill (values.getD [])
      match Problem.check (some p) (some start) with
      | .error fault => .error (fault.within (.startAt index))
      | .ok () => assembleStarts p (index + 1) (starts ++ [start]) rest

/-- The problem of a draft and its starting points, part by part. -/
def assemble (draft : Draft) : Except Fault (Problem × List Solution) := do
  let objective ← report (Objective.make (draft.objective.getD []))
  let constraints ← assembleConstraints 0 .empty draft.constraints
  let problem ← report (Problem.make (some objective) (some constraints))
  let problem := { problem with name := draft.name }
  let starts ← assembleStarts problem 0 [] (draft.starts.getD [])
  return (problem, starts)

end Draft

end Ascent
