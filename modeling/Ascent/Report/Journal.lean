import Ascent.Climb.Event
import Ascent.Log.Record

/-!
# Journals

A run as log records: one per step and one for the end, all of level info.
-/

namespace Ascent.Report.Journal

open Climb (Event Final Step)

/-- The number of feasible neighbors of a step. -/
def feasibleCount (step : Step) : Nat :=
  step.neighbors.countP (·.feasible)

/-- The fields about the selected neighbor, if there is one.  A step that selects
a neighbor that it does not have cannot be told. -/
def selectedFields (step : Step) : Except Fault (List Log.Field) :=
  if step.terminal then .ok []
  else do
    let neighbor ← present step.neighbors[step.selected.toNat]?
    return [("bit", .int neighbor.bit), ("new_z", .int neighbor.fitness.toInt)]

/-- The record of a step. -/
def stepRecord (step : Step) : Except Fault Log.Record := do
  let selected ← selectedFields step
  return {
    level := .info
    fields :=
      [("t", .int step.iteration), ("current", .text step.current.text),
        ("z", .int step.fitness.toInt), ("neighbors", .int step.neighbors.length),
        ("feasible", .int (feasibleCount step))] ++ selected
    message := "iteration" }

/-- The record of the end of a run. -/
def finalRecord (final : Final) : Log.Record where
  level := .info
  fields :=
    [("t", .int final.iteration), ("solution", .text final.solution.text),
      ("z", .int final.fitness.toInt), ("feasible", .bool final.feasible),
      ("reason", .text final.reason)]
  message := "search complete"

/-- The record of an event. -/
def record : Event → Except Fault Log.Record
  | .step step => stepRecord step
  | .final final => .ok (finalRecord final)

end Ascent.Report.Journal
