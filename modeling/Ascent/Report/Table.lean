import Ascent.Climb.Event

/-!
# Tables

A run as a text table: a row per neighbor of every step, and a last row for the
end.  The table collects rows and is written, as a whole, at the end of the run.
How it is drawn then is left to whoever uses it.
-/

namespace Ascent.Report

open Climb (Event Final Neighbor Step Stop)

/-- How a heading, rows and perhaps a caption are drawn. -/
abbrev Renderer :=
  List String → List (List String) → Option String → String

/-- The rows collected since the last end of a run. -/
structure Table where
  rows : List (List String)
deriving DecidableEq, Repr

namespace Table

/-- A table before its first run. -/
def empty : Table :=
  ⟨[]⟩

/-- The heading of every table. -/
def heading : List String :=
  ["t", "s^(t)", "z", "Neighbour", "Bit", "New z", ""]

/-- The mark of the selected neighbor. -/
def marker : String :=
  "<---"

/-- The three texts about the current solution. -/
def summary (iteration : Int) (solution : Solution) (fitness : Int64) : List String :=
  [toString iteration, solution.text, toString fitness]

/-- The three texts about a neighbor, and its mark. -/
def neighborCells (neighbor : Neighbor) (selected : Bool) : List String :=
  [neighbor.solution.text, toString neighbor.bit,
    if neighbor.feasible then toString neighbor.fitness else "infeasible",
    if selected then marker else ""]

/-- The row of the neighbor with an index; the first one tells about the step. -/
def row (step : Step) (index : Nat) (neighbor : Neighbor) : List String :=
  (if index = 0 then summary step.iteration step.current step.fitness else ["", "", ""]) ++
    neighborCells neighbor (step.selected == index)

/-- The rows of neighbors, the first of which has index `index`. -/
def rowsFrom (step : Step) : (index : Nat) → List Neighbor → List (List String)
  | _, [] => []
  | index, neighbor :: rest => row step index neighbor :: rowsFrom step (index + 1) rest

/-- The rows of a step. -/
def stepRows (step : Step) : List (List String) :=
  rowsFrom step 0 step.neighbors

/-- The last row of a run. -/
def finalRow (final : Final) : List String :=
  summary final.iteration final.solution final.fitness ++ ["", "", "", ""]

/-- The caption of a run that did not end at a local optimum. -/
def caption (final : Final) : Option String :=
  if final.reason = Stop.localOptimum.reason then none else some ("stopped: " ++ final.reason)

/-- Take an event; the text is what is written for it. -/
def handle (render : Renderer) (table : Table) : Event → Table × String
  | .step step => (⟨table.rows ++ stepRows step⟩, "")
  | .final final =>
      (empty, render heading (table.rows ++ [finalRow final]) (caption final) ++ "\n")

/-- Take events in their order: the table behind them, and all that is written. -/
def feed (render : Renderer) (table : Table) : List Event → Table × String
  | [] => (table, "")
  | event :: events =>
      let (next, text) := table.handle render event
      let (last, rest) := next.feed render events
      (last, text ++ rest)

end Table

end Ascent.Report
