import Ascent.Report.Table

/-!
# Drawing tables

A `Report.Table` remembers rows and nothing else.  This file has the reporter with a
grid in its hands.  It begins a grid, with the heading, when the first event of a run
arrives, be it a step or the end; it fills the rows cell by cell; it adds a caption to
a run that has one; and it lets go of the grid when that is written.
-/

namespace Ascent.Report

open Climb (Event Final Neighbor Step Stop)

/-- A grid that is being drawn. -/
structure Sketch where
  heading : List String
  rows : List (List String)
  caption : Option String
deriving DecidableEq, Repr

namespace Sketch

/-- A grid with nothing but its heading. -/
def begun : Sketch :=
  ⟨Table.heading, [], none⟩

/-- Add a row at the end. -/
def append (sketch : Sketch) (row : List String) : Sketch :=
  { sketch with rows := sketch.rows ++ [row] }

/-- Give the grid a caption. -/
def captioned (sketch : Sketch) (caption : String) : Sketch :=
  { sketch with caption := some caption }

/-- The grid as it is written. -/
def text (render : Renderer) (sketch : Sketch) : String :=
  render sketch.heading sketch.rows sketch.caption

end Sketch

/-- A reporter that draws.  Between two runs it has no grid. -/
structure Scribe where
  sketch : Option Sketch
deriving DecidableEq, Repr

namespace Scribe

/-- A scribe without a grid. -/
def idle : Scribe :=
  ⟨none⟩

/-- The grid at hand; one is begun if there is none. -/
def atHand (scribe : Scribe) : Sketch :=
  scribe.sketch.getD .begun

/-- The row of the neighbor with an index, blank at first. -/
def fill (step : Step) (index : Nat) (neighbor : Neighbor) : List String :=
  let row := List.replicate 7 ""
  let row :=
    if index = 0 then
      ((row.set 0 (toString step.iteration)).set 1 step.current.text).set 2 (toString step.fitness)
    else row
  let row := (row.set 3 neighbor.solution.text).set 4 (toString neighbor.bit)
  let row := row.set 5 (if neighbor.feasible then toString neighbor.fitness else "infeasible")
  if step.selected = index then row.set 6 Table.marker else row

/-- Add the rows of neighbors, the first of which has index `index`. -/
def appendFrom (step : Step) : (index : Nat) → List Neighbor → Sketch → Sketch
  | _, [], sketch => sketch
  | index, neighbor :: rest, sketch =>
      appendFrom step (index + 1) rest (sketch.append (fill step index neighbor))

/-- Take an event; the text is what is written for it. -/
def handle (render : Renderer) (scribe : Scribe) : Event → Scribe × String
  | .step step => (⟨some (appendFrom step 0 step.neighbors scribe.atHand)⟩, "")
  | .final final =>
      let sketch := scribe.atHand.append
        [toString final.iteration, final.solution.text, toString final.fitness, "", "", "", ""]
      let sketch :=
        if final.reason ≠ Stop.localOptimum.reason then
          sketch.captioned ("stopped: " ++ final.reason)
        else sketch
      (idle, sketch.text render ++ "\n")

/-- Take events in their order: the scribe behind them, and all that is written. -/
def feed (render : Renderer) (scribe : Scribe) : List Event → Scribe × String
  | [] => (scribe, "")
  | event :: events =>
      let (next, text) := scribe.handle render event
      let (last, rest) := next.feed render events
      (last, text ++ rest)

end Scribe

end Ascent.Report
