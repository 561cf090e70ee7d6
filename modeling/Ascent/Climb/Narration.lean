import Ascent.Climb
import Ascent.Report

/-!
# Telling a run

While a climb runs, every event goes to the reporters and then, as a record, to
the logger.  `narrate` lists what is written in this order.
-/

namespace Ascent.Climb

/-- The fields of every record of a run. -/
def context (p : Problem) (start : Solution) : List Log.Field :=
  [("problem", .text p.name), ("start", .text start.text)]

/-- The record of an event; `took` is the time that the run took. -/
def record (took : Log.Value) : Event → Log.Record
  | .step step =>
      { level := .debug
        fields :=
          [("iteration", .int step.iteration), ("current", .text step.current.text),
            ("fitness", .int step.fitness.toInt), ("selected", .int step.selected)]
        message := "step" }
  | .final final =>
      { level := .info
        fields :=
          [("fitness", .int final.fitness.toInt), ("solution", .text final.solution.text),
            ("iterations", .int final.iteration), ("stopped", .text final.reason), ("took", took)]
        message := "hill climbing finished" }

/-- What is written for the events of a run, and the reporters after it. -/
def narrate (logger : Log.Logger Unit) (took : Log.Value) :
    List Reporter → List Event → List Reporter × List Line
  | reporters, [] => (reporters, [])
  | reporters, event :: events =>
      let (reporters, reported, _) := Reporter.handleAll reporters event
      let logged := (logger.emit? (record took event)).map fun (_, record) => Line.log record
      let (reporters, rest) := narrate logger took reporters events
      (reporters, reported ++ logged.toList ++ rest)

end Ascent.Climb
