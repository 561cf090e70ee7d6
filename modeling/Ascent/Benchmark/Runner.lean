import Ascent.Benchmark.Record
import Ascent.Benchmark.Size
import Ascent.Climb.Narration
import Ascent.Random

/-!
# Benchmark runs

A runner tries an optimizer on many starts of one problem.  The runs do not
depend on each other, but they share a signal: once a run has failed, all later
ones are interrupted, and the first failure is the answer.

The runs are taken one after the other in the order of the starts.  A run that
ends in an interruption is told apart from one that fails by itself by whether
its signal was raised, not by its error.

A case needs room for its problem, its starts and their results, and every step
of a run needs room for its neighbors.
-/

namespace Ascent.Benchmark

open Climb (Event)

/-- What an optimizer gives back: a result, the error if there is one, and the
events on the way. -/
structure Attempt where
  result : Result
  error : Option Error
  events : List Event
deriving DecidableEq, Repr

/-- A way to improve a start of a problem. -/
abbrev Optimizer :=
  Option Problem → Signal → Option Solution → Except Fault Attempt

/-- The result of which nothing is known. -/
def blankResult : Result :=
  ⟨none, none, 0, false, 0, 0, 0, none⟩

/-- Hill climbing as an optimizer. -/
def climber (config : Climb.Config) : Optimizer := fun p? signal start? =>
  match Climb.solve p? config signal start? with
  | .ok run => .ok ⟨run.result, run.error, run.events⟩
  | .error (.rejected error) => .ok ⟨blankResult, some error, []⟩
  | .error fault => .error fault

/-- The optimizer that always gives the same answer. -/
def constant (solution : Option Solution) (error : Option Error) : Optimizer := fun _ _ _ =>
  .ok ⟨{ blankResult with solution }, error, []⟩

/-- How benchmark runs are made.  The number of runs at a time and the time limit
of a run do not change the results of runs that stay within it. -/
structure Runner where
  runs : Int
  baseSeed : Int64
  density : Float
  parallel : Int
  timeout : Int64

/-- The signal of a run whose interruption is known beforehand. -/
def signalOf : Option Interrupt → Signal
  | some interrupt => .always interrupt
  | none => .never

/-- The complaint about an attempt, if there is one: its error, or a solution that
is missing or has another width than the problem. -/
def complaint (index : Nat) (interrupt : Option Interrupt) (width : Except Fault Nat)
    (attempt : Attempt) : Except Fault (Option Error) :=
  match attempt.error with
  | some error =>
      let place := if interrupt.isSome then Place.interruptedRun else Place.failedRun
      .ok (some ((error.within place).within (.run index)))
  | none => do
      let width ← width
      let shown := Solution.shown attempt.result.solution
      let invalid := (Error.of (.invalidResult shown width)).within (.run index)
      match attempt.result.solution with
      | some solution => return if solution.length = width then none else some invalid
      | none => return some invalid

/-- The attempts of a batch of runs, and the first complaint. -/
structure Batch where
  attempts : List (Option Solution × Attempt)
  failure : Option Error
deriving DecidableEq, Repr

/-- Run starts, the first of which has index `index`; `failure` is the first
complaint so far. -/
def runFrom (optimizer : Optimizer) (p? : Option Problem) (outer : Option Interrupt) :
    (index : Nat) → (failure : Option Error) → List (Option Solution) → Except Fault Batch
  | _, failure, [] => .ok ⟨[], failure⟩
  | index, failure, start :: rest => do
      let interrupt := outer <|> failure.map fun _ => .cancelled
      let attempt ← optimizer p? (signalOf interrupt) start
      let found ← complaint index interrupt (do (← present p?).width) attempt
      let batch ← runFrom optimizer p? outer (index + 1) (failure <|> found) rest
      return { batch with attempts := (start, attempt) :: batch.attempts }

/-- Run an optimizer on starts under a signal that is raised or not from the
beginning. -/
def run (optimizer : Optimizer) (p? : Option Problem) (outer : Option Interrupt)
    (starts : List (Option Solution)) : Except Fault Batch := do
  let _ ← present p?
  runFrom optimizer p? outer 0 none starts

namespace Batch

/-- The results in the order of the starts, or the first failure. -/
def results (batch : Batch) : Except Error (List Result) :=
  match batch.failure with
  | some error => .error error
  | none => .ok (batch.attempts.map fun attempt => attempt.2.result)

/-- Every step of the runs has listed its neighbors. -/
def reserveNeighbors (batch : Batch) : Except Fault Unit :=
  batch.attempts.forM fun (_, attempt) => attempt.events.forM fun
    | .step step => reserve Climb.Neighbor.size step.neighbors.length
    | .final _ => .ok ()

/-- What the runs write to a log, and what is written once all of them have
succeeded. -/
def narrate (logger : Log.Logger Unit) (took : Log.Value) (algorithm : String) (p : Problem)
    (batch : Batch) : List Line :=
  let runs := batch.attempts.flatMap fun (start, attempt) =>
    let context := (start.map (Climb.context p)).getD []
    (Climb.narrate (logger.withFields context) took [] attempt.events).2
  let summary : Log.Record :=
    ⟨.debug, [("runs", .int batch.attempts.length)], "runs finished"⟩
  let own := logger.withFields [("algo", .text algorithm), ("problem", .text p.name)]
  let closing :=
    if batch.failure.isNone then ((own.emit? summary).map fun (_, record) => Line.log record).toList
    else []
  runs ++ closing

end Batch

/-- Results with the times that their runs took; `elapsed` gives the time of the
run with an index, in nanoseconds. -/
def timed (elapsed : Nat → Int64) : (index : Nat) → List Result → List Result
  | _, [] => []
  | index, result :: rest =>
      { result with duration := elapsed index } :: timed elapsed (index + 1) rest

namespace Runner

/-- The problem of a case and the starts of its runs. -/
def prepare (runner : Runner) (case : Case) : Except Fault (Problem × List Solution) := do
  let generator := Random.Source.generator
  let (p, _) ← Problem.random generator case.width case.constraints (some (.ofSeed case.seed))
  reserve wordSize runner.runs
  let (starts, _) := Solution.randoms generator case.width.toNat runner.density
    runner.runs.toNat (.ofSeed runner.baseSeed)
  return (p, starts)

/-- The record of a case, and the runs it summarizes. -/
def runCase (runner : Runner) (algorithm : String) (optimizer : Optimizer)
    (outer : Option Interrupt) (elapsed : Nat → Int64) (case : Case) :
    Except Fault (Record × Problem × Batch) := do
  let (p, starts) ← runner.prepare case
  reserve Result.size starts.length
  let batch ← run optimizer (some p) outer (starts.map some)
  batch.reserveNeighbors
  let results ← report batch.results
  let record ← summarize algorithm (some p) (timed elapsed 0 results)
  return (record, p, batch)

end Runner

end Ascent.Benchmark
