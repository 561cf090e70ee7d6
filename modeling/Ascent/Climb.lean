import Ascent.Climb.Config
import Ascent.Climb.Event
import Ascent.Neighborhood
import Ascent.Selection

/-!
# Climbing

From a start the climb looks at all neighbors of the current solution, moves to
the best one that is feasible and better, and goes on from there.  It ends when
there is no such neighbor, when its cap is reached or when it is interrupted;
at the head of an iteration these are asked for in this order.

A climb returns a `Run`: the steps, the final event, the result, and the error
of an interrupted one.  No variable is inverted twice in a run, because undoing
an inversion never improves the fitness, also modulo 2^64.  So a run has at most
one iteration more than there are variables, and the bound on the recursion is
never felt.
-/

namespace Ascent

/-- What a climb sees when it asks for the `j`-th time whether it should stop. -/
abbrev Signal :=
  Nat → Option Interrupt

namespace Signal

/-- Nothing ever interrupts. -/
def never : Signal :=
  fun _ => none

/-- An interruption before the first iteration. -/
def always (interrupt : Interrupt) : Signal :=
  fun _ => some interrupt

/-- An interruption from the `j`-th question on. -/
def since (j : Nat) (interrupt : Interrupt) : Signal :=
  fun i => if j ≤ i then some interrupt else none

end Signal

/-- What a run says about itself. -/
structure Meta where
  neighborhood : String
  selection : String
  stopped : String
deriving DecidableEq, Repr

/-- The result of a run.  Parts that an optimizer does not fill in are absent or
zero. -/
structure Result where
  start : Option Solution
  solution : Option Solution
  fitness : Int64
  feasible : Bool
  iterations : Int
  /-- The number of solutions evaluated, modulo 2^64. -/
  evaluations : Int64
  /-- The time taken, in nanoseconds. -/
  duration : Int64
  details : Option Meta
deriving DecidableEq, Repr

/-- The bytes of a result: each of its eight fields takes a word. -/
def Result.size : Nat :=
  8 * wordSize

namespace Climb

/-- The place of a climb between two iterations. -/
structure Position where
  current : Solution
  fitness : Int64
  feasible : Bool
deriving DecidableEq, Repr

/-- The place at the start. -/
def Position.start (p : Problem) (start : Solution) : Except Fault Position := do
  return ⟨start, ← p.fitness start, ← p.feasible start⟩

/-- One neighbor as it is reported; `index` is its place. -/
def describe (p : Problem) (index : Nat) (neighbor : Solution) : Except Fault Neighbor := do
  if ← p.feasible neighbor then return ⟨neighbor, index + 1, true, ← p.fitness neighbor⟩
  else return ⟨neighbor, index + 1, false, 0⟩

/-- All neighbors as they are reported; the first one has index `index`. -/
def describeFrom (p : Problem) : (index : Nat) → List Solution → Except Fault (List Neighbor)
  | _, [] => .ok []
  | index, neighbor :: rest => do
      let described ← describe p index neighbor
      return described :: (← describeFrom p (index + 1) rest)

/-- The place after a step: at the selected neighbor, or where it was. -/
def Position.after (position : Position) (neighbors : List Neighbor) :
    Option Nat → Except Fault Position
  | none => .ok position
  | some index => do
      let neighbor ← present neighbors[index]?
      return ⟨neighbor.solution, neighbor.fitness, true⟩

/-- One iteration: its step, and the place and the selector after it. -/
def iterate (p : Problem) (iteration : Nat) (selector : Selector) (position : Position) :
    Except Fault (Step × Position × Selector) := do
  let hood := position.current.neighbors
  let (choice, selector) ← selector.select p position.current hood
  let neighbors ← describeFrom p 0 hood
  let step : Step :=
    { iteration, current := position.current, fitness := position.fitness
      feasible := position.feasible, neighbors
      selected := match choice with
        | some index => index
        | none => -1 }
  return (step, ← position.after neighbors choice, selector)

/-- The steps of a climb, the place where it ended, and why. -/
structure Trail where
  steps : List Step
  last : Position
  stop : Stop
deriving DecidableEq, Repr

/-- Whether and why a climb stops at the head of an iteration. -/
def stop? (config : Config) (signal : Signal) (iteration : Nat) (selector : Selector) :
    Option Stop :=
  if selector.complete then some .localOptimum
  else
    match signal iteration with
    | some interrupt => some (.interrupted interrupt)
    | none => if config.capReached iteration then some .iterationCap else none

/-- Climb from a place on.  `fuel` bounds the number of iterations. -/
def ascend (p : Problem) (config : Config) (signal : Signal) :
    (fuel iteration : Nat) → Selector → Position → Except Fault Trail
  | 0, _, _, _ => .error .undefined
  | fuel + 1, iteration, selector, position =>
      match stop? config signal iteration selector with
      | some stop => .ok ⟨[], position, stop⟩
      | none => do
          let (step, next, selector) ← iterate p iteration selector position
          let rest ← ascend p config signal fuel (iteration + 1) selector next
          return { rest with steps := step :: rest.steps }

/-- A climb that took place. -/
structure Run where
  steps : List Step
  final : Final
  result : Result
  error : Option Error
deriving DecidableEq, Repr

/-- The events of a run in order. -/
def Run.events (run : Run) : List Event :=
  run.steps.map .step ++ [.final run.final]

/-- The run that a trail makes. -/
def Trail.run (trail : Trail) (width : Nat) (start : Solution) : Run :=
  let iterations : Int := trail.steps.length
  let last := trail.last
  { steps := trail.steps
    final := ⟨iterations, last.current, last.fitness, last.feasible, trail.stop.reason⟩
    result :=
      { start := some start, solution := some last.current, fitness := last.fitness
        feasible := last.feasible, iterations
        evaluations := 1 + Int64.ofNat width * Int64.ofInt iterations
        duration := 0
        details := some ⟨neighborhoodName, selectionName, trail.stop.reason⟩ }
    error := trail.stop.error? }

/-- Climb from a start.  The problem, the configuration and the start are checked
in this order, and then the climb cannot fail. -/
def solve (p? : Option Problem) (config : Config) (signal : Signal) (start? : Option Solution) :
    Except Fault Run := do
  report (Problem.validate p?)
  report config.validate
  match Problem.check p? start? with
  | .error fault => .error (fault.within .start)
  | .ok () => do
      let p ← present p?
      let start ← present start?
      let width ← p.width
      let position ← Position.start p start
      let trail ← ascend p config signal (width + 2) 0 .fresh position
      return trail.run width start

end Climb

end Ascent
