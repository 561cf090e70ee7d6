import Ascent.Benchmark.Runner

/-!
# The loop of a climb

`Climb.solve` returns the steps of a climb and computes the counts of its result
from them.  This file has the loop that takes the steps, with every effect in its
place and every point at which it could break down: the rules are looked up by
name, neighbors come from inversions that check their index, the chosen neighbor
is looked up among the solutions and again among the reports, the reporters are
told each event when it happens, and iterations and evaluations are counted on the
way.
-/

namespace Ascent

open Benchmark (Attempt blankResult)

/-- The neighbors of a solution, each by an inversion that checks its index. -/
def Solution.generate (s : Solution) : Except Fault (List Solution) :=
  (List.range s.length).mapM fun (k : Nat) => insist (report (s.flip k))

namespace Climb

/-- The neighborhood that a configuration names. -/
def Config.generator (config : Config) : Except Fault (Solution → Except Fault (List Solution)) :=
  if config.neighborhood = singleBit then .ok Solution.generate
  else .error (.aborted (.strayNeighborhood config.neighborhood))

/-- A selector for one run, by the rule that a configuration names. -/
def Config.selector (config : Config) : Except Fault Selector :=
  if config.selection = bestImprovement then .ok .fresh
  else .error (.aborted (.straySelection config.selection))

/-- What the loop holds at the head of an iteration. -/
structure Loop where
  iteration : Nat
  current : Solution
  fitness : Int64
  feasible : Bool
  evaluations : Int64
  selector : Selector
  reporters : List Reporter
  /-- What the reporters were told so far. -/
  events : List Event

namespace Loop

/-- Tell the reporters an event; a reporter that cannot take it ends the climb. -/
def send (loop : Loop) (event : Event) : Except Fault Loop :=
  match Reporter.handleAll loop.reporters event with
  | (reporters, _, none) => .ok { loop with reporters, events := loop.events ++ [event] }
  | (_, _, some fault) => .error fault

/-- Step over to the chosen neighbor, with the fitness from its report. -/
def move (loop : Loop) (hood : List Solution) (neighbors : List Neighbor) :
    Option Nat → Except Fault Loop
  | none => .ok loop
  | some index => do
      let current ← present hood[index]?
      let neighbor ← present neighbors[index]?
      return { loop with current, fitness := neighbor.fitness, feasible := true }

/-- One iteration of the loop. -/
def turn (p : Problem) (generate : Solution → Except Fault (List Solution)) (loop : Loop) :
    Except Fault Loop := do
  let hood ← generate loop.current
  let (choice, selector) ← loop.selector.select p loop.current hood
  let neighbors ← describeFrom p 0 hood
  let step : Step :=
    { iteration := loop.iteration, current := loop.current, fitness := loop.fitness
      feasible := loop.feasible, neighbors
      selected := match choice with
        | some index => index
        | none => -1 }
  let evaluations := loop.evaluations + Int64.ofNat hood.length
  let loop ← send { loop with selector, evaluations } (.step step)
  let loop ← loop.move hood neighbors choice
  return { loop with iteration := loop.iteration + 1 }

/-- The end of the loop: the final event and the result. -/
def finish (loop : Loop) (start : Solution) (stop : Stop) : Except Fault Attempt := do
  let loop ← loop.send
    (.final ⟨loop.iteration, loop.current, loop.fitness, loop.feasible, stop.reason⟩)
  return {
    result :=
      { start := some start, solution := some loop.current, fitness := loop.fitness
        feasible := loop.feasible, iterations := loop.iteration
        evaluations := loop.evaluations, duration := 0
        details := some ⟨neighborhoodName, selectionName, stop.reason⟩ }
    error := stop.error?
    events := loop.events }

/-- The loop itself.  `fuel` bounds the number of its iterations. -/
def run (p : Problem) (config : Config) (signal : Signal) (start : Solution)
    (generate : Solution → Except Fault (List Solution)) :
    (fuel : Nat) → Loop → Except Fault Attempt
  | 0, _ => .error .undefined
  | fuel + 1, loop =>
      match stop? config signal loop.iteration loop.selector with
      | some stop => loop.finish start stop
      | none => do
          let loop ← loop.turn p generate
          run p config signal start generate fuel loop

/-- What a refused request gives back. -/
def refusal (error : Error) : Attempt :=
  ⟨blankResult, some error, []⟩

/-- Check a request and run the loop on it. -/
def solve (reporters : List Reporter) (config : Config) (p? : Option Problem) (signal : Signal)
    (start? : Option Solution) : Except Fault Attempt :=
  match Problem.validate p? with
  | .error error => .ok (refusal error)
  | .ok () =>
      match config.validate with
      | .error error => .ok (refusal error)
      | .ok () =>
          match Problem.check p? start? with
          | .error (.rejected error) => .ok (refusal (error.within .start))
          | .error fault => .error fault
          | .ok () => do
              let p ← present p?
              let start ← present start?
              let generate ← config.generator
              let selector ← config.selector
              let fitness ← p.fitness start
              let feasible ← p.feasible start
              let width ← p.width
              run p config signal start generate (width + 2)
                { iteration := 0, current := start, fitness, feasible, evaluations := 1
                  selector, reporters, events := [] }

end Loop

end Climb

end Ascent
