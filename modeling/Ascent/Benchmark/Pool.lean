import Ascent.Climb.Loop

/-!
# Runs side by side

A pool works on several runs of a benchmark at a time.  The runs are launched in
the order of their starts, as long as fewer than a limit of them are under way, and
they go on and end in any order.  They share a signal.  A run that fails hands in
its error; the first error handed in is kept, and only after that the signal is
raised.  All later errors are dropped.

A run is a `Process`: between two looks at the signal it works on its own.
`Job.Step` lists what may happen next in a pool, one constructor for each access to
what the runs share, and `Job.act` is the same as a function of the run that does
something.  No signal comes from outside and no run has a time limit.
-/

namespace Ascent.Benchmark

open Climb (Config Loop stop?)

variable {σ : Type}

/-- Where an optimizer stands when it looks at its signal, or its answer. -/
inductive Progress (σ : Type) where
  | answer (attempt : Attempt)
  | more (state : σ)

/-- An optimizer on one problem that can be suspended where it looks at its signal. -/
structure Process (σ : Type) where
  /-- Take a start and go on to the first look at the signal. -/
  enter : Option Solution → Except Fault (Progress σ)
  /-- Look at the signal and go on to the next look. -/
  resume : Option Interrupt → σ → Except Fault (Progress σ)

/-- Where a run stands. -/
inductive Phase (σ : Type) where
  | waiting
  /-- The run has been launched; its optimizer has not been entered. -/
  | ready
  | working (state : σ)
  /-- The optimizer has answered; the answer has not been judged. -/
  | answered (attempt : Attempt)
  /-- The run has failed; its error has not been handed in. -/
  | failed (error : Error)
  /-- The error was the first one; the signal has not been raised. -/
  | raising
  | finished

namespace Phase

/-- Whether the run occupies a place of the pool. -/
def active : Phase σ → Bool
  | .waiting | .finished => false
  | _ => true

/-- Whether the run has been launched. -/
def launched : Phase σ → Bool
  | .waiting => false
  | _ => true

/-- The phase of a run with this progress. -/
def ofProgress : Progress σ → Phase σ
  | .answer attempt => .answered attempt
  | .more state => .working state

end Phase

/-- What a pool is to do. -/
structure Job (σ : Type) where
  process : Process σ
  problem : Problem
  starts : List (Option Solution)
  /-- The number of runs that may be under way at a time. -/
  limit : Nat

/-- The runs and what they share. -/
structure Pool (σ : Type) where
  phases : List (Phase σ)
  results : List Result
  /-- The first error handed in. -/
  failure : Option Error
  /-- What a run sees when it looks at the signal. -/
  signal : Option Interrupt

namespace Pool

/-- A run in another phase. -/
def put (pool : Pool σ) (i : Nat) (phase : Phase σ) : Pool σ :=
  { pool with phases := pool.phases.set i phase }

/-- Whether run `i` may be launched: there is a place, and all runs before it have
been launched. -/
def admits (pool : Pool σ) (limit i : Nat) : Bool :=
  pool.phases.countP Phase.active < limit && (pool.phases.take i).all Phase.launched

/-- All runs are finished. -/
def Complete (pool : Pool σ) : Prop :=
  ∀ phase ∈ pool.phases, phase = .finished

/-- What a complete pool gives back: the results in the order of the starts, or the
first error. -/
def outcome (pool : Pool σ) : Except Error (List Result) :=
  match pool.failure with
  | some error => .error error
  | none => .ok pool.results

end Pool

namespace Job

/-- The pool before the first launch. -/
def initial (job : Job σ) : Pool σ where
  phases := List.replicate job.starts.length .waiting
  results := List.replicate job.starts.length blankResult
  failure := none
  signal := none

/-- Run `i` does the next thing it can do. -/
inductive Step (job : Job σ) (i : Nat) (pool : Pool σ) : Pool σ → Prop where
  | launch (here : pool.phases[i]? = some .waiting) (admitted : pool.admits job.limit i = true) :
      Step job i pool (pool.put i .ready)
  | enter {start? : Option Solution} {progress : Progress σ}
      (here : pool.phases[i]? = some .ready) (start : job.starts[i]? = some start?)
      (entered : job.process.enter start? = .ok progress) :
      Step job i pool (pool.put i (.ofProgress progress))
  | resume {state : σ} {progress : Progress σ} (here : pool.phases[i]? = some (.working state))
      (resumed : job.process.resume pool.signal state = .ok progress) :
      Step job i pool (pool.put i (.ofProgress progress))
  | store {attempt : Attempt} (here : pool.phases[i]? = some (.answered attempt))
      (judged : complaint i pool.signal job.problem.width attempt = .ok none) :
      Step job i pool { pool.put i .finished with results := pool.results.set i attempt.result }
  | complain {attempt : Attempt} {error : Error}
      (here : pool.phases[i]? = some (.answered attempt))
      (judged : complaint i pool.signal job.problem.width attempt = .ok (some error)) :
      Step job i pool (pool.put i (.failed error))
  | record {error : Error} (here : pool.phases[i]? = some (.failed error))
      (first : pool.failure = none) :
      Step job i pool { pool.put i .raising with failure := some error }
  | drop {error : Error} (here : pool.phases[i]? = some (.failed error))
      (later : pool.failure ≠ none) : Step job i pool (pool.put i .finished)
  | raise (here : pool.phases[i]? = some .raising) :
      Step job i pool { pool.put i .finished with signal := some .cancelled }

/-- What run `i` does next, if it can do something. -/
def act (job : Job σ) (pool : Pool σ) (i : Nat) : Except Fault (Option (Pool σ)) :=
  match pool.phases[i]? with
  | some .waiting =>
      if pool.admits job.limit i then .ok (some (pool.put i .ready)) else .ok none
  | some .ready => do
      let progress ← job.process.enter (← present job.starts[i]?)
      return some (pool.put i (.ofProgress progress))
  | some (.working state) => do
      let progress ← job.process.resume pool.signal state
      return some (pool.put i (.ofProgress progress))
  | some (.answered attempt) => do
      match ← complaint i pool.signal job.problem.width attempt with
      | none =>
          return some { pool.put i .finished with results := pool.results.set i attempt.result }
      | some error => return some (pool.put i (.failed error))
  | some (.failed error) =>
      match pool.failure with
      | none => .ok (some { pool.put i .raising with failure := some error })
      | some _ => .ok (some (pool.put i .finished))
  | some .raising => .ok (some { pool.put i .finished with signal := some .cancelled })
  | some .finished => .ok none
  | none => .ok none

/-- Some run does the next thing it can do. -/
def Next (job : Job σ) (pool next : Pool σ) : Prop :=
  ∃ i, job.Step i pool next

/-- The pool after the runs of a schedule did something, one after the other. -/
def play (job : Job σ) : List Nat → Pool σ → Except Fault (Option (Pool σ))
  | [], pool => .ok (some pool)
  | i :: schedule, pool => do
      match ← job.act pool i with
      | some next => job.play schedule next
      | none => return none

end Job

end Ascent.Benchmark

namespace Ascent.Climb

open Benchmark (Job Process)

/-- The first complaint about a request, if there is one. -/
def objection (config : Config) (p? : Option Problem) (start? : Option Solution) :
    Except Fault (Option Error) :=
  match Problem.validate p? with
  | .error error => .ok (some error)
  | .ok () =>
      match config.validate with
      | .error error => .ok (some error)
      | .ok () =>
          match Problem.check p? start? with
          | .error (.rejected error) => .ok (some (error.within .start))
          | .error fault => .error fault
          | .ok () => .ok none

/-- The loop of a climb as a process: it looks at its signal at the head of every
iteration.  It keeps its start, which is part of its answer. -/
def process (reporters : List Reporter) (config : Config) (p : Problem) :
    Process (Solution × Loop) where
  enter start? := do
    match ← objection config (some p) start? with
    | some error => return .answer (Loop.refusal error)
    | none =>
        let start ← present start?
        let selector ← config.selector
        let fitness ← p.fitness start
        let feasible ← p.feasible start
        return .more (start,
          { iteration := 0, current := start, fitness, feasible, evaluations := 1
            selector, reporters, events := [] })
  resume interrupt state :=
    match stop? config (fun _ => interrupt) state.2.iteration state.2.selector with
    | some stop => do return .answer (← state.2.finish state.1 stop)
    | none => do
        let generate ← config.generator
        return .more (state.1, ← state.2.turn p generate)

/-- Climbs from several starts of one problem. -/
def job (reporters : List Reporter) (config : Config) (p : Problem)
    (starts : List (Option Solution)) (limit : Nat) : Job (Solution × Loop) :=
  ⟨process reporters config p, p, starts, limit⟩

end Ascent.Climb
