import Ascent.Climb.Narration
import Ascent.Command.Flag
import Ascent.Command.Outcome
import Ascent.Draft.Decode
import Ascent.Files
import Ascent.Random
import Ascent.Solution.Parse

/-!
# The climbing command

Climbs from every start of a problem and reports the runs.  Without a problem
file it takes the built-in knapsack.  Everything that is wrong with the request
is found before the first run, except for a start of another width than the
problem: that ends the command when its turn comes.
-/

namespace Ascent.Command.Hillclimb

/-- What the command is asked to do. -/
structure Options where
  problem : String
  starts : List String
  randomStarts : Int
  density : Float
  seed : Int64
  maxIterations : Int
  report : String
  logLevel : String

/-- What is done without any flags. -/
def Options.default : Options :=
  ⟨"", [], 0, 0.2, 1, 0, "table", "warn"⟩

/-- The flags, ordered by name. -/
def flags : List Flag :=
  [⟨"density", none, .float, "probability of a variable being set in a random start", some "0.2"⟩,
    ⟨"log-level", none, .text, "log level: debug, info, warn, error", some "\"warn\""⟩,
    ⟨"max-iter", none, .int, "iteration cap per run; 0 runs to a local optimum", none⟩,
    ⟨"problem", some 'p', .text,
      "problem file (YAML or JSON); empty uses the built-in instance", none⟩,
    ⟨"random-starts", none, .int, "number of additional random starting solutions", none⟩,
    ⟨"report", some 'r', .text, "report format: table, log or none", some "\"table\""⟩,
    ⟨"seed", none, .int, "seed for random starts", some "1"⟩,
    ⟨"start", some 's', .texts,
      "starting solution such as 0110010000; repeatable, replaces the file's starts", none⟩]

/-- The options with one more setting. -/
def Options.apply (options : Options) : Flag.Given → Options
  | ("density", .float value) => { options with density := value }
  | ("log-level", .text value) => { options with logLevel := value }
  | ("max-iter", .int value) => { options with maxIterations := value }
  | ("problem", .text value) => { options with problem := value }
  | ("random-starts", .int value) => { options with randomStarts := value }
  | ("report", .text value) => { options with report := value }
  | ("seed", .int value) => { options with seed := .ofInt value }
  | ("start", .text value) => { options with starts := options.starts ++ [value] }
  | _ => options

/-- How the command gets the text of a file. -/
abbrev Reader :=
  String → Except Files.Failure String

/-- The problem asked for and its own starts; a failure is a text. -/
def load (read : Reader) (path : String) : Except String (Problem × List Solution) :=
  if path.isEmpty then .ok (.knapsack, Problem.knapsackStarts)
  else
    match read path with
    | .error failure => .error failure.message
    | .ok text =>
        match Draft.decode text with
        | .error error => .error (path ++ ": " ++ error.message)
        | .ok draft =>
            match draft.build with
            | .error error => .error error.message
            | .ok built => .ok built

/-- The starts of the command: those given, else those of the problem, and random
ones behind them. -/
def gatherStarts (options : Options) (p : Problem) (own : List Solution) :
    Except Error (List Solution) := do
  let given ← options.starts.mapM Solution.parse
  let chosen := if options.starts.isEmpty then own else given
  let width := (p.objective.map Objective.length).getD 0
  let (random, _) := Solution.randoms Random.Source.generator width options.density
    options.randomStarts.toNat (.ofSeed options.seed)
  return chosen ++ random

/-- The reporters of a report format, if it is known. -/
def reporters? (logger : Log.Logger Unit) : String → Option (List Reporter)
  | "table" => some [.table .empty]
  | "log" =>
      let level :=
        if Log.Level.info.value < logger.level.value then Log.Level.info else logger.level
      some [.journal { logger with level }]
  | "none" => some []
  | _ => none

/-- What the command is going to do. -/
structure Plan where
  logger : Log.Logger Unit
  problem : Problem
  starts : List Solution
  reporters : List Reporter
  config : Climb.Config

/-- The plan of a request, or the outcome of one that cannot be fulfilled.  The
level, the problem, the starts, the report format and the cap are looked at in
this order. -/
def plan (options : Options) (read : Reader) : Except Outcome Plan := do
  let logger ←
    match initialLogger.setLevel options.logLevel with
    | .error failure => .error (.refuse 2 ("invalid log level: " ++ failure.message))
    | .ok logger => .ok logger
  let (problem, own) ←
    match load read options.problem with
    | .error message => .error (.refuse 2 ("error: " ++ message))
    | .ok loaded => .ok loaded
  let starts ←
    match gatherStarts options problem own with
    | .error error => .error (.refuse 2 ("error: " ++ error.message))
    | .ok [] => .error (.refuse 2 "error: no starting solutions; use --start or --random-starts")
    | .ok starts => .ok starts
  let reporters ←
    match reporters? logger options.report with
    | none => .error (.refuse 2 ("error: unknown report format " ++ Text.quote options.report))
    | some reporters => .ok reporters
  let config := { Climb.Config.default with maxIterations := options.maxIterations }
  match config.validate with
  | .error error => .error (.refuse 2 ("invalid hill climbing config: " ++ error.message))
  | .ok () => .ok ⟨logger, problem, starts, reporters, config⟩

/-- The line about a run that no reporter tells. -/
def resultLine (result : Result) : String :=
  Solution.shown result.start ++ " -> " ++ Solution.shown result.solution ++
    s!" z={result.fitness} iterations={result.iterations}\n"

/-- Climb from starts, the first of which has index `index`.  `took` is how the
time of the run with an index is shown. -/
def climbFrom (plan : Plan) (took : Nat → Log.Value) :
    (index : Nat) → List Reporter → List Solution → Except Fault Outcome
  | _, _, [] => .ok ⟨[], 0⟩
  | index, reporters, start :: rest =>
      match Climb.solve (some plan.problem) plan.config .never (some start) with
      | .error (.rejected error) => .ok (.refuse 1 (s!"start {index}: " ++ error.message))
      | .error fault => .error fault
      | .ok run => do
          let logger := plan.logger.withFields (Climb.context plan.problem start)
          let (next, lines) := Climb.narrate logger (took index) reporters run.events
          let line := if reporters.isEmpty then [Output.result (resultLine run.result)] else []
          let outcome ← climbFrom plan took (index + 1) next rest
          return outcome.after (lines.map Output.ofLine ++ line)

/-- Follow a plan. -/
def Plan.follow (plan : Plan) (took : Nat → Log.Value) : Except Fault Outcome :=
  climbFrom plan took 0 plan.reporters plan.starts

/-- Do what is asked. -/
def execute (options : Options) (read : Reader) (took : Nat → Log.Value) : Except Fault Outcome :=
  match plan options read with
  | .error outcome => .ok outcome
  | .ok plan => plan.follow took

/-- The options that arguments give, or the outcome of arguments that cannot be
used. -/
def parse (arguments : List String) : Except Outcome Options :=
  match Flag.read flags arguments with
  | .error failure => .error (.misused failure (Flag.usage "hillclimb" flags))
  | .ok given => .ok (given.foldl Options.apply .default)

/-- Run the command with its arguments. -/
def run (arguments : List String) (read : Reader) (took : Nat → Log.Value) : Except Fault Outcome :=
  match parse arguments with
  | .error outcome => .ok outcome
  | .ok options => execute options read took

end Ascent.Command.Hillclimb
