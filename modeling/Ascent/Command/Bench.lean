import Ascent.Benchmark.Runner
import Ascent.Benchmark.Sheet
import Ascent.Command.Flag
import Ascent.Command.Outcome
import Ascent.Files

/-!
# The benchmark command

Runs hill climbing on random problems of several sizes, writes a line about each
of them and a sheet with all of them.  The sheet is written at the end, and only
if nothing failed.
-/

namespace Ascent.Command.Bench

open Benchmark (Case Record Runner)

/-- What the command is asked to do. -/
structure Options where
  out : String
  sizes : List String
  runs : Int
  seed : Int64
  instanceSeed : Int64
  density : Float
  parallel : Int
  timeout : Int64
  maxIterations : Int
  logLevel : String
  /-- Whether sizes were given, so that further ones are added. -/
  sizesGiven : Bool

/-- What is done without any flags. -/
def Options.default : Options where
  out := "artifacts/results.csv"
  sizes := ["10x1", "30x3", "100x5"]
  runs := 30
  seed := 1000
  instanceSeed := 777
  density := 0.2
  parallel := 0
  timeout := 0
  maxIterations := 0
  logLevel := "info"
  sizesGiven := false

/-- The flags, ordered by name. -/
def flags : List Flag :=
  [⟨"density", none, .float, "probability of a variable being set in a random start", some "0.2"⟩,
    ⟨"instance-seed", none, .int, "base seed for instance generation (fixed per size)", some "777"⟩,
    ⟨"log-level", none, .text, "log level: debug, info, warn, error", some "\"info\""⟩,
    ⟨"max-iter", none, .int, "iteration cap per run; 0 runs to a local optimum", none⟩,
    ⟨"out", none, .text, "output CSV path", some "\"artifacts/results.csv\""⟩,
    ⟨"parallel", none, .int, "concurrent runs; 0 uses GOMAXPROCS", none⟩,
    ⟨"per-run-timeout", none, .duration, "timeout of a single run; 0 disables it", none⟩,
    ⟨"runs", none, .int, "random starts per instance", some "30"⟩,
    ⟨"seed", none, .int, "seed for random starting solutions", some "1000"⟩,
    ⟨"sizes", none, .list, "instances as variables x constraints", some "[10x1,30x3,100x5]"⟩]

/-- The options with one more setting.  The first list of sizes takes the place of
the default, and later ones are added to it. -/
def Options.apply (options : Options) : Flag.Given → Options
  | ("density", .float value) => { options with density := value }
  | ("instance-seed", .int value) => { options with instanceSeed := .ofInt value }
  | ("log-level", .text value) => { options with logLevel := value }
  | ("max-iter", .int value) => { options with maxIterations := value }
  | ("out", .text value) => { options with out := value }
  | ("parallel", .int value) => { options with parallel := value }
  | ("per-run-timeout", .duration value) => { options with timeout := .ofInt value }
  | ("runs", .int value) => { options with runs := value }
  | ("seed", .int value) => { options with seed := .ofInt value }
  | ("sizes", .list values) =>
      { options with
        sizes := if options.sizesGiven then options.sizes ++ values else values
        sizesGiven := true }
  | _ => options

/-- The name of the algorithm in records. -/
def algorithm : String :=
  "HC"

/-- What the command is going to do. -/
structure Plan where
  logger : Log.Logger Unit
  runner : Runner
  config : Climb.Config
  cases : List Case
  out : String

/-- The plan of a request, or the outcome of one that cannot be fulfilled.  The
level, the sizes, the number of runs, the density and the cap are looked at in
this order. -/
def plan (options : Options) : Except Outcome Plan := do
  let logger ←
    match initialLogger.setLevel options.logLevel with
    | .error failure => .error (.refuse 2 ("invalid log level: " ++ failure.message))
    | .ok logger => .ok logger
  let cases ←
    match Benchmark.Size.cases options.instanceSeed options.sizes with
    | .error failure => .error (.refuse 2 ("invalid sizes: " ++ failure.message))
    | .ok cases => .ok cases
  if options.runs ≤ 0 then .error (.refuse 2 "runs must be > 0")
  else if options.density < 0 || options.density > 1 then
    .error (.refuse 2 "density must be in [0,1]")
  else
    let config := { Climb.Config.default with maxIterations := options.maxIterations }
    match config.validate with
    | .error error => .error (.refuse 2 ("invalid hill climbing config: " ++ error.message))
    | .ok () =>
        let runner : Runner :=
          ⟨options.runs, options.seed, options.density, options.parallel, options.timeout⟩
        .ok ⟨logger, runner, config, cases, options.out⟩

/-- What is known about time: how long a run of a case took, in nanoseconds, and
how times are shown with a number of places. -/
structure Timing where
  elapsed : Case → Nat → Int64
  shown : (places : Nat) → Float → String
  took : Log.Value

/-- The line about a record. -/
def recordLine (timing : Timing) (record : Record) : String :=
  let two := Decimal.fixed 2
  s!"{record.algorithm} {record.problem}: fitness best={record.fitnessBest} mean=" ++
    two record.fitnessMean ++ " std=" ++ two record.fitnessDeviation ++ " | iterations mean=" ++
    two record.iterationsMean ++ s!" | optima={record.distinctOptima} | time mean=" ++
    timing.shown 3 record.timeMean ++ "ms std=" ++ timing.shown 3 record.timeDeviation ++ "ms\n"

/-- What is logged before a case. -/
def announce (plan : Plan) (case : Case) : List Output :=
  let record : Log.Record :=
    { level := .info
      fields := [("vars", .int case.width), ("constraints", .int case.constraints),
        ("runs", .int plan.runner.runs)]
      message := "running case" }
  ((plan.logger.emit? record).map fun (_, record) => Output.log record).toList

/-- Run cases: what is written, and the records, or what stopped the command. -/
def runCases (plan : Plan) (timing : Timing) :
    List Case → Except Fault (List Output × Except Error (List Record))
  | [] => .ok ([], .ok [])
  | case :: rest =>
      let before := announce plan case
      match plan.runner.runCase algorithm (Benchmark.climber plan.config) none
          (timing.elapsed case) case with
      | .error (.rejected error) => .ok (before, .error error)
      | .error fault => .error fault
      | .ok (record, p, batch) => do
          let lines := batch.narrate plan.logger timing.took algorithm p
          let own := before ++ lines.map Output.ofLine ++ [.result (recordLine timing record)]
          let (outputs, records) ← runCases plan timing rest
          return (own ++ outputs, (record :: ·) <$> records)

/-- The outcome once the sheet is saved, or is not. -/
def finish (out : String) : Except Files.Failure Unit → Outcome
  | .ok () => ⟨[.result ("Saved: " ++ out ++ "\n")], 0⟩
  | .error failure => .refuse 1 ("error writing CSV: " ++ failure.message)

/-- Follow a plan and save the sheet. -/
def Plan.follow (plan : Plan) (timing : Timing) (files : Files) :
    Except Fault (Outcome × Files) := do
  let (outputs, records) ← runCases plan timing plan.cases
  match records with
  | .error error => return ((Outcome.refuse 1 ("error: " ++ error.message)).after outputs, files)
  | .ok records =>
      match files.save plan.out (Benchmark.Sheet.text (timing.shown 6) records) with
      | .ok saved => return ((finish plan.out (.ok ())).after outputs, saved)
      | .error failure => return ((finish plan.out (.error failure)).after outputs, files)

/-- Do what is asked. -/
def execute (options : Options) (files : Files) (timing : Timing) :
    Except Fault (Outcome × Files) :=
  match plan options with
  | .error outcome => .ok (outcome, files)
  | .ok plan => plan.follow timing files

/-- The options that arguments give, or the outcome of arguments that cannot be
used. -/
def parse (arguments : List String) : Except Outcome Options :=
  match Flag.read flags arguments with
  | .error failure => .error (.misused failure (Flag.usage "bench" flags))
  | .ok given => .ok (given.foldl Options.apply .default)

/-- Run the command with its arguments. -/
def run (arguments : List String) (files : Files) (timing : Timing) :
    Except Fault (Outcome × Files) :=
  match parse arguments with
  | .error outcome => .ok (outcome, files)
  | .ok options => execute options files timing

end Ascent.Command.Bench
