import Ascent.Command.Bench
import Ascent.Command.Hillclimb
import Std.Time.DateTime.Timestamp

/-!
# The program

`hillclimb` and `bench` are the two commands; the first argument chooses one.
This module reads files and clocks for them and writes what they say.  It
decides nothing: the plan of a command and its outcome are pure.
-/

namespace Ascent.Main

open Command

/-- The time of day, in hours, minutes and seconds. -/
def timeOfDay : IO String := do
  let now ← Std.Time.Timestamp.now
  let seconds := now.toSecondsSinceUnixEpoch.val.toNat
  let two (n : Nat) : String := if n < 10 then "0" ++ toString n else toString n
  return two (seconds / 3600 % 24) ++ ":" ++ two (seconds / 60 % 60) ++ ":" ++ two (seconds % 60)

/-- The reason of a failed operation on the real file system. -/
def reasonOf : IO.Error → Files.Reason
  | .noFileOrDirectory .. => .notFound
  | .inappropriateType .. => .isDirectory
  | .alreadyExists .. => .alreadyThere
  | _ => .invalid

/-- The text of a real file. -/
def readReal (path : String) : IO (Except Files.Failure String) := do
  try
    return .ok (← IO.FS.readFile path)
  catch error =>
    return .error ⟨"open", path, reasonOf error⟩

/-- Make a real file and the directories that it is in. -/
def saveReal (path text : String) : IO (Except Files.Failure Unit) := do
  try
    IO.FS.createDirAll (Files.directoryOf path)
    IO.FS.writeFile path text
    return .ok ()
  catch error =>
    return .error ⟨"open", path, reasonOf error⟩

/-- The nanoseconds that a climb takes. -/
def measure (p : Problem) (config : Climb.Config) (start : Solution) : IO Int64 := do
  let before ← IO.monoNanosNow
  let reached ← IO.lazyPure fun _ => Climb.solve (some p) config .never (some start)
  let after ← IO.monoNanosNow
  match reached with
  | .ok _ => return .ofNat (after - before)
  | .error _ => return 0

/-- A duration as it is logged, in milliseconds. -/
def tookValue (nanoseconds : Int64) : Log.Value :=
  .decimal (Decimal.general Decimal.double (nanoseconds.toFloat / 1000000))

/-- Write an outcome and give its exit status. -/
def write (outcome : Except Fault Outcome) : IO UInt32 := do
  match outcome with
  | .ok outcome =>
      (← IO.getStdout).putStr outcome.standardOutput
      (← IO.getStderr).putStr (outcome.standardError (← timeOfDay))
      return .ofNat outcome.exit
  | .error (.aborted abort) =>
      (← IO.getStderr).putStrLn abort.message
      return 2
  | .error _ => return 2

/-- Climb. -/
def hillclimb (arguments : List String) : IO UInt32 := do
  match Hillclimb.parse arguments with
  | .error outcome => write (.ok outcome)
  | .ok options =>
      let text ← readReal options.problem
      match Hillclimb.plan options fun _ => text with
      | .error outcome => write (.ok outcome)
      | .ok plan =>
          let times ← plan.starts.mapM (measure plan.problem plan.config)
          write (plan.follow fun index => tookValue (times.getD index 0))

/-- The times of the runs of cases, in their order. -/
def measureCases (plan : Bench.Plan) : IO (List (Benchmark.Case × List Int64)) :=
  plan.cases.mapM fun case => do
    match plan.runner.prepare case with
    | .ok (p, starts) => return (case, ← starts.mapM (measure p plan.config))
    | .error _ => return (case, [])

/-- Run benchmarks. -/
def bench (arguments : List String) : IO UInt32 := do
  match Bench.parse arguments with
  | .error outcome => write (.ok outcome)
  | .ok options =>
      match Bench.plan options with
      | .error outcome => write (.ok outcome)
      | .ok plan =>
          let times ← measureCases plan
          let timing : Bench.Timing :=
            { elapsed := fun case index => ((times.lookup case).getD []).getD index 0
              shown := Decimal.fixed
              took := tookValue ((times.flatMap (·.2)).headD 0) }
          match Bench.runCases plan timing plan.cases with
          | .error fault => write (.error fault)
          | .ok (outputs, .error error) =>
              write (.ok ((Outcome.refuse 1 ("error: " ++ error.message)).after outputs))
          | .ok (outputs, .ok records) =>
              let saved ← saveReal plan.out (Benchmark.Sheet.text Benchmark.Sheet.number records)
              write (.ok ((Bench.finish plan.out saved).after outputs))

end Ascent.Main

/-- Run the command that the first argument names. -/
def main (arguments : List String) : IO UInt32 :=
  match arguments with
  | "hillclimb" :: rest => Ascent.Main.hillclimb rest
  | "bench" :: rest => Ascent.Main.bench rest
  | _ => do
      (← IO.getStderr).putStrLn "usage: hillclimb|bench [flags]"
      return 2
