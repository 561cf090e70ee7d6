import Ascent.Benchmark.Record
import Ascent.Csv
import Ascent.Decimal.Write

/-!
# Benchmark sheets

Records as a table of comma-separated values: a heading, and a row per record.
Numbers that are not whole have six places.  How a measured time is written is
left to the caller.
-/

namespace Ascent.Benchmark.Sheet

/-- The names of the columns. -/
def heading : List String :=
  ["algo", "problem", "vars", "constraints", "runs", "time_best_ms", "time_mean_ms", "time_std_ms",
    "fitness_best", "fitness_mean", "fitness_std", "iterations_mean", "infeasible",
    "distinct_optima"]

/-- A number with six places. -/
def number (value : Float) : String :=
  Decimal.fixed 6 value

/-- The row of a record. -/
def row (time : Float → String) (record : Record) : List String :=
  [record.algorithm, record.problem, toString record.width, toString record.constraints,
    toString record.runs, time record.timeBest, time record.timeMean, time record.timeDeviation,
    toString record.fitnessBest, number record.fitnessMean, number record.fitnessDeviation,
    number record.iterationsMean, toString record.infeasible, toString record.distinctOptima]

/-- The text of a sheet. -/
def text (time : Float → String) (records : List Record) : String :=
  Csv.encode (heading :: records.map (row time))

end Ascent.Benchmark.Sheet
