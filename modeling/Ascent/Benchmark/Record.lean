import Ascent.Benchmark.Statistics
import Ascent.Climb

/-!
# Benchmark records

What is kept of the runs on one problem: how many there were, how good they
were, how long they took, and how many different solutions they found.
-/

namespace Ascent.Benchmark

/-- The summary of the runs of one algorithm on one problem. -/
structure Record where
  algorithm : String
  problem : String
  width : Int
  constraints : Int
  runs : Int
  /-- The shortest, the mean and the spread of the times, in milliseconds. -/
  timeBest : Float
  timeMean : Float
  timeDeviation : Float
  fitnessBest : Int64
  fitnessMean : Float
  fitnessDeviation : Float
  iterationsMean : Float
  /-- The number of runs that ended at an infeasible solution. -/
  infeasible : Int
  /-- The number of different solutions. -/
  distinctOptima : Int

/-- A duration in milliseconds; parts of a microsecond are cut off. -/
def milliseconds (nanoseconds : Int64) : Float :=
  (nanoseconds / 1000).toFloat / 1000

/-- The number of iterations of all runs together, modulo 2^64. -/
def totalIterations (results : List Result) : Int64 :=
  (results.map fun result => Int64.ofInt result.iterations).sum

/-- Summarize results, which must have solutions. -/
def summarize (algorithm : String) (p? : Option Problem) (results : List Result) :
    Except Fault Record := do
  let solutions ← results.mapM fun result => present result.solution
  let p ← present p?
  let width ← p.width
  let fitness := Statistics.ofInts (results.map (·.fitness))
  let times := Statistics.ofFloats (results.map fun result => milliseconds result.duration)
  return {
    algorithm
    problem := p.name
    width
    constraints := p.members.length
    runs := results.length
    timeBest := times.best
    timeMean := times.mean
    timeDeviation := times.deviation
    fitnessBest := fitness.best
    fitnessMean := fitness.mean
    fitnessDeviation := fitness.deviation
    iterationsMean :=
      if results.isEmpty then 0
      else (totalIterations results).toFloat / Float.ofNat results.length
    infeasible := results.countP fun result => !result.feasible
    distinctOptima := solutions.eraseDups.length }

end Ascent.Benchmark
