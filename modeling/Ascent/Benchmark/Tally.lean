import Ascent.Benchmark.Record

/-!
# Tallies

`summarize` describes a record as a whole.  A tally gathers it by going through the
results one after the other.  It knows a solution by its text, and a text that has been
entered before is not entered again.
-/

namespace Ascent.Benchmark

/-- What has been gathered from results. -/
structure Tally where
  fitness : List Int64
  times : List Float
  /-- The iterations so far, modulo 2^64. -/
  iterations : Int64
  infeasible : Nat
  /-- The texts of the solutions, each of them once. -/
  texts : List String

namespace Tally

/-- The tally of no results. -/
def empty : Tally :=
  ⟨[], [], 0, 0, []⟩

/-- Enter a result, which must have a solution. -/
def add (tally : Tally) (result : Result) : Except Fault Tally := do
  let solution ← present result.solution
  return {
    fitness := tally.fitness ++ [result.fitness]
    times := tally.times ++ [milliseconds result.duration]
    iterations := tally.iterations + Int64.ofInt result.iterations
    infeasible := if result.feasible then tally.infeasible else tally.infeasible + 1
    texts := tally.texts.insert solution.text }

/-- Enter results in their order. -/
def addAll : Tally → List Result → Except Fault Tally
  | tally, [] => .ok tally
  | tally, result :: rest => do
      let tally ← tally.add result
      tally.addAll rest

/-- Summarize results by their tally. -/
def summarize (algorithm : String) (p? : Option Problem) (results : List Result) :
    Except Fault Record := do
  let tally ← empty.addAll results
  let fitness := Statistics.ofInts tally.fitness
  let times := Statistics.ofFloats tally.times
  let p ← present p?
  let width ← p.width
  return {
    algorithm
    problem := p.name
    width
    constraints := p.members.length
    runs := results.length
    timeBest := times.best
    timeMean := times.mean
    timeDeviation := times.deviation
    fitnessBest := fitness.best
    fitnessMean := fitness.mean
    fitnessDeviation := fitness.deviation
    iterationsMean :=
      if results.isEmpty then 0 else tally.iterations.toFloat / Float.ofNat results.length
    infeasible := tally.infeasible
    distinctOptima := tally.texts.length }

end Tally

end Ascent.Benchmark
