/-!
# Statistics

The best value, the mean and the sample standard deviation of a list of values.
Sums are taken from the first value to the last, in floating point.
-/

namespace Ascent.Benchmark

/-- A summary of values; everything is zero if there are none. -/
structure Statistics (α : Type) where
  count : Nat
  best : α
  mean : Float
  deviation : Float

namespace Statistics

variable {α : Type}

/-- The first of the best values, starting from a value. -/
def bestOf (better : α → α → Bool) (first : α) (values : List α) : α :=
  values.foldl (fun best value => if better value best then value else best) first

/-- The sum of values in their order. -/
def sum (values : List Float) : Float :=
  values.foldl (· + ·) 0

/-- The square root of the variance; fewer than two values have none. -/
def deviationFrom (mean : Float) (values : List Float) : Float :=
  if values.length < 2 then Float.sqrt 0
  else
    let squares := values.map fun value =>
      let distance := value - mean
      distance * distance
    Float.sqrt (sum squares / Float.ofNat (values.length - 1))

/-- Summarize values that are numbers in the sense of `number`. -/
def calculate (zero : α) (better : α → α → Bool) (number : α → Float) :
    List α → Statistics α
  | [] => ⟨0, zero, 0, 0⟩
  | first :: rest =>
      let numbers := (first :: rest).map number
      let mean := sum numbers / Float.ofNat numbers.length
      ⟨numbers.length, bestOf better first (first :: rest), mean, deviationFrom mean numbers⟩

/-- Summarize fitness values; a higher one is better. -/
def ofInts (values : List Int64) : Statistics Int64 :=
  calculate 0 (fun a b => decide (b < a)) Int64.toFloat values

/-- Summarize durations; a lower one is better. -/
def ofFloats (values : List Float) : Statistics Float :=
  calculate 0 (fun a b => decide (a < b)) id values

end Statistics

end Ascent.Benchmark
