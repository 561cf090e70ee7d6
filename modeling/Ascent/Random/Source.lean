import Ascent.Random.Fibonacci

/-!
# Sources of randomness

A source hands out numbers of 63 bits: either those of a seeded sequence or a
given list over and over.  From them come the draws that the rest of the
library uses: a number below a bound, and a fraction below one.
-/

namespace Ascent.Random

/-- How numbers are drawn from a state. -/
structure Generator (σ : Type) where
  /-- A natural number below a bound. -/
  below : Nat → σ → Nat × σ
  /-- A fraction from zero to below one. -/
  unit : σ → Float × σ

/-- Where numbers of 63 bits come from. -/
inductive Source where
  | seeded (sequence : Fibonacci)
  /-- A list of numbers that is handed out over and over. -/
  | listed (numbers : Array Nat) (place : Nat)

namespace Source

/-- The source of a seed. -/
def ofSeed (seed : Int64) : Source :=
  .seeded (.ofSeed seed)

/-- The source of a list; of each number the low 63 bits count. -/
def ofList (numbers : List Int64) : Source :=
  .listed (numbers.map fun number => number.toUInt64.toNat % (1 <<< 63)).toArray 0

/-- The next number of 63 bits. -/
def next : Source → Nat × Source
  | .seeded sequence =>
      let (word, sequence) := sequence.next
      (word.toNat % (1 <<< 63), .seeded sequence)
  | .listed numbers place =>
      (numbers.getD place 0, .listed numbers (if numbers.size ≤ place + 1 then 0 else place + 1))

/-- The number of draws after which a draw is taken as it is.  A list that is
that long without a good number is not met in practice. -/
def patience : Nat :=
  1000000

/-- The largest number of 31 bits that does not favour small remainders. -/
def fairLimit (bound : Nat) : Nat :=
  (1 <<< 31) - 1 - (1 <<< 31) % bound

/-- Draw numbers of 31 bits until one is fair. -/
def drawBelow (bound : Nat) : Nat → Source → Nat × Source
  | 0, source => (0 % bound, source)
  | fuel + 1, source =>
      let (number, source) := source.next
      let value := number >>> 32
      if value ≤ fairLimit bound then (value % bound, source) else drawBelow bound fuel source

/-- Draw fractions until one is below one: rounding may reach it. -/
def drawUnit : Nat → Source → Float × Source
  | 0, source => (0, source)
  | fuel + 1, source =>
      let (number, source) := source.next
      let value := (UInt64.ofNat number).toFloat / (9223372036854775808.0 : Float)
      if value == 1 then drawUnit fuel source else (value, source)

/-- The draws from a source. -/
def generator : Generator Source where
  below bound source := drawBelow bound patience source
  unit source := drawUnit patience source

end Source

end Ascent.Random
