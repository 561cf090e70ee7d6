import Ascent.Random.Additive

/-!
# An additive lagged Fibonacci sequence

Each word is the sum, modulo 2^64, of the words 607 and 273 places before it.
The register holds the last 607 words and is filled from a seed by a
multiplicative congruential sequence modulo 2^31 − 1.
-/

namespace Ascent.Random

/-- The last words of the sequence and the two places that are added next. -/
structure Fibonacci where
  register : Array UInt64
  tap : Nat
  feed : Nat

namespace Fibonacci

/-- The length of the register. -/
def size : Nat :=
  607

/-- The modulus of the seeding sequence, 2^31 − 1. -/
def modulus : Nat :=
  2147483647

/-- The next number of the seeding sequence. -/
def congruential (x : Nat) : Nat :=
  48271 * x % modulus

/-- The first number of the seeding sequence; it must not be zero. -/
def firstOf (seed : Int64) : Nat :=
  let x := (seed.toInt % (modulus : Int)).toNat
  if x == 0 then 89482311 else x

/-- Apply the seeding step a number of times. -/
def skip : Nat → Nat → Nat
  | 0, x => x
  | count + 1, x => skip count (congruential x)

/-- Fill the register: three numbers of the seeding sequence and a word of the
table make one word. -/
def fill : (table : List UInt64) → (x : Nat) → List UInt64
  | [], _ => []
  | word :: table, x =>
      let a := congruential x
      let b := congruential a
      let c := congruential b
      let mixed := UInt64.ofNat a <<< 40 ^^^ UInt64.ofNat b <<< 20 ^^^ UInt64.ofNat c
      (mixed ^^^ word) :: fill table c

/-- The sequence of a seed. -/
def ofSeed (seed : Int64) : Fibonacci :=
  ⟨(fill additive.toList (skip 20 (firstOf seed))).toArray, 0, 334⟩

/-- The place before a place, around the register. -/
def before (place : Nat) : Nat :=
  if place == 0 then size - 1 else place - 1

/-- The next word. -/
def next (fibonacci : Fibonacci) : UInt64 × Fibonacci :=
  let tap := before fibonacci.tap
  let feed := before fibonacci.feed
  let word := fibonacci.register.getD feed 0 + fibonacci.register.getD tap 0
  (word, ⟨fibonacci.register.setIfInBounds feed word, tap, feed⟩)

end Fibonacci

end Ascent.Random
