import Ascent.Decimal.Binary

/-!
# The shortest decimal of a number

Of all decimals that round to a given floating-point number, the one with the
fewest digits, and of those the one nearest to the number.
-/

namespace Ascent

/-- The decimal `digits * 10 ^ exponent`. -/
structure Decimal where
  digits : Nat
  exponent : Int
deriving DecidableEq, Repr

namespace Decimal

/-- The largest `e` with `10 ^ e ≤ num / den`, for a quotient that is not zero. -/
def magnitude (num den : Nat) : Int :=
  let shift := den.log2 + 1
  ((Nat.toDigits 10 (num * Nat.pow 10 shift / den)).length : Int) - 1 - shift

/-- A quotient that equals `num / den * 10 ^ power`. -/
def shifted (num den : Nat) (power : Int) : Nat × Nat :=
  if 0 ≤ power then (num * Nat.pow 10 power.toNat, den)
  else (num, den * Nat.pow 10 (-power).toNat)

/-- The numbers that round to a given one, all four times too large: its own
value and the ends of the interval, which belong to it if `closed`. -/
structure Interval where
  low : Nat
  value : Nat
  high : Nat
  closed : Bool

/-- The interval around `significand`, in units of a quarter of the last place.
Below a power of two the next number is only half as far away. -/
def interval (format : Format) (significand : Nat) (exponent : Int) : Interval :=
  let narrow := significand == Nat.pow 2 (format.precision - 1) && format.least < exponent
  { low := 4 * significand - (if narrow then 1 else 2)
    value := 4 * significand
    high := 4 * significand + 2
    closed := significand % 2 == 0 }

/-- Whether `candidate * den` lies in an interval whose bounds are multiplied by
`num`. -/
def Interval.contains (interval : Interval) (candidate num den : Nat) : Bool :=
  let point := candidate * den
  let low := interval.low * num
  let high := interval.high * num
  if interval.closed then low ≤ point && point ≤ high else low < point && point < high

/-- Drop the zeros at the end. -/
def trimZeros : Nat → Decimal → Decimal
  | 0, decimal => decimal
  | fuel + 1, decimal =>
      if decimal.digits != 0 && decimal.digits % 10 == 0 then
        trimZeros fuel ⟨decimal.digits / 10, decimal.exponent + 1⟩
      else decimal

/-- Look for a decimal in the interval with unit `10 ^ place`, then with ever
smaller units; at most `fuel` units are tried. -/
def search (interval : Interval) (unit : Nat × Nat) : (fuel : Nat) → (place : Int) → Decimal
  | 0, place => ⟨0, place⟩
  | fuel + 1, place =>
      let (num, den) := shifted unit.1 unit.2 (-place)
      let floor := interval.value * num / den
      let low := interval.contains floor num den
      let high := interval.contains (floor + 1) num den
      let twice := 2 * (interval.value * num % den)
      if low && (!high || twice < den || (twice == den && floor % 2 == 0)) then ⟨floor, place⟩
      else if high then ⟨floor + 1, place⟩
      else search interval unit fuel (place - 1)

/-- The shortest decimal that rounds to `significand * 2 ^ exponent`. -/
def shortest (format : Format) (significand : Nat) (exponent : Int) : Decimal :=
  if significand == 0 then ⟨0, 0⟩
  else
    let (num, den) := quotient significand exponent
    let unit := scaled 1 4 exponent
    trimZeros 20 (search (interval format significand exponent) unit 20 (magnitude num den))

end Decimal

end Ascent
