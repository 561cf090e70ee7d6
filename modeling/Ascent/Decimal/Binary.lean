/-!
# Binary floating point, exactly

A floating-point number is a significand times a power of two.  This module
takes such numbers apart and finds the number of a format that is nearest to a
quotient of two natural numbers.  All of it is exact arithmetic on natural
numbers; `Float` itself appears only at the two ends.
-/

namespace Ascent.Decimal

/-- A quotient rounded to the nearest natural number, a tie to the even one. -/
def roundDiv (num den : Nat) : Nat :=
  let floor := num / den
  let twice := 2 * (num % den)
  if den < twice || (twice == den && floor % 2 == 1) then floor + 1 else floor

/-- The numbers `m * 2 ^ q` with `m < 2 ^ precision` and `least ≤ q ≤ greatest`. -/
structure Format where
  precision : Nat
  least : Int
  greatest : Int

/-- The format with 64 bits. -/
def double : Format :=
  ⟨53, -1074, 971⟩

/-- The format with 32 bits. -/
def single : Format :=
  ⟨24, -149, 104⟩

/-- A floating-point number taken apart. -/
inductive Parts where
  | nan
  | infinite (negative : Bool)
  /-- The number `significand * 2 ^ exponent` with its sign. -/
  | finite (negative : Bool) (significand : Nat) (exponent : Int)
deriving DecidableEq, Repr

/-- A quotient that equals `num / den * 2 ^ power`. -/
def scaled (num den : Nat) (power : Int) : Nat × Nat :=
  if 0 ≤ power then (num * Nat.pow 2 power.toNat, den)
  else (num, den * Nat.pow 2 (-power).toNat)

/-- The number of a format that is nearest to a quotient, a tie to the one with
even significand; `none` if it lies beyond the largest one. -/
def Format.nearest? (format : Format) (num den : Nat) : Option (Nat × Int) :=
  if num == 0 then some (0, format.least)
  else
    let low : Int := (num.log2 : Int) - den.log2 - format.precision
    let (n, d) := scaled num den (-low)
    let exponent := max format.least (if Nat.pow 2 format.precision ≤ n / d then low + 1 else low)
    let (n, d) := scaled num den (-exponent)
    let significand := roundDiv n d
    let (significand, exponent) :=
      if significand == Nat.pow 2 format.precision then (significand / 2, exponent + 1)
      else (significand, exponent)
    if format.greatest < exponent then none else some (significand, exponent)

/-- Take a number apart. -/
def parts (value : Float) : Parts :=
  let bits : Nat := value.toBits.toNat
  let negative := 1 <<< 63 ≤ bits
  let field : Nat := (bits >>> 52) % (1 <<< 11)
  let fraction : Nat := bits % (1 <<< 52)
  if field == 2047 then
    if fraction == 0 then .infinite negative else .nan
  else if field == 0 then .finite negative fraction (-1074)
  else .finite negative ((1 <<< 52) + fraction) (Int.ofNat field - 1075)

/-- Put a number together. -/
def Parts.toFloat : Parts → Float
  | .nan => .ofBits 0x7ff8000000000001
  | .infinite negative => .ofBits (if negative then 0xfff0000000000000 else 0x7ff0000000000000)
  | .finite negative significand exponent =>
      let magnitude :=
        if significand < 1 <<< 52 then significand
        else ((exponent + 1075).toNat <<< 52) + (significand - (1 <<< 52))
      .ofBits (UInt64.ofNat (if negative then (1 <<< 63) + magnitude else magnitude))

/-- A quotient that equals a significand times a power of two. -/
def quotient (significand : Nat) (exponent : Int) : Nat × Nat :=
  scaled significand 1 exponent

/-- A number rounded to a format. -/
def Parts.round (format : Format) : Parts → Parts
  | .finite negative significand exponent =>
      let (num, den) := quotient significand exponent
      match format.nearest? num den with
      | some (significand, exponent) => .finite negative significand exponent
      | none => .infinite negative
  | other => other

end Ascent.Decimal
