import Ascent.Decimal.Shortest

/-!
# Writing numbers

Decimals in positional and in scientific notation, and the texts of
floating-point numbers: with the fewest digits that read back, or with a fixed
number of places.
-/

namespace Ascent.Decimal

/-- The texts of the numbers that have no digits. -/
def special : Parts → Option String
  | .nan => some "NaN"
  | .infinite true => some "-Inf"
  | .infinite false => some "+Inf"
  | .finite .. => none

/-- The digits of a decimal. -/
def digitList (decimal : Decimal) : List Char :=
  Nat.toDigits 10 decimal.digits

/-- The power of ten of the first digit. -/
def leading (decimal : Decimal) : Int :=
  decimal.exponent + (decimal.digitList.length - 1 : Nat)

/-- A text of digits with a point before the last `places` of them. -/
def withPoint (digits : List Char) (places : Nat) : String :=
  let padded := List.replicate (places + 1 - digits.length) '0' ++ digits
  let whole := padded.take (padded.length - places)
  let fraction := padded.drop (padded.length - places)
  String.ofList (if places == 0 then whole else whole ++ '.' :: fraction)

/-- A decimal in positional notation. -/
def positional (decimal : Decimal) : String :=
  if 0 ≤ decimal.exponent then
    String.ofList (decimal.digitList ++ List.replicate decimal.exponent.toNat '0')
  else withPoint decimal.digitList (-decimal.exponent).toNat

/-- A decimal in scientific notation; the exponent has a sign and at least two
digits. -/
def scientific (decimal : Decimal) : String :=
  let digits := decimal.digitList
  let power := decimal.leading
  let mantissa := withPoint digits (digits.length - 1)
  let exponent := toString power.natAbs
  mantissa ++ (if power < 0 then "e-" else "e+") ++
    (if exponent.length < 2 then "0" ++ exponent else exponent)

/-- A sign in front of a text. -/
def signed (negative : Bool) (text : String) : String :=
  if negative then "-" ++ text else text

/-- The shortest text of a number in a format; numbers below 10⁻⁴ and from 10⁶ on
are written in scientific notation. -/
def general (format : Format) (value : Float) : String :=
  let number := (parts value).round format
  match number with
  | .finite negative significand exponent =>
      let decimal := shortest format significand exponent
      let positionalRange := -4 ≤ decimal.leading && decimal.leading < 6
      signed negative (if positionalRange then decimal.positional else decimal.scientific)
  | other => (special other).getD ""

/-- The text of a number with a fixed number of places, rounded to the nearest
one, a tie to the even digit. -/
def fixed (places : Nat) (value : Float) : String :=
  match parts value with
  | .finite negative significand exponent =>
      let (num, den) := quotient significand exponent
      signed negative (withPoint (Nat.toDigits 10 (roundDiv (num * Nat.pow 10 places) den)) places)
  | other => (special other).getD ""

/-- The integer that the shortest decimal of a number is, if it is one.  A number
from 10²¹ on is never written as an integer. -/
def integer? (value : Float) : Option Int :=
  match parts value with
  | .finite negative significand exponent =>
      let decimal := shortest double significand exponent
      if 0 ≤ decimal.exponent && decimal.leading < 21 then
        let magnitude : Nat := decimal.digits * Nat.pow 10 decimal.exponent.toNat
        some (if negative then -(magnitude : Int) else magnitude)
      else none
  | _ => none

end Ascent.Decimal
