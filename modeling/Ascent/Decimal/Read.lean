import Ascent.Decimal.Binary
import Ascent.Numeral

/-!
# Reading numbers

Floating-point numerals: decimal ones with an optional exponent, hexadecimal
ones with a binary exponent, and the words for infinity and for what is not a
number.  Underscores may separate digits.  The result is the nearest number; a
numeral beyond the largest number is out of range.
-/

namespace Ascent.Decimal

open Numeral (Failure)

/-- The number that a word stands for, in any case. -/
def word? (cs : List Char) : Option Parts :=
  let negative := cs.head? == some '-'
  let signed := negative || cs.head? == some '+'
  match String.ofList ((if signed then cs.drop 1 else cs).map Char.toLower) with
  | "inf" => some (.infinite negative)
  | "infinity" => some (.infinite negative)
  | "nan" => if signed then none else some .nan
  | _ => none

/-- The digits of a numeral up to its exponent. -/
structure Mantissa where
  value : Nat
  /-- The number of digits behind the point, once there was one. -/
  places : Option Nat
  /-- Whether there was a digit at all. -/
  seen : Bool

/-- The value of a digit in a base up to sixteen. -/
def digitIn? (base : Nat) (c : Char) : Option Nat :=
  (Numeral.digit? c).filter (· < base)

/-- Read digits, underscores and one point. -/
def mantissa (base : Nat) : Mantissa → List Char → Mantissa × List Char
  | sofar, [] => (sofar, [])
  | sofar, c :: rest =>
      if c == '_' then mantissa base sofar rest
      else if c == '.' && sofar.places.isNone then
        mantissa base { sofar with places := some 0 } rest
      else
        match digitIn? base c with
        | some digit =>
            mantissa base ⟨sofar.value * base + digit, sofar.places.map (· + 1), true⟩ rest
        | none => (sofar, c :: rest)

/-- The value of the digits of an exponent; beyond five digits it does not grow. -/
def exponentValue (cs : List Char) : Nat :=
  (cs.filter Char.isDigit).foldl
    (fun value c => if value < 10000 then value * 10 + (c.toNat - '0'.toNat) else value) 0

/-- Read an exponent behind its mark: a sign, a digit, and digits and
underscores up to the end of the text. -/
def exponent? (cs : List Char) : Option Int :=
  let digits := Numeral.dropSign cs
  if (digits.head?.any Char.isDigit) && digits.all (fun c => c.isDigit || c == '_') then
    let value : Int := exponentValue digits
    some (if cs.head? == some '-' then -value else value)
  else none

/-- The nearest number to `value * base ^ exponent`, `none` if it is too large.
Exponents that are out of reach of every number are not computed with. -/
def power? (value base : Nat) (exponent : Int) : Option (Nat × Int) :=
  let size : Int := (Nat.toDigits base value).length + exponent
  if value == 0 || size < -1200 then some (0, double.least)
  else if 1200 < size then none
  else if 0 ≤ exponent then double.nearest? (value * base.pow exponent.toNat) 1
  else double.nearest? value (base.pow (-exponent).toNat)

/-- Read a number. -/
def read (text : String) : Except Failure Float :=
  let cs := text.toList
  match word? cs with
  | some number => .ok number.toFloat
  | none =>
      let body := Numeral.dropSign cs
      let hex :=
        match body with
        | '0' :: mark :: _ :: _ => mark.toLower == 'x'
        | _ => false
      let base := if hex then 16 else 10
      let (digits, rest) := mantissa base ⟨0, none, false⟩ (if hex then body.drop 2 else body)
      let exponent : Option Int :=
        match rest with
        | [] => if hex then none else some 0
        | mark :: rest =>
            if mark.toLower == (if hex then 'p' else 'e') then exponent? rest else none
      match exponent with
      | none => .error .malformed
      | some exponent =>
          if !digits.seen || (cs.contains '_' && !Numeral.wellSeparated cs) then .error .malformed
          else
            let places : Int := digits.places.getD 0
            let number :=
              if hex then power? digits.value 2 (exponent - 4 * places)
              else power? digits.value 10 (exponent - places)
            match number with
            | some (significand, exponent) =>
                .ok (Parts.finite (cs.head? == some '-') significand exponent).toFloat
            | none => .error .outOfRange

end Ascent.Decimal
