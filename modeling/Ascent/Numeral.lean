import Ascent.Text.Quoted

/-!
# Integer numerals

Numerals of 64-bit numbers.  A numeral is read from left to right: the first
character that is no digit of the base makes it malformed, and the first digit
that leads beyond 64 bits makes it out of range, whatever comes after it.

Without a given base the numeral shows it by its front: `0b`, `0o` or `0x`, and
a leading zero stands for base eight.  Only then digits may be separated by
underscores.
-/

namespace Ascent.Numeral

/-- Why a text is no numeral of the wanted kind. -/
inductive Failure where
  | malformed
  | outOfRange
deriving DecidableEq, Repr

/-- The wording of a failure. -/
def Failure.message : Failure → String
  | .malformed => "invalid syntax"
  | .outOfRange => "value out of range"

/-- The full complaint about a text; `reader` names the kind of numeral. -/
def Failure.complaint (failure : Failure) (reader text : String) : String :=
  "strconv." ++ reader ++ ": parsing " ++ Text.quote text ++ ": " ++ failure.message

/-- The value of a digit; letters follow the decimal digits in either case. -/
def digit? (c : Char) : Option Nat :=
  if '0' ≤ c ∧ c ≤ '9' then some (c.toNat - '0'.toNat)
  else if 'a' ≤ c ∧ c ≤ 'z' then some (c.toNat - 'a'.toNat + 10)
  else if 'A' ≤ c ∧ c ≤ 'Z' then some (c.toNat - 'A'.toNat + 10)
  else none

/-- Read digits behind the number `value`. -/
def digitsFrom (base : Nat) (separated : Bool) : (value : Nat) → List Char → Except Failure Nat
  | value, [] => .ok value
  | value, c :: rest =>
      if separated && c == '_' then digitsFrom base separated value rest
      else
        match digit? c with
        | none => .error .malformed
        | some digit =>
            if base ≤ digit then .error .malformed
            else if 1 <<< 64 ≤ value * base + digit then .error .outOfRange
            else digitsFrom base separated (value * base + digit) rest

/-- What may stand before an underscore, and what was seen last. -/
inductive Seen where
  | digit
  | underscore
  | other
deriving DecidableEq

/-- Whether every underscore stands between two digits.  `hex` admits the
hexadecimal digits. -/
def separatedFrom (hex : Bool) : Seen → List Char → Bool
  | seen, [] => seen != .underscore
  | seen, c :: rest =>
      if c.isDigit || (hex && (digit? c).any (· < 16)) then separatedFrom hex .digit rest
      else if c == '_' then seen == .digit && separatedFrom hex .underscore rest
      else seen != .underscore && separatedFrom hex .other rest

/-- Drop one sign at the front. -/
def dropSign : List Char → List Char
  | '+' :: rest => rest
  | '-' :: rest => rest
  | cs => cs

/-- Whether the underscores of a numeral are where they may be: between two
digits, or between the base and a digit. -/
def wellSeparated (cs : List Char) : Bool :=
  match dropSign cs with
  | '0' :: mark :: rest =>
      if mark.toLower == 'x' then separatedFrom true .digit rest
      else if mark.toLower == 'b' || mark.toLower == 'o' then separatedFrom false .digit rest
      else separatedFrom false .other ('0' :: mark :: rest)
  | rest => separatedFrom false .other rest

/-- The base shown by the front of a numeral, and the digits behind it. -/
def shownBase : List Char → Nat × List Char
  | '0' :: mark :: first :: rest =>
      if mark.toLower == 'b' then (2, first :: rest)
      else if mark.toLower == 'o' then (8, first :: rest)
      else if mark.toLower == 'x' then (16, first :: rest)
      else (8, mark :: first :: rest)
  | '0' :: rest => (8, rest)
  | cs => (10, cs)

/-- Read a number below 2^64 without a sign, in the given base or in the one
that it shows. -/
def unsigned (base : Option Nat) (cs : List Char) : Except Failure Nat :=
  if cs.isEmpty then .error .malformed
  else
    match base with
    | some base => digitsFrom base false 0 cs
    | none => do
        let (base, digits) := shownBase cs
        let value ← digitsFrom base true 0 digits
        if digits.contains '_' && !wellSeparated cs then .error .malformed else return value

/-- Read a number from −2^63 to 2^63 − 1, with or without a sign. -/
def signed (base : Option Nat) (cs : List Char) : Except Failure Int := do
  let value ← unsigned base (dropSign cs)
  if cs.head? == some '-' then
    if 1 <<< 63 < value then .error .outOfRange else return -(value : Int)
  else if 1 <<< 63 ≤ value then .error .outOfRange
  else return value

/-- Read a decimal integer. -/
def decimal (text : String) : Except Failure Int :=
  signed (some 10) text.toList

/-- Read an integer in the base that it shows. -/
def literal (text : String) : Except Failure Int :=
  signed none text.toList

end Ascent.Numeral
