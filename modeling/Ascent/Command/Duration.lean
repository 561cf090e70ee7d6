import Ascent.Text.Quoted

/-!
# Durations

A duration is written as decimal numbers with units, such as `1h30m` or `-1.5s`.
It is read as a number of nanoseconds, which must fit in 64 bits.
-/

namespace Ascent.Command.Duration

/-- Why a text is no duration. -/
inductive Failure where
  | invalid (text : String)
  | missingUnit (text : String)
  | unknownUnit (unit text : String)
deriving DecidableEq, Repr

/-- A text between quotes; a character that is not a printable ASCII one is shown
by its octets. -/
def quote (text : String) : String :=
  let shown (c : Char) : String :=
    if 0x80 ≤ c.toNat || c.toNat < 0x20 then
      String.join ((String.singleton c).toUTF8.toList.map fun octet =>
        "\\x" ++ Text.hexadecimal 2 octet.toNat)
    else if c == '\x22' || c == '\\' then String.ofList ['\\', c]
    else String.singleton c
  "\"" ++ String.join (text.toList.map shown) ++ "\""

/-- The wording of a failure. -/
def Failure.message : Failure → String
  | .invalid text => "time: invalid duration " ++ quote text
  | .missingUnit text => "time: missing unit in duration " ++ quote text
  | .unknownUnit unit text => "time: unknown unit " ++ quote unit ++ " in duration " ++ quote text

/-- The nanoseconds of a unit. -/
def unit? : String → Option Nat
  | "ns" => some 1
  | "us" => some 1000
  | "µs" => some 1000
  | "μs" => some 1000
  | "ms" => some 1000000
  | "s" => some 1000000000
  | "m" => some 60000000000
  | "h" => some 3600000000000
  | _ => none

/-- The digits of a fraction as far as they count: their value and their scale. -/
def fraction (digits : List Char) : Nat × Float :=
  let (value, scale, _) := digits.foldl
    (fun (value, scale, full) c =>
      let next := value * 10 + (c.toNat - '0'.toNat)
      if full || ((1 <<< 63) - 1) / 10 < value || 1 <<< 63 < next then (value, scale, true)
      else (next, scale * 10, false)) ((0 : Nat), (1 : Float), false)
  (value, scale)

/-- The nanoseconds of a number with a unit, `none` if they do not fit. -/
def scaled? (whole : Nat) (digits : List Char) (unit : Nat) : Option Nat :=
  if (1 <<< 63) / unit < whole then none
  else
    let (value, scale) := fraction digits
    let extra :=
      if value == 0 then 0
      else ((UInt64.ofNat value).toFloat * ((UInt64.ofNat unit).toFloat / scale)).toUInt64.toNat
    if 1 <<< 63 < whole * unit + extra then none else some (whole * unit + extra)

/-- Whether a character belongs to a number. -/
def isNumeric (c : Char) : Bool :=
  c == '.' || c.isDigit

/-- Read numbers with units behind `total` nanoseconds; `text` is the whole text. -/
def sum (text : String) : (fuel total : Nat) → List Char → Except Failure Nat
  | 0, total, _ => .ok total
  | _, total, [] => .ok total
  | fuel + 1, total, c :: rest =>
      let cs := c :: rest
      let wholeDigits := cs.takeWhile Char.isDigit
      let whole := wholeDigits.foldl (fun n c => n * 10 + (c.toNat - '0'.toNat)) 0
      let behind := cs.drop wholeDigits.length
      let (fractionDigits, behind) :=
        match behind with
        | '.' :: more => (more.takeWhile Char.isDigit, more.dropWhile Char.isDigit)
        | _ => ([], behind)
      if 1 <<< 63 < whole || (wholeDigits.isEmpty && fractionDigits.isEmpty) then
        .error (.invalid text)
      else
        let name := behind.takeWhile (!isNumeric ·)
        if name.isEmpty then .error (.missingUnit text)
        else
          match unit? (String.ofList name) with
          | none => .error (.unknownUnit (String.ofList name) text)
          | some unit =>
              match scaled? whole fractionDigits unit with
              | none => .error (.invalid text)
              | some nanoseconds =>
                  if 1 <<< 63 < total + nanoseconds then .error (.invalid text)
                  else sum text fuel (total + nanoseconds) (behind.dropWhile (!isNumeric ·))

/-- Read a duration. -/
def parse (text : String) : Except Failure Int :=
  let cs := text.toList
  let negative := cs.head? == some '-'
  let body := if negative || cs.head? == some '+' then cs.drop 1 else cs
  if body == ['0'] then .ok 0
  else if body.isEmpty then .error (.invalid text)
  else
    match sum text body.length 0 body with
    | .error failure => .error failure
    | .ok total =>
        if negative then .ok (-(total : Int))
        else if 1 <<< 63 ≤ total then .error (.invalid text)
        else .ok total

end Ascent.Command.Duration
