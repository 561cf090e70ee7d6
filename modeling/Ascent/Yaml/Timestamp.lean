/-!
# Timestamps

A date `Y-M-D`, alone or followed by a time of day.  The year has four digits,
all other numbers one or two.  Behind a `T` or `t` the time has a zone; behind
spaces it has none.
-/

namespace Ascent.Yaml.Timestamp

/-- The value of a decimal digit. -/
def digit? (c : Char) : Option Nat :=
  if c.isDigit then some (c.toNat - '0'.toNat) else none

/-- A number of one or two digits, and the rest. -/
def number? : List Char → Option (Nat × List Char)
  | a :: b :: rest => do
      let first ← digit? a
      match digit? b with
      | some second => return (first * 10 + second, rest)
      | none => return (first, b :: rest)
  | [a] => do return (← digit? a, [])
  | [] => none

/-- The rest behind a character that must come next. -/
def expect? (c : Char) : List Char → Option (List Char)
  | d :: rest => if d == c then some rest else none
  | [] => none

/-- Whether a year has a 29th of February. -/
def isLeap (year : Nat) : Bool :=
  year % 4 == 0 && (year % 100 != 0 || year % 400 == 0)

/-- The number of days of a month. -/
def days (year month : Nat) : Nat :=
  if month == 2 then (if isLeap year then 29 else 28)
  else if [4, 6, 9, 11].contains month then 30
  else 31

/-- The rest behind a date. -/
def date? (cs : List Char) : Option (List Char) := do
  let digits := cs.takeWhile Char.isDigit
  if digits.length != 4 then none
  else
    let year := digits.foldl (fun n c => n * 10 + (c.toNat - '0'.toNat)) 0
    let (month, rest) ← number? (← expect? '-' (cs.drop 4))
    let (day, rest) ← number? (← expect? '-' rest)
    if 1 ≤ month && month ≤ 12 && 1 ≤ day && day ≤ days year month then some rest else none

/-- The rest behind a fraction of a second, if there is one. -/
def fraction (cs : List Char) : List Char :=
  match cs with
  | mark :: c :: rest =>
      if (mark == '.' || mark == ',') && c.isDigit then rest.dropWhile Char.isDigit else cs
  | _ => cs

/-- The rest behind a time of day. -/
def time? (cs : List Char) : Option (List Char) := do
  let (hour, rest) ← number? cs
  let (minute, rest) ← number? (← expect? ':' rest)
  let (second, rest) ← number? (← expect? ':' rest)
  if hour < 24 && minute < 60 && second < 60 then some (fraction rest) else none

/-- Whether a text is a zone: `Z`, or the hours and minutes from it. -/
def isZone : List Char → Bool
  | ['Z'] => true
  | [sign, a, b, ':', c, d] =>
      (sign == '+' || sign == '-') && [a, b, c, d].all Char.isDigit &&
        (a.toNat - '0'.toNat) * 10 + (b.toNat - '0'.toNat) ≤ 24 &&
        (c.toNat - '0'.toNat) * 10 + (d.toNat - '0'.toNat) ≤ 60
  | _ => false

/-- Whether a text is a timestamp. -/
def isTimestamp (text : String) : Bool :=
  match date? text.toList with
  | none => false
  | some [] => true
  | some (mark :: rest) =>
      if mark == 'T' || mark == 't' then
        match time? rest with
        | some zone => isZone zone
        | none => false
      else if mark == ' ' then time? (rest.dropWhile (· == ' ')) == some []
      else false

end Ascent.Yaml.Timestamp
