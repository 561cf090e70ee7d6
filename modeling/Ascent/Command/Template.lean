/-!
# Templates without values

A message that is taken for a template: a percent sign starts a place for a
value, with flags, a number of a value in brackets, a width, a precision and a
verb.  As there are no values, every place is written as what is wrong with it.
Two percent signs are one.
-/

namespace Ascent.Command.Template

/-- What is known about a place while it is read. -/
structure Place where
  /-- Complaints that are written before the place itself. -/
  written : String
  /-- Whether all numbers of values were good. -/
  good : Bool
  /-- Whether a number of a value came last. -/
  numbered : Bool
  rest : List Char

/-- Read a number; one that is too large swallows everything. -/
def number? (cs : List Char) : Option Nat × List Char :=
  let digits := cs.takeWhile Char.isDigit
  let value := digits.foldl
    (fun value c => value.bind fun n =>
      if 1000000 < n then none else some (n * 10 + (c.toNat - '0'.toNat))) (some 0)
  match value with
  | none => (none, [])
  | some n => (if digits.isEmpty then none else some n, cs.drop digits.length)

/-- Read the number of a value in brackets.  There are no values, so every number
is wrong. -/
def argument (place : Place) : Place :=
  match place.rest with
  | '[' :: inner =>
      let body := inner.takeWhile (· != ']')
      if place.rest.length < 3 || body.length == inner.length then
        { place with good := false, numbered := false, rest := inner }
      else
        let isNumber := !body.isEmpty && body.all Char.isDigit && (number? body).1.isSome
        { place with good := false, numbered := isNumber, rest := inner.drop (body.length + 1) }
  | _ => { place with numbered := false }

/-- Read a width: a star asks for a value, which is not there. -/
def width (place : Place) : Place :=
  match place.rest with
  | '*' :: rest =>
      { place with written := place.written ++ "%!(BADWIDTH)", numbered := false, rest }
  | _ =>
      let (number, rest) := number? place.rest
      { place with good := place.good && !(place.numbered && number.isSome), rest }

/-- Read a precision behind a point. -/
def precision (place : Place) : Place :=
  match place.rest with
  | '.' :: rest =>
      let place := argument { place with good := place.good && !place.numbered, rest }
      match place.rest with
      | '*' :: rest =>
          { place with written := place.written ++ "%!(BADPREC)", numbered := false, rest }
      | _ => { place with rest := (number? place.rest).2 }
  | _ => place

/-- Whether a character is a flag of a place. -/
def isFlag (c : Char) : Bool :=
  c == '#' || c == '0' || c == '+' || c == '-' || c == ' '

/-- Read a place behind its percent sign: what is written for it, and the rest. -/
def place (cs : List Char) : String × List Char :=
  let place := argument ⟨"", true, false, cs.dropWhile isFlag⟩
  let place := precision (width place)
  let place := if place.numbered then place else argument place
  match place.rest with
  | [] => (place.written ++ "%!(NOVERB)", [])
  | '%' :: rest => (place.written ++ "%", rest)
  | verb :: rest =>
      let reason := if place.good then "(MISSING)" else "(BADINDEX)"
      (place.written ++ "%!" ++ String.singleton verb ++ reason, rest)

/-- Write out a template.  The first argument bounds the number of characters. -/
def expandFrom : Nat → List Char → String
  | 0, _ => ""
  | _, [] => ""
  | fuel + 1, c :: rest =>
      if c == '%' then
        let (written, rest) := place rest
        written ++ expandFrom fuel rest
      else String.singleton c ++ expandFrom fuel rest

/-- Write out a text that is taken for a template. -/
def expand (text : String) : String :=
  expandFrom text.length text.toList

end Ascent.Command.Template
