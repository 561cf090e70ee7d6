/-!
# Reading comma-separated values

The first record of a text.  Empty lines before it are skipped.  A field that
starts with a quote goes up to the next single quote, over line ends if need
be; in any other field a quote is refused.  Complaints give the place in octets.
-/

namespace Ascent.Csv

/-- Why a text has no first record. -/
inductive Failure where
  /-- There are only empty lines. -/
  | empty
  /-- A quote in a field that does not start with one. -/
  | bareQuote (start line column : Nat)
  /-- A quoted field that does not end, or does not end at a comma. -/
  | openQuote (start line column : Nat)
deriving DecidableEq, Repr

/-- The wording of a place. -/
def placeText (start line column : Nat) : String :=
  if start = line then s!"parse error on line {line}, column {column}: "
  else s!"record on line {start}; parse error on line {line}, column {column}: "

/-- The wording of a failure. -/
def Failure.message : Failure → String
  | .empty => "EOF"
  | .bareQuote start line column => placeText start line column ++ "bare \" in non-quoted-field"
  | .openQuote start line column =>
      placeText start line column ++ "extraneous or missing \" in quoted-field"

/-- The lines of a text, each with its end; a carriage return before a line feed
or at the very end is dropped. -/
def lines (cs : List Char) : List (List Char) :=
  match cs with
  | [] => []
  | _ => go [] cs
where
  /-- The lines behind the characters of the current one, in reverse. -/
  go (front : List Char) : List Char → List (List Char)
    | [] =>
        match front with
        | [] => []
        | '\r' :: front => [front.reverse]
        | front => [front.reverse]
    | '\r' :: '\n' :: rest => ('\n' :: front).reverse :: go [] rest
    | '\n' :: rest => ('\n' :: front).reverse :: go [] rest
    | c :: rest => go (c :: front) rest

/-- The number of octets of characters. -/
def octets (cs : List Char) : Nat :=
  (String.ofList cs).utf8ByteSize

/-- Whether a list is at the end of its line. -/
def atEnd (cs : List Char) : Bool :=
  cs == [] || cs == ['\n']

/-- Read the fields of a record.  `start` is the line where the record starts,
`line` and `column` the current place; `field` holds the characters of an open
quoted field, in reverse; `further` are the lines behind the current one. -/
def fields (start : Nat) :
    (fuel line column : Nat) → (field : Option (List Char)) → (cs : List Char) →
      (further : List (List Char)) → Except Failure (List String)
  | 0, _, _, _, _, _ => .ok []
  | fuel + 1, line, column, none, cs, further =>
      match cs with
      | '\x22' :: rest => fields start fuel line (column + 1) (some []) rest further
      | _ =>
          let text := cs.takeWhile (· != ',')
          let behind := cs.drop text.length
          let value := if behind.isEmpty then text.filter (· != '\n') else text
          if value.contains '\x22' then
            .error (.bareQuote start line (column + octets (value.takeWhile (· != '\x22'))))
          else
            match behind with
            | _ :: rest => do
                let more ← fields start fuel line (column + octets text + 1) none rest further
                return String.ofList value :: more
            | [] => .ok [String.ofList value]
  | fuel + 1, line, column, some field, cs, further =>
      let text := cs.takeWhile (· != '\x22')
      match cs.drop text.length with
      | _ :: rest =>
          let field := text.reverse ++ field
          let column := column + octets text + 1
          match rest with
          | '\x22' :: rest =>
              fields start fuel line (column + 1) (some ('\x22' :: field)) rest further
          | ',' :: rest => do
              let more ← fields start fuel line (column + 1) none rest further
              return String.ofList field.reverse :: more
          | _ =>
              if atEnd rest then .ok [String.ofList field.reverse]
              else .error (.openQuote start line (column - 1))
      | [] =>
          if cs.isEmpty then .error (.openQuote start line column)
          else
            match further with
            | next :: further =>
                fields start fuel (line + 1) 1 (some (text.reverse ++ field)) next further
            | [] => .error (.openQuote start line (column + octets cs))

/-- The first record of lines, the first of which has number `line`. -/
def firstRecord (fuel : Nat) : (line : Nat) → List (List Char) → Except Failure (List String)
  | _, [] => .error .empty
  | line, first :: further =>
      if first == ['\n'] || first.isEmpty then firstRecord fuel (line + 1) further
      else fields line fuel line 1 none first further

/-- The first record of a text. -/
def readRecord (text : String) : Except Failure (List String) :=
  firstRecord (2 * text.length + 2) 1 (lines text.toList)

end Ascent.Csv
