import Ascent.Log.Level
import Ascent.Text.Quoted

/-!
# Log records

A record is an event with its fields.  It is written as one line: either a JSON
object, fields in the order in which they were given, or a console line with
the fields sorted by name.
-/

namespace Ascent.Log

/-- The value of a field. -/
inductive Value where
  | text (value : String)
  | int (value : Int)
  | bool (value : Bool)
  /-- A decimal number, by its digits. -/
  | decimal (digits : String)
deriving DecidableEq, Repr

/-- A named value. -/
abbrev Field :=
  String × Value

/-- An event with its fields.  An empty message is not written. -/
structure Record where
  level : Level
  fields : List Field
  message : String
deriving DecidableEq, Repr

/-! ## JSON lines -/

/-- One character inside a JSON string. -/
def escapeJson (c : Char) : String :=
  match c with
  | '\x22' => "\\\""
  | '\\' => "\\\\"
  | '\x08' => "\\b"
  | '\x0c' => "\\f"
  | '\n' => "\\n"
  | '\r' => "\\r"
  | '\t' => "\\t"
  | _ =>
      if c.toNat < 0x20 || c.toNat == 0x7f then "\\u" ++ Text.hexadecimal 4 c.toNat
      else String.singleton c

/-- A JSON string. -/
def quoteJson (text : String) : String :=
  "\"" ++ String.join (text.toList.map escapeJson) ++ "\""

/-- The text of a truth value. -/
def boolText (value : Bool) : String :=
  if value then "true" else "false"

/-- A value in a JSON line. -/
def Value.json : Value → String
  | .text value => quoteJson value
  | .int value => toString value
  | .bool value => boolText value
  | .decimal digits => digits

/-- A record as a JSON line: its level, its fields and its message. -/
def Record.json (record : Record) : String :=
  let level := if record.level == .none then [] else [("level", Value.text record.level.name)]
  let message := if record.message.isEmpty then [] else [("message", Value.text record.message)]
  let members := (level ++ record.fields ++ message).map fun (name, value) =>
    quoteJson name ++ ":" ++ value.json
  "\x7b" ++ ",".intercalate members ++ "\x7d\n"

/-! ## Console lines -/

/-- Whether a text needs quotes in a console line. -/
def needsQuotes (text : String) : Bool :=
  text.toList.any fun c => c.toNat ≤ 0x20 || 0x7e < c.toNat || c == '\\' || c == '\x22'

/-- A value in a console line. -/
def Value.console : Value → String
  | .text value => if needsQuotes value then Text.quote value else value
  | .int value => toString value
  | .bool value => boolText value
  | .decimal digits => digits

/-- Put a field at its place by the order of names. -/
def insertField (field : Field) : List Field → List Field
  | [] => [field]
  | other :: rest =>
      if field.1 < other.1 then field :: other :: rest else other :: insertField field rest

/-- The fields ordered by their names. -/
def sortFields (fields : List Field) : List Field :=
  fields.foldl (fun sorted field => insertField field sorted) []

/-- A record as a console line behind a time stamp. -/
def Record.console (stamp : String) (record : Record) : String :=
  let front := [stamp, record.level.letters] ++
    (if record.message.isEmpty then [] else [record.message])
  let fields := (sortFields record.fields).map fun (name, value) => name ++ "=" ++ value.console
  " ".intercalate (front ++ fields) ++ "\n"

end Ascent.Log
