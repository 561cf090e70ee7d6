import Ascent.Text.Blank

/-!
# Comma-separated values

A record is written on a line of its own, its fields separated by commas.  A
field that could be misread stands between quotes, and a quote inside it is
written twice.
-/

namespace Ascent.Csv

/-- Whether a character is only allowed between quotes. -/
def isSpecial (c : Char) : Bool :=
  c == ',' || c == '\x22' || c == '\n' || c == '\r'

/-- Whether a field has to stand between quotes: it holds a special character,
starts with white space, or is the mark of the end of data. -/
def needsQuotes (field : String) : Bool :=
  field == "\\." || field.toList.any isSpecial || (field.toList.head?.any Text.isBlank)

/-- The characters of a field between quotes. -/
def double : List Char → List Char
  | [] => []
  | c :: rest => if c = '\x22' then '\x22' :: '\x22' :: double rest else c :: double rest

/-- The characters of a written field. -/
def encodeField (field : String) : List Char :=
  if needsQuotes field then '\x22' :: double field.toList ++ ['\x22'] else field.toList

/-- The characters of a written record. -/
def encodeRecord : List String → List Char
  | [] => ['\n']
  | [field] => encodeField field ++ ['\n']
  | field :: rest => encodeField field ++ ',' :: encodeRecord rest

/-- The text of records. -/
def encode (records : List (List String)) : String :=
  String.ofList (records.flatMap encodeRecord)

end Ascent.Csv
