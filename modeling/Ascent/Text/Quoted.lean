import Ascent.Text.Printable

/-!
# Quoted text

Texts and characters as they appear in messages: between quotes, with the
quote and the backslash escaped, short escapes for the common controls, and
hexadecimal escapes for everything that is not printable.
-/

namespace Ascent.Text

/-- The lower-case hexadecimal digits of a number, padded with zeros to a width. -/
def hexadecimal (width value : Nat) : String :=
  let digits := Nat.toDigits 16 value
  String.ofList (List.replicate (width - digits.length) '0' ++ digits)

/-- The short escape of a control character, if it has one. -/
def shortEscape? : Char → Option String
  | '\x07' => some "\\a"
  | '\x08' => some "\\b"
  | '\x0c' => some "\\f"
  | '\n' => some "\\n"
  | '\r' => some "\\r"
  | '\t' => some "\\t"
  | '\x0b' => some "\\v"
  | _ => none

/-- One character inside quotes of the given kind. -/
def escape (mark c : Char) : String :=
  if c == mark || c == '\\' then
    String.ofList ['\\', c]
  else if isPrintable c then
    String.singleton c
  else
    match shortEscape? c with
    | some text => text
    | none =>
        if c.toNat < 0x80 then "\\x" ++ hexadecimal 2 c.toNat
        else if c.toNat < 0x10000 then "\\u" ++ hexadecimal 4 c.toNat
        else "\\U" ++ hexadecimal 8 c.toNat

/-- A text between double quotes. -/
def quote (text : String) : String :=
  "\"" ++ String.join (text.toList.map (escape '\x22')) ++ "\""

/-- A character between single quotes. -/
def quoteChar (c : Char) : String :=
  "'" ++ escape '\x27' c ++ "'"

end Ascent.Text
