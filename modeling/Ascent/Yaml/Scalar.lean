import Ascent.Decimal.Read
import Ascent.Decimal.Write
import Ascent.Text.Octets
import Ascent.Yaml.Timestamp

/-!
# The meaning of scalars

What a scalar's text stands for.  A plain scalar is resolved by its text: the
words for truth values and for null, integers in several bases, decimals; all
else is text.  A tag either names the kind that the text must have, or makes it
text; one tag marks text that is given by its octets.
-/

namespace Ascent.Yaml

/-- The value of a scalar.  An integer lies between −2^63 and 2^64 − 1. -/
inductive Scalar where
  | null
  | bool (value : Bool)
  | int (value : Int)
  | float (value : Float)
  | text (value : String)
  /-- Text by its octets, which need not be UTF-8. -/
  | octets (value : List Nat)

namespace Scalar

/-! ## Plain scalars -/

/-- The scalars that are written as words. -/
def word? (text : String) : Option Scalar :=
  if ["y", "Y", "yes", "Yes", "YES", "true", "True", "TRUE", "on", "On", "ON"].contains text then
    some (.bool true)
  else if ["n", "N", "no", "No", "NO", "false", "False", "FALSE", "off", "Off", "OFF"].contains
      text then
    some (.bool false)
  else if ["", "~", "null", "Null", "NULL"].contains text then some .null
  else if [".nan", ".NaN", ".NAN"].contains text then some (.float Decimal.Parts.nan.toFloat)
  else if [".inf", ".Inf", ".INF", "+.inf", "+.Inf", "+.INF"].contains text then
    some (.float (Decimal.Parts.infinite false).toFloat)
  else if ["-.inf", "-.Inf", "-.INF"].contains text then
    some (.float (Decimal.Parts.infinite true).toFloat)
  else none

/-- A number read without failure. -/
def ofRead {ε α : Type} (make : α → Scalar) : Except ε α → Option Scalar
  | .ok value => some (make value)
  | .error _ => none

/-- Whether characters are an exponent, or nothing. -/
def isExponent : List Char → Bool
  | [] => true
  | mark :: rest =>
      let digits := Numeral.dropSign rest
      mark.toLower == 'e' && !digits.isEmpty && digits.all Char.isDigit

/-- Whether a text is a decimal: digits with a point before, among or behind
them, and an optional exponent. -/
def isDecimal (cs : List Char) : Bool :=
  let body := Numeral.dropSign cs
  let whole := body.takeWhile Char.isDigit
  match body.dropWhile Char.isDigit with
  | '.' :: rest =>
      let fraction := rest.takeWhile Char.isDigit
      (!whole.isEmpty || !fraction.isEmpty) && isExponent (rest.dropWhile Char.isDigit)
  | rest => !whole.isEmpty && isExponent rest

/-- An integer in base two behind `0b` or `-0b`, with a sign of its own. -/
def binary? : List Char → Option Scalar
  | '0' :: 'b' :: digits =>
      ofRead .int (Numeral.signed (some 2) digits) <|>
        ofRead (fun n => .int n) (Numeral.unsigned (some 2) digits)
  | '-' :: '0' :: 'b' :: digits => ofRead .int (Numeral.signed (some 2) ('-' :: digits))
  | _ => none

/-- The number that a text is, if it starts with a digit or a sign.  Underscores
do not count. -/
def number? (text : String) : Option Scalar :=
  let plain := text.toList.filter (· != '_')
  ofRead .int (Numeral.signed none plain) <|>
    ofRead (fun n => .int n) (Numeral.unsigned none plain) <|>
    (if isDecimal plain then ofRead .float (Decimal.read (String.ofList plain)) else none) <|>
    binary? plain

/-- Resolve a plain scalar by its first character and its text. -/
def ofPlain (text : String) : Scalar :=
  (word? text).getD <|
    match text.toList with
    | [] => .null
    | c :: _ =>
        if c.isDigit || c == '+' || c == '-' then (number? text).getD (.text text)
        else if c == '.' then (ofRead .float (Decimal.read text)).getD (.text text)
        else .text text

/-! ## Tagged scalars -/

/-- The front of the tags that are part of YAML. -/
def standardTag (name : String) : String :=
  "tag:yaml.org,2002:" ++ name

/-- Resolve a scalar.  Without a tag it is plain or text.  A scalar whose text
does not have the kind that its tag names is refused. -/
def resolve? (tag : String) (implicit : Bool) (text : String) : Option Scalar :=
  if tag.isEmpty then some (if implicit then ofPlain text else .text text)
  else if tag == standardTag "binary" then
    (Text.base64? text).map .octets
  else if tag == standardTag "bool" then
    match ofPlain text with
    | .bool value => some (.bool value)
    | _ => none
  else if tag == standardTag "int" then
    match ofPlain text with
    | .int value => some (.int value)
    | _ => none
  else if tag == standardTag "float" then
    match ofPlain text with
    | .float value => some (.float value)
    | .int value =>
        if value ≤ Int64.maxValue.toInt then some (.float (Int64.ofInt value).toFloat) else none
    | _ => none
  else if tag == standardTag "null" then
    match ofPlain text with
    | .null => some .null
    | _ => none
  else if tag == standardTag "timestamp" then
    if Timestamp.isTimestamp text then some (.text text) else none
  else some (.text text)

/-! ## Keys -/

/-- Whether two scalars are the same key: of one kind and equal.  Texts are
compared by their octets. -/
def sameKey : Scalar → Scalar → Bool
  | .null, .null => true
  | .bool a, .bool b => a == b
  | .int a, .int b => a == b
  | .float a, .float b => a == b
  | .text a, .text b => a == b
  | .text a, .octets b => Text.octets a == b
  | .octets a, .text b => a == Text.octets b
  | .octets a, .octets b => a == b
  | _, _ => false

/-- The text of a truth value. -/
def boolText (value : Bool) : String :=
  if value then "true" else "false"

/-- The text of a key; null and integers from 2^63 on cannot be keys. -/
def keyText? : Scalar → Option String
  | .null => none
  | .bool value => some (boolText value)
  | .int value => if value ≤ Int64.maxValue.toInt then some (toString value) else none
  | .float value =>
      match Decimal.general Decimal.single value with
      | "+Inf" => some ".inf"
      | "-Inf" => some "-.inf"
      | "NaN" => some ".nan"
      | digits => some digits
  | .text value => some value
  | .octets value => some (Text.ofOctets value)

/-- The octets of a key, by which keys are ordered. -/
def keyOctets? : Scalar → Option (List Nat)
  | .octets value => some value
  | key => key.keyText?.map Text.octets

end Scalar

end Ascent.Yaml
