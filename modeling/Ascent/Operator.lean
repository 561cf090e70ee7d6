import Ascent.Error
import Ascent.Text.Blank
import Ascent.Text.Lowercase

/-!
# Comparison operators

The four comparisons a constraint can use, their symbols, and the spellings
under which a reader accepts them.
-/

namespace Ascent

/-- A comparison between a value and a threshold. -/
inductive Operator where
  | lessThan
  | lessOrEqual
  | greaterThan
  | greaterOrEqual
deriving DecidableEq, Repr

namespace Operator

/-- The canonical symbol of a comparison. -/
def symbol : Operator → String
  | .lessThan => "<"
  | .lessOrEqual => "<="
  | .greaterThan => ">"
  | .greaterOrEqual => ">="

/-- The comparison with exactly this symbol. -/
def ofSymbol (text : String) : Except Error Operator :=
  match text with
  | "<" => .ok .lessThan
  | "<=" => .ok .lessOrEqual
  | ">" => .ok .greaterThan
  | ">=" => .ok .greaterOrEqual
  | other => .error (.of (.unknownOperator other))

/-- The comparison spelt by a text without blanks around it and in lower case:
its symbol, a mathematical sign or a two-letter abbreviation. -/
def ofSpelling? (spelling : String) : Option Operator :=
  match spelling with
  | "<" => some .lessThan
  | "lt" => some .lessThan
  | "<=" => some .lessOrEqual
  | "≤" => some .lessOrEqual
  | "le" => some .lessOrEqual
  | ">" => some .greaterThan
  | "gt" => some .greaterThan
  | ">=" => some .greaterOrEqual
  | "≥" => some .greaterOrEqual
  | "ge" => some .greaterOrEqual
  | _ => none

/-- Read a comparison.  White space around it and the case of letters do not
matter. -/
def parse (text : String) : Except Error Operator :=
  match ofSpelling? (Text.lower (Text.trim text)) with
  | some operator => .ok operator
  | none => .error (.of (.unknownOperator text))

/-- Whether a value stands in this relation to a threshold. -/
def holds (operator : Operator) (value threshold : Int64) : Bool :=
  match operator with
  | .lessThan => value < threshold
  | .lessOrEqual => value ≤ threshold
  | .greaterThan => threshold < value
  | .greaterOrEqual => threshold ≤ value

end Operator

end Ascent
