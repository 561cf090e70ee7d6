import Ascent.Text.Fold
import Ascent.Yaml.Value

/-!
# Data for a record

Between a YAML value and a record of known fields stands a datum: keys are
texts, in the order of their octets, and a number is known only by the
integer it is.  Where a record wants a text, numbers and truth values become
texts; everywhere else a number must be finite.
-/

namespace Ascent.Draft

/-- What a place in a record holds. -/
inductive Shape where
  | text
  | list (member : Shape)
  | record (fields : List (String × Shape))
  /-- A number, or a place that no record knows. -/
  | other

/-- A value without its notation. -/
inductive Datum where
  | null
  | bool (value : Bool)
  /-- A number, with its value if it is an integer. -/
  | number (integer : Option Int)
  | text (value : String)
  | list (members : List Datum)
  | object (entries : List (String × Datum))

/-- The field that a key means: the one with exactly this name, else the first
one that differs only in case. -/
def lookupField {α : Type} (fields : List (String × α)) (key : String) : Option α :=
  match fields.find? fun field => field.1 == key with
  | some field => some field.2
  | none => (fields.find? fun field => field.1 == Text.fold key).map (·.2)

/-- The shape under a key. -/
def Shape.under (shape : Shape) (key : String) : Shape :=
  match shape with
  | .record fields => (lookupField fields key).getD .other
  | _ => .other

/-- The shape of the members of a list. -/
def Shape.inside : Shape → Shape
  | .list member => member
  | _ => .other

/-- Whether a text is wanted. -/
def Shape.isText : Shape → Bool
  | .text => true
  | _ => false

namespace Datum

/-- The datum of a scalar at a place; refused is a number that is not finite
where no text is wanted. -/
def ofScalar? (shape : Shape) : Yaml.Scalar → Option Datum
  | .null => some .null
  | .bool value => some (if shape.isText then .text (Yaml.Scalar.boolText value) else .bool value)
  | .int value => some (if shape.isText then .text (toString value) else .number (some value))
  | .float value =>
      if shape.isText then some (.text (Decimal.general Decimal.single value))
      else if value.isFinite then some (.number (Decimal.integer? value))
      else none
  | .text value => some (.text value)
  | .octets value => some (.text (Text.ofOctets value))

/-- Put an entry at its place by the order of keys, behind equal ones. -/
def insertByKey (key : List Nat) (datum : Datum) :
    List (List Nat × Datum) → List (List Nat × Datum)
  | [] => [(key, datum)]
  | entry :: rest =>
      if key < entry.1 then (key, datum) :: entry :: rest
      else entry :: insertByKey key datum rest

mutual

/-- The datum of a value at a place. -/
def ofValue? (shape : Shape) : Yaml.Value → Option Datum
  | .scalar value => ofScalar? shape value
  | .sequence members => .list <$> ofMembers? shape.inside members
  | .mapping entries => do
      let ordered ← ofEntries? shape [] entries
      return .object (ordered.map fun (key, datum) => (Text.ofOctets key, datum))

/-- The data of the members of a sequence. -/
def ofMembers? (shape : Shape) : List Yaml.Value → Option (List Datum)
  | [] => some []
  | member :: rest => do
      let datum ← ofValue? shape member
      return datum :: (← ofMembers? shape rest)

/-- The data of entries, ordered by the octets of their keys. -/
def ofEntries? (shape : Shape) (sofar : List (List Nat × Datum)) :
    List (Yaml.Scalar × Yaml.Value) → Option (List (List Nat × Datum))
  | [] => some sofar
  | (key, value) :: rest => do
      let name ← key.keyText?
      let octets ← key.keyOctets?
      let datum ← ofValue? (shape.under name) value
      ofEntries? shape (insertByKey octets datum sofar) rest

end

mutual

/-- How deep lists and objects are nested. -/
def depth : Datum → Nat
  | .list members => depthOfMembers members + 1
  | .object entries => depthOfEntries entries + 1
  | _ => 0

/-- The largest depth of members. -/
def depthOfMembers : List Datum → Nat
  | [] => 0
  | member :: rest => max (depth member) (depthOfMembers rest)

/-- The largest depth of entries. -/
def depthOfEntries : List (String × Datum) → Nat
  | [] => 0
  | (_, datum) :: rest => max (depth datum) (depthOfEntries rest)

end

end Datum

end Ascent.Draft
