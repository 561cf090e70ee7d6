import Ascent.Draft
import Ascent.Draft.Datum

/-!
# Reading drafts

A draft is read from a YAML text.  Reading is strict: a field that is not known
and a value of another kind are refused, and the first of them, in the order of
keys, is the one that counts.

Two spellings of one field that differ in case may both be there.  They are
read one after the other into the same place, so what a later one leaves open
keeps its earlier value.
-/

namespace Ascent.Draft

/-- Why a text is not a draft. -/
inductive DecodeError where
  /-- The text is not well formed, or says something that no record can hold. -/
  | malformed
  /-- A mapping has a key twice. -/
  | duplicateKey
  | unknownField (name : String)
  /-- A value has another kind than its field, or data are nested too deeply. -/
  | wrongKind
deriving DecidableEq, Repr

/-- The wording of an error. -/
def DecodeError.message : DecodeError → String
  | .malformed => "decode problem: error converting YAML to JSON: yaml: malformed document"
  | .duplicateKey =>
      "decode problem: error converting YAML to JSON: yaml: unmarshal errors: " ++
        "key already set in map"
  | .unknownField name =>
      "decode problem: error unmarshaling JSON: while decoding JSON: json: unknown field " ++
        Text.quote name
  | .wrongKind =>
      "decode problem: error unmarshaling JSON: while decoding JSON: json: cannot unmarshal value"

/-! ## Lists -/

/-- A list that is being read.  Behind its members stand those that an earlier
reading left over. -/
structure Slots (α : Type) where
  members : Option (List α)
  spare : List α

namespace Slots

/-- A list that was never given. -/
def absent {α : Type} : Slots α :=
  ⟨none, []⟩

/-- Read members, each onto what stood at its place before. -/
def readMembers {α : Type} (blank : α) (read : α → Datum → Except DecodeError α) :
    List α → List Datum → Except DecodeError (List α)
  | _, [] => .ok []
  | before, datum :: data => do
      let member ← read (before.headD blank) datum
      return member :: (← readMembers blank read before.tail data)

/-- Read a list.  An empty list and null leave nothing over. -/
def read {α : Type} (blank : α) (readMember : α → Datum → Except DecodeError α) (slots : Slots α) :
    Datum → Except DecodeError (Slots α)
  | .null => .ok absent
  | .list [] => .ok ⟨some [], []⟩
  | .list data => do
      let before := slots.members.getD [] ++ slots.spare
      let members ← readMembers blank readMember before data
      return ⟨some members, before.drop data.length⟩
  | _ => .error .wrongKind

end Slots

/-! ## Fields -/

/-- Read an integer; null changes nothing. -/
def readInteger (before : Int64) : Datum → Except DecodeError Int64
  | .null => .ok before
  | .number (some value) =>
      if Int64.minValue.toInt ≤ value ∧ value ≤ Int64.maxValue.toInt then .ok (.ofInt value)
      else .error .wrongKind
  | _ => .error .wrongKind

/-- Read a text; null changes nothing. -/
def readText (before : String) : Datum → Except DecodeError String
  | .null => .ok before
  | .text value => .ok value
  | _ => .error .wrongKind

/-- Read a list of integers. -/
def readIntegers : Slots Int64 → Datum → Except DecodeError (Slots Int64) :=
  Slots.read 0 readInteger

/-- How a field is read into a record. -/
abbrev Field (α : Type) :=
  α → Datum → Except DecodeError α

/-- Read entries into a record, one after the other. -/
def readEntries {α : Type} (fields : List (String × Field α)) :
    α → List (String × Datum) → Except DecodeError α
  | record, [] => .ok record
  | record, (key, datum) :: rest =>
      match lookupField fields key with
      | none => .error (.unknownField key)
      | some read => do readEntries fields (← read record datum) rest

/-- Read a record; null changes nothing. -/
def readRecord {α : Type} (fields : List (String × Field α)) (record : α) :
    Datum → Except DecodeError α
  | .null => .ok record
  | .object entries => readEntries fields record entries
  | _ => .error .wrongKind

/-- A constraint that is being read. -/
structure ConstraintForm where
  weights : Slots Int64
  operator : String
  threshold : Int64

/-- The fields of a constraint. -/
def constraintFields : List (String × Field ConstraintForm) :=
  [("weights", fun form datum => do
      return { form with weights := ← readIntegers form.weights datum }),
    ("operator", fun form datum => do
      return { form with operator := ← readText form.operator datum }),
    ("threshold", fun form datum => do
      return { form with threshold := ← readInteger form.threshold datum })]

/-- A constraint of which nothing was read. -/
def ConstraintForm.blank : ConstraintForm :=
  ⟨.absent, "", 0⟩

/-- A draft that is being read. -/
structure Form where
  name : String
  objective : Slots Int64
  constraints : Slots ConstraintForm
  starts : Slots (Slots Int64)

/-- A draft of which nothing was read. -/
def Form.blank : Form :=
  ⟨"", .absent, .absent, .absent⟩

/-- The fields of a draft. -/
def fields : List (String × Field Form) :=
  [("name", fun form datum => do return { form with name := ← readText form.name datum }),
    ("objective", fun form datum => do
      return { form with objective := ← readIntegers form.objective datum }),
    ("constraints", fun form datum => do
      let members ← form.constraints.read .blank (readRecord constraintFields) datum
      return { form with constraints := members }),
    ("starts", fun form datum => do
      return { form with starts := ← form.starts.read .absent readIntegers datum })]

/-- The shape of a draft. -/
def shape : Shape :=
  .record
    [("name", .text), ("objective", .list .other),
      ("constraints",
        .list (.record [("weights", .list .other), ("operator", .text), ("threshold", .other)])),
      ("starts", .list (.list .other))]

/-- The draft that was read. -/
def Form.toDraft (form : Form) : Draft where
  name := form.name
  objective := form.objective.members
  constraints := (form.constraints.members.getD []).map fun c =>
    ⟨c.weights.members, c.operator, c.threshold⟩
  starts := form.starts.members.map fun starts => starts.map (·.members)

/-- The deepest nesting of data. -/
def maxDepth : Nat :=
  10000

/-- Read a draft from a YAML text. -/
def decode (text : String) : Except DecodeError Draft :=
  match Yaml.Value.parse? text with
  | none => .error .malformed
  | some (value, duplicate) =>
      if duplicate then .error .duplicateKey
      else
        match Datum.ofValue? shape value with
        | none => .error .malformed
        | some datum =>
            if maxDepth < datum.depth then .error .wrongKind
            else Form.toDraft <$> readRecord fields .blank datum

end Ascent.Draft
