import Ascent.Yaml.Node
import Ascent.Yaml.Scalar

/-!
# From a document to its value

Aliases are replaced by what they stand for, merge keys bring in the entries of
other mappings, and scalars are resolved.  A key that comes twice in one
mapping, merged entries included, is noticed but does not end the work: any
failure weighs more.

A document whose aliases stand for much more than it holds itself is refused.
-/

namespace Ascent.Yaml

/-- The value of a node.  The keys of a mapping differ. -/
inductive Value where
  | scalar (value : Scalar)
  | sequence (members : List Value)
  | mapping (entries : List (Scalar × Value))

namespace Value

/-- What is counted on the way through a document. -/
structure Tally where
  /-- The nodes visited. -/
  visited : Nat
  /-- Those of them that were visited through an alias. -/
  aliased : Nat
  /-- Whether a key came twice. -/
  duplicate : Bool

namespace Tally

/-- Nothing has been visited but the document itself. -/
def start : Tally :=
  ⟨1, 0, false⟩

/-- Whether too many visits came through aliases.  Up to 400000 visits 99 of 100
may, and from 4000000 visits on 10 of 100; between them the share falls evenly. -/
def isExcessive (tally : Tally) : Bool :=
  let share : Nat :=
    if tally.visited ≤ 400000 then 99 * 3600000
    else if 4000000 ≤ tally.visited then 10 * 3600000
    else 99 * 3600000 - 89 * (tally.visited - 400000)
  100 < tally.aliased && 1000 < tally.visited &&
    tally.visited * share < tally.aliased * (100 * 3600000)

end Tally

/-- A computation that visits nodes and may be refused. -/
abbrev Visit (α : Type) :=
  StateT Tally Option α

/-- Count a visit. -/
def visit (aliased : Bool) : Visit Unit := do
  let tally := { (← get) with
    visited := (← get).visited + 1
    aliased := (← get).aliased + (if aliased then 1 else 0) }
  if tally.isExcessive then failure else set tally

/-- Add an entry to a mapping, unless its key is there already. -/
def insert (entries : List (Scalar × Value)) (key : Scalar) (value : Value) :
    Visit (List (Scalar × Value)) := do
  if entries.any fun entry => entry.1.sameKey key then
    modify fun tally => { tally with duplicate := true }
    return entries
  else return entries ++ [(key, value)]

/-- Whether a node in the place of a key asks for a merge. -/
def isMerge : Node → Bool
  | .scalar tag implicit text =>
      text == "<<" && (implicit || tag == Scalar.standardTag "merge")
  | _ => false

mutual

/-- The value of a node; `aliased` tells whether it was reached through an alias. -/
def ofNode (aliased : Bool) : Node → Visit Value
  | .scalar tag implicit text => do
      visit aliased
      match Scalar.resolve? tag implicit text with
      | some resolved => return .scalar resolved
      | none => failure
  | .sequence members => do
      visit aliased
      return .sequence (← ofMembers aliased members)
  | .mapping entries => do
      visit aliased
      return .mapping (← ofEntries aliased [] entries)
  | .alias target => do
      visit aliased
      ofNode true target

/-- The values of the members of a sequence. -/
def ofMembers (aliased : Bool) : List Node → Visit (List Value)
  | [] => return []
  | member :: rest => do
      let value ← ofNode aliased member
      return value :: (← ofMembers aliased rest)

/-- Add the entries of a mapping to those that are there. -/
def ofEntries (aliased : Bool) (sofar : List (Scalar × Value)) :
    List (Node × Node) → Visit (List (Scalar × Value))
  | [] => return sofar
  | (key, value) :: rest => do
      if isMerge key then
        ofEntries aliased (← merge aliased sofar value) rest
      else
        match ← ofNode aliased key with
        | .scalar name =>
            let value ← ofNode aliased value
            ofEntries aliased (← insert sofar name value) rest
        | _ => failure

/-- Add the entries of a mapping, of an alias of one, or of a sequence of such
nodes, the last of them first. -/
def merge (aliased : Bool) (sofar : List (Scalar × Value)) :
    Node → Visit (List (Scalar × Value))
  | .mapping entries => do
      visit aliased
      ofEntries aliased sofar entries
  | .alias (.mapping entries) => do
      visit aliased
      visit true
      ofEntries true sofar entries
  | .sequence members => mergeMembers aliased sofar members
  | _ => failure

/-- Add the entries of mappings, the last of them first. -/
def mergeMembers (aliased : Bool) (sofar : List (Scalar × Value)) :
    List Node → Visit (List (Scalar × Value))
  | [] => return sofar
  | .mapping entries :: rest => do
      let sofar ← mergeMembers aliased sofar rest
      visit aliased
      ofEntries aliased sofar entries
  | .alias (.mapping entries) :: rest => do
      let sofar ← mergeMembers aliased sofar rest
      visit aliased
      visit true
      ofEntries true sofar entries
  | _ => failure

end

/-- The value of the first document of a text, and whether a key came twice;
`none` if the text is refused. -/
def parse? (text : String) : Option (Value × Bool) := do
  let node ← Node.parse? text
  let (value, tally) ← (ofNode false node).run .start
  return (value, tally.duplicate)

end Value

end Ascent.Yaml
