import Ascent.Solution.Parse

/-!
# Solutions in memory

In memory a solution is its length and a reference to a set of true variables.  The
sets come from a library.  They have a length of their own, which grows when a variable
beyond it is put in, and they are changed in place; so there are two lengths that could
differ, and two references to one set would be one solution under two names.

A `Store` holds any number of solutions, which are known by their numbers.  A `Request`
makes a new solution, changes or reads one.  `Request.apply` is what it does to
solutions that are plain values.  The neighbors of a stored solution are copies of it that
are changed in place, and a weighted sum goes from one element of the set to the next.
-/

namespace Ascent.Storage

/-- The operations of a library of growing bit sets. -/
structure BitSets (β : Type) where
  /-- An empty set of a length. -/
  create : Nat → β
  put : β → Nat → β
  /-- Put an element in or take it out. -/
  assign : β → Nat → Bool → β
  /-- Put an element in if it is not there, and take it out otherwise. -/
  invert : β → Nat → β
  clone : β → β
  contains : β → Nat → Bool
  count : β → Nat
  equal : β → β → Bool

variable {β : Type}

/-- Put in the indices of the true values, the first of which has index `index`. -/
def BitSets.putFrom (library : BitSets β) : (index : Nat) → List Bool → β → β
  | _, [], set => set
  | index, value :: rest, set =>
      library.putFrom (index + 1) rest (if value then library.put set index else set)

/-- Finds the first element of a set at or behind an index. -/
abbrev Seek (β : Type) := β → (i : Nat) → Option { j : Nat // i ≤ j }

/-- A solution as it is found in memory. -/
structure Stored (β : Type) where
  length : Nat
  set : β
deriving DecidableEq, Repr

namespace Stored

/-! ## Making solutions -/

/-- A solution with every variable false. -/
def make (library : BitSets β) (n : Int) : Except Fault (Stored β) :=
  if n < 0 then .error (.aborted (.negativeLength n)) else .ok ⟨n.toNat, library.create n.toNat⟩

/-- A solution with the given values. -/
def ofBools (library : BitSets β) (values : List Bool) : Stored β :=
  ⟨values.length, library.putFrom 0 values (library.create values.length)⟩

/-- A variable is true when its number is not zero. -/
def ofInts (library : BitSets β) (values : List Int64) : Stored β :=
  ofBools library (values.map fun value => value != 0)

/-- Read a solution. -/
def parse (library : BitSets β) (text : String) : Except Error (Stored β) := do
  let s ← Solution.parse text
  return ofBools library s.bits

/-- A solution with a set of its own. -/
def copy (library : BitSets β) (stored : Stored β) : Stored β :=
  ⟨stored.length, library.clone stored.set⟩

/-! ## Changing and reading solutions -/

/-- The index as a position of the solution, or the error that names it. -/
def position (stored : Stored β) (index : Int) : Except Error Nat :=
  if 0 ≤ index ∧ index < stored.length then .ok index.toNat
  else .error (.of (.indexOutOfRange index stored.length))

/-- The set after one variable was given a value. -/
def assign (library : BitSets β) (stored : Stored β) (index : Int) (value : Bool) :
    Except Error β := do
  let i ← stored.position index
  return library.assign stored.set i value

/-- The set after one variable was inverted. -/
def invert (library : BitSets β) (stored : Stored β) (index : Int) : Except Error β := do
  let i ← stored.position index
  return library.invert stored.set i

/-- The value of one variable. -/
def get (library : BitSets β) (stored : Stored β) (index : Int) : Except Error Bool := do
  let i ← stored.position index
  return library.contains stored.set i

/-- All values, variable 0 first. -/
def bools (library : BitSets β) (stored : Stored β) : List Bool :=
  (List.range stored.length).map (library.contains stored.set)

/-- The number of true variables, by the number of elements of the set. -/
def ones (library : BitSets β) (stored : Stored β) : Nat :=
  library.count stored.set

/-- Whether two solutions are equal, by their lengths and their sets. -/
def equal (library : BitSets β) (stored other : Stored β) : Bool :=
  stored.length == other.length && library.equal stored.set other.set

/-- The digits of all variables between brackets. -/
def text (library : BitSets β) (stored : Stored β) : String :=
  String.ofList ('[' :: (List.range stored.length).map (fun i =>
    if library.contains stored.set i then '1' else '0') ++ [']'])

/-! ## Weighted sums -/

/-- Add the weights of the elements from index `i` on to a sum, modulo 2^64.  Only the
elements are visited, and an element beyond the length ends the sum. -/
def sumFrom (seek : Seek β) (weights : List Int64) (stored : Stored β) (i : Nat)
    (sum : Int64) : Except Fault Int64 :=
  match seek stored.set i with
  | none => .ok sum
  | some ⟨j, _⟩ =>
      if j < stored.length then do
        let weight ← present weights[j]?
        sumFrom seek weights stored (j + 1) (sum + weight)
      else .ok sum
termination_by stored.length - i

/-- The weighted sum, behind the check of the width that `place` makes. -/
def weigh (seek : Seek β) (place : Place) (weights : List Int64) (stored : Stored β) :
    Except Fault Int64 :=
  if stored.length = weights.length then stored.sumFrom seek weights 0 0
  else .error (.rejected ((Error.of (.solutionWidth stored.length weights.length)).within place))

end Stored

/-! ## Requests -/

/-- What can be asked.  A solution is known by its number. -/
inductive Request where
  | new (length : Int)
  | fromBools (values : List Bool)
  | fromInts (values : List Int64)
  | parse (text : String)
  | copy (number : Nat)
  | set (number : Nat) (index : Int) (value : Bool)
  | flip (number : Nat) (index : Int)
  | get (number : Nat) (index : Int)
deriving DecidableEq, Repr

/-- What is answered. -/
inductive Answer where
  /-- The number of the solution that was made. -/
  | made (number : Nat)
  | changed
  | value (value : Bool)
deriving DecidableEq, Repr

/-- What the holder of a solution has: its length, and where its set is. -/
structure Handle where
  length : Nat
  cell : Nat
deriving DecidableEq, Repr

/-- The sets in memory, and the solutions that refer to them. -/
structure Store (β : Type) where
  cells : List β
  handles : List Handle
deriving DecidableEq, Repr

namespace Store

/-- A store without solutions. -/
def empty : Store β :=
  ⟨[], []⟩

/-- The solution with a number. -/
def stored? (store : Store β) (number : Nat) : Option (Stored β) := do
  let handle ← store.handles[number]?
  let set ← store.cells[handle.cell]?
  return ⟨handle.length, set⟩

/-- Keep a solution that was made, with its set in a cell of its own. -/
def keep (store : Store β) : Except Fault (Stored β) → Except Fault Answer × Store β
  | .error fault => (.error fault, store)
  | .ok stored =>
      (.ok (.made store.handles.length),
        ⟨store.cells ++ [stored.set],
          store.handles ++ [⟨stored.length, store.cells.length⟩]⟩)

/-- Change the set of the solution with a number, in its cell. -/
def change (store : Store β) (number : Nat) (next : Stored β → Except Error β) :
    Except Fault Answer × Store β :=
  match store.handles[number]?, store.stored? number with
  | some handle, some stored =>
      match next stored with
      | .error error => (.error (.rejected error), store)
      | .ok set => (.ok .changed, { store with cells := store.cells.set handle.cell set })
  | _, _ => (.error .undefined, store)

/-- Do what is asked. -/
def perform (library : BitSets β) (store : Store β) : Request → Except Fault Answer × Store β
  | .new n => store.keep (Stored.make library n)
  | .fromBools values => store.keep (.ok (.ofBools library values))
  | .fromInts values => store.keep (.ok (.ofInts library values))
  | .parse text => store.keep (report (Stored.parse library text))
  | .copy number => store.keep (present ((store.stored? number).map (.copy library)))
  | .set number index value => store.change number fun stored => stored.assign library index value
  | .flip number index => store.change number fun stored => stored.invert library index
  | .get number index =>
      (do
        let stored ← present (store.stored? number)
        return .value (← report (stored.get library index)),
        store)

/-- Do all that is asked, one after another. -/
def performAll (library : BitSets β) (store : Store β) :
    List Request → List (Except Fault Answer) × Store β
  | [] => ([], store)
  | request :: requests =>
      let (answer, next) := store.perform library request
      let (answers, last) := next.performAll library requests
      (answer :: answers, last)

/-! ## Neighbors in memory -/

/-- Copy the solution with a number and invert one variable of the copy, whose number is
given back.  An index out of range is not expected. -/
def branch (library : BitSets β) (store : Store β) (number k : Nat) :
    Except Fault (Nat × Store β) := do
  let (made, copied) := store.perform library (.copy number)
  let (changed, inverted) := copied.perform library (.flip store.handles.length k)
  let _ ← made
  let _ ← insist changed
  return (store.handles.length, inverted)

/-- A branch for each of the given variables. -/
def branchAll (library : BitSets β) (number : Nat) :
    List Nat → Store β → Except Fault (List Nat × Store β)
  | [], store => .ok ([], store)
  | k :: rest, store => do
      let (branched, next) ← store.branch library number k
      let (others, last) ← branchAll library number rest next
      return (branched :: others, last)

/-- Make the neighbors of the solution with a number.  Their numbers are given back,
ordered by the variable that is inverted. -/
def generate (library : BitSets β) (store : Store β) (number : Nat) :
    Except Fault (List Nat × Store β) := do
  let stored ← present (store.stored? number)
  store.branchAll library number (List.range stored.length)

end Store

/-! ## Requests to plain values -/

namespace Request

/-- Put a solution that was made behind the others. -/
def keep (solutions : List Solution) :
    Except Fault Solution → Except Fault Answer × List Solution
  | .error fault => (.error fault, solutions)
  | .ok s => (.ok (.made solutions.length), solutions ++ [s])

/-- Put another solution in the place of the one with a number. -/
def change (solutions : List Solution) (number : Nat)
    (next : Solution → Except Error Solution) : Except Fault Answer × List Solution :=
  match solutions[number]? with
  | none => (.error .undefined, solutions)
  | some s =>
      match next s with
      | .error error => (.error (.rejected error), solutions)
      | .ok s' => (.ok .changed, solutions.set number s')

/-- What a request does to solutions that share nothing. -/
def apply (solutions : List Solution) : Request → Except Fault Answer × List Solution
  | .new n => keep solutions (Solution.make n)
  | .fromBools values => keep solutions (.ok (.ofBools values))
  | .fromInts values => keep solutions (.ok (.ofInts values))
  | .parse text => keep solutions (report (Solution.parse text))
  | .copy number => keep solutions (present solutions[number]?)
  | .set number index value => change solutions number fun s => s.set index value
  | .flip number index => change solutions number fun s => s.flip index
  | .get number index =>
      (do
        let s ← present solutions[number]?
        return .value (← report (s.get index)),
        solutions)

/-- What requests do to solutions that share nothing, one after another. -/
def applyAll (solutions : List Solution) :
    List Request → List (Except Fault Answer) × List Solution
  | [] => ([], solutions)
  | request :: requests =>
      let (answer, next) := request.apply solutions
      let (answers, last) := applyAll next requests
      (answer :: answers, last)

end Request

end Ascent.Storage
