import Ascent.Error

/-!
# Solutions

A solution assigns a truth value to each of a fixed number of variables.  It is
the list of these values, variable 0 first, so equal solutions have equal
lengths and equal values.  Reading and changing a variable checks its index;
`flipped` is the total form for indices known to be in range.
-/

namespace Ascent

/-- One truth value per variable, variable 0 first. -/
@[ext]
structure Solution where
  bits : List Bool
deriving DecidableEq, Repr

namespace Solution

/-- The number of variables. -/
def length (s : Solution) : Nat :=
  s.bits.length

/-- The solution of a given length with every variable false. -/
def zeros (n : Nat) : Solution :=
  ⟨List.replicate n false⟩

/-- `zeros` for a length that may be negative, which is refused. -/
def make (n : Int) : Except Fault Solution :=
  if n < 0 then .error (.aborted (.negativeLength n)) else .ok (zeros n.toNat)

/-- The solution with the given values. -/
def ofBools (values : List Bool) : Solution :=
  ⟨values⟩

/-- A variable is true when its number is not zero. -/
def ofInts (values : List Int64) : Solution :=
  ⟨values.map fun value => value != 0⟩

/-- The index as a position of the solution, or the error that names it. -/
def position (s : Solution) (index : Int) : Except Error Nat :=
  if 0 ≤ index ∧ index < s.length then .ok index.toNat
  else .error (.of (.indexOutOfRange index s.length))

/-- The value of one variable. -/
def get (s : Solution) (index : Int) : Except Error Bool := do
  let i ← s.position index
  return s.bits.getD i false

/-- The solution with one variable given a value. -/
def set (s : Solution) (index : Int) (value : Bool) : Except Error Solution := do
  let i ← s.position index
  return ⟨s.bits.set i value⟩

/-- The solution with the variable at a position inverted; a position beyond the
end changes nothing. -/
def flipped (s : Solution) (i : Nat) : Solution :=
  ⟨s.bits.modify i not⟩

/-- The solution with one variable inverted. -/
def flip (s : Solution) (index : Int) : Except Error Solution := do
  let i ← s.position index
  return s.flipped i

/-- The number of true variables. -/
def ones (s : Solution) : Nat :=
  s.bits.count true

/-- The digit of a truth value. -/
def digit (value : Bool) : Char :=
  if value then '1' else '0'

/-- The digits of all variables between brackets. -/
def text (s : Solution) : String :=
  String.ofList ('[' :: s.bits.map digit ++ [']'])

@[simp]
theorem length_flipped (s : Solution) (i : Nat) : (s.flipped i).length = s.length := by
  simp [length, flipped]

@[simp]
theorem length_zeros (n : Nat) : (zeros n).length = n := by
  simp [length, zeros]

@[simp]
theorem length_ofBools (values : List Bool) : (ofBools values).length = values.length :=
  rfl

@[simp]
theorem length_ofInts (values : List Int64) : (ofInts values).length = values.length := by
  simp [length, ofInts]

end Solution

/-- The text of a solution that may be missing. -/
def Solution.shown : Option Solution → String
  | some s => s.text
  | none => "<nil>"

/-- The sum, modulo 2^64, of the weights whose variable is true. -/
def weightedSum : List Int64 → List Bool → Int64
  | weight :: weights, value :: values =>
      (if value then weight else 0) + weightedSum weights values
  | _, _ => 0

end Ascent
