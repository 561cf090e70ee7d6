import Ascent.Numeral
import Ascent.Text.Blank

/-!
# Sizes of benchmark cases

A size is written `VxC`: the number of variables and the number of constraints.
White space around it and around its parts does not count.  Each size of a list
gets a seed of its own, from a base seed, its place in the list and itself.
-/

namespace Ascent.Benchmark

/-- A random problem to run on. -/
structure Case where
  width : Int
  constraints : Int
  seed : Int64
deriving DecidableEq, Repr

namespace Size

/-- Why a text is no size; the text is kept without the white space around it. -/
inductive Failure where
  /-- There is not exactly one `x`. -/
  | malformed (text : String)
  | badVariables (text part : String) (failure : Numeral.Failure)
  | badConstraints (text part : String) (failure : Numeral.Failure)
  /-- There are no variables, or fewer than no constraints. -/
  | outOfRange (text : String)
deriving DecidableEq, Repr

/-- The wording of a failure. -/
def Failure.message : Failure → String
  | .malformed text => "size " ++ Text.quote text ++ " is malformed, example: 30x3"
  | .badVariables text part failure =>
      "size " ++ Text.quote text ++ ": variables: " ++ failure.complaint "Atoi" part
  | .badConstraints text part failure =>
      "size " ++ Text.quote text ++ ": constraints: " ++ failure.complaint "Atoi" part
  | .outOfRange text =>
      "size " ++ Text.quote text ++ ": need variables > 0 and constraints >= 0"

/-- The parts of a list between the places of a character. -/
def splitAtChar (mark : Char) : List Char → List (List Char)
  | [] => [[]]
  | c :: rest =>
      if c = mark then [] :: splitAtChar mark rest
      else
        match splitAtChar mark rest with
        | part :: parts => (c :: part) :: parts
        | [] => [[c]]

/-- Read a size: its variables and its constraints. -/
def parse (text : String) : Except Failure (Int × Int) :=
  let core := Text.trimList text.toList
  let shown := String.ofList core
  match splitAtChar 'x' core with
  | [first, second] =>
      let first := String.ofList (Text.trimList first)
      let second := String.ofList (Text.trimList second)
      match Numeral.decimal first with
      | .error failure => .error (.badVariables shown first failure)
      | .ok width =>
          match Numeral.decimal second with
          | .error failure => .error (.badConstraints shown second failure)
          | .ok constraints =>
              if width ≤ 0 ∨ constraints < 0 then .error (.outOfRange shown)
              else .ok (width, constraints)
  | _ => .error (.malformed shown)

/-- The seed of a size at a place, modulo 2^64. -/
def seed (base : Int64) (index : Nat) (width constraints : Int) : Int64 :=
  base + Int64.ofNat index * 10000 + Int64.ofInt width * 100 + Int64.ofInt constraints

/-- The cases of sizes, the first of which has place `index`. -/
def casesFrom (base : Int64) : (index : Nat) → List String → Except Failure (List Case)
  | _, [] => .ok []
  | index, text :: rest => do
      let (width, constraints) ← parse text
      let cases ← casesFrom base (index + 1) rest
      return ⟨width, constraints, seed base index width constraints⟩ :: cases

/-- The cases of a list of sizes; the first text that is no size is refused. -/
def cases (base : Int64) (texts : List String) : Except Failure (List Case) :=
  casesFrom base 0 texts

end Size

end Ascent.Benchmark
