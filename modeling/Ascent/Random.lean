import Ascent.Addressing
import Ascent.Problem
import Ascent.Random.Source

/-!
# Random problems and starts

A random problem has profits from 1 to 20 and constraints with weights from 1
to 10, each of which admits a third of its total weight.  A random solution sets
every variable with the same probability.  Both ask a generator for their draws
in a fixed order: the profits first, then the constraints one by one.
-/

namespace Ascent

open Ascent.Random (Generator)

variable {σ : Type}

/-- Weights from one to a limit. -/
def randomWeights (generator : Generator σ) (limit : Nat) : (count : Nat) → σ → List Int64 × σ
  | 0, state => ([], state)
  | count + 1, state =>
      let (draw, state) := generator.below limit state
      let (weights, state) := randomWeights generator limit count state
      ((1 + Int64.ofNat draw) :: weights, state)

/-- The constraint that admits a third of the total weight. -/
def Constraint.third (weights : List Int64) : Constraint :=
  ⟨weights, some .lessOrEqual, weights.sum / 3⟩

/-- Random constraints over a number of variables. -/
def randomConstraints (generator : Generator σ) (width : Nat) :
    (count : Nat) → σ → List Constraint × σ
  | 0, state => ([], state)
  | count + 1, state =>
      let (weights, state) := randomWeights generator 10 width state
      let (constraints, state) := randomConstraints generator width count state
      (.third weights :: constraints, state)

/-- A random problem.  It needs a generator, at least one variable and no negative
number of constraints; the generator is missed first.  There is room for the
weights of one list and for references to all constraints. -/
def Problem.random (generator : Generator σ) (width constraints : Int) (state? : Option σ) :
    Except Fault (Problem × σ) :=
  match state? with
  | none => .error (.aborted .noGenerator)
  | some state =>
      if width ≤ 0 ∨ constraints < 0 then
        .error (.aborted (.badShape width constraints))
      else do
        reserve wordSize width
        reserve wordSize constraints
        let (profits, state) := randomWeights generator 20 width.toNat state
        let (members, state) :=
          randomConstraints generator width.toNat constraints.toNat state
        return (⟨s!"random-{width}x{constraints}", some ⟨profits⟩, some ⟨members⟩⟩, state)

/-- Truth values, each true with the given probability. -/
def randomBits (generator : Generator σ) (density : Float) : (count : Nat) → σ → List Bool × σ
  | 0, state => ([], state)
  | count + 1, state =>
      let (draw, state) := generator.unit state
      let (bits, state) := randomBits generator density count state
      (decide (draw < density) :: bits, state)

/-- A random solution; it needs a generator and a length that is not negative. -/
def Solution.random (generator : Generator σ) (length : Int) (density : Float)
    (state? : Option σ) : Except Fault (Solution × σ) :=
  match state? with
  | none => .error (.aborted .noGenerator)
  | some state =>
      if length < 0 then .error (.aborted (.negativeLength length))
      else
        let (bits, state) := randomBits generator density length.toNat state
        .ok (⟨bits⟩, state)

/-- A number of random solutions. -/
def Solution.randoms (generator : Generator σ) (length : Nat) (density : Float) :
    (count : Nat) → σ → List Solution × σ
  | 0, state => ([], state)
  | count + 1, state =>
      let (bits, state) := randomBits generator density length state
      let (solutions, state) := Solution.randoms generator length density count state
      (⟨bits⟩ :: solutions, state)

end Ascent
