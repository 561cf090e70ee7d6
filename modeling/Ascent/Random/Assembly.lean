import Ascent.Random

/-!
# Putting a random problem together

`Problem.random` gives a random problem in one piece.  This file puts it together part by
part, with every point at which that could break down: slots for the weights are filled at
their indices while a total is kept; the objective, every constraint and the problem itself
are made and checked, and an error in any of them is not expected.  Every list that is made,
copied or grows needs room.
-/

namespace Ascent

open Ascent.Random (Generator)

variable {σ : Type}

/-- Slots that hold zeros. -/
def slots (count : Int) : Except Fault (List Int64) := do
  reserve wordSize count
  return List.replicate count.toNat 0

/-- The same numbers in a list of their own. -/
def copied (numbers : List Int64) : Except Fault (List Int64) := do
  reserve wordSize numbers.length
  return numbers

/-- Put a number into the slot at an index, which must exist. -/
def store (slots : List Int64) (index : Nat) (number : Int64) : Except Fault (List Int64) :=
  if index < slots.length then .ok (slots.set index number) else .error .undefined

/-- Put a drawn weight into each of the remaining slots, the first of which is at `index`,
and add what is in it to the total. -/
def fillFrom (generator : Generator σ) (limit : Nat) :
    (remaining index : Nat) → List Int64 → (total : Int64) → σ →
      Except Fault (List Int64 × Int64 × σ)
  | 0, _, slots, total, state => .ok (slots, total, state)
  | remaining + 1, index, slots, total, state => do
      let (draw, state) := generator.below limit state
      let slots ← store slots index (1 + Int64.ofNat draw)
      let weight ← present slots[index]?
      fillFrom generator limit remaining (index + 1) slots (total + weight) state

/-- Weights from one to a limit, together with their total. -/
def drawWeights (generator : Generator σ) (limit : Nat) (width : Int) (state : σ) :
    Except Fault (List Int64 × Int64 × σ) := do
  let slots ← slots width
  fillFrom generator limit slots.length 0 slots 0 state

/-- Add a number of drawn constraints to a set.  The set needs room for references to its
members, at least for as many as there are; how much more it takes when it grows is left open. -/
def assembleDrawn (generator : Generator σ) (width : Int) :
    (count : Nat) → ConstraintSet → σ → Except Fault (ConstraintSet × σ)
  | 0, cs, state => .ok (cs, state)
  | count + 1, cs, state => do
      let (weights, total, state) ← drawWeights generator 10 width state
      let weights ← copied weights
      let made := Constraint.ofSymbol weights Operator.lessOrEqual.symbol (total / 3)
      let c ← insist (report made)
      reserve wordSize (cs.members.length + 1)
      let cs ← cs.add (some c)
      assembleDrawn generator width count cs state

/-- A random problem, part by part. -/
def Problem.assembleRandom (generator : Generator σ) (width constraints : Int) :
    Option σ → Except Fault (Problem × σ)
  | none => .error (.aborted .noGenerator)
  | some state =>
      if width ≤ 0 ∨ constraints < 0 then
        .error (.aborted (.badShape width constraints))
      else do
        let (profits, _, state) ← drawWeights generator 20 width state
        let profits ← copied profits
        let objective ← insist (report (Objective.make profits))
        let (cs, state) ← assembleDrawn generator width constraints.toNat .empty state
        -- The problem is checked on a copy of the list of its constraints.
        reserve wordSize cs.members.length
        let p ← insist (report (Problem.make (some objective) (some cs)))
        return ({ p with name := s!"random-{width}x{constraints}" }, state)

end Ascent
