import Ascent.Problem

/-!
# Selection

The search moves to the feasible neighbor with the highest fitness, provided it
is better than the current solution.  Of equally good neighbors the first one
is taken.  A selector remembers whether it ever found no such neighbor; that is
when the search is complete.
-/

namespace Ascent

/-- The name of the selection rule, as reported by a run. -/
def selectionName : String :=
  "best-improvement"

namespace Problem

/-- Go through candidates, the first of which has index `index`.  `best` is the
best index so far and `score` the fitness that a candidate has to exceed. -/
def bestFrom (p : Problem) :
    (index : Nat) → (best : Option Nat) → (score : Int64) → List Solution →
      Except Fault (Option Nat)
  | _, best, _, [] => .ok best
  | index, best, score, candidate :: rest => do
      if ← p.feasible candidate then
        let fitness ← p.fitness candidate
        if score < fitness then p.bestFrom (index + 1) (some index) fitness rest
        else p.bestFrom (index + 1) best score rest
      else p.bestFrom (index + 1) best score rest

/-- The index of the best candidate that improves on the current solution. -/
def bestImprovement (p : Problem) (current : Solution) (candidates : List Solution) :
    Except Fault (Option Nat) := do
  p.bestFrom 0 none (← p.fitness current) candidates

end Problem

/-- The memory of a selection over one run. -/
structure Selector where
  /-- Whether some selection found no improvement. -/
  complete : Bool
deriving DecidableEq, Repr

namespace Selector

/-- The selector of a run that has not started. -/
def fresh : Selector :=
  ⟨false⟩

/-- Select a candidate and remember whether there was one. -/
def select (selector : Selector) (p : Problem) (current : Solution)
    (candidates : List Solution) : Except Fault (Option Nat × Selector) := do
  let choice ← p.bestImprovement current candidates
  return (choice, ⟨selector.complete || choice.isNone⟩)

/-- What a selector is asked: where the search stands, and where it could go. -/
structure Question where
  current : Solution
  candidates : List Solution
deriving DecidableEq, Repr

/-- Answer a question.  A selection that fails leaves the memory as it is. -/
def answer (selector : Selector) (p : Problem) (question : Question) :
    Except Fault (Option Nat) × Selector :=
  match selector.select p question.current question.candidates with
  | .ok (choice, next) => (.ok choice, next)
  | .error fault => (.error fault, selector)

/-- Answer questions one after another. -/
def answerAll (selector : Selector) (p : Problem) :
    List Question → List (Except Fault (Option Nat)) × Selector
  | [] => ([], selector)
  | question :: questions =>
      let (given, next) := selector.answer p question
      let (others, last) := next.answerAll p questions
      (given :: others, last)

end Selector

end Ascent
