import Ascent.Proofs.Evaluation
import Ascent.Proofs.Solution.Representation
import Mathlib.Order.Bounds.Basic

/-!
# Weights by index

A weighted sum looks up the weight of every true variable by its index.  It may come to
the variables in turn, or jump from one element of a stored set to the next.  Both ways
make the same lookups in the same order, so they have the same sum, or fail at the same
variable.  No lookup fails behind the check of the width.
-/

namespace Ascent

/-! ## Coming to the variables in turn -/

/-- The weighted sum of truth values, the first of which has index `index`, on top
of a sum so far.  The weight of every true variable is looked up. -/
def lookupSum (weights : List Int64) :
    (index : Nat) → (sum : Int64) → List Bool → Except Fault Int64
  | _, sum, [] => .ok sum
  | index, sum, false :: values => lookupSum weights (index + 1) sum values
  | index, sum, true :: values => do
      let weight ← present weights[index]?
      lookupSum weights (index + 1) (sum + weight) values

/-- The weighted sum by index, behind the check of the width that `place` makes. -/
def indexedSum (place : Place) (weights : List Int64) (s : Solution) : Except Fault Int64 :=
  if s.length = weights.length then lookupSum weights 0 0 s.bits
  else .error (.rejected ((Error.of (.solutionWidth s.length weights.length)).within place))

/-- No lookup misses while there are as many weights as truth values. -/
theorem lookupSum_eq {weights : List Int64} {index : Nat} {values : List Bool}
    (enough : index + values.length ≤ weights.length) (sum : Int64) :
    lookupSum weights index sum values = .ok (sum + weightedSum (weights.drop index) values) := by
  induction values generalizing index sum with
  | nil => simp [lookupSum, weightedSum]
  | cons value rest ih =>
      rw [List.length_cons] at enough
      have inside : index < weights.length := by omega
      have restEnough : index + 1 + rest.length ≤ weights.length := by omega
      rw [List.drop_eq_getElem_cons inside]
      cases value with
      | false => simp [lookupSum, ih restEnough, weightedSum]
      | true =>
          simp [lookupSum, ih restEnough, weightedSum, List.getElem?_eq_getElem inside,
            Int64.add_assoc]

theorem lookupSum_zero {weights : List Int64} {s : Solution} (width : s.length = weights.length) :
    lookupSum weights 0 0 s.bits = .ok (weightedSum weights s.bits) := by
  have enough : 0 + s.bits.length ≤ weights.length := by
    rw [Nat.zero_add]
    exact Nat.le_of_eq width
  rw [lookupSum_eq enough, List.drop_zero, Int64.zero_add]

/-- An objective finds all weights that it looks up. -/
theorem indexedSum_objective (o : Objective) (s : Solution) :
    indexedSum .objective o.weights s = report (o.evaluate s) := by
  by_cases width : s.length = o.weights.length
  · simp [indexedSum, Objective.evaluate, Objective.length, width, lookupSum_zero]
  · simp [indexedSum, Objective.evaluate, Objective.length, width, report]

/-- A constraint finds all weights that it looks up. -/
theorem indexedSum_constraint (c : Constraint) (s : Solution) :
    indexedSum .constraint c.weights s = report (c.value s) := by
  by_cases width : s.length = c.weights.length
  · simp [indexedSum, Constraint.value, Constraint.length, width, lookupSum_zero]
  · simp [indexedSum, Constraint.value, Constraint.length, width, report]

/-! ## Jumping from element to element -/

/-- Variables that are not true are passed without a lookup. -/
theorem lookupSum_drop {weights : List Int64} {values : List Bool} {i j : Nat} (sum : Int64)
    (le : i ≤ j) (passed : ∀ k, i ≤ k → k < j → values[k]? ≠ some true) :
    lookupSum weights i sum (values.drop i) = lookupSum weights j sum (values.drop j) := by
  induction j, le using Nat.le_induction with
  | base => rfl
  | succ j le ih =>
      rw [ih fun k reached below => passed k reached (Nat.lt_succ_of_lt below)]
      have notTrue := passed j le (Nat.lt_succ_self j)
      by_cases inside : j < values.length
      · have isFalse : values[j] = false := by
          simpa [List.getElem?_eq_getElem inside] using notTrue
        rw [List.drop_eq_getElem_cons inside, isFalse, lookupSum]
      · have beyond : values.length ≤ j := Nat.le_of_not_lt inside
        rw [List.drop_eq_nil_of_le beyond, List.drop_eq_nil_of_le (Nat.le_succ_of_le beyond)]
        rfl

namespace Storage

variable {β : Type}

/-- What is found is the least element at or behind the index. -/
structure Seek.Lawful (seek : Seek β) (members : β → Finset Nat) : Prop where
  found : ∀ {set i j}, seek set i = some j → IsLeast {k | k ∈ members set ∧ i ≤ k} j
  missed : ∀ {set i}, seek set i = none → ∀ k ∈ members set, k < i

variable {seek : Seek β} {length : β → Nat} {members : β → Finset Nat}

/-- Jumping between the elements of a set makes the lookups for the values it holds. -/
theorem Stored.Holds.sumFrom_eq {stored : Stored β} {s : Solution}
    (holds : stored.Holds length members s) (lawful : seek.Lawful members)
    (weights : List Int64) (i : Nat) (sum : Int64) :
    stored.sumFrom seek weights i sum = lookupSum weights i sum (s.bits.drop i) := by
  fun_induction Stored.sumFrom seek weights stored i sum with
  | case1 i sum missed =>
      -- The maximum is needed because `i` may already be behind the last variable.
      have passed : ∀ k, i ≤ k → k < max i s.bits.length → s.bits[k]? ≠ some true := by
        intro k reached _ isTrue
        have below := lawful.missed missed k ((holds.mem_iff k).mpr isTrue)
        omega
      rw [lookupSum_drop sum (Nat.le_max_left i s.bits.length) passed,
        List.drop_eq_nil_of_le (Nat.le_max_right i s.bits.length), lookupSum]
  | case2 i sum j later found inside ih =>
      have least := lawful.found found
      have isTrue : s.bits[j]? = some true := (holds.mem_iff j).mp least.1.1
      have passed : ∀ k, i ≤ k → k < j → s.bits[k]? ≠ some true := by
        intro k reached below other
        have above : j ≤ k := least.2 ⟨(holds.mem_iff k).mpr other, reached⟩
        omega
      obtain ⟨within, value⟩ := List.getElem?_eq_some_iff.mp isTrue
      rw [lookupSum_drop sum later passed, List.drop_eq_getElem_cons within, value, lookupSum]
      exact bind_congr ih
  | case3 i sum j later found outside =>
      -- An element at the length or beyond would be the index of no variable.
      have member := (lawful.found found).1.1
      have within := (List.getElem?_eq_some_iff.mp ((holds.mem_iff j).mp member)).1
      rw [holds.width] at outside
      exact absurd within outside

/-- A stored solution has the weighted sum of the values that it holds. -/
theorem Stored.Holds.weigh_eq {stored : Stored β} {s : Solution}
    (holds : stored.Holds length members s) (lawful : seek.Lawful members) (place : Place)
    (weights : List Int64) :
    stored.weigh seek place weights = indexedSum place weights s := by
  rw [Stored.weigh, indexedSum, holds.width, holds.sumFrom_eq lawful, List.drop_zero]

end Storage

end Ascent
