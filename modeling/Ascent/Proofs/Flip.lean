import Ascent.Neighborhood

/-!
# Inverting one variable

The search changes a solution one variable at a time.  This file says what such
an inversion does to the solution and to a weighted sum over it.  The sum moves
by the weight of the variable, up or down according to its old value, and all
of this is modulo 2^64: a sum may become smaller although the weight is
positive.

The last section contains the fact behind the length of a climb.  If adding an
amount does not make a sum larger, it does not make a larger sum larger either.
This holds with wrap around as well.
-/

namespace Ascent

namespace Solution

/-! ## The inverted solution -/

/-- Inverting twice gives the solution back. -/
@[simp]
theorem flipped_flipped (s : Solution) (i : Nat) : (s.flipped i).flipped i = s := by
  have notNot : not ∘ not = id := by
    funext value
    simp
  rw [flipped, flipped, List.modify_modify_eq, notNot, List.modify_id]

/-! ## The neighbors by position -/

theorem getElem?_neighbors {s : Solution} {k : Nat} (inside : k < s.length) :
    s.neighbors[k]? = some (s.flipped k) := by
  simp [neighbors, inside]

/-- Exact positions of the neighbors. -/
theorem getElem?_neighbors_eq_some_iff {s t : Solution} {k : Nat} :
    s.neighbors[k]? = some t ↔ k < s.length ∧ s.flipped k = t := by
  by_cases inside : k < s.length
  · rw [getElem?_neighbors inside]
    simp [inside]
  · simp [neighbors, inside]

theorem length_of_mem_neighbors {s t : Solution} (member : t ∈ s.neighbors) :
    t.length = s.length := by
  simp only [neighbors, List.mem_map] at member
  rcases member with ⟨k, _, rfl⟩
  exact length_flipped s k

end Solution

/-! ## Solutions at distance one -/

/-- The number of places at which two lists of truth values differ. -/
def differences : List Bool → List Bool → Nat
  | value :: values, other :: others =>
      (if value = other then 0 else 1) + differences values others
  | _, _ => 0

theorem differences_eq_zero_iff {values others : List Bool}
    (sameLength : values.length = others.length) :
    differences values others = 0 ↔ values = others := by
  induction values generalizing others with
  | nil =>
      have empty : others = [] := List.eq_nil_of_length_eq_zero sameLength.symm
      simp [differences, empty]
  | cons value values ih =>
      cases others with
      | nil => simp at sameLength
      | cons other others =>
          have tailLength : values.length = others.length := by simpa using sameLength
          simp [differences, ih tailLength]

theorem exists_modify_cons_self_iff {value : Bool} {values others : List Bool} :
    (∃ k, k < (value :: values).length ∧ (value :: values).modify k not = value :: others) ↔
      ∃ k, k < values.length ∧ values.modify k not = others := by
  constructor
  · rintro ⟨k, inside, inverted⟩
    cases k with
    | zero => simp at inverted
    | succ k => exact ⟨k, by simpa using inside, by simpa using inverted⟩
  · rintro ⟨k, inside, inverted⟩
    exact ⟨k + 1, by simpa using inside, by simpa using inverted⟩

/-- Lists with different first values arise from each other by one inversion when
their tails are equal. -/
theorem exists_modify_cons_ne_iff {value other : Bool} {values others : List Bool}
    (distinct : value ≠ other) :
    (∃ k, k < (value :: values).length ∧ (value :: values).modify k not = other :: others) ↔
      values = others := by
  constructor
  · rintro ⟨k, _, inverted⟩
    cases k with
    | zero =>
        simp only [List.modify_zero_cons, List.cons.injEq] at inverted
        exact inverted.2
    | succ k => simp [distinct] at inverted
  · rintro rfl
    have opposite : (!value) = other := (Bool.eq_not_of_ne (Ne.symm distinct)).symm
    exact ⟨0, by simp, by simp [opposite]⟩

/-- Lists of one length differ at one place exactly when one inversion takes the
first to the second. -/
theorem differences_eq_one_iff {values others : List Bool}
    (sameLength : values.length = others.length) :
    differences values others = 1 ↔ ∃ k, k < values.length ∧ values.modify k not = others := by
  induction values generalizing others with
  | nil => simp [differences]
  | cons value values ih =>
      cases others with
      | nil => simp at sameLength
      | cons other others =>
          have tailLength : values.length = others.length := by simpa using sameLength
          by_cases same : value = other
          · subst other
            rw [exists_modify_cons_self_iff, ← ih tailLength]
            simp [differences]
          · rw [exists_modify_cons_ne_iff same, ← differences_eq_zero_iff tailLength]
            simp [differences, same]

namespace Solution

/-- The number of variables in which two solutions of one length differ. -/
def distance (s t : Solution) : Nat :=
  differences s.bits t.bits

/-- The neighbors of a solution are the solutions of its length at distance one. -/
theorem mem_neighbors_iff {s t : Solution} :
    t ∈ s.neighbors ↔ t.length = s.length ∧ s.distance t = 1 := by
  constructor
  · intro member
    have sameLength := length_of_mem_neighbors member
    simp only [neighbors, List.mem_map, List.mem_range] at member
    rcases member with ⟨k, inside, rfl⟩
    exact ⟨sameLength, (differences_eq_one_iff sameLength.symm).mpr ⟨k, inside, rfl⟩⟩
  · rintro ⟨sameLength, near⟩
    rcases (differences_eq_one_iff sameLength.symm).mp near with ⟨k, inside, inverted⟩
    simp only [neighbors, List.mem_map, List.mem_range]
    exact ⟨k, inside, Solution.ext inverted⟩

end Solution

/-! ## Weighted sums -/

/-- What inverting variable `i` adds to a weighted sum, modulo 2^64. -/
def gain (weights : List Int64) (values : List Bool) (i : Nat) : Int64 :=
  if values.getD i false then -weights.getD i 0 else weights.getD i 0

/-- Inverting a variable adds its gain to the weighted sum. -/
theorem weightedSum_modify_not {weights : List Int64} {values : List Bool}
    (sameLength : values.length = weights.length) (i : Nat) :
    weightedSum weights (values.modify i not) =
      weightedSum weights values + gain weights values i := by
  induction values generalizing weights i with
  | nil =>
      cases weights with
      | nil => simp [weightedSum, gain]
      | cons weight weights => simp at sameLength
  | cons value values ih =>
      cases weights with
      | nil => simp at sameLength
      | cons weight weights =>
          have tailLength : values.length = weights.length := by simpa using sameLength
          cases i with
          | zero =>
              cases value with
              | false =>
                  simp only [List.modify_zero_cons, weightedSum, gain]
                  grind
              | true =>
                  simp only [List.modify_zero_cons, weightedSum, gain]
                  grind
          | succ i =>
              have gainTail : gain (weight :: weights) (value :: values) (i + 1) =
                  gain weights values i := by simp [gain]
              rw [List.modify_succ_cons, weightedSum, weightedSum, ih tailLength, gainTail,
                Int64.add_assoc]

theorem gain_modify_of_ne (weights : List Int64) (values : List Bool) {i j : Nat}
    (distinct : i ≠ j) : gain weights (values.modify i not) j = gain weights values j := by
  simp [gain, List.getD_eq_getElem?_getD, distinct]

/-! ## Amounts that do not raise a sum -/

/-- An amount that does not raise `low` does not raise anything above `low`. -/
theorem add_le_of_add_le {low high amount : Int64} (settled : low + amount ≤ low)
    (higher : low < high) : high + amount ≤ high := by
  rw [Int64.le_iff_toInt_le, Int64.toInt_add] at settled ⊢
  rw [Int64.lt_iff_toInt_lt] at higher
  have lowBounds := And.intro low.le_toInt low.toInt_lt
  have highBounds := And.intro high.le_toInt high.toInt_lt
  have amountBounds := And.intro amount.le_toInt amount.toInt_lt
  -- Either nothing wraps around at `low`, or the sum wraps there and at every higher place.
  simp only [Int.bmod] at settled ⊢
  omega

end Ascent
