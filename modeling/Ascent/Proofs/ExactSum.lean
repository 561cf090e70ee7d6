import Ascent.Proofs.Evaluation
import Ascent.Proofs.Flip

/-!
# Sums that do not wrap around

A weighted sum is taken modulo 2^64.  `exactSum` is the same sum over the
integers, and the two agree as soon as the exact one is in the range of 64 bits.
If this holds for every choice of variables, comparing solutions by their fitness
is comparing integers: inverting a variable raises the fitness exactly if its
exact gain is positive, and of two inversions the one with the larger exact gain
leads higher.  A gain need not fit into 64 bits for this, only the sums have to.
-/

namespace Ascent

/-- The sum of the weights whose variable is true, as an integer. -/
def exactSum : List Int64 → List Bool → Int
  | weight :: weights, value :: values =>
      (if value then weight.toInt else 0) + exactSum weights values
  | _, _ => 0

/-- Every choice of variables has a sum in the range of 64 bits. -/
def SumsFit (weights : List Int64) : Prop :=
  ∀ values : List Bool, values.length = weights.length →
    Int64.minValue.toInt ≤ exactSum weights values ∧
      exactSum weights values ≤ Int64.maxValue.toInt

theorem ofInt_exactSum (weights : List Int64) (values : List Bool) :
    Int64.ofInt (exactSum weights values) = weightedSum weights values := by
  induction weights generalizing values with
  | nil => simp [exactSum, weightedSum]
  | cons weight weights ih =>
      cases values with
      | nil => simp [exactSum, weightedSum]
      | cons value values =>
          rw [exactSum, weightedSum, Int64.ofInt_add, ih]
          cases value with
          | false => simp
          | true => simp

/-- Sums in the range of 64 bits are exact. -/
theorem SumsFit.toInt_weightedSum {weights : List Int64} {values : List Bool}
    (fit : SumsFit weights) (sameLength : values.length = weights.length) :
    (weightedSum weights values).toInt = exactSum weights values := by
  rcases fit values sameLength with ⟨lower, upper⟩
  rw [Int64.toInt_minValue] at lower
  rw [Int64.toInt_maxValue] at upper
  rw [← ofInt_exactSum]
  exact Int64.toInt_ofInt_of_le lower (by omega)

/-! ## Gains -/

/-- What inverting variable `i` adds to the exact sum. -/
def exactGain (weights : List Int64) (values : List Bool) (i : Nat) : Int :=
  if values.getD i false then -(weights.getD i 0).toInt else (weights.getD i 0).toInt

theorem exactSum_modify_not {weights : List Int64} {values : List Bool}
    (sameLength : values.length = weights.length) (i : Nat) :
    exactSum weights (values.modify i not) =
      exactSum weights values + exactGain weights values i := by
  induction values generalizing weights i with
  | nil =>
      cases weights with
      | nil => simp [exactSum, exactGain]
      | cons weight weights => simp at sameLength
  | cons value values ih =>
      cases weights with
      | nil => simp at sameLength
      | cons weight weights =>
          have tailLength : values.length = weights.length := by simpa using sameLength
          cases i with
          | zero =>
              simp only [List.modify_zero_cons, exactSum, exactGain, List.getD_cons_zero]
              cases value with
              | false =>
                  simp only [Bool.not_false, if_true, Bool.false_eq_true, if_false]
                  omega
              | true =>
                  simp only [Bool.not_true, Bool.false_eq_true, if_true, if_false]
                  omega
          | succ i =>
              have gainTail : exactGain (weight :: weights) (value :: values) (i + 1) =
                  exactGain weights values i := by simp [exactGain]
              rw [List.modify_succ_cons, exactSum, exactSum, ih tailLength, gainTail,
                Int.add_assoc]

/-! ## Sums of small weights -/

theorem exactSum_bounds {weights : List Int64} {limit : Int}
    (bounds : ∀ weight ∈ weights, 0 ≤ weight.toInt ∧ weight.toInt ≤ limit)
    (values : List Bool) :
    0 ≤ exactSum weights values ∧ exactSum weights values ≤ limit * weights.length := by
  induction weights generalizing values with
  | nil => simp [exactSum]
  | cons weight weights ih =>
      rcases bounds weight List.mem_cons_self with ⟨nonnegative, small⟩
      have tailBounds := ih fun other member => bounds other (List.mem_cons_of_mem weight member)
      have lengthStep : limit * ((weight :: weights).length : Int) =
          limit * (weights.length : Int) + limit := by
        rw [List.length_cons, Int.natCast_succ, Int.mul_add, Int.mul_one]
      rw [lengthStep]
      cases values with
      | nil =>
          have rest := tailBounds []
          simp only [exactSum] at rest ⊢
          omega
      | cons value values =>
          have rest := tailBounds values
          rw [exactSum]
          cases value with
          | false =>
              simp only [Bool.false_eq_true, if_false]
              omega
          | true =>
              simp only [if_true]
              omega

/-- Few weights without a sign, none of which is large, have sums in range. -/
theorem sumsFit_of_bounds {weights : List Int64} {limit : Int}
    (bounds : ∀ weight ∈ weights, 0 ≤ weight.toInt ∧ weight.toInt ≤ limit)
    (small : limit * weights.length ≤ Int64.maxValue.toInt) : SumsFit weights := by
  intro values _
  rcases exactSum_bounds bounds values with ⟨lower, upper⟩
  have negative : Int64.minValue.toInt ≤ 0 := by decide
  exact ⟨Int.le_trans negative lower, Int.le_trans upper small⟩

/-! ## Comparing neighbors by their gains -/

namespace Problem

variable {p : Problem} {s : Solution}

theorem toInt_value (fit : SumsFit p.weights) (width : s.length = p.weights.length) :
    (p.value s).toInt = exactSum p.weights s.bits :=
  fit.toInt_weightedSum width

theorem toInt_value_flipped (fit : SumsFit p.weights) (width : s.length = p.weights.length)
    (k : Nat) :
    (p.value (s.flipped k)).toInt = (p.value s).toInt + exactGain p.weights s.bits k := by
  have flippedWidth : (s.flipped k).length = p.weights.length := by
    rw [Solution.length_flipped, width]
  rw [toInt_value fit flippedWidth, toInt_value fit width]
  exact exactSum_modify_not width k

theorem value_lt_flipped_iff (fit : SumsFit p.weights) (width : s.length = p.weights.length)
    (k : Nat) : p.value s < p.value (s.flipped k) ↔ 0 < exactGain p.weights s.bits k := by
  rw [Int64.lt_iff_toInt_lt, toInt_value_flipped fit width]
  omega

theorem value_flipped_lt_iff (fit : SumsFit p.weights) (width : s.length = p.weights.length)
    (j k : Nat) : p.value (s.flipped j) < p.value (s.flipped k) ↔
      exactGain p.weights s.bits j < exactGain p.weights s.bits k := by
  rw [Int64.lt_iff_toInt_lt, toInt_value_flipped fit width, toInt_value_flipped fit width]
  omega

end Problem

end Ascent
