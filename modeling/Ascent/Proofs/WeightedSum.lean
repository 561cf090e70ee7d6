import Ascent.Proofs.Climb.Loop
import Ascent.Proofs.ExactSum
import Ascent.Proofs.Lookup
import Ascent.Proofs.Solution.Storage
import Mathlib.Data.Finset.Max
import Mathlib.Data.Int.ModEq

/-!
# Weighted sums near the limits of 64 bits

Every addition of a weighted sum is modulo 2^64, and so is the whole sum.  The value is the
one number in the range of 64 bits that is congruent to the exact sum.  If the exact sum is
in range, it is the value, whether or not the sums on the way there were in range.
-/

namespace Ascent

/-! ## Residues -/

/-- The integer is in the range of 64 bits. -/
def Fits (n : Int) : Prop :=
  Int64.minValue.toInt ≤ n ∧ n ≤ Int64.maxValue.toInt

instance (n : Int) : Decidable (Fits n) :=
  inferInstanceAs (Decidable (_ ∧ _))

/-- The number in the range of 64 bits that is congruent to an integer modulo 2^64. -/
structure Residue (value : Int64) (n : Int) : Prop where
  fits : Fits value.toInt
  congruent : value.toInt ≡ n [ZMOD Int64.size]

theorem residue_ofInt (n : Int) : Residue (Int64.ofInt n) n where
  fits := ⟨Int64.minValue_le_toInt _, Int64.toInt_le _⟩
  congruent := by
    rw [Int64.toInt_ofInt]
    exact Int.bmod_emod

namespace Residue

variable {value : Int64} {n m : Int}

/-- Integers in range are their own residues, and no others are. -/
theorem toInt_eq_iff (residue : Residue value n) : value.toInt = n ↔ Fits n := by
  constructor
  · rintro rfl
    exact residue.fits
  · intro fits
    have congruent := residue.congruent
    rcases residue.fits with ⟨lower, upper⟩
    rcases fits with ⟨lowerExact, upperExact⟩
    rw [Int64.toInt_minValue] at lower lowerExact
    rw [Int64.toInt_maxValue] at upper upperExact
    -- Both are in range, and they differ by a multiple of the length of the range.
    simp only [Int.ModEq, Int64.size] at congruent
    omega

theorem of_modEq (residue : Residue value n) (congruent : n ≡ m [ZMOD Int64.size]) :
    Residue value m :=
  ⟨residue.fits, residue.congruent.trans congruent⟩

end Residue

/-- A weighted sum is a residue of the exact sum, whatever its parts are. -/
theorem residue_weightedSum (weights : List Int64) (values : List Bool) :
    Residue (weightedSum weights values) (exactSum weights values) := by
  rw [← ofInt_exactSum]
  exact residue_ofInt (exactSum weights values)

/-- Inverting a variable adds its exact gain modulo 2^64. -/
theorem residue_weightedSum_modify {weights : List Int64} {values : List Bool}
    (sameLength : values.length = weights.length) (k : Nat) :
    Residue (weightedSum weights (values.modify k not))
      ((weightedSum weights values).toInt + exactGain weights values k) := by
  have before := residue_weightedSum weights values
  have after := residue_weightedSum weights (values.modify k not)
  rw [exactSum_modify_not sameLength] at after
  exact after.of_modEq (before.congruent.symm.add_right _)

/-! ## Evaluations -/

/-- An evaluation that sums up the weights of the true variables modulo 2^64.  Solutions
of another length are refused at a place. -/
structure SumsModulo (weights : List Int64) (place : Place)
    (evaluate : Solution → Except Error Int64) : Prop where
  residue : ∀ {s : Solution}, s.length = weights.length →
    ∃ value, evaluate s = .ok value ∧ Residue value (exactSum weights s.bits)
  toInt_eq_iff : ∀ {s value}, evaluate s = .ok value →
    (value.toInt = exactSum weights s.bits ↔ Fits (exactSum weights s.bits))
  flip : ∀ {s value} {k : Nat}, evaluate s = .ok value → k < s.length →
    ∃ t next, s.flip k = .ok t ∧ evaluate t = .ok next ∧
      Residue next (value.toInt + exactGain weights s.bits k)
  refused : ∀ {s : Solution}, s.length ≠ weights.length →
    evaluate s = .error ⟨[place], .solutionWidth s.length weights.length⟩

/-- Checking the width and then summing up is such an evaluation. -/
theorem sumsModulo_of_checked {weights : List Int64} {place : Place}
    {evaluate : Solution → Except Error Int64}
    (evaluated : ∀ s : Solution, s.length = weights.length →
      evaluate s = .ok (weightedSum weights s.bits))
    (refused : ∀ s : Solution, s.length ≠ weights.length →
      evaluate s = .error ⟨[place], .solutionWidth s.length weights.length⟩) :
    SumsModulo weights place evaluate := by
  have of_ok : ∀ {s value}, evaluate s = .ok value →
      s.length = weights.length ∧ weightedSum weights s.bits = value := by
    intro s value gave
    by_cases width : s.length = weights.length
    · exact ⟨width, Except.ok.inj ((evaluated s width).symm.trans gave)⟩
    · rw [refused s width] at gave
      contradiction
  constructor
  case residue =>
    intro s width
    exact ⟨_, evaluated s width, residue_weightedSum weights s.bits⟩
  case toInt_eq_iff =>
    intro s value gave
    obtain ⟨_, rfl⟩ := of_ok gave
    exact (residue_weightedSum weights s.bits).toInt_eq_iff
  case flip =>
    intro s value k gave inside
    obtain ⟨width, rfl⟩ := of_ok gave
    have flippedWidth : (s.flipped k).length = weights.length := by
      rw [Solution.length_flipped, width]
    exact ⟨s.flipped k, _, Climb.flip_eq_flipped inside, evaluated _ flippedWidth,
      residue_weightedSum_modify width k⟩
  case refused => exact refused _

theorem Objective.sumsModulo (o : Objective) :
    SumsModulo o.weights .objective o.evaluate := by
  apply sumsModulo_of_checked
  · intro s width
    exact if_pos width
  · intro s width
    exact if_neg width

theorem Constraint.sumsModulo (c : Constraint) : SumsModulo c.weights .constraint c.value := by
  apply sumsModulo_of_checked
  · intro s width
    exact if_pos width
  · intro s width
    exact if_neg width

/-! ## Comparisons -/

/-- An integer stands in this relation to a threshold. -/
def Operator.Relates (n threshold : Int) : Operator → Prop
  | .lessThan => n < threshold
  | .lessOrEqual => n ≤ threshold
  | .greaterThan => n > threshold
  | .greaterOrEqual => n ≥ threshold

instance (operator : Operator) (n threshold : Int) : Decidable (operator.Relates n threshold) :=
  match operator with
  | .lessThan => inferInstanceAs (Decidable (n < threshold))
  | .lessOrEqual => inferInstanceAs (Decidable (n ≤ threshold))
  | .greaterThan => inferInstanceAs (Decidable (n > threshold))
  | .greaterOrEqual => inferInstanceAs (Decidable (n ≥ threshold))

/-- Numbers of 64 bits are compared as integers. -/
theorem Operator.holds_eq_decide (operator : Operator) (value threshold : Int64) :
    operator.holds value threshold =
      decide (operator.Relates value.toInt threshold.toInt) := by
  cases operator with
  | lessThan => exact decide_eq_decide.mpr Int64.lt_iff_toInt_lt
  | lessOrEqual => exact decide_eq_decide.mpr Int64.le_iff_toInt_le
  | greaterThan => exact decide_eq_decide.mpr Int64.lt_iff_toInt_lt
  | greaterOrEqual => exact decide_eq_decide.mpr Int64.le_iff_toInt_le

/-- A sum in range is compared with the threshold as an integer. -/
theorem Constraint.isFeasible_of_fits {c : Constraint} {s : Solution} {operator : Operator}
    (compares : c.operator = some operator) (width : s.length = c.length)
    (fits : Fits (exactSum c.weights s.bits)) :
    c.isFeasible s =
      .ok (decide (operator.Relates (exactSum c.weights s.bits) c.threshold.toInt)) := by
  have sum := (residue_weightedSum c.weights s.bits).toInt_eq_iff.mpr fits
  rw [isFeasible_eq_accepts compares width, accepts, compares, ← sum,
    ← operator.holds_eq_decide]

open Storage

/-- Objectives and constraints sum up the weights of the true variables modulo 2^64, and a
constraint whose exact sum is in range decides the inequality of the integers.  In memory
the elements of a set are visited instead of the variables, with the same results. -/
theorem evaluation_gives_residue {β : Type} {seek : Seek β} {members : β → Finset Nat}
    (lawful : seek.Lawful members) (o : Objective) (c : Constraint) :
    SumsModulo o.weights .objective o.evaluate ∧
    SumsModulo c.weights .constraint c.value ∧
    (∀ {operator s}, c.operator = some operator → s.length = c.length →
      Fits (exactSum c.weights s.bits) → c.isFeasible s =
        .ok (decide (operator.Relates (exactSum c.weights s.bits) c.threshold.toInt))) ∧
    (∀ {s : Solution}, s.length ≠ c.length → c.isFeasible s =
      .error (.rejected ⟨[.constraint], .solutionWidth s.length c.length⟩)) ∧
    ∀ {length} {stored : Stored β} {s}, stored.Holds length members s →
      stored.weigh seek .objective o.weights = report (o.evaluate s) ∧
      stored.weigh seek .constraint c.weights = report (c.value s) := by
  refine ⟨o.sumsModulo, c.sumsModulo, Constraint.isFeasible_of_fits,
    Constraint.isFeasible_of_length_ne, ?_⟩
  intro length stored s holds
  rw [holds.weigh_eq lawful, holds.weigh_eq lawful]
  exact ⟨indexedSum_objective o s, indexedSum_constraint c s⟩

/-- The least element of a plain set at or behind an index. -/
def Storage.Seek.plain : Seek (Nat × Finset Nat) := fun set i =>
  if behind : (set.2.filter (i ≤ ·)).Nonempty then
    some ⟨(set.2.filter (i ≤ ·)).min' behind,
      (Finset.mem_filter.mp (Finset.min'_mem _ behind)).2⟩
  else none

theorem Storage.Seek.plain_lawful : Seek.plain.Lawful Prod.snd where
  found := by
    intro set i j found
    unfold Seek.plain at found
    split at found
    case isTrue behind =>
      obtain rfl := Option.some.inj found
      simpa using Finset.isLeast_min' _ behind
    case isFalse => contradiction
  missed := by
    intro set i missed k member
    unfold Seek.plain at missed
    split at missed
    case isTrue => contradiction
    case isFalse none =>
      by_contra reached
      exact none ⟨k, Finset.mem_filter.mpr ⟨member, Nat.le_of_not_lt reached⟩⟩

/-- The sum of the first two weights is out of range, and the third weight brings it back.
Without the third variable the value is the least number of 64 bits, far from the sum. -/
theorem evaluation_gives_residue_recovery :
    Seek.plain.Lawful Prod.snd ∧
    ¬ Fits (exactSum [Int64.maxValue, 1, -2] [true, true, false]) ∧
    Fits (exactSum [Int64.maxValue, 1, -2] [true, true, true]) ∧
    (Stored.ofBools .plain [true, true, true]).weigh .plain .objective
        [Int64.maxValue, 1, -2] = .ok (Int64.maxValue - 1) ∧
    (Stored.ofBools .plain [true, true, false]).weigh .plain .objective
        [Int64.maxValue, 1, -2] = .ok Int64.minValue ∧
    Constraint.isFeasible ⟨[Int64.maxValue, 1, -2], some .greaterThan, 0⟩
        ⟨[true, true, true]⟩ = .ok true := by
  have fits : Fits (exactSum [Int64.maxValue, 1, -2] [true, true, true]) := by decide
  have holds := ofBools_holds BitSets.plain_lawful
  rcases evaluation_gives_residue Seek.plain_lawful ⟨[Int64.maxValue, 1, -2]⟩
    ⟨[Int64.maxValue, 1, -2], some .greaterThan, 0⟩
    with ⟨_, _, decides, _, weighs⟩
  exact ⟨Seek.plain_lawful, by decide, fits, (weighs (holds _)).1, (weighs (holds _)).1,
    decides rfl rfl fits⟩

end Ascent
