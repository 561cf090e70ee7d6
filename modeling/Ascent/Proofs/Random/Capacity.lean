import Ascent.Proofs.ConstraintSet
import Ascent.Proofs.Random.Assembly
import Mathlib.Algebra.Ring.Int.Defs

/-!
# Random problems admit a third

Every constraint of a random problem limits a sum of weights from 1 to 10 by a third of their
total, rounded down.  No sum wraps around, so a verdict on a solution compares integers: the
solution without items is always feasible, a feasible solution remains so when items are
taken out of it, and all items together are too heavy for every constraint.
-/

namespace Ascent

open Ascent.Random (Draw Generator)

variable {σ : Type}

/-! ## Sums over some items, no items and all items -/

theorem exactSum_replicate_false (weights : List Int64) (count : Nat) :
    exactSum weights (List.replicate count false) = 0 := by
  induction weights generalizing count with
  | nil => rfl
  | cons weight weights ih =>
      cases count with
      | zero => rfl
      | succ count => simp [List.replicate_succ, exactSum, ih]

theorem exactSum_replicate_true (weights : List Int64) :
    exactSum weights (List.replicate weights.length true) = (weights.map Int64.toInt).sum := by
  induction weights with
  | nil => rfl
  | cons weight weights ih => simp [List.replicate_succ, exactSum, ih]

theorem weightedSum_replicate_true (weights : List Int64) :
    weightedSum weights (List.replicate weights.length true) = weights.sum := by
  induction weights with
  | nil => rfl
  | cons weight weights ih => simp [List.replicate_succ, weightedSum, ih]

/-- More items have at least the sum of fewer ones if no weight is negative. -/
theorem exactSum_le {weights : List Int64} (nonnegative : ∀ weight ∈ weights, 0 ≤ weight.toInt)
    {fewer more : List Bool} (sameLength : fewer.length = more.length)
    (kept : ∀ i : Nat, fewer[i]? = some true → more[i]? = some true) :
    exactSum weights fewer ≤ exactSum weights more := by
  induction weights generalizing fewer more with
  | nil => exact Int.le_refl 0
  | cons weight weights ih =>
      rw [List.forall_mem_cons] at nonnegative
      cases fewer with
      | nil =>
          obtain rfl := List.length_eq_zero_iff.mp sameLength.symm
          exact Int.le_refl 0
      | cons first fewer =>
          cases more with
          | nil => simp at sameLength
          | cons other more =>
              have rest := ih nonnegative.2 (Nat.succ.inj sameLength) fun i => kept (i + 1)
              have here : first = true → other = true := by simpa using kept 0
              rw [exactSum, exactSum]
              cases first with
              | false =>
                  cases other with
                  | false => simpa using rest
                  | true =>
                      simp only [Bool.false_eq_true, if_false, if_true]
                      omega
              | true =>
                  rw [here rfl]
                  exact Int.add_le_add_left rest _

theorem SumsFit.toInt_sum {weights : List Int64} (fit : SumsFit weights) :
    weights.sum.toInt = (weights.map Int64.toInt).sum := by
  rw [← weightedSum_replicate_true, fit.toInt_weightedSum List.length_replicate,
    exactSum_replicate_true]

namespace Solution

/-- All variables that are true in `s` are true in `t`. -/
def Within (s t : Solution) : Prop :=
  s.length = t.length ∧ ∀ i : Nat, s.bits[i]? = some true → t.bits[i]? = some true

/-- The solution of a given length with every variable true. -/
def full (n : Nat) : Solution :=
  ⟨List.replicate n true⟩

@[simp]
theorem length_full (n : Nat) : (full n).length = n :=
  List.length_replicate

end Solution

/-! ## Constraints that admit a third -/

/-- A number of weights, from one to a limit. -/
structure WeightsUpTo (limit count : Int) (weights : List Int64) : Prop where
  count : (weights.length : Int) = count
  bounds : ∀ weight ∈ weights, 1 ≤ weight.toInt ∧ weight.toInt ≤ limit

/-- A constraint of a random problem; it admits a third of its total weight, rounded down. -/
structure Constraint.AdmitsThird (width : Int) (c : Constraint) : Prop where
  operator : c.operator = some .lessOrEqual
  weights : WeightsUpTo 10 width c.weights
  threshold : c.threshold.toInt = (c.weights.map Int64.toInt).sum / 3

theorem weightsUpTo_randomWeights {generator : Generator σ} (inRange : generator.InRange)
    {limit : Nat} (positive : 0 < limit) (small : (limit : Int) ≤ Int64.maxValue.toInt)
    {count : Int} (nonnegative : 0 ≤ count) (state : σ) :
    WeightsUpTo limit count (randomWeights generator limit count.toNat state).1 where
  count := by
    rw [length_randomWeights]
    exact Int.toNat_of_nonneg nonnegative
  bounds := randomWeights_bounds inRange positive small count.toNat state

namespace WeightsUpTo

variable {limit count : Int} {weights : List Int64}

theorem nonnegative (upTo : WeightsUpTo limit count weights) :
    ∀ weight ∈ weights, 0 ≤ weight.toInt :=
  fun weight member => Int.le_trans (by decide) (upTo.bounds weight member).1

theorem sumsFit (upTo : WeightsUpTo limit count weights)
    (few : limit * count ≤ Int64.maxValue.toInt) : SumsFit weights := by
  rw [← upTo.count] at few
  exact sumsFit_of_bounds
    (fun weight member => ⟨upTo.nonnegative weight member, (upTo.bounds weight member).2⟩) few

/-- Weights of at least one have at least their number as sum. -/
theorem count_le_sum (upTo : WeightsUpTo limit count weights) :
    count ≤ (weights.map Int64.toInt).sum := by
  rw [← upTo.count]
  have bounds := upTo.bounds
  clear upTo
  induction weights with
  | nil => exact Int.le_refl 0
  | cons weight weights ih =>
      rw [List.forall_mem_cons] at bounds
      have rest := ih bounds.2
      rw [List.length_cons, List.map_cons, List.sum_cons, Int.natCast_succ]
      omega

theorem admitsThird (upTo : WeightsUpTo 10 count weights)
    (few : 10 * count ≤ Int64.maxValue.toInt) : (Constraint.third weights).AdmitsThird count where
  operator := rfl
  weights := upTo
  threshold := by
    have sum := (upTo.sumsFit few).toInt_sum
    have least := upTo.count_le_sum
    rw [← upTo.count] at least
    rw [Constraint.third, Int64.toInt_div_of_ne_right _ _ (by decide), sum]
    exact Int.tdiv_eq_ediv_of_nonneg (Int.le_trans (Int.natCast_nonneg _) least)

end WeightsUpTo

namespace Constraint.AdmitsThird

variable {width : Int} {c : Constraint} {s t : Solution}

/-- The sums do not wrap around, so a verdict compares integers. -/
theorem isFeasible_eq (third : c.AdmitsThird width) (few : 10 * width ≤ Int64.maxValue.toInt)
    (sameWidth : s.length = c.length) :
    c.isFeasible s =
      .ok (decide (exactSum c.weights s.bits ≤ (c.weights.map Int64.toInt).sum / 3)) := by
  rw [isFeasible_eq_accepts third.operator sameWidth, accepts, third.operator,
    ← third.threshold, ← (third.weights.sumsFit few).toInt_weightedSum sameWidth]
  exact congrArg Except.ok (decide_eq_decide.mpr Int64.le_iff_toInt_le)

theorem isFeasible_of_within (third : c.AdmitsThird width)
    (few : 10 * width ≤ Int64.maxValue.toInt) (within : s.Within t)
    (feasible : c.isFeasible t = .ok true) : c.isFeasible s = .ok true := by
  have sameWidth := (accepts_of_isFeasible feasible).1
  rw [third.isFeasible_eq few sameWidth, Except.ok.injEq, decide_eq_true_eq] at feasible
  rw [third.isFeasible_eq few (within.1.trans sameWidth), Except.ok.injEq, decide_eq_true_eq]
  exact Int.le_trans (exactSum_le third.weights.nonnegative within.1 within.2) feasible

theorem isFeasible_zeros (third : c.AdmitsThird width)
    (few : 10 * width ≤ Int64.maxValue.toInt) (nonnegative : 0 ≤ width) :
    c.isFeasible (.zeros c.length) = .ok true := by
  have sum := third.weights.count_le_sum
  rw [third.isFeasible_eq few (Solution.length_zeros c.length), Solution.zeros,
    exactSum_replicate_false, Except.ok.injEq, decide_eq_true_eq]
  omega

/-- All items together are too heavy. -/
theorem isFeasible_full (third : c.AdmitsThird width)
    (few : 10 * width ≤ Int64.maxValue.toInt) (positive : 0 < width) :
    c.isFeasible (.full c.length) = .ok false := by
  have sum := third.weights.count_le_sum
  rw [third.isFeasible_eq few (Solution.length_full c.length), Solution.full, Constraint.length,
    exactSum_replicate_true, Except.ok.injEq, decide_eq_false_iff_not]
  omega

end Constraint.AdmitsThird

/-! ## Random problems -/

namespace Problem

/-- A checked problem with profits from 1 to 20, each of whose constraints admits a third of
its total weight. -/
structure Shaped (width constraints : Int) (p : Problem) : Prop where
  valid : validate (some p) = .ok ()
  profits : WeightsUpTo 20 width p.weights
  count : (p.members.length : Int) = constraints
  members : ∀ c ∈ p.members, c.AdmitsThird width

theorem feasible_eq_true_iff {p : Problem} {s : Solution} :
    p.feasible s = .ok true ↔ ∀ c ∈ p.members, c.isFeasible s = .ok true := by
  rw [feasible_eq_insist_allows, insist_eq_ok_iff, ConstraintSet.allows_eq, listed_constraints,
    ConstraintSet.feasibleFrom_eq_true_iff]

variable {generator : Generator σ} {width constraints : Int}

theorem shaped_random (inRange : generator.InRange) {state rest : σ} {p : Problem}
    (generated : random generator width constraints (some state) = .ok (p, rest)) :
    p.Shaped width constraints := by
  have drawable := drawable_of_random generated
  have positive := drawable.positive
  have few : 10 * width ≤ Int64.maxValue.toInt := by
    have fit := drawable.weights_fit
    omega
  have parts := randomParts_of_random generated
  constructor
  case valid => exact parts.searchable.valid
  case profits =>
    rcases parts.exists_weights with ⟨seed, weights_eq⟩
    rw [weights_eq]
    exact weightsUpTo_randomWeights inRange (by decide) (by decide) (Int.le_of_lt positive) seed
  case count =>
    rw [parts.count]
    exact Int.toNat_of_nonneg drawable.nonnegative
  case members =>
    intro c member
    rcases parts.members c member with ⟨seed, rfl⟩
    have upTo : WeightsUpTo 10 width (randomWeights generator 10 width.toNat seed).1 :=
      weightsUpTo_randomWeights inRange (by decide) (by decide) (Int.le_of_lt positive) seed
    exact upTo.admitsThird few

/-- A random problem.  For every generator with draws in range it is put together without a
breakdown, and is what `random` gives, if there is room for the weights of one list and for
twice the constraints: a set that grows may take more than its members need.  It takes
the draws for the profits and then those for each constraint, and no others; its parts are
made of these draws.  The solution without items is feasible, so is whatever has only items
of a feasible solution, and all items together violate every constraint. -/
theorem random_admits_thirds (inRange : generator.InRange) (positive : 1 ≤ width)
    (addressable : Addressable wordSize width) (nonnegative : 0 ≤ constraints)
    (roomy : Addressable wordSize (2 * constraints)) (state : σ) :
    ∃ p rest draws,
      assembleRandom generator width constraints (some state) = .ok (p, rest) ∧
      random generator width constraints (some state) = .ok (p, rest) ∧
      assembleRandom generator.recorded width constraints (some (state, [])) =
        .ok (p, rest, List.zipWith Draw.below
          (List.replicate width.toNat 20 ++ List.replicate (width.toNat * constraints.toNat) 10)
          draws) ∧
      draws.length = width.toNat + width.toNat * constraints.toNat ∧
      p = ofDraws width constraints draws ∧
      p.Shaped width constraints ∧
      p.feasible (.zeros width.toNat) = .ok true ∧
      (∀ s t : Solution, s.Within t → p.feasible t = .ok true → p.feasible s = .ok true) ∧
      ∀ c ∈ p.members, c.isFeasible (.full width.toNat) = .ok false := by
  have drawable : Drawable width constraints :=
    ⟨positive, nonnegative, addressable, roomy.of_le (by omega)⟩
  have few : 10 * width ≤ Int64.maxValue.toInt := by
    have fit := drawable.weights_fit
    omega
  have generated := random_eq_ofDraws generator drawable state
  have recorded := random_eq_ofDraws generator.recorded drawable (state, [])
  rw [Random.belowEach_recorded, List.nil_append] at recorded
  have shaped := shaped_random inRange generated
  have lengths : ∀ c ∈ (ofDraws width constraints (generator.belowEach
      (drawBounds width.toNat constraints.toNat) state).1).members, width.toNat = c.length := by
    intro c member
    have count := (shaped.members c member).weights.count
    rw [Constraint.length]
    omega
  refine ⟨_, _, _, (assembleRandom_eq ..).trans generated, generated,
    (assembleRandom_eq ..).trans recorded, ?_, rfl, shaped, ?_, ?_, ?_⟩
  · rw [Random.length_belowEach, drawBounds, List.length_append, List.length_replicate,
      List.length_replicate]
  · rw [feasible_eq_true_iff]
    intro c member
    rw [lengths c member]
    exact (shaped.members c member).isFeasible_zeros few (by omega)
  · intro s t within
    rw [feasible_eq_true_iff, feasible_eq_true_iff]
    intro feasible c member
    exact (shaped.members c member).isFeasible_of_within few within (feasible c member)
  · intro c member
    rw [lengths c member]
    exact (shaped.members c member).isFeasible_full few positive

/-- Two items; only the first one fits. -/
def twoItems : Problem where
  name := "random-2x2"
  objective := some ⟨[10, 5]⟩
  constraints := some ⟨[⟨[3, 8], some .lessOrEqual, 3⟩, ⟨[1, 5], some .lessOrEqual, 2⟩]⟩

/-- Numbers of 63 bits from which these items are drawn. -/
def twoItemsSource : Random.Source :=
  .listed #[38654705664, 17179869184, 8589934592, 30064771072, 0, 17179869184] 0

/-- Six draws make the problem: two for the profits and two for each constraint. -/
theorem random_admits_thirds_twoItems :
    ∃ rest, random Random.Source.generator 2 2 (some twoItemsSource) = .ok (twoItems, rest) ∧
      assembleRandom Random.Source.generator.recorded 2 2 (some (twoItemsSource, [])) =
        .ok (twoItems, rest, [.below 20 9, .below 20 4, .below 10 2, .below 10 7, .below 10 0,
          .below 10 4]) ∧
      twoItems.Shaped 2 2 ∧
      twoItems.feasible ⟨[true, false]⟩ = .ok true ∧
      twoItems.feasible ⟨[false, false]⟩ = .ok true ∧
      ∀ c ∈ twoItems.members, c.isFeasible ⟨[true, true]⟩ = .ok false := by
  rcases random_admits_thirds Random.Source.generator_inRange (by decide : (1 : Int) ≤ 2)
      (by decide) (by decide : (0 : Int) ≤ 2) (by decide) twoItemsSource with
    ⟨p, rest, draws, _, generated, recorded, _, _, shaped, _, within, full⟩
  have evaluated : assembleRandom Random.Source.generator.recorded 2 2
      (some (twoItemsSource, [])) = .ok (twoItems, _, [.below 20 9, .below 20 4, .below 10 2,
        .below 10 7, .below 10 0, .below 10 4]) := rfl
  have same := Except.ok.inj (recorded.symm.trans evaluated)
  obtain rfl : p = twoItems := congrArg Prod.fst same
  have record := congrArg (fun outcome => outcome.2.2) same
  dsimp only at record
  rw [record] at recorded
  have feasible : twoItems.feasible ⟨[true, false]⟩ = .ok true := rfl
  refine ⟨rest, generated, recorded, shaped, feasible, within _ _ ⟨rfl, ?_⟩ feasible, full⟩
  intro i on
  rcases i with _ | _ | i
  · contradiction
  · contradiction
  · contradiction

/-- With 2^46 items twenty times their number is still in the range of 64 bits, but there is
no random problem of them. -/
theorem random_undefined_unaddressable :
    20 * 70368744177664 < (2 : Int) ^ 63 ∧
      Random.Source.generator.InRange ∧
      random Random.Source.generator 70368744177664 0 (some (.ofSeed 1)) = .error .undefined ∧
      assembleRandom Random.Source.generator 70368744177664 0 (some (.ofSeed 1)) =
        .error .undefined := by
  have beyond : ¬ Addressable wordSize 70368744177664 := by decide
  have undefined := random_eq_undefined Random.Source.generator (by decide) (Int.le_refl 0)
    (.inl beyond) (.ofSeed 1)
  exact ⟨by decide, Random.Source.generator_inRange, undefined,
    (assembleRandom_eq ..).trans undefined⟩

end Problem

end Ascent
