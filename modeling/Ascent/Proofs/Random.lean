import Ascent.Proofs.ExactSum
import Ascent.Random

/-!
# Random problems

All that is assumed of a generator is that a draw below a bound is below it.  Then
the weights of a random problem are positive and small, its constraints compare by
`<=`, and no sum over its variables wraps around.  In particular a random problem
can be searched.

The random starts of a benchmark have the length that was asked for, and more of them
begin with fewer of them.
-/

namespace Ascent

open Ascent.Random (Generator)

variable {σ : Type}

/-- The draws of a generator are below their bounds. -/
def Random.Generator.InRange (generator : Generator σ) : Prop :=
  ∀ (bound : Nat) (state : σ), 0 < bound → (generator.below bound state).1 < bound

/-- A source keeps its draws below their bounds, whatever numbers it hands out. -/
theorem Random.Source.generator_inRange : Random.Source.generator.InRange := by
  intro bound source positive
  change (Random.Source.drawBelow bound Random.Source.patience source).1 < bound
  induction Random.Source.patience generalizing source with
  | zero => exact Nat.mod_lt 0 positive
  | succ fuel ih =>
      rw [Random.Source.drawBelow]
      rcases source.next with ⟨number, next⟩
      by_cases fair : number >>> 32 ≤ Random.Source.fairLimit bound
      · simpa only [if_pos fair] using Nat.mod_lt _ positive
      · simpa only [if_neg fair] using ih next

variable {generator : Generator σ}

@[simp]
theorem length_randomWeights (generator : Generator σ) (limit count : Nat) (state : σ) :
    (randomWeights generator limit count state).1.length = count := by
  induction count generalizing state with
  | zero => rfl
  | succ count ih => simp [randomWeights, ih]

theorem toInt_one_add_ofNat {draw limit : Nat} (below : draw < limit)
    (small : (limit : Int) ≤ Int64.maxValue.toInt) :
    (1 + Int64.ofNat draw).toInt = 1 + draw := by
  rw [Int64.toInt_maxValue] at small
  have inRange : 1 + draw < 2 ^ 63 := by omega
  have sum : (1 : Int64) + Int64.ofNat draw = Int64.ofNat (1 + draw) :=
    (Int64.ofNat_add 1 draw).symm
  rw [sum, Int64.toInt_ofNat_of_lt inRange]
  omega

/-- Random weights lie between one and their limit. -/
theorem randomWeights_bounds (inRange : generator.InRange) {limit : Nat} (positive : 0 < limit)
    (small : (limit : Int) ≤ Int64.maxValue.toInt) (count : Nat) (state : σ) :
    ∀ weight ∈ (randomWeights generator limit count state).1,
      1 ≤ weight.toInt ∧ weight.toInt ≤ limit := by
  induction count generalizing state with
  | zero => simp [randomWeights]
  | succ count ih =>
      intro weight member
      rw [randomWeights] at member
      rcases List.mem_cons.mp member with rfl | later
      · have below := inRange limit state positive
        rw [toInt_one_add_ofNat below small]
        omega
      · exact ih _ weight later

/-- Random weights have sums in range if their number is not too large. -/
theorem randomWeights_sumsFit (inRange : generator.InRange) {limit count : Nat}
    (positive : 0 < limit) (small : (limit : Int) ≤ Int64.maxValue.toInt)
    (few : (limit : Int) * count ≤ Int64.maxValue.toInt) (state : σ) :
    SumsFit (randomWeights generator limit count state).1 := by
  have bounds : ∀ weight ∈ (randomWeights generator limit count state).1,
      0 ≤ weight.toInt ∧ weight.toInt ≤ limit := by
    intro weight member
    rcases randomWeights_bounds inRange positive small count state weight member with
      ⟨lower, upper⟩
    exact ⟨by omega, upper⟩
  apply sumsFit_of_bounds bounds
  rw [length_randomWeights]
  exact few

theorem exists_of_mem_randomConstraints {width count : Nat} {state : σ} {c : Constraint}
    (member : c ∈ (randomConstraints generator width count state).1) :
    ∃ seed, c = .third (randomWeights generator 10 width seed).1 := by
  induction count generalizing state with
  | zero => simp [randomConstraints] at member
  | succ count ih =>
      rw [randomConstraints] at member
      rcases List.mem_cons.mp member with rfl | later
      · exact ⟨state, rfl⟩
      · exact ih later

@[simp]
theorem length_randomConstraints (generator : Generator σ) (width count : Nat) (state : σ) :
    (randomConstraints generator width count state).1.length = count := by
  induction count generalizing state with
  | zero => rfl
  | succ count ih => simp [randomConstraints, ih]

namespace Problem

/-- A shape of which there are random problems: there is a variable and no negative number of
constraints, and there is room for one weight per variable and for all constraints. -/
structure Drawable (width constraints : Int) : Prop where
  positive : 0 < width
  nonnegative : 0 ≤ constraints
  weights : Addressable wordSize width
  members : Addressable wordSize constraints

/-- Weights for which there is room have a sum in range. -/
theorem Drawable.weights_fit {width constraints : Int} (drawable : Drawable width constraints) :
    20 * width ≤ Int64.maxValue.toInt := by
  have room := drawable.weights
  rw [Addressable, wordSize, addressSpace] at room
  rw [Int64.toInt_maxValue]
  omega

/-- There is a random problem of every such shape. -/
theorem random_eq_ok (generator : Generator σ) {width constraints : Int}
    (drawable : Drawable width constraints) (state : σ) :
    Problem.random generator width constraints (some state) =
      .ok (⟨s!"random-{width}x{constraints}",
          some ⟨(randomWeights generator 20 width.toNat state).1⟩,
          some ⟨(randomConstraints generator width.toNat constraints.toNat
            (randomWeights generator 20 width.toNat state).2).1⟩⟩,
        (randomConstraints generator width.toNat constraints.toNat
          (randomWeights generator 20 width.toNat state).2).2) := by
  have shaped : ¬(width ≤ 0 ∨ constraints < 0) :=
    not_or.mpr ⟨Int.not_le.mpr drawable.positive, Int.not_lt.mpr drawable.nonnegative⟩
  rw [Problem.random, if_neg shaped,
    reserve_eq_ok (Int.le_of_lt drawable.positive) drawable.weights, ok_bind,
    reserve_eq_ok drawable.nonnegative drawable.members, ok_bind]
  rfl

theorem exists_random (generator : Generator σ) {width constraints : Int}
    (drawable : Drawable width constraints) (state : σ) :
    ∃ p rest, Problem.random generator width constraints (some state) = .ok (p, rest) :=
  ⟨_, _, random_eq_ok generator drawable state⟩

/-- More variables or constraints than there is room for make no random problem. -/
theorem random_eq_undefined (generator : Generator σ) {width constraints : Int}
    (positive : 0 < width) (nonnegative : 0 ≤ constraints)
    (beyond : ¬ Addressable wordSize width ∨ ¬ Addressable wordSize constraints) (state : σ) :
    Problem.random generator width constraints (some state) = .error .undefined := by
  have shaped : ¬(width ≤ 0 ∨ constraints < 0) := by omega
  rw [Problem.random, if_neg shaped]
  by_cases weights : Addressable wordSize width
  · rw [reserve_eq_ok (Int.le_of_lt positive) weights, ok_bind,
      reserve_eq_undefined (beyond.resolve_left (not_not_intro weights))]
    rfl
  · rw [reserve_eq_undefined weights]
    rfl

theorem drawable_of_random {width constraints : Int} {state rest : σ} {p : Problem}
    (generated : Problem.random generator width constraints (some state) = .ok (p, rest)) :
    Drawable width constraints := by
  rw [Problem.random] at generated
  by_cases shape : width ≤ 0 ∨ constraints < 0
  · rw [if_pos shape] at generated
    contradiction
  · rw [if_neg shape] at generated
    rcases bind_eq_ok_iff.mp generated with ⟨_, weights, more⟩
    rcases bind_eq_ok_iff.mp more with ⟨_, members, _⟩
    exact {
      positive := by omega
      nonnegative := by omega
      weights := (reserve_eq_ok_iff.mp weights).2
      members := (reserve_eq_ok_iff.mp members).2 }

/-- The parts of a random problem are random weights. -/
structure RandomParts (generator : Generator σ) (width count : Nat) (p : Problem) : Prop where
  nonempty : 0 < width
  objective : ∃ seed, p.objective = some ⟨(randomWeights generator 20 width seed).1⟩
  count : p.members.length = count
  members : ∀ c ∈ p.members, ∃ seed, c = .third (randomWeights generator 10 width seed).1

theorem randomParts_of_random {width constraints : Int} {state rest : σ} {p : Problem}
    (generated : Problem.random generator width constraints (some state) = .ok (p, rest)) :
    RandomParts generator width.toNat constraints.toNat p := by
  have drawable := drawable_of_random generated
  rw [random_eq_ok generator drawable] at generated
  obtain rfl := congrArg Prod.fst (Except.ok.inj generated)
  exact {
    nonempty := by
      have positive := drawable.positive
      omega
    objective := ⟨state, rfl⟩
    count := length_randomConstraints ..
    members := fun c member => exists_of_mem_randomConstraints member }

namespace RandomParts

variable {width count : Nat} {p : Problem}

theorem exists_weights (parts : RandomParts generator width count p) :
    ∃ seed, p.weights = (randomWeights generator 20 width seed).1 := by
  rcases parts.objective with ⟨seed, objective⟩
  exact ⟨seed, by rw [weights, objective]⟩

theorem length_weights (parts : RandomParts generator width count p) :
    p.weights.length = width := by
  rcases parts.exists_weights with ⟨seed, weights_eq⟩
  rw [weights_eq, length_randomWeights]

/-- A random problem can be searched. -/
theorem searchable (parts : RandomParts generator width count p) : p.Searchable where
  valid := by
    rcases parts.objective with ⟨seed, objective⟩
    refine validate_eq_ok_iff.mpr ⟨_, objective, ?_, ?_⟩
    · rw [Objective.length, length_randomWeights]
      exact parts.nonempty
    · intro c member
      rcases parts.members c member with ⟨later, rfl⟩
      simp [Constraint.length, Constraint.third, Objective.length]
  constructible := by
    intro c member
    rcases parts.members c member with ⟨seed, rfl⟩
    have nonempty : (randomWeights generator 10 width seed).1 ≠ [] := by
      rw [← List.length_pos_iff, length_randomWeights]
      exact parts.nonempty
    exact .built (Constraint.make_eq_ok_iff.mpr ⟨nonempty, rfl⟩)

end RandomParts

end Problem

/-! ## Random solutions -/

@[simp]
theorem length_randomBits (generator : Generator σ) (density : Float) (count : Nat) (state : σ) :
    (randomBits generator density count state).1.length = count := by
  induction count generalizing state with
  | zero => rfl
  | succ count ih => simp [randomBits, ih]

namespace Solution

@[simp]
theorem length_randoms (generator : Generator σ) (length : Nat) (density : Float) (count : Nat)
    (state : σ) : (randoms generator length density count state).1.length = count := by
  induction count generalizing state with
  | zero => rfl
  | succ count ih => simp [randoms, ih]

theorem length_of_mem_randoms {length count : Nat} {density : Float} {state : σ} {s : Solution}
    (member : s ∈ (randoms generator length density count state).1) : s.length = length := by
  induction count generalizing state with
  | zero => simp [randoms] at member
  | succ count ih =>
      rw [randoms] at member
      rcases List.mem_cons.mp member with rfl | later
      · exact length_randomBits generator density length state
      · exact ih later

/-- Asking for more solutions does not change the first ones. -/
theorem take_randoms (generator : Generator σ) (length : Nat) (density : Float) {count more : Nat}
    (fewer : count ≤ more) (state : σ) :
    (randoms generator length density more state).1.take count =
      (randoms generator length density count state).1 := by
  induction count generalizing more state with
  | zero => rfl
  | succ count ih =>
      cases more with
      | zero => omega
      | succ more =>
          rw [randoms, randoms, List.take_succ_cons, ih (Nat.le_of_succ_le_succ fewer)]

end Solution

end Ascent
