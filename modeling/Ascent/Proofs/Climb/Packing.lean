import Ascent.Proofs.Climb.Capping
import Ascent.Proofs.Climb.Monotonicity
import Ascent.Proofs.Random
import Mathlib.Data.List.Range

/-!
# Packing problems

In a packing problem every variable has a positive profit, and every constraint
limits a sum of weights that are not negative.  Turning a variable on is then the
only way to a higher fitness, and it can only violate more constraints.  So a climb
from a feasible start turns on one variable after the other, never turns one off,
and ends when no variable can be added.  A climb from an infeasible start cannot
move at all: what is violated stays violated.

Random problems are packing problems, so this is how a climb behaves on them.
-/

namespace Ascent

/-! ## Turning a variable on -/

namespace Solution

/-- One variable more is true. -/
def Adds (s t : Solution) : Prop :=
  ∃ k : Nat, s.bits[k]? = some false ∧ t.bits = s.bits.set k true

theorem getD_eq_false {s : Solution} {k : Nat} (off : s.bits[k]? = some false) :
    s.bits.getD k false = false := by
  rw [List.getD_eq_getElem?_getD, off, Option.getD_some]

/-- Inverting a false variable turns it on. -/
theorem bits_flipped_of_off {s : Solution} {k : Nat} (off : s.bits[k]? = some false) :
    (s.flipped k).bits = s.bits.set k true := by
  apply List.ext_getElem?
  intro i
  rcases Decidable.em (k = i) with rfl | distinct
  · have inside : k < s.bits.length := (List.getElem?_eq_some_iff.mp off).1
    rw [flipped, List.getElem?_modify_eq, off, List.getElem?_set_self inside]
    rfl
  · rw [flipped, List.getElem?_modify_ne _ _ distinct, List.getElem?_set_ne distinct]

theorem adds_flipped {s : Solution} {k : Nat} (off : s.bits[k]? = some false) :
    s.Adds (s.flipped k) :=
  ⟨k, off, bits_flipped_of_off off⟩

theorem Adds.ones {s t : Solution} (adds : s.Adds t) : t.ones = s.ones + 1 := by
  rcases adds with ⟨k, off, on⟩
  rcases List.getElem?_eq_some_iff.mp off with ⟨inside, value⟩
  rw [Solution.ones, Solution.ones, on, List.count_set inside, value]
  rfl

/-- A true variable stays true. -/
theorem Adds.keeps {s t : Solution} (adds : s.Adds t) {i : Nat} (on : s.bits[i]? = some true) :
    t.bits[i]? = some true := by
  rcases adds with ⟨k, off, bits⟩
  have distinct : k ≠ i := by
    rintro rfl
    rw [off] at on
    contradiction
  rw [bits, List.getElem?_set_ne distinct, on]

end Solution

namespace Problem

/-- Positive profits under limits on sums of weights that are not negative; no sum
wraps around. -/
structure Packing (p : Problem) : Prop where
  searchable : p.Searchable
  profits : ∀ profit ∈ p.weights, 0 < profit.toInt
  profitsFit : SumsFit p.weights
  limits : ∀ c ∈ p.members, c.operator = some .lessOrEqual
  weights : ∀ c ∈ p.members, ∀ weight ∈ c.weights, 0 ≤ weight.toInt
  weightsFit : ∀ c ∈ p.members, SumsFit c.weights

variable {p : Problem} {s : Solution}

/-- A limited sum, compared as integers. -/
theorem Packing.constraint_accepts_iff (packing : p.Packing) {c : Constraint}
    (member : c ∈ p.members) (width : s.length = c.weights.length) :
    c.accepts s = true ↔ exactSum c.weights s.bits ≤ c.threshold.toInt := by
  rw [Constraint.accepts, packing.limits c member]
  simp only [Operator.holds, decide_eq_true_eq]
  rw [Int64.le_iff_toInt_le, (packing.weightsFit c member).toInt_weightedSum width]

theorem Packing.member_width (packing : p.Packing) {c : Constraint} (member : c ∈ p.members) :
    c.weights.length = p.weights.length := by
  rcases validate_eq_ok_iff.mp packing.searchable.valid with ⟨o, objective, _, widths⟩
  have weights_eq : p.weights = o.weights := by rw [Problem.weights, objective]
  rw [weights_eq]
  exact widths c member

/-- Only turning a variable on raises the fitness. -/
theorem Packing.lt_flipped_iff (packing : p.Packing) (width : s.length = p.weights.length)
    {k : Nat} (inside : k < s.length) :
    p.value s < p.value (s.flipped k) ↔ s.bits[k]? = some false := by
  have found := List.getElem?_eq_getElem (l := s.bits) inside
  have profitHere := List.getElem?_eq_getElem (l := p.weights) (i := k) (by omega)
  have positive := packing.profits _ (List.mem_of_getElem? profitHere)
  rw [value_lt_flipped_iff packing.profitsFit width, exactGain, List.getD_eq_getElem?_getD,
    List.getD_eq_getElem?_getD, found, profitHere]
  cases s.bits[k] with
  | false => simpa using positive
  | true =>
      simp only [Option.getD_some, if_true, Option.some.injEq, Bool.true_eq_false, iff_false]
      omega

/-- Turning a variable on repairs nothing. -/
theorem Packing.accepts_of_flipped (packing : p.Packing) (width : s.length = p.weights.length)
    {k : Nat} (off : s.bits[k]? = some false) (accepted : p.accepts (s.flipped k) = true) :
    p.accepts s = true := by
  rw [accepts, List.all_eq_true] at accepted ⊢
  intro c member
  have memberWidth : s.length = c.weights.length := width.trans (packing.member_width member).symm
  have flippedWidth : (s.flipped k).length = c.weights.length := by
    rw [Solution.length_flipped, memberWidth]
  have below := (packing.constraint_accepts_iff member flippedWidth).mp (accepted c member)
  rw [Solution.flipped, exactSum_modify_not memberWidth, exactGain, Solution.getD_eq_false off,
    if_neg Bool.false_ne_true] at below
  have nonnegative : 0 ≤ (c.weights.getD k 0).toInt := by
    rw [List.getD_eq_getElem?_getD]
    cases found : c.weights[k]? with
    | none => exact Int.le_refl 0
    | some weight => exact packing.weights c member weight (List.mem_of_getElem? found)
  exact (packing.constraint_accepts_iff member memberWidth).mpr (by omega)

/-! ## Moves -/

theorem Packing.off_of_choice (packing : p.Packing) (width : s.length = p.weights.length)
    {k : Nat} (chosen : p.choice s = some k) : s.bits[k]? = some false := by
  rcases packing.searchable.of_choice_eq_some width chosen with ⟨inside, _, better⟩
  exact (packing.lt_flipped_iff width inside).mp better

/-- A move turns a variable on. -/
theorem Packing.adds_advance (packing : p.Packing) (width : s.length = p.weights.length)
    (moves : (p.choice s).isSome) : s.Adds (p.advance s) := by
  rcases Option.isSome_iff_exists.mp moves with ⟨k, chosen⟩
  rw [advance_of_choice_eq_some chosen]
  exact Solution.adds_flipped (packing.off_of_choice width chosen)

/-- From an infeasible solution there is no move. -/
theorem Packing.choice_of_infeasible (packing : p.Packing) (width : s.length = p.weights.length)
    (rejected : p.accepts s = false) : p.choice s = none := by
  cases chosen : p.choice s with
  | none => rfl
  | some k =>
      have accepted := (packing.searchable.of_choice_eq_some width chosen).2.1
      have repaired :=
        packing.accepts_of_flipped width (packing.off_of_choice width chosen) accepted
      rw [rejected] at repaired
      contradiction

/-- Where nothing is chosen, every variable more violates a constraint. -/
theorem Packing.exists_violated (packing : p.Packing) (width : s.length = p.weights.length)
    (settled : p.choice s = none) {k : Nat} (off : s.bits[k]? = some false) :
    ∃ c ∈ p.members, c.isFeasible ⟨s.bits.set k true⟩ = .ok false := by
  have inside : k < s.length := (List.getElem?_eq_some_iff.mp off).1
  have better := (packing.lt_flipped_iff width inside).mpr off
  have member := List.mem_of_getElem? (Solution.getElem?_neighbors inside)
  have rejected : ¬ p.accepts (s.flipped k) = true := fun accepted =>
    Int64.not_lt.mpr (packing.searchable.of_choice_eq_none width settled _ member accepted) better
  rw [accepts, List.all_eq_true] at rejected
  push Not at rejected
  rcases rejected with ⟨c, member, violated⟩
  have added : s.flipped k = ⟨s.bits.set k true⟩ := Solution.ext (Solution.bits_flipped_of_off off)
  have memberWidth : (s.flipped k).length = c.length := by
    rw [Solution.length_flipped, width, Constraint.length, packing.member_width member]
  refine ⟨c, member, ?_⟩
  rw [← added, Constraint.isFeasible_eq_accepts (packing.limits c member) memberWidth,
    Bool.eq_false_iff.mpr violated]

/-! ## The orbit -/

theorem Packing.adds_orbit (packing : p.Packing) (width : s.length = p.weights.length)
    {moves : Nat} (moving : p.Moving s moves) {i : Nat} (before : i < moves) :
    (p.orbit s i).Adds (p.orbit s (i + 1)) :=
  packing.adds_advance (orbit_width width i) (moving i before)

theorem Packing.ones_orbit (packing : p.Packing) (width : s.length = p.weights.length)
    {moves : Nat} (moving : p.Moving s moves) : (p.orbit s moves).ones = s.ones + moves := by
  induction moves with
  | zero => rfl
  | succ moves ih =>
      have earlier := ih fun i before => moving i (Nat.lt_succ_of_lt before)
      rw [(packing.adds_orbit width moving (Nat.lt_succ_self moves)).ones, earlier, Nat.add_assoc]

theorem Packing.keeps_orbit (packing : p.Packing) (width : s.length = p.weights.length)
    {moves : Nat} (moving : p.Moving s moves) {i : Nat} (on : s.bits[i]? = some true) :
    (p.orbit s moves).bits[i]? = some true := by
  induction moves with
  | zero => exact on
  | succ moves ih =>
      have earlier := ih fun i before => moving i (Nat.lt_succ_of_lt before)
      exact (packing.adds_orbit width moving (Nat.lt_succ_self moves)).keeps earlier

/-- An orbit that is infeasible at its start does not move. -/
theorem Packing.moves_of_infeasible (packing : p.Packing) (width : s.length = p.weights.length)
    (rejected : p.accepts s = false) {moves : Nat} (moving : p.Moving s moves) : moves = 0 := by
  by_contra moved
  have first := moving 0 (Nat.pos_of_ne_zero moved)
  rw [orbit_zero, packing.choice_of_infeasible width rejected] at first
  contradiction

end Problem

/-- A random problem is a packing problem. -/
theorem Problem.RandomParts.packing {σ : Type} {generator : Random.Generator σ}
    {width count : Nat} {p : Problem} (parts : Problem.RandomParts generator width count p)
    (inRange : generator.InRange)
    (few : 20 * (width : Int) ≤ Int64.maxValue.toInt) : p.Packing := by
  rcases parts.exists_weights with ⟨seed, weights_eq⟩
  have fewer : ((10 : Nat) : Int) * (width : Int) ≤ Int64.maxValue.toInt := by omega
  exact {
    searchable := parts.searchable
    profits := by
      intro profit member
      rw [weights_eq] at member
      have bounds := randomWeights_bounds inRange (by decide) (by decide) width seed profit member
      omega
    profitsFit := by
      rw [weights_eq]
      exact randomWeights_sumsFit inRange (by decide) (by decide) few seed
    limits := by
      intro c member
      rcases parts.members c member with ⟨later, rfl⟩
      rfl
    weights := by
      intro c member weight here
      rcases parts.members c member with ⟨later, rfl⟩
      have bounds := randomWeights_bounds inRange (by decide) (by decide) width later weight here
      omega
    weightsFit := by
      intro c member
      rcases parts.members c member with ⟨later, rfl⟩
      exact randomWeights_sumsFit inRange (by decide) (by decide) fewer later
  }

namespace Climb

variable {p : Problem} {s : Solution} {config : Config} {moves : Nat}

/-- A run to where the orbit stands still visits the places of the orbit. -/
theorem visited_runAt (searchable : p.Searchable) (width : s.length = p.weights.length)
    (settles : p.Settles s moves) :
    visited s (runAt p s (moves + 1) .localOptimum).steps =
      (List.range (moves + 1)).map (p.orbit s) := by
  have course : Course p (Config.default.capped 0) .never 0 s moves (moves + 1) .localOptimum :=
    Course.of_uncapped settles
  exact course.visited_eq searchable width

/-- On a packing problem the climb from a feasible start turns on one variable after
the other. -/
theorem isChain_visited (packing : p.Packing) (width : s.length = p.weights.length)
    (settles : p.Settles s moves) :
    (visited s (runAt p s (moves + 1) .localOptimum).steps).IsChain Solution.Adds := by
  rw [visited_runAt packing.searchable width settles, List.isChain_map,
    List.isChain_range_succ]
  exact fun i before => packing.adds_orbit width settles.moving before

/-- The climb on a random problem.  From a feasible start every move turns one
variable on, so the result has all variables of the start and as many more as there
were moves, and no further one can be turned on.  From an infeasible start there is
no move. -/
theorem solve_random_packs {σ : Type} {generator : Random.Generator σ}
    (inRange : generator.InRange) {width constraints : Int} {state rest : σ}
    (few : 20 * width ≤ Int64.maxValue.toInt)
    (generated : Problem.random generator width constraints (some state) = .ok (p, rest))
    (valid : config.validate = .ok ()) (uncapped : config.maxIterations = 0)
    {start : Solution} (sameWidth : (start.length : Int) = width) :
    ∃ run best, solve (some p) config .never (some start) = .ok run ∧ run.error = none ∧
      run.result.solution = some best ∧ best.length = start.length ∧
      ((p.feasible start = .ok true ∧ run.result.feasible = true ∧
        (visited start run.steps).IsChain Solution.Adds ∧
        (visited start run.steps).getLast? = some best ∧
        (∀ i : Nat, start.bits[i]? = some true → best.bits[i]? = some true) ∧
        run.result.iterations = (best.ones : Int) - start.ones + 1 ∧
        (∀ i : Nat, best.bits[i]? = some false →
          ∃ c ∈ p.members, c.isFeasible ⟨best.bits.set i true⟩ = .ok false)) ∨
      (p.feasible start = .ok false ∧ run.result.feasible = false ∧ best = start ∧
        run.result.iterations = 1 ∧ visited start run.steps = [start])) := by
  have parts := Problem.randomParts_of_random generated
  have packing : p.Packing := parts.packing inRange (by omega)
  have startWidth : start.length = p.weights.length := by
    rw [parts.length_weights]
    omega
  rcases exists_settles_solve packing.searchable startWidth valid uncapped with
    ⟨moves, settles, solved⟩
  have visitedPlaces := visited_runAt packing.searchable startWidth settles
  have standing : p.orbit start (moves + 1) = p.orbit start moves := by
    rw [Problem.orbit_succ, Problem.advance_of_choice_eq_none settles.settled]
  refine ⟨_, p.orbit start moves, solved, rfl, congrArg some standing, p.length_orbit start moves,
    ?_⟩
  rw [packing.searchable.feasible_eq startWidth, iterations_runAt]
  cases accepted : p.accepts start with
  | true =>
      left
      refine ⟨rfl, ?_, isChain_visited packing startWidth settles, ?_,
        fun i on => packing.keeps_orbit startWidth settles.moving on, ?_,
        fun i off => packing.exists_violated (Problem.orbit_width startWidth moves)
          settles.settled off⟩
      · change p.accepts (p.orbit start (moves + 1)) = true
        rw [standing]
        by_contra rejected
        have startRejected := (packing.searchable.accepts_orbit_eq_false_iff startWidth
          settles.moving).mp (Bool.eq_false_iff.mpr rejected)
        rw [accepted] at startRejected
        exact Bool.noConfusion startRejected.1
      · rw [visitedPlaces, List.range_succ, List.map_append, List.map_singleton,
          List.getLast?_concat]
      · rw [packing.ones_orbit startWidth settles.moving]
        omega
  | false =>
      right
      obtain rfl := packing.moves_of_infeasible startWidth accepted settles.moving
      refine ⟨rfl, ?_, rfl, rfl, visitedPlaces⟩
      change p.accepts (p.orbit start 1) = false
      rw [standing, Problem.orbit_zero, accepted]

/-- A problem of four items, of which the heaviest one does not fit. -/
def fourItems : Problem where
  name := "random-4x1"
  objective := some ⟨[10, 5, 15, 3]⟩
  constraints := some ⟨[⟨[2, 1, 6, 2], some .lessOrEqual, 3⟩]⟩

/-- Numbers of 63 bits from which these items are drawn. -/
def fourItemsSource : Random.Source :=
  .listed #[38654705664, 17179869184, 60129542144, 8589934592, 4294967296, 0, 21474836480,
    4294967296] 0

/-- From the start without items the climb takes two of them; from the start with all
items it cannot move. -/
theorem solve_random_packs_fourItems :
    (∃ rest, Problem.random Random.Source.generator 4 1 (some fourItemsSource) =
      .ok (fourItems, rest)) ∧
    (∃ run, solve (some fourItems) .default .never (some (.zeros 4)) = .ok run ∧
      run.result.solution = some (.ofInts [1, 1, 0, 0]) ∧ run.result.iterations = 3 ∧
      (visited (.zeros 4) run.steps).IsChain Solution.Adds) ∧
    ∃ run, solve (some fourItems) .default .never (some (.ofInts [1, 1, 1, 1])) = .ok run ∧
      run.result.feasible = false ∧ run.result.iterations = 1 ∧
      visited (.ofInts [1, 1, 1, 1]) run.steps = [.ofInts [1, 1, 1, 1]] := by
  have valid : Config.default.validate = .ok () := rfl
  have generated : ∃ rest, Problem.random Random.Source.generator 4 1 (some fourItemsSource) =
      .ok (fourItems, rest) := ⟨_, rfl⟩
  refine ⟨generated, ?_, ?_⟩
  · rcases generated with ⟨rest, generated⟩
    rcases solve_random_packs Random.Source.generator_inRange (by decide) generated valid rfl
        (rfl : ((Solution.zeros 4).length : Int) = 4) with
      ⟨run, best, solved, _, _, _, ⟨_, _, chain, _⟩ | ⟨infeasible, _⟩⟩
    · have evaluated : (solve (some fourItems) .default .never (some (.zeros 4))).map
          (fun run => (run.result.solution, run.result.iterations)) =
            .ok (some (.ofInts [1, 1, 0, 0]), 3) := rfl
      rw [solved] at evaluated
      have values := Except.ok.inj evaluated
      exact ⟨run, solved, congrArg Prod.fst values, congrArg Prod.snd values, chain⟩
    · have feasible : fourItems.feasible (.zeros 4) = .ok true := rfl
      rw [feasible] at infeasible
      contradiction
  · rcases generated with ⟨rest, generated⟩
    rcases solve_random_packs Random.Source.generator_inRange (by decide) generated valid rfl
        (rfl : ((Solution.ofInts [1, 1, 1, 1]).length : Int) = 4) with
      ⟨run, best, solved, _, _, _, ⟨feasible, _⟩ | ⟨_, stuck, _, iterations, still⟩⟩
    · have infeasible : fourItems.feasible (.ofInts [1, 1, 1, 1]) = .ok false := rfl
      rw [infeasible] at feasible
      contradiction
    · exact ⟨run, solved, stuck, iterations, still⟩

end Climb

end Ascent
