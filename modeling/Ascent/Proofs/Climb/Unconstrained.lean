import Ascent.Proofs.Climb.Capping
import Ascent.Proofs.ExactSum

/-!
# Climbing without constraints

If nothing restricts the moves and no sum of weights wraps around, a climb finds
the best solution there is.  A variable is misplaced when it is false although its
weight is positive, or true although it is negative.  The gain of a misplaced
variable is the size of its weight, every other gain is zero or negative, and a
move changes no gain but its own.  So the improvable variables are the misplaced
ones, each move takes exactly one of them away, and the climb ends when none is
left.

The order of the moves is determined as well.  Every move takes the misplaced
variable with the largest weight by size, and of several such variables the first
one.
-/

namespace Ascent

/-! ## Misplaced variables -/

/-- A variable that is false under a positive weight or true under a negative one. -/
def Misplaced (weights : List Int64) (values : List Bool) (i : Nat) : Prop :=
  (0 < weights.getD i 0 ∧ values.getD i false = false) ∨
    (weights.getD i 0 < 0 ∧ values.getD i false = true)

instance (weights : List Int64) (values : List Bool) :
    DecidablePred (Misplaced weights values) :=
  fun _ => inferInstanceAs (Decidable (_ ∨ _))

/-- All misplaced variables. -/
def misplaced (weights : List Int64) (values : List Bool) : Finset Nat :=
  (Finset.range weights.length).filter (Misplaced weights values)

/-- A variable goes before another one if its weight is larger by size, or if it is
the first one of two weights of equal size. -/
def Precedes (weights : List Int64) (k l : Nat) : Prop :=
  (weights.getD l 0).toInt.natAbs < (weights.getD k 0).toInt.natAbs ∨
    ((weights.getD k 0).toInt.natAbs = (weights.getD l 0).toInt.natAbs ∧ k < l)

variable {weights : List Int64} {values : List Bool}

theorem Precedes.ne {k l : Nat} (precedes : Precedes weights k l) : k ≠ l := by
  rintro rfl
  rcases precedes with larger | ⟨_, before⟩
  · exact Nat.lt_irrefl _ larger
  · exact Nat.lt_irrefl _ before

theorem misplaced_iff_toInt {i : Nat} :
    Misplaced weights values i ↔
      (0 < (weights.getD i 0).toInt ∧ values.getD i false = false) ∨
        ((weights.getD i 0).toInt < 0 ∧ values.getD i false = true) := by
  rw [Misplaced, Int64.lt_iff_toInt_lt, Int64.lt_iff_toInt_lt, Int64.toInt_zero]

/-- Exactly the misplaced variables have a positive gain. -/
theorem exactGain_pos_iff {i : Nat} :
    0 < exactGain weights values i ↔ Misplaced weights values i := by
  rw [misplaced_iff_toInt, exactGain]
  cases values.getD i false with
  | false => simp
  | true => simp

/-- The gain of a misplaced variable is the size of its weight. -/
theorem Misplaced.exactGain_eq {i : Nat} (wrong : Misplaced weights values i) :
    exactGain weights values i = (weights.getD i 0).toInt.natAbs := by
  rcases misplaced_iff_toInt.mp wrong with ⟨positive, off⟩ | ⟨negative, on⟩
  · rw [exactGain, off, if_neg Bool.false_ne_true]
    omega
  · rw [exactGain, on, if_pos rfl]
    omega

/-- A misplaced variable has a weight. -/
theorem mem_misplaced_iff {i : Nat} :
    i ∈ misplaced weights values ↔ Misplaced weights values i := by
  rw [misplaced, Finset.mem_filter, Finset.mem_range]
  constructor
  · exact fun member => member.2
  · intro wrong
    refine ⟨?_, wrong⟩
    by_contra beyond
    simp [Misplaced, List.getD_eq_getElem?_getD, Nat.not_lt.mp beyond] at wrong

theorem misplaced_cons_succ (weight : Int64) (value : Bool) (i : Nat) :
    Misplaced (weight :: weights) (value :: values) (i + 1) ↔ Misplaced weights values i := by
  simp [Misplaced]

/-! ## The largest sum -/

/-- The sum of the positive weights. -/
def positiveSum : List Int64 → Int
  | [] => 0
  | weight :: weights => (if 0 < weight.toInt then weight.toInt else 0) + positiveSum weights

/-- No choice of variables has a larger sum than the positive weights. -/
theorem exactSum_le_positiveSum (sameLength : values.length = weights.length) :
    exactSum weights values ≤ positiveSum weights := by
  induction weights generalizing values with
  | nil => simp [exactSum, positiveSum]
  | cons weight weights ih =>
      cases values with
      | nil => simp at sameLength
      | cons value values =>
          have tailLength : values.length = weights.length := by simpa using sameLength
          have rest := ih tailLength
          rw [exactSum, positiveSum]
          split <;> split <;> omega

/-- Without a misplaced variable the sum is the largest one. -/
theorem exactSum_eq_positiveSum (sameLength : values.length = weights.length)
    (placed : ∀ i, ¬ Misplaced weights values i) :
    exactSum weights values = positiveSum weights := by
  induction weights generalizing values with
  | nil => simp [exactSum, positiveSum]
  | cons weight weights ih =>
      cases values with
      | nil => simp at sameLength
      | cons value values =>
          have restPlaced : ∀ i, ¬ Misplaced weights values i :=
            fun i wrong => placed (i + 1) ((misplaced_cons_succ weight value i).mpr wrong)
          have rest := ih (by simpa using sameLength) restPlaced
          have first := placed 0
          rw [misplaced_iff_toInt] at first
          simp only [List.getD_cons_zero, not_or, not_and] at first
          rw [exactSum, positiveSum, rest]
          cases value with
          | false =>
              have notPositive : ¬ 0 < weight.toInt := fun positive => first.1 positive rfl
              simp [notPositive]
          | true =>
              have notNegative : ¬ weight.toInt < 0 := fun negative => first.2 negative rfl
              simp only [if_true]
              split <;> omega

/-! ## Moves -/

namespace Problem

variable {p : Problem} {s : Solution}

theorem accepts_of_unconstrained (unconstrained : p.members = []) (s : Solution) :
    p.accepts s = true := by
  rw [accepts, unconstrained, List.all_nil]

/-- What is improvable is misplaced. -/
theorem improvable_eq_misplaced (fit : SumsFit p.weights) (width : s.length = p.weights.length) :
    p.improvable s = misplaced p.weights s.bits := by
  ext k
  rw [mem_improvable, misplaced, Finset.mem_filter, Finset.mem_range, width,
    value_lt_flipped_iff fit width, exactGain_pos_iff]

/-- The chosen variable is misplaced and goes before every other misplaced one. -/
theorem Searchable.choice_precedes (searchable : p.Searchable) (fit : SumsFit p.weights)
    (unconstrained : p.members = []) (width : s.length = p.weights.length) {k l : Nat}
    (chosen : p.choice s = some k) (wrong : l ∈ p.improvable s) (distinct : k ≠ l) :
    Precedes p.weights k l := by
  have kWrong := searchable.mem_improvable_of_choice width chosen
  have selects := searchable.choice_selects width
  rw [chosen] at selects
  cases selects with
  | candidate firstBest =>
      rcases Solution.getElem?_neighbors_eq_some_iff.mp firstBest.here with ⟨_, rfl⟩
      have lInside := (mem_improvable.mp wrong).1
      have found := Solution.getElem?_neighbors lInside
      have accepted := accepts_of_unconstrained unconstrained (s.flipped l)
      have notHigher := firstBest.best _ (List.mem_of_getElem? found) accepted
      have lower : l < k → p.value (s.flipped l) < p.value (s.flipped k) :=
        fun before => firstBest.first l _ before found accepted
      rw [← Int64.not_lt, value_flipped_lt_iff fit width] at notHigher
      rw [value_flipped_lt_iff fit width] at lower
      rw [improvable_eq_misplaced fit width, mem_misplaced_iff] at kWrong wrong
      rw [kWrong.exactGain_eq, wrong.exactGain_eq] at notHigher lower
      rw [Precedes]
      omega

/-- Where nothing is chosen nothing is misplaced. -/
theorem Searchable.improvable_of_settled (searchable : p.Searchable)
    (unconstrained : p.members = []) (width : s.length = p.weights.length)
    (settled : p.choice s = none) : p.improvable s = ∅ := by
  rw [Finset.eq_empty_iff_forall_notMem]
  intro k member
  rcases mem_improvable.mp member with ⟨inside, better⟩
  have found := List.mem_of_getElem? (Solution.getElem?_neighbors inside)
  have accepted := accepts_of_unconstrained unconstrained (s.flipped k)
  exact Int64.not_lt.mpr (searchable.of_choice_eq_none width settled _ found accepted) better

/-- A move takes away its own variable and no other one. -/
theorem improvable_advance (fit : SumsFit p.weights) (width : s.length = p.weights.length)
    {k : Nat} (chosen : p.choice s = some k) (raises : k ∈ p.improvable s) :
    p.improvable (p.advance s) = (p.improvable s).erase k := by
  have better := (mem_improvable.mp raises).2
  rw [advance_of_choice_eq_some chosen]
  apply Finset.Subset.antisymm (improvable_flipped_subset width better)
  intro j member
  rcases Finset.mem_erase.mp member with ⟨distinct, wrong⟩
  rcases mem_improvable.mp wrong with ⟨inside, raised⟩
  have flippedWidth : (s.flipped k).length = p.weights.length := by
    rw [Solution.length_flipped, width]
  have sameGain : exactGain p.weights (s.flipped k).bits j = exactGain p.weights s.bits j := by
    simp [exactGain, Solution.flipped, List.getD_eq_getElem?_getD, Ne.symm distinct]
  rw [value_lt_flipped_iff fit width, ← sameGain, ← value_lt_flipped_iff fit flippedWidth]
    at raised
  exact mem_improvable.mpr ⟨by rwa [Solution.length_flipped], raised⟩

/-! ## The variables inverted along an orbit -/

/-- The variables that the first `count` places of an orbit invert, in order. -/
def flips (p : Problem) (s : Solution) (count : Nat) : List Nat :=
  (List.range count).filterMap fun i => p.choice (p.orbit s i)

theorem flips_succ (p : Problem) (s : Solution) (count : Nat) :
    p.flips s (count + 1) = p.flips s count ++ (p.choice (p.orbit s count)).toList := by
  rw [flips, List.range_succ, List.filterMap_append, flips]
  cases chosen : p.choice (p.orbit s count) with
  | none => simp [chosen]
  | some k => simp [chosen]

theorem flips_succ_of_settled {count : Nat} (settled : p.choice (p.orbit s count) = none) :
    p.flips s (count + 1) = p.flips s count := by
  rw [flips_succ, settled, Option.toList_none, List.append_nil]

theorem length_flips {moves : Nat} (moving : p.Moving s moves) :
    (p.flips s moves).length = moves := by
  induction moves with
  | zero => rfl
  | succ moves ih =>
      rcases Option.isSome_iff_exists.mp (moving moves (Nat.lt_succ_self moves)) with ⟨k, chosen⟩
      rw [flips_succ, chosen, List.length_append,
        ih fun i before => moving i (Nat.lt_succ_of_lt before)]
      rfl

/-- An improvable variable is inverted at some place of the orbit or stays
improvable. -/
theorem Searchable.mem_improvable_iff_flips (searchable : p.Searchable) (fit : SumsFit p.weights)
    (width : s.length = p.weights.length) (count k : Nat) :
    k ∈ p.improvable s ↔ k ∈ p.flips s count ∨ k ∈ p.improvable (p.orbit s count) := by
  induction count with
  | zero => simp [flips]
  | succ count ih =>
      rw [ih, flips_succ, List.mem_append, or_assoc]
      apply or_congr_right
      cases chosen : p.choice (p.orbit s count) with
      | none => simp [orbit_succ, advance_of_choice_eq_none chosen]
      | some l =>
          have widthHere := orbit_width (p := p) width count
          have raises := searchable.mem_improvable_of_choice widthHere chosen
          rw [orbit_succ, improvable_advance fit widthHere chosen raises, Option.toList_some,
            List.mem_singleton, Finset.mem_erase]
          by_cases same : k = l
          · simp [same, raises]
          · simp [same]

/-- The variables are inverted in the order of their weights by size. -/
theorem Searchable.flips_pairwise (searchable : p.Searchable) (fit : SumsFit p.weights)
    (unconstrained : p.members = []) (width : s.length = p.weights.length) (count : Nat) :
    (p.flips s count).Pairwise (Precedes p.weights) := by
  rw [flips, List.pairwise_filterMap]
  apply List.pairwise_lt_range.imp
  intro i j before k chosen l later
  have wrongLater := searchable.mem_improvable_of_choice (orbit_width width j) later
  -- The later variable is already misplaced at the earlier place.
  have wrong := searchable.improvable_orbit_subset width (Nat.le_of_lt before) wrongLater
  exact searchable.choice_precedes fit unconstrained (orbit_width width i) chosen wrong
    (searchable.choice_orbit_ne width before chosen later)

/-- An orbit that stands still has inverted every improvable variable. -/
theorem Searchable.mem_flips_iff (searchable : p.Searchable) (fit : SumsFit p.weights)
    (unconstrained : p.members = []) (width : s.length = p.weights.length) {moves : Nat}
    (settles : p.Settles s moves) (k : Nat) : k ∈ p.flips s moves ↔ k ∈ p.improvable s := by
  have nothingLeft := searchable.improvable_of_settled unconstrained (orbit_width width moves)
    settles.settled
  rw [searchable.mem_improvable_iff_flips fit width moves k, nothingLeft]
  simp

/-- So it has moved once for each of them. -/
theorem Searchable.card_improvable_eq (searchable : p.Searchable) (fit : SumsFit p.weights)
    (unconstrained : p.members = []) (width : s.length = p.weights.length) {moves : Nat}
    (settles : p.Settles s moves) : (p.improvable s).card = moves := by
  have once : (p.flips s moves).Nodup :=
    (searchable.flips_pairwise fit unconstrained width moves).imp Precedes.ne
  have same : (p.flips s moves).toFinset = p.improvable s := by
    ext k
    rw [List.mem_toFinset, searchable.mem_flips_iff fit unconstrained width settles]
  rw [← same, List.toFinset_card_of_nodup once, length_flips settles.moving]

/-- A variable that is not misplaced at the start keeps its value. -/
theorem Searchable.getElem?_orbit_of_placed (searchable : p.Searchable)
    (width : s.length = p.weights.length) {k : Nat} (placed : k ∉ p.improvable s) (count : Nat) :
    (p.orbit s count).bits[k]? = s.bits[k]? := by
  induction count with
  | zero => rfl
  | succ count ih =>
      rw [orbit_succ, ← ih]
      cases chosen : p.choice (p.orbit s count) with
      | none => rw [advance_of_choice_eq_none chosen]
      | some l =>
          have wrong := searchable.mem_improvable_of_choice (orbit_width width count) chosen
          have distinct : l ≠ k := by
            rintro rfl
            exact placed (searchable.improvable_orbit_subset width (Nat.zero_le count) wrong)
          rw [advance_of_choice_eq_some chosen, Solution.flipped,
            List.getElem?_modify_ne _ _ distinct]

end Problem

namespace Climb

variable {p : Problem} {s : Solution} {config : Config}

/-- The selected variables of the steps that move are those inverted along the
orbit. -/
theorem selected_steps_trailAt (p : Problem) (first : Nat) (s : Solution) (count : Nat)
    (stop : Stop) :
    ((trailAt p first s count stop).steps.filter fun step => !step.terminal).map Step.selected =
      (p.flips s count).map fun (k : Nat) => (k : Int) := by
  induction count with
  | zero => rfl
  | succ count ih =>
      have split := steps_trailAt_add p first s count 1 stop stop
      rw [split, List.filter_append, List.map_append, ih, Problem.flips_succ, List.map_append]
      congr 1
      cases chosen : p.choice (p.orbit s count) with
      | none => simp [trailAt, chosen]
      | some k => simp [trailAt, chosen, selected_stepAt chosen]

/-- The value that a variable with a given weight has in the end. -/
def settledValue (weight : Int64) (value : Bool) : Bool :=
  if 0 < weight then true else if weight < 0 then false else value

/-- A variable that is not misplaced has its settled value. -/
theorem settledValue_of_placed {weights : List Int64} {values : List Bool} {i : Nat}
    {weight : Int64} {value start : Bool} (placed : ¬ Misplaced weights values i)
    (weightHere : weights[i]? = some weight) (valueHere : values[i]? = some value)
    (kept : weight = 0 → value = start) : value = settledValue weight start := by
  simp only [Misplaced, List.getD_eq_getElem?_getD, weightHere, valueHere, Option.getD_some,
    not_or, not_and] at placed
  rw [settledValue]
  by_cases positive : 0 < weight
  · rw [if_pos positive]
    exact Bool.not_eq_false _ ▸ placed.1 positive
  · rw [if_neg positive]
    by_cases negative : weight < 0
    · rw [if_pos negative]
      exact Bool.not_eq_true _ ▸ placed.2 negative
    · rw [if_neg negative]
      exact kept (Int64.le_antisymm (Int64.not_lt.mp positive) (Int64.not_lt.mp negative))

/-- A climb without a cap and without constraints, for weights whose sums do not
wrap around, returns the best solution there is: every variable has the value that
the sign of its weight asks for, or its first value if the weight is zero.  Its
moves invert exactly the misplaced variables, each of them once, in the order of
their weights by size. -/
theorem solve_unconstrained_exact {weights : List Int64} {start : Solution}
    (objective : p.objective = some ⟨weights⟩) (nonempty : weights ≠ [])
    (unconstrained : p.constraints = none ∨ p.constraints = some .empty)
    (fit : SumsFit weights) (valid : config.validate = .ok ())
    (uncapped : config.maxIterations = 0) (width : start.length = weights.length) :
    ∃ run best, solve (some p) config .never (some start) = .ok run ∧ run.error = none ∧
      run.result.solution = some best ∧ best.length = weights.length ∧
      (∀ (i : Nat) (weight : Int64) (value : Bool), weights[i]? = some weight →
        start.bits[i]? = some value → best.bits[i]? = some (settledValue weight value)) ∧
      p.fitness best = .ok run.result.fitness ∧
      run.result.fitness.toInt = positiveSum weights ∧
      (∀ t : Solution, t.length = weights.length →
        ∃ fitness, p.fitness t = .ok fitness ∧ fitness ≤ run.result.fitness) ∧
      run.result.iterations = 1 + (misplaced weights start.bits).card ∧
      ∃ order : List Nat,
        ((run.steps.filter fun step => !step.terminal).map Step.selected =
          order.map fun (k : Nat) => (k : Int)) ∧
        (∀ k, k ∈ order ↔ k ∈ misplaced weights start.bits) ∧
        order.Pairwise (Precedes weights) := by
  have noMembers : p.members = [] := by
    rcases unconstrained with missing | empty
    · rw [Problem.members, missing]
    · rw [Problem.members, empty, ConstraintSet.empty]
  have sameWeights : p.weights = weights := by rw [Problem.weights, objective]
  have searchable : p.Searchable := by
    refine ⟨Problem.validate_eq_ok_iff.mpr ⟨_, objective, List.length_pos_iff.mpr nonempty, ?_⟩, ?_⟩
    · simp [noMembers]
    · simp [noMembers]
  subst sameWeights
  rcases exists_settles_solve searchable width valid uncapped with ⟨moves, settles, solved⟩
  have lastWidth := Problem.orbit_width (p := p) width (moves + 1)
  have placed : ∀ i, ¬ Misplaced p.weights (p.orbit start (moves + 1)).bits i := by
    intro i wrong
    rw [Problem.orbit_succ, Problem.advance_of_choice_eq_none settles.settled] at wrong
    rw [← mem_misplaced_iff,
      ← Problem.improvable_eq_misplaced fit (Problem.orbit_width width moves),
      searchable.improvable_of_settled noMembers (Problem.orbit_width width moves)
        settles.settled] at wrong
    exact Finset.notMem_empty i wrong
  have fitness : (p.value (p.orbit start (moves + 1))).toInt = positiveSum p.weights := by
    rw [Problem.toInt_value fit lastWidth]
    exact exactSum_eq_positiveSum lastWidth placed
  have initial := Problem.improvable_eq_misplaced fit width
  refine ⟨_, p.orbit start (moves + 1), solved, rfl, rfl, lastWidth, ?_,
    searchable.fitness_eq lastWidth, fitness, ?_, ?_, p.flips start moves, ?_, ?_,
    searchable.flips_pairwise fit noMembers width moves⟩
  · intro i weight value weightHere valueHere
    have inside : i < (p.orbit start (moves + 1)).bits.length := by
      rcases List.getElem?_eq_some_iff.mp weightHere with ⟨bound, _⟩
      exact Nat.lt_of_lt_of_eq bound lastWidth.symm
    have lastHere := List.getElem?_eq_getElem inside
    rw [lastHere]
    congr 1
    apply settledValue_of_placed (placed i) weightHere lastHere
    rintro rfl
    have neutral : i ∉ p.improvable start := by
      rw [initial, mem_misplaced_iff]
      simp [Misplaced, List.getD_eq_getElem?_getD, weightHere]
    rw [searchable.getElem?_orbit_of_placed width neutral, valueHere] at lastHere
    exact (Option.some.inj lastHere).symm
  · intro t sameLength
    refine ⟨p.value t, searchable.fitness_eq sameLength, ?_⟩
    change p.value t ≤ p.value (p.orbit start (moves + 1))
    rw [Int64.le_iff_toInt_le, fitness, Problem.toInt_value fit sameLength]
    exact exactSum_le_positiveSum sameLength
  · rw [iterations_runAt, ← initial, searchable.card_improvable_eq fit noMembers width settles]
    omega
  · rw [steps_runAt, selected_steps_trailAt, Problem.flips_succ_of_settled settles.settled]
  · intro k
    rw [searchable.mem_flips_iff fit noMembers width settles, initial]

/-- A problem without constraints.  Turning its second variable off gains 2^63, which
is not a number of 64 bits. -/
def lopsided : Problem where
  name := "lopsided"
  objective := some ⟨[3, -9223372036854775808, 0, 5, 3]⟩
  constraints := none

theorem lopsided_sumsFit : SumsFit [3, -9223372036854775808, 0, 5, 3] := by
  intro values sameLength
  match values, sameLength with
  | [a, b, c, d, e], _ =>
      revert a b c d e
      decide

/-- Four of its variables are misplaced at this start, two of them under weights of
one size.  The variable without a weight stays as it is. -/
theorem solve_unconstrained_exact_lopsided :
    ∃ run, solve (some lopsided) .default .never (some (.ofInts [0, 1, 1, 0, 0])) = .ok run ∧
      run.result.solution = some (.ofInts [1, 0, 1, 1, 1]) ∧
      run.result.fitness.toInt = 11 ∧ run.result.iterations = 5 ∧
      (run.steps.filter fun step => !step.terminal).map Step.selected = [1, 3, 0, 4] ∧
      ∀ t : Solution, t.length = 5 →
        ∃ fitness, lopsided.fitness t = .ok fitness ∧ fitness ≤ run.result.fitness := by
  have valid : Config.default.validate = .ok () := rfl
  have width : (Solution.ofInts [0, 1, 1, 0, 0]).length =
    [3, -9223372036854775808, 0, 5, 3].length := rfl
  rcases solve_unconstrained_exact (p := lopsided) rfl (by decide) (Or.inl rfl) lopsided_sumsFit
      valid rfl width with
    ⟨run, best, solved, _, _, _, _, _, fitness, highest, iterations, _⟩
  have evaluated : (solve (some lopsided) .default .never
      (some (.ofInts [0, 1, 1, 0, 0]))).map (fun run => (run.result.solution,
        (run.steps.filter fun step => !step.terminal).map Step.selected)) =
          .ok (some (.ofInts [1, 0, 1, 1, 1]), [1, 3, 0, 4]) := rfl
  rw [solved] at evaluated
  have values := Except.ok.inj evaluated
  have largest : positiveSum [3, -9223372036854775808, 0, 5, 3] = 11 := by decide
  have wrong : (misplaced [3, -9223372036854775808, 0, 5, 3]
      (Solution.ofInts [0, 1, 1, 0, 0]).bits).card = 4 := by decide
  have count : run.result.iterations = 5 := by
    rw [iterations, wrong]
    rfl
  exact ⟨run, solved, congrArg Prod.fst values, fitness.trans largest, count,
    congrArg Prod.snd values, highest⟩

end Climb

end Ascent
