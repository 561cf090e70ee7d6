import Ascent.Proofs.Random
import Ascent.Random.Assembly

/-!
# What a random problem is made of

Putting a random problem together part by part never breaks down for another reason than a
lack of room: what was drawn is always good enough for the objective, the constraints and the
problem, so it gives what `Problem.random` gives.

Its draws can be listed in advance.  `drawBounds` has their bounds, those for the profits
first and then those for the weights of each constraint, and a problem is a function of the
numbers that are drawn below these bounds.  The generator is left in the state behind
exactly these draws.
-/

namespace Ascent

open Ascent.Random (Generator)

variable {σ : Type}

/-! ## Part by part -/

theorem slots_eq_ok {count : Int} (nonnegative : 0 ≤ count)
    (addressable : Addressable wordSize count) :
    slots count = .ok (List.replicate count.toNat 0) := by
  rw [slots, reserve_eq_ok nonnegative addressable]
  rfl

theorem copied_eq_ok {numbers : List Int64} (addressable : Addressable wordSize numbers.length) :
    copied numbers = .ok numbers := by
  rw [copied, reserve_eq_ok (Int.natCast_nonneg _) addressable]
  rfl

theorem store_append_cons (front rest : List Int64) (slot number : Int64) :
    store (front ++ slot :: rest) front.length number = .ok (front ++ number :: rest) := by
  have inside : front.length < (front ++ slot :: rest).length := by simp
  rw [store, if_pos inside, List.set_append_right _ _ (Nat.le_refl _), Nat.sub_self,
    List.set_cons_zero]

/-- The slots are filled from the front, and the total is the sum of the weights. -/
theorem fillFrom_eq (generator : Generator σ) (limit remaining : Nat) (front : List Int64)
    (total : Int64) (state : σ) :
    fillFrom generator limit remaining front.length (front ++ List.replicate remaining 0) total
        state =
      .ok (front ++ (randomWeights generator limit remaining state).1,
        total + (randomWeights generator limit remaining state).1.sum,
        (randomWeights generator limit remaining state).2) := by
  induction remaining generalizing front total state with
  | zero => simp [fillFrom, randomWeights]
  | succ remaining ih =>
      rcases drawn : generator.below limit state with ⟨draw, next⟩
      -- After this slot one more weight stands in front, and one zero less behind it.
      have later := ih (front ++ [1 + Int64.ofNat draw]) (total + (1 + Int64.ofNat draw)) next
      rw [List.length_append, List.length_singleton, List.append_assoc, List.append_assoc,
        List.singleton_append, List.singleton_append] at later
      rw [fillFrom, randomWeights, drawn, List.replicate_succ]
      simp only [store_append_cons, ok_bind, List.getElem?_append_right (Nat.le_refl _),
        Nat.sub_self, List.getElem?_cons_zero, present_some, later, List.sum_cons,
        Int64.add_assoc]

theorem drawWeights_eq (generator : Generator σ) (limit : Nat) {width : Int}
    (nonnegative : 0 ≤ width) (addressable : Addressable wordSize width) (state : σ) :
    drawWeights generator limit width state =
      .ok ((randomWeights generator limit width.toNat state).1,
        (randomWeights generator limit width.toNat state).1.sum,
        (randomWeights generator limit width.toNat state).2) := by
  have filled := fillFrom_eq generator limit width.toNat [] 0 state
  rw [List.nil_append, List.nil_append, Int64.zero_add] at filled
  rw [drawWeights, slots_eq_ok nonnegative addressable, ok_bind, List.length_replicate]
  exact filled

theorem Constraint.ofSymbol_eq_third {weights : List Int64} (nonempty : weights ≠ []) :
    ofSymbol weights Operator.lessOrEqual.symbol (weights.sum / 3) = .ok (third weights) :=
  make_eq_ok_iff.mpr ⟨nonempty, rfl⟩

section Drawn

variable (generator : Generator σ) {width : Int} (positive : 0 < width)
  (addressable : Addressable wordSize width)
include positive addressable

/-- Drawn weights are as many as there are variables, so there is room for another copy. -/
theorem copied_randomWeights (limit : Nat) (state : σ) :
    copied (randomWeights generator limit width.toNat state).1 =
      .ok (randomWeights generator limit width.toNat state).1 := by
  apply copied_eq_ok
  rw [length_randomWeights, Int.toNat_of_nonneg (Int.le_of_lt positive)]
  exact addressable

omit addressable in
theorem randomWeights_ne_nil (limit : Nat) (state : σ) :
    (randomWeights generator limit width.toNat state).1 ≠ [] := by
  rw [← List.length_pos_iff, length_randomWeights]
  omega

/-- A drawn constraint is made and, if there is room, added behind those that are there. -/
theorem assembleDrawn_succ (count : Nat) (cs : ConstraintSet) (state : σ) :
    assembleDrawn generator width (count + 1) cs state =
      (reserve wordSize (cs.members.length + 1) >>= fun _ =>
        assembleDrawn generator width count
          ⟨cs.members ++ [.third (randomWeights generator 10 width.toNat state).1]⟩
          (randomWeights generator 10 width.toNat state).2) := by
  have made := Constraint.ofSymbol_eq_third (randomWeights_ne_nil generator positive 10 state)
  rw [assembleDrawn, drawWeights_eq generator 10 (Int.le_of_lt positive) addressable, ok_bind]
  dsimp only
  rw [copied_randomWeights generator positive addressable, ok_bind, made, report_ok, insist_ok,
    ok_bind]
  rfl

/-- All drawn constraints stand in the end behind those that were there. -/
theorem assembleDrawn_eq_ok {count : Nat} {cs : ConstraintSet}
    (room : Addressable wordSize (cs.members.length + count)) (state : σ) :
    assembleDrawn generator width count cs state =
      .ok (⟨cs.members ++ (randomConstraints generator width.toNat count state).1⟩,
        (randomConstraints generator width.toNat count state).2) := by
  induction count generalizing cs state with
  | zero => simp [assembleDrawn, randomConstraints]
  | succ count ih =>
      rw [Int.natCast_succ] at room
      have next : Addressable wordSize (cs.members.length + 1) := room.of_le (by omega)
      rw [assembleDrawn_succ generator positive addressable, reserve_eq_ok (by omega) next,
        ok_bind, ih (room.of_le (by simp; omega)), randomConstraints, List.append_assoc,
        List.singleton_append]

/-- A set that outgrows its room cannot be put together. -/
theorem assembleDrawn_eq_undefined {count : Nat} {cs : ConstraintSet}
    (room : Addressable wordSize cs.members.length)
    (beyond : ¬ Addressable wordSize (cs.members.length + count)) (state : σ) :
    assembleDrawn generator width count cs state = .error .undefined := by
  induction count generalizing cs state with
  | zero => exact absurd (room.of_le (by simp)) beyond
  | succ count ih =>
      rw [assembleDrawn_succ generator positive addressable]
      by_cases next : Addressable wordSize (cs.members.length + 1)
      · rw [reserve_eq_ok (by omega) next, ok_bind]
        apply ih
        · simpa using next
        · exact fun room => beyond (room.of_le (by simp; omega))
      · rw [reserve_eq_undefined next]
        rfl

end Drawn

theorem Objective.make_eq_ok {weights : List Int64} (nonempty : weights ≠ []) :
    Objective.make weights = .ok ⟨weights⟩ := by
  simp [make, nonempty]

namespace Problem

/-- What is checked of a problem does not depend on its name. -/
theorem make_eq_ok {name : String} {objective : Option Objective} {cs : ConstraintSet}
    (valid : validate (some ⟨name, objective, some cs⟩) = .ok ()) :
    make objective (some cs) = .ok ⟨"", objective, some cs⟩ := by
  have unnamed : validate (some ⟨"", objective, some cs⟩) = .ok () := valid
  rw [make, Option.getD_some, unnamed]
  rfl

/-- The objective is made of the profits, and then the constraints are drawn. -/
theorem assembleRandom_eq_drawn (generator : Generator σ) {width constraints : Int}
    (positive : 0 < width) (nonnegative : 0 ≤ constraints)
    (addressable : Addressable wordSize width) (state : σ) :
    assembleRandom generator width constraints (some state) = do
      let (cs, rest) ← assembleDrawn generator width constraints.toNat .empty
        (randomWeights generator 20 width.toNat state).2
      reserve wordSize cs.members.length
      let p ← insist (report
        (make (some ⟨(randomWeights generator 20 width.toNat state).1⟩) (some cs)))
      return ({ p with name := s!"random-{width}x{constraints}" }, rest) := by
  have shaped : ¬(width ≤ 0 ∨ constraints < 0) := by omega
  rw [assembleRandom, if_neg shaped,
    drawWeights_eq generator 20 (Int.le_of_lt positive) addressable]
  simp only [ok_bind, copied_randomWeights generator positive addressable,
    Objective.make_eq_ok (randomWeights_ne_nil generator positive 20 state), report_ok, insist_ok]

/-- A problem of a shape of which there are random problems is put together. -/
theorem assembleRandom_eq_random (generator : Generator σ) {width constraints : Int}
    (drawable : Drawable width constraints) (state : σ) :
    assembleRandom generator width constraints (some state) =
      random generator width constraints (some state) := by
  have members : Addressable wordSize ((constraints.toNat : Nat) : Int) := by
    rw [Int.toNat_of_nonneg drawable.nonnegative]
    exact drawable.members
  have assembled : assembleDrawn generator width constraints.toNat .empty
      (randomWeights generator 20 width.toNat state).2 =
        .ok (⟨(randomConstraints generator width.toNat constraints.toNat
          (randomWeights generator 20 width.toNat state).2).1⟩, _) :=
    assembleDrawn_eq_ok generator drawable.positive drawable.weights
      (members.of_le (Int.le_of_eq (Int.zero_add _))) _
  have valid := (randomParts_of_random (random_eq_ok generator drawable state)).searchable.valid
  rw [assembleRandom_eq_drawn generator drawable.positive drawable.nonnegative drawable.weights,
    random_eq_ok generator drawable]
  simp only [assembled, ok_bind, length_randomConstraints,
    reserve_eq_ok (Int.natCast_nonneg _) members, make_eq_ok valid, report_ok, insist_ok,
    pure_eq_ok]

/-- No point is reached at which putting a random problem together could break down, other
than those at which a random problem is refused. -/
theorem assembleRandom_eq (generator : Generator σ) (width constraints : Int)
    (state? : Option σ) :
    assembleRandom generator width constraints state? =
      random generator width constraints state? := by
  cases state? with
  | none => rfl
  | some state =>
      by_cases shape : width ≤ 0 ∨ constraints < 0
      · rw [assembleRandom, random, if_pos shape, if_pos shape]
      · have positive : 0 < width := by omega
        have nonnegative : 0 ≤ constraints := by omega
        by_cases weights : Addressable wordSize width
        · by_cases members : Addressable wordSize constraints
          · exact assembleRandom_eq_random generator
              ⟨positive, nonnegative, weights, members⟩ state
          · have count : constraints ≤
                (ConstraintSet.empty.members.length : Int) + constraints.toNat := by
              rw [Int.toNat_of_nonneg nonnegative]
              exact Int.le_add_of_nonneg_left (Int.natCast_nonneg _)
            have beyond := fun room => members (Addressable.of_le count room)
            rw [random_eq_undefined generator positive nonnegative (.inr members),
              assembleRandom_eq_drawn generator positive nonnegative weights,
              assembleDrawn_eq_undefined generator positive weights (by decide) beyond]
            rfl
        · rw [random_eq_undefined generator positive nonnegative (.inl weights), assembleRandom,
            if_neg shape, drawWeights, slots, reserve_eq_undefined weights]
          rfl

end Problem

/-! ## Draws -/

namespace Random

/-- Draw below one bound after the other. -/
def Generator.belowEach (generator : Generator σ) : List Nat → σ → List Nat × σ
  | [], state => ([], state)
  | bound :: bounds, state =>
      let (draw, state) := generator.below bound state
      let (draws, state) := generator.belowEach bounds state
      (draw :: draws, state)

/-- A draw, as it was asked for and answered. -/
inductive Draw where
  | below (bound value : Nat)
  | unit (value : Float)

/-- The same generator, which also keeps a list of all draws. -/
def Generator.recorded (generator : Generator σ) : Generator (σ × List Draw) where
  below bound state :=
    let (value, next) := generator.below bound state.1
    (value, next, state.2 ++ [.below bound value])
  unit state :=
    let (value, next) := generator.unit state.1
    (value, next, state.2 ++ [.unit value])

variable (generator : Generator σ)

@[simp]
theorem recorded_below (bound : Nat) (state : σ) (past : List Draw) :
    generator.recorded.below bound (state, past) =
      ((generator.below bound state).1, (generator.below bound state).2,
        past ++ [.below bound (generator.below bound state).1]) :=
  rfl

@[simp]
theorem length_belowEach (bounds : List Nat) (state : σ) :
    (generator.belowEach bounds state).1.length = bounds.length := by
  induction bounds generalizing state with
  | nil => rfl
  | cons bound bounds ih => simp [Generator.belowEach, ih]

theorem belowEach_append (bounds more : List Nat) (state : σ) :
    generator.belowEach (bounds ++ more) state =
      ((generator.belowEach bounds state).1 ++
          (generator.belowEach more (generator.belowEach bounds state).2).1,
        (generator.belowEach more (generator.belowEach bounds state).2).2) := by
  induction bounds generalizing state with
  | nil => rfl
  | cons bound bounds ih => simp [Generator.belowEach, ih]

/-- The record has all draws in their order. -/
theorem belowEach_recorded (bounds : List Nat) (state : σ) (past : List Draw) :
    generator.recorded.belowEach bounds (state, past) =
      ((generator.belowEach bounds state).1, (generator.belowEach bounds state).2,
        past ++ List.zipWith Draw.below bounds (generator.belowEach bounds state).1) := by
  induction bounds generalizing state past with
  | nil => simp [Generator.belowEach]
  | cons bound bounds ih => simp [Generator.belowEach, ih]

end Random

/-- The weight of a draw. -/
def drawnWeight (draw : Nat) : Int64 :=
  1 + Int64.ofNat draw

/-- The bounds of the draws for a random problem: those for the profits, then those for the
weights of the constraints. -/
def drawBounds (width count : Nat) : List Nat :=
  List.replicate width 20 ++ List.replicate (width * count) 10

/-- The constraints that take their weights from draws, one after the other. -/
def drawnConstraints (width count : Nat) (draws : List Nat) : List Constraint :=
  (List.range count).map fun k => .third (((draws.drop (width * k)).take width).map drawnWeight)

theorem randomWeights_eq (generator : Generator σ) (limit count : Nat) (state : σ) :
    randomWeights generator limit count state =
      ((generator.belowEach (List.replicate count limit) state).1.map drawnWeight,
        (generator.belowEach (List.replicate count limit) state).2) := by
  induction count generalizing state with
  | zero => rfl
  | succ count ih =>
      simp [randomWeights, List.replicate_succ, Random.Generator.belowEach, ih, drawnWeight]

theorem drawnConstraints_append (count : Nat) (draws later : List Nat) :
    drawnConstraints draws.length (count + 1) (draws ++ later) =
      .third (draws.map drawnWeight) :: drawnConstraints draws.length count later := by
  rw [drawnConstraints, List.range_succ_eq_map, List.map_cons, List.map_map, Nat.mul_zero,
    List.drop_zero, List.take_left, drawnConstraints]
  congr 1
  refine List.map_congr_left fun k _ => ?_
  rw [Function.comp_apply, Nat.mul_succ, Nat.add_comm, List.drop_length_add_append]

theorem randomConstraints_eq (generator : Generator σ) (width count : Nat) (state : σ) :
    randomConstraints generator width count state =
      (drawnConstraints width count
          (generator.belowEach (List.replicate (width * count) 10) state).1,
        (generator.belowEach (List.replicate (width * count) 10) state).2) := by
  induction count generalizing state with
  | zero => simp [randomConstraints, drawnConstraints, Random.Generator.belowEach]
  | succ count ih =>
      have length := Random.length_belowEach generator (List.replicate width 10) state
      rw [List.length_replicate] at length
      rw [randomConstraints, randomWeights_eq, Nat.mul_succ,
        Nat.add_comm (width * count) width, ← List.replicate_append_replicate,
        Random.belowEach_append]
      -- The first draws are as many as there are variables, so they make one constraint.
      have first := drawnConstraints_append count
        (generator.belowEach (List.replicate width 10) state).1
      rw [length] at first
      simp only [ih, first]

namespace Problem

/-- The problem that is made of draws. -/
def ofDraws (width constraints : Int) (draws : List Nat) : Problem where
  name := s!"random-{width}x{constraints}"
  objective := some ⟨(draws.take width.toNat).map drawnWeight⟩
  constraints :=
    some ⟨drawnConstraints width.toNat constraints.toNat (draws.drop width.toNat)⟩

/-- A random problem takes its draws in a fixed order, and no other ones. -/
theorem random_eq_ofDraws (generator : Generator σ) {width constraints : Int}
    (drawable : Drawable width constraints) (state : σ) :
    random generator width constraints (some state) =
      .ok (ofDraws width constraints
          (generator.belowEach (drawBounds width.toNat constraints.toNat) state).1,
        (generator.belowEach (drawBounds width.toNat constraints.toNat) state).2) := by
  have length := Random.length_belowEach generator (List.replicate width.toNat 20) state
  rw [List.length_replicate] at length
  rw [random_eq_ok generator drawable, randomWeights_eq, drawBounds, Random.belowEach_append,
    ofDraws, List.take_left' length, List.drop_left' length]
  simp only [randomConstraints_eq]

end Problem

end Ascent
