import Ascent.Proofs.Flip
import Ascent.Proofs.Selection
import Mathlib.Data.Finset.Card

/-!
# The orbit of a start

At every solution a searchable problem determines which variable the climb
inverts next.  Iterating this map from a start gives its orbit, which stands
still from the first local optimum on.

An orbit moves at most as often as there are variables.  The measure is the set
of variables whose inversion raises the fitness, feasible or not.  A move takes
its own variable out of this set, because undoing the move would lower the
fitness again, and puts none in.  The constraints only decide which of these
variables are available, so they play no part in the argument.
-/

namespace Ascent.Problem

variable {p : Problem} {s : Solution}

/-! ## One move -/

/-- The variable that is inverted at a solution; a local optimum has none. -/
def choice (p : Problem) (s : Solution) : Option Nat :=
  match p.bestImprovement s s.neighbors with
  | .ok answer => answer
  | .error _ => none

/-- The solution after the one given: the chosen neighbor, or the solution itself. -/
def advance (p : Problem) (s : Solution) : Solution :=
  match p.choice s with
  | some k => s.flipped k
  | none => s

theorem neighbors_widths (width : s.length = p.weights.length) :
    ∀ c ∈ s.neighbors, c.length = p.weights.length := by
  intro c member
  rw [Solution.length_of_mem_neighbors member, width]

theorem Searchable.bestImprovement_neighbors (searchable : p.Searchable)
    (width : s.length = p.weights.length) :
    p.bestImprovement s s.neighbors = .ok (p.choice s) := by
  rcases searchable.bestImprovement_selects width (neighbors_widths width) with
    ⟨answer, selected, _⟩
  rw [choice, selected]

theorem Searchable.choice_selects (searchable : p.Searchable)
    (width : s.length = p.weights.length) :
    p.Selects (p.value s) s.neighbors (p.choice s) := by
  rcases searchable.bestImprovement_selects width (neighbors_widths width) with
    ⟨answer, selected, selects⟩
  rw [choice, selected]
  exact selects

/-- A chosen variable exists, and inverting it gives a feasible and better solution. -/
theorem Searchable.of_choice_eq_some (searchable : p.Searchable)
    (width : s.length = p.weights.length) {k : Nat} (chosen : p.choice s = some k) :
    k < s.length ∧ p.accepts (s.flipped k) = true ∧ p.value s < p.value (s.flipped k) := by
  have selects := searchable.choice_selects width
  rw [chosen] at selects
  cases selects with
  | candidate firstBest =>
      rcases Solution.getElem?_neighbors_eq_some_iff.mp firstBest.here with ⟨inside, rfl⟩
      exact ⟨inside, firstBest.accepted, firstBest.better⟩

/-- Where nothing is chosen no feasible neighbor is better. -/
theorem Searchable.of_choice_eq_none (searchable : p.Searchable)
    (width : s.length = p.weights.length) (settled : p.choice s = none) :
    p.NoneBetter (p.value s) s.neighbors := by
  have selects := searchable.choice_selects width
  rw [settled] at selects
  cases selects with
  | nothing noneBetter => exact noneBetter

theorem advance_of_choice_eq_some {k : Nat} (chosen : p.choice s = some k) :
    p.advance s = s.flipped k := by
  rw [advance, chosen]

theorem advance_of_choice_eq_none (settled : p.choice s = none) : p.advance s = s := by
  rw [advance, settled]

@[simp]
theorem length_advance (p : Problem) (s : Solution) : (p.advance s).length = s.length := by
  cases chosen : p.choice s with
  | none => rw [advance_of_choice_eq_none chosen]
  | some k => rw [advance_of_choice_eq_some chosen, Solution.length_flipped]

theorem Searchable.value_lt_advance (searchable : p.Searchable)
    (width : s.length = p.weights.length) (moves : (p.choice s).isSome) :
    p.value s < p.value (p.advance s) := by
  rcases Option.isSome_iff_exists.mp moves with ⟨k, chosen⟩
  rw [advance_of_choice_eq_some chosen]
  exact (searchable.of_choice_eq_some width chosen).2.2

theorem Searchable.accepts_advance (searchable : p.Searchable)
    (width : s.length = p.weights.length) (moves : (p.choice s).isSome) :
    p.accepts (p.advance s) = true := by
  rcases Option.isSome_iff_exists.mp moves with ⟨k, chosen⟩
  rw [advance_of_choice_eq_some chosen]
  exact (searchable.of_choice_eq_some width chosen).2.1

/-! ## Iterated moves -/

/-- The solution after a number of moves. -/
def orbit (p : Problem) (s : Solution) : Nat → Solution
  | 0 => s
  | i + 1 => p.advance (p.orbit s i)

@[simp]
theorem orbit_zero (p : Problem) (s : Solution) : p.orbit s 0 = s :=
  rfl

theorem orbit_succ (p : Problem) (s : Solution) (i : Nat) :
    p.orbit s (i + 1) = p.advance (p.orbit s i) :=
  rfl

theorem orbit_advance (p : Problem) (s : Solution) (i : Nat) :
    p.orbit (p.advance s) i = p.orbit s (i + 1) := by
  induction i with
  | zero => rfl
  | succ i ih => rw [orbit_succ, ih, orbit_succ p s (i + 1)]

@[simp]
theorem length_orbit (p : Problem) (s : Solution) (i : Nat) :
    (p.orbit s i).length = s.length := by
  induction i with
  | zero => rfl
  | succ i ih => rw [orbit_succ, length_advance, ih]

theorem orbit_width (width : s.length = p.weights.length) (i : Nat) :
    (p.orbit s i).length = p.weights.length := by
  rw [length_orbit, width]

/-- The orbit moves at each of the first `moves` steps. -/
def Moving (p : Problem) (s : Solution) (moves : Nat) : Prop :=
  ∀ i < moves, (p.choice (p.orbit s i)).isSome

/-- While the orbit moves, its fitness grows from every place to every later one. -/
theorem Searchable.value_orbit_lt (searchable : p.Searchable)
    (width : s.length = p.weights.length) {moves i j : Nat} (moving : p.Moving s moves)
    (before : i < j) (reached : j ≤ moves) :
    p.value (p.orbit s i) < p.value (p.orbit s j) := by
  induction j with
  | zero => exact absurd before (Nat.not_lt_zero i)
  | succ j ih =>
      have last := searchable.value_lt_advance (orbit_width width j) (moving j reached)
      rw [orbit_succ]
      rcases Nat.lt_succ_iff_lt_or_eq.mp before with earlier | rfl
      · exact Int64.lt_trans (ih earlier (Nat.le_of_succ_le reached)) last
      · exact last

/-- After the first move the orbit is feasible. -/
theorem Searchable.accepts_orbit (searchable : p.Searchable)
    (width : s.length = p.weights.length) {moves j : Nat} (moving : p.Moving s moves)
    (moved : 0 < j) (reached : j ≤ moves) : p.accepts (p.orbit s j) = true := by
  rcases Nat.exists_eq_succ_of_ne_zero (Nat.ne_of_gt moved) with ⟨i, rfl⟩
  exact searchable.accepts_advance (orbit_width width i) (moving i reached)

/-! ## The variables that can still raise the fitness -/

/-- The variables whose inversion raises the fitness. -/
def improvable (p : Problem) (s : Solution) : Finset Nat :=
  (Finset.range s.length).filter fun k => p.value s < p.value (s.flipped k)

theorem mem_improvable {k : Nat} :
    k ∈ p.improvable s ↔ k < s.length ∧ p.value s < p.value (s.flipped k) := by
  simp [improvable]

theorem value_flipped (width : s.length = p.weights.length) (k : Nat) :
    p.value (s.flipped k) = p.value s + gain p.weights s.bits k :=
  weightedSum_modify_not width k

/-- Inverting a variable that raises the fitness takes it out of the improvable
variables and puts none in. -/
theorem improvable_flipped_subset (width : s.length = p.weights.length) {k : Nat}
    (better : p.value s < p.value (s.flipped k)) :
    p.improvable (s.flipped k) ⊆ (p.improvable s).erase k := by
  intro j member
  rcases mem_improvable.mp member with ⟨inside, raised⟩
  rw [Solution.length_flipped] at inside
  have distinct : j ≠ k := by
    rintro rfl
    rw [Solution.flipped_flipped] at raised
    exact Int64.lt_asymm better raised
  refine Finset.mem_erase.mpr ⟨distinct, mem_improvable.mpr ⟨inside, ?_⟩⟩
  -- If the variable had not raised the fitness before, it would not raise the higher one now.
  by_contra notRaised
  rw [value_flipped width, Int64.not_lt] at notRaised
  have flippedWidth : (s.flipped k).length = p.weights.length := by
    rw [Solution.length_flipped, width]
  have sameGain : gain p.weights (s.flipped k).bits j = gain p.weights s.bits j :=
    gain_modify_of_ne p.weights s.bits (Ne.symm distinct)
  rw [value_flipped flippedWidth, sameGain] at raised
  exact Int64.not_lt.mpr (add_le_of_add_le notRaised better) raised

theorem Searchable.improvable_advance_subset (searchable : p.Searchable)
    (width : s.length = p.weights.length) {k : Nat} (chosen : p.choice s = some k) :
    p.improvable (p.advance s) ⊆ (p.improvable s).erase k := by
  rw [advance_of_choice_eq_some chosen]
  exact improvable_flipped_subset width (searchable.of_choice_eq_some width chosen).2.2

theorem Searchable.mem_improvable_of_choice (searchable : p.Searchable)
    (width : s.length = p.weights.length) {k : Nat} (chosen : p.choice s = some k) :
    k ∈ p.improvable s := by
  rcases searchable.of_choice_eq_some width chosen with ⟨inside, _, better⟩
  exact mem_improvable.mpr ⟨inside, better⟩

/-- A move leaves fewer improvable variables. -/
theorem Searchable.card_improvable_advance_lt (searchable : p.Searchable)
    (width : s.length = p.weights.length) (moves : (p.choice s).isSome) :
    (p.improvable (p.advance s)).card < (p.improvable s).card := by
  rcases Option.isSome_iff_exists.mp moves with ⟨k, chosen⟩
  calc
    (p.improvable (p.advance s)).card ≤ ((p.improvable s).erase k).card :=
      Finset.card_le_card (searchable.improvable_advance_subset width chosen)
    _ < (p.improvable s).card :=
      Finset.card_erase_lt_of_mem (searchable.mem_improvable_of_choice width chosen)

theorem card_improvable_le (p : Problem) (s : Solution) : (p.improvable s).card ≤ s.length := by
  calc
    (p.improvable s).card ≤ (Finset.range s.length).card := Finset.card_filter_le _ _
    _ = s.length := Finset.card_range s.length

/-- An orbit makes at most as many moves as there are variables. -/
theorem Searchable.moves_le_length (searchable : p.Searchable)
    (width : s.length = p.weights.length) {moves : Nat} (moving : p.Moving s moves) :
    moves ≤ s.length := by
  have spent : moves + (p.improvable (p.orbit s moves)).card ≤ (p.improvable s).card := by
    induction moves with
    | zero => simp
    | succ moves ih =>
        have earlier := ih fun i before => moving i (Nat.lt_succ_of_lt before)
        have fewer := searchable.card_improvable_advance_lt (orbit_width width moves)
          (moving moves (Nat.lt_succ_self moves))
        rw [← orbit_succ] at fewer
        omega
  calc
    moves ≤ moves + (p.improvable (p.orbit s moves)).card := Nat.le_add_right _ _
    _ ≤ (p.improvable s).card := spent
    _ ≤ s.length := p.card_improvable_le s

/-- Along the orbit no variable becomes improvable again. -/
theorem Searchable.improvable_orbit_subset (searchable : p.Searchable)
    (width : s.length = p.weights.length) {i j : Nat} (before : i ≤ j) :
    p.improvable (p.orbit s j) ⊆ p.improvable (p.orbit s i) := by
  induction j, before using Nat.le_induction with
  | base => exact Finset.Subset.refl _
  | succ j _ ih =>
      refine Finset.Subset.trans ?_ ih
      rw [orbit_succ]
      cases chosen : p.choice (p.orbit s j) with
      | none => rw [advance_of_choice_eq_none chosen]
      | some k =>
          exact Finset.Subset.trans
            (searchable.improvable_advance_subset (orbit_width width j) chosen)
            (Finset.erase_subset k _)

/-- No variable is inverted twice along an orbit. -/
theorem Searchable.choice_orbit_ne (searchable : p.Searchable)
    (width : s.length = p.weights.length) {i j k l : Nat} (before : i < j)
    (chosen : p.choice (p.orbit s i) = some k) (later : p.choice (p.orbit s j) = some l) :
    k ≠ l := by
  have improvable := searchable.mem_improvable_of_choice (orbit_width width j) later
  have stillImprovable := searchable.improvable_orbit_subset width before improvable
  rw [orbit_succ] at stillImprovable
  have erased := searchable.improvable_advance_subset (orbit_width width i) chosen stillImprovable
  exact (Finset.ne_of_mem_erase erased).symm

end Ascent.Problem
