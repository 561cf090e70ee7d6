import Ascent.Proofs.Climb.Course

/-!
# What the events of a climb say

A climb never evaluates its current solution again.  After a move it takes the
fitness from the report on the chosen neighbor, where an infeasible neighbor has
fitness zero, and it takes for granted that the solution is feasible.  The events
are truthful nevertheless: every step reports the fitness and the feasibility of
its solution and of all neighbors, consecutive steps are joined by the selected
neighbor, and the final event belongs to the solution reached last.
-/

namespace Ascent.Climb

variable {p : Problem} {s : Solution} {config : Config} {signal : Signal}

/-! ## Truthful steps -/

/-- A truthful report on the neighbor of a solution with variable `k` inverted. -/
structure Neighbor.Describes (p : Problem) (current : Solution) (k : Nat)
    (neighbor : Neighbor) : Prop where
  solution : neighbor.solution = current.flipped k
  bit : neighbor.bit = k + 1
  feasible : p.feasible neighbor.solution = .ok neighbor.feasible
  fitness : neighbor.feasible = true → p.fitness neighbor.solution = .ok neighbor.fitness
  noFitness : neighbor.feasible = false → neighbor.fitness = 0

/-- A truthful step over a number of variables. -/
structure Step.Truthful (p : Problem) (width : Nat) (step : Step) : Prop where
  fitness : p.fitness step.current = .ok step.fitness
  feasible : p.feasible step.current = .ok step.feasible
  neighborCount : step.neighbors.length = width
  neighbors : ∀ (k : Nat) (neighbor : Neighbor), step.neighbors[k]? = some neighbor →
    neighbor.Describes p step.current k
  selected : step.selected = -1 ∨ ∃ (k : Nat) (neighbor : Neighbor), step.selected = k ∧
    step.neighbors[k]? = some neighbor ∧ neighbor.feasible = true ∧
    step.fitness < neighbor.fitness

theorem getElem?_neighbors_stepAt {k : Nat} (inside : k < s.length) (iteration : Nat) :
    (stepAt p iteration s).neighbors[k]? = some (entry p k (s.flipped k)) := by
  rw [stepAt, List.getElem?_mapIdx, Solution.getElem?_neighbors inside, Option.map_some]

theorem describes_entry (searchable : p.Searchable) (width : s.length = p.weights.length)
    (k : Nat) : (entry p k (s.flipped k)).Describes p s k := by
  have flippedWidth : (s.flipped k).length = p.weights.length := by
    rw [Solution.length_flipped, width]
  exact {
    solution := rfl
    bit := rfl
    feasible := searchable.feasible_eq flippedWidth
    fitness := by
      intro accepted
      rw [entry] at accepted ⊢
      rw [searchable.fitness_eq flippedWidth, if_pos accepted]
    noFitness := by
      intro rejected
      rw [entry] at rejected ⊢
      rw [if_neg (Bool.eq_false_iff.mp rejected)]
  }

/-- Every step along the orbit is truthful. -/
theorem truthful_stepAt (searchable : p.Searchable) (width : s.length = p.weights.length)
    (iteration : Nat) : (stepAt p iteration s).Truthful p s.length where
  fitness := searchable.fitness_eq width
  feasible := searchable.feasible_eq width
  neighborCount := by rw [stepAt, List.length_mapIdx, Solution.length_neighbors]
  neighbors := by
    intro k neighbor found
    have inside : k < s.length := by
      rcases List.getElem?_eq_some_iff.mp found with ⟨bounded, _⟩
      rwa [stepAt, List.length_mapIdx, Solution.length_neighbors] at bounded
    rw [getElem?_neighbors_stepAt inside, Option.some.injEq] at found
    subst found
    exact describes_entry searchable width k
  selected := by
    cases chosen : p.choice s with
    | none =>
        left
        rw [stepAt, chosen]
    | some k =>
        right
        rcases searchable.of_choice_eq_some width chosen with ⟨inside, accepted, better⟩
        have reported : (entry p k (s.flipped k)).fitness = p.value (s.flipped k) := by
          rw [entry, if_pos accepted]
        exact ⟨k, entry p k (s.flipped k), selected_stepAt chosen iteration,
          getElem?_neighbors_stepAt inside iteration, accepted, reported ▸ better⟩

/-! ## The solutions that are visited -/

/-- The solution that a step moves to. -/
def Step.moved? (step : Step) : Option Solution :=
  if step.terminal then none else step.neighbors[step.selected.toNat]?.map Neighbor.solution

/-- The start and the solutions that the moves of the steps lead to, in order. -/
def visited (start : Solution) (steps : List Step) : List Solution :=
  start :: steps.filterMap Step.moved?

/-- A step along the orbit moves to the next solution, if it moves. -/
theorem moved?_stepAt (searchable : p.Searchable) (width : s.length = p.weights.length)
    (iteration : Nat) : (stepAt p iteration s).moved? = (p.choice s).map s.flipped := by
  rw [Step.moved?, terminal_stepAt]
  cases chosen : p.choice s with
  | none => rfl
  | some k =>
      have inside := (searchable.of_choice_eq_some width chosen).1
      rw [selected_stepAt chosen, Int.toNat_natCast, getElem?_neighbors_stepAt inside]
      rfl

theorem moved?_stepAt_of_moving (searchable : p.Searchable)
    (width : s.length = p.weights.length) (moves : (p.choice s).isSome) (iteration : Nat) :
    (stepAt p iteration s).moved? = some (p.advance s) := by
  rcases Option.isSome_iff_exists.mp moves with ⟨k, chosen⟩
  rw [moved?_stepAt searchable width, chosen, Problem.advance_of_choice_eq_some chosen,
    Option.map_some]

/-! ## The steps of a course -/

theorem getElem?_steps_eq_some_iff {first count : Nat} {stop : Stop} {i : Nat} {step : Step} :
    (trailAt p first s count stop).steps[i]? = some step ↔
      i < count ∧ stepAt p (first + i) (p.orbit s i) = step := by
  simp only [trailAt, List.getElem?_map, Option.map_eq_some_iff]
  constructor
  · rintro ⟨j, found, rfl⟩
    rcases List.getElem?_eq_some_iff.mp found with ⟨inside, rfl⟩
    rw [List.length_range] at inside
    exact ⟨inside, by rw [List.getElem_range]⟩
  · rintro ⟨inside, rfl⟩
    exact ⟨i, List.getElem?_range inside, rfl⟩

theorem current_head_trailAt (first count : Nat) (stop : Stop) {step : Step}
    (found : (trailAt p first s count stop).steps[0]? = some step) : step.current = s := by
  rcases getElem?_steps_eq_some_iff.mp found with ⟨_, rfl⟩
  rfl

theorem truthful_of_mem_trailAt (searchable : p.Searchable)
    (width : s.length = p.weights.length) (first count : Nat) (stop : Stop) {step : Step}
    (member : step ∈ (trailAt p first s count stop).steps) : step.Truthful p s.length := by
  rcases List.mem_iff_getElem?.mp member with ⟨i, found⟩
  rcases getElem?_steps_eq_some_iff.mp found with ⟨_, rfl⟩
  rw [← p.length_orbit s i]
  exact truthful_stepAt searchable (Problem.orbit_width width i) (first + i)

/-- All steps of a run are truthful. -/
theorem truthful_of_mem_steps {run : Run} (searchable : p.Searchable)
    (width : s.length = p.weights.length) (valid : config.validate = .ok ())
    (solved : solve (some p) config signal (some s) = .ok run) {step : Step}
    (member : step ∈ run.steps) : step.Truthful p s.length := by
  rcases exists_course searchable width valid signal with ⟨_, count, stop, _, same⟩
  obtain rfl := Except.ok.inj (solved.symm.trans same)
  exact truthful_of_mem_trailAt searchable width 0 count stop member

namespace Course

variable {first moves count : Nat} {stop : Stop}

theorem lt_moves (course : Course p config signal first s moves count stop) {i : Nat}
    (before : i + 1 < count) : i < moves := by
  rcases course.ending with ⟨rfl, _, _⟩ | ⟨rfl, _⟩
  · exact Nat.lt_of_succ_lt_succ before
  · exact Nat.lt_of_succ_lt before

/-- The step after a step is at the neighbor that was selected. -/
theorem current_next (searchable : p.Searchable) (width : s.length = p.weights.length)
    (course : Course p config signal first s moves count stop) {i : Nat} {step next : Step}
    (found : (trailAt p first s count stop).steps[i]? = some step)
    (nextFound : (trailAt p first s count stop).steps[i + 1]? = some next) :
    ∃ (k : Nat) (neighbor : Neighbor), step.selected = k ∧
      step.neighbors[k]? = some neighbor ∧ next.current = neighbor.solution := by
  rcases getElem?_steps_eq_some_iff.mp found with ⟨_, rfl⟩
  rcases getElem?_steps_eq_some_iff.mp nextFound with ⟨before, rfl⟩
  rcases Option.isSome_iff_exists.mp (course.moving i (course.lt_moves before)) with ⟨k, chosen⟩
  have inside := (searchable.of_choice_eq_some (Problem.orbit_width width i) chosen).1
  exact ⟨k, _, selected_stepAt chosen _, getElem?_neighbors_stepAt inside _,
    Problem.advance_of_choice_eq_some chosen⟩

/-- The moves of a course lead along the orbit. -/
theorem filterMap_moved? (searchable : p.Searchable) (width : s.length = p.weights.length)
    (course : Course p config signal first s moves count stop) :
    (trailAt p first s count stop).steps.filterMap Step.moved? =
      (List.range moves).map fun i => p.orbit s (i + 1) := by
  have moved : ((List.range moves).map fun i => stepAt p (first + i) (p.orbit s i)).filterMap
      Step.moved? = (List.range moves).map fun i => p.orbit s (i + 1) := by
    rw [List.filterMap_map, ← List.filterMap_eq_map]
    apply List.filterMap_congr
    intro i member
    exact moved?_stepAt_of_moving searchable (Problem.orbit_width width i)
      (course.moving i (List.mem_range.mp member)) (first + i)
  rcases course.ending with ⟨rfl, _, settled⟩ | ⟨rfl, _⟩
  · -- The last step finds no improvement and adds nothing.
    have still := moved?_stepAt searchable (Problem.orbit_width width moves) (first + moves)
    rw [settled, Option.map_none] at still
    rw [trailAt, List.range_succ, List.map_append, List.filterMap_append, moved]
    simp [still]
  · exact moved

/-- The solutions visited by a course are those of the orbit up to its last move. -/
theorem visited_eq (searchable : p.Searchable) (width : s.length = p.weights.length)
    (course : Course p config signal first s moves count stop) :
    visited s (trailAt p first s count stop).steps =
      (List.range (moves + 1)).map (p.orbit s) := by
  rw [visited, course.filterMap_moved? searchable width, List.range_succ_eq_map, List.map_cons,
    List.map_map, Problem.orbit_zero]
  rfl

/-- The solution visited last is the one at the end of the course. -/
theorem getLast?_visited (searchable : p.Searchable) (width : s.length = p.weights.length)
    (course : Course p config signal first s moves count stop) :
    (visited s (trailAt p first s count stop).steps).getLast? = some (p.orbit s count) := by
  rw [course.visited_eq searchable width, course.orbit_count, List.range_succ, List.map_append,
    List.map_singleton, List.getLast?_concat]

end Course

/-- The events of a climb are truthful: the first step is at the start, each later
one at the neighbor selected before it, all of them say what the problem says,
and the final event and the result belong to the solution visited last. -/
theorem solve_events_truthful {start : Solution} (searchable : p.Searchable)
    (valid : config.validate = .ok ()) (width : p.width = .ok start.length)
    (signal : Signal) :
    ∃ run, solve (some p) config signal (some start) = .ok run ∧
      (∀ step : Step, run.steps[0]? = some step → step.current = start) ∧
      (∀ (i : Nat) (step next : Step), run.steps[i]? = some step →
        run.steps[i + 1]? = some next →
          ∃ (k : Nat) (neighbor : Neighbor), step.selected = k ∧
            step.neighbors[k]? = some neighbor ∧ next.current = neighbor.solution) ∧
      (∀ step ∈ run.steps, step.Truthful p start.length) ∧
      (visited start run.steps).getLast? = some run.final.solution ∧
      p.fitness run.final.solution = .ok run.final.fitness ∧
      p.feasible run.final.solution = .ok run.final.feasible ∧
      run.result.solution = some run.final.solution ∧
      run.result.fitness = run.final.fitness ∧
      run.result.feasible = run.final.feasible ∧
      run.result.start = some start := by
  have sameWidth := searchable.width_eq_ok_iff.mp width
  rcases exists_course searchable sameWidth valid signal with
    ⟨moves, count, stop, course, solved⟩
  have lastWidth := Problem.orbit_width (p := p) sameWidth count
  refine ⟨_, solved, ?_, ?_, ?_, course.getLast?_visited searchable sameWidth,
    searchable.fitness_eq lastWidth, searchable.feasible_eq lastWidth, rfl, rfl, rfl, rfl⟩
  · intro step found
    exact current_head_trailAt 0 count stop found
  · intro i step next found nextFound
    exact course.current_next searchable sameWidth found nextFound
  · intro step member
    exact truthful_of_mem_trailAt searchable sameWidth 0 count stop member

/-- The events of the knapsack's climb from its first demonstration start, which
makes three moves. -/
theorem solve_events_truthful_knapsack :
    ∃ run, solve (some .knapsack) .default .never (some (.zeros 10)) = .ok run ∧
      run.steps.length = 4 ∧ (∀ step ∈ run.steps, step.Truthful .knapsack 10) ∧
      (visited (.zeros 10) run.steps).getLast? = some run.final.solution ∧
      Problem.knapsack.fitness run.final.solution = .ok run.final.fitness := by
  have valid : Config.default.validate = .ok () := rfl
  have width : Problem.knapsack.width = .ok (Solution.zeros 10).length := rfl
  rcases solve_events_truthful Problem.knapsack_searchable valid width .never with
    ⟨run, solved, _, _, truthful, last, fitness, _⟩
  have evaluated : (solve (some .knapsack) .default .never (some (.zeros 10))).map
      (fun run => run.steps.length) = .ok 4 := rfl
  rw [solved] at evaluated
  exact ⟨run, solved, Except.ok.inj evaluated, truthful, last, fitness⟩

end Ascent.Climb
