import Ascent.Proofs.Climb.Trace

/-!
# A climb only goes up

The fitness grows with every move, so a climb never comes back to a solution.
The first move of a climb from an infeasible start leads to a feasible solution,
and the climb stays feasible.  What the result says about the start follows: the
fitness is that of the start exactly if the climb did not move, and an infeasible
result is an infeasible start.  None of this depends on why the climb ended.
-/

namespace Ascent.Problem

variable {p : Problem} {s : Solution}

theorem Searchable.value_lt_orbit (searchable : p.Searchable)
    (width : s.length = p.weights.length) {moves : Nat} (moving : p.Moving s moves)
    (moved : 0 < moves) : p.value s < p.value (p.orbit s moves) := by
  have higher : p.value (p.orbit s 0) < p.value (p.orbit s moves) :=
    searchable.value_orbit_lt width moving moved (Nat.le_refl moves)
  rw [orbit_zero] at higher
  exact higher

/-- An orbit is at its start only before its first move. -/
theorem Searchable.orbit_eq_self_iff (searchable : p.Searchable)
    (width : s.length = p.weights.length) {moves : Nat} (moving : p.Moving s moves) :
    p.orbit s moves = s ↔ moves = 0 := by
  constructor
  · intro returned
    by_contra moved
    have higher := searchable.value_lt_orbit width moving (Nat.pos_of_ne_zero moved)
    rw [returned] at higher
    exact Int64.lt_irrefl higher
  · rintro rfl
    rfl

theorem Searchable.value_le_orbit (searchable : p.Searchable)
    (width : s.length = p.weights.length) {moves : Nat} (moving : p.Moving s moves) :
    p.value s ≤ p.value (p.orbit s moves) := by
  rcases Nat.eq_zero_or_pos moves with rfl | moved
  · exact Int64.le_refl _
  · exact Int64.le_of_lt (searchable.value_lt_orbit width moving moved)

/-- The fitness is that of the start only at the start. -/
theorem Searchable.value_orbit_eq_iff (searchable : p.Searchable)
    (width : s.length = p.weights.length) {moves : Nat} (moving : p.Moving s moves) :
    p.value (p.orbit s moves) = p.value s ↔ p.orbit s moves = s := by
  constructor
  · intro sameValue
    rw [searchable.orbit_eq_self_iff width moving]
    by_contra moved
    have higher := searchable.value_lt_orbit width moving (Nat.pos_of_ne_zero moved)
    exact Int64.ne_of_lt higher sameValue.symm
  · intro returned
    rw [returned]

/-- An orbit is infeasible only at an infeasible start. -/
theorem Searchable.accepts_orbit_eq_false_iff (searchable : p.Searchable)
    (width : s.length = p.weights.length) {moves : Nat} (moving : p.Moving s moves) :
    p.accepts (p.orbit s moves) = false ↔ p.accepts s = false ∧ p.orbit s moves = s := by
  rcases Nat.eq_zero_or_pos moves with rfl | moved
  · simp
  · have feasible := searchable.accepts_orbit width moving moved (Nat.le_refl moves)
    have elsewhere : p.orbit s moves ≠ s := by
      rw [Ne, searchable.orbit_eq_self_iff width moving]
      exact Nat.ne_of_gt moved
    simp [feasible, elsewhere]

end Ascent.Problem

namespace Ascent.Climb

variable {p : Problem} {s : Solution} {config : Config} {signal : Signal}

namespace Course

variable {first moves count : Nat} {stop : Stop}

theorem fitness_pairwise (searchable : p.Searchable) (width : s.length = p.weights.length)
    (course : Course p config signal first s moves count stop) :
    ((trailAt p first s count stop).steps.map Step.fitness).Pairwise (· < ·) := by
  rw [trailAt, List.pairwise_map, List.pairwise_map]
  apply List.pairwise_lt_range.imp_of_mem
  intro i j _ later before
  have reached : j ≤ moves :=
    Nat.le_of_lt_succ (Nat.lt_of_lt_of_le (List.mem_range.mp later) course.count_bounds.2)
  exact searchable.value_orbit_lt width course.moving before reached

/-- The solutions of the steps are the first of the visited ones. -/
theorem current_prefix_visited (searchable : p.Searchable)
    (width : s.length = p.weights.length)
    (course : Course p config signal first s moves count stop) :
    (trailAt p first s count stop).steps.map Step.current <+:
      visited s (trailAt p first s count stop).steps := by
  rw [course.visited_eq searchable width, trailAt, List.map_map]
  rcases Nat.exists_eq_add_of_le course.count_bounds.2 with ⟨rest, restEq⟩
  rw [restEq, List.range_add, List.map_append]
  exact List.prefix_append _ _

theorem visited_nodup (searchable : p.Searchable) (width : s.length = p.weights.length)
    (course : Course p config signal first s moves count stop) :
    (visited s (trailAt p first s count stop).steps).Nodup := by
  rw [course.visited_eq searchable width, List.nodup_iff_pairwise_ne, List.pairwise_map]
  apply List.pairwise_lt_range.imp_of_mem
  intro i j _ later before equal
  have reached : j ≤ moves := Nat.le_of_lt_succ (List.mem_range.mp later)
  have higher := searchable.value_orbit_lt width course.moving before reached
  rw [equal] at higher
  exact Int64.lt_irrefl higher

/-- After its first move a course visits only feasible solutions. -/
theorem feasible_of_mem_tail (searchable : p.Searchable) (width : s.length = p.weights.length)
    (course : Course p config signal first s moves count stop) {t : Solution}
    (member : t ∈ (visited s (trailAt p first s count stop).steps).tail) :
    p.feasible t = .ok true := by
  rw [visited, List.tail_cons, course.filterMap_moved? searchable width, List.mem_map] at member
  rcases member with ⟨i, inside, rfl⟩
  rw [searchable.feasible_eq (Problem.orbit_width width (i + 1)),
    searchable.accepts_orbit width course.moving (Nat.succ_pos i) (List.mem_range.mp inside)]

/-- A course ends at its start exactly if it visits nothing else. -/
theorem orbit_count_eq_self_iff (searchable : p.Searchable)
    (width : s.length = p.weights.length)
    (course : Course p config signal first s moves count stop) :
    p.orbit s count = s ↔ visited s (trailAt p first s count stop).steps = [s] := by
  rw [course.orbit_count, searchable.orbit_eq_self_iff width course.moving, visited,
    course.filterMap_moved? searchable width]
  simp

end Course

/-- Along a climb the fitness of the steps grows, no solution is visited twice and
all but the start are feasible.  The result has the fitness of the start exactly
if it is the start, which is when no move was made, and it is infeasible exactly
if it is an infeasible start. -/
theorem solve_only_climbs {start : Solution} (searchable : p.Searchable)
    (valid : config.validate = .ok ()) (width : p.width = .ok start.length)
    (signal : Signal) :
    ∃ run, solve (some p) config signal (some start) = .ok run ∧
      (run.steps.map Step.fitness).Pairwise (· < ·) ∧
      run.steps.map Step.current <+: visited start run.steps ∧
      (visited start run.steps).Nodup ∧
      (∀ t ∈ (visited start run.steps).tail, p.feasible t = .ok true) ∧
      (∃ fitness, p.fitness start = .ok fitness ∧ fitness ≤ run.result.fitness ∧
        (run.result.fitness = fitness ↔ run.result.solution = some start)) ∧
      (run.result.feasible = false ↔
        p.feasible start = .ok false ∧ run.result.solution = some start) ∧
      (run.result.solution = some start ↔ visited start run.steps = [start]) := by
  have sameWidth := searchable.width_eq_ok_iff.mp width
  rcases exists_course searchable sameWidth valid signal with
    ⟨moves, count, stop, course, solved⟩
  have returned : some (p.orbit start count) = some start ↔ p.orbit start moves = start := by
    rw [Option.some.injEq, course.orbit_count]
  refine ⟨_, solved, course.fitness_pairwise searchable sameWidth,
    course.current_prefix_visited searchable sameWidth,
    course.visited_nodup searchable sameWidth, ?_,
    ⟨p.value start, searchable.fitness_eq sameWidth, ?_, ?_⟩, ?_, ?_⟩
  · intro t member
    exact course.feasible_of_mem_tail searchable sameWidth member
  · change p.value start ≤ p.value (p.orbit start count)
    rw [course.orbit_count]
    exact searchable.value_le_orbit sameWidth course.moving
  · change p.value (p.orbit start count) = p.value start ↔
      some (p.orbit start count) = some start
    rw [returned, course.orbit_count]
    exact searchable.value_orbit_eq_iff sameWidth course.moving
  · change p.accepts (p.orbit start count) = false ↔
      p.feasible start = .ok false ∧ some (p.orbit start count) = some start
    rw [returned, course.orbit_count, searchable.feasible_eq sameWidth, Except.ok.injEq]
    exact searchable.accepts_orbit_eq_false_iff sameWidth course.moving
  · change some (p.orbit start count) = some start ↔ _
    rw [Option.some.injEq]
    exact course.orbit_count_eq_self_iff searchable sameWidth

/-- The knapsack's climb from its second demonstration start, cut off after two
iterations. -/
theorem solve_only_climbs_knapsack :
    ∃ run, solve (some .knapsack) ⟨"single-bit", "best-improvement", 2⟩ .never
        (some (.ofInts [0, 0, 0, 0, 0, 0, 0, 0, 1, 0])) = .ok run ∧
      run.result.iterations = 2 ∧ (run.steps.map Step.fitness).Pairwise (· < ·) ∧
      (visited (.ofInts [0, 0, 0, 0, 0, 0, 0, 0, 1, 0]) run.steps).Nodup := by
  have valid : (Config.mk "single-bit" "best-improvement" 2).validate = .ok () := rfl
  have width : Problem.knapsack.width =
    .ok (Solution.ofInts [0, 0, 0, 0, 0, 0, 0, 0, 1, 0]).length := rfl
  rcases solve_only_climbs Problem.knapsack_searchable valid width .never with
    ⟨run, solved, increasing, _, distinct, _⟩
  have evaluated : (solve (some .knapsack) ⟨"single-bit", "best-improvement", 2⟩ .never
      (some (.ofInts [0, 0, 0, 0, 0, 0, 0, 0, 1, 0]))).map
        (fun run => run.result.iterations) = .ok 2 := rfl
  rw [solved] at evaluated
  exact ⟨run, solved, Except.ok.inj evaluated, increasing, distinct⟩

end Ascent.Climb
