import Ascent.Proofs.Climb.Course

/-!
# Local optima

A climb may end for three reasons.  If it says that it reached a local optimum,
then it did: no feasible solution that differs from the result in exactly one
variable has a higher fitness.  This holds for every cap and every signal, since
the reason is given only after a complete look at the neighbors.
-/

namespace Ascent.Climb

variable {p : Problem} {s : Solution} {config : Config} {signal : Signal}

theorem reason_eq_localOptimum_iff {stop : Stop} :
    stop.reason = "local-optimum" ↔ stop = .localOptimum := by
  cases stop <;> simp [Stop.reason]

/-- Where nothing is chosen, no feasible solution at distance one is better. -/
theorem fitness_le_of_choice_eq_none (searchable : p.Searchable)
    (width : s.length = p.weights.length) (settled : p.choice s = none) {t : Solution}
    (sameLength : t.length = s.length) (near : s.distance t = 1)
    (feasible : p.feasible t = .ok true) :
    ∃ fitness, p.fitness t = .ok fitness ∧ fitness ≤ p.value s := by
  have nearWidth : t.length = p.weights.length := sameLength.trans width
  have accepted : p.accepts t = true := by
    rw [searchable.feasible_eq nearWidth] at feasible
    exact Except.ok.inj feasible
  have member : t ∈ s.neighbors := Solution.mem_neighbors_iff.mpr ⟨sameLength, near⟩
  exact ⟨p.value t, searchable.fitness_eq nearWidth,
    searchable.of_choice_eq_none width settled t member accepted⟩

/-- A climb that returns with the reason of a local optimum returns a solution
that no feasible solution at distance one exceeds. -/
theorem solve_localOptimum_maximal {start : Solution} (searchable : p.Searchable)
    (valid : config.validate = .ok ()) (width : p.width = .ok start.length)
    (signal : Signal) :
    ∃ run, solve (some p) config signal (some start) = .ok run ∧
      (run.result.details.map Meta.stopped = some "local-optimum" →
        ∃ best, run.result.solution = some best ∧ best.length = start.length ∧
          ∀ t : Solution, t.length = start.length → best.distance t = 1 →
            p.feasible t = .ok true →
              ∃ fitness, p.fitness t = .ok fitness ∧ fitness ≤ run.result.fitness) := by
  have sameWidth := searchable.width_eq_ok_iff.mp width
  rcases exists_course searchable sameWidth valid signal with
    ⟨moves, count, stop, course, solved⟩
  refine ⟨_, solved, ?_⟩
  intro stopped
  have reached : stop = .localOptimum :=
    reason_eq_localOptimum_iff.mp (Option.some.inj stopped)
  have settled := (course.stop_eq_localOptimum_iff.mp reached).2
  rw [← course.orbit_count] at settled
  refine ⟨p.orbit start count, rfl, p.length_orbit start count, ?_⟩
  intro t sameLength near feasible
  rw [← p.length_orbit start count] at sameLength
  exact fitness_le_of_choice_eq_none searchable (Problem.orbit_width sameWidth count) settled
    sameLength near feasible

/-- The third demonstration start is itself a local optimum of the knapsack. -/
theorem solve_localOptimum_maximal_knapsack :
    ∃ run, solve (some .knapsack) .default .never
        (some (.ofInts [0, 1, 1, 1, 0, 1, 0, 1, 0, 0])) = .ok run ∧
      run.result.details.map Meta.stopped = some "local-optimum" ∧
      ∃ best, run.result.solution = some best ∧
        ∀ t : Solution, t.length = 10 → best.distance t = 1 →
          Problem.knapsack.feasible t = .ok true →
            ∃ fitness, Problem.knapsack.fitness t = .ok fitness ∧
              fitness ≤ run.result.fitness := by
  have valid : Config.default.validate = .ok () := rfl
  have width : Problem.knapsack.width =
    .ok (Solution.ofInts [0, 1, 1, 1, 0, 1, 0, 1, 0, 0]).length := rfl
  rcases solve_localOptimum_maximal Problem.knapsack_searchable valid width .never with
    ⟨run, solved, maximal⟩
  have evaluated : (solve (some .knapsack) .default .never
      (some (.ofInts [0, 1, 1, 1, 0, 1, 0, 1, 0, 0]))).map
        (fun run => run.result.details.map Meta.stopped) = .ok (some "local-optimum") := rfl
  rw [solved] at evaluated
  have stopped : run.result.details.map Meta.stopped = some "local-optimum" :=
    Except.ok.inj evaluated
  rcases maximal stopped with ⟨best, bestEq, _, highest⟩
  exact ⟨run, solved, stopped, best, bestEq, highest⟩

end Ascent.Climb
