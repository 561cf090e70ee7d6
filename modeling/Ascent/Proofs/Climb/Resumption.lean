import Ascent.Proofs.Climb.Capping

/-!
# Resuming a climb

A climb that was cut off by its cap can be taken up again: climbing without a cap
from the solution it returned leads where the climb without a cap would have led
from the start, by the steps that were missing.  The first climb remembers a
fitness, a feasibility and a selector, and the second one computes all three anew
from the bare solution.  That this makes no difference is the content of
`Climb.placeAt`: what is remembered is determined by the solution.

A climb whose cap was large enough ends at a local optimum.  Resuming it takes one
iteration that finds nothing, so climbing is idempotent.
-/

namespace Ascent.Problem

variable {p : Problem} {s : Solution} {moves : Nat}

/-- An orbit that stands still stays where it is. -/
theorem Settles.orbit_of_le (settles : p.Settles s moves) {k : Nat} (later : moves ≤ k) :
    p.orbit s k = p.orbit s moves := by
  induction k, later using Nat.le_induction with
  | base => rfl
  | succ k _ ih => rw [orbit_succ, ih, advance_of_choice_eq_none settles.settled]

/-- From a later place the orbit moves as often as it still would have. -/
theorem Settles.orbit (settles : p.Settles s moves) (k : Nat) :
    p.Settles (p.orbit s k) (moves - k) where
  moving := by
    intro i before
    rw [← orbit_add]
    exact settles.moving (k + i) (Nat.add_lt_of_lt_sub' before)
  settled := by
    have standing : p.orbit (p.orbit s k) (moves - k) = p.orbit s moves := by
      rw [← orbit_add]
      exact settles.orbit_of_le (by omega)
    rw [standing]
    exact settles.settled

/-- The iteration behind the remaining moves stands where the one behind all moves
stands. -/
theorem Settles.orbit_remaining (settles : p.Settles s moves) (k : Nat) :
    p.orbit (p.orbit s k) (moves - k + 1) = p.orbit s (moves + 1) := by
  have enough : moves ≤ k + (moves - k + 1) := by omega
  calc
    p.orbit (p.orbit s k) (moves - k + 1) = p.orbit s (k + (moves - k + 1)) :=
      (orbit_add p s k _).symm
    _ = p.orbit s moves := settles.orbit_of_le enough
    _ = p.orbit s (moves + 1) := (settles.orbit_of_le (Nat.le_succ moves)).symm

end Ascent.Problem

namespace Ascent.Climb

variable {p : Problem} {s : Solution} {config : Config} {moves : Nat}

/-! ## Steps counted from another iteration -/

/-- The same step in a climb that began a number of iterations later. -/
def Step.since (offset : Nat) (step : Step) : Step :=
  { step with iteration := step.iteration - offset }

theorem since_stepAt (p : Problem) (offset iteration : Nat) (s : Solution) :
    (stepAt p (offset + iteration) s).since offset = stepAt p iteration s := by
  have difference : ((offset + iteration : Nat) : Int) - offset = iteration := by omega
  simp only [Step.since, stepAt, difference]

theorem map_since_steps_trailAt (p : Problem) (offset first : Nat) (s : Solution) (count : Nat)
    (stop : Stop) :
    (trailAt p (offset + first) s count stop).steps.map (Step.since offset) =
      (trailAt p first s count stop).steps := by
  simp only [trailAt, List.map_map, Function.comp_def, Nat.add_assoc, since_stepAt]

/-! ## The resumed run -/

/-- The run from a place of the orbit has the steps that the run from the start
takes from that place on. -/
theorem steps_runAt_orbit {k : Nat} (inside : k ≤ moves) :
    (runAt p (p.orbit s k) (moves - k + 1) .localOptimum).steps =
      ((runAt p s (moves + 1) .localOptimum).steps.drop k).map (Step.since k) := by
  have split : moves + 1 = k + (moves - k + 1) := by omega
  calc
    (trailAt p 0 (p.orbit s k) (moves - k + 1) .localOptimum).steps
      = (trailAt p (k + 0) (p.orbit s k) (moves - k + 1) .localOptimum).steps.map
          (Step.since k) := (map_since_steps_trailAt p k 0 _ _ _).symm
    _ = ((trailAt p 0 s (k + (moves - k + 1)) .localOptimum).steps.drop k).map
          (Step.since k) := by
        rw [steps_trailAt_add p 0 s k (moves - k + 1) .localOptimum .localOptimum,
          List.drop_left' (length_steps_trailAt p 0 s k .localOptimum), Nat.add_comm k 0]
    _ = ((trailAt p 0 s (moves + 1) .localOptimum).steps.drop k).map (Step.since k) := by
        rw [← split]

/-- It ends at the same solution, which has one fitness and one feasibility. -/
theorem result_runAt_orbit (settles : p.Settles s moves) (k : Nat) :
    let full := (runAt p s (moves + 1) .localOptimum).result
    let resumed := (runAt p (p.orbit s k) (moves - k + 1) .localOptimum).result
    resumed.solution = full.solution ∧ resumed.fitness = full.fitness ∧
      resumed.feasible = full.feasible := by
  have sameLast : placeAt p (p.orbit (p.orbit s k) (moves - k + 1)) =
      placeAt p (p.orbit s (moves + 1)) := by
    rw [settles.orbit_remaining k]
  exact ⟨congrArg (some ∘ Position.current) sameLast, congrArg Position.fitness sameLast,
    congrArg Position.feasible sameLast⟩

/-- Climbing without a cap from where a capped climb ended leads to the same
solution as climbing without a cap from the start.  If the cap cut the climb off,
the resumed run has the steps that were missing, counted from zero; otherwise it
has one iteration and stays where it is. -/
theorem solve_resumed {start : Solution} (searchable : p.Searchable)
    (valid : config.validate = .ok ()) (width : p.width = .ok start.length)
    (cap : Nat) (positive : 1 ≤ cap) :
    ∃ full capped resumed,
      solve (some p) (config.capped 0) .never (some start) = .ok full ∧
      solve (some p) (config.capped cap) .never (some start) = .ok capped ∧
      solve (some p) (config.capped 0) .never capped.result.solution = .ok resumed ∧
      resumed.result.solution = full.result.solution ∧
      resumed.result.fitness = full.result.fitness ∧
      resumed.result.feasible = full.result.feasible ∧
      (cap < full.result.iterations →
        resumed.result.iterations = full.result.iterations - cap ∧
        resumed.steps = (full.steps.drop cap).map (Step.since cap)) ∧
      (full.result.iterations ≤ cap →
        resumed.result.iterations = 1 ∧
        resumed.result.solution = capped.result.solution) := by
  have sameWidth := searchable.width_eq_ok_iff.mp width
  rcases Course.exists_settles searchable sameWidth with ⟨moves, settles⟩
  have fullSolved := solve_uncapped_eq searchable sameWidth valid settles
  have resumedSolved : ∀ k, solve (some p) (config.capped 0) .never (some (p.orbit start k)) =
      .ok (runAt p (p.orbit start k) (moves - k + 1) .localOptimum) :=
    fun k => solve_uncapped_eq searchable (Problem.orbit_width sameWidth k) valid (settles.orbit k)
  rcases Nat.lt_or_ge moves cap with enough | reached
  · -- The capped run is the whole run, which has seen that nothing is better.
    have cappedSolved := solve_capped_eq_of_ge searchable sameWidth valid settles enough
    rcases result_runAt_orbit settles (moves + 1) with ⟨solution, fitness, feasible⟩
    refine ⟨_, _, _, fullSolved, cappedSolved, resumedSolved (moves + 1), solution, fitness,
      feasible, ?_, fun _ => ⟨?_, solution⟩⟩
    · intro exceeded
      rw [iterations_runAt] at exceeded
      omega
    · rw [iterations_runAt]
      omega
  · have cappedSolved :=
      solve_capped_eq_of_le searchable sameWidth valid settles positive reached
    rcases result_runAt_orbit settles cap with ⟨solution, fitness, feasible⟩
    refine ⟨_, _, _, fullSolved, cappedSolved, resumedSolved cap, solution, fitness, feasible,
      fun _ => ⟨?_, steps_runAt_orbit reached⟩, ?_⟩
    · rw [iterations_runAt, iterations_runAt]
      omega
    · intro kept
      rw [iterations_runAt] at kept
      omega

/-- The knapsack's climb from its second demonstration start has five iterations.
Cut off after two and resumed, it takes the other three. -/
theorem solve_resumed_knapsack :
    ∃ full capped resumed,
      solve (some .knapsack) (Config.default.capped 0) .never
        (some (.ofInts [0, 0, 0, 0, 0, 0, 0, 0, 1, 0])) = .ok full ∧
      solve (some .knapsack) (Config.default.capped 2) .never
        (some (.ofInts [0, 0, 0, 0, 0, 0, 0, 0, 1, 0])) = .ok capped ∧
      solve (some .knapsack) (Config.default.capped 0) .never capped.result.solution =
        .ok resumed ∧
      full.result.iterations = 5 ∧ resumed.result.iterations = 3 ∧
      resumed.result.solution = full.result.solution ∧
      resumed.steps = (full.steps.drop 2).map (Step.since 2) := by
  have valid : Config.default.validate = .ok () := rfl
  have width : Problem.knapsack.width =
    .ok (Solution.ofInts [0, 0, 0, 0, 0, 0, 0, 0, 1, 0]).length := rfl
  rcases solve_resumed Problem.knapsack_searchable valid width 2 (by decide) with
    ⟨full, capped, resumed, fullSolved, cappedSolved, resumedSolved, solution, _, _, missing, _⟩
  have evaluated : (solve (some .knapsack) (Config.default.capped 0) .never
      (some (.ofInts [0, 0, 0, 0, 0, 0, 0, 0, 1, 0]))).map
        (fun run => run.result.iterations) = .ok 5 := rfl
  rw [fullSolved] at evaluated
  have iterations : full.result.iterations = 5 := Except.ok.inj evaluated
  rcases missing (by rw [iterations]; decide) with ⟨count, steps⟩
  rw [iterations] at count
  exact ⟨full, capped, resumed, fullSolved, cappedSolved, resumedSolved, iterations, count,
    solution, steps⟩

end Ascent.Climb
