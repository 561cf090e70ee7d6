import Ascent.Proofs.Climb.Request
import Ascent.Proofs.Climb.Termination
import Ascent.Proofs.Climb.Trace

/-!
# A cap only cuts a climb short

A climb with a cap and the climb without one go along the same orbit.  If the cap
is at least the number of iterations of the climb without it, the two runs are
equal: a climb that has seen its local optimum says so, also when the cap is
reached in the same moment.  A smaller cap leaves the first steps as they are and
ends the climb at the solution that the next step would have been about.

How often the orbit moves before it stands still is all that has to be known of
the climb without a cap.  `Problem.Settles` is this number, and the courses of the
climbs with every cap are read off it.
-/

namespace Ascent

namespace Problem

/-- The orbit of a solution moves a number of times and then stands still. -/
structure Settles (p : Problem) (s : Solution) (moves : Nat) : Prop where
  moving : p.Moving s moves
  settled : p.choice (p.orbit s moves) = none

/-- An orbit can be followed in two parts. -/
theorem orbit_add (p : Problem) (s : Solution) (i j : Nat) :
    p.orbit s (i + j) = p.orbit (p.orbit s i) j := by
  induction j with
  | zero => rfl
  | succ j ih => rw [← Nat.add_assoc, orbit_succ, ih, orbit_succ]

end Problem

namespace Climb

variable {p : Problem} {s : Solution} {config : Config} {moves cap : Nat}

/-! ## The heads of iterations under a cap -/

/-- The same rules with another cap; the cap zero is none. -/
def Config.capped (config : Config) (cap : Nat) : Config :=
  { config with maxIterations := cap }

theorem Config.validate_capped (valid : config.validate = .ok ()) (cap : Nat) :
    (config.capped cap).validate = .ok () := by
  rcases validate_eq_ok_iff.mp valid with ⟨_, neighborhood, selection⟩
  exact validate_eq_ok_iff.mpr ⟨Int.natCast_nonneg cap, neighborhood, selection⟩

theorem Config.capped_zero (uncapped : config.maxIterations = 0) : config.capped 0 = config := by
  cases config
  cases uncapped
  rfl

theorem stop?_capped_of_lt {iteration : Nat} (before : iteration < cap) :
    stop? (config.capped cap) .never iteration .fresh = none := by
  simp [stop?, Selector.fresh, Signal.never, Config.capReached, Config.capped, before]

theorem stop?_capped_self (positive : 0 < cap) :
    stop? (config.capped cap) .never cap .fresh = some .iterationCap := by
  simp [stop?, Selector.fresh, Signal.never, Config.capReached, Config.capped, positive]

/-! ## The courses with every cap -/

namespace Course

/-- Every orbit stands still at some time. -/
theorem exists_settles (searchable : p.Searchable) (width : s.length = p.weights.length) :
    ∃ moves, p.Settles s moves := by
  rcases exists_of_searchable searchable width Config.default .never 0 with
    ⟨moves, count, stop, course⟩
  have optimum := (course.reaches_optimum (stop?_never_of_uncapped rfl)).1
  exact ⟨moves, course.moving, (course.stop_eq_localOptimum_iff.mp optimum).2⟩

/-- Without a cap the iteration after the last move is the last one. -/
theorem of_uncapped (settles : p.Settles s moves) :
    Course p (config.capped 0) .never 0 s moves (moves + 1) .localOptimum where
  moving := settles.moving
  uncut := fun i _ => stop?_never_of_uncapped rfl (0 + i)
  ending := Or.inl ⟨rfl, rfl, settles.settled⟩

/-- A cap that leaves room for the iteration after the last move changes nothing. -/
theorem of_cap_ge (settles : p.Settles s moves) (enough : moves + 1 ≤ cap) :
    Course p (config.capped cap) .never 0 s moves (moves + 1) .localOptimum where
  moving := settles.moving
  uncut := by
    intro i before
    rw [Nat.zero_add]
    exact stop?_capped_of_lt (Nat.lt_of_lt_of_le before enough)
  ending := Or.inl ⟨rfl, rfl, settles.settled⟩

/-- A smaller cap is the number of moves and of iterations. -/
theorem of_cap_le (settles : p.Settles s moves) (positive : 0 < cap) (reached : cap ≤ moves) :
    Course p (config.capped cap) .never 0 s cap cap .iterationCap where
  moving := fun i before => settles.moving i (Nat.lt_of_lt_of_le before reached)
  uncut := by
    intro i before
    rw [Nat.zero_add]
    exact stop?_capped_of_lt before
  ending := by
    refine Or.inr ⟨rfl, ?_⟩
    rw [Nat.zero_add]
    exact stop?_capped_self positive

end Course

/-! ## The runs -/

theorem steps_runAt (p : Problem) (s : Solution) (count : Nat) (stop : Stop) :
    (runAt p s count stop).steps = (trailAt p 0 s count stop).steps :=
  rfl

theorem getElem?_steps_runAt {count : Nat} {stop : Stop} {i : Nat} {step : Step} :
    (runAt p s count stop).steps[i]? = some step ↔
      i < count ∧ stepAt p i (p.orbit s i) = step := by
  rw [steps_runAt, getElem?_steps_eq_some_iff, Nat.zero_add]

@[simp]
theorem length_steps_trailAt (p : Problem) (first : Nat) (s : Solution) (count : Nat)
    (stop : Stop) : (trailAt p first s count stop).steps.length = count := by
  simp [trailAt]

@[simp]
theorem iterations_runAt (p : Problem) (s : Solution) (count : Nat) (stop : Stop) :
    (runAt p s count stop).result.iterations = count := by
  simp [runAt, Trail.run]

theorem solve_uncapped_eq (searchable : p.Searchable) (width : s.length = p.weights.length)
    (valid : config.validate = .ok ()) (settles : p.Settles s moves) :
    solve (some p) (config.capped 0) .never (some s) =
      .ok (runAt p s (moves + 1) .localOptimum) :=
  solve_eq_of_course searchable width (Config.validate_capped valid 0)
    (Course.of_uncapped settles)

/-- A climb without a cap makes all moves of its orbit, and one iteration more. -/
theorem exists_settles_solve (searchable : p.Searchable) (width : s.length = p.weights.length)
    (valid : config.validate = .ok ()) (uncapped : config.maxIterations = 0) :
    ∃ moves, p.Settles s moves ∧
      solve (some p) config .never (some s) = .ok (runAt p s (moves + 1) .localOptimum) := by
  rcases Course.exists_settles searchable width with ⟨moves, settles⟩
  have solved := solve_uncapped_eq searchable width valid settles
  rw [Config.capped_zero uncapped] at solved
  exact ⟨moves, settles, solved⟩

theorem solve_capped_eq_of_ge (searchable : p.Searchable) (width : s.length = p.weights.length)
    (valid : config.validate = .ok ()) (settles : p.Settles s moves)
    (enough : moves + 1 ≤ cap) :
    solve (some p) (config.capped cap) .never (some s) =
      .ok (runAt p s (moves + 1) .localOptimum) :=
  solve_eq_of_course searchable width (Config.validate_capped valid cap)
    (Course.of_cap_ge settles enough)

theorem solve_capped_eq_of_le (searchable : p.Searchable) (width : s.length = p.weights.length)
    (valid : config.validate = .ok ()) (settles : p.Settles s moves) (positive : 0 < cap)
    (reached : cap ≤ moves) :
    solve (some p) (config.capped cap) .never (some s) = .ok (runAt p s cap .iterationCap) :=
  solve_eq_of_course searchable width (Config.validate_capped valid cap)
    (Course.of_cap_le settles positive reached)

/-- The steps of a trail are those up to some place and those from there on. -/
theorem steps_trailAt_add (p : Problem) (first : Nat) (s : Solution) (count more : Nat)
    (stop other : Stop) :
    (trailAt p first s (count + more) stop).steps =
      (trailAt p first s count other).steps ++
        (trailAt p (first + count) (p.orbit s count) more stop).steps := by
  simp only [trailAt, List.range_add, List.map_append, List.map_map, Function.comp_def,
    Problem.orbit_add, Nat.add_assoc]

theorem take_steps_trailAt {count longer : Nat} (shorter : count ≤ longer) (first : Nat)
    (stop other : Stop) :
    (trailAt p first s longer stop).steps.take count = (trailAt p first s count other).steps := by
  rcases Nat.exists_eq_add_of_le shorter with ⟨more, rfl⟩
  rw [steps_trailAt_add p first s count more stop other]
  exact List.take_left' (length_steps_trailAt p first s count other)

/-- A run with a cap is the run without one if the cap is at least its number of
iterations.  Otherwise its steps are the first ones of that run, as many as the cap
says, and its solution is that of the step behind them. -/
theorem solve_capped_cuts {start : Solution} (searchable : p.Searchable)
    (valid : config.validate = .ok ()) (width : p.width = .ok start.length)
    (cap : Nat) (positive : 1 ≤ cap) :
    ∃ full capped, solve (some p) (config.capped 0) .never (some start) = .ok full ∧
      solve (some p) (config.capped cap) .never (some start) = .ok capped ∧
      (full.result.iterations ≤ cap →
        capped = full ∧ capped.final.reason = "local-optimum" ∧
          capped.result.details.map Meta.stopped = some "local-optimum") ∧
      (cap < full.result.iterations →
        capped.steps = full.steps.take cap ∧
        (∃ step, full.steps[cap]? = some step ∧ capped.result.solution = some step.current) ∧
        capped.result.iterations = cap ∧
        capped.final.reason = "max-iterations" ∧
        capped.result.details.map Meta.stopped = some "max-iterations" ∧
        capped.error = none) := by
  have sameWidth := searchable.width_eq_ok_iff.mp width
  rcases Course.exists_settles searchable sameWidth with ⟨moves, settles⟩
  have fullSolved := solve_uncapped_eq searchable sameWidth valid settles
  rcases Nat.lt_or_ge moves cap with enough | reached
  · refine ⟨_, _, fullSolved, solve_capped_eq_of_ge searchable sameWidth valid settles enough,
      fun _ => ⟨rfl, rfl, rfl⟩, ?_⟩
    intro exceeded
    rw [iterations_runAt] at exceeded
    omega
  · have next : (runAt p start (moves + 1) .localOptimum).steps[cap]? =
        some (stepAt p cap (p.orbit start cap)) :=
      getElem?_steps_runAt.mpr ⟨Nat.lt_succ_of_le reached, rfl⟩
    refine ⟨_, _, fullSolved,
      solve_capped_eq_of_le searchable sameWidth valid settles positive reached, ?_,
      fun _ => ⟨?_, ⟨_, next, rfl⟩, iterations_runAt _ _ _ _, rfl, rfl, rfl⟩⟩
    · intro kept
      rw [iterations_runAt] at kept
      omega
    · rw [steps_runAt, steps_runAt]
      exact (take_steps_trailAt (Nat.le_succ_of_le reached) 0 .localOptimum .iterationCap).symm

/-- The knapsack's climb from its first demonstration start has four iterations: a
cap of four changes nothing, and a cap of three ends at the same solution for
another reason. -/
theorem solve_capped_cuts_knapsack :
    ∃ full four three, solve (some .knapsack) (Config.default.capped 0) .never
        (some (.zeros 10)) = .ok full ∧
      solve (some .knapsack) (Config.default.capped 4) .never (some (.zeros 10)) = .ok four ∧
      solve (some .knapsack) (Config.default.capped 3) .never (some (.zeros 10)) = .ok three ∧
      full.result.iterations = 4 ∧ four = full ∧
      three.steps = full.steps.take 3 ∧ three.result.solution = full.result.solution ∧
      three.final.reason = "max-iterations" := by
  have valid : Config.default.validate = .ok () := rfl
  have width : Problem.knapsack.width = .ok (Solution.zeros 10).length := rfl
  rcases solve_capped_cuts Problem.knapsack_searchable valid width 4 (by decide) with
    ⟨full, four, fullSolved, fourSolved, kept, _⟩
  rcases solve_capped_cuts Problem.knapsack_searchable valid width 3 (by decide) with
    ⟨again, three, againSolved, threeSolved, _, cut⟩
  obtain rfl : full = again := Except.ok.inj (fullSolved.symm.trans againSolved)
  have evaluated : (solve (some .knapsack) (Config.default.capped 0) .never
      (some (.zeros 10))).map (fun run => (run.result.iterations, run.result.solution)) =
        .ok (4, some (.ofInts [0, 0, 0, 1, 1, 0, 0, 0, 0, 1])) := rfl
  have threeEvaluated : (solve (some .knapsack) (Config.default.capped 3) .never
      (some (.zeros 10))).map (fun run => run.result.solution) =
        .ok (some (.ofInts [0, 0, 0, 1, 1, 0, 0, 0, 0, 1])) := rfl
  rw [fullSolved] at evaluated
  rw [threeSolved] at threeEvaluated
  have iterations : full.result.iterations = 4 := congrArg Prod.fst (Except.ok.inj evaluated)
  have solution := congrArg Prod.snd (Except.ok.inj evaluated)
  have threeSolution := Except.ok.inj threeEvaluated
  rcases cut (by rw [iterations]; decide) with ⟨steps, _, _, reason, _⟩
  exact ⟨full, four, three, fullSolved, fourSolved, threeSolved, iterations,
    (kept (by rw [iterations]; decide)).1, steps, threeSolution.trans solution.symm, reason⟩

end Climb

end Ascent
