import Ascent.Proofs.Climb.Course

/-!
# A climb ends by itself

Without a cap and without an interruption a climb reaches a local optimum, and
it gets there in at most one iteration more than there are variables.  That the
fitness grows would only bound the climb by the number of solutions.  The linear
bound comes from the variables: none is inverted twice, whatever the weights
are and however the constraints restrict the moves.
-/

namespace Ascent.Climb

variable {p : Problem} {s : Solution} {config : Config} {signal : Signal}

theorem stop?_never_of_uncapped (uncapped : config.maxIterations = 0) (iteration : Nat) :
    stop? config .never iteration .fresh = none := by
  simp [stop?, Selector.fresh, Signal.never, Config.capReached, uncapped]

/-- Without an interruption a climb is cut off by its cap only. -/
theorem eq_iterationCap_of_never {iteration : Nat} {stop : Stop}
    (cut : stop? config .never iteration .fresh = some stop) : stop = .iterationCap := by
  have incomplete : Selector.fresh.complete = false := rfl
  simp only [stop?, incomplete, Signal.never, Bool.false_eq_true, if_false] at cut
  cases capped : config.capReached iteration with
  | false => simp [capped] at cut
  | true =>
      rw [capped, if_pos rfl, Option.some.injEq] at cut
      exact cut.symm

/-- A climb that nothing cuts off ends at a local optimum, with the iteration
after its last move. -/
theorem Course.reaches_optimum {first moves count : Nat} {stop : Stop}
    (course : Course p config signal first s moves count stop)
    (uncut : ∀ i, stop? config signal i .fresh = none) :
    stop = .localOptimum ∧ count = moves + 1 := by
  rcases course.ending with ⟨countEq, stopEq, _⟩ | ⟨_, cut⟩
  · exact ⟨stopEq, countEq⟩
  · rw [uncut] at cut
    contradiction

/-- The steps of a trail that move select different variables. -/
theorem selected_nodup (searchable : p.Searchable) (width : s.length = p.weights.length)
    (first count : Nat) (stop : Stop) :
    (((trailAt p first s count stop).steps.filter fun step => !step.terminal).map
      Step.selected).Nodup := by
  rw [List.nodup_iff_pairwise_ne, List.pairwise_map, List.pairwise_filter, trailAt,
    List.pairwise_map]
  apply List.pairwise_lt_range.imp
  intro i j before moves later
  rw [terminal_stepAt, Option.not_isNone, Option.isSome_iff_exists] at moves later
  rcases moves with ⟨k, chosen⟩
  rcases later with ⟨l, laterChosen⟩
  rw [selected_stepAt chosen, selected_stepAt laterChosen]
  exact fun equal =>
    searchable.choice_orbit_ne width before chosen laterChosen (Int.ofNat.inj equal)

/-- A climb without a cap that is not interrupted returns with a local optimum
after at least one and at most `start.length + 1` iterations, and its moves invert
pairwise different variables.  The recursion returns the same trail with every
bound that exceeds the number of iterations, so the climb ends by itself. -/
theorem solve_uncapped_ends {start : Solution} (searchable : p.Searchable)
    (valid : config.validate = .ok ()) (uncapped : config.maxIterations = 0)
    (width : p.width = .ok start.length) :
    ∃ run, solve (some p) config .never (some start) = .ok run ∧
      run.error = none ∧
      run.final.reason = "local-optimum" ∧
      run.result.details.map Meta.stopped = some "local-optimum" ∧
      1 ≤ run.result.iterations ∧ run.result.iterations ≤ start.length + 1 ∧
      ((run.steps.filter fun step => !step.terminal).map Step.selected).Nodup ∧
      ∃ position trail, Position.start p start = .ok position ∧
        run = trail.run start.length start ∧
        ∀ fuel, trail.steps.length < fuel →
          ascend p config .never fuel 0 .fresh position = .ok trail := by
  have sameWidth := searchable.width_eq_ok_iff.mp width
  rcases exists_course searchable sameWidth valid .never with
    ⟨moves, count, stop, course, solved⟩
  rcases course.reaches_optimum (stop?_never_of_uncapped uncapped) with ⟨rfl, rfl⟩
  have stepCount : (trailAt p 0 start (moves + 1) .localOptimum).steps.length = moves + 1 := by
    simp [trailAt]
  refine ⟨_, solved, rfl, rfl, rfl, ?_, ?_, ?_, placeAt p start, _,
    start_eq_placeAt searchable sameWidth, rfl, ?_⟩
  · simp only [Trail.run, stepCount]
    omega
  · have bound := course.count_le_length searchable sameWidth
    simp only [Trail.run, stepCount]
    omega
  · exact selected_nodup searchable sameWidth 0 (moves + 1) .localOptimum
  · intro fuel enough
    rw [stepCount] at enough
    exact course.ascend_eq searchable sameWidth enough

/-- A problem whose sums wrap around: two of the variables may be true. -/
def wrapping : Problem where
  name := "wrapping"
  objective := some ⟨[-9223372036854775808, -1, 5]⟩
  constraints := some ⟨[⟨[1, 1, 1], some .lessOrEqual, 2⟩]⟩

theorem wrapping_searchable : wrapping.Searchable where
  valid := rfl
  constructible := by
    intro c member
    obtain rfl : c = ⟨[1, 1, 1], some .lessOrEqual, 2⟩ := by
      simpa [wrapping, Problem.members] using member
    exact Constraint.Constructible.built (Constraint.make_eq_ok_iff.mpr ⟨by simp, rfl⟩)

/-- From the lowest fitness there is, taking a negative weight leads to the highest. -/
theorem solve_uncapped_ends_wrapping :
    ∃ run, solve (some wrapping) .default .never (some (.ofInts [1, 0, 0])) = .ok run ∧
      run.result.fitness = 9223372036854775807 ∧
      run.final.reason = "local-optimum" ∧ run.result.iterations ≤ 4 ∧
      ((run.steps.filter fun step => !step.terminal).map Step.selected).Nodup := by
  have valid : Config.default.validate = .ok () := rfl
  have width : wrapping.width = .ok (Solution.ofInts [1, 0, 0]).length := rfl
  rcases solve_uncapped_ends wrapping_searchable valid rfl width with
    ⟨run, solved, _, reason, _, _, bound, distinct, _⟩
  have evaluated : (solve (some wrapping) .default .never (some (.ofInts [1, 0, 0]))).map
      (fun run => run.result.fitness) = .ok 9223372036854775807 := rfl
  rw [solved] at evaluated
  exact ⟨run, solved, Except.ok.inj evaluated, reason, bound, distinct⟩

end Ascent.Climb
