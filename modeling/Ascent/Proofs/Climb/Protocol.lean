import Ascent.Proofs.Climb.Capping
import Ascent.Proofs.Climb.Loop
import Ascent.Proofs.Climb.Optimality

/-!
# What reporters are told

A refused request tells the reporters nothing.  Every other climb tells them its
steps, numbered from zero, and then its end once.  The loop can be left in three
places and its two counters move at different points of an iteration, but at each
exit they agree with what was told: there were as many iterations as steps, and
each of them evaluated one neighbor for every variable.  A step that selects
nothing is the last one, and the end says that the climb reached a local optimum
exactly if there was such a step.
-/

namespace Ascent.Climb

open Benchmark (Attempt blankResult climber)

/-- An answer whose events follow the protocol, for a problem with `width`
variables. -/
structure Protocol (width : Nat) (attempt : Attempt) (steps : List Step) (final : Final) :
    Prop where
  events : attempt.events = steps.map .step ++ [.final final]
  numbered : steps.map Step.iteration = (List.range steps.length).map fun (i : Nat) => (i : Int)
  finalIteration : final.iteration = steps.length
  iterations : attempt.result.iterations = steps.length
  evaluations : attempt.result.evaluations = 1 + Int64.ofNat width * Int64.ofNat steps.length
  /-- A terminal step is one that selects nothing. -/
  terminal : ∀ step ∈ steps, step.terminal = true ↔ step.selected = -1
  /-- At most the last step is terminal. -/
  terminalLast : ∀ (i : Nat) (step : Step), steps[i]? = some step → step.terminal = true →
    i + 1 = steps.length
  /-- A terminal step and the reason of a local optimum go together. -/
  reason : (∃ step ∈ steps, step.terminal = true) ↔ final.reason = "local-optimum"
  stopped : attempt.result.details.map Meta.stopped = some final.reason

variable {p : Problem} {s : Solution} {config : Config} {signal : Signal}

theorem terminal_iff_selected (p : Problem) (iteration : Nat) (s : Solution) :
    (stepAt p iteration s).terminal = true ↔ (stepAt p iteration s).selected = -1 := by
  cases chosen : p.choice s with
  | none => simp [stepAt, Step.terminal, chosen]
  | some k => simp [stepAt, Step.terminal, chosen]

namespace Course

variable {moves count : Nat} {stop : Stop}

/-- A step of a course is terminal exactly if it is the last one and the course ends
with a local optimum. -/
theorem terminal_iff (course : Course p config signal 0 s moves count stop) {i : Nat}
    (inside : i < count) :
    (stepAt p i (p.orbit s i)).terminal = true ↔ i + 1 = count ∧ stop = .localOptimum := by
  rw [terminal_stepAt, course.stop_eq_localOptimum_iff]
  have bound := course.count_bounds.2
  constructor
  · intro still
    -- Up to the last move something is chosen, so this step stands behind all moves.
    have notMoving : ¬ i < moves := by
      intro before
      have chosen := course.moving i before
      rw [Option.isNone_iff_eq_none.mp still] at chosen
      exact absurd chosen (by simp)
    obtain rfl : i = moves := by omega
    have last : i + 1 = count := by omega
    exact ⟨last, last.symm, Option.isNone_iff_eq_none.mp still⟩
  · rintro ⟨last, countEq, settled⟩
    obtain rfl : i = moves := by omega
    rw [settled, Option.isNone_none]

/-- The run of a course follows the protocol. -/
theorem protocol (course : Course p config signal 0 s moves count stop) :
    let run := runAt p s count stop
    Protocol s.length run.attempt run.steps run.final where
  events := rfl
  numbered := by
    rw [steps_runAt, length_steps_trailAt]
    simp only [trailAt, List.map_map, Function.comp_def, stepAt, Nat.zero_add]
  finalIteration := rfl
  iterations := rfl
  evaluations := by
    simp [runAt, Run.attempt, Trail.run, Int64.ofInt_eq_ofNat]
  terminal := by
    intro step member
    rcases List.mem_iff_getElem?.mp member with ⟨i, found⟩
    rcases getElem?_steps_runAt.mp found with ⟨_, rfl⟩
    exact terminal_iff_selected p i (p.orbit s i)
  terminalLast := by
    intro i step found terminal
    rcases getElem?_steps_runAt.mp found with ⟨inside, rfl⟩
    rw [steps_runAt, length_steps_trailAt]
    exact ((course.terminal_iff inside).mp terminal).1
  reason := by
    change _ ↔ stop.reason = "local-optimum"
    rw [reason_eq_localOptimum_iff]
    constructor
    · rintro ⟨step, member, terminal⟩
      rcases List.mem_iff_getElem?.mp member with ⟨i, found⟩
      rcases getElem?_steps_runAt.mp found with ⟨inside, rfl⟩
      exact ((course.terminal_iff inside).mp terminal).2
    · intro reached
      have countEq := (course.stop_eq_localOptimum_iff.mp reached).1
      have inside : moves < count := by omega
      have found : (runAt p s count stop).steps[moves]? =
          some (stepAt p moves (p.orbit s moves)) :=
        getElem?_steps_runAt.mpr ⟨inside, rfl⟩
      exact ⟨_, List.mem_of_getElem? found,
        (course.terminal_iff inside).mpr ⟨countEq.symm, reached⟩⟩
  stopped := rfl

end Course

/-- Every request that a caller can put together is answered by the loop and by the
climb alike.  If it fails a check, the reporters are told nothing and the result is
blank.  Otherwise the answer follows the protocol, with the number of variables of
the problem as the width. -/
theorem solve_follows_protocol (reporters : List Reporter) (config : Config)
    (p? : Option Problem) (signal : Signal) (start? : Option Solution)
    (constructible : ∀ p ∈ p?, ∀ c ∈ p.members, c.Constructible) :
    ∃ attempt, Loop.solve reporters config p? signal start? = .ok attempt ∧
      climber config p? signal start? = .ok attempt ∧
      (¬ Accepted p? config start? →
        attempt.events = [] ∧ attempt.result = blankResult ∧ attempt.error.isSome) ∧
      (Accepted p? config start? →
        ∃ p width steps final, p? = some p ∧ p.width = .ok width ∧
          Protocol width attempt steps final) := by
  rw [Loop.solve_eq_climber reporters config p? signal start? constructible]
  rcases exists_answer constructible config signal start? with ⟨attempt, answered, answer⟩
  refine ⟨attempt, answered, answered, ?_⟩
  cases answer with
  | refused rejected error =>
      exact ⟨fun _ => ⟨rfl, rfl, rfl⟩, fun accepted => absurd accepted rejected⟩
  | @climbed p _ _ start _ _ _ accepted searchable width course =>
      refine ⟨fun rejected => absurd accepted rejected, fun _ => ?_⟩
      exact ⟨p, start.length, _, _, rfl, searchable.width_eq_ok_iff.mpr width, course.protocol⟩

/-- The knapsack's climb from its first demonstration start, interrupted at the
third question: it tells two steps and no terminal one. -/
theorem solve_follows_protocol_interrupted :
    ∃ attempt steps final, Loop.solve [.recorder .empty] .default (some .knapsack)
        (.since 2 .cancelled) (some (.zeros 10)) = .ok attempt ∧
      Protocol 10 attempt steps final ∧ steps.length = 2 ∧ final.reason = "context" ∧
      attempt.result.evaluations = 21 := by
  have constructible : ∀ p ∈ some Problem.knapsack, ∀ c ∈ p.members, c.Constructible := by
    intro p here
    obtain rfl : Problem.knapsack = p := Option.some.inj here
    exact Problem.knapsack_searchable.constructible
  have accepted : Accepted (some .knapsack) .default (some (.zeros 10)) := ⟨rfl, rfl, rfl⟩
  rcases solve_follows_protocol [.recorder .empty] .default (some .knapsack)
      (.since 2 .cancelled) (some (.zeros 10)) constructible with
    ⟨attempt, answered, _, _, followed⟩
  rcases followed accepted with ⟨p, width, steps, final, found, widthEq, protocol⟩
  obtain rfl : Problem.knapsack = p := Option.some.inj found
  obtain rfl : 10 = width := Except.ok.inj widthEq
  have evaluated : (Loop.solve [.recorder .empty] .default (some .knapsack)
      (.since 2 .cancelled) (some (.zeros 10))).map (fun attempt =>
        (attempt.result.iterations, attempt.result.details.map Meta.stopped,
          attempt.result.evaluations)) = .ok (2, some "context", 21) := rfl
  rw [answered] at evaluated
  have values := Except.ok.inj evaluated
  have iterations : attempt.result.iterations = 2 := congrArg Prod.fst values
  have stopped : attempt.result.details.map Meta.stopped = some "context" :=
    congrArg (fun value => value.2.1) values
  have evaluations : attempt.result.evaluations = 21 := congrArg (fun value => value.2.2) values
  rw [protocol.iterations] at iterations
  rw [protocol.stopped] at stopped
  exact ⟨attempt, steps, final, answered, protocol, Int.ofNat.inj iterations,
    Option.some.inj stopped, evaluations⟩

end Ascent.Climb
