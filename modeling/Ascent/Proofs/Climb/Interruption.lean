import Ascent.Proofs.Climb.Capping
import Ascent.Proofs.Climb.Safety

/-!
# Interrupting a climb

A climb asks at the head of every iteration whether it should stop.  An interruption
from some question on cuts the climb off there, unless the climb is over before the
question is asked.  A climb that has seen its local optimum asks nothing any more.  A
climb that has reached its cap is asked once more, so an interruption in this very
moment still counts.

Both rules say the same about the moves: the interruption comes too late exactly if
its question lies behind the number of moves that the climb makes without it.  What is
left of an interrupted climb is a piece of the same orbit.
-/

namespace Ascent.Climb

variable {p : Problem} {s : Solution} {config : Config} {interrupt : Interrupt} {j : Nat}

/-! ## The heads of iterations under an interruption -/

theorem stop?_since_of_lt {iteration : Nat} (before : iteration < j) (selector : Selector) :
    stop? config (.since j interrupt) iteration selector =
      stop? config .never iteration selector := by
  simp only [stop?, Signal.since, Signal.never, if_neg (Nat.not_le.mpr before)]

theorem stop?_since_of_ge {iteration : Nat} (reached : j ≤ iteration) :
    stop? config (.since j interrupt) iteration .fresh = some (.interrupted interrupt) := by
  simp [stop?, Selector.fresh, Signal.since, reached]

/-! ## The courses under an interruption -/

namespace Course

variable {moves count : Nat} {stop : Stop}

/-- An interruption behind the last move changes nothing. -/
theorem of_since_gt (course : Course p config .never 0 s moves count stop)
    (interrupt : Interrupt) (late : moves < j) :
    Course p config (.since j interrupt) 0 s moves count stop where
  moving := course.moving
  uncut := by
    intro i inside
    have asked : 0 + i < j := by
      have bound := course.count_bounds.2
      omega
    rw [stop?_since_of_lt asked]
    exact course.uncut i inside
  ending := by
    rcases course.ending with ended | ⟨countEq, cut⟩
    · exact Or.inl ended
    · refine Or.inr ⟨countEq, ?_⟩
      rw [Nat.zero_add] at cut ⊢
      rw [stop?_since_of_lt late]
      exact cut

/-- An earlier one leaves the moves in front of its question. -/
theorem of_since_le (course : Course p config .never 0 s moves count stop)
    (interrupt : Interrupt) (reached : j ≤ moves) :
    Course p config (.since j interrupt) 0 s j j (.interrupted interrupt) where
  moving := fun i before => course.moving i (Nat.lt_of_lt_of_le before reached)
  uncut := by
    intro i before
    have inside : i < count := by
      have bound := course.count_bounds.1
      omega
    have uncut := course.uncut i inside
    rw [Nat.zero_add] at uncut ⊢
    rw [stop?_since_of_lt before]
    exact uncut
  ending := by
    refine Or.inr ⟨rfl, ?_⟩
    rw [Nat.zero_add]
    exact stop?_since_of_ge (Nat.le_refl j)

end Course

/-! ## The runs -/

/-- The run is over before question `j` is asked.  At a local optimum no question
follows the last iteration; at the cap there is one more. -/
def Run.EndsBefore (run : Run) (j : Nat) : Prop :=
  (run.final.reason = "local-optimum" ∧ run.result.iterations ≤ j) ∨
    (run.final.reason = "max-iterations" ∧ run.result.iterations < j)

/-- An uninterrupted run is over before a question exactly if it makes fewer moves. -/
theorem Course.endsBefore_iff {moves count : Nat} {stop : Stop}
    (course : Course p config .never 0 s moves count stop) :
    (runAt p s count stop).EndsBefore j ↔ moves < j := by
  have reason : (runAt p s count stop).final.reason = stop.reason := rfl
  rw [Run.EndsBefore, iterations_runAt, reason]
  rcases course.ending with ⟨rfl, rfl, _⟩ | ⟨rfl, cut⟩
  · have fewer : (moves : Int) + 1 ≤ j ↔ moves < j := by omega
    simp [Stop.reason, fewer]
  · rw [eq_iterationCap_of_never cut]
    simp [Stop.reason]

/-- The solution that is visited after some of the moves of a course. -/
theorem Course.getElem?_visited {signal : Signal} {first moves count : Nat} {stop : Stop}
    (searchable : p.Searchable) (width : s.length = p.weights.length)
    (course : Course p config signal first s moves count stop) (reached : j ≤ moves) :
    (visited s (trailAt p first s count stop).steps)[j]? = some (p.orbit s j) := by
  rw [course.visited_eq searchable width, List.getElem?_map,
    List.getElem?_range (Nat.lt_succ_of_le reached), Option.map_some]

/-- A climb that is interrupted from question `j` on is the uninterrupted climb, if that
one is over before the question.  Otherwise the reporters are told its first `j` steps
and an end with the reason of an interruption; the error is that of the interruption,
and the result belongs to the solution that the uninterrupted climb visits after `j`
moves. -/
theorem solve_interrupted_cuts {start : Solution} (searchable : p.Searchable)
    (valid : config.validate = .ok ()) (width : p.width = .ok start.length)
    (reporters : List Reporter) (j : Nat) (interrupt : Interrupt) :
    ∃ full cut, solve (some p) config .never (some start) = .ok full ∧
      solve (some p) config (.since j interrupt) (some start) = .ok cut ∧
      Loop.solve reporters config (some p) (.since j interrupt) (some start) =
        .ok cut.attempt ∧
      (full.EndsBefore j → cut = full ∧ cut.error = none) ∧
      (¬ full.EndsBefore j →
        cut.events = (full.steps.take j).map .step ++ [.final cut.final] ∧
        cut.steps.length = j ∧
        cut.error = some (.of (.interrupted interrupt)) ∧
        cut.result.iterations = j ∧
        ∃ reached, (visited start full.steps)[j]? = some reached ∧
          cut.result.solution = some reached ∧
          p.fitness reached = .ok cut.result.fitness ∧
          p.feasible reached = .ok cut.result.feasible ∧
          cut.final = ⟨j, reached, cut.result.fitness, cut.result.feasible, "context"⟩) := by
  have sameWidth := searchable.width_eq_ok_iff.mp width
  rcases exists_course searchable sameWidth valid .never with
    ⟨moves, count, stop, course, fullSolved⟩
  -- A settled climb ends before it asks, and a capped one only behind its question: both
  -- ties of the statement are decided by this one comparison.
  rcases Nat.lt_or_ge moves j with late | reached
  · have cutSolved := solve_eq_of_course searchable sameWidth valid
      (course.of_since_gt interrupt late)
    refine ⟨_, _, fullSolved, cutSolved,
      Loop.solve_eq_attempt searchable cutSolved reporters, fun _ => ⟨rfl, course.error?_never⟩,
      fun early => ?_⟩
    exact absurd (course.endsBefore_iff.mpr late) early
  · have cutSolved := solve_eq_of_course searchable sameWidth valid
      (course.of_since_le interrupt reached)
    have reachedWidth := Problem.orbit_width (p := p) sameWidth j
    refine ⟨_, _, fullSolved, cutSolved,
      Loop.solve_eq_attempt searchable cutSolved reporters, fun ended => ?_, fun _ => ?_⟩
    · exact absurd (course.endsBefore_iff.mp ended) (Nat.not_lt.mpr reached)
    · have steps := take_steps_trailAt (p := p) (s := start)
        (Nat.le_trans reached course.count_bounds.1) 0 stop (.interrupted interrupt)
      have length := length_steps_trailAt p 0 start j (.interrupted interrupt)
      refine ⟨?_, length, rfl, congrArg Int.ofNat length, p.orbit start j,
        course.getElem?_visited searchable sameWidth reached, rfl,
        searchable.fitness_eq reachedWidth, searchable.feasible_eq reachedWidth, ?_⟩
      · rw [Run.events]
        exact congrArg (fun steps => List.map Event.step steps ++ _) steps.symm
      · simp [Trail.run, trailAt, placeAt, Stop.reason]

/-- The knapsack's climb from its first demonstration start with a cap of three,
interrupted in the moment in which the cap is reached and one question later. -/
theorem solve_interrupted_cuts_atCap :
    ∃ full cut late, solve (some .knapsack) (Config.default.capped 3) .never
        (some (.zeros 10)) = .ok full ∧
      solve (some .knapsack) (Config.default.capped 3) (.since 3 .cancelled)
        (some (.zeros 10)) = .ok cut ∧
      solve (some .knapsack) (Config.default.capped 3) (.since 4 .deadline)
        (some (.zeros 10)) = .ok late ∧
      full.final.reason = "max-iterations" ∧ full.result.iterations = 3 ∧ late = full ∧
      cut.events = (full.steps.take 3).map .step ++ [.final cut.final] ∧
      cut.final.reason = "context" ∧ cut.error = some (.of (.interrupted .cancelled)) := by
  have valid : (Config.default.capped 3).validate = .ok () := rfl
  have width : Problem.knapsack.width = .ok (Solution.zeros 10).length := rfl
  rcases solve_interrupted_cuts Problem.knapsack_searchable valid width [] 3 .cancelled with
    ⟨full, cut, fullSolved, cutSolved, _, _, early⟩
  rcases solve_interrupted_cuts Problem.knapsack_searchable valid width [] 4 .deadline with
    ⟨again, late, againSolved, lateSolved, _, ended, _⟩
  obtain rfl : full = again := Except.ok.inj (fullSolved.symm.trans againSolved)
  have evaluated : (solve (some .knapsack) (Config.default.capped 3) .never
      (some (.zeros 10))).map (fun run => (run.final.reason, run.result.iterations)) =
        .ok ("max-iterations", 3) := rfl
  rw [fullSolved] at evaluated
  have reason : full.final.reason = "max-iterations" :=
    congrArg Prod.fst (Except.ok.inj evaluated)
  have iterations : full.result.iterations = 3 := congrArg Prod.snd (Except.ok.inj evaluated)
  have asked : ¬ full.EndsBefore 3 := by simp [Run.EndsBefore, reason, iterations]
  have unasked : full.EndsBefore 4 := Or.inr ⟨reason, by rw [iterations]; decide⟩
  rcases early asked with ⟨events, _, error, _, reached, _, _, _, _, final⟩
  exact ⟨full, cut, late, fullSolved, cutSolved, lateSolved, reason, iterations,
    (ended unasked).1, events, congrArg Final.reason final, error⟩

end Ascent.Climb
