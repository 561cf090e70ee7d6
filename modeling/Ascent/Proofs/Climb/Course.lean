import Ascent.Climb
import Ascent.Proofs.Climb.Orbit

/-!
# The course of a climb

Between two iterations a climb remembers a solution, its fitness, whether it is
feasible, and whether the selector has given up.  For a searchable problem the
remembered fitness and feasibility are always those of the solution, so a climb
is a piece of the orbit of its start.  `Course` says how long this piece is: it
ends with the step that finds no improvement, or at the first head of an
iteration where the climb is cut off.

The steps of a climb are then given by a formula, `Climb.trailAt`, and every
later statement about a run is a statement about the orbit.  The bound on the
recursion of `Climb.ascend` does not occur in it.
-/

namespace Ascent.Climb

variable {p : Problem} {s : Solution} {config : Config} {signal : Signal}

/-! ## One iteration -/

/-- A climb that stands at a solution. -/
def placeAt (p : Problem) (s : Solution) : Position :=
  ⟨s, p.value s, p.accepts s⟩

/-- The report on neighbor `k`. -/
def entry (p : Problem) (k : Nat) (neighbor : Solution) : Neighbor where
  solution := neighbor
  bit := k + 1
  feasible := p.accepts neighbor
  fitness := if p.accepts neighbor then p.value neighbor else 0

/-- The step that is taken at a solution. -/
def stepAt (p : Problem) (iteration : Nat) (s : Solution) : Step where
  iteration := iteration
  current := s
  fitness := p.value s
  feasible := p.accepts s
  neighbors := s.neighbors.mapIdx (entry p)
  selected := match p.choice s with
    | some k => k
    | none => -1

@[simp]
theorem terminal_stepAt (p : Problem) (iteration : Nat) (s : Solution) :
    (stepAt p iteration s).terminal = (p.choice s).isNone := by
  cases chosen : p.choice s with
  | none => simp [Step.terminal, stepAt, chosen]
  | some k => simp [Step.terminal, stepAt, chosen]

theorem selected_stepAt {k : Nat} (chosen : p.choice s = some k) (iteration : Nat) :
    (stepAt p iteration s).selected = k := by
  simp [stepAt, chosen]

theorem start_eq_placeAt (searchable : p.Searchable) (width : s.length = p.weights.length) :
    Position.start p s = .ok (placeAt p s) := by
  simp [Position.start, searchable.fitness_eq width, searchable.feasible_eq width, placeAt]

theorem describe_eq_entry (searchable : p.Searchable) (width : s.length = p.weights.length)
    (k : Nat) : describe p k s = .ok (entry p k s) := by
  rw [describe, searchable.feasible_eq width, searchable.fitness_eq width, entry]
  cases accepted : p.accepts s with
  | false => simp
  | true => simp

theorem describeFrom_eq_mapIdx (searchable : p.Searchable) {neighbors : List Solution}
    (widths : ∀ c ∈ neighbors, c.length = p.weights.length) (first : Nat) :
    describeFrom p first neighbors = .ok (neighbors.mapIdx fun k => entry p (first + k)) := by
  induction neighbors generalizing first with
  | nil => rfl
  | cons neighbor rest ih =>
      have described := describe_eq_entry searchable (widths neighbor List.mem_cons_self) first
      have restDescribed :=
        ih (fun c member => widths c (List.mem_cons_of_mem neighbor member)) (first + 1)
      rw [describeFrom, described, restDescribed, List.mapIdx_cons]
      simp only [ok_bind, pure_eq_ok, Nat.add_zero, Nat.add_assoc, Nat.add_comm 1]

/-- After an iteration the climb stands at the next solution of the orbit. -/
theorem after_eq_placeAt (searchable : p.Searchable) (width : s.length = p.weights.length) :
    (placeAt p s).after (s.neighbors.mapIdx (entry p)) (p.choice s) =
      .ok (placeAt p (p.advance s)) := by
  cases chosen : p.choice s with
  | none => rw [Problem.advance_of_choice_eq_none chosen, Position.after]
  | some k =>
      rcases searchable.of_choice_eq_some width chosen with ⟨inside, accepted, _⟩
      rw [Problem.advance_of_choice_eq_some chosen, Position.after, List.getElem?_mapIdx,
        Solution.getElem?_neighbors inside]
      simp [entry, placeAt, accepted]

/-- One iteration reports the step at its solution and goes on along the orbit.
The selector gives up when nothing is chosen. -/
theorem iterate_placeAt (searchable : p.Searchable) (width : s.length = p.weights.length)
    (iteration : Nat) (selector : Selector) :
    iterate p iteration selector (placeAt p s) =
      .ok (stepAt p iteration s, placeAt p (p.advance s),
        ⟨selector.complete || (p.choice s).isNone⟩) := by
  have selected := searchable.bestImprovement_neighbors width
  have described := describeFrom_eq_mapIdx searchable (Problem.neighbors_widths width) 0
  have moved := after_eq_placeAt searchable width
  simp only [Nat.zero_add] at described
  simp only [iterate, Selector.select, placeAt, selected, described, ok_bind, pure_eq_ok]
  simp only [placeAt] at moved
  rw [moved]
  rfl

/-! ## The whole climb -/

/-- How a climb from `s` that begins with iteration `first` proceeds: it makes
`moves` moves in `count` iterations and ends for the reason `stop`. -/
structure Course (p : Problem) (config : Config) (signal : Signal) (first : Nat) (s : Solution)
    (moves count : Nat) (stop : Stop) : Prop where
  moving : p.Moving s moves
  uncut : ∀ i < count, stop? config signal (first + i) .fresh = none
  /-- Either one more iteration finds no improvement, or the climb is cut off. -/
  ending : (count = moves + 1 ∧ stop = .localOptimum ∧ p.choice (p.orbit s moves) = none) ∨
    (count = moves ∧ stop? config signal (first + moves) .fresh = some stop)

/-- The trail of a climb: the steps along the orbit, and where it ended. -/
def trailAt (p : Problem) (first : Nat) (s : Solution) (count : Nat) (stop : Stop) : Trail where
  steps := (List.range count).map fun i => stepAt p (first + i) (p.orbit s i)
  last := placeAt p (p.orbit s count)
  stop := stop

theorem trailAt_succ (p : Problem) (first : Nat) (s : Solution) (count : Nat) (stop : Stop) :
    trailAt p first s (count + 1) stop =
      { trailAt p (first + 1) (p.advance s) count stop with
        steps := stepAt p first s :: (trailAt p (first + 1) (p.advance s) count stop).steps } := by
  simp only [trailAt, Problem.orbit_advance, List.range_succ_eq_map, List.map_cons, List.map_map,
    Function.comp_def, Problem.orbit_zero, Nat.add_zero, Nat.succ_eq_add_one, Nat.add_assoc,
    Nat.add_comm 1]

/-- A selector that has not given up is never the reason to stop. -/
theorem stop?_fresh_ne_localOptimum (config : Config) (signal : Signal) (iteration : Nat) :
    stop? config signal iteration .fresh ≠ some .localOptimum := by
  have incomplete : Selector.fresh.complete = false := rfl
  simp only [stop?, incomplete, Bool.false_eq_true, if_false]
  cases signal iteration with
  | some interrupt => simp
  | none => cases config.capReached iteration <;> simp

/-- The recursion ends at the head of an iteration where there is a reason to stop. -/
theorem ascend_of_stop {first : Nat} {selector : Selector} {stop : Stop}
    (stops : stop? config signal first selector = some stop) (fuel : Nat) (position : Position) :
    ascend p config signal (fuel + 1) first selector position = .ok ⟨[], position, stop⟩ := by
  rw [ascend, stops]

theorem ascend_of_uncut (searchable : p.Searchable) (width : s.length = p.weights.length)
    {first : Nat} (uncut : stop? config signal first .fresh = none) {fuel : Nat} {rest : Trail}
    (ascended : ascend p config signal fuel (first + 1) ⟨(p.choice s).isNone⟩
      (placeAt p (p.advance s)) = .ok rest) :
    ascend p config signal (fuel + 1) first .fresh (placeAt p s) =
      .ok { rest with steps := stepAt p first s :: rest.steps } := by
  have incomplete : Selector.fresh.complete = false := rfl
  simp only [ascend, uncut, iterate_placeAt searchable width, ok_bind, incomplete,
    Bool.false_or, ascended, pure_eq_ok]

namespace Course

variable {first moves count : Nat} {stop : Stop}

/-- A climb that is cut off at once has no iteration. -/
theorem of_stop (stops : stop? config signal first .fresh = some stop) :
    Course p config signal first s 0 0 stop where
  moving := fun i before => absurd before (Nat.not_lt_zero i)
  uncut := fun i before => absurd before (Nat.not_lt_zero i)
  ending := Or.inr ⟨rfl, stops⟩

/-- A climb that stands at a local optimum takes one iteration to see it. -/
theorem of_settled (uncut : stop? config signal first .fresh = none)
    (settled : p.choice s = none) : Course p config signal first s 0 1 .localOptimum where
  moving := fun i before => absurd before (Nat.not_lt_zero i)
  uncut := by
    intro i before
    obtain rfl := Nat.lt_one_iff.mp before
    exact uncut
  ending := Or.inl ⟨rfl, rfl, settled⟩

/-- A course that begins with a move continues from the next solution. -/
theorem tail (course : Course p config signal first s (moves + 1) (count + 1) stop) :
    Course p config signal (first + 1) (p.advance s) moves count stop where
  moving := by
    intro i before
    rw [Problem.orbit_advance]
    exact course.moving (i + 1) (Nat.succ_lt_succ before)
  uncut := by
    intro i before
    rw [Nat.add_right_comm]
    exact course.uncut (i + 1) (Nat.succ_lt_succ before)
  ending := by
    rw [Problem.orbit_advance, Nat.add_right_comm]
    rcases course.ending with ⟨countEq, stopEq, settled⟩ | ⟨countEq, cut⟩
    · exact Or.inl ⟨Nat.succ.inj countEq, stopEq, settled⟩
    · exact Or.inr ⟨Nat.succ.inj countEq, cut⟩

/-- A move in front of a course that is not cut off gives a course. -/
theorem cons (movesFirst : (p.choice s).isSome)
    (uncut : stop? config signal first .fresh = none)
    (course : Course p config signal (first + 1) (p.advance s) moves count stop) :
    Course p config signal first s (moves + 1) (count + 1) stop where
  moving := by
    intro i before
    cases i with
    | zero => exact movesFirst
    | succ i =>
        rw [← Problem.orbit_advance]
        exact course.moving i (Nat.lt_of_succ_lt_succ before)
  uncut := by
    intro i before
    cases i with
    | zero => exact uncut
    | succ i =>
        have restUncut := course.uncut i (Nat.lt_of_succ_lt_succ before)
        rw [Nat.add_right_comm] at restUncut
        exact restUncut
  ending := by
    have restEnding := course.ending
    rw [Problem.orbit_advance, Nat.add_right_comm] at restEnding
    rcases restEnding with ⟨rfl, stopEq, settled⟩ | ⟨rfl, cut⟩
    · exact Or.inl ⟨rfl, stopEq, settled⟩
    · exact Or.inr ⟨rfl, cut⟩

/-- A course moves in all of its iterations or in all but the last. -/
theorem count_bounds (course : Course p config signal first s moves count stop) :
    moves ≤ count ∧ count ≤ moves + 1 := by
  rcases course.ending with ⟨rfl, _, _⟩ | ⟨rfl, _⟩
  · exact ⟨Nat.le_succ _, Nat.le_refl _⟩
  · exact ⟨Nat.le_refl _, Nat.le_succ _⟩

/-- A course has at most one iteration more than there are variables. -/
theorem count_le_length (searchable : p.Searchable) (width : s.length = p.weights.length)
    (course : Course p config signal first s moves count stop) : count ≤ s.length + 1 := by
  calc
    count ≤ moves + 1 := course.count_bounds.2
    _ ≤ s.length + 1 := Nat.succ_le_succ (searchable.moves_le_length width course.moving)

/-- At the end of a course the orbit stands where its last move led. -/
theorem orbit_count (course : Course p config signal first s moves count stop) :
    p.orbit s count = p.orbit s moves := by
  rcases course.ending with ⟨rfl, _, settled⟩ | ⟨rfl, _⟩
  · rw [Problem.orbit_succ, Problem.advance_of_choice_eq_none settled]
  · rfl

/-- A course ends with a local optimum exactly when its last iteration does not move. -/
theorem stop_eq_localOptimum_iff (course : Course p config signal first s moves count stop) :
    stop = .localOptimum ↔ count = moves + 1 ∧ p.choice (p.orbit s moves) = none := by
  rcases course.ending with ⟨countEq, stopEq, settled⟩ | ⟨countEq, cut⟩
  · exact ⟨fun _ => ⟨countEq, settled⟩, fun _ => stopEq⟩
  · constructor
    · rintro rfl
      exact absurd cut (stop?_fresh_ne_localOptimum config signal (first + moves))
    · rintro ⟨other, _⟩
      omega

/-- The recursion with a bound above the number of iterations returns the trail
of the course. -/
theorem ascend_eq (searchable : p.Searchable) (width : s.length = p.weights.length)
    (course : Course p config signal first s moves count stop) {fuel : Nat}
    (enough : count < fuel) :
    ascend p config signal fuel first .fresh (placeAt p s) =
      .ok (trailAt p first s count stop) := by
  induction moves generalizing first s count fuel with
  | zero =>
      rcases course.ending with ⟨rfl, rfl, settled⟩ | ⟨rfl, cut⟩
      · -- The only step finds no improvement, and the next head sees that.
        rcases Nat.exists_eq_add_of_lt enough with ⟨fuel, rfl⟩
        have uncut := course.uncut 0 Nat.zero_lt_one
        have complete : (p.choice s).isNone = true := by
          rw [Problem.orbit_zero] at settled
          rw [settled, Option.isNone_none]
        have stops : stop? config signal (first + 1) ⟨(p.choice s).isNone⟩ =
            some .localOptimum := by
          rw [stop?, if_pos complete]
        have ended := ascend_of_stop (p := p) stops fuel (placeAt p (p.advance s))
        rw [Nat.add_comm 1 fuel]
        exact ascend_of_uncut searchable width uncut ended
      · rcases Nat.exists_eq_add_of_lt enough with ⟨fuel, rfl⟩
        exact ascend_of_stop cut (0 + fuel) (placeAt p s)
  | succ moves ih =>
      rcases Nat.exists_eq_add_of_le' course.count_bounds.1 with ⟨extra, countEq⟩
      rw [← Nat.add_assoc] at countEq
      subst count
      rcases Nat.exists_eq_succ_of_ne_zero (Nat.ne_zero_of_lt enough) with ⟨fuel, rfl⟩
      have uncut := course.uncut 0 (Nat.succ_pos _)
      have continues : (p.choice s).isNone = false := by
        have movesFirst := course.moving 0 (Nat.succ_pos moves)
        rw [Problem.orbit_zero] at movesFirst
        rw [← Option.not_isSome, movesFirst, Bool.not_true]
      have advanceWidth : (p.advance s).length = p.weights.length := by
        rw [Problem.length_advance, width]
      have ascended := ih advanceWidth course.tail (Nat.lt_of_succ_lt_succ enough)
      rw [trailAt_succ]
      apply ascend_of_uncut searchable width uncut
      rw [continues]
      exact ascended

/-- Every climb has a course. -/
theorem exists_of_searchable (searchable : p.Searchable) (width : s.length = p.weights.length)
    (config : Config) (signal : Signal) (first : Nat) :
    ∃ moves count stop, Course p config signal first s moves count stop := by
  -- Each move leaves fewer improvable variables, so the induction is on their number.
  induction card : (p.improvable s).card using Nat.strong_induction_on
    generalizing s first with
  | _ bound ih =>
      cases uncut : stop? config signal first .fresh with
      | some stop => exact ⟨0, 0, stop, of_stop uncut⟩
      | none =>
          cases chosen : p.choice s with
          | none => exact ⟨0, 1, .localOptimum, of_settled uncut chosen⟩
          | some k =>
              have movesFirst : (p.choice s).isSome := by rw [chosen, Option.isSome_some]
              have advanceWidth : (p.advance s).length = p.weights.length := by
                rw [Problem.length_advance, width]
              have fewer := searchable.card_improvable_advance_lt width movesFirst
              rw [card] at fewer
              rcases ih _ fewer advanceWidth (first + 1) rfl with ⟨moves, count, stop, course⟩
              exact ⟨moves + 1, count + 1, stop, course.cons movesFirst uncut⟩

end Course

/-! ## The result -/

/-- A climb from a start of the problem's width returns the run of its course. -/
theorem solve_eq_of_course (searchable : p.Searchable) (width : s.length = p.weights.length)
    (valid : config.validate = .ok ()) {moves count : Nat} {stop : Stop}
    (course : Course p config signal 0 s moves count stop) :
    solve (some p) config signal (some s) =
      .ok ((trailAt p 0 s count stop).run s.length s) := by
  have checked := searchable.check_eq_ok_iff.mpr width
  have bound := course.count_le_length searchable width
  have ascended := course.ascend_eq searchable width (Nat.lt_succ_of_le bound)
  simp only [solve, searchable.valid, valid, checked, report_ok, ok_bind, present_some,
    searchable.width_eq.1, ← width, start_eq_placeAt searchable width]
  rw [ascended]
  rfl

/-- A climb from a start of the problem's width always returns. -/
theorem exists_course (searchable : p.Searchable) (width : s.length = p.weights.length)
    (valid : config.validate = .ok ()) (signal : Signal) :
    ∃ moves count stop, Course p config signal 0 s moves count stop ∧
      solve (some p) config signal (some s) =
        .ok ((trailAt p 0 s count stop).run s.length s) := by
  rcases Course.exists_of_searchable searchable width config signal 0 with
    ⟨moves, count, stop, course⟩
  exact ⟨moves, count, stop, course, solve_eq_of_course searchable width valid course⟩

end Ascent.Climb
