import Ascent.Climb.Loop
import Ascent.Proofs.Climb.Request

/-!
# The loop does what a climb says

The loop of a climb looks up rules, neighbors and reports, tells reporters what
happens and counts.  `Climb.solve` does none of this: it has no names to look up,
takes neighbors from a list, and computes the counts from the number of its steps.
Here the two are proved equal.  One iteration of the loop is one iteration of the
climb, whatever the problem is, so by induction the whole loop gives back what the
trail of the climb says.  No lookup adds a way to fail.
-/

namespace Ascent.Climb

open Benchmark (Attempt climber)

/-! ## Lookups that cannot miss -/

theorem mapM_eq_ok_map {ε α β : Type} {f : α → Except ε β} {g : α → β} {values : List α}
    (succeeds : ∀ value ∈ values, f value = .ok (g value)) :
    values.mapM f = .ok (values.map g) := by
  induction values with
  | nil => rfl
  | cons value rest ih =>
      have first := succeeds value List.mem_cons_self
      have others := ih fun other member => succeeds other (List.mem_cons_of_mem value member)
      rw [List.mapM_cons, first, others]
      rfl

theorem flip_eq_flipped {s : Solution} {k : Nat} (inside : k < s.length) :
    s.flip k = .ok (s.flipped k) := by
  simp [Solution.flip, Solution.position, inside]

/-- Every inversion of the neighborhood has an index in range. -/
theorem generate_eq (s : Solution) : s.generate = .ok s.neighbors := by
  apply mapM_eq_ok_map
  intro k member
  rw [flip_eq_flipped (List.mem_range.mp member), report_ok, insist_ok]

/-- A chosen index is the best one so far or the place of a candidate. -/
theorem bestFrom_lt {p : Problem} {index k : Nat} {best : Option Nat} {score : Int64}
    {candidates : List Solution} (chosen : p.bestFrom index best score candidates = .ok (some k)) :
    best = some k ∨ k < index + candidates.length := by
  induction candidates generalizing index best score with
  | nil =>
      left
      simpa [Problem.bestFrom] using chosen
  | cons candidate rest ih =>
      rw [List.length_cons, ← Nat.add_assoc, Nat.add_right_comm]
      rw [Problem.bestFrom, bind_eq_ok_iff] at chosen
      rcases chosen with ⟨accepted, _, chosen⟩
      cases accepted with
      | false => exact ih (by simpa using chosen)
      | true =>
          rw [if_pos rfl, bind_eq_ok_iff] at chosen
          rcases chosen with ⟨fitness, _, chosen⟩
          by_cases better : score < fitness
          · rw [if_pos better] at chosen
            right
            rcases ih chosen with here | later
            · obtain rfl := Option.some.inj here
              omega
            · exact later
          · rw [if_neg better] at chosen
            exact ih chosen

theorem solution_describe {p : Problem} {index : Nat} {solution : Solution} {neighbor : Neighbor}
    (described : describe p index solution = .ok neighbor) : neighbor.solution = solution := by
  rw [describe, bind_eq_ok_iff] at described
  rcases described with ⟨accepted, _, described⟩
  cases accepted with
  | false =>
      obtain rfl := Except.ok.inj described
      rfl
  | true =>
      rw [if_pos rfl, bind_eq_ok_iff] at described
      rcases described with ⟨fitness, _, described⟩
      obtain rfl := Except.ok.inj described
      rfl

/-- The reports are about the neighbors, in their order. -/
theorem map_solution_describeFrom {p : Problem} {first : Nat} {hood : List Solution}
    {neighbors : List Neighbor} (described : describeFrom p first hood = .ok neighbors) :
    neighbors.map Neighbor.solution = hood := by
  induction hood generalizing first neighbors with
  | nil =>
      obtain rfl : [] = neighbors := Except.ok.inj described
      rfl
  | cons solution rest ih =>
      rw [describeFrom, bind_eq_ok_iff] at described
      rcases described with ⟨neighbor, here, described⟩
      rw [bind_eq_ok_iff] at described
      rcases described with ⟨others, restDescribed, described⟩
      obtain rfl : neighbor :: others = neighbors := Except.ok.inj described
      rw [List.map_cons, ih restDescribed, solution_describe here]

theorem select_lt {p : Problem} {selector next : Selector} {current : Solution}
    {candidates : List Solution} {k : Nat}
    (selected : selector.select p current candidates = .ok (some k, next)) :
    k < candidates.length := by
  rw [Selector.select, bind_eq_ok_iff] at selected
  rcases selected with ⟨choice, improved, selected⟩
  obtain rfl : choice = some k := congrArg Prod.fst (Except.ok.inj selected)
  rw [Problem.bestImprovement, bind_eq_ok_iff] at improved
  rcases improved with ⟨score, _, scanned⟩
  simpa using bestFrom_lt scanned

/-- The chosen index is one of the neighbors and one of the reports, and both are
about the same solution. -/
theorem exists_chosen {p : Problem} {selector next : Selector} {current : Solution}
    {hood : List Solution} {neighbors : List Neighbor} {k : Nat}
    (selected : selector.select p current hood = .ok (some k, next))
    (described : describeFrom p 0 hood = .ok neighbors) :
    ∃ neighbor, neighbors[k]? = some neighbor ∧ hood[k]? = some neighbor.solution := by
  have inside := select_lt selected
  have solutions := map_solution_describeFrom described
  have inReports : k < neighbors.length := by
    rwa [← solutions, List.length_map] at inside
  have found := List.getElem?_eq_getElem inReports
  refine ⟨neighbors.get ⟨k, inReports⟩, found, ?_⟩
  rw [← solutions, List.getElem?_map, found]
  rfl

/-! ## Events that can be told -/

/-- A step that selects one of its neighbors or none, and every end. -/
def Event.Tellable : Event → Prop
  | .step taken => taken.terminal = false → taken.selected.toNat < taken.neighbors.length
  | .final _ => True

theorem Event.Tellable.exists_record {event : Event} (tellable : event.Tellable) :
    ∃ record, Report.Journal.record event = .ok record := by
  cases event with
  | final final => exact ⟨_, rfl⟩
  | step step =>
      rw [Report.Journal.record, Report.Journal.stepRecord, Report.Journal.selectedFields]
      cases terminal : step.terminal with
      | true => exact ⟨_, rfl⟩
      | false =>
          rw [List.getElem?_eq_getElem (tellable terminal)]
          exact ⟨_, rfl⟩

/-- No reporter refuses an event that can be told. -/
theorem Event.Tellable.exists_handle {event : Event} (tellable : event.Tellable)
    (reporter : Reporter) : ∃ told, reporter.handle event = .ok told := by
  cases reporter with
  | table collected => exact ⟨_, rfl⟩
  | recorder kept => exact ⟨_, rfl⟩
  | journal logger =>
      rcases tellable.exists_record with ⟨record, recorded⟩
      rw [Reporter.handle, recorded]
      exact ⟨_, rfl⟩

theorem Event.Tellable.handleAll_fault {event : Event} (tellable : event.Tellable)
    (reporters : List Reporter) : (Reporter.handleAll reporters event).2.2 = none := by
  induction reporters with
  | nil => rfl
  | cons reporter rest ih =>
      rcases tellable.exists_handle reporter with ⟨told, handled⟩
      rw [Reporter.handleAll, handled]
      exact ih

namespace Loop

/-- The loop after it told an event. -/
def telling (loop : Loop) (event : Event) : Loop :=
  { loop with
    reporters := (Reporter.handleAll loop.reporters event).1
    events := loop.events ++ [event] }

theorem send_eq_telling (loop : Loop) {event : Event} (tellable : event.Tellable) :
    loop.send event = .ok (loop.telling event) := by
  have accepted := tellable.handleAll_fault loop.reporters
  rw [send, telling]
  split
  case h_1 handled => rw [handled]
  case h_2 handled => simp [handled] at accepted

/-! ## One iteration -/

/-- The place at which the loop stands. -/
def position (loop : Loop) : Position :=
  ⟨loop.current, loop.fitness, loop.feasible⟩

/-- The loop after an iteration with a step that leads to a place. -/
def after (loop : Loop) (step : Step) (next : Position) (selector : Selector) : Loop :=
  { loop.telling (.step step) with
    iteration := loop.iteration + 1
    current := next.current
    fitness := next.fitness
    feasible := next.feasible
    evaluations := loop.evaluations + Int64.ofNat loop.current.length
    selector }

/-- An iteration of the loop is an iteration of the climb.  It fails only if that
one fails. -/
theorem turn_eq (p : Problem) (loop : Loop) :
    loop.turn p Solution.generate =
      (iterate p loop.iteration loop.selector loop.position).map
        fun (step, next, selector) => loop.after step next selector := by
  rw [turn, iterate, generate_eq, ok_bind, position]
  cases selected : loop.selector.select p loop.current loop.current.neighbors with
  | error fault => rfl
  | ok answer =>
      rcases answer with ⟨choice, selector⟩
      cases described : describeFrom p 0 loop.current.neighbors with
      | error fault => rfl
      | ok neighbors =>
          cases choice with
          | none =>
              simp only [ok_bind, Solution.length_neighbors]
              rw [send_eq_telling]
              · rfl
              · simp [Event.Tellable, Step.terminal]
          | some k =>
              rcases exists_chosen selected described with ⟨neighbor, reported, found⟩
              simp only [ok_bind, Position.after, reported, present_some,
                Solution.length_neighbors]
              rw [send_eq_telling]
              · simp only [ok_bind, move, found, reported, present_some]
                rfl
              · -- The step selects one of its own reports.
                intro _
                exact (List.getElem?_eq_some_iff.mp reported).1

/-! ## The whole loop -/

/-- What the loop gives back if the climb goes on along a trail. -/
def attempt (loop : Loop) (start : Solution) (trail : Trail) : Attempt :=
  let iterations : Nat := loop.iteration + trail.steps.length
  let last := trail.last
  { result :=
      { start := some start, solution := some last.current, fitness := last.fitness
        feasible := last.feasible, iterations
        evaluations := loop.evaluations +
          Int64.ofNat loop.current.length * Int64.ofNat trail.steps.length
        duration := 0
        details := some ⟨neighborhoodName, selectionName, trail.stop.reason⟩ }
    error := trail.stop.error?
    events := loop.events ++ trail.steps.map .step ++
      [.final ⟨iterations, last.current, last.fitness, last.feasible, trail.stop.reason⟩] }

theorem finish_eq (loop : Loop) (start : Solution) (stop : Stop) :
    loop.finish start stop = .ok (loop.attempt start ⟨[], loop.position, stop⟩) := by
  rw [finish, send_eq_telling]
  · simp [telling, attempt, position]
  · trivial

/-- An iteration keeps the number of variables. -/
theorem length_current_iterate {p : Problem} {iteration : Nat} {selector after : Selector}
    {position next : Position} {step : Step}
    (iterated : iterate p iteration selector position = .ok (step, next, after)) :
    next.current.length = position.current.length := by
  rw [iterate, bind_eq_ok_iff] at iterated
  rcases iterated with ⟨⟨choice, _⟩, selected, iterated⟩
  rcases bind_eq_ok_iff.mp iterated with ⟨neighbors, described, iterated⟩
  rcases bind_eq_ok_iff.mp iterated with ⟨place, moved, iterated⟩
  obtain rfl : place = next := congrArg (fun taken => taken.2.1) (Except.ok.inj iterated)
  cases choice with
  | none =>
      obtain rfl := Except.ok.inj moved
      rfl
  | some k =>
      rcases exists_chosen selected described with ⟨neighbor, reported, found⟩
      rw [Position.after, reported, present_some, ok_bind] at moved
      obtain rfl := Except.ok.inj moved
      exact Solution.length_of_mem_neighbors (List.mem_of_getElem? found)

/-- An iteration in front of a trail adds one step and its neighbors to the counts. -/
theorem attempt_after (loop : Loop) (start : Solution) (step : Step) {next : Position}
    (selector : Selector) (sameLength : next.current.length = loop.current.length)
    (rest : Trail) :
    (loop.after step next selector).attempt start rest =
      loop.attempt start { rest with steps := step :: rest.steps } := by
  have evaluations (count width : Int64) (steps : Nat) :
      count + width + width * Int64.ofNat steps = count + width * Int64.ofNat (steps + 1) := by
    rw [Int64.ofNat_add, Int64.mul_add, Int64.add_assoc, Int64.add_comm width]
    simp
  have iterations : loop.iteration + 1 + rest.steps.length =
      loop.iteration + (rest.steps.length + 1) := by
    omega
  simp only [attempt, after, telling, sameLength, evaluations, iterations, List.length_cons,
    List.map_cons, List.append_assoc, List.cons_append, List.nil_append]

/-- The loop gives back what the trail of the climb says. -/
theorem run_eq (p : Problem) (config : Config) (signal : Signal) (start : Solution)
    (fuel : Nat) (loop : Loop) :
    run p config signal start Solution.generate fuel loop =
      (ascend p config signal fuel loop.iteration loop.selector loop.position).map
        (loop.attempt start) := by
  -- Both recursions spend one unit of the bound on an iteration, so it need not be enough.
  induction fuel generalizing loop with
  | zero => rfl
  | succ fuel ih =>
      rw [run, ascend]
      cases stop? config signal loop.iteration loop.selector with
      | some stop => exact loop.finish_eq start stop
      | none =>
          simp only [turn_eq]
          cases iterated : iterate p loop.iteration loop.selector loop.position with
          | error fault => rfl
          | ok taken =>
              rcases taken with ⟨step, next, selector⟩
              have sameLength := length_current_iterate iterated
              change run p config signal start Solution.generate fuel
                (loop.after step next selector) = _
              rw [ih]
              change (ascend p config signal fuel (loop.iteration + 1) selector next).map _ = _
              simp only [ok_bind]
              cases ascend p config signal fuel (loop.iteration + 1) selector next with
              | error fault => rfl
              | ok rest =>
                  exact congrArg Except.ok (loop.attempt_after start step selector sameLength rest)

end Loop

/-! ## Rules by name -/

theorem Config.generator_eq {config : Config} (valid : config.validate = .ok ()) :
    config.generator = .ok Solution.generate := by
  rw [generator, if_pos (validate_eq_ok_iff.mp valid).2.1]

theorem Config.selector_eq {config : Config} (valid : config.validate = .ok ()) :
    config.selector = .ok .fresh := by
  rw [selector, if_pos (validate_eq_ok_iff.mp valid).2.2]

/-! ## The whole request -/

namespace Loop

/-- The loop that has not begun. -/
def initial (p : Problem) (start : Solution) (reporters : List Reporter) : Loop where
  iteration := 0
  current := start
  fitness := p.value start
  feasible := p.accepts start
  evaluations := 1
  selector := .fresh
  reporters := reporters
  events := []

theorem attempt_initial (p : Problem) (start : Solution) (reporters : List Reporter)
    (trail : Trail) :
    (initial p start reporters).attempt start trail =
      (trail.run start.length start).attempt := by
  simp [attempt, initial, Run.attempt, Trail.run, Run.events, Int64.ofInt_eq_ofNat]

/-- The loop does what the climb says, for every request that can be made and
whatever reporters listen. -/
theorem solve_eq_climber (reporters : List Reporter) (config : Config) (p? : Option Problem)
    (signal : Signal) (start? : Option Solution)
    (constructible : ∀ p ∈ p?, ∀ c ∈ p.members, c.Constructible) :
    solve reporters config p? signal start? = climber config p? signal start? := by
  by_cases accepted : Accepted p? config start?
  · rcases accepted.exists_searchable constructible with ⟨p, start, rfl, rfl, searchable, width⟩
    rcases Course.exists_of_searchable searchable width config signal 0 with
      ⟨moves, count, stop, course⟩
    have ascended := course.ascend_eq searchable width
      (Nat.lt_succ_of_le (course.count_le_length searchable width))
    rw [climber_of_solve (solve_eq_of_course searchable width accepted.config course),
      ← attempt_initial p start reporters]
    rw [solve, accepted.problem, accepted.config, accepted.start]
    simp only [present_some, ok_bind, Config.generator_eq accepted.config,
      Config.selector_eq accepted.config, searchable.fitness_eq width,
      searchable.feasible_eq width, searchable.width_eq.1, ← width]
    change run p config signal start Solution.generate (start.length + 2)
      (initial p start reporters) = _
    rw [run_eq]
    change (ascend p config signal (start.length + 2) 0 .fresh (placeAt p start)).map _ = _
    rw [ascended]
    rfl
  · -- The checks come first and in the same order in both.
    rw [solve, climber, Climb.solve]
    cases validated : Problem.validate p? with
    | error error => rfl
    | ok =>
        cases valid : config.validate with
        | error error => rfl
        | ok =>
            cases checked : Problem.check p? start? with
            | error fault => cases fault <;> rfl
            | ok => exact absurd ⟨validated, valid, checked⟩ accepted

/-- Whatever reporters listen, the loop tells them the events of the run. -/
theorem solve_eq_attempt {p : Problem} {config : Config} {signal : Signal} {start : Solution}
    {run : Run} (searchable : p.Searchable)
    (solved : Climb.solve (some p) config signal (some start) = .ok run)
    (reporters : List Reporter) :
    solve reporters config (some p) signal (some start) = .ok run.attempt := by
  rw [solve_eq_climber reporters config (some p) signal (some start)]
  · exact climber_of_solve solved
  · rintro q ⟨⟩
    exact searchable.constructible

end Loop

end Ascent.Climb
