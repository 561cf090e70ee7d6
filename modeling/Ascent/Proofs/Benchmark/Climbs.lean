import Ascent.Proofs.Benchmark.Sequential
import Ascent.Proofs.Climb.Safety

/-!
# Climbs side by side

A climb fits into a pool: it looks at its signal once an iteration, comes to an end
when the signal never changes, and ends at its next look when the signal is raised.
If all starts have the width of the problem, no climb fails, so the signal is never
raised, and a pool gives back what the climbs give alone.
-/

namespace Ascent.Climb

open Benchmark (Attempt Job climber complaint signalOf)

variable {p : Problem} {config : Config} {reporters : List Reporter} {start? : Option Solution}
  {interrupt : Option Interrupt} {attempt : Attempt} {limit : Nat}

/-! ## A climb as a process -/

theorem signalOf_eq (interrupt : Option Interrupt) : signalOf interrupt = fun _ => interrupt := by
  cases interrupt <;> rfl

/-- From the head of an iteration the process goes on as the loop does. -/
theorem leads_of_run {start : Solution} {loop : Loop}
    {generate : Solution → Except Fault (List Solution)} {fuel : Nat}
    (generator : config.generator = .ok generate)
    (ran : Loop.run p config (signalOf interrupt) start generate fuel loop = .ok attempt) :
    ∃ looks, (process reporters config p).Leads interrupt attempt looks (.more (start, loop)) := by
  induction fuel generalizing loop with
  | zero => cases ran
  | succ fuel ih =>
      rw [Loop.run, signalOf_eq] at ran
      cases stops : stop? config (fun _ => interrupt) loop.iteration loop.selector with
      | some stop =>
          rw [stops] at ran
          have answered : (process reporters config p).resume interrupt (start, loop) =
              .ok (.answer attempt) := by
            simp only [process, stops, ran]
            rfl
          exact ⟨1, .more answered .answer⟩
      | none =>
          rw [stops] at ran
          rcases bind_eq_ok_iff.mp ran with ⟨after, turned, ran⟩
          have resumed : (process reporters config p).resume interrupt (start, loop) =
              .ok (.more (start, after)) := by
            simp only [process, stops, generator, ok_bind, turned]
            rfl
          rw [← signalOf_eq] at ran
          rcases ih ran with ⟨looks, leads⟩
          exact ⟨looks + 1, .more resumed leads⟩

/-- The loop on a request, with its checks in one place. -/
theorem Loop.solve_eq_objection (reporters : List Reporter) (config : Config)
    (p? : Option Problem) (signal : Signal) (start? : Option Solution) :
    Loop.solve reporters config p? signal start? = (do
      match ← objection config p? start? with
      | some error => return refusal error
      | none =>
          let p ← present p?
          let start ← present start?
          let generate ← config.generator
          let selector ← config.selector
          let fitness ← p.fitness start
          let feasible ← p.feasible start
          let width ← p.width
          Loop.run p config signal start generate (width + 2)
            { iteration := 0, current := start, fitness, feasible, evaluations := 1
              selector, reporters, events := [] }) := by
  rw [solve, objection]
  cases Problem.validate p? with
  | error error => rfl
  | ok =>
      cases config.validate with
      | error error => rfl
      | ok =>
          cases Problem.check p? start? with
          | error fault => cases fault <;> rfl
          | ok => rfl

theorem answers_of_solve
    (solved : Loop.solve reporters config (some p) (signalOf interrupt) start? = .ok attempt) :
    (process reporters config p).Answers interrupt start? attempt := by
  rw [Loop.solve_eq_objection] at solved
  rcases bind_eq_ok_iff.mp solved with ⟨objection?, objected, solved⟩
  cases objection? with
  | some error =>
      obtain rfl := Except.ok.inj solved
      have entered : (process reporters config p).enter start? =
          .ok (.answer (Loop.refusal error)) := by
        simp only [process, objected]
        rfl
      exact ⟨0, _, entered, .answer⟩
  | none =>
      rw [present_some] at solved
      simp only [ok_bind] at solved
      rcases bind_eq_ok_iff.mp solved with ⟨start, given, solved⟩
      rcases bind_eq_ok_iff.mp solved with ⟨generate, generator, solved⟩
      rcases bind_eq_ok_iff.mp solved with ⟨selector, selected, solved⟩
      rcases bind_eq_ok_iff.mp solved with ⟨fitness, evaluated, solved⟩
      rcases bind_eq_ok_iff.mp solved with ⟨feasible, decided, solved⟩
      rcases bind_eq_ok_iff.mp solved with ⟨width, _, ran⟩
      rcases leads_of_run generator ran with ⟨looks, leads⟩
      refine ⟨looks, _, ?_, leads⟩
      simp only [process, objected, ok_bind, given, selected, evaluated, decided]
      rfl

/-- The process does what the climb does. -/
theorem process_implements (reporters : List Reporter) (config : Config)
    (constructible : ∀ c ∈ p.members, c.Constructible) :
    (process reporters config p).Implements (climber config) p := by
  intro interrupt start? attempt climbed
  refine answers_of_solve ?_
  rw [Loop.solve_eq_climber]
  · exact climbed
  · simpa using constructible

/-- A climb that sees a raised signal ends there. -/
theorem process_prompt (reporters : List Reporter) (config : Config) (p : Problem)
    (interrupt : Interrupt) (state : Solution × Loop) :
    ∃ attempt, (process reporters config p).resume (some interrupt) state =
      .ok (.answer attempt) := by
  have stops : ∃ stop, stop? config (fun _ => some interrupt) state.2.iteration
      state.2.selector = some stop := by
    cases complete : state.2.selector.complete <;> simp [stop?, complete]
  rcases stops with ⟨stop, stops⟩
  simp only [process, stops, Loop.finish_eq]
  exact ⟨_, rfl⟩

/-! ## Climbs alone -/

theorem exists_attempt (searchable : p.Searchable) (config : Config) (signal : Signal)
    (start? : Option Solution) :
    ∃ attempt, climber config (some p) signal start? = .ok attempt := by
  have constructible : ∀ q ∈ some p, ∀ c ∈ q.members, c.Constructible := by
    simpa using searchable.constructible
  rcases exists_answer constructible config signal start? with ⟨attempt, answered, _⟩
  exact ⟨attempt, answered⟩

/-- The attempts that climbs make when nothing interrupts them. -/
theorem exists_alone (searchable : p.Searchable) (config : Config) :
    ∃ alone : Option Solution → Attempt, ∀ start?,
      climber config (some p) .never start? = .ok (alone start?) := by
  choose alone answered using exists_attempt searchable config .never
  exact ⟨alone, answered⟩

theorem job_orderly {alone : Option Solution → Attempt} (searchable : p.Searchable)
    (answered : ∀ start?, climber config (some p) .never start? = .ok (alone start?))
    (reporters : List Reporter) (starts : List (Option Solution)) (room : 0 < limit) :
    (job reporters config p starts limit).Orderly alone where
  answers := fun start? _ =>
    process_implements reporters config searchable.constructible none start? _ (answered start?)
  prompt := process_prompt reporters config p
  width := ⟨_, searchable.width_eq.1⟩
  room := room

/-- The runner that takes the climbs in order finds an outcome. -/
theorem exists_batch_climber (searchable : p.Searchable) (config : Config)
    (starts : List (Option Solution)) :
    ∃ batch, Benchmark.run (climber config) (some p) none starts = .ok batch :=
  Benchmark.exists_batch ⟨_, searchable.width_eq.1⟩
    (fun interrupt => exists_attempt searchable config (signalOf interrupt)) starts

/-- A climb from a start of the problem's width ends without an error, and nothing is
complained about. -/
theorem exists_run_unblamed {start : Solution} (searchable : p.Searchable)
    (valid : config.validate = .ok ()) (width : p.width = .ok start.length) :
    ∃ run, solve (some p) config .never (some start) = .ok run ∧ run.error = none ∧
      ∀ i, complaint i none p.width run.attempt = .ok none := by
  have sameWidth := searchable.width_eq_ok_iff.mp width
  rcases exists_course searchable sameWidth valid .never with ⟨moves, count, stop, course, solved⟩
  have clean : (runAt p start count stop).error = none := course.error?_never
  refine ⟨runAt p start count stop, solved, clean, fun i => ?_⟩
  have ended : (runAt p start count stop).attempt.result.solution = some (p.orbit start count) :=
    rfl
  have noError : (runAt p start count stop).attempt.error = none := clean
  simp [complaint, noError, ended, width, Problem.length_orbit]

/-- There is nothing to complain about in the climb from a start of the problem's width
alone. -/
theorem verdict_of_width {alone : Option Solution → Attempt} {start : Solution}
    (searchable : p.Searchable) (valid : config.validate = .ok ())
    (answered : ∀ start?, climber config (some p) .never start? = .ok (alone start?))
    (width : p.width = .ok start.length) (starts : List (Option Solution)) (i : Nat) :
    (job reporters config p starts limit).verdict alone i (some start) = .ok none := by
  rcases exists_run_unblamed searchable valid width with ⟨run, solved, _, unblamed⟩
  have same := (answered (some start)).symm.trans (climber_of_solve solved)
  rw [Job.verdict, Except.ok.inj same]
  exact unblamed i

/-- Climbs from starts of the problem's width, with a pool of any size and in any
order of what happens: every execution ends, none breaks down or gets stuck, and the
outcome is always the same list, which has at every place the result that the climb
from the start at this place gives alone.  The runner that takes the climbs in order
finds this list as well. -/
theorem pool_repeats_climbs (searchable : p.Searchable) (valid : config.validate = .ok ())
    (reporters : List Reporter) (starts : List Solution)
    (widths : ∀ start ∈ starts, p.width = .ok start.length) :
    ∃ results : List Result, results.length = starts.length ∧
      (∀ (i : Nat) (start : Solution), starts[i]? = some start →
        ∃ run, solve (some p) config .never (some start) = .ok run ∧ run.error = none ∧
          results[i]? = some run.result) ∧
      (∃ batch, Benchmark.run (climber config) (some p) none (starts.map some) = .ok batch ∧
        batch.results = .ok results) ∧
      ∀ limit, 0 < limit →
        (job reporters config p (starts.map some) limit).Delivers (· = .ok results) := by
  rcases exists_alone searchable config with ⟨alone, answered⟩
  have delivers : ∀ limit, 0 < limit → (job reporters config p (starts.map some) limit).Delivers
      (· = .ok (starts.map fun start => (alone (some start)).result)) := by
    intro limit room
    refine (job_orderly searchable answered reporters _ room).delivers.imp ?_
    intro outcome explained
    cases explained with
    | accepted => exact congrArg Except.ok List.map_map
    | @blamed i start? error given judged =>
        -- No run alone has a complaint.
        rcases List.mem_map.mp (List.mem_of_getElem? given) with ⟨start, member, rfl⟩
        rw [verdict_of_width searchable valid answered (widths start member)] at judged
        cases judged
  rcases exists_batch_climber searchable config (starts.map some) with ⟨batch, ran⟩
  refine ⟨_, List.length_map _, ?_, ⟨batch, ran, ?_⟩, delivers⟩
  · intro i start found
    rcases exists_run_unblamed searchable valid (widths start (List.mem_of_getElem? found)) with
      ⟨run, solved, noError, _⟩
    have same := (answered (some start)).symm.trans (climber_of_solve solved)
    refine ⟨run, solved, noError, ?_⟩
    rw [List.getElem?_map, found, Option.map_some, Except.ok.inj same]
    rfl
  · exact (delivers 1 Nat.one_pos).kept_by_run
      (process_implements reporters config searchable.constructible) Nat.one_pos ran

/-- The climbs from the three demonstration starts, two at a time.  The list of results
is the one that is found in order, and some execution makes the pool complete with it. -/
theorem pool_repeats_climbs_knapsack :
    ∃ results : List Result, results.map Result.fitness = [43, 62, 52] ∧
      (job [] .default .knapsack (Problem.knapsackStarts.map some) 2).Delivers (· = .ok results) ∧
      ∃ pool, (job [] .default .knapsack (Problem.knapsackStarts.map some) 2).Reaches
          (job [] .default .knapsack (Problem.knapsackStarts.map some) 2).initial pool ∧
        pool.Complete ∧ pool.outcome = .ok results := by
  have widths : ∀ start ∈ Problem.knapsackStarts, Problem.knapsack.width = .ok start.length := by
    decide
  have valid : Config.default.validate = .ok () := rfl
  rcases pool_repeats_climbs Problem.knapsack_searchable valid [] Problem.knapsackStarts widths with
    ⟨results, _, _, ⟨batch, ran, same⟩, delivers⟩
  have evaluated : (Benchmark.run (climber .default) (some .knapsack) none
      (Problem.knapsackStarts.map some)).map (fun batch => batch.results.map
        (·.map Result.fitness)) = .ok (.ok [43, 62, 52]) := rfl
  rw [ran] at evaluated
  have found : batch.results.map (·.map Result.fitness) = .ok [43, 62, 52] :=
    Except.ok.inj evaluated
  rw [same] at found
  rcases (delivers 2 (by decide)).exists_complete with ⟨pool, reached, complete⟩
  exact ⟨results, Except.ok.inj found, delivers 2 (by decide), pool, reached, complete,
    (delivers 2 (by decide)).kept reached complete⟩

end Ascent.Climb
