import Ascent.Proofs.Benchmark.Climbs
import Ascent.Proofs.Benchmark.Summary
import Ascent.Proofs.Climb.Packing

/-!
# Benchmark cases

A case asks for a random problem, random starts on it, a climb from each of them, and
a record of the results.  If there is room for the problem, for the starts with their
results and for the neighbors that a step lists, none of this fails, in whatever order the
climbs take place.

A random problem is a packing problem.  Its climbs never leave the feasible solutions,
and from an infeasible start they do not move.  So the record counts as infeasible
exactly the starts that are, the best fitness is not below that of any start, and there
are at most as many different results as there are different starts.
-/

namespace Ascent

/-! ## The climb from one start -/

namespace Climb

open Benchmark (Batch blankResult climber complaint runFrom signalOf)

variable {p : Problem} {config : Config} {s : Solution} {starts : List Solution}

/-- The result of the climb from a start that nothing interrupts. -/
def resultFrom (config : Config) (p : Problem) (start : Solution) : Result :=
  match solve (some p) config .never (some start) with
  | .ok run => run.result
  | .error _ => blankResult

theorem resultFrom_of_solve {run : Run} (solved : solve (some p) config .never (some s) = .ok run) :
    resultFrom config p s = run.result := by
  rw [resultFrom, solved]

/-- Every step has as many neighbors as there are variables. -/
theorem length_neighbors_of_solve (searchable : p.Searchable)
    (width : s.length = p.weights.length) (valid : config.validate = .ok ()) {run : Run}
    (solved : solve (some p) config .never (some s) = .ok run) :
    ∀ step ∈ run.steps, step.neighbors.length = p.weights.length := by
  intro step member
  rw [← width]
  exact (truthful_of_mem_steps searchable width valid solved member).neighborCount

/-- No cap is reached before the first iteration. -/
theorem stop?_never_zero (config : Config) : stop? config .never 0 .fresh = none := by
  have uncapped : config.capReached 0 = false := by
    simp only [Config.capReached, Bool.and_eq_false_iff, decide_eq_false_iff_not]
    omega
  have incomplete : Selector.fresh.complete = false := rfl
  simp [stop?, Signal.never, uncapped, incomplete]

/-- There is a step, be it one that finds nothing better. -/
theorem steps_ne_nil_of_solve (searchable : p.Searchable) (width : s.length = p.weights.length)
    (valid : config.validate = .ok ()) {run : Run}
    (solved : solve (some p) config .never (some s) = .ok run) : run.steps ≠ [] := by
  rcases exists_course searchable width valid .never with ⟨moves, count, stop, course, same⟩
  obtain rfl := Except.ok.inj (solved.symm.trans same)
  have begun : 0 < count := by
    rcases course.ending with ⟨rfl, _⟩ | ⟨rfl, cut⟩
    · exact Nat.succ_pos moves
    · by_contra none
      obtain rfl := Nat.eq_zero_of_not_pos none
      rw [Nat.zero_add, stop?_never_zero] at cut
      contradiction
  rw [← List.length_pos_iff]
  exact Nat.lt_of_lt_of_eq begun (length_steps_trailAt p 0 s count stop).symm

/-- The climb ends on the orbit of its start. -/
theorem exists_moves_resultFrom (searchable : p.Searchable) (width : s.length = p.weights.length)
    (valid : config.validate = .ok ()) :
    ∃ moves, p.Moving s moves ∧ (resultFrom config p s).solution = some (p.orbit s moves) ∧
      (resultFrom config p s).fitness = p.value (p.orbit s moves) ∧
      (resultFrom config p s).feasible = p.accepts (p.orbit s moves) := by
  rcases exists_course searchable width valid .never with ⟨moves, count, stop, course, solved⟩
  refine ⟨moves, course.moving, ?_⟩
  rw [resultFrom_of_solve solved, ← course.orbit_count]
  exact ⟨rfl, rfl, rfl⟩

theorem value_le_resultFrom (searchable : p.Searchable) (width : s.length = p.weights.length)
    (valid : config.validate = .ok ()) : p.value s ≤ (resultFrom config p s).fitness := by
  rcases exists_moves_resultFrom searchable width valid with ⟨moves, moving, _, fitness, _⟩
  rw [fitness]
  exact searchable.value_le_orbit width moving

/-- On a packing problem a climb neither repairs its start nor breaks it. -/
theorem feasible_resultFrom (packing : p.Packing) (width : s.length = p.weights.length)
    (valid : config.validate = .ok ()) : (resultFrom config p s).feasible = p.accepts s := by
  rcases exists_moves_resultFrom packing.searchable width valid with
    ⟨moves, moving, _, _, feasible⟩
  rw [feasible]
  cases accepted : p.accepts s with
  | false =>
      obtain rfl := packing.moves_of_infeasible width accepted moving
      exact accepted
  | true =>
      by_contra rejected
      rw [Bool.not_eq_true] at rejected
      have startRejected :=
        ((packing.searchable.accepts_orbit_eq_false_iff width moving).mp rejected).1
      rw [accepted] at startRejected
      contradiction

/-! ## The climbs from all starts -/

/-- A run that nobody complains about leaves the later ones undisturbed. -/
theorem runFrom_cons_of_unblamed {index : Nat} {run : Run} {rest : List (Option Solution)}
    {batch : Batch} (solved : solve (some p) config .never (some s) = .ok run)
    (unblamed : complaint index none p.width run.attempt = .ok none)
    (ran : runFrom (climber config) (some p) none (index + 1) none rest = .ok batch) :
    runFrom (climber config) (some p) none index none (some s :: rest) =
      .ok { batch with attempts := (some s, run.attempt) :: batch.attempts } := by
  have climbed : climber config (some p) (signalOf none) (some s) = .ok run.attempt :=
    climber_of_solve solved
  have undisturbed : (none <|> (none : Option Error).map fun _ => Interrupt.cancelled) = none := rfl
  have noFailure : ((none : Option Error) <|> none) = none := rfl
  rw [runFrom, undisturbed, climbed, ok_bind, present_some, ok_bind, unblamed, ok_bind, noFailure,
    ran]
  rfl

/-- The attempts of a batch are the climbs from starts. -/
structure Climbed (config : Config) (p : Problem) (starts : List Solution) (batch : Batch) :
    Prop where
  count : batch.attempts.length = starts.length
  climbs : ∀ entry ∈ batch.attempts, ∃ start ∈ starts, ∃ run,
    solve (some p) config .never (some start) = .ok run ∧ entry = (some start, run.attempt)

theorem Climbed.cons {start : Solution} {run : Run} {batch : Batch}
    (solved : solve (some p) config .never (some start) = .ok run)
    (climbed : Climbed config p starts batch) :
    Climbed config p (start :: starts)
      { batch with attempts := (some start, run.attempt) :: batch.attempts } where
  count := congrArg (· + 1) climbed.count
  climbs := by
    refine List.forall_mem_cons.mpr ⟨⟨start, List.mem_cons_self, run, solved, rfl⟩, ?_⟩
    intro entry member
    rcases climbed.climbs entry member with ⟨other, later, climb⟩
    exact ⟨other, List.mem_cons_of_mem _ later, climb⟩

/-- The runner that takes the climbs in order finds the result of each of them. -/
theorem exists_run_results (searchable : p.Searchable) (valid : config.validate = .ok ())
    (widths : ∀ start ∈ starts, start.length = p.weights.length) :
    ∃ batch, Benchmark.run (climber config) (some p) none (starts.map some) = .ok batch ∧
      Climbed config p starts batch ∧
      batch.results = .ok (starts.map (resultFrom config p)) := by
  suffices ran : ∀ index, ∃ batch,
      runFrom (climber config) (some p) none index none (starts.map some) = .ok batch ∧
      Climbed config p starts batch ∧ batch.failure = none ∧
      (batch.attempts.map fun attempt => attempt.2.result) = starts.map (resultFrom config p) by
    rcases ran 0 with ⟨batch, ran, climbed, clean, results⟩
    exact ⟨batch, ran, climbed, by rw [Batch.results, clean, results]⟩
  induction starts with
  | nil => exact fun index => ⟨_, rfl, ⟨rfl, List.forall_mem_nil _⟩, rfl, rfl⟩
  | cons start rest ih =>
      intro index
      have width : p.width = .ok start.length :=
        searchable.width_eq_ok_iff.mpr (widths start List.mem_cons_self)
      rcases exists_run_unblamed searchable valid width with ⟨run, solved, _, unblamed⟩
      rcases ih (fun other later => widths other (List.mem_cons_of_mem _ later)) (index + 1) with
        ⟨batch, ran, climbed, clean, results⟩
      refine ⟨_, runFrom_cons_of_unblamed solved (unblamed index) ran,
        climbed.cons solved, clean, ?_⟩
      rw [List.map_cons, List.map_cons, results, resultFrom_of_solve solved]
      rfl

/-- So does a pool of any size, in whatever order things happen. -/
theorem delivers_results (searchable : p.Searchable) (valid : config.validate = .ok ())
    (widths : ∀ start ∈ starts, start.length = p.weights.length) (reporters : List Reporter)
    {limit : Nat} (room : 0 < limit) :
    (job reporters config p (starts.map some) limit).Delivers
      (· = .ok (starts.map (resultFrom config p))) := by
  rcases exists_alone searchable config with ⟨alone, answered⟩
  rcases exists_run_results searchable valid widths with ⟨batch, ran, _, found⟩
  exact (job_orderly searchable answered reporters _ room).delivers_of_run
    (process_implements reporters config searchable.constructible) ran found

/-! ## Room for neighbors -/

/-- Every step of every attempt asks for room. -/
theorem reserveNeighbors_eq_ok_iff {batch : Batch} :
    batch.reserveNeighbors = .ok () ↔ ∀ entry ∈ batch.attempts, ∀ step : Step,
      .step step ∈ entry.2.events → Addressable Neighbor.size step.neighbors.length := by
  rw [Batch.reserveNeighbors, forM_eq_ok_iff]
  refine forall₂_congr fun entry _ => ?_
  rw [forM_eq_ok_iff]
  constructor
  · intro given step member
    exact (reserve_eq_ok_iff.mp (given _ member)).2
  · intro room event member
    cases event with
    | step step => exact reserve_eq_ok (Int.natCast_nonneg _) (room step member)
    | final final => rfl

theorem reserveNeighbors_cases (batch : Batch) :
    batch.reserveNeighbors = .ok () ∨ batch.reserveNeighbors = .error .undefined := by
  refine forM_cases fun entry _ => forM_cases fun event _ => ?_
  cases event with
  | step step => exact reserve_cases _ _
  | final final => exact Or.inl rfl

/-- If there is a climb, there must be room for as many neighbors as there are variables. -/
theorem Climbed.reserveNeighbors_eq_ok_iff (searchable : p.Searchable)
    (valid : config.validate = .ok ())
    (widths : ∀ start ∈ starts, start.length = p.weights.length) {batch : Batch}
    (climbed : Climbed config p starts batch) :
    batch.reserveNeighbors = .ok () ↔
      (starts ≠ [] → Addressable Neighbor.size p.weights.length) := by
  rw [Climb.reserveNeighbors_eq_ok_iff]
  constructor
  · intro room begun
    have entered : batch.attempts ≠ [] := by
      rw [← List.length_pos_iff, climbed.count, List.length_pos_iff]
      exact begun
    rcases List.exists_mem_of_ne_nil _ entered with ⟨entry, member⟩
    rcases climbed.climbs entry member with ⟨start, here, run, solved, rfl⟩
    have width := widths start here
    rcases List.exists_mem_of_ne_nil _ (steps_ne_nil_of_solve searchable width valid solved) with
      ⟨step, stepped⟩
    rw [← length_neighbors_of_solve searchable width valid solved step stepped]
    exact room _ member step (List.mem_append_left _ (List.mem_map_of_mem stepped))
  · intro room entry member step told
    rcases climbed.climbs entry member with ⟨start, here, run, solved, rfl⟩
    have stepped : step ∈ run.steps := by simpa [Run.attempt, Run.events] using told
    rw [length_neighbors_of_solve searchable (widths start here) valid solved step stepped]
    exact room (List.ne_nil_of_mem here)

end Climb

namespace Benchmark

open Climb (Config resultFrom)

/-! ## Cases that are read -/

theorem Size.parse_bounds {text : String} {width constraints : Int}
    (parsed : parse text = .ok (width, constraints)) : 0 < width ∧ 0 ≤ constraints := by
  simp only [parse] at parsed
  split at parsed
  · split at parsed
    · cases parsed
    · split at parsed
      · cases parsed
      · split at parsed
        · cases parsed
        · rename_i shaped
          cases parsed
          omega
  · cases parsed

/-- A case that is read has a variable and no negative number of constraints. -/
theorem Size.cases_bounds {base : Int64} {texts : List String} {cases : List Case}
    (read : Size.cases base texts = .ok cases) :
    ∀ case ∈ cases, 0 < case.width ∧ 0 ≤ case.constraints := by
  suffices bounds : ∀ index, casesFrom base index texts = .ok cases →
      ∀ case ∈ cases, 0 < case.width ∧ 0 ≤ case.constraints from bounds 0 read
  clear read
  induction texts generalizing cases with
  | nil =>
      intro index read
      obtain rfl := Except.ok.inj read
      simp
  | cons text rest ih =>
      intro index read
      rcases bind_eq_ok_iff.mp read with ⟨⟨width, constraints⟩, parsed, read⟩
      rcases bind_eq_ok_iff.mp read with ⟨later, laterRead, read⟩
      obtain rfl := Except.ok.inj read
      intro case member
      rcases List.mem_cons.mp member with rfl | member
      · exact parse_bounds parsed
      · exact ih (index + 1) laterRead case member

/-! ## The problem and the starts of a case -/

/-- A case poses a problem: the one that is drawn with its seed. -/
structure Case.Poses (case : Case) (p : Problem) : Prop where
  generated : ∃ rest, Problem.random Random.Source.generator case.width case.constraints
    (some (.ofSeed case.seed)) = .ok (p, rest)
  packing : p.Packing
  width : (p.weights.length : Int) = case.width
  constraints : (p.members.length : Int) = case.constraints

theorem Case.poses_of_random {case : Case} {p : Problem} {rest : Random.Source}
    (generated : Problem.random Random.Source.generator case.width case.constraints
      (some (.ofSeed case.seed)) = .ok (p, rest)) : case.Poses p := by
  have drawable := Problem.drawable_of_random generated
  have parts := Problem.randomParts_of_random generated
  have width : (case.width.toNat : Int) = case.width :=
    Int.toNat_of_nonneg (Int.le_of_lt drawable.positive)
  exact {
    generated := ⟨rest, generated⟩
    packing := parts.packing Random.Source.generator_inRange (width ▸ drawable.weights_fit)
    width := by rw [parts.length_weights, width]
    constraints := by
      rw [parts.count]
      exact Int.toNat_of_nonneg drawable.nonnegative }

/-- A case of a shape of which there are random problems poses one. -/
theorem Case.exists_poses {case : Case}
    (drawable : Problem.Drawable case.width case.constraints) : ∃ p, case.Poses p := by
  rcases Problem.exists_random Random.Source.generator drawable (.ofSeed case.seed) with
    ⟨p, rest, generated⟩
  exact ⟨p, poses_of_random generated⟩

/-- There is room for a list of neighbors, and for the weights all the more. -/
theorem Case.drawable {case : Case} (positive : 0 < case.width)
    (nonnegative : 0 ≤ case.constraints)
    (neighbors : Addressable Climb.Neighbor.size case.width)
    (roomy : Addressable wordSize (2 * case.constraints)) :
    Problem.Drawable case.width case.constraints where
  positive := positive
  nonnegative := nonnegative
  weights := neighbors.of_size_le (by decide) (Int.le_of_lt positive)
  members := roomy.of_le (by omega)

namespace Runner

variable {runner : Runner} {case : Case} {config : Config} {p : Problem}

/-- The random starts on a case. -/
def starts (runner : Runner) (case : Case) : List Solution :=
  (Solution.randoms Random.Source.generator case.width.toNat runner.density runner.runs.toNat
    (.ofSeed runner.baseSeed)).1

theorem length_starts (known : 0 ≤ runner.runs) (case : Case) :
    (runner.starts case).length = runner.runs := by
  rw [starts, Solution.length_randoms]
  omega

theorem length_of_mem_starts (poses : case.Poses p) (runner : Runner) :
    ∀ start ∈ runner.starts case, start.length = p.weights.length := by
  intro start member
  have width := poses.width
  rw [Solution.length_of_mem_randoms member]
  omega

/-- After the problem there is the list of starts, if there is room for it. -/
theorem prepare_eq (poses : case.Poses p) (runner : Runner) :
    runner.prepare case =
      (reserve wordSize runner.runs).map fun _ => (p, runner.starts case) := by
  rcases poses.generated with ⟨rest, generated⟩
  rw [prepare, generated]
  rfl

theorem prepare_eq_ok (poses : case.Poses p) (known : 0 ≤ runner.runs)
    (countable : Addressable wordSize runner.runs) :
    runner.prepare case = .ok (p, runner.starts case) := by
  rw [prepare_eq poses, reserve_eq_ok known countable]
  rfl

theorem of_prepare_eq_ok {starts : List Solution}
    (prepared : runner.prepare case = .ok (p, starts)) :
    case.Poses p ∧ 0 ≤ runner.runs ∧ starts = runner.starts case := by
  rw [prepare] at prepared
  rcases bind_eq_ok_iff.mp prepared with ⟨⟨q, rest⟩, generated, more⟩
  rcases bind_eq_ok_iff.mp more with ⟨_, room, listed⟩
  obtain ⟨rfl, rfl⟩ := Prod.mk.inj (Except.ok.inj listed)
  exact ⟨Case.poses_of_random generated, (reserve_eq_ok_iff.mp room).1, rfl⟩

/-! ## The record of a case -/

/-- What is done with a batch of runs. -/
def settle (algorithm : String) (elapsed : Nat → Int64) (p : Problem) (batch : Batch) :
    Except Fault (Record × Problem × Batch) := do
  batch.reserveNeighbors
  let results ← report batch.results
  let record ← summarize algorithm (some p) (timed elapsed 0 results)
  return (record, p, batch)

/-- If there is room for the starts and their results, a case comes down to its runs. -/
theorem runCase_eq (poses : case.Poses p) (known : 0 ≤ runner.runs)
    (countable : Addressable Result.size runner.runs) (algorithm : String)
    (optimizer : Optimizer) (outer : Option Interrupt) (elapsed : Nat → Int64) :
    runner.runCase algorithm optimizer outer elapsed case =
      run optimizer (some p) outer ((runner.starts case).map some) >>=
        settle algorithm elapsed p := by
  have words : Addressable wordSize runner.runs := countable.of_size_le (by decide) known
  rw [runCase, prepare_eq_ok poses known words, ok_bind]
  dsimp only
  rw [length_starts known, reserve_eq_ok known countable, ok_bind]
  rfl

theorem of_runCase_eq_ok {algorithm : String} {optimizer : Optimizer} {outer : Option Interrupt}
    {elapsed : Nat → Int64} {record : Record} {batch : Batch}
    (ran : runner.runCase algorithm optimizer outer elapsed case = .ok (record, p, batch)) :
    case.Poses p ∧ 0 ≤ runner.runs ∧ Addressable Result.size runner.runs ∧
      run optimizer (some p) outer ((runner.starts case).map some) = .ok batch ∧
      settle algorithm elapsed p batch = .ok (record, p, batch) := by
  rw [runCase] at ran
  rcases bind_eq_ok_iff.mp ran with ⟨⟨q, starts⟩, prepared, more⟩
  rcases of_prepare_eq_ok prepared with ⟨poses, known, rfl⟩
  rcases bind_eq_ok_iff.mp more with ⟨_, room, more⟩
  rcases bind_eq_ok_iff.mp more with ⟨other, batched, more⟩
  have settled : settle algorithm elapsed q other = .ok (record, p, batch) := more
  rcases bind_eq_ok_iff.mp more with ⟨_, _, more⟩
  rcases bind_eq_ok_iff.mp more with ⟨_, _, more⟩
  rcases bind_eq_ok_iff.mp more with ⟨_, _, returned⟩
  obtain ⟨rfl, rfl⟩ := Prod.mk.inj (congrArg Prod.snd (Except.ok.inj returned))
  rw [length_starts known] at room
  exact ⟨poses, known, (reserve_eq_ok_iff.mp room).2, batched, settled⟩

section Climbs

variable (poses : case.Poses p) (valid : config.validate = .ok ())
include poses valid

theorem solved_starts (runner : Runner) :
    Solved ((runner.starts case).map (resultFrom config p)) := by
  rw [Solved, List.map_map, List.mem_map]
  rintro ⟨start, member, missing⟩
  rcases Climb.exists_moves_resultFrom poses.packing.searchable
      (length_of_mem_starts poses runner start member) valid with ⟨moves, _, found, _⟩
  rw [Function.comp_apply, found] at missing
  cases missing

/-- The climbs on a case succeed, and if there is room for their neighbors they have a
record. -/
theorem exists_settled (runner : Runner) (known : 0 ≤ runner.runs) (algorithm : String)
    (elapsed : Nat → Int64) :
    ∃ record batch,
      run (climber config) (some p) none ((runner.starts case).map some) = .ok batch ∧
      batch.results = .ok ((runner.starts case).map (resultFrom config p)) ∧
      record.Sums p ((runner.starts case).map (resultFrom config p)) ∧
      settle algorithm elapsed p batch =
        if 1 ≤ runner.runs → Addressable Climb.Neighbor.size case.width
          then .ok (record, p, batch) else .error .undefined := by
  have searchable := poses.packing.searchable
  have widths := length_of_mem_starts poses runner
  rcases Climb.exists_run_results searchable valid widths with ⟨batch, ran, climbed, results⟩
  rcases exists_record ⟨_, searchable.width_eq.1⟩
      ((solved_starts poses valid runner).timed elapsed 0) algorithm with
    ⟨record, summarized, sums⟩
  refine ⟨record, batch, ran, results, sums.untimed, ?_⟩
  have begun : runner.starts case ≠ [] ↔ 1 ≤ runner.runs := by
    have lengths := length_starts known case
    rw [← List.length_pos_iff]
    omega
  have granted := climbed.reserveNeighbors_eq_ok_iff searchable valid widths
  rw [poses.width, begun] at granted
  by_cases room : 1 ≤ runner.runs → Addressable Climb.Neighbor.size case.width
  · rw [if_pos room, settle, granted.mpr room, ok_bind, results, report_ok, ok_bind, summarized]
    rfl
  · rw [if_neg room, settle,
      (Climb.reserveNeighbors_cases batch).resolve_left fun given => room (granted.mp given)]
    rfl

/-- The climbs on a case succeed and have a record. -/
theorem exists_runCase (known : 0 ≤ runner.runs) (countable : Addressable Result.size runner.runs)
    (room : 1 ≤ runner.runs → Addressable Climb.Neighbor.size case.width) (algorithm : String)
    (elapsed : Nat → Int64) :
    ∃ record batch,
      runner.runCase algorithm (climber config) none elapsed case = .ok (record, p, batch) ∧
      batch.results = .ok ((runner.starts case).map (resultFrom config p)) ∧
      record.Sums p ((runner.starts case).map (resultFrom config p)) := by
  rcases exists_settled poses valid runner known algorithm elapsed with
    ⟨record, batch, ran, results, sums, settled⟩
  refine ⟨record, batch, ?_, results, sums⟩
  rw [runCase_eq poses known countable, ran, ok_bind, settled, if_pos room]

end Climbs

/-- A record of a case is that of the climbs from its starts. -/
theorem sums_of_runCase_eq_ok {algorithm : String} {elapsed : Nat → Int64} {record : Record}
    {batch : Batch} (valid : config.validate = .ok ())
    (ran : runner.runCase algorithm (climber config) none elapsed case = .ok (record, p, batch)) :
    case.Poses p ∧ runner.prepare case = .ok (p, runner.starts case) ∧
      batch.results = .ok ((runner.starts case).map (resultFrom config p)) ∧
      record.Sums p ((runner.starts case).map (resultFrom config p)) := by
  rcases of_runCase_eq_ok ran with ⟨poses, known, countable, batched, settled⟩
  rcases exists_settled poses valid runner known algorithm elapsed with
    ⟨other, same, ranSame, results, sums, outcome⟩
  obtain rfl := Except.ok.inj (ranSame.symm.trans batched)
  rw [settled] at outcome
  split at outcome
  · obtain rfl := congrArg Prod.fst (Except.ok.inj outcome)
    exact ⟨poses, prepare_eq_ok poses known (countable.of_size_le (by decide) known), results,
      sums⟩
  · contradiction

variable {record : Record}

theorem infeasible_eq_countP (poses : case.Poses p) (valid : config.validate = .ok ())
    (sums : record.Sums p ((runner.starts case).map (resultFrom config p))) :
    record.infeasible = (runner.starts case).countP fun start => p.feasible start = .ok false := by
  rw [sums.infeasible, List.map_map, List.count, List.countP_map]
  congr 1
  apply List.countP_congr
  intro start member
  have width := length_of_mem_starts poses runner start member
  rw [Function.comp_apply, Function.comp_apply, Climb.feasible_resultFrom poses.packing width valid,
    poses.packing.searchable.feasible_eq width]
  simp

theorem fitness_le_best (poses : case.Poses p) (valid : config.validate = .ok ())
    (sums : record.Sums p ((runner.starts case).map (resultFrom config p))) :
    ∀ start ∈ runner.starts case, ∃ fitness, p.fitness start = .ok fitness ∧
      fitness ≤ record.fitnessBest := by
  intro start member
  have searchable := poses.packing.searchable
  have width := length_of_mem_starts poses runner start member
  have climbed : resultFrom config p start ∈ (runner.starts case).map (resultFrom config p) :=
    List.mem_map_of_mem member
  have best := (sums.best (List.ne_nil_of_mem climbed)).2 (List.mem_map_of_mem climbed)
  exact ⟨_, searchable.fitness_eq width,
    Int64.le_trans (Climb.value_le_resultFrom searchable width valid) best⟩

theorem distinct_le_card (sums : record.Sums p ((runner.starts case).map (resultFrom config p))) :
    record.distinctOptima ≤ (runner.starts case).toFinset.card := by
  rw [sums.distinct, List.map_map, toFinset_map]
  exact Int.ofNat_le.mpr Finset.card_image_le

theorem distinct_pos (sums : record.Sums p ((runner.starts case).map (resultFrom config p)))
    (nonempty : runner.starts case ≠ []) : 1 ≤ record.distinctOptima := by
  rw [sums.distinct, List.map_map, toFinset_map]
  apply Int.ofNat_le.mpr
  rw [Nat.one_le_iff_ne_zero, Finset.card_ne_zero, Finset.image_nonempty,
    List.toFinset_nonempty_iff]
  exact nonempty

/-- A case that was read from a list of sizes, with room for the neighbors of a step, for
twice the constraints and for the results of all runs.  Its climbs all succeed, with a pool
of any size and in any order of what happens, and their record has the numbers of runs,
variables and constraints that were asked for.  It counts the infeasible starts, its best
fitness is not below that of any start, and it has at least one solution, if there is a run,
and at most as many different ones as there are different starts. -/
theorem runCase_counts_starts {base : Int64} {texts : List String} {cases : List Case}
    (read : Size.cases base texts = .ok cases) (member : case ∈ cases)
    (neighbors : Addressable Climb.Neighbor.size case.width)
    (roomy : Addressable wordSize (2 * case.constraints)) (runner : Runner)
    (known : 0 ≤ runner.runs) (countable : Addressable Result.size runner.runs)
    (valid : config.validate = .ok ()) (algorithm : String) (elapsed : Nat → Int64) :
    ∃ p starts record batch, runner.prepare case = .ok (p, starts) ∧
      runner.runCase algorithm (climber config) none elapsed case = .ok (record, p, batch) ∧
      (∀ reporters limit, 0 < limit →
        (Climb.job reporters config p (starts.map some) limit).Delivers (· = batch.results)) ∧
      starts.length = runner.runs ∧ record.runs = runner.runs ∧ record.width = case.width ∧
      record.constraints = case.constraints ∧
      record.infeasible = starts.countP (fun start => p.feasible start = .ok false) ∧
      (∀ start ∈ starts, ∃ fitness, p.fitness start = .ok fitness ∧
        fitness ≤ record.fitnessBest) ∧
      (1 ≤ runner.runs → 1 ≤ record.distinctOptima) ∧
      record.distinctOptima ≤ starts.toFinset.card := by
  rcases Size.cases_bounds read case member with ⟨positive, nonnegative⟩
  rcases Case.exists_poses (Case.drawable positive nonnegative neighbors roomy) with ⟨p, poses⟩
  have searchable := poses.packing.searchable
  have widths := length_of_mem_starts poses runner
  have lengths := length_starts known case
  have prepared := prepare_eq_ok poses known (countable.of_size_le (by decide) known)
  rcases exists_runCase poses valid known countable (fun _ => neighbors) algorithm elapsed with
    ⟨record, batch, ran, results, sums⟩
  refine ⟨p, runner.starts case, record, batch, prepared, ran, ?_,
    lengths, ?_, ?_, ?_, infeasible_eq_countP poses valid sums,
    fitness_le_best poses valid sums, ?_, distinct_le_card sums⟩
  · intro reporters limit room
    rw [results]
    exact Climb.delivers_results searchable valid widths reporters room
  · rw [sums.runs, List.length_map, lengths]
  · rw [sums.width searchable.width_eq.1, poses.width]
  · rw [sums.constraints, poses.constraints]
  · intro begun
    apply distinct_pos sums
    rw [← List.length_pos_iff]
    omega

/-- Thirty capped climbs on the second of two sizes. -/
theorem runCase_counts_starts_second :
    Size.cases 777 ["4x2", " 10x1 "] = .ok [⟨4, 2, 1179⟩, ⟨10, 1, 11778⟩] ∧
    ∃ p starts record batch,
      (Runner.mk 30 1000 0.2 2 0).prepare ⟨10, 1, 11778⟩ = .ok (p, starts) ∧
      (Runner.mk 30 1000 0.2 2 0).runCase "HC" (climber ⟨"single-bit", "best-improvement", 2⟩)
        none (fun _ => 0) ⟨10, 1, 11778⟩ = .ok (record, p, batch) ∧
      (starts.length : Int) = 30 ∧ record.runs = 30 ∧ record.width = 10 ∧ record.constraints = 1 ∧
      record.infeasible = starts.countP (fun start => p.feasible start = .ok false) ∧
      1 ≤ record.distinctOptima ∧ record.distinctOptima ≤ starts.toFinset.card := by
  have read : Size.cases 777 ["4x2", " 10x1 "] = .ok [⟨4, 2, 1179⟩, ⟨10, 1, 11778⟩] :=
    rfl
  have valid : (Config.mk "single-bit" "best-improvement" 2).validate = .ok () := rfl
  have member : (⟨10, 1, 11778⟩ : Case) ∈ [(⟨4, 2, 1179⟩ : Case), ⟨10, 1, 11778⟩] := by simp
  rcases runCase_counts_starts read member (by decide) (by decide) ⟨30, 1000, 0.2, 2, 0⟩
      (by simp) (by decide) valid "HC" (fun _ => 0) with
    ⟨p, starts, record, batch, prepared, ran, _, lengths, runs, width, constraints, infeasible, _,
      found, distinct⟩
  exact ⟨read, p, starts, record, batch, prepared, ran, lengths, runs, width, constraints,
    infeasible, found (by simp), distinct⟩

/-- A case has no record without room for its problem. -/
theorem runCase_eq_undefined_of_shape (positive : 0 < case.width)
    (nonnegative : 0 ≤ case.constraints)
    (beyond : ¬ Addressable wordSize case.width ∨ ¬ Addressable wordSize case.constraints)
    (runner : Runner) (algorithm : String) (optimizer : Optimizer) (outer : Option Interrupt)
    (elapsed : Nat → Int64) :
    runner.runCase algorithm optimizer outer elapsed case = .error .undefined := by
  rw [runCase, prepare, Problem.random_eq_undefined _ positive nonnegative beyond]
  rfl

/-- Nor is there one without room for the results of its runs. -/
theorem runCase_eq_undefined_of_runs
    (drawable : Problem.Drawable case.width case.constraints) (known : 0 ≤ runner.runs)
    (beyond : ¬ Addressable Result.size runner.runs) (algorithm : String)
    (optimizer : Optimizer) (outer : Option Interrupt) (elapsed : Nat → Int64) :
    runner.runCase algorithm optimizer outer elapsed case = .error .undefined := by
  rcases Case.exists_poses drawable with ⟨p, poses⟩
  rw [runCase]
  by_cases words : Addressable wordSize runner.runs
  · rw [prepare_eq_ok poses known words, ok_bind]
    dsimp only
    rw [length_starts known, reserve_eq_undefined beyond]
    rfl
  · rw [prepare_eq poses, reserve_eq_undefined words]
    rfl

/-- Nor, if there is a run, without room for the neighbors of its first step. -/
theorem runCase_eq_undefined_of_neighbors
    (drawable : Problem.Drawable case.width case.constraints) (begun : 1 ≤ runner.runs)
    (countable : Addressable Result.size runner.runs)
    (beyond : ¬ Addressable Climb.Neighbor.size case.width) (valid : config.validate = .ok ())
    (algorithm : String) (elapsed : Nat → Int64) :
    runner.runCase algorithm (climber config) none elapsed case = .error .undefined := by
  have known : 0 ≤ runner.runs := by omega
  rcases Case.exists_poses drawable with ⟨p, poses⟩
  rcases exists_settled poses valid runner known algorithm elapsed with
    ⟨record, batch, ran, _, _, settled⟩
  rw [runCase_eq poses known countable, ran, ok_bind, settled,
    if_neg fun room => beyond (room begun)]

/-- The smallest case has no record for 2^46 runs, and one of 2^46 variables or constraints
has none for no run at all: such lists cannot be addressed.  A list of 2^44 neighbors cannot be
either, so one of 2^44 variables has no record for a single run. -/
theorem runCase_undefined_unaddressable :
    Config.default.validate = .ok () ∧
    Size.cases 777 ["1x0"] = .ok [⟨1, 0, 877⟩] ∧
    (Runner.mk 70368744177664 5 0 1 0).runCase "HC" (climber .default) none (fun _ => 0)
      ⟨1, 0, 877⟩ = .error .undefined ∧
    Size.cases 777 ["70368744177664x0"] = .ok [⟨70368744177664, 0, 7036874417767177⟩] ∧
    (20 * 70368744177664 : Int) < 9223372036854775808 ∧
    (Runner.mk 0 5 0 1 0).runCase "HC" (climber .default) none (fun _ => 0)
      ⟨70368744177664, 0, 7036874417767177⟩ = .error .undefined ∧
    Size.cases 777 ["1x70368744177664"] = .ok [⟨1, 70368744177664, 70368744178541⟩] ∧
    (Runner.mk 0 5 0 1 0).runCase "HC" (climber .default) none (fun _ => 0)
      ⟨1, 70368744177664, 70368744178541⟩ = .error .undefined ∧
    Size.cases 777 ["17592186044416x0"] = .ok [⟨17592186044416, 0, 1759218604442377⟩] ∧
    (Runner.mk 1 5 0 1 0).runCase "HC" (climber .default) none (fun _ => 0)
      ⟨17592186044416, 0, 1759218604442377⟩ = .error .undefined := by
  refine ⟨rfl, rfl, ?_, rfl, by decide, ?_, rfl, ?_, rfl, ?_⟩
  · exact runCase_eq_undefined_of_runs ⟨by decide, by decide, by decide, by decide⟩ (by decide)
      (by decide) _ _ _ _
  · exact runCase_eq_undefined_of_shape (by decide) (by decide) (.inl (by decide)) _ _ _ _ _
  · exact runCase_eq_undefined_of_shape (by decide) (by decide) (.inr (by decide)) _ _ _ _ _
  · exact runCase_eq_undefined_of_neighbors ⟨by decide, by decide, by decide, by decide⟩
      (by decide) (by decide) (by decide) rfl _ _

end Runner

end Benchmark

end Ascent
