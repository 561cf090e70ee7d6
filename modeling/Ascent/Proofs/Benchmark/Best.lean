import Ascent.Proofs.Benchmark.Case

/-!
# Whether the best fitness can be used

A record has the highest fitness of all results, whether they are feasible or not.  So
the best fitness is that of a feasible result exactly if every infeasible result is
matched by a feasible one that is at least as good; otherwise it is the fitness of an
infeasible result.

On a case the infeasible results are the infeasible starts, which a climb does not leave.
It depends on them whether a solution that satisfies all constraints was found that has
the best fitness.
-/

namespace Ascent.Benchmark

open Climb (Config resultFrom)

/-! ## Results -/

/-- The best fitness is that of a feasible result. -/
def Usable (results : List Result) (best : Int64) : Prop :=
  ∃ result ∈ results, result.feasible = true ∧ result.fitness = best

/-- Every infeasible result is matched by a feasible one that is at least as good. -/
def Matched (results : List Result) : Prop :=
  ∀ result ∈ results, result.feasible = false →
    ∃ other ∈ results, other.feasible = true ∧ result.fitness ≤ other.fitness

section Greatest

variable {results : List Result} {best : Int64}
  (greatest : IsGreatest {fitness | fitness ∈ results.map (·.fitness)} best)
include greatest

theorem le_best {result : Result} (member : result ∈ results) : result.fitness ≤ best :=
  greatest.2 (List.mem_map_of_mem member)

theorem usable_iff_matched : Usable results best ↔ Matched results := by
  constructor
  · rintro ⟨other, member, feasible, rfl⟩ result here _
    exact ⟨other, member, feasible, le_best greatest here⟩
  · intro matched
    rcases List.mem_map.mp greatest.1 with ⟨result, member, attained⟩
    cases feasible : result.feasible with
    | true => exact ⟨result, member, feasible, attained⟩
    | false =>
        rcases matched result member feasible with ⟨other, otherMember, otherFeasible, above⟩
        rw [attained] at above
        exact ⟨other, otherMember, otherFeasible,
          Int64.le_antisymm (le_best greatest otherMember) above⟩

/-- A best fitness that cannot be used is that of an infeasible result, above all feasible
ones. -/
theorem exists_infeasible_of_not_usable (unusable : ¬ Usable results best) :
    ∃ result ∈ results, result.feasible = false ∧ result.fitness = best ∧
      ∀ other ∈ results, other.feasible = true → other.fitness < best := by
  rcases List.mem_map.mp greatest.1 with ⟨result, member, attained⟩
  refine ⟨result, member, ?_, attained, ?_⟩
  · rw [← Bool.not_eq_true]
    exact fun feasible => unusable ⟨result, member, feasible, attained⟩
  · intro other otherMember feasible
    apply Int64.lt_of_le_of_ne (le_best greatest otherMember)
    exact fun same => unusable ⟨other, otherMember, feasible, same⟩

end Greatest

/-- A result tells what the problem says about its solution. -/
def Vouched (p : Problem) (result : Result) : Prop :=
  ∃ s, result.solution = some s ∧ p.feasible s = .ok result.feasible ∧
    p.fitness s = .ok result.fitness

/-- A solution was found that satisfies all constraints and has this fitness. -/
def Found (p : Problem) (results : List Result) (fitness : Int64) : Prop :=
  ∃ result ∈ results, ∃ s, result.solution = some s ∧ p.feasible s = .ok true ∧
    p.fitness s = .ok fitness

theorem usable_iff_found {p : Problem} {results : List Result}
    (vouched : ∀ result ∈ results, Vouched p result) (fitness : Int64) :
    Usable results fitness ↔ Found p results fitness := by
  constructor
  · rintro ⟨result, member, feasible, rfl⟩
    rcases vouched result member with ⟨s, solution, verdict, value⟩
    rw [feasible] at verdict
    exact ⟨result, member, s, solution, verdict, value⟩
  · rintro ⟨result, member, s, solution, feasible, value⟩
    rcases vouched result member with ⟨t, otherSolution, verdict, otherValue⟩
    obtain rfl := Option.some.inj (solution.symm.trans otherSolution)
    exact ⟨result, member, (Except.ok.inj (feasible.symm.trans verdict)).symm,
      Except.ok.inj (otherValue.symm.trans value)⟩

/-! ## Climbs -/

section Climbs

variable {p : Problem} {config : Config} {start : Solution}

theorem vouched_resultFrom (searchable : p.Searchable) (width : start.length = p.weights.length)
    (valid : config.validate = .ok ()) : Vouched p (resultFrom config p start) := by
  rcases Climb.exists_moves_resultFrom searchable width valid with
    ⟨moves, _, solution, fitness, feasible⟩
  have reached := Problem.orbit_width width moves
  refine ⟨p.orbit start moves, solution, ?_, ?_⟩
  · rw [feasible, searchable.feasible_eq reached]
  · rw [fitness, searchable.fitness_eq reached]

/-- The climb from an infeasible start of a packing problem stays there. -/
theorem fitness_resultFrom_of_infeasible (packing : p.Packing)
    (width : start.length = p.weights.length) (valid : config.validate = .ok ())
    (rejected : p.accepts start = false) :
    (resultFrom config p start).fitness = p.value start := by
  rcases Climb.exists_moves_resultFrom packing.searchable width valid with
    ⟨moves, moving, _, fitness, _⟩
  obtain rfl := packing.moves_of_infeasible width rejected moving
  exact fitness

/-- The results of climbs are matched exactly if the infeasible starts are. -/
theorem matched_resultFrom_iff (packing : p.Packing) (valid : config.validate = .ok ())
    {starts : List Solution} (widths : ∀ start ∈ starts, start.length = p.weights.length) :
    Matched (starts.map (resultFrom config p)) ↔
      ∀ start ∈ starts, p.feasible start = .ok false →
        ∃ other ∈ starts.map (resultFrom config p), other.feasible = true ∧
          ∃ fitness, p.fitness start = .ok fitness ∧ fitness ≤ other.fitness := by
  rw [Matched, List.forall_mem_map]
  refine forall₂_congr fun start member => ?_
  have width := widths start member
  rw [Climb.feasible_resultFrom packing width valid, packing.searchable.feasible_eq width,
    Except.ok.injEq]
  refine imp_congr_right fun rejected => ?_
  rw [fitness_resultFrom_of_infeasible packing width valid rejected,
    packing.searchable.fitness_eq width]
  simp

end Climbs

/-! ## Records -/

namespace Runner

/-- The best fitness of a record.  For all results of which one is feasible, it is the
fitness of a feasible result exactly if the infeasible ones are matched, and otherwise that of
an infeasible one.  Whatever case a record is of, with a pool of any size and in any order of
what happens, if one of its starts is feasible, a solution that satisfies all constraints and has
the best fitness is found exactly if no infeasible start is better than all feasible results.
There is a record if there is room for the neighbors of a step, for twice the constraints and
for the results of all runs. -/
theorem runCase_best_feasible_iff :
    (∀ (algorithm : String) (q : Problem) (results : List Result), q.objective ≠ none →
      Solved results → (∃ result ∈ results, result.feasible = true) →
      ∃ record, summarize algorithm (some q) results = .ok record ∧
        (Usable results record.fitnessBest ↔ Matched results) ∧
        (¬ Matched results → ∃ result ∈ results, result.feasible = false ∧
          result.fitness = record.fitnessBest ∧
          ∀ other ∈ results, other.feasible = true → other.fitness < record.fitnessBest)) ∧
    ∀ (case : Case) (runner : Runner) (config : Config) (algorithm : String)
      (elapsed : Nat → Int64), config.validate = .ok () →
      (∀ record p batch,
        runner.runCase algorithm (climber config) none elapsed case = .ok (record, p, batch) →
        ∃ starts results, runner.prepare case = .ok (p, starts) ∧ batch.results = .ok results ∧
          (∀ reporters limit, 0 < limit →
            (Climb.job reporters config p (starts.map some) limit).Delivers (· = .ok results)) ∧
          (∀ result ∈ results, Vouched p result) ∧
          ((∃ start ∈ starts, p.feasible start = .ok true) →
            (Found p results record.fitnessBest ↔
              ∀ start ∈ starts, p.feasible start = .ok false →
                ∃ other ∈ results, other.feasible = true ∧
                  ∃ fitness, p.fitness start = .ok fitness ∧ fitness ≤ other.fitness))) ∧
      (0 < case.width → Addressable Climb.Neighbor.size case.width → 0 ≤ case.constraints →
        Addressable wordSize (2 * case.constraints) → 0 ≤ runner.runs →
        Addressable Result.size runner.runs → ∃ record p batch,
          runner.runCase algorithm (climber config) none elapsed case =
            .ok (record, p, batch)) := by
  constructor
  · rintro algorithm q results objective solved ⟨feasible, member, _⟩
    rcases exists_record (exists_width objective) solved algorithm with
      ⟨record, summarized, sums⟩
    have greatest := sums.best (List.ne_nil_of_mem member)
    refine ⟨record, summarized, usable_iff_matched greatest, ?_⟩
    rw [← usable_iff_matched greatest]
    exact exists_infeasible_of_not_usable greatest
  · intro case runner config algorithm elapsed valid
    refine ⟨fun record p batch ran => ?_,
      fun positive neighbors nonnegative roomy known countable => ?_⟩
    case refine_2 =>
      rcases Case.exists_poses (Case.drawable positive nonnegative neighbors roomy) with
        ⟨p, poses⟩
      rcases exists_runCase poses valid known countable (fun _ => neighbors) algorithm elapsed with
        ⟨record, batch, ran, _⟩
      exact ⟨record, p, batch, ran⟩
    rcases sums_of_runCase_eq_ok valid ran with ⟨poses, prepared, results, sums⟩
    have searchable := poses.packing.searchable
    have widths := length_of_mem_starts poses runner
    have vouched : ∀ result ∈ (runner.starts case).map (resultFrom config p),
        Vouched p result := by
      rw [List.forall_mem_map]
      exact fun start member => vouched_resultFrom searchable (widths start member) valid
    refine ⟨runner.starts case, _, prepared, results, fun reporters limit room =>
      Climb.delivers_results searchable valid widths reporters room, vouched, ?_⟩
    rintro ⟨feasible, member, _⟩
    have greatest := sums.best (List.ne_nil_of_mem (List.mem_map_of_mem member))
    rw [← usable_iff_found vouched, usable_iff_matched greatest,
      matched_resultFrom_iff poses.packing valid widths]

/-- Two climbs on three variables.  The second start is infeasible, and the first climb ends
at a feasible solution of the same fitness. -/
theorem runCase_best_feasible_iff_tied :
    ∃ p starts record batch results,
      (Runner.mk 2 3 0.5 1 0).prepare ⟨3, 1, 1⟩ = .ok (p, starts) ∧
      (Runner.mk 2 3 0.5 1 0).runCase "HC" (climber .default) none (fun _ => 0) ⟨3, 1, 1⟩ =
        .ok (record, p, batch) ∧
      batch.results = .ok results ∧
      starts = [⟨[false, false, false]⟩, ⟨[false, false, true]⟩] ∧
      p.feasible ⟨[false, false, false]⟩ = .ok true ∧
      p.feasible ⟨[false, false, true]⟩ = .ok false ∧
      record.fitnessBest = 8 ∧ Found p results 8 := by
  have valid : Config.default.validate = .ok () := rfl
  rcases runCase_best_feasible_iff.2 ⟨3, 1, 1⟩ ⟨2, 3, 0.5, 1, 0⟩ .default "HC" (fun _ => 0)
    valid with ⟨usable, exists_record⟩
  rcases exists_record (by decide) (by decide) (by decide) (by decide) (by decide) (by decide)
    with ⟨record, p, batch, ran⟩
  rcases usable record p batch ran with ⟨starts, results, prepared, found, _, _, usable⟩
  have setting : ((Runner.mk 2 3 0.5 1 0).prepare ⟨3, 1, 1⟩).toOption =
      some (⟨"random-3x1", some ⟨[2, 8, 8]⟩, some ⟨[⟨[10, 2, 9], some .lessOrEqual, 7⟩]⟩⟩,
        [⟨[false, false, false]⟩, ⟨[false, false, true]⟩]) := by
    decide +kernel
  obtain ⟨rfl, rfl⟩ := Prod.mk.inj (Except.ok.inj (prepared.symm.trans (eq_ok_of_toOption setting)))
  have outcome : ((Runner.mk 2 3 0.5 1 0).runCase "HC" (climber .default) none (fun _ => 0)
      ⟨3, 1, 1⟩).toOption.map (fun ran => (ran.1.fitnessBest,
        ran.2.2.results.toOption.map fun results =>
          results.map fun result => (result.feasible, result.fitness))) =
      some (8, some [(true, 8), (false, 8)]) := by
    decide +kernel
  rw [ran] at outcome
  rcases Prod.mk.inj (Option.some.inj outcome) with ⟨best, listed⟩
  rw [found] at listed
  have verdicts : results.map (fun result => (result.feasible, result.fitness)) =
      [(true, 8), (false, 8)] := Option.some.inj listed
  have climbed : (true, (8 : Int64)) ∈ results.map fun result =>
      (result.feasible, result.fitness) := by
    rw [verdicts]
    exact List.mem_cons_self
  rcases List.mem_map.mp climbed with ⟨other, member, values⟩
  obtain ⟨feasible, fitness⟩ := Prod.mk.inj values
  have attained : record.fitnessBest = 8 := best
  refine ⟨_, _, record, batch, results, prepared, ran, found, rfl, rfl, rfl, attained, ?_⟩
  have shown := (usable ⟨_, List.mem_cons_self, rfl⟩).mpr fun start here rejected => by
    rcases List.mem_cons.mp here with rfl | here
    · cases rejected
    · obtain rfl := List.mem_singleton.mp here
      exact ⟨other, member, feasible, 8, rfl, fitness ▸ Int64.le_refl 8⟩
  rwa [attained] at shown

/-- One item that is too heavy. -/
def pocket : Problem where
  name := "random-1x1"
  objective := some ⟨[2]⟩
  constraints := some ⟨[⟨[8], some .lessOrEqual, 2⟩]⟩

/-- The item was not taken, or it was there from the start. -/
def pocketResults : List Result :=
  [{ blankResult with solution := some ⟨[true]⟩, fitness := 2 },
    { blankResult with solution := some ⟨[false]⟩, feasible := true }]

theorem pocket_fitness {s : Solution} (feasible : pocket.feasible s = .ok true) :
    pocket.fitness s = .ok 0 := by
  rcases s with ⟨_ | ⟨value, _ | ⟨other, rest⟩⟩⟩
  · cases feasible
  · cases value with
    | false => rfl
    | true => cases feasible
  · cases feasible

/-- The best fitness is that of an infeasible result, although there is a feasible one.  In
the second case not even another solution that satisfies all constraints has this fitness. -/
theorem runCase_best_infeasible_pocket :
    (∃ record, summarize "HC" (some pocket) pocketResults = .ok record ∧
      (∃ result ∈ pocketResults, result.feasible = true) ∧
      ∀ result ∈ pocketResults, result.feasible = true → result.fitness ≠ record.fitnessBest) ∧
    ∃ starts record batch,
      (Runner.mk 2 1 0.75 1 0).prepare ⟨1, 1, 1⟩ = .ok (pocket, starts) ∧
      (Runner.mk 2 1 0.75 1 0).runCase "HC" (climber .default) none (fun _ => 0) ⟨1, 1, 1⟩ =
        .ok (record, pocket, batch) ∧
      (∃ start ∈ starts, pocket.feasible start = .ok true) ∧
      ∀ s, pocket.feasible s = .ok true → pocket.fitness s ≠ .ok record.fitnessBest := by
  have feasible : ∀ result ∈ pocketResults, result.feasible = true → result.fitness = 0 := by
    decide
  have summarized : (summarize "HC" (some pocket) pocketResults).toOption.map (·.fitnessBest) =
      some 2 := by
    decide +kernel
  have setting : ((Runner.mk 2 1 0.75 1 0).prepare ⟨1, 1, 1⟩).toOption =
      some (pocket, [⟨[true]⟩, ⟨[false]⟩]) := by
    decide +kernel
  have outcome : ((Runner.mk 2 1 0.75 1 0).runCase "HC" (climber .default) none (fun _ => 0)
      ⟨1, 1, 1⟩).toOption.map (fun ran => (ran.1.fitnessBest, ran.2.1)) = some (2, pocket) := by
    decide +kernel
  rcases Option.map_eq_some_iff.mp summarized with ⟨record, made, best⟩
  rcases Option.map_eq_some_iff.mp outcome with ⟨⟨caseRecord, p, batch⟩, ran, values⟩
  obtain ⟨caseBest, rfl⟩ := Prod.mk.inj values
  refine ⟨⟨record, eq_ok_of_toOption made, by decide, ?_⟩, _, caseRecord, batch,
    eq_ok_of_toOption setting, eq_ok_of_toOption ran, ⟨⟨[false]⟩, by decide, rfl⟩, ?_⟩
  · intro result member verdict
    rw [feasible result member verdict, best]
    decide
  · intro s verdict
    rw [pocket_fitness verdict, caseBest]
    exact fun same => absurd (Except.ok.inj same) (by decide)

end Runner

end Ascent.Benchmark
