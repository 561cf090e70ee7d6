import Ascent.Proofs.Benchmark.Case

/-!
# More runs on a case

The starts of a case are drawn one after the other from one generator, and the problem
from another one.  So a benchmark with more runs has the same problem and begins with
the same starts.  As a climb depends on its start alone, it begins with the same
results, and what the record counts can only grow.
-/

namespace Ascent.Benchmark.Runner

open Climb (Config resultFrom)

variable {case : Case} {config : Config}

/-- A runner that is told another number of runs. -/
def withRuns (runner : Runner) (runs : Int) : Runner :=
  { runner with runs }

@[simp]
theorem runs_withRuns (runner : Runner) (runs : Int) : (runner.withRuns runs).runs = runs :=
  rfl

/-- The starts of fewer runs are the first ones. -/
theorem starts_withRuns (runner : Runner) (case : Case) {fewer more : Int} (order : fewer ≤ more) :
    (runner.withRuns fewer).starts case =
      ((runner.withRuns more).starts case).take fewer.toNat :=
  (Solution.take_randoms _ _ _ (Int.toNat_le_toNat order) _).symm

/-- So are the results of the climbs from them. -/
theorem resultFrom_starts_withRuns (runner : Runner) (case : Case) {fewer more : Int}
    (order : fewer ≤ more) (config : Config) (p : Problem) :
    ((runner.withRuns fewer).starts case).map (resultFrom config p) =
      (((runner.withRuns more).starts case).map (resultFrom config p)).take fewer.toNat := by
  rw [starts_withRuns runner case order, List.map_take]

/-- More runs on a case, with any times that they take.  The problem is the same, the
starts of the fewer runs are the first ones of the more runs, and so are the results,
with a pool of any size and in any order of what happens.  Neither the best fitness nor
the number of infeasible results or of different solutions gets smaller. -/
theorem runCase_extends (positive : 1 ≤ case.width)
    (neighbors : Addressable Climb.Neighbor.size case.width) (nonnegative : 0 ≤ case.constraints)
    (roomy : Addressable wordSize (2 * case.constraints)) (runner : Runner) {fewer more : Int}
    (begun : 1 ≤ fewer) (order : fewer ≤ more) (countable : Addressable Result.size more)
    (valid : config.validate = .ok ()) (algorithm : String) (elapsed later : Nat → Int64) :
    ∃ p starts results record record' batch batch',
      (runner.withRuns more).prepare case = .ok (p, starts) ∧ starts.length = more ∧
      (runner.withRuns fewer).prepare case = .ok (p, starts.take fewer.toNat) ∧
      (runner.withRuns more).runCase algorithm (climber config) none later case =
        .ok (record', p, batch') ∧
      (runner.withRuns fewer).runCase algorithm (climber config) none elapsed case =
        .ok (record, p, batch) ∧
      batch'.results = .ok results ∧ results.length = more ∧
      batch.results = .ok (results.take fewer.toNat) ∧
      (∀ reporters limit, 0 < limit →
        (Climb.job reporters config p (starts.map some) limit).Delivers (· = .ok results) ∧
        (Climb.job reporters config p ((starts.take fewer.toNat).map some) limit).Delivers
          (· = .ok (results.take fewer.toNat))) ∧
      record.fitnessBest ≤ record'.fitnessBest ∧ record.infeasible ≤ record'.infeasible ∧
      record.distinctOptima ≤ record'.distinctOptima := by
  rcases Case.exists_poses (Case.drawable positive nonnegative neighbors roomy) with ⟨p, poses⟩
  have searchable := poses.packing.searchable
  have known : 0 ≤ (runner.withRuns more).runs := Int.le_trans (by omega) order
  have knownFewer : 0 ≤ (runner.withRuns fewer).runs := Int.le_trans (by omega) begun
  have countableFewer : Addressable Result.size (runner.withRuns fewer).runs :=
    countable.of_le order
  rcases exists_runCase poses valid known countable (fun _ => neighbors) algorithm later with
    ⟨record', batch', ran', results', sums'⟩
  rcases exists_runCase poses valid knownFewer countableFewer (fun _ => neighbors) algorithm
    elapsed with ⟨record, batch, ran, results, sums⟩
  have prepared' := prepare_eq_ok poses known (countable.of_size_le (by decide) known)
  have prepared := prepare_eq_ok poses knownFewer
    (countableFewer.of_size_le (by decide) knownFewer)
  have lengths := length_starts known case
  have widths := length_of_mem_starts poses (runner.withRuns more)
  have begins := resultFrom_starts_withRuns runner case order config p
  have part : (((runner.withRuns fewer).starts case).map (resultFrom config p)).Sublist
      (((runner.withRuns more).starts case).map (resultFrom config p)) := by
    rw [begins]
    apply List.take_sublist
  have nonempty : ((runner.withRuns fewer).starts case).map (resultFrom config p) ≠ [] := by
    have fewerLengths := length_starts knownFewer case
    rw [runs_withRuns] at fewerLengths
    rw [← List.length_pos_iff, List.length_map]
    omega
  rw [starts_withRuns runner case order] at prepared
  rw [begins] at results
  refine ⟨p, _, _, record, record', batch, batch', prepared', lengths, prepared, ran', ran,
    results', ?_, results, ?_, sums.best_le sums' part nonempty, sums.infeasible_le sums' part,
    sums.distinct_le sums' part⟩
  · rw [List.length_map, lengths, runs_withRuns]
  · intro reporters limit room
    constructor
    · exact Climb.delivers_results searchable valid widths reporters room
    · rw [← List.map_take]
      exact Climb.delivers_results searchable valid
        (fun start member => widths start (List.mem_of_mem_take member)) reporters room

/-- Three runs and thirty runs on ten variables; each of the thirty takes twice the time. -/
theorem runCase_extends_tenfold :
    ∃ p starts results record record' batch batch',
      ((Runner.mk 0 1000 0.2 2 0).withRuns 30).prepare ⟨10, 1, 11778⟩ = .ok (p, starts) ∧
      ((Runner.mk 0 1000 0.2 2 0).withRuns 3).prepare ⟨10, 1, 11778⟩ = .ok (p, starts.take 3) ∧
      ((Runner.mk 0 1000 0.2 2 0).withRuns 30).runCase "HC" (climber .default) none
        (fun _ => 2000) ⟨10, 1, 11778⟩ = .ok (record', p, batch') ∧
      ((Runner.mk 0 1000 0.2 2 0).withRuns 3).runCase "HC" (climber .default) none
        (fun _ => 1000) ⟨10, 1, 11778⟩ = .ok (record, p, batch) ∧
      batch'.results = .ok results ∧ batch.results = .ok (results.take 3) ∧
      record.fitnessBest ≤ record'.fitnessBest ∧ record.infeasible ≤ record'.infeasible ∧
      record.distinctOptima ≤ record'.distinctOptima := by
  have valid : Config.default.validate = .ok () := rfl
  rcases @runCase_extends ⟨10, 1, 11778⟩ .default (by decide) (by decide) (by decide) (by decide)
      ⟨0, 1000, 0.2, 2, 0⟩ 3 30 (by decide) (by decide) (by decide) valid "HC" (fun _ => 1000)
      (fun _ => 2000) with
    ⟨p, starts, results, record, record', batch, batch', prepared', _, prepared, ran', ran,
      results', _, found, _, grown⟩
  exact ⟨p, starts, results, record, record', batch, batch', prepared', prepared, ran', ran,
    results', found, grown⟩

/-- One run on the smallest case has a record, and 2^46 runs have none.  On 2^46 variables
not even one run has a record. -/
theorem runCase_not_extended_unaddressable :
    (∃ record p batch, ((Runner.mk 0 5 0 1 0).withRuns 1).runCase "HC" (climber .default) none
      (fun _ => 0) ⟨1, 0, 877⟩ = .ok (record, p, batch)) ∧
    ((Runner.mk 0 5 0 1 0).withRuns 70368744177664).runCase "HC" (climber .default) none
      (fun _ => 0) ⟨1, 0, 877⟩ = .error .undefined ∧
    ((Runner.mk 0 5 0 1 0).withRuns 1).runCase "HC" (climber .default) none
      (fun _ => 0) ⟨70368744177664, 0, 877⟩ = .error .undefined := by
  have drawable : Problem.Drawable 1 0 := ⟨by decide, by decide, by decide, by decide⟩
  constructor
  · rcases @Case.exists_poses ⟨1, 0, 877⟩ drawable with ⟨p, poses⟩
    have valid : Config.default.validate = .ok () := rfl
    rcases @exists_runCase ((Runner.mk 0 5 0 1 0).withRuns 1) _ .default p poses valid (by decide)
        (by decide) (by decide) "HC" (fun _ => 0) with ⟨record, batch, ran, _⟩
    exact ⟨record, p, batch, ran⟩
  · constructor
    · exact runCase_eq_undefined_of_runs drawable (by decide) (by decide) _ _ _ _
    · exact runCase_eq_undefined_of_shape (by decide) (by decide) (.inl (by decide)) _ _ _ _ _

end Ascent.Benchmark.Runner
