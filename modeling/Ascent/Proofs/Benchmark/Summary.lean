import Ascent.Benchmark.Runner
import Ascent.Proofs.Evaluation
import Mathlib.Data.Finset.Card
import Mathlib.Order.Bounds.Defs

/-!
# What a record says

Apart from means and times a record says four things about the results it
summarizes: how many there are, how many of them are infeasible, how many different
solutions they have, and which fitness is the highest one.  None of these depends on
the times of the runs.
-/

namespace Ascent.Benchmark

/-! ## The best value -/

namespace Statistics

/-- The running best is a greatest value, the one it started from included. -/
theorem isGreatest_bestOf (first : Int64) (values : List Int64) :
    IsGreatest {value | value ∈ first :: values}
      (bestOf (fun a b => decide (b < a)) first values) := by
  induction values generalizing first with
  | nil => simp [bestOf, IsGreatest, upperBounds]
  | cons value rest ih =>
      rw [bestOf, List.foldl_cons]
      rcases Decidable.em (first < value) with better | kept
      · rw [if_pos (decide_eq_true better)]
        rcases ih value with ⟨member, greatest⟩
        refine ⟨List.mem_cons_of_mem _ member, fun other here => ?_⟩
        rcases List.mem_cons.mp here with rfl | later
        · exact Int64.le_trans (Int64.le_of_lt better) (greatest List.mem_cons_self)
        · exact greatest later
      · rw [if_neg (by simpa using kept)]
        rcases ih first with ⟨member, greatest⟩
        constructor
        · rcases List.mem_cons.mp member with same | later
          · exact List.mem_cons.mpr (Or.inl same)
          · exact List.mem_cons_of_mem _ (List.mem_cons_of_mem _ later)
        · intro other here
          rcases List.mem_cons.mp here with rfl | later
          · exact greatest List.mem_cons_self
          · rcases List.mem_cons.mp later with rfl | later
            · exact Int64.le_trans (Int64.not_lt.mp kept) (greatest List.mem_cons_self)
            · exact greatest (List.mem_cons_of_mem _ later)

/-- The best of fitness values is a greatest one of them. -/
theorem isGreatest_best_ofInts {values : List Int64} (nonempty : values ≠ []) :
    IsGreatest {value | value ∈ values} (ofInts values).best := by
  cases values with
  | nil => exact absurd rfl nonempty
  | cons first rest => simpa [ofInts, calculate] using isGreatest_bestOf first (first :: rest)

end Statistics

/-! ## Different solutions -/

/-- Erasing repetitions leaves none.  The recursion is on the values that are left after
the first one, which are not always its tail. -/
theorem nodup_eraseDups {α : Type} [DecidableEq α] (values : List α) :
    values.eraseDups.Nodup := by
  cases values with
  | nil => exact List.nodup_nil
  | cons first rest =>
      rw [List.eraseDups_cons, List.nodup_cons]
      exact ⟨by simp [List.mem_eraseDups], nodup_eraseDups _⟩
termination_by values.length
decreasing_by exact Nat.lt_succ_of_le (List.length_filter_le _ _)

/-- Erasing repetitions counts the different values. -/
theorem length_eraseDups {α : Type} [DecidableEq α] (values : List α) :
    values.eraseDups.length = values.toFinset.card := by
  have same : values.eraseDups.toFinset = values.toFinset := by
    ext value
    simp only [List.mem_toFinset, List.mem_eraseDups]
  rw [← same, List.toFinset_card_of_nodup (nodup_eraseDups values)]

theorem toFinset_map {α β : Type} [DecidableEq α] [DecidableEq β] (f : α → β) (values : List α) :
    (values.map f).toFinset = values.toFinset.image f :=
  Multiset.toFinset_map f values

/-! ## Results and their times -/

/-- The times of the runs change only the durations. -/
theorem map_timed {α : Type} (field : Result → α)
    (untimed : ∀ result duration, field { result with duration } = field result)
    (elapsed : Nat → Int64) (index : Nat) (results : List Result) :
    (timed elapsed index results).map field = results.map field := by
  induction results generalizing index with
  | nil => rfl
  | cons result rest ih => simp only [timed, List.map_cons, untimed, ih]

/-- No result lacks a solution. -/
def Solved (results : List Result) : Prop :=
  none ∉ results.map (·.solution)

theorem Solved.timed {results : List Result} (solved : Solved results) (elapsed : Nat → Int64)
    (index : Nat) : Solved (timed elapsed index results) := by
  rw [Solved, map_timed (·.solution) (fun _ _ => rfl)]
  exact solved

theorem Solved.exists_solutions {results : List Result} (solved : Solved results) :
    ∃ solutions : List Solution,
      (results.mapM fun result => present result.solution) = .ok solutions ∧
      results.map (·.solution) = solutions.map some := by
  induction results with
  | nil => exact ⟨[], rfl, rfl⟩
  | cons result rest ih =>
      rw [Solved, List.map_cons, List.mem_cons, not_or] at solved
      rcases Option.ne_none_iff_exists'.mp (Ne.symm solved.1) with ⟨solution, found⟩
      rcases ih solved.2 with ⟨solutions, collected, listed⟩
      refine ⟨solution :: solutions, ?_, ?_⟩
      · rw [List.mapM_cons, found, present_some, ok_bind, collected, ok_bind, pure_eq_ok]
      · rw [List.map_cons, List.map_cons, found, listed]

/-! ## The record -/

/-- What a record says about a problem and results on it, apart from means and times. -/
structure Record.Sums (record : Record) (p : Problem) (results : List Result) : Prop where
  width : ∀ {width}, p.width = .ok width → record.width = width
  constraints : record.constraints = p.members.length
  runs : record.runs = results.length
  infeasible : record.infeasible = (results.map (·.feasible)).count false
  best : results ≠ [] → IsGreatest {f | f ∈ results.map (·.fitness)} record.fitnessBest
  distinct : record.distinctOptima = (results.map (·.solution)).toFinset.card

theorem exists_width {p : Problem} (objective : p.objective ≠ none) :
    ∃ width, p.width = .ok width := by
  rcases Option.ne_none_iff_exists'.mp objective with ⟨o, found⟩
  exact ⟨o.length, by rw [Problem.width, found]; rfl⟩

/-- Results with solutions have a record. -/
theorem exists_record {p : Problem} {results : List Result} (width : ∃ width, p.width = .ok width)
    (solved : Solved results) (algorithm : String) :
    ∃ record, summarize algorithm (some p) results = .ok record ∧ record.Sums p results := by
  rcases width with ⟨width, known⟩
  rcases solved.exists_solutions with ⟨solutions, collected, listed⟩
  simp only [summarize, collected, known, present_some, ok_bind, pure_eq_ok]
  refine ⟨_, rfl, ?_⟩
  exact {
    width := fun same => congrArg Nat.cast (Except.ok.inj (known.symm.trans same))
    constraints := rfl
    runs := rfl
    infeasible := by simp [List.count, List.countP_map, Function.comp_def]
    best := fun nonempty => Statistics.isGreatest_best_ofInts (by simpa using nonempty)
    distinct := by
      rw [listed, toFinset_map, Finset.card_image_of_injective _ (Option.some_injective _),
        length_eraseDups]
  }

/-- What a record says does not depend on the times of the runs. -/
theorem Record.Sums.untimed {record : Record} {p : Problem} {results : List Result}
    {elapsed : Nat → Int64} {index : Nat} (sums : record.Sums p (timed elapsed index results)) :
    record.Sums p results := by
  have fitness := map_timed (·.fitness) (fun _ _ => rfl) elapsed index results
  have feasible := map_timed (·.feasible) (fun _ _ => rfl) elapsed index results
  have solutions := map_timed (·.solution) (fun _ _ => rfl) elapsed index results
  have lengths : (timed elapsed index results).length = results.length := by
    simpa using congrArg List.length fitness
  exact {
    width := sums.width
    constraints := sums.constraints
    runs := by rw [sums.runs, lengths]
    infeasible := by rw [sums.infeasible, feasible]
    best := by
      intro nonempty
      rw [← List.length_pos_iff, ← lengths, List.length_pos_iff] at nonempty
      rw [← fitness]
      exact sums.best nonempty
    distinct := by rw [sums.distinct, solutions]
  }

/-! ## More results -/

namespace Record.Sums

variable {record later : Record} {p : Problem} {results more : List Result}

theorem infeasible_le (sums : record.Sums p results) (laterSums : later.Sums p more)
    (part : results.Sublist more) : record.infeasible ≤ later.infeasible := by
  rw [sums.infeasible, laterSums.infeasible]
  exact Int.ofNat_le.mpr ((part.map _).count_le _)

theorem distinct_le (sums : record.Sums p results) (laterSums : later.Sums p more)
    (part : results.Sublist more) : record.distinctOptima ≤ later.distinctOptima := by
  rw [sums.distinct, laterSums.distinct]
  apply Int.ofNat_le.mpr
  apply Finset.card_le_card
  intro solution? member
  rw [List.mem_toFinset] at member ⊢
  exact (part.map _).subset member

theorem best_le (sums : record.Sums p results) (laterSums : later.Sums p more)
    (part : results.Sublist more) (nonempty : results ≠ []) :
    record.fitnessBest ≤ later.fitnessBest := by
  have attained := (sums.best nonempty).1
  have nonemptyMore : more ≠ [] := by
    rintro rfl
    exact nonempty (List.sublist_nil.mp part)
  exact (laterSums.best nonemptyMore).2 ((part.map _).subset attained)

end Record.Sums

end Ascent.Benchmark
