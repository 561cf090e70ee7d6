import Ascent.Benchmark.Tally
import Ascent.Proofs.Benchmark.Summary
import Ascent.Proofs.Solution.Parse

/-!
# What a record counts

A tally that knows solutions by their texts comes to the same record as `summarize`,
because different solutions have different texts.

Of the numbers of a record, four are determined by the results as a collection: how many
there are, how many are infeasible, how many classes of equal solutions they have, and
the highest fitness.  The order of the results does not matter for them.  Put together,
two collections add up in the first two numbers; solutions that both have are counted
once.
-/

namespace Ascent

/-- Equal solutions have the same length and the same values. -/
def Solution.Equal (s t : Solution) : Prop :=
  s.length = t.length ∧ ∀ i : Nat, s.bits[i]? = t.bits[i]?

theorem Solution.equal_iff {s t : Solution} : s.Equal t ↔ s = t := by
  constructor
  · rintro ⟨_, values⟩
    exact Solution.ext (List.ext_getElem? values)
  · rintro rfl
    exact ⟨rfl, fun _ => rfl⟩

namespace Benchmark

/-! ## Tallies -/

namespace Tally

/-- The texts after more of them have been entered. -/
def enter (texts : List String) (more : List String) : List String :=
  more.foldl (fun texts text => texts.insert text) texts

theorem mem_enter {texts more : List String} {text : String} :
    text ∈ enter texts more ↔ text ∈ texts ∨ text ∈ more := by
  induction more generalizing texts with
  | nil => simp [enter]
  | cons first rest ih =>
      rw [enter, List.foldl_cons, ← enter, ih, List.mem_insert_iff, List.mem_cons]
      tauto

theorem nodup_enter {texts : List String} (distinct : texts.Nodup) (more : List String) :
    (enter texts more).Nodup := by
  induction more generalizing texts with
  | nil => exact distinct
  | cons first rest ih => exact ih (distinct.insert)

/-- Entered texts are counted once. -/
theorem length_enter_nil (texts : List String) : (enter [] texts).length = texts.toFinset.card := by
  have same : (enter [] texts).toFinset = texts.toFinset := by
    ext text
    simp [mem_enter]
  rw [← same, List.toFinset_card_of_nodup (nodup_enter List.nodup_nil texts)]

/-- There are as many texts as there are different solutions. -/
theorem length_enter_texts (solutions : List Solution) :
    (enter [] (solutions.map Solution.text)).length = solutions.eraseDups.length := by
  rw [length_enter_nil, toFinset_map, Finset.card_image_of_injective _ Solution.text_injective,
    length_eraseDups]

/-- What is entered for results, once their solutions have been found. -/
theorem addAll_eq (tally : Tally) (results : List Result) :
    tally.addAll results = (results.mapM fun result => present result.solution) >>= fun solutions =>
      .ok {
        fitness := tally.fitness ++ results.map (·.fitness)
        times := tally.times ++ results.map fun result => milliseconds result.duration
        iterations := tally.iterations + totalIterations results
        infeasible := tally.infeasible + results.countP fun result => !result.feasible
        texts := enter tally.texts (solutions.map Solution.text) } := by
  induction results generalizing tally with
  | nil => simp [addAll, totalIterations, enter]
  | cons result rest ih =>
      rw [addAll, add, List.mapM_cons]
      cases result.solution with
      | none => rfl
      | some solution =>
          simp only [present_some, ok_bind, pure_eq_ok, ih, bind_assoc]
          refine bind_congr fun solutions => ?_
          cases feasible : result.feasible <;>
            simp [totalIterations, enter, feasible, Int64.add_assoc, Nat.add_assoc, Nat.add_comm]

/-- Tallying comes to the record that describes the results. -/
theorem summarize_eq (algorithm : String) (p? : Option Problem) (results : List Result) :
    summarize algorithm p? results = Benchmark.summarize algorithm p? results := by
  rw [summarize, Benchmark.summarize, addAll_eq]
  cases results.mapM fun result => present result.solution with
  | error fault => rfl
  | ok solutions => simp [empty, length_enter_texts]

end Tally

/-! ## Records of collections -/

/-- Representatives of the classes of equal solutions. -/
structure Representatives (solutions representatives : List Solution) : Prop where
  found : ∀ s ∈ representatives, s ∈ solutions
  apart : representatives.Pairwise fun s t => ¬ s.Equal t
  complete : ∀ s ∈ solutions, ∃ t ∈ representatives, s.Equal t

theorem representatives_eraseDups (solutions : List Solution) :
    Representatives solutions solutions.eraseDups where
  found := fun _ member => List.mem_eraseDups.mp member
  apart := (nodup_eraseDups solutions).imp fun differ same => differ (Solution.equal_iff.mp same)
  complete := fun s member =>
    ⟨s, List.mem_eraseDups.mpr member, Solution.equal_iff.mpr rfl⟩

/-- The four numbers of a record that do not depend on the order of the results. -/
structure Record.Counts (record : Record) (results : List Result) : Prop where
  runs : record.runs = results.length
  infeasible : record.infeasible = results.countP fun result => result.feasible = false
  /-- Solutions of other lengths or with another value count apart, equal ones once. -/
  distinct : ∃ representatives, Representatives (results.filterMap (·.solution)) representatives ∧
    record.distinctOptima = representatives.length
  best : results ≠ [] → IsGreatest {fitness | ∃ result ∈ results, result.fitness = fitness}
    record.fitnessBest
  best_nil : results = [] → record.fitnessBest = 0

/-- The numbers of two records that count alike. -/
structure Record.SameCounts (record other : Record) : Prop where
  runs : record.runs = other.runs
  infeasible : record.infeasible = other.infeasible
  distinct : record.distinctOptima = other.distinctOptima
  best : record.fitnessBest = other.fitnessBest

/-- The numbers of a record of two collections put together. -/
structure Record.Joins (whole first second : Record) : Prop where
  runs : whole.runs = first.runs + second.runs
  infeasible : whole.infeasible = first.infeasible + second.infeasible
  distinct_ge : max first.distinctOptima second.distinctOptima ≤ whole.distinctOptima
  distinct_le : whole.distinctOptima ≤ first.distinctOptima + second.distinctOptima

theorem Solved.append {results more : List Result} (solved : Solved results)
    (moreSolved : Solved more) : Solved (results ++ more) := by
  rw [Solved, List.map_append, List.mem_append]
  exact fun missing => missing.elim solved moreSolved

theorem Solved.perm {results order : List Result} (solved : Solved results)
    (same : order.Perm results) : Solved order :=
  fun missing => solved ((same.map _).subset missing)

theorem Solved.length_eraseDups {results : List Result} (solved : Solved results) :
    (results.filterMap (·.solution)).eraseDups.length =
      (results.map (·.solution)).toFinset.card := by
  rcases solved.exists_solutions with ⟨solutions, _, listed⟩
  have found : results.filterMap (·.solution) = solutions := by
    have flattened := congrArg (List.filterMap id) listed
    rwa [List.filterMap_map, List.filterMap_map, Function.id_comp, Function.id_comp,
      List.filterMap_some] at flattened
  rw [found, listed, Benchmark.length_eraseDups, toFinset_map,
    Finset.card_image_of_injective _ (Option.some_injective _)]

theorem fitnessBest_of_summarize {algorithm : String} {p? : Option Problem}
    {results : List Result} {record : Record}
    (summarized : summarize algorithm p? results = .ok record) :
    record.fitnessBest = (Statistics.ofInts (results.map (·.fitness))).best := by
  rcases bind_eq_ok_iff.mp summarized with ⟨solutions, _, rest⟩
  rcases bind_eq_ok_iff.mp rest with ⟨p, _, rest⟩
  rcases bind_eq_ok_iff.mp rest with ⟨width, _, rest⟩
  obtain rfl := Except.ok.inj rest
  rfl

/-- Without an objective there is no width to put into a record. -/
theorem summarize_of_no_objective {p : Problem} (missing : p.objective = none)
    (algorithm : String) {results : List Result} (solved : Solved results) :
    summarize algorithm (some p) results = .error .undefined := by
  rcases solved.exists_solutions with ⟨solutions, collected, _⟩
  rw [summarize, collected, ok_bind, present_some, ok_bind, Problem.width, missing]
  rfl

namespace Record.Sums

variable {record other whole : Record} {p : Problem} {results more : List Result}

theorem sameCounts (sums : record.Sums p results) (otherSums : other.Sums p more)
    (same : results.Perm more) (best : record.fitnessBest = other.fitnessBest) :
    record.SameCounts other where
  runs := by rw [sums.runs, otherSums.runs, same.length_eq]
  infeasible := by rw [sums.infeasible, otherSums.infeasible, (same.map _).count_eq]
  distinct := by
    rw [sums.distinct, otherSums.distinct, List.toFinset_eq_of_perm _ _ (same.map _)]
  best := best

theorem joins (wholeSums : whole.Sums p (results ++ more)) (sums : record.Sums p results)
    (otherSums : other.Sums p more) : whole.Joins record other where
  runs := by
    rw [wholeSums.runs, sums.runs, otherSums.runs, List.length_append]
    rfl
  infeasible := by
    rw [wholeSums.infeasible, sums.infeasible, otherSums.infeasible, List.map_append,
      List.count_append]
    rfl
  distinct_ge := by
    apply max_le
    · exact sums.distinct_le wholeSums (List.sublist_append_left results more)
    · exact otherSums.distinct_le wholeSums (List.sublist_append_right results more)
  distinct_le := by
    rw [wholeSums.distinct, sums.distinct, otherSums.distinct, List.map_append,
      List.toFinset_append]
    exact Int.ofNat_le.mpr (Finset.card_union_le _ _)

end Record.Sums

/-- The highest fitness does not depend on the order of the results. -/
theorem best_ofInts_perm {values others : List Int64} (same : values.Perm others) :
    (Statistics.ofInts values).best = (Statistics.ofInts others).best := by
  by_cases nonempty : values = []
  · obtain rfl := nonempty
    rw [same.nil_eq]
  · have otherNonempty : others ≠ [] := by
      rintro rfl
      exact nonempty same.eq_nil
    have greatest := Statistics.isGreatest_best_ofInts nonempty
    have otherGreatest := Statistics.isGreatest_best_ofInts otherNonempty
    apply Int64.le_antisymm
    · exact otherGreatest.2 (same.subset greatest.1)
    · exact greatest.2 (same.symm.subset otherGreatest.1)

theorem counts_of_summarize {algorithm : String} {p : Problem} {results : List Result}
    {record : Record} (summarized : summarize algorithm (some p) results = .ok record)
    (sums : record.Sums p results) (solved : Solved results) : record.Counts results where
  runs := sums.runs
  infeasible := by
    rw [sums.infeasible, List.count, List.countP_map]
    simp [Function.comp_def]
  distinct := by
    refine ⟨_, representatives_eraseDups _, ?_⟩
    rw [sums.distinct, solved.length_eraseDups]
  best := by
    intro nonempty
    simpa using sums.best nonempty
  best_nil := by
    rintro rfl
    rw [fitnessBest_of_summarize summarized]
    rfl

/-- What a record counts.  There is a record of solved results exactly if the problem has an
objective, and a tally by texts comes to the same one.  It counts the results, the
infeasible ones and the classes of equal solutions, and has the highest fitness.  These
numbers do not depend on the order of the results.  For two collections put together the
first two add up, and the third lies between the larger part and the sum. -/
theorem summarize_counts_exactly (algorithm : String) (p : Problem) {results more : List Result}
    (solved : Solved results) (moreSolved : Solved more) :
    Tally.summarize algorithm (some p) results = summarize algorithm (some p) results ∧
    (p.objective = none → summarize algorithm (some p) results = .error .undefined) ∧
    (p.objective ≠ none → ∃ record other whole,
      summarize algorithm (some p) results = .ok record ∧ record.Counts results ∧
      (∀ order : List Result, order.Perm results → ∃ reordered,
        summarize algorithm (some p) order = .ok reordered ∧ reordered.SameCounts record) ∧
      summarize algorithm (some p) more = .ok other ∧
      summarize algorithm (some p) (results ++ more) = .ok whole ∧ whole.Joins record other) := by
  refine ⟨Tally.summarize_eq algorithm (some p) results, ?_, ?_⟩
  · exact fun missing => summarize_of_no_objective missing algorithm solved
  · intro objective
    have width := exists_width objective
    rcases exists_record width solved algorithm with ⟨record, summarized, sums⟩
    rcases exists_record width moreSolved algorithm with ⟨other, otherSummarized, otherSums⟩
    rcases exists_record width (solved.append moreSolved) algorithm with
      ⟨whole, wholeSummarized, wholeSums⟩
    refine ⟨record, other, whole, summarized, counts_of_summarize summarized sums solved, ?_,
      otherSummarized, wholeSummarized, wholeSums.joins sums otherSums⟩
    intro order same
    rcases exists_record width (solved.perm same) algorithm with
      ⟨reordered, reorderedSummarized, reorderedSums⟩
    refine ⟨reordered, reorderedSummarized, reorderedSums.sameCounts sums same ?_⟩
    rw [fitnessBest_of_summarize reorderedSummarized, fitnessBest_of_summarize summarized]
    exact best_ofInts_perm (same.map _)

/-- Three results of negative fitness; two of them have equal solutions, and the third one has
another length. -/
def negativeResults : List Result :=
  [{ blankResult with solution := some ⟨[true, false]⟩, fitness := -7, feasible := true },
    { blankResult with solution := some ⟨[true, false, false]⟩, fitness := -6 },
    { blankResult with solution := some ⟨[true, false]⟩, fitness := -5, feasible := true }]

/-- Counted once and twice, and in another order. -/
theorem summarize_counts_exactly_negative :
    Solved negativeResults ∧ Problem.knapsack.objective ≠ none ∧
    ∃ record reordered whole,
      summarize "HC" (some .knapsack) negativeResults = .ok record ∧
      record.runs = 3 ∧ record.infeasible = 1 ∧ record.distinctOptima = 2 ∧
      record.fitnessBest = -5 ∧
      summarize "HC" (some .knapsack) negativeResults.reverse = .ok reordered ∧
      reordered.SameCounts record ∧
      summarize "HC" (some .knapsack) (negativeResults ++ negativeResults) = .ok whole ∧
      whole.Joins record record := by
  have solved : Solved negativeResults := by simp [Solved, negativeResults]
  have objective : Problem.knapsack.objective ≠ none := by decide
  rcases (summarize_counts_exactly "HC" .knapsack solved solved).2.2 objective with
    ⟨record, other, whole, summarized, _, orders, otherSummarized, joined, joins⟩
  rcases orders _ negativeResults.reverse_perm with ⟨reordered, reorderedSummarized, same⟩
  obtain rfl := Except.ok.inj (summarized.symm.trans otherSummarized)
  have evaluated : (summarize "HC" (some .knapsack) negativeResults).map (fun record =>
      (record.runs, record.infeasible, record.distinctOptima, record.fitnessBest)) =
        .ok (3, 1, 2, -5) := rfl
  rw [summarized] at evaluated
  simp only [Except.map, Except.ok.injEq, Prod.mk.injEq] at evaluated
  rcases evaluated with ⟨runs, infeasible, distinct, best⟩
  exact ⟨solved, objective, record, reordered, whole, summarized, runs, infeasible, distinct, best,
    reorderedSummarized, same, joined, joins⟩

end Benchmark

end Ascent
