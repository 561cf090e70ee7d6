import Ascent.Proofs.Climb.Protocol
import Ascent.Report.Scribe

/-!
# One table for every run

A table reporter outlives the runs it tells about.  It writes nothing while a run
lasts and starts afresh behind its end, so what it writes for several runs is what a
new reporter would write for each of them.

The table of a run has a row for every neighbor of every step and one more for the
end.  All steps of a climb have as many neighbors as there are variables, so the row
of neighbor `k` of step `i` is found by its number, and the rows whose number is a
multiple of the width are those that begin a step or end the table.
-/

namespace Ascent.Report

open Climb (Event Final Neighbor Step Stop)

/-! ## What is written for several runs -/

namespace Table

/-- What a new table writes for events. -/
def written (render : Renderer) (events : List Event) : String :=
  (empty.feed render events).2

/-- The rows of the table of a run. -/
def runRows (steps : List Step) (final : Final) : List (List String) :=
  steps.flatMap stepRows ++ [finalRow final]

/-- Events of one run: steps and then an end. -/
def OneRun (events : List Event) : Prop :=
  ∃ (steps : List Step) (final : Final), events = steps.map .step ++ [.final final]

variable (render : Renderer)

theorem feed_append (table : Table) (events more : List Event) :
    table.feed render (events ++ more) =
      (((table.feed render events).1.feed render more).1,
        (table.feed render events).2 ++ ((table.feed render events).1.feed render more).2) := by
  induction events generalizing table with
  | nil => simp [feed]
  | cons event rest ih => simp [feed, ih, String.append_assoc]

/-- Steps add their rows, and nothing is written for them. -/
theorem feed_steps (table : Table) (steps : List Step) :
    table.feed render (steps.map .step) = (⟨table.rows ++ steps.flatMap stepRows⟩, "") := by
  induction steps generalizing table with
  | nil => simp [feed]
  | cons step rest ih => simp [feed, handle, ih, List.append_assoc]

/-- The end of a run writes the table with all its rows and leaves none behind. -/
theorem feed_run (steps : List Step) (final : Final) :
    empty.feed render (steps.map .step ++ [.final final]) =
      (empty, render heading (runRows steps final) (caption final) ++ "\n") := by
  rw [feed_append, feed_steps]
  simp [feed, handle, empty, runRows]

/-- Events of one run leave the table empty. -/
theorem OneRun.feed_eq {events : List Event} (oneRun : OneRun events) :
    empty.feed render events = (empty, written render events) := by
  rcases oneRun with ⟨steps, final, rfl⟩
  rw [written, feed_run]

/-- Runs that are told one after another are written one after another.  The steps of
a run that has not ended add nothing. -/
theorem written_runs {runs : List (List Event)} (oneRun : ∀ events ∈ runs, OneRun events)
    (pending : List Step) :
    written render (runs.flatten ++ pending.map .step) =
      String.join (runs.map (written render)) := by
  induction runs with
  | nil => simp [written, feed_steps]
  | cons events rest ih =>
      have first := (oneRun events List.mem_cons_self).feed_eq render
      have others := ih fun later member => oneRun later (List.mem_cons_of_mem events member)
      rw [List.flatten_cons, List.append_assoc, written, feed_append, first, List.map_cons,
        String.join_cons]
      exact congrArg (written render events ++ ·) others

end Table

/-! ## The scribe writes the table -/

namespace Scribe

/-- The grid at hand has the rows of the table and no caption yet. -/
def Draws (scribe : Scribe) (table : Table) : Prop :=
  scribe.atHand = ⟨Table.heading, table.rows, none⟩

theorem fill_eq_row (step : Step) (index : Nat) (neighbor : Neighbor) :
    fill step index neighbor = Table.row step index neighbor := by
  by_cases selected : step.selected = index
  · have mark : (step.selected == (index : Int)) = true := beq_iff_eq.mpr selected
    simp only [fill, Table.row, Table.neighborCells, if_pos selected, mark]
    by_cases first : index = 0
    · simp [first, Table.summary, List.replicate]
    · simp [first, List.replicate]
  · have mark : (step.selected == (index : Int)) = false := beq_eq_false_iff_ne.mpr selected
    simp only [fill, Table.row, Table.neighborCells, if_neg selected, mark]
    by_cases first : index = 0
    · simp [first, Table.summary, List.replicate]
    · simp [first, List.replicate]

theorem appendFrom_eq (step : Step) (index : Nat) (neighbors : List Neighbor) (sketch : Sketch) :
    appendFrom step index neighbors sketch =
      { sketch with rows := sketch.rows ++ Table.rowsFrom step index neighbors } := by
  induction neighbors generalizing index sketch with
  | nil => simp [appendFrom, Table.rowsFrom]
  | cons neighbor rest ih =>
      simp [appendFrom, Table.rowsFrom, ih, fill_eq_row, Sketch.append]

theorem draws_idle : idle.Draws .empty :=
  rfl

/-- An event is told alike, and the grid stays that of the table. -/
theorem Draws.handle (render : Renderer) {scribe : Scribe} {table : Table}
    (draws : scribe.Draws table) (event : Event) :
    (scribe.handle render event).1.Draws (table.handle render event).1 ∧
      (scribe.handle render event).2 = (table.handle render event).2 := by
  cases event with
  | step step =>
      refine ⟨?_, rfl⟩
      change appendFrom step 0 step.neighbors scribe.atHand = _
      rw [draws, appendFrom_eq]
      rfl
  | final final =>
      refine ⟨draws_idle, ?_⟩
      rw [Scribe.handle, draws]
      by_cases optimum : final.reason = Stop.localOptimum.reason
      · simp [Table.handle, Table.caption, Table.finalRow, Table.summary, Sketch.append,
          Sketch.text, optimum]
      · simp [Table.handle, Table.caption, Table.finalRow, Table.summary, Sketch.append,
          Sketch.captioned, Sketch.text, optimum]

theorem Draws.feed (render : Renderer) {scribe : Scribe} {table : Table}
    (draws : scribe.Draws table) (events : List Event) :
    (scribe.feed render events).2 = (table.feed render events).2 := by
  induction events generalizing scribe table with
  | nil => rfl
  | cons event rest ih =>
      rcases draws.handle render event with ⟨next, same⟩
      simp only [Scribe.feed, Table.feed, same, ih next]

/-- The scribe writes what a new table writes. -/
theorem feed_idle (render : Renderer) (events : List Event) :
    (idle.feed render events).2 = Table.written render events :=
  draws_idle.feed render events

end Scribe

/-! ## The rows of a step -/

namespace Table

/-- Whether a row carries the mark of the selected neighbor. -/
def marked (row : List String) : Bool :=
  row[6]? == some marker

theorem length_rowsFrom (step : Step) (index : Nat) (neighbors : List Neighbor) :
    (rowsFrom step index neighbors).length = neighbors.length := by
  induction neighbors generalizing index with
  | nil => rfl
  | cons neighbor rest ih => rw [rowsFrom, List.length_cons, ih, List.length_cons]

theorem getElem?_rowsFrom (step : Step) (index : Nat) (neighbors : List Neighbor) (k : Nat) :
    (rowsFrom step index neighbors)[k]? = neighbors[k]?.map (row step (index + k)) := by
  induction neighbors generalizing index k with
  | nil => rfl
  | cons neighbor rest ih =>
      cases k with
      | zero => rfl
      | succ k =>
          rw [rowsFrom, List.getElem?_cons_succ, List.getElem?_cons_succ, ih, Nat.add_assoc,
            Nat.add_comm 1]

@[simp]
theorem length_stepRows (step : Step) : (stepRows step).length = step.neighbors.length :=
  length_rowsFrom step 0 step.neighbors

theorem getElem?_stepRows (step : Step) (k : Nat) :
    (stepRows step)[k]? = step.neighbors[k]?.map (row step k) := by
  rw [stepRows, getElem?_rowsFrom, Nat.zero_add]

theorem take_row (step : Step) (k : Nat) (neighbor : Neighbor) :
    (row step k neighbor).take 3 =
      if k = 0 then summary step.iteration step.current step.fitness else ["", "", ""] := by
  by_cases first : k = 0
  · simp [row, first, summary]
  · simp [row, first]

theorem solution_row (step : Step) (k : Nat) (neighbor : Neighbor) :
    (row step k neighbor)[3]? = some neighbor.solution.text := by
  by_cases first : k = 0
  · simp [row, first, summary, neighborCells]
  · simp [row, first, neighborCells]

theorem marked_row (step : Step) (k : Nat) (neighbor : Neighbor) :
    marked (row step k neighbor) = (step.selected == k) := by
  rw [marked, row]
  cases step.selected == (k : Int) with
  | false =>
      by_cases first : k = 0
      · simp [first, summary, neighborCells, marker]
      · simp [first, neighborCells, marker]
  | true =>
      by_cases first : k = 0
      · simp [first, summary, neighborCells]
      · simp [first, neighborCells]

/-- A mark stands on the row of the selected neighbor, if it is among these. -/
theorem countP_marked_rowsFrom (step : Step) (index : Nat) (neighbors : List Neighbor) :
    (rowsFrom step index neighbors).countP marked =
      if index ≤ step.selected ∧ step.selected < index + neighbors.length then 1 else 0 := by
  induction neighbors generalizing index with
  | nil =>
      have none : ¬ (index ≤ step.selected ∧
          step.selected < index + ([] : List Neighbor).length) := by
        simp only [List.length_nil]
        omega
      rw [if_neg none]
      rfl
  | cons neighbor rest ih =>
      rw [rowsFrom, List.countP_cons, ih, marked_row, List.length_cons]
      by_cases selected : step.selected = index
      · rw [if_neg (by omega), if_pos (beq_iff_eq.mpr selected), if_pos (by omega)]
      · have mark : (step.selected == (index : Int)) = false := beq_eq_false_iff_ne.mpr selected
        have same : (((index + 1 : Nat) : Int) ≤ step.selected ∧
              step.selected < ((index + 1 : Nat) : Int) + rest.length) ↔
            ((index : Int) ≤ step.selected ∧
              step.selected < (index : Int) + (rest.length + 1 : Nat)) := by
          omega
        rw [mark, if_neg Bool.false_ne_true, Nat.add_zero]
        simp only [same]

/-- The rows of a step have one mark if the step moves, and otherwise none. -/
theorem countP_marked_stepRows (step : Step) :
    (stepRows step).countP marked = if step.moved?.isSome then 1 else 0 := by
  have moves : step.moved?.isSome ↔
      (0 : Nat) ≤ step.selected ∧ step.selected < (0 : Nat) + step.neighbors.length := by
    by_cases terminal : step.selected < 0
    · simp [Step.moved?, Step.terminal, terminal]
    · simp [Step.moved?, Step.terminal, terminal]
      omega
  rw [stepRows, countP_marked_rowsFrom]
  simp only [moves]

/-! ## The rows of a run -/

/-- Parts of one length that follow each other begin at the multiples of it. -/
theorem getElem?_flatMap_uniform {α β : Type} {f : α → List β} {n : Nat} {parts : List α}
    (uniform : ∀ part ∈ parts, (f part).length = n) (i : Nat) {k : Nat} (inside : k < n) :
    (parts.flatMap f)[n * i + k]? = parts[i]?.bind fun part => (f part)[k]? := by
  induction parts generalizing i with
  | nil => rfl
  | cons part rest ih =>
      have length := uniform part List.mem_cons_self
      have restUniform := fun later member => uniform later (List.mem_cons_of_mem part member)
      rw [List.flatMap_cons]
      cases i with
      | zero =>
          rw [Nat.mul_zero, Nat.zero_add, List.getElem?_append_left (by omega)]
          rfl
      | succ i =>
          have behind : n * (i + 1) + k = (f part).length + (n * i + k) := by
            rw [length, Nat.mul_succ]
            omega
          rw [behind, List.getElem?_append_right (Nat.le_add_right _ _), Nat.add_sub_cancel_left,
            ih restUniform, List.getElem?_cons_succ]

variable {width : Nat} {steps : List Step}

theorem length_flatMap_stepRows (uniform : ∀ step ∈ steps, step.neighbors.length = width) :
    (steps.flatMap stepRows).length = width * steps.length := by
  induction steps with
  | nil => rfl
  | cons step rest ih =>
      have here := uniform step List.mem_cons_self
      have others := ih fun later member => uniform later (List.mem_cons_of_mem step member)
      rw [List.flatMap_cons, List.length_append, length_stepRows, here, others, List.length_cons,
        Nat.mul_succ, Nat.add_comm]

theorem getElem?_runRows (uniform : ∀ step ∈ steps, step.neighbors.length = width)
    (final : Final) {i k : Nat} {step : Step} (found : steps[i]? = some step)
    (inside : k < width) :
    (runRows steps final)[width * i + k]? = step.neighbors[k]?.map (row step k) := by
  have stepUniform : ∀ step ∈ steps, (stepRows step).length = width := by
    intro step member
    rw [length_stepRows, uniform step member]
  have listed := getElem?_flatMap_uniform stepUniform i inside
  rw [found, Option.bind_some, getElem?_stepRows] at listed
  have reported : k < step.neighbors.length := by
    rwa [uniform step (List.mem_of_getElem? found)]
  rw [List.getElem?_eq_getElem reported, Option.map_some] at listed
  rw [runRows, List.getElem?_append_left (List.getElem?_eq_some_iff.mp listed).1, listed,
    List.getElem?_eq_getElem reported, Option.map_some]

theorem getElem?_runRows_last (uniform : ∀ step ∈ steps, step.neighbors.length = width)
    (final : Final) : (runRows steps final)[width * steps.length]? = some (finalRow final) := by
  rw [runRows, ← length_flatMap_stepRows uniform, List.getElem?_concat_length]

/-- A row of the table of a run. -/
inductive RowAt (width : Nat) (steps : List Step) (final : Final) : Nat → List String → Prop where
  /-- The row of neighbor `k` of step `i`. -/
  | neighbor {i k : Nat} {step : Step} {neighbor : Neighbor} (inside : k < width)
      (found : steps[i]? = some step) (reported : step.neighbors[k]? = some neighbor) :
      RowAt width steps final (width * i + k) (row step k neighbor)
  | last : RowAt width steps final (width * steps.length) (finalRow final)

/-- Every row is about a neighbor of a step or about the end. -/
theorem rowAt_of_getElem? (uniform : ∀ step ∈ steps, step.neighbors.length = width)
    {final : Final} {r : Nat} {cells : List String}
    (found : (runRows steps final)[r]? = some cells) : RowAt width steps final r cells := by
  have length := length_flatMap_stepRows uniform
  have bound := (List.getElem?_eq_some_iff.mp found).1
  rw [runRows, List.length_append, length, List.length_singleton] at bound
  rcases Nat.lt_or_eq_of_le (Nat.le_of_lt_succ bound) with inside | rfl
  · have positive : 0 < width := Nat.pos_of_mul_pos_right (Nat.zero_lt_of_lt inside)
    have stepInside : r / width < steps.length := Nat.div_lt_of_lt_mul inside
    have rest : r % width < width := Nat.mod_lt r positive
    obtain ⟨step, stepFound⟩ : ∃ step, steps[r / width]? = some step :=
      ⟨_, List.getElem?_eq_getElem stepInside⟩
    have listed := getElem?_runRows uniform final stepFound rest
    rw [Nat.div_add_mod, found] at listed
    rcases Option.map_eq_some_iff.mp listed.symm with ⟨neighbor, reported, rfl⟩
    have rowAt : RowAt width steps final (width * (r / width) + r % width)
        (row step (r % width) neighbor) := .neighbor rest stepFound reported
    rwa [Nat.div_add_mod] at rowAt
  · rw [getElem?_runRows_last uniform] at found
    obtain rfl := Option.some.inj found
    exact RowAt.last

theorem toString_ne_blank (n : Int) : toString n ≠ "" := by
  change n.repr ≠ ""
  rw [Int.repr_eq_if]
  split
  · simp
  · simp

theorem summary_ne_blank (iteration : Int) (solution : Solution) (fitness : Int64) :
    ∀ cell ∈ summary iteration solution fitness, cell ≠ "" := by
  intro cell member
  simp only [summary, List.mem_cons, List.not_mem_nil, or_false] at member
  rcases member with rfl | rfl | rfl
  · exact toString_ne_blank iteration
  · simp [Solution.text]
  · exact toString_ne_blank fitness.toInt

/-- The first three cells of a row are all filled or all blank, by its number. -/
theorem RowAt.take_eq {final : Final} {r : Nat} {cells : List String}
    (rowAt : RowAt width steps final r cells) :
    (width ∣ r ∧ ∃ iteration solution fitness, cells.take 3 = summary iteration solution fitness) ∨
      (¬ width ∣ r ∧ cells.take 3 = ["", "", ""]) := by
  cases rowAt with
  | @neighbor i k step neighbor inside found reported =>
      rw [take_row]
      by_cases first : k = 0
      · left
        rw [if_pos first, first, Nat.add_zero]
        exact ⟨Nat.dvd_mul_right width i, _, _, _, rfl⟩
      · right
        rw [if_neg first]
        refine ⟨fun divides => ?_, rfl⟩
        have whole := (Nat.dvd_add_right (Nat.dvd_mul_right width i)).mp divides
        exact first (Nat.eq_zero_of_dvd_of_lt whole inside)
  | last => exact Or.inl ⟨Nat.dvd_mul_right width _, _, _, _, rfl⟩

theorem RowAt.filled {final : Final} {r : Nat} {cells : List String}
    (rowAt : RowAt width steps final r cells) {j : Nat} (front : j < 3) :
    ∃ cell, cells[j]? = some cell ∧ (cell ≠ "" ↔ width ∣ r) := by
  have same : cells[j]? = (cells.take 3)[j]? := by rw [List.getElem?_take, if_pos front]
  rcases rowAt.take_eq with ⟨divides, iteration, solution, fitness, filled⟩ | ⟨other, blank⟩
  · have inside : j < (summary iteration solution fitness).length := front
    rw [same, filled, List.getElem?_eq_getElem inside]
    refine ⟨_, rfl, fun _ => divides, fun _ => ?_⟩
    exact summary_ne_blank iteration solution fitness _ (List.getElem_mem inside)
  · have inside : j < ["", "", ""].length := front
    rw [same, blank, List.getElem?_eq_getElem inside]
    refine ⟨_, rfl, fun filled => ?_, fun divides => absurd divides other⟩
    have empty : ∀ cell ∈ ["", "", ""], cell = "" := by simp
    exact absurd (empty _ (List.getElem_mem inside)) filled

theorem countP_marked_runRows (steps : List Step) (final : Final) :
    (runRows steps final).countP marked = (steps.filterMap Step.moved?).length := by
  have unmarked : marked (finalRow final) = false := rfl
  rw [runRows, List.countP_append, List.countP_singleton, unmarked, if_neg Bool.false_ne_true,
    Nat.add_zero, List.countP_flatMap, List.length_filterMap_eq_countP]
  induction steps with
  | nil => rfl
  | cons step rest ih =>
      rw [List.map_cons, List.sum_cons, ih, List.countP_cons, Function.comp_apply,
        countP_marked_stepRows, Nat.add_comm]

/-- What the table of a run shows, for a problem with `width` variables. -/
structure Shows (width : Nat) (steps : List Step) (final : Final) (rows : List (List String)) :
    Prop where
  count : rows.length = width * steps.length + 1
  /-- The first row of a step says where it was taken. -/
  begins : ∀ (i : Nat) (step : Step), steps[i]? = some step →
    ∃ row, rows[width * i]? = some row ∧
      row.take 3 = summary step.iteration step.current step.fitness
  ends : ∃ row, rows[width * steps.length]? = some row ∧
    row.take 3 = summary final.iteration final.solution final.fitness
  /-- No other row has an iteration, a solution and a fitness. -/
  filled : ∀ (r : Nat) (row : List String), rows[r]? = some row →
    ∀ j < 3, ∃ cell, row[j]? = some cell ∧ (cell ≠ "" ↔ width ∣ r)
  /-- There are as many marks as moves. -/
  marks : rows.countP marked = (steps.filterMap Step.moved?).length
  /-- A mark stands on the row of the neighbor where the run goes on. -/
  target : ∀ (r : Nat) (row : List String), rows[r]? = some row → marked row = true →
    ∃ (i k : Nat) (step : Step) (neighbor : Neighbor), r = width * i + k ∧ k < width ∧
      steps[i]? = some step ∧ step.neighbors[k]? = some neighbor ∧
      row[3]? = some neighbor.solution.text ∧
      (steps[i + 1]?.map Step.current).getD final.solution = neighbor.solution

/-- The rows of a run are as the table shows them, if all steps have as many neighbors
as there are variables and each of them moves to where the run goes on. -/
theorem shows_runRows {final : Final} (positive : 0 < width)
    (uniform : ∀ step ∈ steps, step.neighbors.length = width)
    (onward : ∀ (i : Nat) (step : Step) (next : Solution), steps[i]? = some step →
      step.moved? = some next → (steps[i + 1]?.map Step.current).getD final.solution = next) :
    Shows width steps final (runRows steps final) where
  count := by
    rw [runRows, List.length_append, length_flatMap_stepRows uniform, List.length_singleton]
  begins := by
    intro i step found
    have first := getElem?_runRows uniform final found positive
    have reported : 0 < step.neighbors.length := by
      rwa [uniform step (List.mem_of_getElem? found)]
    rw [List.getElem?_eq_getElem reported, Option.map_some] at first
    refine ⟨_, first, ?_⟩
    rw [take_row, if_pos rfl]
  ends := ⟨finalRow final, getElem?_runRows_last uniform final, rfl⟩
  filled := fun r row found j front => (rowAt_of_getElem? uniform found).filled front
  marks := countP_marked_runRows steps final
  target := by
    intro r cells found mark
    cases rowAt_of_getElem? uniform found with
    | @neighbor i k step neighbor inside stepFound reported =>
        rw [marked_row, beq_iff_eq] at mark
        have moved : step.moved? = some neighbor.solution := by
          simp [Step.moved?, Step.terminal, mark, reported]
        exact ⟨i, k, step, neighbor, rfl, inside, stepFound, reported,
          solution_row step k neighbor, onward i step neighbor.solution stepFound moved⟩
    | last => exact absurd mark Bool.false_ne_true

theorem caption_isSome_iff {final : Final} :
    (caption final).isSome ↔ final.reason ≠ "local-optimum" := by
  by_cases optimum : final.reason = "local-optimum"
  · simp [caption, Stop.reason, optimum]
  · simp [caption, Stop.reason, optimum]

end Table

end Ascent.Report

/-! ## The table of a climb -/

namespace Ascent.Climb

open Report (Renderer Scribe Table)
open Report.Table (OneRun Shows caption heading marked runRows written)

variable {p : Problem} {s : Solution} {config : Config} {signal : Signal}

namespace Course

variable {moves count : Nat} {stop : Stop}

/-- A step that moves leads to the solution of the next step, or of the end. -/
theorem onward (searchable : p.Searchable) (width : s.length = p.weights.length) {i : Nat}
    {step : Step} {next : Solution} (found : (runAt p s count stop).steps[i]? = some step)
    (moved : step.moved? = some next) :
    ((runAt p s count stop).steps[i + 1]?.map Step.current).getD
      (runAt p s count stop).final.solution = next := by
  rcases getElem?_steps_runAt.mp found with ⟨inside, rfl⟩
  rw [moved?_stepAt searchable (Problem.orbit_width width i)] at moved
  rcases Option.map_eq_some_iff.mp moved with ⟨k, chosen, rfl⟩
  have reached : p.orbit s (i + 1) = (p.orbit s i).flipped k :=
    Problem.advance_of_choice_eq_some chosen
  rw [← reached]
  rcases Nat.lt_or_eq_of_le (Nat.succ_le_of_lt inside) with later | rfl
  · have follows : (runAt p s count stop).steps[i + 1]? =
        some (stepAt p (i + 1) (p.orbit s (i + 1))) :=
      getElem?_steps_runAt.mpr ⟨later, rfl⟩
    rw [follows]
    rfl
  · have ended : (runAt p s (i + 1) stop).steps[i + 1]? = none := by
      rw [List.getElem?_eq_none_iff, steps_runAt, length_steps_trailAt]
    rw [ended]
    rfl

/-- The table of the run of a course. -/
theorem shows (searchable : p.Searchable) (width : s.length = p.weights.length) :
    let run := runAt p s count stop
    Shows s.length run.steps run.final (runRows run.steps run.final) := by
  refine Table.shows_runRows ?_ ?_ fun i step next found moved => ?_
  · rw [width]
    exact searchable.width_eq.2
  · intro step member
    exact (truthful_of_mem_trailAt searchable width 0 count stop member).neighborCount
  · exact onward searchable width found moved

/-- It has a mark for every step, except for the one that finds the local optimum. -/
theorem countP_marked (searchable : p.Searchable) (width : s.length = p.weights.length)
    (course : Course p config signal 0 s moves count stop) :
    let run := runAt p s count stop
    (runRows run.steps run.final).countP marked = moves := by
  intro run
  rw [Table.countP_marked_runRows, steps_runAt, course.filterMap_moved? searchable width,
    List.length_map, List.length_range]

end Course

/-- A table reporter, which a scribe draws, writes for runs that are told one after
another what a new one writes for each of them, and nothing before an end.  The table
of a climb has a row for each neighbor of each step and one more; iteration, solution
and fitness stand in the first row of every step and in the last row; a mark stands
where the climb goes on; and only a climb that was cut off has a caption.  All of this holds
however tables are drawn. -/
theorem solve_one_table_per_run {start : Solution} (searchable : p.Searchable)
    (valid : config.validate = .ok ()) (width : p.width = .ok start.length)
    (signal : Signal) (render : Renderer) :
    (∀ events, (Scribe.idle.feed render events).2 = written render events) ∧
    (∀ (runs : List (List Event)) (pending : List Step), (∀ events ∈ runs, OneRun events) →
      written render (runs.flatten ++ pending.map .step) =
        String.join (runs.map (written render))) ∧
    ∃ run rows, solve (some p) config signal (some start) = .ok run ∧
      OneRun run.events ∧
      written render run.events = render heading rows (caption run.final) ++ "\n" ∧
      Shows start.length run.steps run.final rows ∧
      (run.final.reason = "local-optimum" → rows.countP marked + 1 = run.steps.length) ∧
      (run.final.reason ≠ "local-optimum" → rows.countP marked = run.steps.length) ∧
      ((caption run.final).isSome ↔ run.final.reason ≠ "local-optimum") := by
  have sameWidth := searchable.width_eq_ok_iff.mp width
  rcases exists_course searchable sameWidth valid signal with
    ⟨moves, count, stop, course, solved⟩
  have marks := course.countP_marked searchable sameWidth
  have length := length_steps_trailAt p 0 start count stop
  refine ⟨Scribe.feed_idle render,
    fun runs pending oneRun => Table.written_runs render oneRun pending, _, _,
    solved, ⟨_, _, rfl⟩, congrArg Prod.snd (Table.feed_run render _ _),
    Course.shows searchable sameWidth, ?_, ?_, Table.caption_isSome_iff⟩
  · intro reason
    have optimum := course.stop_eq_localOptimum_iff.mp (reason_eq_localOptimum_iff.mp reason)
    exact (congrArg (· + 1) marks).trans (optimum.1.symm.trans length.symm)
  · intro reason
    rcases course.ending with ⟨_, rfl, _⟩ | ⟨countEq, _⟩
    · exact absurd rfl reason
    · exact marks.trans (countEq.symm.trans length.symm)

/-- The knapsack's climb from its first demonstration start, told twice to one table:
four steps over ten variables give forty-one rows each time, with three marks. -/
theorem solve_one_table_per_run_knapsack :
    ∃ run rows, solve (some .knapsack) .default .never (some (.zeros 10)) = .ok run ∧
      written Report.Grid.render (run.events ++ run.events) =
        Report.Grid.render heading rows none ++ "\n" ++
          (Report.Grid.render heading rows none ++ "\n") ∧
      rows.length = 41 ∧ rows.countP marked = 3 := by
  have valid : Config.default.validate = .ok () := rfl
  have width : Problem.knapsack.width = .ok (Solution.zeros 10).length := rfl
  rcases solve_one_table_per_run Problem.knapsack_searchable valid width .never
      Report.Grid.render with
    ⟨_, several, run, rows, solved, oneRun, text, shows, marks, _, captioned⟩
  have evaluated : (solve (some .knapsack) .default .never (some (.zeros 10))).map
      (fun run => (run.steps.length, run.final.reason)) = .ok (4, "local-optimum") := rfl
  rw [solved] at evaluated
  have steps : run.steps.length = 4 := congrArg Prod.fst (Except.ok.inj evaluated)
  have reason : run.final.reason = "local-optimum" :=
    congrArg Prod.snd (Except.ok.inj evaluated)
  have uncaptioned : caption run.final = none := by
    by_contra present
    exact captioned.mp (Option.isSome_iff_ne_none.mpr present) reason
  have both := several [run.events, run.events] [] (by simp [oneRun])
  rw [uncaptioned] at text
  refine ⟨run, rows, solved, ?_, ?_, ?_⟩
  · simpa [text] using both
  · rw [shows.count, steps]
    rfl
  · have counted := marks reason
    omega

end Ascent.Climb
