import Ascent.Benchmark.Sheet
import Ascent.Proofs.Csv
import Ascent.Proofs.Files
import Ascent.Proofs.Numeral

/-!
# What a sheet tells

A sheet is a text of rows: the heading, and for each record a row with a field for each column.
Whatever the names in the records are, they come back as they were, so sheets that look the
same are sheets of the same rows.
-/

namespace Ascent.Benchmark.Sheet

/-- The field of a row under a name of the heading. -/
def column (fields : List String) (name : String) : Option String :=
  (heading.zip fields).lookup name

/-- The fields of a row show a record: the names as they are, the integers in decimal, and the
other numbers as they are rendered, each in its column. -/
structure Shows (time : Float → String) (record : Record) (fields : List String) : Prop where
  complete : fields.length = 14
  algorithm : column fields "algo" = some record.algorithm
  problem : column fields "problem" = some record.problem
  integers : ∀ entry ∈ [("vars", record.width), ("constraints", record.constraints),
      ("runs", record.runs), ("fitness_best", record.fitnessBest.toInt),
      ("infeasible", record.infeasible), ("distinct_optima", record.distinctOptima)],
    column fields entry.1 = some (toString entry.2) ∧
      Numeral.Denotes (toString entry.2).toList entry.2
  times : ∀ entry ∈ [("time_best_ms", record.timeBest), ("time_mean_ms", record.timeMean),
      ("time_std_ms", record.timeDeviation)],
    column fields entry.1 = some (time entry.2)
  numbers : ∀ entry ∈ [("fitness_mean", record.fitnessMean),
      ("fitness_std", record.fitnessDeviation), ("iterations_mean", record.iterationsMean)],
    column fields entry.1 = some (number entry.2)

theorem shows_row (time : Float → String) (record : Record) :
    Shows time record (row time record) where
  complete := rfl
  algorithm := rfl
  problem := rfl
  integers := by
    have shown : ∀ entry ∈ [("vars", record.width), ("constraints", record.constraints),
        ("runs", record.runs), ("fitness_best", record.fitnessBest.toInt),
        ("infeasible", record.infeasible), ("distinct_optima", record.distinctOptima)],
        column (row time record) entry.1 = some (toString entry.2) := by
      simp only [List.forall_mem_cons, List.not_mem_nil]
      exact ⟨rfl, rfl, rfl, rfl, rfl, rfl, nofun⟩
    exact fun entry member => ⟨shown entry member, Numeral.denotes_toString entry.2⟩
  times := by
    simp only [List.forall_mem_cons, List.not_mem_nil]
    exact ⟨rfl, rfl, rfl, nofun⟩
  numbers := by
    simp only [List.forall_mem_cons, List.not_mem_nil]
    exact ⟨rfl, rfl, rfl, nofun⟩

/-- No row is without fields. -/
theorem rows_ne_nil (time : Float → String) (records : List Record) :
    ∀ fields ∈ heading :: records.map (row time), fields ≠ [] := by
  refine List.forall_mem_cons.mpr ⟨List.cons_ne_nil _ _, List.forall_mem_map.mpr ?_⟩
  exact fun record _ => List.cons_ne_nil _ _

/-- A reader of rows finds the heading of a sheet and then, in the order of the records, a row
for each that shows it; there is no other way to take the text apart.  So a text is the sheet of
one list of rows only.  The text is what a file holds in which the sheet has been saved, unless
that is the null device. -/
theorem text_tells_records (time : Float → String) (records : List Record) :
    (heading.length = 14 ∧ heading.Nodup) ∧
    (∃ rows, List.Forall₂ (Shows time) records rows ∧
      Csv.rows? (Text.octets (text time records)) =
        some ((heading :: rows).map (List.map Text.octets)) ∧
      ∀ table, Csv.Table (Text.octets (text time records)) table →
        table = (heading :: rows).map (List.map Text.octets)) ∧
    (∀ others, text time others = text time records →
      others.map (row time) = records.map (row time)) ∧
    ∀ (files saved : Files) (path : String), files.save path (text time records) = .ok saved →
      saved.read path = .ok (text time records) ∨ saved.stat path = .ok .void := by
  have found := Csv.rows?_encode (rows_ne_nil time records)
  refine ⟨by decide, ⟨records.map (row time), ?_, found, fun table is => ?_⟩, fun others same => ?_,
    fun files saved path => Files.read_of_save⟩
  · rw [List.forall₂_map_right_iff, List.forall₂_same]
    exact fun record _ => shows_row time record
  · exact is.unique (Csv.rows?_eq_some_iff.mp found)
  · have alike := Csv.encode_inj (rows_ne_nil time others) (rows_ne_nil time records) same
    exact (List.cons.inj alike).2

/-- Records with names that have every mark in them, look like the end of data, are empty or
start with white space. -/
def marked : List Record :=
  [("a\x22,\r\n", "\\."), ("", "\u00a0b")].map fun names =>
    ⟨names.1, names.2, 30, 3, 1, 0, 0, 0, -7, 0, 0, 0, 0, 1⟩

/-- A file in the current directory. -/
theorem save_here (sheet : String) :
    Files.empty.save "a" sheet = .ok (Files.empty.put ["work", "a"] (.file sheet)) := by
  have whole : "a".splitOn "/" = ["a"] := by
    rw [String.splitOn, if_neg (by decide), String.splitOnAux, if_neg (by decide),
      if_neg (by decide), String.splitOnAux, if_pos (by decide)]
    decide
  have nothing : "".splitOn "/" = [""] := by
    rw [String.splitOn, if_neg (by decide), String.splitOnAux, if_pos (by decide)]
    decide
  have directory : Files.directoryOf "a" = "." := by
    have kept : String.ofList ("a".toList.reverse.dropWhile (· != '/')).reverse = "" := by decide
    simp only [Files.directoryOf, kept, Files.names, nothing]
    rfl
  have led : Files.empty.resolve "a" = .ok ["work", "a"] := by
    rw [Files.resolve, Files.names, whole]
    decide
  rw [Files.save, directory]
  change Files.empty.write "a" sheet = _
  rw [Files.write, led]
  rfl

/-- The sheet of these records, and a file in which it has been saved. -/
theorem text_tells_records_marked :
    (∃ rows, List.Forall₂ (Shows number) marked rows ∧
      Csv.rows? (Text.octets (text number marked)) =
        some ((heading :: rows).map (List.map Text.octets))) ∧
    ∃ saved, Files.empty.save "a" (text number marked) = .ok saved ∧
      (saved.read "a" = .ok (text number marked) ∨ saved.stat "a" = .ok .void) := by
  rcases text_tells_records number marked with ⟨_, ⟨rows, shown, read, _⟩, _, kept⟩
  exact ⟨⟨rows, shown, read⟩, _, save_here _, kept _ _ _ (save_here _)⟩

end Ascent.Benchmark.Sheet
