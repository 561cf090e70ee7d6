import Ascent.Files
import Ascent.Proofs.Evaluation
import Mathlib.Tactic.SplitIfs

/-!
# Reading a saved file

A file with a new text does not change where any path leads that led to it: on the way there
are directories only.  So a path under which a text is saved gives that text, except that the
null device gives none.
-/

namespace Ascent.Files

variable {files : Files} {place : List String} {entry : Entry}

theorem at?_put_self (inside : place ≠ []) : (files.put place entry).at? place = some entry := by
  have gone : (files.entries.filter fun other => other.1 != place).lookup place = none := by
    simp only [List.lookup_eq_none_iff, List.mem_filter, bne_iff_ne]
    rintro other ⟨_, different⟩
    simpa using different.symm
  rw [at?, if_neg (by simpa using inside), put, List.lookup_append, gone, Option.none_or,
    List.lookup_cons_self]

theorem at?_put_of_ne {other : List String} (different : other ≠ place) :
    (files.put place entry).at? other = files.at? other := by
  have last : [(place, entry)].lookup other = none := by
    simp [different]
  simp only [at?, put, List.lookup_append, last, Option.or_none]
  congr 1
  induction files.entries with
  | nil => rfl
  | cons first rest behind =>
      by_cases same : first.1 = place
      · have missed : (other == first.1) = false := by simpa [same] using different
        rw [List.filter_cons_of_neg (by simpa using same), behind, List.lookup_cons, missed]
      · rw [List.filter_cons_of_pos (by simpa using same), List.lookup_cons, List.lookup_cons,
          behind]

/-- A path that leads to a place still does when a file is put there: no directory on the way
is the place. -/
theorem follow_put {names start : List String} (led : files.follow start names = .ok place)
    (noDirectory : files.at? place ≠ some .directory) :
    (files.put place entry).follow start names = .ok place := by
  induction names generalizing start with
  | nil => exact led
  | cons name rest behind =>
      simp only [follow] at led ⊢
      -- Names lead the same way before and after; only what is there can differ.
      generalize (if (name == ".") = true then start else
        if (name == "..") = true then start.dropLast else start ++ [name]) = next at led ⊢
      split_ifs at led ⊢ with long last
      · exact led
      · cases there : files.at? next with
        | none =>
            rw [there] at led
            cases led
        | some way =>
            rw [there] at led
            cases way with
            | directory =>
                have elsewhere : next ≠ place := fun same => noDirectory (same ▸ there)
                rw [at?_put_of_ne elsewhere, there]
                exact behind led
            | file => cases led
            | void => cases led

theorem resolve_put {path : String} (led : files.resolve path = .ok place)
    (noDirectory : files.at? place ≠ some .directory) :
    (files.put place entry).resolve path = .ok place := by
  unfold resolve at led ⊢
  split_ifs at led ⊢ <;> first | exact led | exact follow_put led noDirectory

/-- The text of a file is read under any path that leads to it. -/
theorem read_put {path text : String} (led : files.resolve path = .ok place)
    (noDirectory : files.at? place ≠ some .directory) (plain : endsInSlash path = false) :
    (files.put place (.file text)).read path = .ok text := by
  have inside : place ≠ [] := by
    rintro rfl
    exact noDirectory rfl
  have found : (files.put place (.file text)).stat path = .ok (.file text) := by
    rw [stat, resolve_put led noDirectory, ok_bind, at?_put_self inside, plain]
    rfl
  rw [read, found]

/-- Writing finds the null device or puts a file where there is no directory. -/
theorem write_cases {path text : String} {saved : Files}
    (written : files.write path text = .ok saved) :
    ∃ place, files.resolve path = .ok place ∧ endsInSlash path = false ∧
      (files.at? place = some .void ∧ saved = files ∨
        files.at? place ≠ some .directory ∧ saved = files.put place (.file text)) := by
  cases led : files.resolve path with
  | error reason =>
      rw [write, led] at written
      cases written
  | ok place =>
      simp only [write, led] at written
      split at written
      · cases written
      all_goals
        split_ifs at written with slash
        obtain rfl := Except.ok.inj written
      · exact ⟨place, rfl, eq_false_of_ne_true slash, .inr ⟨by simp [*], rfl⟩⟩
      · exact ⟨place, rfl, eq_false_of_ne_true slash, .inl ⟨‹_›, rfl⟩⟩
      · exact ⟨place, rfl, eq_false_of_ne_true slash, .inr ⟨by simp [*], rfl⟩⟩

/-- A text that has been written is read, unless it went to the null device. -/
theorem read_of_write {path text : String} {saved : Files}
    (written : files.write path text = .ok saved) :
    saved.read path = .ok text ∨ saved.stat path = .ok .void := by
  rcases write_cases written with ⟨place, led, plain, ⟨there, rfl⟩ | ⟨noDirectory, rfl⟩⟩
  · right
    rw [stat, led, ok_bind, there, plain]
    rfl
  · exact .inl (read_put led noDirectory plain)

/-- A text that has been saved is read, unless it went to the null device. -/
theorem read_of_save {path text : String} {saved : Files}
    (done : files.save path text = .ok saved) :
    saved.read path = .ok text ∨ saved.stat path = .ok .void := by
  simp only [save] at done
  split_ifs at done
  · exact read_of_write done
  · rcases bind_eq_ok_iff.mp done with ⟨made, _, written⟩
    exact read_of_write written

end Ascent.Files
