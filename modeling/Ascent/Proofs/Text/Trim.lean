import Ascent.Text.Blank
import Mathlib.Data.List.DropRight

/-!
# Trimming

What is left of a text without the white space around it is determined by two facts:
only blanks were taken away, and what is left neither begins nor ends with one.  If a
text has a character that is no blank, trimming works on both sides of it separately.
-/

namespace Ascent.Text

theorem dropWhile_append_cons {α : Type} {p : α → Bool} {kept : α} (keeps : p kept = false)
    (before after : List α) :
    (before ++ kept :: after).dropWhile p = before.dropWhile p ++ kept :: after := by
  induction before with
  | nil => simp [keeps]
  | cons first rest ih =>
      rw [List.cons_append]
      cases dropped : p first with
      | true => rw [List.dropWhile_cons_of_pos dropped, List.dropWhile_cons_of_pos dropped, ih]
      | false => simp [dropped]

theorem eq_false_of_dropWhile_eq_cons {α : Type} {p : α → Bool} {cs rest : List α} {first : α}
    (dropped : cs.dropWhile p = first :: rest) : p first = false := by
  simpa [dropped] using List.head?_dropWhile_not p cs

theorem dropWhile_eq_self {α : Type} {p : α → Bool} {cs : List α}
    (first : ∀ c rest, cs = c :: rest → p c = false) : cs.dropWhile p = cs := by
  cases cs with
  | nil => rfl
  | cons c rest => rw [List.dropWhile_cons_of_neg (by simp [first c rest rfl])]

theorem rdropWhile_append_of_all {α : Type} {p : α → Bool} {after : List α}
    (all : ∀ a ∈ after, p a = true) (before : List α) :
    (before ++ after).rdropWhile p = before.rdropWhile p := by
  rw [List.rdropWhile, List.rdropWhile, List.reverse_append,
    List.dropWhile_append_of_pos (by simpa using all)]

/-- A list of characters all of which are blank. -/
def Blank (cs : List Char) : Prop :=
  ∀ c ∈ cs, isBlank c = true

instance (cs : List Char) : Decidable (Blank cs) :=
  List.decidableBAll (fun c => isBlank c = true) cs

/-- Around a character that is no blank, each side is trimmed separately. -/
theorem trimList_append_cons {kept : Char} (keeps : isBlank kept = false)
    (before after : List Char) :
    trimList (before ++ kept :: after) =
      before.dropWhile isBlank ++ kept :: after.rdropWhile isBlank := by
  rw [trimList, dropWhile_append_cons keeps, List.reverse_append, List.reverse_cons,
    List.append_assoc, List.singleton_append, dropWhile_append_cons keeps]
  simp [List.rdropWhile]

theorem trimList_of_blank {cs : List Char} (blank : Blank cs) : trimList cs = [] := by
  rw [trimList, List.dropWhile_eq_nil_iff.mpr blank]
  rfl

/-- Blanks around a text do not change what is left of it. -/
theorem trimList_framed {before after : List Char} (blankBefore : Blank before)
    (blankAfter : Blank after) (cs : List Char) :
    trimList (before ++ cs ++ after) = trimList cs := by
  by_cases blank : Blank cs
  · have whole : Blank (before ++ cs ++ after) := by
      intro c member
      rcases List.mem_append.mp member with member | member
      · rcases List.mem_append.mp member with member | member
        · exact blankBefore c member
        · exact blank c member
      · exact blankAfter c member
    rw [trimList_of_blank whole, trimList_of_blank blank]
  · rw [Blank] at blank
    push Not at blank
    rcases blank with ⟨kept, member, keeps⟩
    have keeps := Bool.eq_false_iff.mpr keeps
    rcases List.append_of_mem member with ⟨left, right, rfl⟩
    rw [← List.append_assoc, List.append_assoc (before ++ left), List.cons_append,
      trimList_append_cons keeps, trimList_append_cons keeps,
      List.dropWhile_append_of_pos blankBefore, rdropWhile_append_of_all blankAfter]

/-- `trimmed` is what is left of `cs` without the blanks at both ends. -/
structure Trims (cs trimmed : List Char) : Prop where
  around : ∃ before after, cs = before ++ trimmed ++ after ∧ Blank before ∧ Blank after
  first : ∀ c rest, trimmed = c :: rest → isBlank c = false
  last : ∀ c rest, trimmed = rest ++ [c] → isBlank c = false

theorem trims_trimList (cs : List Char) : Trims cs (trimList cs) where
  around := by
    refine ⟨cs.takeWhile isBlank, (cs.dropWhile isBlank).rtakeWhile isBlank, ?_, ?_, ?_⟩
    · change cs = _ ++ (cs.dropWhile isBlank).rdropWhile isBlank ++ _
      rw [List.append_assoc, List.rdropWhile_append_rtakeWhile, List.takeWhile_append_dropWhile]
    · exact fun c member => List.mem_takeWhile_imp member
    · exact fun c member => List.mem_rtakeWhile_imp member
  first := by
    intro c rest trimmed
    -- What is left begins as it did before its end was cut.
    rcases List.rdropWhile_prefix isBlank (cs.dropWhile isBlank) with ⟨cut, whole⟩
    change (cs.dropWhile isBlank).rdropWhile isBlank = c :: rest at trimmed
    rw [trimmed] at whole
    exact eq_false_of_dropWhile_eq_cons whole.symm
  last := by
    intro c rest trimmed
    have reversed := congrArg List.reverse trimmed
    rw [trimList, List.reverse_reverse, List.reverse_append] at reversed
    exact eq_false_of_dropWhile_eq_cons reversed

/-- A text that neither begins nor ends with a blank is left as it is. -/
theorem trimList_eq_self {cs : List Char} (first : ∀ c rest, cs = c :: rest → isBlank c = false)
    (last : ∀ c rest, cs = rest ++ [c] → isBlank c = false) : trimList cs = cs := by
  have backwards : ∀ c rest, cs.reverse = c :: rest → isBlank c = false := by
    intro c rest reversed
    exact last c rest.reverse (by simpa using congrArg List.reverse reversed)
  rw [trimList, dropWhile_eq_self first, dropWhile_eq_self backwards, List.reverse_reverse]

/-- The two facts determine what is left. -/
theorem trims_iff {cs trimmed : List Char} : Trims cs trimmed ↔ trimmed = trimList cs := by
  constructor
  · intro trims
    rcases trims.around with ⟨before, after, rfl, blankBefore, blankAfter⟩
    rw [trimList_framed blankBefore blankAfter, trimList_eq_self trims.first trims.last]
  · rintro rfl
    exact trims_trimList cs

end Ascent.Text
