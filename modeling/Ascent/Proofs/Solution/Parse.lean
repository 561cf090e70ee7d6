import Ascent.Proofs.Evaluation
import Ascent.Proofs.Text.Quoted
import Ascent.Proofs.Text.Trim
import Ascent.Solution.Parse

/-!
# The language of solutions

What stands inside a text is found by taking away the white space around it, then one
opening bracket, then one closing bracket.  A text is read exactly if there are only
digits, spaces and commas inside, and at least one digit; the solution has the values of
the digits.  Otherwise the first other character is complained about.  Only characters
of one byte stand before it, so its offset in bytes counts the characters before it.

What is taken away holds no digit.  So a text can also be described from the outside:
any front and back of blanks and brackets around characters of the alphabet.  The text
of a solution is of this form, which makes reading the inverse of writing.
-/

namespace Ascent

/-- If some values do not have a property, there is a first one. -/
theorem exists_first_not {α : Type} {property : α → Prop} [DecidablePred property]
    {values : List α} (fails : ¬ ∀ value ∈ values, property value) :
    ∃ front value rest, values = front ++ value :: rest ∧ ¬ property value ∧
      ∀ earlier ∈ front, property earlier := by
  cases found : values.find? fun value => ¬ property value with
  | none =>
      refine absurd (fun value member => ?_) fails
      simpa using List.find?_eq_none.mp found value member
  | some value =>
      rcases List.find?_eq_some_iff_append.mp found with ⟨differs, front, rest, split, earlier⟩
      refine ⟨front, value, rest, split, by simpa using differs, ?_⟩
      simpa using earlier

theorem Error.message_of (cause : Cause) : (Error.of cause).message = cause.message :=
  String.empty_append

namespace Solution

/-! ## Digits -/

/-- The characters that may stand inside a text. -/
def alphabet : List Char :=
  ['0', '1', ' ', ',']

/-- The truth value of a digit. -/
def value? : Char → Option Bool
  | '0' => some false
  | '1' => some true
  | _ => none

/-- The truth values of the digits among some characters. -/
def values (cs : List Char) : List Bool :=
  cs.filterMap value?

/-- Whether a character is passed over between digits. -/
def isSeparator (c : Char) : Bool :=
  c == ' ' || c == ','

theorem mem_alphabet_iff {c : Char} : c ∈ alphabet ↔ c = '0' ∨ c = '1' ∨ c = ' ' ∨ c = ',' := by
  simp [alphabet]

theorem isSeparator_iff {c : Char} : isSeparator c = true ↔ c = ' ' ∨ c = ',' := by
  simp [isSeparator]

@[simp]
theorem value?_digit (value : Bool) : value? (digit value) = some value := by
  cases value <;> rfl

theorem value?_isSome_iff {c : Char} : (value? c).isSome ↔ c = '0' ∨ c = '1' := by
  constructor
  · intro known
    unfold value? at known
    split at known
    · exact Or.inl rfl
    · exact Or.inr rfl
    · contradiction
  · rintro (rfl | rfl) <;> rfl

@[simp]
theorem values_append (cs others : List Char) :
    values (cs ++ others) = values cs ++ values others :=
  List.filterMap_append

theorem values_eq_nil_iff {cs : List Char} : values cs = [] ↔ ∀ c ∈ cs, c ≠ '0' ∧ c ≠ '1' := by
  rw [values, List.filterMap_eq_nil_iff]
  refine forall_congr' fun c => imp_congr_right fun _ => ?_
  rw [← Option.not_isSome_iff_eq_none, value?_isSome_iff, not_or]

theorem values_ne_nil_iff {cs : List Char} : values cs ≠ [] ↔ ∃ c ∈ cs, c = '0' ∨ c = '1' := by
  rw [Ne, values_eq_nil_iff]
  push Not
  refine exists_congr fun c => and_congr_right fun _ => ?_
  rw [← or_iff_not_imp_left]

theorem values_map_digit (bits : List Bool) : values (bits.map digit) = bits := by
  simp [values, List.filterMap_map]

/-- Separators have no value. -/
theorem values_filter_not_isSeparator (cs : List Char) :
    values (cs.filter fun c => !isSeparator c) = values cs := by
  rw [values, values, List.filterMap_filter]
  refine List.filterMap_congr fun c _ => ?_
  by_cases separates : isSeparator c = true
  · rcases isSeparator_iff.mp separates with rfl | rfl <;> rfl
  · simp [separates]

/-! ## Reading characters -/

theorem readDigits_of_allowed (whole : String) (offset : Nat) {cs : List Char}
    (allowed : ∀ c ∈ cs, c ∈ alphabet) : readDigits whole offset cs = .ok (values cs) := by
  induction cs generalizing offset with
  | nil => rfl
  | cons c rest ih =>
      have tail := fun offset => ih offset fun other member =>
        allowed other (List.mem_cons_of_mem _ member)
      rcases mem_alphabet_iff.mp (allowed c List.mem_cons_self) with rfl | rfl | rfl | rfl
      all_goals
        rw [readDigits, tail]
        rfl

/-- The first character outside the alphabet is complained about.  All characters before
it have one byte. -/
theorem readDigits_of_stray (whole : String) (offset : Nat) {before : List Char}
    (allowed : ∀ c ∈ before, c ∈ alphabet) {stray : Char} (refused : stray ∉ alphabet)
    (after : List Char) :
    readDigits whole offset (before ++ stray :: after) =
      .error (.of (.badCharacter stray (offset + before.length) whole)) := by
  induction before generalizing offset with
  | nil =>
      simp only [mem_alphabet_iff, not_or] at refused
      rcases refused with ⟨zero, one, space, comma⟩
      rw [List.nil_append, readDigits]
      · rfl
      · exact zero
      · exact one
      · exact space
      · exact comma
  | cons c rest ih =>
      have tail := fun offset => ih offset fun other member =>
        allowed other (List.mem_cons_of_mem _ member)
      have counted : offset + (c :: rest).length = offset + 1 + rest.length := by
        rw [List.length_cons]
        omega
      rw [List.cons_append, counted]
      rcases mem_alphabet_iff.mp (allowed c List.mem_cons_self) with rfl | rfl | rfl | rfl
      all_goals
        rw [readDigits, tail]
        rfl

theorem utf8ByteSize_of_allowed {cs : List Char} (allowed : ∀ c ∈ cs, c ∈ alphabet) :
    (String.ofList cs).utf8ByteSize = cs.length := by
  induction cs with
  | nil => rfl
  | cons c rest ih =>
      have single : c.utf8Size = 1 := by
        rcases mem_alphabet_iff.mp (allowed c List.mem_cons_self) with rfl | rfl | rfl | rfl <;> rfl
      rw [String.ofList_cons, String.utf8ByteSize_append, String.utf8ByteSize_singleton, single,
        ih fun other member => allowed other (List.mem_cons_of_mem _ member), List.length_cons,
        Nat.add_comm]

/-! ## What is taken away -/

theorem dropOpening_cons (c : Char) (rest : List Char) :
    dropOpening (c :: rest) = if c = '[' then rest else c :: rest := by
  by_cases opening : c = '['
  · rw [if_pos opening, opening, dropOpening]
  · rw [if_neg opening, dropOpening]
    exact fun _ same => opening (List.cons.inj same).1

theorem dropClosing_concat (front : List Char) (c : Char) :
    dropClosing (front ++ [c]) = if c = ']' then front else front ++ [c] := by
  simp [dropClosing]

/-- One opening bracket is taken away, if there is one. -/
theorem dropOpening_eq_iff {cs rest : List Char} :
    dropOpening cs = rest ↔ cs = '[' :: rest ∨ cs = rest ∧ ∀ tail, cs ≠ '[' :: tail := by
  cases cs with
  | nil => simp [dropOpening]
  | cons c tail =>
      rw [dropOpening_cons]
      by_cases opening : c = '['
      · simp [opening]
      · simp [opening]

/-- One closing bracket is taken away, if there is one. -/
theorem dropClosing_eq_iff {cs rest : List Char} :
    dropClosing cs = rest ↔ cs = rest ++ [']'] ∨ cs = rest ∧ ∀ front, cs ≠ front ++ [']'] := by
  rcases List.eq_nil_or_concat cs with rfl | ⟨front, c, rfl⟩
  · simp [dropClosing]
  · rw [List.concat_eq_append, dropClosing_concat]
    by_cases closing : c = ']'
    · simp [closing]
    · simp [closing]

/-- What stands inside a text: the white space around it is taken away, then one opening
bracket, and then one closing bracket. -/
def Inner (text : String) (inner : List Char) : Prop :=
  ∃ trimmed opened, Text.Trims text.toList trimmed ∧
    (trimmed = '[' :: opened ∨ trimmed = opened ∧ ∀ tail, trimmed ≠ '[' :: tail) ∧
    (opened = inner ++ [']'] ∨ opened = inner ∧ ∀ front, opened ≠ front ++ [']'])

theorem inner_iff {text : String} {inner : List Char} : Inner text inner ↔ inner = core text := by
  constructor
  · rintro ⟨trimmed, opened, trims, opening, closing⟩
    rw [core, ← Text.trims_iff.mp trims, dropOpening_eq_iff.mpr opening,
      dropClosing_eq_iff.mpr closing]
  · rintro rfl
    exact ⟨_, _, Text.trims_trimList _, dropOpening_eq_iff.mp rfl, dropClosing_eq_iff.mp rfl⟩

/-! ## From the outside -/

/-- What may stand before the digits: blanks, and an opening bracket. -/
def IsFront (front : List Char) : Prop :=
  ∃ blanks, Text.Blank blanks ∧ (front = blanks ∨ front = blanks ++ ['['])

/-- What may stand behind the digits: a closing bracket, and blanks. -/
def IsBack (back : List Char) : Prop :=
  ∃ blanks, Text.Blank blanks ∧ (back = blanks ∨ back = ']' :: blanks)

/-- A text is what stands inside it between a front and a back. -/
theorem exists_frame (text : String) :
    ∃ front back, IsFront front ∧ IsBack back ∧ text.toList = front ++ core text ++ back := by
  rcases inner_iff.mpr (rfl : core text = core text) with
    ⟨trimmed, opened, trims, opening, closing⟩
  rcases trims.around with ⟨before, after, split, blankBefore, blankAfter⟩
  have front : ∃ front, IsFront front ∧ before ++ trimmed = front ++ opened := by
    rcases opening with bracket | ⟨same, _⟩
    · exact ⟨before ++ ['['], ⟨before, blankBefore, Or.inr rfl⟩, by simp [bracket]⟩
    · exact ⟨before, ⟨before, blankBefore, Or.inl rfl⟩, by rw [same]⟩
  have back : ∃ back, IsBack back ∧ opened ++ after = core text ++ back := by
    rcases closing with bracket | ⟨same, _⟩
    · exact ⟨']' :: after, ⟨after, blankAfter, Or.inr rfl⟩, by simp [bracket]⟩
    · exact ⟨after, ⟨after, blankAfter, Or.inl rfl⟩, by rw [same]⟩
  rcases front with ⟨front, isFront, frontSplit⟩
  rcases back with ⟨back, isBack, backSplit⟩
  refine ⟨front, back, isFront, isBack, ?_⟩
  rw [split, frontSplit, List.append_assoc, backSplit, List.append_assoc]

theorem isBlank_of_value? {c : Char} {value : Bool} (known : value? c = some value) :
    Text.isBlank c = false := by
  rcases value?_isSome_iff.mp (by rw [known]; rfl) with rfl | rfl <;> rfl

theorem dropOpening_append_cons {kept : Char} (keeps : kept ≠ '[') (before after : List Char) :
    dropOpening (before ++ kept :: after) = dropOpening before ++ kept :: after := by
  cases before with
  | nil => simp [keeps, dropOpening]
  | cons c rest =>
      rw [List.cons_append, dropOpening_cons, dropOpening_cons]
      split <;> rfl

theorem dropClosing_append_cons {kept : Char} (keeps : kept ≠ ']') (before after : List Char) :
    dropClosing (before ++ kept :: after) = before ++ kept :: dropClosing after := by
  rcases List.eq_nil_or_concat after with rfl | ⟨front, c, rfl⟩
  · rw [dropClosing_concat, if_neg keeps]
    rfl
  · rw [List.concat_eq_append, ← List.cons_append, ← List.append_assoc, dropClosing_concat,
      dropClosing_concat]
    split
    · rfl
    · rw [List.append_assoc, List.cons_append]

/-- Inside a text with a digit, each side of the digit is cut separately. -/
theorem core_append_digit {c : Char} {value : Bool} (known : value? c = some value)
    (before after : List Char) :
    core (String.ofList (before ++ c :: after)) =
      dropOpening (before.dropWhile Text.isBlank) ++
        c :: dropClosing (after.rdropWhile Text.isBlank) := by
  have digit := value?_isSome_iff.mp (by rw [known]; rfl : (value? c).isSome)
  have unopened : c ≠ '[' := by rcases digit with rfl | rfl <;> decide
  have unclosed : c ≠ ']' := by rcases digit with rfl | rfl <;> decide
  rw [core, String.toList_ofList, Text.trimList_append_cons (isBlank_of_value? known),
    dropOpening_append_cons unopened, dropClosing_append_cons unclosed]

theorem dropOpening_sublist (cs : List Char) : (dropOpening cs).Sublist cs := by
  cases cs with
  | nil => exact List.Sublist.refl _
  | cons c rest =>
      rw [dropOpening_cons]
      split
      · exact List.sublist_cons_self c rest
      · exact List.Sublist.refl _

theorem dropClosing_sublist (cs : List Char) : (dropClosing cs).Sublist cs := by
  rw [dropClosing]
  split
  · exact List.dropLast_sublist cs
  · exact List.Sublist.refl _

/-- In front of the digits nothing is left of a front. -/
theorem IsFront.cut_subset {front : List Char} (isFront : IsFront front) (cs : List Char) :
    dropOpening ((front ++ cs).dropWhile Text.isBlank) ⊆ cs := by
  rcases isFront with ⟨blanks, blank, rfl | rfl⟩
  · rw [List.dropWhile_append_of_pos blank]
    exact ((dropOpening_sublist _).trans (List.dropWhile_sublist _)).subset
  · rw [List.append_assoc, List.dropWhile_append_of_pos blank]
    exact List.Subset.refl cs

/-- Behind the digits nothing is left of a back. -/
theorem IsBack.cut_subset {back : List Char} (isBack : IsBack back) (cs : List Char) :
    dropClosing ((cs ++ back).rdropWhile Text.isBlank) ⊆ cs := by
  rcases isBack with ⟨blanks, blank, rfl | rfl⟩
  · rw [Text.rdropWhile_append_of_all blank]
    exact ((dropClosing_sublist _).trans (List.rdropWhile_prefix _ _).sublist).subset
  · rw [← List.singleton_append, ← List.append_assoc, Text.rdropWhile_append_of_all blank,
      List.rdropWhile_concat_neg _ _ _ (by decide), dropClosing_concat, if_pos rfl]
    exact List.Subset.refl cs

theorem values_of_blank {cs : List Char} (blank : Text.Blank cs) : values cs = [] := by
  rw [values, List.filterMap_eq_nil_iff]
  intro c member
  cases known : value? c with
  | none => rfl
  | some value =>
      have kept := isBlank_of_value? known
      rw [blank c member] at kept
      contradiction

theorem IsFront.values {front : List Char} (isFront : IsFront front) : values front = [] := by
  rcases isFront with ⟨blanks, blank, rfl | rfl⟩
  · exact values_of_blank blank
  · rw [values_append, values_of_blank blank]
    rfl

theorem IsBack.values {back : List Char} (isBack : IsBack back) : values back = [] := by
  rcases isBack with ⟨blanks, blank, rfl | rfl⟩
  · exact values_of_blank blank
  · rw [← List.singleton_append, values_append, values_of_blank blank]
    rfl

/-- The digits inside a text are all digits of the text. -/
theorem values_core (text : String) : values (core text) = values text.toList := by
  rcases exists_frame text with ⟨front, back, isFront, isBack, split⟩
  rw [split, values_append, values_append, isFront.values, isBack.values, List.nil_append,
    List.append_nil]

/-! ## Reading texts -/

theorem parse_of_allowed {text : String} (allowed : ∀ c ∈ core text, c ∈ alphabet) :
    parse text =
      if values (core text) = [] then .error (.of (.emptySolution (String.ofList (core text))))
      else .ok ⟨values (core text)⟩ := by
  rw [parse, readDigits_of_allowed _ _ allowed, ok_bind]
  simp only [List.isEmpty_iff, pure_eq_ok]
  rfl

theorem parse_of_stray {text : String} {before after : List Char} {stray : Char}
    (split : core text = before ++ stray :: after) (allowed : ∀ c ∈ before, c ∈ alphabet)
    (refused : stray ∉ alphabet) :
    parse text =
      .error (.of (.badCharacter stray before.length (String.ofList (core text)))) := by
  rw [parse, split, readDigits_of_stray _ _ allowed refused, Nat.zero_add]
  rfl

theorem parse_eq_ok_iff {text : String} {s : Solution} :
    parse text = .ok s ↔
      (∀ c ∈ core text, c ∈ alphabet) ∧ values (core text) ≠ [] ∧ s.bits = values (core text) := by
  by_cases allowed : ∀ c ∈ core text, c ∈ alphabet
  · rw [parse_of_allowed allowed]
    by_cases empty : values (core text) = []
    · simp [empty]
    · simp only [empty, if_false, Except.ok.injEq, ne_eq, not_false_eq_true, true_and,
        Solution.ext_iff, and_iff_right allowed, eq_comm]
  · rcases exists_first_not allowed with ⟨before, stray, after, split, refused, earlier⟩
    rw [parse_of_stray split earlier refused]
    simp [allowed]

/-- Characters of the alphabet with a digit among them are read between any front and any
back. -/
theorem parse_framed {front back inner : List Char} (isFront : IsFront front)
    (isBack : IsBack back) (allowed : ∀ c ∈ inner, c ∈ alphabet) (some : values inner ≠ []) :
    parse (String.ofList (front ++ inner ++ back)) = .ok ⟨values inner⟩ := by
  rcases values_ne_nil_iff.mp some with ⟨c, member, isDigit⟩
  rcases Option.isSome_iff_exists.mp (value?_isSome_iff.mpr isDigit) with ⟨value, known⟩
  have read : values (core (String.ofList (front ++ inner ++ back))) = values inner := by
    rw [values_core, String.toList_ofList, values_append, values_append, isFront.values,
      isBack.values, List.nil_append, List.append_nil]
  refine parse_eq_ok_iff.mpr ⟨?_, by rwa [read], read.symm⟩
  rcases List.append_of_mem member with ⟨left, right, rfl⟩
  rw [← List.append_assoc, List.append_assoc (front ++ left), List.cons_append,
    core_append_digit known]
  intro other inside
  rcases List.mem_append.mp inside with inside | inside
  · exact allowed other (List.mem_append_left _ (isFront.cut_subset left inside))
  · rcases List.mem_cons.mp inside with rfl | inside
    · exact allowed other member
    · exact allowed other (List.mem_append_right _
        (List.mem_cons_of_mem _ (isBack.cut_subset right inside)))

/-! ## Writing and reading -/

theorem digit_mem_alphabet (value : Bool) : digit value ∈ alphabet := by
  cases value <;> decide

theorem parse_text {s : Solution} (nonempty : s.bits ≠ []) : parse s.text = .ok s := by
  have allowed : ∀ c ∈ s.bits.map digit, c ∈ alphabet := by
    intro c member
    rcases List.mem_map.mp member with ⟨value, _, rfl⟩
    exact digit_mem_alphabet value
  have opening : IsFront ['['] := ⟨[], by simp [Text.Blank], Or.inr rfl⟩
  have closing : IsBack [']'] := ⟨[], by simp [Text.Blank], Or.inr rfl⟩
  have read := parse_framed opening closing allowed (by rwa [values_map_digit])
  rw [values_map_digit] at read
  exact read

/-- Solutions are told apart by their texts. -/
theorem text_injective : Function.Injective text := by
  intro s t same
  have characters := String.ofList_injective same
  simp only [List.cons_append, List.cons.injEq, true_and, List.append_cancel_right_eq] at characters
  apply Solution.ext
  rw [← values_map_digit s.bits, characters, values_map_digit]

/-! ## The language -/

/-- How a text is read that has these characters inside. -/
structure Reads (text : String) (inner : List Char) : Prop where
  accepts : (∃ s, parse text = .ok s) ↔
    (∀ c ∈ inner, c ∈ alphabet) ∧ ∃ c ∈ inner, c = '0' ∨ c = '1'
  values : ∀ s, parse text = .ok s → s.bits = values inner
  /-- Spaces and commas can be put in and taken out. -/
  separators : ∃ front back, text.toList = front ++ inner ++ back ∧
    ∀ other : List Char,
      (other.filter fun c => !isSeparator c) = (inner.filter fun c => !isSeparator c) →
      ∀ s, parse text = .ok s → parse (String.ofList (front ++ other ++ back)) = .ok s
  /-- The first character outside the alphabet is named, with the number of characters,
  and of bytes, before it.  The message tells all of this. -/
  stray : (∃ c ∈ inner, c ∉ alphabet) → ∃ before c after error,
    inner = before ++ c :: after ∧ (∀ earlier ∈ before, earlier ∈ alphabet) ∧ c ∉ alphabet ∧
    (String.ofList before).utf8ByteSize = before.length ∧ parse text = .error error ∧
    error.cause = .badCharacter c before.length (String.ofList inner) ∧
    error.message = "problem: invalid character " ++ Text.quoteChar c ++
      s!" at offset {before.length} in solution " ++ Text.quote (String.ofList inner) ∧
    ∀ (other : Char) (offset : Nat) (shown : String),
      error.message = (Cause.badCharacter other offset shown).message ↔
        other = c ∧ offset = before.length ∧ shown = String.ofList inner
  /-- Separators alone are no solution. -/
  empty : (∀ c ∈ inner, c = ' ' ∨ c = ',') →
    parse text = .error (.of (.emptySolution (String.ofList inner)))

theorem reads_core (text : String) : Reads text (core text) where
  accepts := by
    rw [← values_ne_nil_iff]
    constructor
    · rintro ⟨s, read⟩
      rcases parse_eq_ok_iff.mp read with ⟨allowed, nonempty, _⟩
      exact ⟨allowed, nonempty⟩
    · rintro ⟨allowed, nonempty⟩
      exact ⟨⟨_⟩, parse_eq_ok_iff.mpr ⟨allowed, nonempty, rfl⟩⟩
  values := fun s read => (parse_eq_ok_iff.mp read).2.2
  separators := by
    rcases exists_frame text with ⟨front, back, isFront, isBack, split⟩
    refine ⟨front, back, split, ?_⟩
    intro other same s read
    rcases parse_eq_ok_iff.mp read with ⟨allowed, nonempty, bits⟩
    have otherValues : Solution.values other = Solution.values (core text) := by
      rw [← values_filter_not_isSeparator other, same, values_filter_not_isSeparator]
    have otherAllowed : ∀ c ∈ other, c ∈ alphabet := by
      intro c member
      by_cases separates : isSeparator c = true
      · rcases isSeparator_iff.mp separates with rfl | rfl <;> decide
      · have kept : c ∈ other.filter fun c => !isSeparator c :=
          List.mem_filter.mpr ⟨member, by simpa using separates⟩
        rw [same] at kept
        exact allowed c (List.mem_filter.mp kept).1
    have otherRead := parse_framed isFront isBack otherAllowed (by rwa [otherValues])
    rwa [otherValues, ← bits] at otherRead
  stray := by
    rintro ⟨c, member, refused⟩
    rcases exists_first_not (fun allowed => refused (allowed c member)) with
      ⟨before, first, after, split, strays, earlier⟩
    refine ⟨before, first, after, _, split, earlier, strays, utf8ByteSize_of_allowed earlier,
      parse_of_stray split earlier strays, rfl, Error.message_of _, fun other offset shown => ?_⟩
    rw [Error.message_of]
    constructor
    · intro same
      exact Cause.message_badCharacter_inj same.symm
    · rintro ⟨rfl, rfl, rfl⟩
      rfl
  empty := by
    intro separators
    have none : Solution.values (core text) = [] := by
      rw [values_eq_nil_iff]
      intro c member
      rcases separators c member with rfl | rfl <;> decide
    have allowed : ∀ c ∈ core text, c ∈ alphabet := by
      intro c member
      rcases separators c member with rfl | rfl <;> decide
    rw [parse_of_allowed allowed, if_pos none]

/-- Reading solutions.  What stands inside a text is determined by the text, and it decides
how the text is read.  A solution with a variable is read from its own text, and different
solutions have different texts. -/
theorem parse_reads_language (text : String) (s t : Solution) :
    (∃ inner, (∀ other, Inner text other ↔ other = inner) ∧ Reads text inner) ∧
    (1 ≤ s.length → parse s.text = .ok s) ∧ (s.text = t.text ↔ s = t) := by
  refine ⟨⟨core text, fun other => inner_iff, reads_core text⟩, ?_, text_injective.eq_iff⟩
  intro nonempty
  exact parse_text (List.ne_nil_of_length_pos nonempty)

/-- Only a closing bracket, and a character of two bytes behind two digits. -/
theorem parse_reads_language_unbalanced :
    parse " 0, 1]" = .ok ⟨[false, true]⟩ ∧
    parse "[01é0" = .error (.of (.badCharacter 'é' 2 "01é0")) ∧
    1 ≤ (Solution.mk [false, true]).length ∧
    parse (text ⟨[false, true]⟩) = .ok ⟨[false, true]⟩ ∧
    text ⟨[false, true]⟩ ≠ text ⟨[false, true, false]⟩ := by
  rcases parse_reads_language " 0, 1]" ⟨[false, true]⟩ ⟨[false, true, false]⟩ with
    ⟨_, roundTrip, apart⟩
  exact ⟨rfl, rfl, by decide, roundTrip (by decide), fun same => by simpa using apart.mp same⟩

end Solution

end Ascent
