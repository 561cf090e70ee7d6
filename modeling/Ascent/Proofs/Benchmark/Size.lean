import Ascent.Benchmark.Size
import Ascent.Proofs.Numeral
import Ascent.Proofs.Solution.Parse

/-!
# The language of sizes

A size text has exactly one `x` between its white space; on either side of it stands, again
between white space, a decimal numeral in the range of 64 bits, of a positive number before
and of one that is not negative behind.  A list of texts has cases exactly if all of them are
sizes: one case for each text, in order, with a seed that is congruent to the sum of the base
seed and what the place and the two numbers contribute.  Otherwise the complaint is about the
first text that is no size, and quotes what stands between its white space.
-/

namespace Ascent

/-- A digit is no white space. -/
theorem Text.isBlank_of_isDigit {c : Char} (digit : c.isDigit = true) : isBlank c = false := by
  rw [Char.isDigit_iff_toNat] at digit
  have lower : 0x30 ≤ c.toNat := digit.1
  have upper : c.toNat ≤ 0x39 := digit.2
  simp only [isBlank, Bool.or_eq_false_iff, Bool.and_eq_false_iff, decide_eq_false_iff_not,
    beq_eq_false_iff_ne]
  omega

theorem Residue.eq_of {value other : Int64} {n : Int} (residue : Residue value n)
    (same : Residue other n) : value = other := by
  apply Int64.toInt_inj.mp
  exact (residue.of_modEq same.congruent.symm).toInt_eq_iff.mpr same.fits

namespace Benchmark

namespace Size

/-! ## Parts -/

/-- Splitting at a character is splitting a list. -/
theorem splitAtChar_eq_splitOn (mark : Char) (cs : List Char) :
    splitAtChar mark cs = cs.splitOn mark := by
  induction cs with
  | nil => rfl
  | cons c rest ih =>
      rw [splitAtChar, List.splitOn_cons_eq_if_modifyHead, ih]
      cases split : rest.splitOn mark with
      | nil => exact absurd split (List.splitOn_ne_nil mark rest)
      | cons part parts => simp

theorem splitOn_eq_singleton_iff {mark : Char} {cs part : List Char} :
    cs.splitOn mark = [part] ↔ cs = part ∧ mark ∉ part := by
  constructor
  · intro single
    by_cases present : mark ∈ cs
    · rcases List.eq_append_cons_of_mem present with ⟨front, back, rfl, absent⟩
      rw [List.splitOn_append_cons_self_of_not_mem absent] at single
      exact absurd (List.cons.inj single).2 (List.splitOn_ne_nil mark back)
    · rw [List.splitOn_eq_singleton present] at single
      obtain rfl := (List.cons.inj single).1
      exact ⟨rfl, present⟩
  · rintro ⟨rfl, absent⟩
    exact List.splitOn_eq_singleton absent

/-- There are two parts exactly if the mark stands once, between them. -/
theorem splitAtChar_eq_pair_iff {mark : Char} {cs first second : List Char} :
    splitAtChar mark cs = [first, second] ↔
      cs = first ++ mark :: second ∧ mark ∉ first ∧ mark ∉ second := by
  rw [splitAtChar_eq_splitOn]
  constructor
  · intro pair
    by_cases present : mark ∈ cs
    · rcases List.eq_append_cons_of_mem present with ⟨front, back, rfl, absent⟩
      rw [List.splitOn_append_cons_self_of_not_mem absent] at pair
      rcases List.cons.inj pair with ⟨rfl, behind⟩
      rcases splitOn_eq_singleton_iff.mp behind with ⟨rfl, absentBehind⟩
      exact ⟨rfl, absent, absentBehind⟩
    · rw [List.splitOn_eq_singleton present] at pair
      simp at pair
  · rintro ⟨rfl, absentFirst, absentSecond⟩
    rw [List.splitOn_append_cons_self_of_not_mem absentFirst,
      List.splitOn_eq_singleton absentSecond]

/-- A part of a size and its integer: a numeral in range between white space. -/
def Part (cs : List Char) (n : Int) : Prop :=
  ∃ numeral, Text.Trims cs numeral ∧ Numeral.Denotes numeral n ∧ Fits n

theorem part_iff {cs : List Char} {n : Int} :
    Part cs n ↔ Numeral.decimal (String.ofList (Text.trimList cs)) = .ok n := by
  simp only [Part, Text.trims_iff, exists_eq_left, Numeral.decimal_eq_ok_iff,
    String.toList_ofList]

/-! ## Sizes -/

/-- What a size text says. -/
structure Spells (text : String) (width constraints : Int) : Prop where
  /-- There is exactly one `x`. -/
  parts : ∃ trimmed first second, Text.Trims text.toList trimmed ∧
    (trimmed = first ++ 'x' :: second ∧ 'x' ∉ first ∧ 'x' ∉ second) ∧
    Part first width ∧ Part second constraints
  positive : 0 < width
  nonnegative : 0 ≤ constraints

/-- A text that says a size. -/
def IsSize (text : String) : Prop :=
  ∃ width constraints, Spells text width constraints

/-- The text that a complaint shows. -/
def Failure.shown : Failure → String
  | .malformed text => text
  | .badVariables text _ _ => text
  | .badConstraints text _ _ => text
  | .outOfRange text => text

theorem Failure.message_eq (failure : Failure) :
    ∃ reason, failure.message = "size " ++ Text.quote failure.shown ++ reason := by
  cases failure with
  | malformed text => exact ⟨_, rfl⟩
  | badVariables text part failure => exact ⟨_, String.append_assoc⟩
  | badConstraints text part failure => exact ⟨_, String.append_assoc⟩
  | outOfRange text => exact ⟨_, rfl⟩

/-- The message tells the text. -/
theorem Failure.message_quotes_iff (failure : Failure) (text : String) :
    (∃ reason, failure.message = "size " ++ Text.quote text ++ reason) ↔ text = failure.shown := by
  rcases failure.message_eq with ⟨complaint, told⟩
  constructor
  · rintro ⟨reason, same⟩
    rw [told, String.append_assoc, String.append_assoc, String.append_right_inj] at same
    exact (Text.quote_append_inj same).1.symm
  · rintro rfl
    exact ⟨complaint, told⟩

/-- A text that is read says what is read; otherwise the complaint shows what stands between
its white space. -/
theorem parse_cases (text : String) :
    (∃ width constraints, parse text = .ok (width, constraints) ∧ Spells text width constraints) ∨
      ∃ failure, parse text = .error failure ∧ failure.shown = Text.trim text := by
  simp only [parse]
  split
  case h_2 => exact .inr ⟨_, rfl, rfl⟩
  case h_1 first second parts =>
    cases readWidth : Numeral.decimal (String.ofList (Text.trimList first)) with
    | error failure => exact .inr ⟨_, rfl, rfl⟩
    | ok width =>
        cases readConstraints : Numeral.decimal (String.ofList (Text.trimList second)) with
        | error failure => exact .inr ⟨_, rfl, rfl⟩
        | ok constraints =>
            by_cases outside : width ≤ 0 ∨ constraints < 0
            · exact .inr ⟨_, if_pos outside, rfl⟩
            · refine .inl ⟨width, constraints, if_neg outside, ?_, by omega, by omega⟩
              exact ⟨_, first, second, Text.trims_trimList _, splitAtChar_eq_pair_iff.mp parts,
                part_iff.mpr readWidth, part_iff.mpr readConstraints⟩

theorem parse_of_spells {text : String} {width constraints : Int}
    (spelt : Spells text width constraints) : parse text = .ok (width, constraints) := by
  rcases spelt with
    ⟨⟨_, first, second, trims, once, partWidth, partConstraints⟩, positive, nonnegative⟩
  obtain rfl := Text.trims_iff.mp trims
  rw [part_iff] at partWidth partConstraints
  simp only [parse, splitAtChar_eq_pair_iff.mpr once, partWidth, partConstraints]
  exact if_neg (by omega)

theorem parse_eq_ok_iff {text : String} {width constraints : Int} :
    parse text = .ok (width, constraints) ↔ Spells text width constraints := by
  constructor
  · intro read
    rcases parse_cases text with ⟨w, c, readSize, spelt⟩ | ⟨failure, refused, _⟩
    · rw [readSize] at read
      rcases Prod.mk.inj (Except.ok.inj read) with ⟨rfl, rfl⟩
      exact spelt
    · rw [refused] at read
      contradiction
  · exact parse_of_spells

theorem parse_of_not_isSize {text : String} (refused : ¬ IsSize text) :
    ∃ failure, parse text = .error failure ∧ failure.shown = Text.trim text := by
  rcases parse_cases text with ⟨width, constraints, _, spelt⟩ | complaint
  · exact absurd ⟨width, constraints, spelt⟩ refused
  · exact complaint

/-! ## Lists of sizes -/

/-- The case of a text at a place: its numbers, and the seed that belongs to them. -/
structure Answers (base : Int64) (index : Nat) (text : String) (case : Case) : Prop where
  spelt : Spells text case.width case.constraints
  seed : Residue case.seed
    (base.toInt + 10000 * index + 100 * case.width + case.constraints)

theorem residue_seed (base : Int64) (index : Nat) (width constraints : Int) :
    Residue (seed base index width constraints)
      (base.toInt + 10000 * index + 100 * width + constraints) := by
  have whole : Int64.ofInt (base.toInt + 10000 * index + 100 * width + constraints) =
      seed base index width constraints := by
    simp only [seed, Int64.ofInt_add, Int64.ofInt_mul, Int64.ofInt_toInt]
    rw [Int64.mul_comm (Int64.ofInt 10000), Int64.mul_comm (Int64.ofInt 100)]
    rfl
  rw [← whole]
  exact residue_ofInt _

theorem Spells.answers {text : String} {width constraints : Int}
    (spelt : Spells text width constraints) (base : Int64) (index : Nat) :
    Answers base index text ⟨width, constraints, seed base index width constraints⟩ where
  spelt := spelt
  seed := residue_seed base index width constraints

theorem casesFrom_cons_eq_ok_iff {base : Int64} {index : Nat} {text : String}
    {rest : List String} {cases : List Case} :
    casesFrom base index (text :: rest) = .ok cases ↔
      ∃ case later, Answers base index text case ∧
        casesFrom base (index + 1) rest = .ok later ∧ case :: later = cases := by
  rw [casesFrom, bind_eq_ok_iff]
  constructor
  · rintro ⟨⟨width, constraints⟩, read, behind⟩
    rcases bind_eq_ok_iff.mp behind with ⟨later, readLater, made⟩
    exact ⟨_, later, (parse_eq_ok_iff.mp read).answers base index, readLater, Except.ok.inj made⟩
  · rintro ⟨⟨width, constraints, seed⟩, later, ⟨spelt, residue⟩, readLater, rfl⟩
    obtain rfl := residue.eq_of (residue_seed base index width constraints)
    refine ⟨_, parse_of_spells spelt, ?_⟩
    rw [readLater]
    rfl

/-- The cases of texts are the answers to them, one for each, in order. -/
theorem casesFrom_eq_ok_iff {base : Int64} {index : Nat} {texts : List String}
    {cases : List Case} :
    casesFrom base index texts = .ok cases ↔
      List.Forall₂ (fun place case => Answers base place.2 place.1 case)
        (texts.zipIdx index) cases := by
  induction texts generalizing index cases with
  | nil => rw [casesFrom, List.zipIdx_nil, List.forall₂_nil_left_iff, Except.ok.injEq, eq_comm]
  | cons text rest ih =>
      rw [casesFrom_cons_eq_ok_iff, List.zipIdx_cons, List.forall₂_cons_left_iff]
      simp only [ih, eq_comm]

/-- Sizes that texts spell are the sizes of their cases. -/
theorem exists_casesFrom_of_spells (base : Int64) (index : Nat) {texts : List String}
    {sizes : List (Int × Int)}
    (spelt : List.Forall₂ (fun text size => Spells text size.1 size.2) texts sizes) :
    ∃ cases, casesFrom base index texts = .ok cases ∧
      cases.map (fun case => (case.width, case.constraints)) = sizes := by
  induction spelt generalizing index with
  | nil => exact ⟨[], rfl, rfl⟩
  | cons head _ ih =>
      rcases ih (index + 1) with ⟨later, readLater, same⟩
      refine ⟨_, casesFrom_cons_eq_ok_iff.mpr
        ⟨_, later, head.answers base index, readLater, rfl⟩, ?_⟩
      rw [List.map_cons, same]

/-- There are cases exactly if all texts are sizes. -/
theorem exists_casesFrom_iff (base : Int64) (index : Nat) (texts : List String) :
    (∃ cases, casesFrom base index texts = .ok cases) ↔ ∀ text ∈ texts, IsSize text := by
  induction texts generalizing index with
  | nil => simp [casesFrom]
  | cons text rest ih =>
      rw [List.forall_mem_cons, ← ih (index + 1)]
      constructor
      · rintro ⟨cases, read⟩
        rcases casesFrom_cons_eq_ok_iff.mp read with ⟨case, later, answers, readLater, _⟩
        exact ⟨⟨_, _, answers.spelt⟩, later, readLater⟩
      · rintro ⟨⟨width, constraints, spelt⟩, later, readLater⟩
        exact ⟨_, casesFrom_cons_eq_ok_iff.mpr
          ⟨_, later, spelt.answers base index, readLater, rfl⟩⟩

/-- The complaint about the first text that is no size is the complaint about the list. -/
theorem casesFrom_of_first (base : Int64) (index : Nat) {before : List String}
    (sizes : ∀ earlier ∈ before, IsSize earlier) {text : String} {failure : Failure}
    (refused : parse text = .error failure) (after : List String) :
    casesFrom base index (before ++ text :: after) = .error failure := by
  induction before generalizing index with
  | nil =>
      rw [List.nil_append, casesFrom, refused]
      rfl
  | cons earlier rest ih =>
      rw [List.forall_mem_cons] at sizes
      rcases sizes with ⟨⟨width, constraints, spelt⟩, sizes⟩
      rw [List.cons_append, casesFrom, parse_of_spells spelt, ok_bind, ih (index + 1) sizes]
      rfl

/-! ## Writing -/

/-- A text of a size: its numbers around an `x`, and white space around all of them. -/
def Renders (text : String) (size : Int × Int) : Prop :=
  ∃ before behind ahead after, Text.Blank before ∧ Text.Blank behind ∧ Text.Blank ahead ∧
    Text.Blank after ∧ text.toList = before ++ ((toString size.1).toList ++ behind ++
      'x' :: (ahead ++ (toString size.2).toList)) ++ after

/-- What begins and ends with digits is left of it between white space. -/
theorem trims_of_ends {before core after first rest front last : List Char}
    (blankBefore : Text.Blank before) (blankAfter : Text.Blank after)
    (digitsFirst : Numeral.Digits first) (begins : core = first ++ rest)
    (digitsLast : Numeral.Digits last) (ends : core = front ++ last) :
    Text.Trims (before ++ core ++ after) core where
  around := ⟨before, after, rfl, blankBefore, blankAfter⟩
  first := by
    intro c tail starts
    have head : first.head? = some c := by
      rw [← List.head?_append_of_ne_nil _ digitsFirst.1, ← begins, starts, List.head?_cons]
    exact Text.isBlank_of_isDigit (digitsFirst.2 c (List.mem_of_head? head))
  last := by
    intro c tail stops
    have foot : last.getLast? = some c := by
      rw [← List.getLast?_append_of_ne_nil _ digitsLast.1, ← ends, stops, List.getLast?_concat]
    exact Text.isBlank_of_isDigit (digitsLast.2 c (List.mem_of_getLast? foot))

/-- Where only digits and white space stand, there is no `x`. -/
theorem not_mem_of_digits {digits blanks : List Char} (only : Numeral.Digits digits)
    (blank : Text.Blank blanks) : 'x' ∉ digits ∧ 'x' ∉ blanks := by
  constructor
  · intro member
    exact absurd (only.2 _ member) (by decide)
  · intro member
    exact absurd (blank _ member) (by decide)

theorem spells_of_renders {text : String} {size : Int × Int} (renders : Renders text size)
    (width : 0 < size.1 ∧ Fits size.1) (constraints : 0 ≤ size.2 ∧ Fits size.2) :
    Spells text size.1 size.2 := by
  rcases renders with
    ⟨before, behind, ahead, after, blankBefore, blankBehind, blankAhead, blankAfter, written⟩
  have first := Numeral.digits_toString width.1.le
  have second := Numeral.digits_toString constraints.1
  have absentFirst := not_mem_of_digits first blankBehind
  have absentSecond := not_mem_of_digits second blankAhead
  have nothing : Text.Blank [] := List.forall_mem_nil _
  have whole := trims_of_ends blankBefore blankAfter first
    (List.append_assoc _ behind ('x' :: (ahead ++ (toString size.2).toList))) second
    (List.append_assoc ((toString size.1).toList ++ behind) ('x' :: ahead) _).symm
  have partFirst := trims_of_ends nothing blankBehind first (List.append_nil _).symm first
    (List.nil_append _).symm
  have partSecond := trims_of_ends blankAhead nothing second (List.append_nil _).symm second
    (List.nil_append _).symm
  rw [List.append_nil] at partSecond
  exact {
    parts := ⟨_, _, _, written ▸ whole, ⟨rfl, List.not_mem_append absentFirst.1 absentFirst.2,
      List.not_mem_append absentSecond.2 absentSecond.1⟩,
      ⟨_, partFirst, Numeral.denotes_toString size.1, width.2⟩,
      ⟨_, partSecond, Numeral.denotes_toString size.2, constraints.2⟩⟩
    positive := width.1
    nonnegative := constraints.1 }

/-! ## The language -/

/-- A list of texts has cases exactly if all of them are sizes: one for each text, in order,
with its numbers and a seed congruent to what they and the place come to.  Otherwise there are
no cases, and the complaint shows the first text that is no size, without the white space
around it; the message quotes this and no other text.  Any way of writing sizes in range
between white space is read as these sizes. -/
theorem cases_read_sizes (base : Int64) (texts : List String) :
    ((∃ cases, Size.cases base texts = .ok cases) ↔ ∀ text ∈ texts, IsSize text) ∧
    (∀ cases, Size.cases base texts = .ok cases ↔
      List.Forall₂ (fun place case => Answers base place.2 place.1 case) texts.zipIdx cases) ∧
    (∀ failure, Size.cases base texts = .error failure →
      ∃ before text after, texts = before ++ text :: after ∧
        (∀ earlier ∈ before, IsSize earlier) ∧ ¬ IsSize text ∧
        failure.shown = Text.trim text ∧
        ∀ quoted, (∃ reason, failure.message = "size " ++ Text.quote quoted ++ reason) ↔
          quoted = Text.trim text) ∧
    ∀ sizes, List.Forall₂ Renders texts sizes →
      (∀ size ∈ sizes, (0 < size.1 ∧ Fits size.1) ∧ 0 ≤ size.2 ∧ Fits size.2) →
      ∃ cases, Size.cases base texts = .ok cases ∧
        cases.map (fun case => (case.width, case.constraints)) = sizes := by
  refine ⟨exists_casesFrom_iff base 0 texts, fun cases => casesFrom_eq_ok_iff, ?_, ?_⟩
  · intro failure refused
    have notAll : ¬ ∀ text ∈ texts, IsSize text := by
      intro all
      rcases (exists_casesFrom_iff base 0 texts).mpr all with ⟨cases, read⟩
      cases refused.symm.trans read
    classical
    rcases exists_first_not notAll with ⟨before, text, after, rfl, strange, earlier⟩
    rcases parse_of_not_isSize strange with ⟨complaint, complained, shown⟩
    have same := casesFrom_of_first base 0 earlier complained after
    obtain rfl := Except.error.inj (same.symm.trans refused)
    refine ⟨before, text, after, rfl, earlier, strange, shown, ?_⟩
    rw [← shown]
    exact complaint.message_quotes_iff
  · intro sizes renders inRange
    apply exists_casesFrom_of_spells base 0
    rw [List.forall₂_iff_zip] at renders ⊢
    refine ⟨renders.1, fun {text size} member => ?_⟩
    have range := inRange size (List.of_mem_zip member).2
    exact spells_of_renders (renders.2 member) range.1 range.2

/-- Two sizes with white space around and inside them; the seed of the second one is beyond 64
bits and wraps.  In another list the second text looks like a numeral in base sixteen, but says
that there are no variables; it is the one complained about, though the third is no size either. -/
theorem cases_read_sizes_wrapped :
    List.Forall₂ Renders [" 30x0\n", "5 x\u00a01"] [(30, 0), (5, 1)] ∧
    (∀ size ∈ [((30 : Int), (0 : Int)), (5, 1)],
      (0 < size.1 ∧ Fits size.1) ∧ 0 ≤ size.2 ∧ Fits size.2) ∧
    (∃ cases, Size.cases (Int64.maxValue - 5000) [" 30x0\n", "5 x\u00a01"] = .ok cases ∧
      cases.map (fun case => (case.width, case.constraints)) = [(30, 0), (5, 1)]) ∧
    Answers (Int64.maxValue - 5000) 1 "5 x\u00a01" ⟨5, 1, Int64.minValue + 5500⟩ ∧
    Size.cases 777 ["+5x-0", " 0x10 ", "9"] = .error (.outOfRange "0x10") ∧
    ∃ before text after, ["+5x-0", " 0x10 ", "9"] = before ++ text :: after ∧
      (∀ earlier ∈ before, IsSize earlier) ∧ ¬ IsSize text ∧
      "0x10" = Text.trim text ∧
      ∀ quoted, (∃ reason, (Failure.outOfRange "0x10").message =
        "size " ++ Text.quote quoted ++ reason) ↔ quoted = Text.trim text := by
  have nothing : Text.Blank [] := List.forall_mem_nil _
  have renders : List.Forall₂ Renders [" 30x0\n", "5 x\u00a01"] [(30, 0), (5, 1)] := by
    refine .cons ⟨[' '], [], [], ['\n'], ?_, nothing, nothing, ?_, ?_⟩
      (.cons ⟨[], [' '], ['\u00a0'], [], nothing, ?_, ?_, nothing, ?_⟩ .nil)
    all_goals decide
  have inRange : ∀ size ∈ [((30 : Int), (0 : Int)), (5, 1)],
      (0 < size.1 ∧ Fits size.1) ∧ 0 ≤ size.2 ∧ Fits size.2 := by decide
  have answered : Size.cases (Int64.maxValue - 5000) [" 30x0\n", "5 x\u00a01"] =
      .ok [⟨30, 0, Int64.maxValue - 2000⟩, ⟨5, 1, Int64.minValue + 5500⟩] := by decide
  have refused : Size.cases 777 ["+5x-0", " 0x10 ", "9"] = .error (.outOfRange "0x10") := rfl
  rcases cases_read_sizes (Int64.maxValue - 5000) [" 30x0\n", "5 x\u00a01"] with
    ⟨_, answers, _, rendered⟩
  rcases cases_read_sizes 777 ["+5x-0", " 0x10 ", "9"] with ⟨_, _, complaint, _⟩
  have both := List.forall₂_cons.mp ((answers _).mp answered)
  exact ⟨renders, inRange, rendered _ renders inRange, (List.forall₂_cons.mp both.2).1, refused,
    complaint _ refused⟩

/-- The complaint about a five between two spaces does not quote the spaces. -/
theorem cases_quotes_trimmed :
    Size.cases 777 [" 5 "] = .error (.malformed "5") ∧
    (Failure.malformed "5").message = "size \"5\" is malformed, example: 30x3" ∧
    ∀ reason, (Failure.malformed "5").message ≠ "size " ++ Text.quote " 5 " ++ reason := by
  refine ⟨rfl, by decide, fun reason same => ?_⟩
  have quoted : " 5 " = "5" := ((Failure.malformed "5").message_quotes_iff " 5 ").mp ⟨reason, same⟩
  exact absurd quoted (by decide)

end Size

end Benchmark

end Ascent
