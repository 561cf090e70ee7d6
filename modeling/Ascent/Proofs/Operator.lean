import Ascent.Operator.Symbol
import Ascent.Proofs.Solution.Parse
import Ascent.Proofs.Text.Lowercase
import Ascent.Proofs.WeightedSum

/-!
# The spellings of the comparisons

A comparison has mathematical signs, which are written in one way, and two letters, each of
which may be a capital.  A text is read exactly if it is a spelling with white space around
it.  Reading goes by lower case forms in all of Unicode; this admits no further spelling,
because only ASCII has capitals of the letters that spellings consist of, and no character
becomes one of the signs.

The symbol of a comparison is a spelling of it, passes the check of symbols, and compares as
the comparison does.
-/

namespace Ascent

namespace Operator

/-! ## Spellings -/

/-- The mathematical signs of a comparison. -/
def signs : Operator → List String
  | .lessThan => ["<"]
  | .lessOrEqual => ["<=", "≤"]
  | .greaterThan => [">"]
  | .greaterOrEqual => [">=", "≥"]

/-- The two letters that stand for a comparison. -/
def letters : Operator → String
  | .lessThan => "lt"
  | .lessOrEqual => "le"
  | .greaterThan => "gt"
  | .greaterOrEqual => "ge"

/-- Characters that spell a comparison: a sign as it is, or the two letters without regard to
case in ASCII. -/
def Spells (operator : Operator) (cs : List Char) : Prop :=
  String.ofList cs ∈ operator.signs ∨ cs.map Char.toLower = operator.letters.toList

theorem ofSpelling?_eq_some_iff {spelling : String} {operator : Operator} :
    ofSpelling? spelling = some operator ↔
      spelling ∈ operator.signs ∨ spelling = operator.letters := by
  constructor
  · intro spelt
    unfold ofSpelling? at spelt
    split at spelt
    case h_11 => contradiction
    all_goals
      obtain rfl := Option.some.inj spelt
      decide
  · cases operator <;>
      simp only [signs, letters, List.mem_cons, List.not_mem_nil, or_false]
    case lessThan | greaterThan => rintro (rfl | rfl) <;> rfl
    case lessOrEqual | greaterOrEqual => rintro ((rfl | rfl) | rfl) <;> rfl

/-! ## Lower case forms -/

/-- The characters that spellings in lower case consist of. -/
def spellingCharacters : List Char :=
  ['<', '=', '>', '≤', '≥', 'e', 'g', 'l', 't']

theorem mem_spellingCharacters : ∀ operator : Operator,
    ∀ spelling ∈ operator.letters :: operator.signs, ∀ c ∈ spelling.toList,
      c ∈ spellingCharacters := by
  intro operator
  cases operator <;> simp [letters, signs, spellingCharacters]

/-- No capital letters outside ASCII lead to a spelling. -/
theorem furtherCapitals_spare : (Text.furtherCapitals.all fun run =>
    spellingCharacters.all fun c => decide (run.Spares c)) = true := by
  decide +kernel

/-- A character of a spelling is the lower case form of what it is the lower case form of in
ASCII, and of nothing else in Unicode. -/
theorem lowerChar_eq_iff {c d : Char} (spelt : c ∈ spellingCharacters) :
    Text.lowerChar d = c ↔ d.toLower = c := by
  apply Text.lowerChar_eq_iff
  · rintro rfl
    contradiction
  · intro run member
    have spares := List.all_eq_true.mp furtherCapitals_spare run member
    exact of_decide_eq_true (List.all_eq_true.mp spares c spelt)

theorem toLower_eq_iff_of_not_isAlpha {c d : Char} (sign : c.isAlpha = false) :
    d.toLower = c ↔ d = c := by
  have kept : ∀ e : Char, e.isAlpha = false → e.toLower = e := by
    intro e sign
    apply Char.toLower_eq_of_not_isUpper
    simp only [Char.isAlpha, Bool.or_eq_false_iff] at sign
    simp [sign.1]
  constructor
  · rintro rfl
    rw [Char.isAlpha_toLower_eq_isAlpha] at sign
    exact (kept d sign).symm
  · rintro rfl
    exact kept d sign

theorem map_eq_iff_of_eq_iff {α β : Type} {f g : α → β} {image : List β}
    (same : ∀ c ∈ image, ∀ d, f d = c ↔ g d = c) (cs : List α) :
    cs.map f = image ↔ cs.map g = image := by
  induction image generalizing cs with
  | nil => simp
  | cons c rest ih =>
      rw [List.forall_mem_cons] at same
      cases cs with
      | nil => simp
      | cons d cs => rw [List.map_cons, List.map_cons, List.cons.injEq, List.cons.injEq,
          same.1 d, ih same.2 cs]

/-- A sign has no other lower case form than itself. -/
theorem not_isAlpha_of_mem_signs : ∀ operator : Operator, ∀ sign ∈ operator.signs,
    ∀ c ∈ sign.toList, c.isAlpha = false := by
  intro operator
  cases operator <;> simp [signs, Char.isAlpha, Char.isUpper, Char.isLower]

/-- In lower case exactly the spellings are recognized. -/
theorem ofSpelling?_lower_eq_some_iff {cs : List Char} {operator : Operator} :
    ofSpelling? (Text.lower (String.ofList cs)) = some operator ↔ operator.Spells cs := by
  have lowered : ∀ spelling ∈ operator.letters :: operator.signs,
      Text.lower (String.ofList cs) = spelling ↔ cs.map Char.toLower = spelling.toList := by
    intro spelling member
    rw [Text.lower, ← String.toList_inj, String.toList_ofList, String.toList_ofList]
    exact map_eq_iff_of_eq_iff (fun c present d =>
      lowerChar_eq_iff (mem_spellingCharacters operator spelling member c present)) cs
  have signed : ∀ sign ∈ operator.signs,
      Text.lower (String.ofList cs) = sign ↔ String.ofList cs = sign := by
    intro sign member
    rw [lowered sign (List.mem_cons_of_mem _ member), ← String.toList_inj, String.toList_ofList,
      map_eq_iff_of_eq_iff fun c present d =>
        toLower_eq_iff_of_not_isAlpha (not_isAlpha_of_mem_signs operator sign member c present)]
    exact Eq.congr_left (List.map_id cs)
  rw [ofSpelling?_eq_some_iff, Spells, lowered _ List.mem_cons_self]
  refine or_congr_left ⟨?_, ?_⟩
  · intro member
    rwa [← (signed _ member).mp rfl] at member
  · intro member
    rwa [(signed _ member).mpr rfl]

/-! ## Reading -/

/-- A text is read as the comparison that it spells between white space. -/
theorem parse_eq_ok_iff {text : String} {operator : Operator} :
    parse text = .ok operator ↔
      ∃ trimmed, Text.Trims text.toList trimmed ∧ operator.Spells trimmed := by
  simp only [Text.trims_iff, exists_eq_left]
  rw [← ofSpelling?_lower_eq_some_iff, ← Text.trim, parse]
  cases ofSpelling? (Text.lower (Text.trim text)) <;> simp

theorem parse_eq_error_iff {text : String} {error : Error} :
    parse text = .error error ↔
      (∀ (operator : Operator) trimmed, Text.Trims text.toList trimmed →
        ¬ operator.Spells trimmed) ∧ error = .of (.unknownOperator text) := by
  have unread : (∀ (operator : Operator) trimmed, Text.Trims text.toList trimmed →
      ¬ operator.Spells trimmed) ↔ ∀ operator, parse text ≠ .ok operator := by
    simp only [Ne, parse_eq_ok_iff, not_exists, not_and]
  rw [unread, parse]
  cases ofSpelling? (Text.lower (Text.trim text)) <;> simp [eq_comm]

/-! ## Symbols -/

theorem parse_symbol (operator : Operator) : parse operator.symbol = .ok operator := by
  cases operator <;> rfl

theorem ofSymbol_symbol (operator : Operator) : ofSymbol operator.symbol = .ok operator := by
  cases operator <;> rfl

/-- Comparing by a symbol lists the same symbols as checking does. -/
theorem compareBy_eq (symbol : String) (value threshold : Int64) :
    compareBy symbol value threshold =
      match ofSymbol symbol with
      | .ok operator => .ok (operator.holds value threshold)
      | .error _ => .error (.aborted (.noComparison symbol)) := by
  unfold compareBy
  split
  case h_5 strange => simp [ofSymbol, *]
  all_goals rfl

theorem compareBy_symbol (operator : Operator) (value threshold : Int64) :
    compareBy operator.symbol value threshold =
      .ok (decide (operator.Relates value.toInt threshold.toInt)) := by
  rw [compareBy_eq, ofSymbol_symbol, ← holds_eq_decide]

end Operator

/-- Whether a constraint is satisfied can be decided by the symbol of its comparison. -/
theorem Constraint.isFeasibleBySymbol_eq (c : Constraint) (s : Solution) :
    c.isFeasibleBySymbol s = c.isFeasible s := by
  rw [isFeasibleBySymbol, isFeasible, symbol]
  cases c.value s with
  | error error => rfl
  | ok sum =>
      cases c.operator with
      | none => rfl
      | some operator => simp [report, Operator.compareBy_symbol, Operator.holds_eq_decide]

/-- A text is read exactly if what is left between its white space spells a comparison, and
then as that one; otherwise the complaint quotes the whole text.  The characters of spellings
are the lower case forms of themselves and of their capitals in ASCII alone.  The symbol of a
comparison passes the check, is read as it is, and decides the relation of the integers;
texts that the check refuses cannot be compared by.  Constraints are evaluated in this way. -/
theorem Operator.parse_reads_spellings (text : String) :
    (∀ operator : Operator, parse text = .ok operator ↔
      ∃ trimmed, Text.Trims text.toList trimmed ∧ operator.Spells trimmed) ∧
    (∀ error, parse text = .error error ↔
      (∀ (operator : Operator) trimmed, Text.Trims text.toList trimmed →
        ¬ operator.Spells trimmed) ∧ error = .of (.unknownOperator text)) ∧
    (Error.of (.unknownOperator text)).message =
      "problem: unknown operator " ++ Text.quote text ∧
    (∀ operator : Operator, ∀ spelling ∈ operator.letters :: operator.signs,
      ∀ c ∈ spelling.toList, ∀ d, Text.lowerChar d = c ↔ d.toLower = c) ∧
    (∀ operator : Operator, ofSymbol operator.symbol = .ok operator ∧
      parse operator.symbol = .ok operator ∧
      ∀ value threshold, compareBy operator.symbol value threshold =
        .ok (decide (operator.Relates value.toInt threshold.toInt))) ∧
    (∀ symbol value threshold, (∃ holds, compareBy symbol value threshold = .ok holds) ↔
      ∃ operator, ofSymbol symbol = .ok operator) ∧
    ∀ (c : Constraint) (s : Solution), c.isFeasible s = c.isFeasibleBySymbol s := by
  refine ⟨fun _ => parse_eq_ok_iff, fun _ => parse_eq_error_iff, Error.message_of _, ?_, ?_, ?_,
    fun c s => (c.isFeasibleBySymbol_eq s).symm⟩
  · intro operator spelling member c present d
    exact lowerChar_eq_iff (mem_spellingCharacters operator spelling member c present)
  · intro operator
    exact ⟨ofSymbol_symbol operator, parse_symbol operator, compareBy_symbol operator⟩
  · intro symbol value threshold
    rw [compareBy_eq]
    cases ofSymbol symbol <;> simp

/-- A capital and a small letter between an em space and a no-break space are read; with a
blank between the letters they are not, and the complaint shows the blank in front as well. -/
theorem Operator.parse_reads_spellings_blanks :
    Text.Trims "\u2003Ge\u00a0".toList ['G', 'e'] ∧
    Operator.greaterOrEqual.Spells ['G', 'e'] ∧
    parse "\u2003Ge\u00a0" = .ok .greaterOrEqual ∧
    compareBy ">=" (-1) 0 = .ok false ∧
    parse " l t" = .error (.of (.unknownOperator " l t")) ∧
    (Error.of (.unknownOperator " l t")).message = "problem: unknown operator \" l t\"" := by
  have trims : Text.Trims "\u2003Ge\u00a0".toList ['G', 'e'] := Text.trims_iff.mpr (by decide)
  have spells : Operator.greaterOrEqual.Spells ['G', 'e'] := .inr (by decide)
  have strange : ∀ (operator : Operator) trimmed, Text.Trims " l t".toList trimmed →
      ¬ operator.Spells trimmed := by
    intro operator trimmed trims
    obtain rfl : trimmed = ['l', ' ', 't'] := (Text.trims_iff.mp trims).trans (by decide)
    cases operator <;> simp [Spells, signs, letters]
  rcases parse_reads_spellings "\u2003Ge\u00a0" with ⟨reads, _, _, _, symbols, _⟩
  rcases parse_reads_spellings " l t" with ⟨_, refuses, wording, _⟩
  refine ⟨trims, spells, (reads _).mpr ⟨_, trims, spells⟩, (symbols .greaterOrEqual).2.2 (-1) 0,
    (refuses _).mpr ⟨strange, rfl⟩, wording.trans ?_⟩
  decide

end Ascent
