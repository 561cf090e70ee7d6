import Ascent.Error
import Ascent.Proofs.Numeral

/-!
# What a quoted text tells

Between quotes every character is written as itself or behind a backslash.  So it can be read
off whatever is written behind it, and a mark that is not escaped can only be the closing one.
A quoted text therefore tells the text between the quotes and what stands behind them, and the
message about a stray character tells the character, its offset and the text.
-/

namespace Ascent.Text

/-! ## Hexadecimal numbers -/

/-- The number that hexadecimal digits stand for. -/
def hexValue (digits : List Char) : Nat :=
  digits.foldl (fun value c => 16 * value + (Numeral.digit? c).getD 0) 0

theorem digit?_digitChar : ∀ digit < 16, Numeral.digit? digit.digitChar = some digit := by
  decide

theorem hexValue_concat (digits : List Char) {digit : Nat} (below : digit < 16) :
    hexValue (digits ++ [digit.digitChar]) = 16 * hexValue digits + digit := by
  rw [hexValue, List.foldl_concat, digit?_digitChar digit below]
  rfl

theorem hexValue_toDigits (value : Nat) : hexValue (Nat.toDigits 16 value) = value := by
  induction value using Nat.strongRecOn with
  | ind value ih =>
      by_cases single : value < 16
      · rw [Nat.toDigits_of_lt_base single]
        exact hexValue_concat [] single |>.trans (Nat.zero_add value)
      · have smaller : value / 16 < value := by omega
        rw [Nat.toDigits_of_base_le (by decide) (Nat.not_lt.mp single),
          hexValue_concat _ (Nat.mod_lt value (by decide)), ih _ smaller]
        exact Nat.div_add_mod value 16

/-- Zeros in front do not change the number. -/
theorem hexValue_padded (zeros : Nat) (digits : List Char) :
    hexValue (List.replicate zeros '0' ++ digits) = hexValue digits := by
  induction zeros with
  | zero => rfl
  | succ zeros ih =>
      rw [← ih]
      rfl

theorem toList_hexadecimal (width value : Nat) :
    (hexadecimal width value).toList =
      List.replicate (width - (Nat.toDigits 16 value).length) '0' ++ Nat.toDigits 16 value :=
  String.toList_ofList

theorem hexValue_hexadecimal (width value : Nat) :
    hexValue (hexadecimal width value).toList = value := by
  rw [toList_hexadecimal, hexValue_padded, hexValue_toDigits]

/-- A number that fits takes as many digits as it is given. -/
theorem length_hexadecimal {width value : Nat} (positive : 0 < width) (fits : value < 16 ^ width) :
    (hexadecimal width value).toList.length = width := by
  have few := (Nat.length_toDigits_le_iff (by decide) positive).mpr fits
  rw [toList_hexadecimal, List.length_append, List.length_replicate]
  omega

/-! ## Characters between quotes -/

/-- Read a character between quotes, and what is written behind it. -/
def unescape : List Char → Option (Char × List Char)
  | [] => none
  | '\\' :: kind :: rest =>
      match kind with
      | 'a' => some ('\x07', rest)
      | 'b' => some ('\x08', rest)
      | 'f' => some ('\x0c', rest)
      | 'n' => some ('\n', rest)
      | 'r' => some ('\r', rest)
      | 't' => some ('\t', rest)
      | 'v' => some ('\x0b', rest)
      | 'x' => some (.ofNat (hexValue (rest.take 2)), rest.drop 2)
      | 'u' => some (.ofNat (hexValue (rest.take 4)), rest.drop 4)
      | 'U' => some (.ofNat (hexValue (rest.take 8)), rest.drop 8)
      | c => some (c, rest)
  | c :: rest => some (c, rest)

/-- The marks around texts and characters. -/
def IsMark (mark : Char) : Prop :=
  mark = '\x22' ∨ mark = '\x27'

theorem unescape_plain {c : Char} (plain : c ≠ '\\') (rest : List Char) :
    unescape (c :: rest) = some (c, rest) := by
  simp [unescape, plain]

theorem unescape_short {c : Char} {text : String} (known : shortEscape? c = some text)
    (rest : List Char) : unescape (text.toList ++ rest) = some (c, rest) := by
  unfold shortEscape? at known
  split at known
  all_goals first | (obtain rfl := Option.some.inj known; rfl) | contradiction

/-- A letter tells how many digits are read. -/
theorem unescape_hexadecimal {letter c : Char} {width : Nat}
    (told : ∀ rest, unescape ('\\' :: letter :: rest) =
      some (.ofNat (hexValue (rest.take width)), rest.drop width))
    (positive : 0 < width) (fits : c.toNat < 16 ^ width) (rest : List Char) :
    unescape (['\\', letter] ++ (hexadecimal width c.toNat).toList ++ rest) = some (c, rest) := by
  have length := length_hexadecimal positive fits
  rw [List.append_assoc, List.cons_append, List.singleton_append, told, List.take_left' length,
    List.drop_left' length, hexValue_hexadecimal, Char.ofNat_toNat]

/-- An escaped character is read as itself, whatever is written behind it. -/
theorem unescape_escape {mark : Char} (isMark : IsMark mark) (c : Char) (rest : List Char) :
    unescape ((escape mark c).toList ++ rest) = some (c, rest) := by
  unfold escape
  split
  case isTrue special =>
    rw [Bool.or_eq_true, beq_iff_eq, beq_iff_eq] at special
    rw [String.toList_ofList]
    rcases special with rfl | rfl
    · rcases isMark with rfl | rfl <;> rfl
    · rfl
  case isFalse ordinary =>
    rw [Bool.or_eq_true, beq_iff_eq, beq_iff_eq, not_or] at ordinary
    split
    case isTrue =>
      rw [String.toList_singleton]
      exact unescape_plain ordinary.2 rest
    case isFalse =>
      split
      case h_1 text known => exact unescape_short known rest
      case h_2 =>
        have twoDigits : "\\x".toList = ['\\', 'x'] := rfl
        have fourDigits : "\\u".toList = ['\\', 'u'] := rfl
        have eightDigits : "\\U".toList = ['\\', 'U'] := rfl
        split
        case isTrue small =>
          rw [String.toList_append, twoDigits]
          exact unescape_hexadecimal (fun _ => rfl) (by decide) (by omega) rest
        case isFalse =>
          split
          case isTrue middle =>
            rw [String.toList_append, fourDigits]
            exact unescape_hexadecimal (fun _ => rfl) (by decide) (by omega) rest
          case isFalse =>
            rw [String.toList_append, eightDigits]
            exact unescape_hexadecimal (fun _ => rfl) (by decide) c.val.toNat_lt rest

/-- So it tells the character and what is written behind it. -/
theorem escape_append_inj {mark : Char} (isMark : IsMark mark) {c d : Char}
    {rest rest' : List Char}
    (same : (escape mark c).toList ++ rest = (escape mark d).toList ++ rest') :
    c = d ∧ rest = rest' := by
  have read := congrArg unescape same
  rw [unescape_escape isMark, unescape_escape isMark] at read
  exact Prod.mk.inj (Option.some.inj read)

/-- An escaped character does not begin with the mark. -/
theorem escape_append_ne_mark {mark : Char} (isMark : IsMark mark) (c : Char)
    (rest rest' : List Char) : (escape mark c).toList ++ rest ≠ mark :: rest' := by
  intro same
  have read := congrArg unescape same
  have plain : mark ≠ '\\' := by rcases isMark with rfl | rfl <;> decide
  rw [unescape_escape isMark, unescape_plain plain] at read
  obtain ⟨rfl, rfl⟩ := Prod.mk.inj (Option.some.inj read)
  have length := congrArg List.length same
  have escaped : escape c c = String.ofList ['\\', c] := by
    rw [escape, beq_self_eq_true, Bool.true_or, if_pos rfl]
  rw [escaped, String.toList_ofList] at length
  simp at length

/-! ## Texts between quotes -/

/-- Characters up to the first mark that is not escaped are told, and so is what stands
behind it. -/
theorem escapes_append_inj {mark : Char} (isMark : IsMark mark) {cs ds rest rest' : List Char}
    (same : (cs.flatMap fun c => (escape mark c).toList) ++ mark :: rest =
      (ds.flatMap fun d => (escape mark d).toList) ++ mark :: rest') :
    cs = ds ∧ rest = rest' := by
  induction cs generalizing ds with
  | nil =>
      cases ds with
      | nil => exact ⟨rfl, (List.cons.inj same).2⟩
      | cons d ds =>
          rw [List.flatMap_cons, List.append_assoc] at same
          exact absurd same.symm (escape_append_ne_mark isMark d _ _)
  | cons c cs ih =>
      rw [List.flatMap_cons, List.append_assoc] at same
      cases ds with
      | nil => exact absurd same (escape_append_ne_mark isMark c _ _)
      | cons d ds =>
          rw [List.flatMap_cons, List.append_assoc] at same
          rcases escape_append_inj isMark same with ⟨rfl, behind⟩
          rcases ih behind with ⟨rfl, rfl⟩
          exact ⟨rfl, rfl⟩

theorem toList_quote (text : String) :
    (quote text).toList = '\x22' ::
      (text.toList.flatMap fun c => (escape '\x22' c).toList) ++ ['\x22'] := by
  have outer : "\"".toList = ['\x22'] := rfl
  rw [quote, String.toList_append, String.toList_append, outer, String.toList_join,
    List.flatMap_map, List.singleton_append]

/-- A quoted text tells the text between the quotes and what stands behind them. -/
theorem quote_append_inj {text other rest rest' : String}
    (same : quote text ++ rest = quote other ++ rest') : text = other ∧ rest = rest' := by
  have characters := congrArg String.toList same
  simp only [String.toList_append, toList_quote, List.cons_append, List.append_assoc,
    List.cons.injEq, true_and, List.nil_append] at characters
  rcases escapes_append_inj (.inl rfl) characters with ⟨inner, behind⟩
  exact ⟨String.toList_inj.mp inner, String.toList_inj.mp behind⟩

/-- So does a quoted character. -/
theorem quoteChar_append_inj {c d : Char} {rest rest' : String}
    (same : quoteChar c ++ rest = quoteChar d ++ rest') : c = d ∧ rest = rest' := by
  have characters := congrArg String.toList same
  have outer : "'".toList = ['\x27'] := rfl
  simp only [quoteChar, String.toList_append, outer, List.cons_append, List.append_assoc,
    List.cons.injEq, true_and, List.nil_append] at characters
  rcases escape_append_inj (.inr rfl) characters with ⟨rfl, behind⟩
  exact ⟨rfl, String.toList_inj.mp (List.cons.inj behind).2⟩

end Ascent.Text

namespace Ascent.Cause

theorem message_badCharacter (c : Char) (offset : Nat) (text : String) :
    (badCharacter c offset text).message =
      "problem: invalid character " ++ (Text.quoteChar c ++
        (" at offset " ++ (offset.repr ++ (" in solution " ++ (Text.quote text ++ ""))))) := by
  change "problem: invalid character " ++ Text.quoteChar c ++
    (" at offset " ++ offset.repr ++ " in solution ") ++ Text.quote text = _
  simp only [String.append_assoc, String.append_empty]

/-- The message about a stray character tells the character, its offset and the text. -/
theorem message_badCharacter_inj {c d : Char} {offset other : Nat} {text shown : String}
    (same : (badCharacter c offset text).message = (badCharacter d other shown).message) :
    c = d ∧ offset = other ∧ text = shown := by
  rw [message_badCharacter, message_badCharacter, String.append_right_inj] at same
  rcases Text.quoteChar_append_inj same with ⟨rfl, behind⟩
  rw [String.append_right_inj] at behind
  have characters := congrArg String.toList behind
  have space : " in solution ".toList = ' ' :: "in solution ".toList := rfl
  simp only [String.toList_append, Nat.toList_repr, space, List.cons_append] at characters
  rcases Numeral.digits_append_inj (Numeral.digits_toDigits offset)
    (Numeral.digits_toDigits other) (by decide) characters with ⟨digits, quoted⟩
  have shownAlike := List.append_cancel_left quoted
  rw [← String.toList_append, ← String.toList_append] at shownAlike
  exact ⟨rfl, Numeral.toDigits_injective digits,
    (Text.quote_append_inj (String.toList_inj.mp shownAlike)).1⟩

end Ascent.Cause
