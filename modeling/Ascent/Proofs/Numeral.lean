import Ascent.Numeral
import Ascent.Proofs.WeightedSum

/-!
# Decimal numerals

A decimal numeral is at least one digit behind an optional sign.  Reading goes from left to
right and gives up at the first number beyond 64 bits; because numbers only grow on the way,
this refuses no numeral of an integer in range.  So exactly the numerals of integers in range
are read, each with its integer, and the text of an integer is one of its numerals.
-/

namespace Ascent.Numeral

/-! ## Digits -/

/-- At least one decimal digit, and nothing else. -/
def Digits (cs : List Char) : Prop :=
  cs ≠ [] ∧ ∀ c ∈ cs, c.isDigit = true

theorem isDecimalDigit_iff {c : Char} : '0' ≤ c ∧ c ≤ '9' ↔ c.isDigit = true := by
  rw [Char.isDigit_iff_toNat, Char.le_def, Char.le_def, UInt32.le_iff_toNat_le,
    UInt32.le_iff_toNat_le]
  rfl

/-- The digits below ten are the decimal ones. -/
theorem digit?_eq_some_lt_ten_iff {c : Char} {digit : Nat} :
    digit? c = some digit ∧ digit < 10 ↔ c.isDigit = true ∧ c.toNat - '0'.toNat = digit := by
  constructor
  · rintro ⟨known, small⟩
    rw [digit?] at known
    split at known
    case isTrue decimal => exact ⟨isDecimalDigit_iff.mp decimal, Option.some.inj known⟩
    -- The letters follow from ten on.
    case isFalse =>
      split at known
      case isTrue =>
        have letter := Option.some.inj known
        omega
      case isFalse =>
        split at known
        case isTrue =>
          have letter := Option.some.inj known
          omega
        case isFalse => contradiction
  · rintro ⟨decimal, rfl⟩
    have last : c.toNat ≤ '9'.toNat := (Char.isDigit_iff_toNat.mp decimal).2
    rw [digit?, if_pos (isDecimalDigit_iff.mpr decimal)]
    exact ⟨rfl, Nat.lt_succ_of_le (Nat.sub_le_sub_right last _)⟩

theorem le_ofDigitChars (cs : List Char) (value : Nat) : value ≤ Nat.ofDigitChars 10 cs value := by
  induction cs generalizing value with
  | nil => simp
  | cons c rest ih =>
      rw [Nat.ofDigitChars_cons]
      exact Nat.le_trans (by omega) (ih _)

theorem digitsFrom_cons_of_isDigit {c : Char} (digit : c.isDigit = true) (value : Nat)
    (rest : List Char) :
    digitsFrom 10 false value (c :: rest) =
      if 1 <<< 64 ≤ 10 * value + (c.toNat - '0'.toNat) then .error .outOfRange
      else digitsFrom 10 false (10 * value + (c.toNat - '0'.toNat)) rest := by
  rcases digit?_eq_some_lt_ten_iff.mpr ⟨digit, rfl⟩ with ⟨known, small⟩
  rw [digitsFrom, known, Bool.false_and, if_neg Bool.false_ne_true, Nat.mul_comm value]
  exact if_neg (Nat.not_le.mpr small)

theorem digitsFrom_cons_of_not_isDigit {c : Char} (stray : c.isDigit = false) (value : Nat)
    (rest : List Char) : digitsFrom 10 false value (c :: rest) = .error .malformed := by
  rw [digitsFrom]
  cases known : digit? c with
  | none => rfl
  | some digit =>
      have large : 10 ≤ digit := by
        by_contra small
        have decimal := (digit?_eq_some_lt_ten_iff.mp ⟨known, Nat.lt_of_not_le small⟩).1
        rw [stray] at decimal
        contradiction
      simp [large]

/-- Digits are read as their number if it is below 2^64. -/
theorem digitsFrom_eq_ok_iff {cs : List Char} {value result : Nat} (small : value < 1 <<< 64) :
    digitsFrom 10 false value cs = .ok result ↔
      (∀ c ∈ cs, c.isDigit = true) ∧ Nat.ofDigitChars 10 cs value = result ∧ result < 1 <<< 64 := by
  induction cs generalizing value with
  | nil =>
      rw [digitsFrom, Nat.ofDigitChars_nil, Except.ok.injEq]
      constructor
      · rintro rfl
        simpa using small
      · exact fun read => read.2.1
  | cons c rest ih =>
      rw [List.forall_mem_cons, Nat.ofDigitChars_cons]
      cases digit : c.isDigit with
      | false => simp [digitsFrom_cons_of_not_isDigit digit]
      | true =>
          rw [digitsFrom_cons_of_isDigit digit]
          split
          case isTrue large =>
            have grown := le_ofDigitChars rest (10 * value + (c.toNat - '0'.toNat))
            constructor
            · intro read
              contradiction
            · rintro ⟨_, rfl, below⟩
              omega
          case isFalse below => rw [ih (Nat.lt_of_not_le below), eq_self, true_and]

theorem unsigned_eq_ok_iff {cs : List Char} {value : Nat} :
    unsigned (some 10) cs = .ok value ↔
      Digits cs ∧ Nat.ofDigitChars 10 cs 0 = value ∧ value < 1 <<< 64 := by
  have small : 0 < 1 <<< 64 := by decide
  cases cs with
  | nil => simp [unsigned, Digits]
  | cons c rest => simp [unsigned, Digits, digitsFrom_eq_ok_iff small]

/-! ## Signs -/

/-- A decimal numeral and its integer: an optional sign, and digits. -/
inductive Denotes : List Char → Int → Prop where
  | plain {digits : List Char} :
      Digits digits → Denotes digits (Nat.ofDigitChars 10 digits 0)
  | plus {digits : List Char} :
      Digits digits → Denotes ('+' :: digits) (Nat.ofDigitChars 10 digits 0)
  | minus {digits : List Char} :
      Digits digits → Denotes ('-' :: digits) (-(Nat.ofDigitChars 10 digits 0 : Nat))

/-- The integer with a magnitude that a sign in front gives. -/
def withSign (cs : List Char) (magnitude : Nat) : Int :=
  if cs.head? = some '-' then -(magnitude : Int) else magnitude

/-- A sign is no digit. -/
theorem Digits.dropSign_eq {cs : List Char} (digits : Digits cs) :
    dropSign cs = cs ∧ cs.head? ≠ some '-' := by
  cases cs with
  | nil => exact absurd rfl digits.1
  | cons c rest =>
      have digit := digits.2 c List.mem_cons_self
      constructor
      · rw [dropSign]
        · rintro _ same
          obtain rfl := (List.cons.inj same).1
          contradiction
        · rintro _ same
          obtain rfl := (List.cons.inj same).1
          contradiction
      · rintro same
        obtain rfl := Option.some.inj same
        contradiction

theorem denotes_iff {cs : List Char} {n : Int} :
    Denotes cs n ↔
      Digits (dropSign cs) ∧ withSign cs (Nat.ofDigitChars 10 (dropSign cs) 0) = n := by
  constructor
  · intro denotes
    cases denotes with
    | plain digits =>
        rcases digits.dropSign_eq with ⟨unsigned, positive⟩
        rw [unsigned, withSign, if_neg positive]
        exact ⟨digits, rfl⟩
    | plus digits => exact ⟨digits, rfl⟩
    | minus digits => exact ⟨digits, rfl⟩
  · rintro ⟨digits, rfl⟩
    unfold dropSign at digits ⊢
    split at digits
    case h_1 => exact .plus digits
    case h_2 => exact .minus digits
    case h_3 =>
      rw [withSign, if_neg digits.dropSign_eq.2]
      exact .plain digits

theorem fits_iff {n : Int} : Fits n ↔ -(1 <<< 63 : Nat) ≤ n ∧ n < (1 <<< 63 : Nat) := by
  rw [Fits, Int64.toInt_minValue, Int64.toInt_maxValue, Int.le_sub_one_iff]
  rfl

theorem ite_error_eq_ok_iff {ε α : Type} {refuses : Prop} [Decidable refuses] {failure : ε}
    {given result : α} :
    (if refuses then Except.error failure else .ok given) = .ok result ↔
      ¬ refuses ∧ given = result := by
  split <;> simp [*]

/-- Exactly the numerals of integers in range are read. -/
theorem signed_eq_ok_iff {cs : List Char} {n : Int} :
    signed (some 10) cs = .ok n ↔ Denotes cs n ∧ Fits n := by
  rw [signed, bind_eq_ok_iff, denotes_iff, fits_iff, withSign]
  simp only [unsigned_eq_ok_iff, beq_iff_eq]
  -- The bound of the magnitude depends on the sign, and in either case it is the range.
  by_cases minus : cs.head? = some '-'
  all_goals
    simp only [minus, if_true, if_false, pure_eq_ok, ite_error_eq_ok_iff]
    constructor
    · rintro ⟨_, ⟨digits, rfl, _⟩, bounded, rfl⟩
      exact ⟨⟨digits, rfl⟩, by omega, by omega⟩
    · rintro ⟨⟨digits, rfl⟩, lower, upper⟩
      exact ⟨_, ⟨digits, rfl, by omega⟩, by omega, rfl⟩

theorem decimal_eq_ok_iff {text : String} {n : Int} :
    decimal text = .ok n ↔ Denotes text.toList n ∧ Fits n :=
  signed_eq_ok_iff

/-! ## Writing -/

theorem digits_toDigits (n : Nat) : Digits (Nat.toDigits 10 n) :=
  ⟨Nat.toDigits_ne_nil, fun _ => Nat.isDigit_of_mem_toDigits (by decide) (by decide)⟩

/-- Digits are told apart from what stands behind them if that begins with no digit. -/
theorem digits_append_inj {digits others rest rest' : List Char} {c : Char}
    (first : Digits digits) (second : Digits others) (ends : c.isDigit = false)
    (same : digits ++ c :: rest = others ++ c :: rest') : digits = others ∧ rest = rest' := by
  have taken := congrArg (List.takeWhile Char.isDigit) same
  have stops : ∀ behind, List.takeWhile Char.isDigit (c :: behind) = [] := by simp [ends]
  rw [List.takeWhile_append_of_pos first.2, List.takeWhile_append_of_pos second.2, stops, stops,
    List.append_nil, List.append_nil] at taken
  subst taken
  exact ⟨rfl, (List.cons.inj (List.append_cancel_left same)).2⟩

theorem toDigits_injective : Function.Injective (Nat.toDigits 10) := by
  intro n other same
  calc
    n = Nat.ofDigitChars 10 (Nat.toDigits 10 n) 0 := Nat.ofDigitChars_ten_toDigits.symm
    _ = Nat.ofDigitChars 10 (Nat.toDigits 10 other) 0 := by rw [same]
    _ = other := Nat.ofDigitChars_ten_toDigits

theorem toList_toString_natCast (n : Nat) :
    (toString (n : Int)).toList = Nat.toDigits 10 n :=
  Nat.toList_repr

theorem digits_toString {n : Int} (nonnegative : 0 ≤ n) : Digits (toString n).toList := by
  rcases Int.eq_ofNat_of_zero_le nonnegative with ⟨n, rfl⟩
  rw [toList_toString_natCast]
  exact digits_toDigits n

/-- The text of an integer stands for it. -/
theorem denotes_toString (n : Int) : Denotes (toString n).toList n := by
  cases n with
  | ofNat n =>
      have plain := Denotes.plain (digits_toDigits n)
      rw [Nat.ofDigitChars_ten_toDigits, ← toList_toString_natCast] at plain
      exact plain
  | negSucc n =>
      have minus := Denotes.minus (digits_toDigits (n + 1))
      rw [Nat.ofDigitChars_ten_toDigits, ← Nat.toList_repr] at minus
      have written : (toString (Int.negSucc n)).toList = '-' :: (n + 1).repr.toList :=
        String.toList_append
      rwa [written]

end Ascent.Numeral
