import Ascent.Text.Lowercase
import Mathlib

/-!
# Which characters a lower case form comes from

The runs of capital letters begin with the ASCII letters.  If no other run holds a
character or leads to it, the character is the lower case form of what it is the lower case
form of in ASCII, and of nothing else: of itself, and of its capital if it is a letter.
-/

namespace Ascent.Text

/-- A run that neither holds a character nor leads to it. -/
def CapitalRun.Spares (run : CapitalRun) (c : Char) : Prop :=
  run.contains c.toNat = false ∧ run.contains ((c.toNat : Int) - run.shift).toNat = false

instance (run : CapitalRun) (c : Char) : Decidable (run.Spares c) :=
  inferInstanceAs (Decidable (_ ∧ _))

/-- The capital letters of ASCII. -/
def asciiCapitals : CapitalRun :=
  ⟨0x41, 0x5a, 1, 32⟩

/-- The runs of the other capital letters. -/
def furtherCapitals : List CapitalRun :=
  capitalRuns.tail

theorem capitalRuns_eq : capitalRuns = asciiCapitals :: furtherCapitals :=
  rfl

theorem asciiCapitals_contains (c : Char) : asciiCapitals.contains c.toNat = c.isUpper := by
  change (decide (0x41 ≤ c.toNat) && decide (c.toNat ≤ 0x5a) && (c.toNat - 0x41) % 1 == 0) = _
  rw [Nat.mod_one, beq_self_eq_true, Bool.and_true, ← Bool.decide_and]
  rfl

theorem lowerChar_of_isUpper {c : Char} (upper : c.isUpper = true) : lowerChar c = c.toLower := by
  have held : asciiCapitals.contains c.toNat = true := (asciiCapitals_contains c).trans upper
  rw [lowerChar, capitalRuns_eq, List.find?_cons, held, Char.toLower_eq_of_isUpper upper]
  rfl

/-- Outside ASCII capitals a character stays as it is, or a run of further capitals moves it. -/
theorem lowerChar_cases {c : Char} (upper : c.isUpper = false) :
    lowerChar c = c ∨ ∃ run ∈ furtherCapitals, run.contains c.toNat = true ∧
      lowerChar c = Char.ofNat (c.toNat + run.shift).toNat := by
  have passed : asciiCapitals.contains c.toNat = false := (asciiCapitals_contains c).trans upper
  rw [lowerChar, capitalRuns_eq, List.find?_cons, passed]
  cases found : furtherCapitals.find? fun run => run.contains c.toNat with
  | none => exact .inl rfl
  | some run =>
      have held := List.find?_some found
      exact .inr ⟨run, List.mem_of_find?_eq_some found, held, rfl⟩

/-- The number that a character comes from. -/
theorem eq_toNat_of_ofNat_eq {n : Nat} {c : Char} (made : Char.ofNat n = c) (nonzero : c ≠ '\x00') :
    n = c.toNat := by
  have code := congrArg Char.toNat made
  rw [Char.toNat_ofNat] at code
  split at code
  · exact code
  · exact absurd (Char.toNat_inj.mp code.symm) nonzero

/-- If the further capitals spare a character, only its own capital in ASCII and it itself
lead to it. -/
theorem lowerChar_eq_iff {c d : Char} (nonzero : c ≠ '\x00')
    (spared : ∀ run ∈ furtherCapitals, run.Spares c) : lowerChar d = c ↔ d.toLower = c := by
  cases upper : d.isUpper with
  | true => rw [lowerChar_of_isUpper upper]
  | false =>
      have kept : d.toLower = d := Char.toLower_eq_of_not_isUpper (by simp [upper])
      rw [kept]
      rcases lowerChar_cases upper with same | ⟨run, member, held, moved⟩
      · rw [same]
      · rcases spared run member with ⟨notHeld, notReached⟩
        constructor
        · intro lower
          have code := eq_toNat_of_ofNat_eq (moved.symm.trans lower) nonzero
          have positive : 0 < c.toNat := by
            rw [Nat.pos_iff_ne_zero]
            exact fun zero => nonzero (Char.toNat_inj.mp zero)
          have source : ((c.toNat : Int) - run.shift).toNat = d.toNat := by omega
          rw [source, held] at notReached
          contradiction
        · rintro rfl
          rw [held] at notHeld
          contradiction

end Ascent.Text
