import Ascent.Error

/-!
# Room in memory

Items of a list lie side by side, so how many of them there can be depends on the bytes that
one of them takes.  Asking for room that cannot be addressed has no meaning, and neither has
asking for a negative number of items.  Room is asked for whenever a list is made or grows.
-/

namespace Ascent

/-- The number of bytes that 48-bit addresses tell apart. -/
def addressSpace : Nat :=
  0x1000000000000

/-- The items, of a size in bytes, have addresses. -/
def Addressable (size : Nat) (count : Int) : Prop :=
  size * count ≤ addressSpace

instance (size : Nat) (count : Int) : Decidable (Addressable size count) :=
  inferInstanceAs (Decidable (size * count ≤ addressSpace))

/-- Ask for room for a number of items of a size. -/
def reserve (size : Nat) (count : Int) : Except Fault Unit :=
  if count < 0 ∨ ¬ Addressable size count then .error .undefined else .ok ()

/-- The bytes of a number, or of a reference to something. -/
def wordSize : Nat :=
  8

/-! ## Fewer and smaller items -/

theorem Addressable.of_le {size : Nat} {fewer more : Int} (order : fewer ≤ more)
    (addressable : Addressable size more) : Addressable size fewer :=
  Int.le_trans (Int.mul_le_mul_of_nonneg_left order (Int.natCast_nonneg size)) addressable

theorem Addressable.of_size_le {smaller larger : Nat} {count : Int} (order : smaller ≤ larger)
    (nonnegative : 0 ≤ count) (addressable : Addressable larger count) :
    Addressable smaller count :=
  Int.le_trans (Int.mul_le_mul_of_nonneg_right (Int.ofNat_le.mpr order) nonnegative) addressable

theorem reserve_eq_ok {size : Nat} {count : Int} (nonnegative : 0 ≤ count)
    (addressable : Addressable size count) : reserve size count = .ok () :=
  if_neg (not_or.mpr ⟨Int.not_lt.mpr nonnegative, not_not_intro addressable⟩)

theorem reserve_eq_undefined {size : Nat} {count : Int} (beyond : ¬ Addressable size count) :
    reserve size count = .error .undefined :=
  if_pos (Or.inr beyond)

theorem reserve_cases (size : Nat) (count : Int) :
    reserve size count = .ok () ∨ reserve size count = .error .undefined := by
  rw [reserve]
  split
  · exact Or.inr rfl
  · exact Or.inl rfl

/-- Room is given exactly if the items are not too many, and not fewer than none. -/
theorem reserve_eq_ok_iff {size : Nat} {count : Int} :
    reserve size count = .ok () ↔ 0 ≤ count ∧ Addressable size count := by
  rw [reserve]
  split
  · rename_i refused
    simp only [reduceCtorEq, false_iff, not_and]
    intro nonnegative addressable
    exact refused.elim (Int.not_lt.mpr nonnegative) (· addressable)
  · rename_i granted
    rw [not_or, Int.not_lt, Decidable.not_not] at granted
    exact iff_of_true rfl granted

end Ascent
