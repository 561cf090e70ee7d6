import Ascent.Text.Octets
import Mathlib.Data.List.Basic

/-!
# The octets of characters

The octets of a text are those of its characters, one after another.  A character of ASCII is
one octet, its code; all octets of any other character are beyond ASCII.  So an ASCII octet of
a text is a character of it, never a part of one.
-/

namespace Ascent.Text

/-- The UTF-8 octets of a character. -/
def characterOctets (c : Char) : List Nat :=
  (String.utf8EncodeChar c).map UInt8.toNat

theorem octets_eq_flatMap (text : String) : octets text = text.toList.flatMap characterOctets := by
  have bytes : text.toUTF8 = (text.toList.flatMap String.utf8EncodeChar).toByteArray :=
    (String.utf8Encode_toList (b := text)).symm
  rw [octets, bytes, List.toList_data_toByteArray, List.map_flatMap]
  rfl

theorem octets_ofList (cs : List Char) :
    octets (String.ofList cs) = cs.flatMap characterOctets := by
  rw [octets_eq_flatMap, String.toList_ofList]

/-- Texts with the same octets are the same. -/
theorem octets_injective : Function.Injective octets := by
  intro text other same
  have lists := List.map_injective_iff.mpr (fun _ _ equal => UInt8.toNat_inj.mp equal) same
  have bytes : text.toUTF8 = other.toUTF8 := ByteArray.ext (Array.toList_inj.mp lists)
  exact String.toByteArray_inj.mp bytes

theorem characterOctets_of_ascii {c : Char} (ascii : c.toNat < 0x80) :
    characterOctets c = [c.toNat] := by
  have small : c.val.toNat ≤ 0x7f := Nat.le_of_lt_succ ascii
  have kept : c.toNat % 2 ^ 8 = c.toNat := Nat.mod_eq_of_lt (by omega)
  rw [characterOctets, String.utf8EncodeChar, if_pos small, List.map_singleton, UInt8.toNat_ofNat']
  exact congrArg (fun code => [code]) kept

/-- Beyond ASCII, every octet has its highest bit set. -/
theorem le_of_mem_characterOctets {c : Char} (beyond : 0x80 ≤ c.toNat) {octet : Nat}
    (member : octet ∈ characterOctets c) : 0x80 ≤ octet := by
  have large : ¬ c.val.toNat ≤ 0x7f := Nat.not_le_of_lt beyond
  rw [characterOctets, String.utf8EncodeChar, if_neg large] at member
  split at member
  · simp only [List.map_cons, List.map_nil, List.mem_cons, List.not_mem_nil, or_false,
      UInt8.toNat_ofNat'] at member
    omega
  · split at member <;>
      simp only [List.map_cons, List.map_nil, List.mem_cons, List.not_mem_nil, or_false,
        UInt8.toNat_ofNat'] at member <;>
      omega

/-- An ASCII octet occurs in the character whose code it is, and in no other. -/
theorem mem_characterOctets_iff {c : Char} {octet : Nat} (ascii : octet < 0x80) :
    octet ∈ characterOctets c ↔ octet = c.toNat := by
  by_cases small : c.toNat < 0x80
  · rw [characterOctets_of_ascii small, List.mem_singleton]
  · constructor
    · intro member
      have := le_of_mem_characterOctets (Nat.le_of_not_lt small) member
      omega
    · intro same
      omega

/-- An ASCII octet of a text is one of its characters. -/
theorem mem_octets_iff {text : String} {octet : Nat} (ascii : octet < 0x80) :
    octet ∈ octets text ↔ ∃ c ∈ text.toList, octet = c.toNat := by
  simp only [octets_eq_flatMap, List.mem_flatMap, mem_characterOctets_iff ascii]

end Ascent.Text
