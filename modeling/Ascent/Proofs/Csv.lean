import Ascent.Csv
import Ascent.Proofs.Csv.Rows
import Ascent.Proofs.Text.Octets

/-!
# Written records

What is written of records is a text of rows, and its rows are the records.  The marks of the
language are characters of ASCII, so they are among the octets of a field exactly if they are
among its characters.
-/

namespace Ascent.Csv

theorem isSpecial_iff {c : Char} : isSpecial c = true ↔ IsMark c.toNat := by
  have code (mark : Char) : c = mark ↔ c.toNat = mark.toNat := Char.toNat_inj.symm
  simp only [isSpecial, Bool.or_eq_true, beq_iff_eq, code, or_assoc]
  exact or_left_comm

theorem IsMark.lt {octet : Nat} (mark : IsMark octet) : octet < 0x80 := by
  rcases mark with rfl | rfl | rfl | rfl <;> decide

theorem characterOctets_quote : Text.characterOctets '\x22' = [quote] :=
  Text.characterOctets_of_ascii (by decide)

theorem characterOctets_comma : Text.characterOctets ',' = [comma] :=
  Text.characterOctets_of_ascii (by decide)

theorem characterOctets_feed : Text.characterOctets '\n' = [feed] :=
  Text.characterOctets_of_ascii (by decide)

/-- Octets without a quote stand for themselves between quotes. -/
theorem Escaped.self {text : List Nat} (absent : quote ∉ text) : Escaped text text := by
  induction text using List.reverseRecOn with
  | nil => exact .nil
  | append_singleton text octet before =>
      have here : octet ≠ quote := fun same =>
        absent (same ▸ List.mem_append_right _ (List.mem_singleton_self octet))
      exact (before fun member => absent (List.mem_append_left _ member)).octet here

theorem Escaped.append {text rest : List Nat} {field tail : Field} (first : Escaped text field)
    (second : Escaped rest tail) : Escaped (text ++ rest) (field ++ tail) := by
  induction second with
  | nil => simpa only [List.append_nil] using first
  | octet _ different before => simpa only [List.append_assoc] using before.octet different
  | doubled _ before => simpa only [List.append_assoc] using before.doubled

/-- Characters with their quotes doubled. -/
theorem escaped_double (cs : List Char) :
    Escaped ((double cs).flatMap Text.characterOctets) (cs.flatMap Text.characterOctets) := by
  induction cs with
  | nil => exact .nil
  | cons c rest behind =>
      rw [double]
      split_ifs with isQuote
      · subst isQuote
        simp only [List.flatMap_cons, characterOctets_quote]
        exact (Escaped.nil.doubled).append behind
      · have absent : quote ∉ Text.characterOctets c := fun member =>
          isQuote (Char.toNat_inj.mp ((Text.mem_characterOctets_iff (by decide)).mp member).symm)
        simp only [List.flatMap_cons]
        exact (Escaped.self absent).append behind

/-- What is written for a text is a field with its octets. -/
theorem written_encodeField (field : String) :
    Written ((encodeField field).flatMap Text.characterOctets) (Text.octets field) := by
  rw [encodeField]
  split_ifs with needed
  · rw [List.flatMap_append, List.flatMap_cons, List.flatMap_singleton, characterOctets_quote,
      Text.octets_eq_flatMap]
    exact .quoted (escaped_double field.toList)
  · rw [← Text.octets_eq_flatMap]
    refine .plain fun octet member mark => needed ?_
    rcases (Text.mem_octets_iff mark.lt).mp member with ⟨c, held, rfl⟩
    have special : field.toList.any isSpecial = true :=
      List.any_eq_true.mpr ⟨c, held, isSpecial_iff.mpr mark⟩
    rw [needsQuotes, special, Bool.or_true, Bool.true_or]

/-- What is written of a record that has fields is a row with its end. -/
theorem lines_encodeRecord {front begun : List Nat} {rows : List (List Field)}
    {fields : List Field} {record : List String} (filled : record ≠ [])
    (lines : Lines front rows) (before : Fields begun fields) :
    Lines (front ++ (begun ++ (encodeRecord record).flatMap Text.characterOctets))
      (rows ++ [fields ++ record.map Text.octets]) := by
  induction record generalizing begun fields with
  | nil => exact absurd rfl filled
  | cons field rest behind =>
      have written := written_encodeField field
      cases rest with
      | nil =>
          have ended := lines.feed (.last before written)
          rw [encodeRecord, List.flatMap_append, List.flatMap_singleton, characterOctets_feed]
          simpa only [List.append_assoc, List.map_cons, List.map_nil] using ended
      | cons second rest =>
          have longer := behind (List.cons_ne_nil _ _) (before.comma written)
          rw [encodeRecord, List.flatMap_append, List.flatMap_cons, characterOctets_comma]
          · simpa only [List.append_assoc, List.map_cons, List.singleton_append] using longer
          · exact List.cons_ne_nil _ _

/-- What is written of records that have fields is a text of rows, which are the records. -/
theorem lines_encode {records : List (List String)} (filled : ∀ record ∈ records, record ≠ []) :
    Lines (Text.octets (encode records)) (records.map (List.map Text.octets)) := by
  rw [encode, Text.octets_ofList]
  induction records using List.reverseRecOn with
  | nil => exact .nil
  | append_singleton records record before =>
      have lines := before fun other member => filled other (List.mem_append_left _ member)
      have here := filled record (List.mem_append_right _ (List.mem_singleton_self record))
      rw [List.flatMap_append, List.flatMap_append, List.flatMap_singleton, List.map_append]
      exact lines_encodeRecord here lines .nil

/-- The rows of what is written are the records. -/
theorem rows?_encode {records : List (List String)} (filled : ∀ record ∈ records, record ≠ []) :
    rows? (Text.octets (encode records)) = some (records.map (List.map Text.octets)) :=
  rows?_eq_some_iff.mpr (.ended (lines_encode filled))

/-- Records of which the same is written are the same. -/
theorem encode_inj {records others : List (List String)} (filled : ∀ record ∈ records, record ≠ [])
    (othersFilled : ∀ record ∈ others, record ≠ []) (same : encode records = encode others) :
    records = others := by
  have rows := rows?_encode othersFilled
  rw [← same, rows?_encode filled] at rows
  exact List.map_injective_iff.mpr (List.map_injective_iff.mpr Text.octets_injective)
    (Option.some.inj rows)

end Ascent.Csv
