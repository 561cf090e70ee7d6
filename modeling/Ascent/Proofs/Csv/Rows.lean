import Ascent.Csv.Rows
import Mathlib.Data.List.Induction

/-!
# The language of rows

Fields are plain or between quotes; commas stand between fields, line ends between rows.  The
reader accepts this language and nothing else, so a text has at most one table of rows.
-/

namespace Ascent.Csv

/-! ## The language -/

/-- An octet that only quotes keep from ending a field. -/
def IsMark (octet : Nat) : Prop :=
  octet = quote ∨ octet = comma ∨ octet = feed ∨ octet = carriage

instance (octet : Nat) : Decidable (IsMark octet) :=
  inferInstanceAs (Decidable (_ ∨ _))

/-- What stands between quotes for a field. -/
inductive Escaped : List Nat → Field → Prop
  | nil : Escaped [] []
  | octet {text : List Nat} {field : Field} {octet : Nat} :
      Escaped text field → octet ≠ quote → Escaped (text ++ [octet]) (field ++ [octet])
  | doubled {text : List Nat} {field : Field} :
      Escaped text field → Escaped (text ++ [quote, quote]) (field ++ [quote])

/-- What is written for a field. -/
inductive Written : List Nat → Field → Prop
  | plain {field : Field} : (∀ octet ∈ field, ¬ IsMark octet) → Written field field
  | quoted {text : List Nat} {field : Field} :
      Escaped text field → Written (quote :: text ++ [quote]) field

/-- Fields with a comma behind each. -/
inductive Fields : List Nat → List Field → Prop
  | nil : Fields [] []
  | comma {front text : List Nat} {fields : List Field} {field : Field} :
      Fields front fields → Written text field →
      Fields (front ++ text ++ [comma]) (fields ++ [field])

/-- A row without its end: fields with commas between them. -/
inductive Line : List Nat → List Field → Prop
  | last {front text : List Nat} {fields : List Field} {field : Field} :
      Fields front fields → Written text field → Line (front ++ text) (fields ++ [field])

/-- Rows that end. -/
inductive Lines : List Nat → List (List Field) → Prop
  | nil : Lines [] []
  | feed {front text : List Nat} {rows : List (List Field)} {row : List Field} :
      Lines front rows → Line text row → Lines (front ++ text ++ [feed]) (rows ++ [row])
  | returnFeed {front text : List Nat} {rows : List (List Field)} {row : List Field} :
      Lines front rows → Line text row → Lines (front ++ text ++ [carriage, feed]) (rows ++ [row])

/-- A text of rows.  The last row may go without its end if there is something of it. -/
inductive Table : List Nat → List (List Field) → Prop
  | ended {text : List Nat} {rows : List (List Field)} : Lines text rows → Table text rows
  | unended {front text : List Nat} {rows : List (List Field)} {row : List Field} :
      Lines front rows → Line text row → text ≠ [] → Table (front ++ text) (rows ++ [row])

/-! ## What a step can do -/

/-- At a spot the field may be complete. -/
inductive Spot.Completes : Spot → Field → Prop
  | plain (field : Field) : (Spot.plain field).Completes field
  | closing (field : Field) : (Spot.closing field).Completes field

namespace Reader

/-- The ways to read an octet. -/
inductive Takes : Reader → Nat → Reader → Prop
  | unmarked {rows fields field octet} : ¬ IsMark octet →
      Takes ⟨rows, fields, .plain field⟩ octet ⟨rows, fields, .plain (field ++ [octet])⟩
  | opens {rows fields} : Takes ⟨rows, fields, .plain []⟩ quote ⟨rows, fields, .quoted []⟩
  | inside {rows fields field octet} : octet ≠ quote →
      Takes ⟨rows, fields, .quoted field⟩ octet ⟨rows, fields, .quoted (field ++ [octet])⟩
  | closes {rows fields field} :
      Takes ⟨rows, fields, .quoted field⟩ quote ⟨rows, fields, .closing field⟩
  | doubles {rows fields field} :
      Takes ⟨rows, fields, .closing field⟩ quote ⟨rows, fields, .quoted (field ++ [quote])⟩
  | comma {rows fields spot field} : Spot.Completes spot field →
      Takes ⟨rows, fields, spot⟩ comma ⟨rows, fields ++ [field], .plain []⟩
  | feed {rows fields spot field} : Spot.Completes spot field →
      Takes ⟨rows, fields, spot⟩ feed ⟨rows ++ [fields ++ [field]], [], .plain []⟩
  | carriage {rows fields spot field} : Spot.Completes spot field →
      Takes ⟨rows, fields, spot⟩ carriage ⟨rows, fields, .returning field⟩
  | returned {rows fields field} :
      Takes ⟨rows, fields, .returning field⟩ feed ⟨rows ++ [fields ++ [field]], [], .plain []⟩

variable {rows : List (List Field)} {fields : List Field} {field : Field} {spot : Spot}
  {reader next : Reader} {octet : Nat}

theorem takes_of_separate? (complete : spot.Completes field)
    (separated : separate? ⟨rows, fields, spot⟩ field octet = some next) :
    Takes ⟨rows, fields, spot⟩ octet next := by
  unfold separate? at separated
  split_ifs at separated with isComma isFeed isCarriage <;> obtain rfl := Option.some.inj separated
  · exact isComma ▸ .comma complete
  · exact isFeed ▸ .feed complete
  · exact isCarriage ▸ .carriage complete

theorem separate?_eq_none_iff :
    reader.separate? field octet = none ↔
      ¬ (octet = Csv.comma ∨ octet = Csv.feed ∨ octet = Csv.carriage) := by
  unfold separate?
  split_ifs <;> simp [*]

theorem takes_of_step (stepped : reader.step octet = some next) : reader.Takes octet next := by
  rcases reader with ⟨rows, fields, field | field | field | field⟩ <;>
    simp only [step] at stepped
  · by_cases isQuote : octet = quote
    · rw [if_pos isQuote] at stepped
      split_ifs at stepped with empty
      obtain rfl := Option.some.inj stepped
      subst empty isQuote
      exact .opens
    · rw [if_neg isQuote] at stepped
      cases separated : separate? ⟨rows, fields, .plain field⟩ field octet with
      | some next' =>
          rw [separated] at stepped
          obtain rfl := Option.some.inj stepped
          exact takes_of_separate? (.plain field) separated
      | none =>
          rw [separated] at stepped
          obtain rfl := Option.some.inj stepped
          exact .unmarked (not_or.mpr ⟨isQuote, separate?_eq_none_iff.mp separated⟩)
  · split_ifs at stepped with isQuote <;> obtain rfl := Option.some.inj stepped
    · exact isQuote ▸ .closes
    · exact .inside isQuote
  · split_ifs at stepped with isQuote
    · obtain rfl := Option.some.inj stepped
      subst isQuote
      exact .doubles
    · exact takes_of_separate? (.closing field) stepped
  · split_ifs at stepped with isFeed
    subst isFeed
    obtain rfl := Option.some.inj stepped
    exact .returned

theorem step_of_takes (taken : reader.Takes octet next) : reader.step octet = some next := by
  cases taken with
  | unmarked unmarked =>
      rcases not_or.mp unmarked with ⟨noQuote, inner⟩
      simp only [step, if_neg noQuote, separate?_eq_none_iff.mpr inner]
      rfl
  | opens => rfl
  | inside different => exact if_neg different
  | closes => rfl
  | doubles => rfl
  | comma complete => cases complete <;> rfl
  | feed complete => cases complete <;> rfl
  | carriage complete => cases complete <;> rfl
  | returned => rfl

/-- A step does one of these things. -/
theorem step_eq_some_iff : reader.step octet = some next ↔ reader.Takes octet next :=
  ⟨takes_of_step, step_of_takes⟩

/-- A text ends behind the end of a row, or behind a field of a row of which there is something. -/
theorem finish_eq_some_iff {all : List (List Field)} :
    finish ⟨rows, fields, spot⟩ = some all ↔
      (spot = .plain [] ∧ fields = []) ∧ all = rows ∨
      ∃ field, spot.Completes field ∧ ¬ (spot = .plain [] ∧ fields = []) ∧
        all = rows ++ [fields ++ [field]] := by
  by_cases nothing : spot = .plain [] ∧ fields = []
  · simp [finish, nothing, eq_comm]
  · rw [finish, if_neg nothing]
    constructor
    · intro finished
      rcases spot with field | field | field | field
      · exact .inr ⟨field, .plain field, nothing, (Option.some.inj finished).symm⟩
      · cases finished
      · exact .inr ⟨field, .closing field, nothing, (Option.some.inj finished).symm⟩
      · cases finished
    · rintro (⟨begun, _⟩ | ⟨field, complete, _, rfl⟩)
      · exact absurd begun nothing
      · cases complete <;> rfl

/-! ## Texts of the language are read -/

/-- A reader gets to another one by a text. -/
def Goes (reader : Reader) (text : List Nat) (next : Reader) : Prop :=
  text.foldlM step reader = some next

namespace Goes

variable {last : Reader} {text rest : List Nat}

theorem nil : Goes reader [] reader :=
  rfl

theorem append (first : Goes reader text next) (second : Goes next rest last) :
    Goes reader (text ++ rest) last := by
  rw [Goes, List.foldlM_append, first]
  exact second

theorem snoc (first : Goes reader text next) (taken : next.Takes octet last) :
    Goes reader (text ++ [octet]) last := by
  refine first.append ?_
  rw [Goes, List.foldlM_cons, step_eq_some_iff.mpr taken]
  rfl

theorem of_snoc (goes : Goes reader (text ++ [octet]) last) :
    ∃ next, Goes reader text next ∧ next.Takes octet last := by
  rw [Goes, List.foldlM_append, Option.bind_eq_bind, Option.bind_eq_some_iff] at goes
  rcases goes with ⟨next, first, second⟩
  rw [List.foldlM_cons, Option.bind_eq_bind, Option.bind_eq_some_iff] at second
  rcases second with ⟨other, taken, same⟩
  obtain rfl := Option.some.inj same
  exact ⟨next, first, step_eq_some_iff.mp taken⟩

end Goes

end Reader

/-- What has been written of a field at a spot. -/
inductive Spot.Holds : Spot → List Nat → Prop
  | plain {field : Field} : (∀ octet ∈ field, ¬ IsMark octet) → (Spot.plain field).Holds field
  | quoted {text : List Nat} {field : Field} :
      Escaped text field → (Spot.quoted field).Holds (quote :: text)
  | closing {text : List Nat} {field : Field} :
      Escaped text field → (Spot.closing field).Holds (quote :: text ++ [quote])
  | returning {text : List Nat} {field : Field} :
      Written text field → (Spot.returning field).Holds (text ++ [carriage])

/-- What has been written where a reader is. -/
inductive Reader.Holds : Reader → List Nat → Prop
  | intro {front begun text : List Nat} {rows : List (List Field)} {fields : List Field}
      {spot : Spot} :
      Lines front rows → Fields begun fields → spot.Holds text →
      Reader.Holds ⟨rows, fields, spot⟩ (front ++ (begun ++ text))

section Language

variable {rows : List (List Field)} {fields : List Field} {field : Field} {spot : Spot}
  {text : List Nat}

theorem Fields.eq_nil_iff (written : Fields text fields) : text = [] ↔ fields = [] := by
  cases written <;> simp

theorem Spot.Holds.eq_nil_iff (holds : spot.Holds text) : text = [] ↔ spot = .plain [] := by
  cases holds <;> simp

/-- A field is written exactly at the spots where it may be complete. -/
theorem written_iff :
    Written text field ↔ ∃ spot : Spot, spot.Completes field ∧ spot.Holds text := by
  constructor
  · intro written
    cases written with
    | plain unmarked => exact ⟨_, .plain _, .plain unmarked⟩
    | quoted escaped => exact ⟨_, .closing _, .closing escaped⟩
  · rintro ⟨spot, complete, holds⟩
    cases complete with
    | plain => cases holds with | plain unmarked => exact .plain unmarked
    | closing => cases holds with | closing escaped => exact .quoted escaped

theorem Escaped.goes (escaped : Escaped text field) :
    Reader.Goes ⟨rows, fields, .plain []⟩ (quote :: text) ⟨rows, fields, .quoted field⟩ := by
  induction escaped with
  | nil => exact Reader.Goes.nil.snoc .opens
  | octet _ different before => exact before.snoc (.inside different)
  | doubled _ before =>
      have both := (before.snoc .closes).snoc .doubles
      rwa [List.append_assoc] at both

theorem goes_plain (unmarked : ∀ octet ∈ field, ¬ IsMark octet) :
    Reader.Goes ⟨rows, fields, .plain []⟩ field ⟨rows, fields, .plain field⟩ := by
  induction field using List.reverseRecOn with
  | nil => exact .nil
  | append_singleton field octet before =>
      have here := unmarked octet (List.mem_append_right _ (List.mem_singleton_self octet))
      exact (before fun other member => unmarked other (List.mem_append_left _ member)).snoc
        (.unmarked here)

theorem Spot.Holds.goes (holds : spot.Holds text) :
    Reader.Goes ⟨rows, fields, .plain []⟩ text ⟨rows, fields, spot⟩ := by
  cases holds with
  | plain unmarked => exact goes_plain unmarked
  | quoted escaped => exact escaped.goes
  | closing escaped => exact escaped.goes.snoc .closes
  | returning written =>
      cases written with
      | plain unmarked => exact (goes_plain unmarked).snoc (.carriage (.plain _))
      | quoted escaped => exact (escaped.goes.snoc .closes).snoc (.carriage (.closing _))

theorem Fields.goes (written : Fields text fields) :
    Reader.Goes ⟨rows, [], .plain []⟩ text ⟨rows, fields, .plain []⟩ := by
  induction written with
  | nil => exact .nil
  | comma _ written before =>
      rcases written_iff.mp written with ⟨spot, complete, holds⟩
      exact (before.append holds.goes).snoc (.comma complete)

/-- A row is read up to a spot where its last field may be complete. -/
theorem Line.goes {row : List Field} (line : Line text row) :
    ∃ fields field spot, row = fields ++ [field] ∧ Spot.Completes spot field ∧
      (text = [] ↔ spot = .plain [] ∧ fields = []) ∧
      Reader.Goes ⟨rows, [], .plain []⟩ text ⟨rows, fields, spot⟩ := by
  cases line with
  | last begun written =>
      rcases written_iff.mp written with ⟨spot, complete, holds⟩
      refine ⟨_, _, spot, rfl, complete, ?_, begun.goes.append holds.goes⟩
      rw [List.append_eq_nil_iff, begun.eq_nil_iff, holds.eq_nil_iff, and_comm]

theorem Lines.goes (written : Lines text rows) :
    Reader.Goes Reader.start text ⟨rows, [], .plain []⟩ := by
  induction written with
  | nil => exact .nil
  | feed _ line before =>
      rcases line.goes with ⟨fields, field, spot, rfl, complete, _, goes⟩
      exact (before.append goes).snoc (.feed complete)
  | returnFeed _ line before =>
      rcases line.goes with ⟨fields, field, spot, rfl, complete, _, goes⟩
      have ended := ((before.append goes).snoc (.carriage complete)).snoc .returned
      rwa [List.append_assoc] at ended

/-! ## What is read is a text of the language -/

/-- What is held grows by the octet that is read. -/
theorem Reader.Takes.holds {reader next : Reader} {octet : Nat} (taken : reader.Takes octet next)
    (held : reader.Holds text) : next.Holds (text ++ [octet]) := by
  cases held with
  | intro lines begun holds =>
      have noText : (Spot.plain []).Holds [] := .plain (List.forall_mem_nil _)
      cases taken with
      | unmarked unmarked =>
          cases holds with
          | plain before =>
              have longer : (Spot.plain _).Holds _ := .plain
                (List.forall_mem_append.mpr ⟨before, List.forall_mem_singleton.mpr unmarked⟩)
              simpa only [List.append_assoc] using .intro lines begun longer
      | opens =>
          obtain rfl := holds.eq_nil_iff.mpr rfl
          simpa using Holds.intro lines begun (.quoted .nil)
      | inside different =>
          cases holds with
          | quoted escaped =>
              simpa using Holds.intro lines begun (.quoted (escaped.octet different))
      | closes =>
          cases holds with
          | quoted escaped => simpa using Holds.intro lines begun (.closing escaped)
      | doubles =>
          cases holds with
          | closing escaped => simpa using Holds.intro lines begun (.quoted escaped.doubled)
      | comma complete =>
          have ended := begun.comma (written_iff.mpr ⟨_, complete, holds⟩)
          simpa using Holds.intro lines ended noText
      | feed complete =>
          have ended := lines.feed (.last begun (written_iff.mpr ⟨_, complete, holds⟩))
          simpa using Holds.intro ended .nil noText
      | carriage complete =>
          have ended := written_iff.mpr ⟨_, complete, holds⟩
          simpa using Holds.intro lines begun (.returning ended)
      | returned =>
          cases holds with
          | returning written =>
              have ended := lines.returnFeed (.last begun written)
              simpa using Holds.intro ended .nil noText

/-- A reader gets to where it holds what has been written, and nowhere else. -/
theorem Reader.goes_start_iff {reader : Reader} : Goes start text reader ↔ reader.Holds text := by
  constructor
  · intro goes
    induction text using List.reverseRecOn generalizing reader with
    | nil =>
        obtain rfl := Option.some.inj goes
        exact .intro .nil .nil (.plain (List.forall_mem_nil _))
    | append_singleton text octet before =>
        rcases goes.of_snoc with ⟨middle, first, taken⟩
        exact taken.holds (before first)
  · rintro ⟨lines, begun, holds⟩
    exact lines.goes.append (begun.goes.append holds.goes)

/-- The reader accepts the texts of rows, and nothing else. -/
theorem rows?_eq_some_iff : rows? text = some rows ↔ Table text rows := by
  rw [rows?, Option.bind_eq_some_iff]
  constructor
  · rintro ⟨reader, goes, finished⟩
    cases Reader.goes_start_iff.mp goes with
    | intro lines begun holds =>
        rcases Reader.finish_eq_some_iff.mp finished with
          ⟨⟨rfl, rfl⟩, rfl⟩ | ⟨field, complete, something, rfl⟩
        · obtain rfl := begun.eq_nil_iff.mpr rfl
          obtain rfl := holds.eq_nil_iff.mpr rfl
          simpa using Table.ended lines
        · refine .unended lines (.last begun (written_iff.mpr ⟨_, complete, holds⟩)) fun empty => ?_
          rcases List.append_eq_nil_iff.mp empty with ⟨noFields, noText⟩
          exact something ⟨holds.eq_nil_iff.mp noText, begun.eq_nil_iff.mp noFields⟩
  · intro table
    cases table with
    | ended lines => exact ⟨_, lines.goes, rfl⟩
    | unended lines line nonempty =>
        rcases line.goes with ⟨fields, field, spot, rfl, complete, nothing, goes⟩
        refine ⟨_, lines.goes.append goes, Reader.finish_eq_some_iff.mpr ?_⟩
        exact .inr ⟨field, complete, mt nothing.mpr nonempty, rfl⟩

/-- A quote written twice, a line end between quotes, and rows that end in both ways and not at
all; the second one has one field, with nothing in it. -/
example :
    rows? [0x61, comma, quote, 0x62, quote, quote, feed, quote, carriage, feed, feed, 0x63] =
      some [[[0x61], [0x62, quote, feed]], [[]], [[0x63]]] := by decide

/-- A text has at most one table. -/
theorem Table.unique {others : List (List Field)} (first : Table text rows)
    (second : Table text others) : rows = others :=
  Option.some.inj ((rows?_eq_some_iff.mpr first).symm.trans (rows?_eq_some_iff.mpr second))

end Language

end Ascent.Csv
