import Ascent.Proofs.Evaluation
import Ascent.Solution.Storage
import Mathlib.Data.Finset.Card

/-!
# Stored solutions hold truth values

Of the library of bit sets it is assumed that its operations act as on finite sets of
indices with a length.  A stored solution then holds the values of a solution if its set
has the solution's length and the true variables as elements.  Solutions that are made
hold what they should, and changes in range keep both lengths equal.

Some observers read the set and others count up to the length.  They agree on every
stored solution that holds values.
-/

namespace Ascent.Storage

variable {β : Type}

/-- The operations of a library act as on finite sets of indices with a length.  Putting
an index in makes the length large enough; taking one out never changes it. -/
structure BitSets.Lawful (library : BitSets β) (length : β → Nat) (members : β → Finset Nat) :
    Prop where
  length_create : ∀ n, length (library.create n) = n
  members_create : ∀ n, members (library.create n) = ∅
  length_put : ∀ set i, length (library.put set i) = max (length set) (i + 1)
  members_put : ∀ set i, members (library.put set i) = insert i (members set)
  length_assign : ∀ set i value, length (library.assign set i value) =
    if value then max (length set) (i + 1) else length set
  members_assign : ∀ set i value, members (library.assign set i value) =
    if value then insert i (members set) else (members set).erase i
  length_invert : ∀ set i, length (library.invert set i) = max (length set) (i + 1)
  members_invert : ∀ set i, members (library.invert set i) =
    if i ∈ members set then (members set).erase i else insert i (members set)
  length_clone : ∀ set, length (library.clone set) = length set
  members_clone : ∀ set, members (library.clone set) = members set
  contains_iff : ∀ set i, library.contains set i = true ↔ i ∈ members set
  count_eq : ∀ set, library.count set = (members set).card
  equal_iff : ∀ set other, library.equal set other = true ↔
    length set = length other ∧ members set = members other

/-- Two outcomes that fail alike, or give related values. -/
inductive Alike {ε α γ : Type} (related : α → γ → Prop) : Except ε α → Except ε γ → Prop where
  | failed (failure : ε) : Alike related (.error failure) (.error failure)
  | gave {value : α} {other : γ} (relation : related value other) :
      Alike related (.ok value) (.ok other)

theorem Alike.reported {α γ : Type} {related : α → γ → Prop} {given : Except Error α}
    {other : Except Error γ} (alike : Alike related given other) :
    Alike related (report given) (report other) := by
  cases alike with
  | failed failure => exact .failed (Fault.rejected failure)
  | gave relation => exact .gave relation

/-- A stored solution holds the values of a solution: both its lengths are the
solution's, and the elements of its set are the true variables. -/
structure Stored.Holds (length : β → Nat) (members : β → Finset Nat) (stored : Stored β)
    (s : Solution) : Prop where
  width : stored.length = s.length
  capacity : length stored.set = s.length
  mem_iff : ∀ i, i ∈ members stored.set ↔ s.bits[i]? = some true

/-- All ways of looking at a stored solution tell the same values. -/
structure Stored.Coherent (library : BitSets β) (stored : Stored β) : Prop where
  length_bools : (stored.bools library).length = stored.length
  get_eq : ∀ {i : Nat} {value}, (stored.bools library)[i]? = some value →
    stored.get library i = .ok value
  ones_eq : stored.ones library = (stored.bools library).count true
  text_eq : stored.text library =
    String.ofList ('[' :: (stored.bools library).map Solution.digit ++ [']'])
  /-- No bit at or beyond the length is set. -/
  contains_beyond : ∀ {i}, stored.length ≤ i → library.contains stored.set i = false

section Lawful

variable {library : BitSets β} {length : β → Nat} {members : β → Finset Nat}
  (lawful : library.Lawful length members)
include lawful

/-! ## Making solutions -/

/-- Putting in indices below the length of a set does not change its length. -/
theorem length_putFrom (values : List Bool) {index : Nat} {set : β}
    (fits : index + values.length ≤ length set) :
    length (library.putFrom index values set) = length set := by
  induction values generalizing index set with
  | nil => rfl
  | cons value rest ih =>
      rw [List.length_cons] at fits
      have kept : length (if value then library.put set index else set) = length set := by
        cases value with
        | false => rfl
        | true =>
            rw [if_pos rfl, lawful.length_put]
            omega
      rw [BitSets.putFrom, ih (by omega), kept]

theorem mem_putFrom_iff (values : List Bool) (index : Nat) (set : β) (i : Nat) :
    i ∈ members (library.putFrom index values set) ↔
      i ∈ members set ∨ ∃ k, values[k]? = some true ∧ i = index + k := by
  induction values generalizing index set with
  | nil => simp [BitSets.putFrom]
  | cons value rest ih =>
      have first : i ∈ members (if value then library.put set index else set) ↔
          i ∈ members set ∨ value = true ∧ i = index := by
        cases value with
        | false => simp
        | true => simp [lawful.members_put, or_comm]
      have split : (∃ k, (value :: rest)[k]? = some true ∧ i = index + k) ↔
          value = true ∧ i = index ∨ ∃ k, rest[k]? = some true ∧ i = index + 1 + k := by
        rw [← Nat.or_exists_add_one]
        simp [Nat.add_assoc, Nat.add_comm 1]
      rw [BitSets.putFrom, ih, first, split, or_assoc]

theorem ofBools_holds (values : List Bool) :
    (Stored.ofBools library values).Holds length members (.ofBools values) where
  width := rfl
  capacity := by
    have created := lawful.length_create values.length
    rw [Stored.ofBools, length_putFrom lawful values (by omega), created]
    rfl
  mem_iff := by
    intro i
    rw [Stored.ofBools, mem_putFrom_iff lawful, lawful.members_create]
    simp [Solution.ofBools]

theorem make_alike (n : Int) :
    Alike (Stored.Holds length members) (Stored.make library n) (Solution.make n) := by
  by_cases negative : n < 0
  · rw [Stored.make, Solution.make, if_pos negative, if_pos negative]
    exact .failed _
  · rw [Stored.make, Solution.make, if_neg negative, if_neg negative]
    apply Alike.gave
    constructor
    case width => simp
    case capacity => simp [lawful.length_create]
    case mem_iff =>
      intro i
      simp [lawful.members_create, Solution.zeros, List.getElem?_replicate]

theorem parse_alike (text : String) :
    Alike (Stored.Holds length members) (Stored.parse library text) (Solution.parse text) := by
  rw [Stored.parse]
  cases Solution.parse text with
  | error error => exact .failed error
  | ok s => exact .gave (ofBools_holds lawful s.bits)

omit lawful in
/-- A position is an index in range. -/
theorem position_lt {s : Solution} {index : Int} {i : Nat} (found : s.position index = .ok i) :
    i < s.bits.length ∧ index = i := by
  unfold Solution.position at found
  split at found
  · obtain rfl := Except.ok.inj found
    rw [Solution.length] at *
    omega
  · contradiction

namespace Stored.Holds

variable {stored : Stored β} {s : Solution} (holds : stored.Holds length members s)
include holds

theorem copied : (stored.copy library).Holds length members s where
  width := holds.width
  capacity := (lawful.length_clone stored.set).trans holds.capacity
  mem_iff := by
    intro i
    rw [Stored.copy, lawful.members_clone]
    exact holds.mem_iff i

/-! ## Changing solutions -/

omit lawful in
theorem position_eq (index : Int) : stored.position index = s.position index := by
  rw [Stored.position, Solution.position, holds.width]

theorem assign_alike (index : Int) (value : Bool) :
    Alike (fun set => Holds length members ⟨stored.length, set⟩)
      (stored.assign library index value) (s.set index value) := by
  rw [Stored.assign, Solution.set, holds.position_eq]
  cases found : s.position index with
  | error error => exact .failed error
  | ok i =>
      have inside := (position_lt found).1
      apply Alike.gave
      constructor
      case width => simpa [Solution.length] using holds.width
      case capacity =>
        have capacity := holds.capacity
        rw [Solution.length] at capacity
        rw [lawful.length_assign, Solution.length, List.length_set]
        split
        · omega
        · exact capacity
      case mem_iff =>
        intro j
        have before := holds.mem_iff j
        rw [lawful.members_assign, List.getElem?_set]
        by_cases same : i = j
        · subst same
          cases value with
          | false => simp [inside]
          | true => simp [inside]
        · cases value with
          | false => simpa [same, Ne.symm same] using before
          | true => simpa [same, Ne.symm same] using before

theorem invert_alike (index : Int) :
    Alike (fun set => Holds length members ⟨stored.length, set⟩)
      (stored.invert library index) (s.flip index) := by
  rw [Stored.invert, Solution.flip, holds.position_eq]
  cases found : s.position index with
  | error error => exact .failed error
  | ok i =>
      have inside := (position_lt found).1
      apply Alike.gave
      constructor
      case width => simpa using holds.width
      case capacity =>
        have capacity := holds.capacity
        rw [lawful.length_invert, Solution.length_flipped, ← capacity]
        rw [Solution.length] at capacity
        omega
      case mem_iff =>
        intro j
        have before := holds.mem_iff j
        rw [lawful.members_invert, Solution.flipped, List.getElem?_modify]
        by_cases same : i = j
        · subst same
          rw [List.getElem?_eq_getElem inside] at before ⊢
          cases value : s.bits[i] with
          | false => simp [before, value]
          | true => simp [before, value]
        · have other : j ∈ members stored.set ↔
              j ∈ if i ∈ members stored.set then (members stored.set).erase i
                else insert i (members stored.set) := by
            split
            · simp [Ne.symm same]
            · simp [Ne.symm same]
          simpa [same, ← other] using before

/-! ## Observers -/

theorem contains_eq (i : Nat) : library.contains stored.set i = s.bits.getD i false := by
  rw [Bool.eq_iff_iff, lawful.contains_iff, holds.mem_iff, List.getD_eq_getElem?_getD]
  cases s.bits[i]? with
  | none => simp
  | some value => simp

/-- No bit at or beyond the length is set. -/
theorem contains_beyond {i : Nat} (beyond : stored.length ≤ i) :
    library.contains stored.set i = false := by
  rw [holds.width] at beyond
  rw [holds.contains_eq lawful, List.getD_eq_getElem?_getD, List.getElem?_eq_none beyond]
  rfl

theorem bools_eq : stored.bools library = s.bits := by
  apply List.ext_getElem
  · simp [Stored.bools, holds.width, Solution.length]
  · intro i _ inside
    simp [Stored.bools, holds.contains_eq lawful, List.getElem?_eq_getElem inside]

theorem get_eq (index : Int) : stored.get library index = s.get index := by
  rw [Stored.get, Solution.get, holds.position_eq]
  simp only [holds.contains_eq lawful]

/-- The set has no other elements than the true variables below the length. -/
theorem ones_eq : stored.ones library = (stored.bools library).count true := by
  have elements : members stored.set =
      ((List.range stored.length).filter (library.contains stored.set)).toFinset := by
    ext i
    rw [List.mem_toFinset, List.mem_filter, List.mem_range, lawful.contains_iff]
    constructor
    · intro member
      refine ⟨?_, member⟩
      by_contra beyond
      have absent := holds.contains_beyond lawful (Nat.le_of_not_lt beyond)
      rw [(lawful.contains_iff stored.set i).mpr member] at absent
      contradiction
    · exact And.right
  rw [Stored.ones, lawful.count_eq, elements,
    List.toFinset_card_of_nodup (List.nodup_range.filter _), Stored.bools, List.count,
    List.countP_map, List.countP_eq_length_filter]
  simp [Function.comp_def]

theorem text_eq : stored.text library = s.text := by
  rw [Solution.text, ← holds.bools_eq lawful, Stored.bools, List.map_map]
  rfl

/-- Sets of the same length with the same elements belong to equal solutions. -/
theorem equal_iff {other : Stored β} {t : Solution} (holdsOther : other.Holds length members t) :
    stored.equal library other = true ↔
      stored.length = other.length ∧ stored.bools library = other.bools library := by
  rw [Stored.equal, Bool.and_eq_true, beq_iff_eq, lawful.equal_iff]
  constructor
  · rintro ⟨lengths, _, elements⟩
    have contents : library.contains stored.set = library.contains other.set := by
      funext i
      rw [Bool.eq_iff_iff, lawful.contains_iff, lawful.contains_iff, elements]
    exact ⟨lengths, by rw [Stored.bools, Stored.bools, lengths, contents]⟩
  · rintro ⟨lengths, values⟩
    rw [holds.bools_eq lawful, holdsOther.bools_eq lawful] at values
    refine ⟨lengths, ?_, ?_⟩
    · rw [holds.capacity, holdsOther.capacity, Solution.length, Solution.length, values]
    · ext i
      rw [holds.mem_iff, holdsOther.mem_iff, values]

theorem coherent : stored.Coherent library where
  length_bools := by rw [Stored.bools, List.length_map, List.length_range]
  get_eq := by
    intro i value found
    obtain ⟨inside, rfl⟩ : i < stored.length ∧ library.contains stored.set i = value := by
      simpa [Stored.bools, List.getElem?_eq_some_iff] using found
    rw [Stored.get, Stored.position, if_pos ⟨Int.natCast_nonneg i, Int.ofNat_lt.mpr inside⟩]
    rfl
  ones_eq := holds.ones_eq lawful
  text_eq := by rw [holds.text_eq lawful, holds.bools_eq lawful, Solution.text]
  contains_beyond := holds.contains_beyond lawful

end Stored.Holds

end Lawful

end Ascent.Storage
