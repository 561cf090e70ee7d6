import Ascent.Proofs.Solution.Representation

/-!
# Stores of solutions that share nothing

No two solutions of a store refer to the same cell, so a change in place is a change of
one solution.  Every request keeps this, and every solution holds its values; a store
therefore answers all requests like a list of solutions.
-/

namespace Ascent.Storage

variable {β : Type}

/-! ## The solutions of a store -/

namespace Store

theorem stored?_eq_some_iff {store : Store β} {number : Nat} {stored : Stored β} :
    store.stored? number = some stored ↔
      ∃ handle, store.handles[number]? = some handle ∧ handle.length = stored.length ∧
        store.cells[handle.cell]? = some stored.set := by
  rcases stored with ⟨width, set⟩
  simp [stored?, Option.bind_eq_some_iff, and_comm]

/-- What is kept is found under the next number, and nothing else has changed. -/
theorem stored?_keep (store : Store β) (made : Stored β) :
    (store.keep (.ok made)).2.stored? store.handles.length = some made ∧
      ∀ {number stored}, store.stored? number = some stored →
        (store.keep (.ok made)).2.stored? number = some stored := by
  constructor
  · simp [keep, stored?]
  · intro number stored found
    rcases stored?_eq_some_iff.mp found with ⟨handle, held, width, content⟩
    refine stored?_eq_some_iff.mpr ⟨handle, ?_, width, ?_⟩
    · rw [keep, List.getElem?_append_left (List.getElem?_eq_some_iff.mp held).1, held]
    · rw [keep, List.getElem?_append_left (List.getElem?_eq_some_iff.mp content).1, content]

/-- No two solutions refer to the same cell. -/
def Unshared (store : Store β) : Prop :=
  (store.handles.map Handle.cell).Nodup

/-- A change in the cell of one solution is not seen by the others. -/
theorem stored?_set {store : Store β} (unshared : store.Unshared) {number : Nat}
    {handle : Handle} (held : store.handles[number]? = some handle) {stored : Stored β}
    (found : store.stored? number = some stored) (set : β) (other : Nat) :
    ({ store with cells := store.cells.set handle.cell set } : Store β).stored? other =
      if other = number then some ⟨stored.length, set⟩ else store.stored? other := by
  rcases stored?_eq_some_iff.mp found with ⟨_, again, width, content⟩
  obtain rfl := Option.some.inj (held.symm.trans again)
  have inside := (List.getElem?_eq_some_iff.mp content).1
  by_cases same : other = number
  · subst same
    rw [if_pos rfl]
    exact stored?_eq_some_iff.mpr ⟨handle, held, width, by simp [inside]⟩
  · rw [if_neg same, stored?, stored?]
    cases otherHeld : store.handles[other]? with
    | none => rfl
    | some otherHandle =>
        have apart : handle.cell ≠ otherHandle.cell := by
          intro shared
          have cells : (store.handles.map Handle.cell)[number]? =
              (store.handles.map Handle.cell)[other]? := by
            simp [held, otherHeld, shared]
          have numbered := (List.getElem?_eq_some_iff.mp held).1
          exact same ((List.getElem?_inj (by simpa using numbered) unshared).mp cells).symm
        simp [List.getElem?_set_ne apart]

/-- A store holds solutions under their numbers, each in a cell of its own. -/
structure Represents (length : β → Nat) (members : β → Finset Nat) (store : Store β)
    (solutions : List Solution) : Prop where
  count : store.handles.length = solutions.length
  held : ∀ {number s}, solutions[number]? = some s →
    ∃ stored, store.stored? number = some stored ∧ stored.Holds length members s
  unshared : store.Unshared

namespace Represents

variable {library : BitSets β} {length : β → Nat} {members : β → Finset Nat} {store : Store β}
  {solutions : List Solution}

theorem of_empty : (empty : Store β).Represents length members [] where
  count := rfl
  held := nofun
  unshared := List.nodup_nil

variable (represents : store.Represents length members solutions)
include represents

/-- A number belongs to a solution both here and there, or to none. -/
theorem lookup (number : Nat) :
    (solutions[number]? = none ∧ store.handles[number]? = none ∧ store.stored? number = none) ∨
      ∃ s stored handle, solutions[number]? = some s ∧ store.handles[number]? = some handle ∧
        store.stored? number = some stored ∧ stored.Holds length members s := by
  cases asked : solutions[number]? with
  | none =>
      have free : store.handles[number]? = none := by
        rw [List.getElem?_eq_none_iff, represents.count]
        exact List.getElem?_eq_none_iff.mp asked
      exact .inl ⟨rfl, free, by rw [stored?, free]; rfl⟩
  | some s =>
      rcases represents.held asked with ⟨stored, found, holds⟩
      rcases stored?_eq_some_iff.mp found with ⟨handle, held, _⟩
      exact .inr ⟨s, stored, handle, rfl, held, found, holds⟩

/-- Whatever is stored holds the values of a solution. -/
theorem exists_holds {number : Nat} {stored : Stored β}
    (found : store.stored? number = some stored) :
    ∃ s, solutions[number]? = some s ∧ stored.Holds length members s := by
  rcases represents.lookup number with ⟨_, _, free⟩ | ⟨s, _, _, asked, _, again, holds⟩
  · rw [free] at found
    contradiction
  · obtain rfl := Option.some.inj (found.symm.trans again)
    exact ⟨s, asked, holds⟩

/-- Cells that are referred to are in use. -/
theorem cell_lt {handle : Handle} (member : handle ∈ store.handles) :
    handle.cell < store.cells.length := by
  rcases List.mem_iff_getElem?.mp member with ⟨number, held⟩
  have inside : number < solutions.length := by
    rw [← represents.count]
    exact (List.getElem?_eq_some_iff.mp held).1
  rcases represents.held (List.getElem?_eq_getElem inside) with ⟨stored, found, _⟩
  rcases stored?_eq_some_iff.mp found with ⟨_, again, _, content⟩
  obtain rfl := Option.some.inj (held.symm.trans again)
  exact (List.getElem?_eq_some_iff.mp content).1

/-- A solution that is kept gets a number and a cell that no other has. -/
theorem keep {built : Except Fault (Stored β)} {made : Except Fault Solution}
    (alike : Alike (Stored.Holds length members) built made) :
    (store.keep built).1 = (Request.keep solutions made).1 ∧
      (store.keep built).2.Represents length members (Request.keep solutions made).2 := by
  cases alike with
  | failed fault => exact ⟨rfl, represents⟩
  | @gave stored s holds =>
      rcases stored?_keep store stored with ⟨new, old⟩
      refine ⟨?_, ?_, ?_, ?_⟩
      · rw [Store.keep, Request.keep, represents.count]
      · simp [Store.keep, Request.keep, represents.count]
      · intro number t asked
        rw [Request.keep, List.getElem?_append] at asked
        split at asked
        · rcases represents.held asked with ⟨other, found, holdsOther⟩
          exact ⟨other, old found, holdsOther⟩
        · rename_i beyond
          obtain ⟨atEnd, rfl⟩ : number = solutions.length ∧ s = t := by
            rw [List.getElem?_singleton] at asked
            split at asked
            · exact ⟨by omega, Option.some.inj asked⟩
            · contradiction
          rw [atEnd, ← represents.count]
          exact ⟨stored, new, holds⟩
      · -- The new cell lies behind all cells that are referred to.
        rw [Unshared, Store.keep, List.map_append, List.map_singleton]
        apply represents.unshared.append (List.nodup_singleton _)
        rintro cell old new
        rcases List.mem_map.mp old with ⟨handle, member, rfl⟩
        exact absurd (List.mem_singleton.mp new) (represents.cell_lt member).ne

/-- A solution that is changed keeps its cell, and the others keep what they have. -/
theorem change {next : Stored β → Except Error β} {nextValue : Solution → Except Error Solution}
    (alike : ∀ {stored s}, stored.Holds length members s →
      Alike (fun set => Stored.Holds length members ⟨stored.length, set⟩) (next stored)
        (nextValue s)) (number : Nat) :
    (store.change number next).1 = (Request.change solutions number nextValue).1 ∧
      (store.change number next).2.Represents length members
        (Request.change solutions number nextValue).2 := by
  rcases represents.lookup number with
    ⟨asked, free, _⟩ | ⟨s, stored, handle, asked, held, found, holds⟩
  · rw [Store.change, Request.change, asked, free]
    exact ⟨rfl, represents⟩
  · rw [Store.change, Request.change, asked, held, found]
    have changed := alike holds
    dsimp only
    generalize next stored = outcome, nextValue s = value at changed ⊢
    cases changed with
    | failed error => exact ⟨rfl, represents⟩
    | @gave set s' holdsNext =>
        refine ⟨rfl, ?_, ?_, represents.unshared⟩
        · simp [represents.count]
        · -- The cell belongs to this number alone, so all other numbers are framed at once.
          intro other t askedOther
          rw [stored?_set represents.unshared held found]
          by_cases same : other = number
          · subst same
            rw [List.getElem?_set_self (List.getElem?_eq_some_iff.mp asked).1] at askedOther
            obtain rfl := Option.some.inj askedOther
            exact ⟨_, if_pos rfl, holdsNext⟩
          · rw [List.getElem?_set_ne (Ne.symm same)] at askedOther
            rw [if_neg same]
            exact represents.held askedOther

/-- One request: the answers are the same, and the store still holds the solutions. -/
theorem perform (lawful : library.Lawful length members) (request : Request) :
    (store.perform library request).1 = (request.apply solutions).1 ∧
      (store.perform library request).2.Represents length members (request.apply solutions).2 := by
  cases request with
  | new n => exact represents.keep (make_alike lawful n)
  | fromBools values => exact represents.keep (.gave (ofBools_holds lawful values))
  | fromInts values => exact represents.keep (.gave (ofBools_holds lawful _))
  | parse text => exact represents.keep (parse_alike lawful text).reported
  | copy number =>
      apply represents.keep
      rcases represents.lookup number with ⟨asked, _, free⟩ | ⟨s, stored, _, asked, _, found, holds⟩
      · rw [asked, free]
        exact .failed _
      · rw [asked, found]
        exact .gave (holds.copied lawful)
  | set number index value =>
      exact represents.change (fun holds => holds.assign_alike lawful index value) number
  | flip number index =>
      exact represents.change (fun holds => holds.invert_alike lawful index) number
  | get number index =>
      refine ⟨?_, represents⟩
      rcases represents.lookup number with ⟨asked, _, free⟩ | ⟨s, stored, _, asked, _, found, holds⟩
      · rw [Store.perform, Request.apply, asked, free]
        rfl
      · rw [Store.perform, Request.apply, asked, found]
        simp only [present_some, ok_bind, holds.get_eq lawful]

/-- All requests: the answers are the same, and the store holds the solutions in the end. -/
theorem performAll (lawful : library.Lawful length members) (requests : List Request) :
    (store.performAll library requests).1 = (Request.applyAll solutions requests).1 ∧
      (store.performAll library requests).2.Represents length members
        (Request.applyAll solutions requests).2 := by
  induction requests generalizing store solutions with
  | nil => exact ⟨rfl, represents⟩
  | cons request requests ih =>
      rcases represents.perform lawful request with ⟨answer, next⟩
      rcases ih next with ⟨answers, last⟩
      exact ⟨congrArg₂ List.cons answer answers, last⟩

end Represents

end Store

/-! ## What requests change -/

/-- The value of a variable of the solution with a number behind a request. -/
def Request.valueAfter (request : Request) (number i : Nat) (before : Bool) : Bool :=
  match request with
  | .set changed index value => if changed = number ∧ index = i then value else before
  | .flip changed index => if changed = number ∧ index = i then !before else before
  | _ => before

/-- The solution that a request is about, and the index that it gives. -/
def Request.target? : Request → Option (Nat × Int)
  | .set number index _ => some (number, index)
  | .flip number index => some (number, index)
  | .get number index => some (number, index)
  | _ => none

namespace Request

variable {solutions : List Solution} {number : Nat} {s : Solution}

theorem getElem?_keep (asked : solutions[number]? = some s) (made : Except Fault Solution) :
    (keep solutions made).2[number]? = some s := by
  cases made with
  | error fault => exact asked
  | ok other =>
      rw [keep, List.getElem?_append_left (List.getElem?_eq_some_iff.mp asked).1, asked]

/-- A request for a change of one solution is refused and changes nothing, is about
another solution, or changes this one. -/
theorem getElem?_change (asked : solutions[number]? = some s) (changed : Nat)
    (next : Solution → Except Error Solution) :
    ((changed = number → ∃ error, next s = .error error) ∧
        (change solutions changed next).2[number]? = some s) ∨
      ∃ s', changed = number ∧ next s = .ok s' ∧
        (change solutions changed next).2[number]? = some s' := by
  by_cases same : changed = number
  · subst same
    rw [change, asked]
    dsimp only
    cases outcome : next s with
    | error error => exact .inl ⟨fun _ => ⟨error, rfl⟩, asked⟩
    | ok s' =>
        refine .inr ⟨s', rfl, rfl, ?_⟩
        exact List.getElem?_set_self (List.getElem?_eq_some_iff.mp asked).1
  · refine .inl ⟨fun equal => absurd equal same, ?_⟩
    rw [change]
    split
    · exact asked
    · split
      · exact asked
      · exact (List.getElem?_set_ne same).trans asked

/-- A change of one variable of one solution is made there, if its index is in range,
and nowhere else. -/
theorem getElem?_modified (asked : solutions[number]? = some s) (changed : Nat) (index : Int)
    (update : Bool → Bool) {next : Solution → Except Error Solution}
    (updates : ∀ t, next t = do
      let i ← t.position index
      return ⟨t.bits.modify i update⟩) :
    ∃ s', (change solutions changed next).2[number]? = some s' ∧ s'.length = s.length ∧
      ∀ i : Nat, s'.bits[i]? = s.bits[i]?.map fun before =>
        if changed = number ∧ index = i then update before else before := by
  rcases getElem?_change asked changed next with ⟨refused, kept⟩ | ⟨s', same, outcome, replaced⟩
  · refine ⟨s, kept, rfl, ?_⟩
    intro i
    by_cases named : changed = number ∧ index = i
    · rcases refused named.1 with ⟨error, failed⟩
      have beyond : s.bits[i]? = none := by
        rw [updates, Solution.position] at failed
        split at failed
        · contradiction
        · rename_i outside
          rw [Solution.length] at outside
          rw [List.getElem?_eq_none_iff]
          omega
      rw [beyond]
      rfl
    · simp [named]
  · rw [updates] at outcome
    rcases bind_eq_ok_iff.mp outcome with ⟨i, found, made⟩
    obtain rfl := Except.ok.inj made
    obtain rfl := (position_lt found).2
    refine ⟨_, replaced, by simp [Solution.length], ?_⟩
    intro j
    rw [List.getElem?_modify]
    simp only [same, true_and, Int.ofNat_inj, Option.map_eq_map]

/-- A request changes at most the one variable that it names. -/
theorem getElem?_apply (asked : solutions[number]? = some s) (request : Request) :
    ∃ s', (request.apply solutions).2[number]? = some s' ∧ s'.length = s.length ∧
      ∀ i : Nat, s'.bits[i]? = s.bits[i]?.map (request.valueAfter number i) := by
  have same : ∀ i : Nat, s.bits[i]? = s.bits[i]?.map id := fun i =>
    (congrFun Option.map_id s.bits[i]?).symm
  cases request with
  | new n => exact ⟨s, getElem?_keep asked _, rfl, same⟩
  | fromBools values => exact ⟨s, getElem?_keep asked _, rfl, same⟩
  | fromInts values => exact ⟨s, getElem?_keep asked _, rfl, same⟩
  | parse text => exact ⟨s, getElem?_keep asked _, rfl, same⟩
  | copy other => exact ⟨s, getElem?_keep asked _, rfl, same⟩
  | get other index => exact ⟨s, asked, rfl, same⟩
  | set changed index value =>
      refine getElem?_modified asked changed index (fun _ => value) ?_
      intro t
      simp [Solution.set, List.set_eq_modify]
  | flip changed index => exact getElem?_modified asked changed index not fun _ => rfl

end Request

namespace Store

variable {library : BitSets β} {store : Store β}

/-- A request keeps a new solution, changes one, or changes nothing. -/
theorem perform_cases (library : BitSets β) (store : Store β) (request : Request) :
    (∃ built, store.perform library request = store.keep built) ∨
      (∃ number next, store.perform library request = store.change number next) ∨
      ∃ answer, store.perform library request = (answer, store) := by
  cases request with
  | new n => exact .inl ⟨_, rfl⟩
  | fromBools values => exact .inl ⟨.ok (.ofBools library values), rfl⟩
  | fromInts values => exact .inl ⟨.ok (.ofInts library values), rfl⟩
  | parse text => exact .inl ⟨_, rfl⟩
  | copy number => exact .inl ⟨_, rfl⟩
  | set number index value => exact .inr (.inl ⟨number, _, rfl⟩)
  | flip number index => exact .inr (.inl ⟨number, _, rfl⟩)
  | get number index => exact .inr (.inr ⟨_, rfl⟩)

theorem keep_of_error {built : Except Fault (Stored β)} {fault : Fault}
    (failed : (store.keep built).1 = .error fault) : (store.keep built).2 = store := by
  cases built with
  | error _ => rfl
  | ok stored => contradiction

theorem change_of_error {number : Nat} {next : Stored β → Except Error β} {fault : Fault}
    (failed : (store.change number next).1 = .error fault) :
    (store.change number next).2 = store := by
  unfold change at failed ⊢
  split at failed
  · split at failed
    · rfl
    · contradiction
  · rfl

/-- A request that fails changes nothing anywhere. -/
theorem perform_of_error {request : Request} {fault : Fault}
    (failed : (store.perform library request).1 = .error fault) :
    (store.perform library request).2 = store := by
  rcases perform_cases library store request with
    ⟨built, same⟩ | ⟨number, next, same⟩ | ⟨answer, same⟩
  · rw [same] at failed ⊢
    exact keep_of_error failed
  · rw [same] at failed ⊢
    exact change_of_error failed
  · rw [same]

theorem change_answer {number : Nat} {stored : Stored β}
    (found : store.stored? number = some stored) (next : Stored β → Except Error β) :
    (store.change number next).1 = (report (next stored)).map fun _ => .changed := by
  rcases stored?_eq_some_iff.mp found with ⟨handle, held, _⟩
  rw [change, held, found]
  dsimp only
  cases next stored with
  | error error => rfl
  | ok set => rfl

/-- Whether a request about a solution succeeds depends on its index alone. -/
theorem perform_target {request : Request} {number : Nat} {index : Int} {stored : Stored β}
    (target : request.target? = some (number, index))
    (found : store.stored? number = some stored) :
    ∃ answer : Nat → Answer, (store.perform library request).1 =
      (report (stored.position index)).map answer := by
  cases request with
  | set changed i value =>
      obtain ⟨rfl, rfl⟩ := Prod.mk.inj (Option.some.inj target)
      refine ⟨fun _ => .changed, ?_⟩
      rw [perform, change_answer found, Stored.assign]
      cases stored.position i with
      | error error => rfl
      | ok position => rfl
  | flip changed i =>
      obtain ⟨rfl, rfl⟩ := Prod.mk.inj (Option.some.inj target)
      refine ⟨fun _ => .changed, ?_⟩
      rw [perform, change_answer found, Stored.invert]
      cases stored.position i with
      | error error => rfl
      | ok position => rfl
  | get asked i =>
      obtain ⟨rfl, rfl⟩ := Prod.mk.inj (Option.some.inj target)
      refine ⟨fun position => .value (library.contains stored.set position), ?_⟩
      rw [perform, found]
      simp only [present_some, ok_bind, Stored.get]
      cases stored.position i with
      | error error => rfl
      | ok position => rfl
  | _ => contradiction

theorem handles_keep (built : Except Fault (Stored β)) :
    store.handles <+: (store.keep built).2.handles := by
  cases built with
  | error fault => exact List.prefix_refl _
  | ok stored => exact List.prefix_append _ _

theorem handles_change (number : Nat) (next : Stored β → Except Error β) :
    (store.change number next).2.handles = store.handles := by
  unfold change
  split
  · split
    · rfl
    · rfl
  · rfl

/-- The length of a solution and the place of its set are never changed. -/
theorem handles_perform (request : Request) :
    store.handles <+: (store.perform library request).2.handles := by
  rcases perform_cases library store request with
    ⟨built, same⟩ | ⟨number, next, same⟩ | ⟨answer, same⟩
  · rw [same]
    exact handles_keep built
  · rw [same, handles_change]
  · rw [same]

theorem handles_performAll (requests : List Request) :
    store.handles <+: (store.performAll library requests).2.handles := by
  induction requests generalizing store with
  | nil => exact List.prefix_refl _
  | cons request requests ih => exact (handles_perform request).trans ih

end Store

/-! ## Stores refine independent bit vectors -/

/-- A request does to the solutions of a store what it names, and nothing else. -/
structure Store.Obeys (library : BitSets β) (store : Store β) (request : Request) : Prop where
  /-- Every solution keeps its length, and all values but the one that is named. -/
  values : ∀ {number stored}, store.stored? number = some stored →
    ∃ next, (store.perform library request).2.stored? number = some next ∧
      next.length = stored.length ∧
      ∀ i : Nat, (next.bools library)[i]? =
        (stored.bools library)[i]?.map (request.valueAfter number i)
  inside : ∀ {number index stored}, request.target? = some (number, index) →
    store.stored? number = some stored → 0 ≤ index → index < stored.length →
    ∃ answer, (store.perform library request).1 = .ok answer
  outside : ∀ {number index stored}, request.target? = some (number, index) →
    store.stored? number = some stored → ¬ (0 ≤ index ∧ index < stored.length) →
    store.perform library request =
      (.error (.rejected (.of (.indexOutOfRange index stored.length))), store)

section Refinement

variable {library : BitSets β} {length : β → Nat} {members : β → Finset Nat}
  (lawful : library.Lawful length members)
include lawful

theorem Store.Represents.obeys {store : Store β} {solutions : List Solution}
    (represents : store.Represents length members solutions) (request : Request) :
    store.Obeys library request where
  values := by
    intro number stored found
    rcases represents.exists_holds found with ⟨s, asked, holds⟩
    rcases Request.getElem?_apply asked request with ⟨s', askedNext, width, values⟩
    rcases (represents.perform lawful request).2.held askedNext with
      ⟨next, foundNext, holdsNext⟩
    refine ⟨next, foundNext, ?_, ?_⟩
    · rw [holdsNext.width, width, holds.width]
    · rwa [holdsNext.bools_eq lawful, holds.bools_eq lawful]
  inside := by
    intro number index stored target found nonnegative below
    rcases Store.perform_target target found with ⟨answer, answered⟩
    exact ⟨answer index.toNat, by rw [answered, Stored.position, if_pos ⟨nonnegative, below⟩]; rfl⟩
  outside := by
    intro number index stored target found beyond
    rcases Store.perform_target target found with ⟨answer, answered⟩
    rw [Stored.position, if_neg beyond] at answered
    exact Prod.ext answered (Store.perform_of_error answered)

/-- Whatever was asked before, a store answers like a list of solutions that share
nothing and holds their values.  All ways of looking at a stored solution agree, and
two of them are equal exactly if their lengths and values are.  The length of a solution
never changes, and the next request changes at most the variable that it names, if its
index is in range. -/
theorem Store.performAll_refines_vectors (requests : List Request) :
    ∃ answers store solutions,
      Store.empty.performAll library requests = (answers, store) ∧
      Request.applyAll [] requests = (answers, solutions) ∧
      (∀ number, (store.stored? number).map (Stored.bools library) =
        solutions[number]?.map Solution.bits) ∧
      (∀ {number stored}, store.stored? number = some stored → stored.Coherent library) ∧
      (∀ {number stored second other}, store.stored? number = some stored →
        store.stored? second = some other →
        (stored.equal library other = true ↔
          stored.length = other.length ∧ stored.bools library = other.bools library)) ∧
      (∀ later, store.handles <+: (store.performAll library later).2.handles) ∧
      ∀ request, store.Obeys library request := by
  rcases Represents.performAll Represents.of_empty lawful requests with ⟨answers, represents⟩
  refine ⟨_, _, _, rfl, Prod.ext answers.symm rfl, ?_, ?_, ?_, handles_performAll,
    represents.obeys lawful⟩
  · intro number
    rcases represents.lookup number with ⟨asked, _, free⟩ | ⟨s, stored, _, asked, _, found, holds⟩
    · rw [asked, free]
      rfl
    · rw [asked, found, Option.map_some, Option.map_some, holds.bools_eq lawful]
  · intro number stored found
    rcases represents.exists_holds found with ⟨s, _, holds⟩
    exact holds.coherent lawful
  · intro number stored second other found foundOther
    rcases represents.exists_holds found with ⟨s, _, holds⟩
    rcases represents.exists_holds foundOther with ⟨t, _, holdsOther⟩
    exact holds.equal_iff lawful holdsOther

end Refinement

/-- Bit sets that are just a length and a set of indices. -/
def BitSets.plain : BitSets (Nat × Finset Nat) where
  create n := (n, ∅)
  put set i := (max set.1 (i + 1), insert i set.2)
  assign set i value :=
    if value then (max set.1 (i + 1), insert i set.2) else (set.1, set.2.erase i)
  invert set i :=
    (max set.1 (i + 1), if i ∈ set.2 then set.2.erase i else insert i set.2)
  clone set := set
  contains set i := decide (i ∈ set.2)
  count set := set.2.card
  equal set other := decide (set = other)

theorem BitSets.plain_lawful : BitSets.plain.Lawful Prod.fst Prod.snd where
  length_create _ := rfl
  members_create _ := rfl
  length_put _ _ := rfl
  members_put _ _ := rfl
  length_assign set i value := by cases value <;> rfl
  members_assign set i value := by cases value <;> rfl
  length_invert _ _ := rfl
  members_invert _ _ := rfl
  length_clone _ := rfl
  members_clone _ := rfl
  contains_iff _ _ := decide_eq_true_iff
  count_eq _ := rfl
  equal_iff _ _ := decide_eq_true_iff.trans Prod.ext_iff

/-- A copy and its original are changed apart, and an index out of range is refused. -/
theorem Store.performAll_refines_vectors_copy :
    ∃ store, Store.empty.performAll BitSets.plain
        [.fromBools [false, true, true], .copy 0, .flip 1 0, .set 0 1 false, .set 1 3 true,
          .get 1 1] =
      ([.ok (.made 0), .ok (.made 1), .ok .changed, .ok .changed,
        .error (.rejected (.of (.indexOutOfRange 3 3))), .ok (.value true)], store) ∧
      (store.stored? 0).map (Stored.bools .plain) = some [false, false, true] ∧
      (store.stored? 1).map (Stored.bools .plain) = some [true, true, true] := by
  rcases performAll_refines_vectors BitSets.plain_lawful
    [.fromBools [false, true, true], .copy 0, .flip 1 0, .set 0 1 false, .set 1 3 true, .get 1 1]
    with ⟨answers, store, solutions, performed, applied, values, _⟩
  obtain ⟨rfl, rfl⟩ := Prod.mk.inj applied
  exact ⟨store, performed, values 0, values 1⟩

end Ascent.Storage
