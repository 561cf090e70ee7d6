import Ascent.Proofs.Climb.Loop
import Ascent.Proofs.Solution.Storage

/-!
# The neighbors are the sphere around a solution

The neighbors of a solution are all solutions of its length that differ from it in exactly
one variable, each of them once, at the index of that variable.  This is a symmetric
relation between a solution, a neighbor and an index.

In memory the neighbors are made from copies that are inverted in place.  No inversion has
an index out of range, and only the copies are changed: the solution itself, and whatever
else is stored, is as before.
-/

namespace Ascent

namespace Solution

variable {s t : Solution} {k : Nat}

/-! ## Differing in one variable -/

/-- Two solutions do not give a variable the same value. -/
def Differ (s t : Solution) (i : Nat) : Prop :=
  s.bits[i]? ≠ t.bits[i]?

/-- Two solutions of one length differ in this variable and in no other. -/
structure DifferOnlyAt (s t : Solution) (k : Nat) : Prop where
  length : t.length = s.length
  differ_iff : ∀ i, s.Differ t i ↔ i = k

theorem DifferOnlyAt.symm (only : s.DifferOnlyAt t k) : t.DifferOnlyAt s k where
  length := only.length.symm
  differ_iff i := ne_comm.trans (only.differ_iff i)

/-- The variable in which two solutions differ is one of theirs. -/
theorem DifferOnlyAt.lt_length (only : s.DifferOnlyAt t k) : k < s.length := by
  by_contra beyond
  have outside : s.bits.length ≤ k := Nat.le_of_not_lt beyond
  have outsideOther : t.bits.length ≤ k := Nat.le_trans (Nat.le_of_eq only.length) outside
  apply (only.differ_iff k).mpr rfl
  rw [List.getElem?_eq_none outside, List.getElem?_eq_none outsideOther]

theorem differOnlyAt_flipped (inside : k < s.length) : s.DifferOnlyAt (s.flipped k) k where
  length := length_flipped s k
  differ_iff := by
    intro i
    rw [Differ, flipped, List.getElem?_modify]
    by_cases same : k = i
    · subst same
      have value := List.getElem?_eq_getElem inside
      simp [value]
    · simp [same, Ne.symm same]

/-- Only the inverted solution differs in one variable alone. -/
theorem DifferOnlyAt.eq_flipped (only : s.DifferOnlyAt t k) : s.flipped k = t := by
  apply Solution.ext
  apply List.ext_getElem?
  intro i
  rw [flipped, List.getElem?_modify]
  by_cases same : k = i
  · subst same
    have inside : k < s.bits.length := only.lt_length
    have insideOther : k < t.bits.length := Nat.lt_of_lt_of_eq inside only.length.symm
    have differ := (only.differ_iff k).mpr rfl
    rw [Differ, List.getElem?_eq_getElem inside, List.getElem?_eq_getElem insideOther] at differ
    have opposite : t.bits[k] = !s.bits[k] :=
      Bool.eq_not_of_ne fun equal => differ (congrArg some equal.symm)
    simp [List.getElem?_eq_getElem inside, List.getElem?_eq_getElem insideOther, opposite]
  · have equal := not_not.mp (mt (only.differ_iff i).mp (Ne.symm same))
    simpa [same] using equal

/-- A solution is the neighbor with an index exactly if it differs there alone. -/
theorem getElem?_neighbors_iff_differ : s.neighbors[k]? = some t ↔ s.DifferOnlyAt t k := by
  rw [getElem?_neighbors_eq_some_iff]
  constructor
  · rintro ⟨inside, rfl⟩
    exact differOnlyAt_flipped inside
  · intro only
    exact ⟨only.lt_length, only.eq_flipped⟩

/-! ## The sphere -/

/-- The solutions that differ from a solution in exactly one variable, each once and at
the index of this variable. -/
structure Sphere (s : Solution) (hood : List Solution) : Prop where
  length : hood.length = s.length
  nodup : hood.Nodup
  away : s ∉ hood
  mem_iff : ∀ t, t.length = s.length → (t ∈ hood ↔ ∃! i, s.Differ t i)
  getElem?_iff : ∀ t k, hood[k]? = some t ↔ s.DifferOnlyAt t k

theorem sphere_neighbors (s : Solution) : s.Sphere s.neighbors where
  length := length_neighbors s
  nodup := by
    rw [List.nodup_iff_getElem?_ne_getElem?]
    intro i j before inside same
    have insideLate : j < s.length := by simpa using inside
    rw [getElem?_neighbors insideLate, getElem?_neighbors_iff_differ] at same
    have late := differOnlyAt_flipped insideLate
    exact absurd ((late.differ_iff i).mp ((same.differ_iff i).mpr rfl)) before.ne
  away := by
    intro member
    rcases List.mem_iff_getElem?.mp member with ⟨k, found⟩
    exact ((getElem?_neighbors_iff_differ.mp found).differ_iff k).mpr rfl rfl
  mem_iff := by
    intro t sameLength
    rw [List.mem_iff_getElem?]
    constructor
    · rintro ⟨k, found⟩
      have only := getElem?_neighbors_iff_differ.mp found
      exact ⟨k, (only.differ_iff k).mpr rfl, fun i => (only.differ_iff i).mp⟩
    · rintro ⟨k, differ, unique⟩
      refine ⟨k, getElem?_neighbors_iff_differ.mpr ⟨sameLength, ?_⟩⟩
      intro i
      exact ⟨unique i, fun same => same ▸ differ⟩
  getElem?_iff := fun _ _ => getElem?_neighbors_iff_differ

end Solution

/-! ## Neighbors in memory -/

namespace Storage

variable {β : Type} {library : BitSets β} {length : β → Nat} {members : β → Finset Nat}
  {store : Store β} {solutions : List Solution} {number : Nat} {s : Solution}

namespace Store.Represents

/-- A branch is one more solution, and the others are as before. -/
theorem branch (represents : store.Represents length members solutions)
    (lawful : library.Lawful length members) (asked : solutions[number]? = some s) {k : Nat}
    (inside : k < s.length) :
    ∃ next, store.branch library number k = .ok (solutions.length, next) ∧
      next.Represents length members (solutions ++ [s.flipped k]) := by
  have copied : (Request.copy number).apply solutions =
      (.ok (.made solutions.length), solutions ++ [s]) := by
    rw [Request.apply, asked]
    rfl
  have inverted : (Request.flip solutions.length k).apply (solutions ++ [s]) =
      (.ok .changed, solutions ++ [s.flipped k]) := by
    simp [Request.apply, Request.change, Climb.flip_eq_flipped inside]
  rcases represents.perform lawful (.copy number) with ⟨made, represents'⟩
  rw [copied] at made represents'
  rcases represents'.perform lawful (.flip solutions.length k) with ⟨changed, next⟩
  rw [inverted] at changed next
  refine ⟨_, ?_, next⟩
  rw [Store.branch, represents.count]
  dsimp only
  rw [made, changed]
  rfl

/-- Branches are added in their order. -/
theorem branchAll (represents : store.Represents length members solutions)
    (lawful : library.Lawful length members) (asked : solutions[number]? = some s)
    {positions : List Nat} (inside : ∀ k ∈ positions, k < s.length) :
    ∃ last, store.branchAll library number positions =
        .ok (List.range' solutions.length positions.length, last) ∧
      last.Represents length members (solutions ++ positions.map s.flipped) := by
  induction positions generalizing store solutions with
  | nil => exact ⟨store, rfl, by simpa using represents⟩
  | cons k rest ih =>
      rw [List.forall_mem_cons] at inside
      rcases represents.branch lawful asked inside.1 with ⟨next, branched, represents'⟩
      have askedNext : (solutions ++ [s.flipped k])[number]? = some s := by
        rw [List.getElem?_append_left (List.getElem?_eq_some_iff.mp asked).1, asked]
      rcases ih represents' askedNext inside.2 with ⟨last, others, representsLast⟩
      refine ⟨last, ?_, by simpa using representsLast⟩
      simp [Store.branchAll, branched, others, List.range'_succ]

/-- The neighbors are made behind all solutions that there are. -/
theorem generate (represents : store.Represents length members solutions)
    (lawful : library.Lawful length members) (asked : solutions[number]? = some s) :
    ∃ last, store.generate library number =
        .ok (List.range' solutions.length s.length, last) ∧
      last.Represents length members (solutions ++ s.neighbors) := by
  rcases represents.held asked with ⟨stored, found, holds⟩
  rcases represents.branchAll lawful asked (fun k => List.mem_range.mp) with
    ⟨last, branched, representsLast⟩
  refine ⟨last, ?_, representsLast⟩
  rw [Store.generate, found, present_some, ok_bind, holds.width, branched, List.length_range]

/-- The values under a number are those of the solution that it belongs to. -/
theorem bools_eq (represents : store.Represents length members solutions)
    (lawful : library.Lawful length members) (number : Nat) :
    (store.stored? number).map (Stored.bools library) = solutions[number]?.map Solution.bits := by
  rcases represents.lookup number with ⟨asked, _, free⟩ | ⟨s, stored, _, asked, _, found, holds⟩
  · rw [asked, free]
    rfl
  · rw [asked, found, Option.map_some, Option.map_some, holds.bools_eq lawful]

end Store.Represents

/-- Behind the solutions of a store, which are as before, there are now the neighbors of
one of them.  No two solutions refer to the same cell. -/
structure Store.Surrounds (library : BitSets β) (store : Store β) (number : Nat)
    (hood : List Solution) (last : Store β) : Prop where
  generated : store.generate library number =
    .ok (List.range' store.handles.length hood.length, last)
  kept : ∀ i < store.handles.length,
    (last.stored? i).map (Stored.bools library) = (store.stored? i).map (Stored.bools library)
  added : ∀ {k t}, hood[k]? = some t →
    (last.stored? (store.handles.length + k)).map (Stored.bools library) = some t.bits
  unshared : last.Unshared

theorem Store.Represents.surrounds (represents : store.Represents length members solutions)
    (lawful : library.Lawful length members) (asked : solutions[number]? = some s) :
    ∃ last, store.Surrounds library number s.neighbors last := by
  rcases represents.generate lawful asked with ⟨last, generated, representsLast⟩
  refine ⟨last, ?_, ?_, ?_, representsLast.unshared⟩
  · rw [generated, represents.count, Solution.length_neighbors]
  · intro i before
    rw [represents.count] at before
    rw [representsLast.bools_eq lawful, represents.bools_eq lawful,
      List.getElem?_append_left before]
  · intro k t found
    rw [representsLast.bools_eq lawful, represents.count,
      List.getElem?_append_right (Nat.le_add_right _ k), Nat.add_sub_cancel_left, found]
    rfl

end Storage

open Storage (BitSets Store Stored Request)

/-- Making the neighbors of a solution succeeds and gives the sphere around it: every
solution that differs from it in exactly one variable, once, at the index of this
variable.  A solution is among the neighbors of its neighbors at the same index.  In
memory, whatever was asked before, making the neighbors of a stored solution succeeds as
well, and leaves it and all others as they are. -/
theorem Solution.generate_enumerates_sphere (s : Solution) :
    ∃ hood, s.generate = .ok hood ∧ s.Sphere hood ∧
      (∀ t : Solution, ∃ others, t.generate = .ok others ∧
        ∀ k : Nat, hood[k]? = some t ↔ others[k]? = some s) ∧
      ∀ {β : Type} {library : BitSets β} {length : β → Nat} {members : β → Finset Nat},
        library.Lawful length members →
        ∀ (requests : List Request) (number : Nat)
          {answers : List (Except Fault Storage.Answer)} {store : Store β} {stored : Stored β},
          Store.empty.performAll library requests = (answers, store) →
          store.stored? number = some stored → stored.bools library = s.bits →
          ∃ last, store.Surrounds library number hood last := by
  refine ⟨s.neighbors, Climb.generate_eq s, sphere_neighbors s, ?_, ?_⟩
  · intro t
    refine ⟨t.neighbors, Climb.generate_eq t, ?_⟩
    intro k
    rw [getElem?_neighbors_iff_differ, getElem?_neighbors_iff_differ]
    exact ⟨DifferOnlyAt.symm, DifferOnlyAt.symm⟩
  · intro β library length members lawful requests number answers store stored performed found
      values
    have represents := (Store.Represents.performAll Store.Represents.of_empty lawful requests).2
    rw [performed] at represents
    rcases represents.exists_holds found with ⟨t, asked, holds⟩
    obtain rfl : t = s := Solution.ext ((holds.bools_eq lawful).symm.trans values)
    exact represents.surrounds lawful asked

/-- The solution `100` is not changed while its three neighbors are made. -/
theorem Solution.generate_enumerates_sphere_three :
    (Solution.ofInts [1, 0, 0]).generate =
      .ok [.ofInts [0, 0, 0], .ofInts [1, 1, 0], .ofInts [1, 0, 1]] ∧
    (∃! i, (Solution.ofInts [1, 0, 0]).Differ (.ofInts [1, 0, 1]) i) ∧
    ∃ last, (Store.empty.performAll .plain [.fromInts [1, 0, 0]]).2.generate .plain 0 =
        .ok ([1, 2, 3], last) ∧
      (last.stored? 0).map (Stored.bools .plain) = some [true, false, false] ∧
      (last.stored? 3).map (Stored.bools .plain) = some [true, false, true] := by
  rcases generate_enumerates_sphere (.ofInts [1, 0, 0]) with
    ⟨hood, generated, sphere, _, stored⟩
  obtain rfl : [.ofInts [0, 0, 0], .ofInts [1, 1, 0], .ofInts [1, 0, 1]] = hood :=
    Except.ok.inj generated
  rcases stored BitSets.plain_lawful [.fromInts [1, 0, 0]] 0 rfl rfl rfl with ⟨last, surrounds⟩
  have differ := (sphere.mem_iff (.ofInts [1, 0, 1]) rfl).mp (by simp)
  have third := surrounds.added (k := 2) rfl
  exact ⟨generated, differ, last, surrounds.generated, surrounds.kept 0 (by decide), third⟩

end Ascent
