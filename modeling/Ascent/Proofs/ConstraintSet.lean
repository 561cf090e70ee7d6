import Ascent.Proofs.Evaluation

/-!
# Checking constraints in order

A set of constraints is checked from the front, and the check stops at the first member
that objects: one that has another width than the solution, or one that the solution
violates.  This member alone decides the outcome.  What comes behind it is not looked at,
so a violation hides a wrong width further on, and the other way round.

If all members have the solution's width, only violations are left.  The outcome is then
the conjunction of what the members say, in whatever order and however often they stand in
the set.
-/

namespace Ascent

namespace Constraint

/-- A constraint that was built, with weights and a comparison. -/
def Built (c : Constraint) : Prop :=
  ∃ weights operator threshold, make weights operator threshold = .ok c

/-- A constraint of another width than the solution, or one that it violates. -/
def Objects (c : Constraint) (s : Solution) : Prop :=
  s.length ≠ c.length ∨ c.isFeasible s = .ok false

theorem Built.exists_operator {c : Constraint} (built : c.Built) :
    ∃ operator, c.operator = some operator := by
  rcases built with ⟨weights, operator, threshold, made⟩
  obtain rfl := (make_eq_ok_iff.mp made).2
  exact ⟨operator, rfl⟩

theorem Built.isFeasible_eq_accepts {c : Constraint} {s : Solution} (built : c.Built)
    (width : s.length = c.length) : c.isFeasible s = .ok (c.accepts s) := by
  rcases built.exists_operator with ⟨operator, compares⟩
  exact Constraint.isFeasible_eq_accepts compares width

/-- A constraint that does not object accepts the solution. -/
theorem Built.isFeasible_of_not_objects {c : Constraint} {s : Solution} (built : c.Built)
    (silent : ¬ c.Objects s) : c.isFeasible s = .ok true := by
  rcases not_or.mp silent with ⟨width, kept⟩
  rw [built.isFeasible_eq_accepts (Decidable.not_not.mp width)] at kept ⊢
  cases accepted : c.accepts s with
  | false => exact absurd (congrArg Except.ok accepted) kept
  | true => rfl

/-- A constraint that accepts the solution does not object. -/
theorem not_objects_of_isFeasible {c : Constraint} {s : Solution}
    (accepted : c.isFeasible s = .ok true) : ¬ c.Objects s := by
  rintro (differs | violated)
  · exact differs (accepts_of_isFeasible accepted).1
  · simp [accepted] at violated

end Constraint

namespace ConstraintSet

variable {members : List Constraint} {s : Solution}

/-! ## The first objection -/

/-- Member `j` objects, and no member before it does. -/
structure FirstObjection (members : List Constraint) (s : Solution) (j : Nat) (c : Constraint) :
    Prop where
  here : members[j]? = some c
  objects : c.Objects s
  earlier : ∀ i d, i < j → members[i]? = some d → ¬ d.Objects s

/-- A first objection is made by the first member, or it is the first one behind it. -/
theorem FirstObjection.cons_cases {c d : Constraint} {rest : List Constraint} {j : Nat}
    (first : FirstObjection (d :: rest) s j c) :
    (j = 0 ∧ c = d) ∨ (¬ d.Objects s ∧ ∃ i, j = i + 1 ∧ FirstObjection rest s i c) := by
  cases j with
  | zero =>
      have same : d = c := by simpa using first.here
      exact .inl ⟨rfl, same.symm⟩
  | succ i =>
      refine .inr ⟨first.earlier 0 d (Nat.succ_pos i) rfl, i, rfl, ?_, first.objects, ?_⟩
      · simpa using first.here
      · intro k e before found
        exact first.earlier (k + 1) e (Nat.succ_lt_succ before) (by simpa using found)

/-- What a first objection by member `j` makes of the check. -/
def objection (s : Solution) (j : Nat) (c : Constraint) : Except Fault Bool :=
  if s.length = c.length then .ok false
  else .error (.rejected ⟨[.member j, .constraint], .solutionWidth s.length c.length⟩)

/-- The check of a member that objects ends with its objection. -/
theorem feasibleFrom_cons_of_objects {c : Constraint} {rest : List Constraint}
    (objects : c.Objects s) (index : Nat) :
    feasibleFrom s index (c :: rest) = objection s index c := by
  rw [feasibleFrom, objection]
  by_cases width : s.length = c.length
  · have violated := objects.resolve_left (Decidable.not_not.mpr width)
    rw [violated, if_pos width]
  · rw [Constraint.isFeasible_of_length_ne width, if_neg width]
    rfl

/-- The first objection decides. -/
theorem FirstObjection.feasibleFrom_eq {j : Nat} {c : Constraint}
    (first : FirstObjection members s j c) (built : ∀ d ∈ members, d.Built) (index : Nat) :
    feasibleFrom s index members = objection s (index + j) c := by
  induction members generalizing index j with
  | nil => simpa using first.here
  | cons d rest ih =>
      rw [List.forall_mem_cons] at built
      rcases first.cons_cases with ⟨rfl, rfl⟩ | ⟨silent, i, rfl, later⟩
      · exact feasibleFrom_cons_of_objects first.objects index
      · rw [feasibleFrom, built.1.isFeasible_of_not_objects silent, ← Nat.add_assoc,
          Nat.add_right_comm]
        exact ih later built.2 (index + 1)

/-! ## Conjunctions -/

/-- A set accepts exactly what all its members accept. -/
theorem feasibleFrom_eq_true_iff {index : Nat} :
    feasibleFrom s index members = .ok true ↔ ∀ c ∈ members, c.isFeasible s = .ok true := by
  induction members generalizing index with
  | nil => simp [feasibleFrom]
  | cons c rest ih =>
      rw [feasibleFrom, List.forall_mem_cons]
      cases outcome : c.isFeasible s with
      | error fault => simp
      | ok accepted =>
          cases accepted with
          | false => simp
          | true => simp [ih]

/-- Order and repetition do not matter to constraints that can all be evaluated. -/
theorem feasibleFrom_eq_of_mem_iff {others : List Constraint}
    (compare : ∀ c ∈ members, ∃ operator, c.operator = some operator)
    (widths : ∀ c ∈ members, s.length = c.length) (same : ∀ c, c ∈ others ↔ c ∈ members)
    (index : Nat) : feasibleFrom s index others = feasibleFrom s index members := by
  have compareOthers := fun c (member : c ∈ others) => compare c ((same c).mp member)
  have widthsOthers := fun c (member : c ∈ others) => widths c ((same c).mp member)
  rw [feasibleFrom_eq_all compareOthers widthsOthers, feasibleFrom_eq_all compare widths,
    Except.ok.injEq, Bool.eq_iff_iff, List.all_eq_true, List.all_eq_true]
  simp only [same]

/-- A violation found is found whatever comes behind. -/
theorem feasibleFrom_append_of_false {index : Nat} (later : List Constraint)
    (violated : feasibleFrom s index members = .ok false) :
    feasibleFrom s index (members ++ later) = .ok false := by
  induction members generalizing index with
  | nil => simp [feasibleFrom] at violated
  | cons c rest ih =>
      rw [feasibleFrom] at violated
      rw [List.cons_append, feasibleFrom]
      cases outcome : c.isFeasible s with
      | error fault => simp [outcome] at violated
      | ok accepted =>
          cases accepted with
          | false => rfl
          | true => exact ih (by simpa [outcome] using violated)

/-- A set is decided by its first objection: `false` if that member is violated, and the
error that names it if its width is another one.  Without an objection the solution is
accepted.  If all widths match, every member has a verdict, their conjunction decides, and
any set with the same members, in another order or repeated, decides alike.  Whatever the
widths are, one more member makes no solution feasible, and behind a violation it changes
nothing. -/
theorem allows_first_objection (cs? : Option ConstraintSet) (s : Solution)
    (built : ∀ c ∈ listed cs?, c.Built) :
    ((∀ c ∈ listed cs?, ¬ c.Objects s) → allows s cs? = .ok true) ∧
    (∀ j c, FirstObjection (listed cs?) s j c →
      (s.length = c.length → allows s cs? = .ok false) ∧
      (s.length ≠ c.length → allows s cs? =
        .error (.rejected ⟨[.member j, .constraint], .solutionWidth s.length c.length⟩))) ∧
    ((∀ c ∈ listed cs?, s.length = c.length) →
      (∀ c ∈ listed cs?, c.isFeasible s = .ok (c.accepts s)) ∧
      allows s cs? = .ok ((listed cs?).all fun c => c.accepts s) ∧
      ∀ other?, (∀ c, c ∈ listed other? ↔ c ∈ listed cs?) → allows s other? = allows s cs?) ∧
    (∀ before c after, listed cs? = before ++ after →
      allows s (some ⟨before ++ c :: after⟩) = .ok true → allows s cs? = .ok true) ∧
    (∀ cs ∈ cs?, ∀ c larger, cs.add (some c) = .ok larger →
      allows s cs? = .ok false → allows s (some larger) = .ok false) := by
  simp only [allows_eq]
  refine ⟨?_, ?_, ?_, ?_, ?_⟩
  · intro silent
    apply feasibleFrom_eq_true_iff.mpr
    intro c member
    exact (built c member).isFeasible_of_not_objects (silent c member)
  · intro j c first
    have decided := first.feasibleFrom_eq built 0
    rw [Nat.zero_add] at decided
    rw [decided, objection]
    exact ⟨fun width => if_pos width, fun differs => if_neg differs⟩
  · intro widths
    have compare := fun c member => (built c member).exists_operator
    refine ⟨?_, feasibleFrom_eq_all compare widths 0, ?_⟩
    · intro c member
      exact (built c member).isFeasible_eq_accepts (widths c member)
    · intro other? same
      exact feasibleFrom_eq_of_mem_iff compare widths same 0
  · intro before c after parts accepted
    rw [feasibleFrom_eq_true_iff] at accepted ⊢
    intro d member
    apply accepted d
    rw [parts, List.mem_append] at member
    exact List.mem_append.mpr (member.imp_right (List.mem_cons_of_mem c))
  · rintro cs ⟨⟩ c larger added violated
    obtain rfl := Except.ok.inj added
    exact feasibleFrom_append_of_false [c] violated

/-- At most two variables are true. -/
def modest : Constraint :=
  ⟨[1, 1, 1], some .lessOrEqual, 2⟩

/-- More than two variables are true. -/
def demanding : Constraint :=
  ⟨[1, 1, 1], some .greaterThan, 2⟩

/-- A constraint on two variables. -/
def narrow : Constraint :=
  ⟨[1, 1], some .lessThan, 9⟩

/-- Behind a member that accepts, one is violated and one too narrow; the one that comes
first decides. -/
theorem allows_first_objection_order :
    allows (.ofInts [1, 0, 1]) (some ⟨[modest, demanding, narrow]⟩) = .ok false ∧
    allows (.ofInts [1, 0, 1]) (some ⟨[modest, narrow, demanding]⟩) =
      .error (.rejected ⟨[.member 1, .constraint], .solutionWidth 3 2⟩) := by
  have built : modest.Built ∧ demanding.Built ∧ narrow.Built :=
    ⟨⟨[1, 1, 1], .lessOrEqual, 2, rfl⟩, ⟨[1, 1, 1], .greaterThan, 2, rfl⟩,
      ⟨[1, 1], .lessThan, 9, rfl⟩⟩
  have silent : ¬ modest.Objects (.ofInts [1, 0, 1]) :=
    Constraint.not_objects_of_isFeasible rfl
  have first : ∀ c d : Constraint, c.Objects (.ofInts [1, 0, 1]) →
      FirstObjection [modest, c, d] (.ofInts [1, 0, 1]) 1 c := by
    intro c d objects
    refine ⟨rfl, objects, ?_⟩
    intro i e before found
    obtain rfl : i = 0 := Nat.lt_one_iff.mp before
    obtain rfl := Option.some.inj found
    exact silent
  constructor
  · have decided := allows_first_objection (some ⟨[modest, demanding, narrow]⟩)
      (.ofInts [1, 0, 1]) (by simp [listed, built])
    exact (decided.2.1 1 demanding (first _ _ (.inr rfl))).1 rfl
  · have decided := allows_first_objection (some ⟨[modest, narrow, demanding]⟩)
      (.ofInts [1, 0, 1]) (by simp [listed, built])
    exact (decided.2.1 1 narrow (first _ _ (.inl (by decide)))).2 (by decide)

end ConstraintSet

end Ascent
