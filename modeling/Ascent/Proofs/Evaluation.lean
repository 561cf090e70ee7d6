import Ascent.Problem

/-!
# Evaluating a searchable problem

Evaluation can fail: an objective may be missing, a width may not match, a
constraint may have no comparison.  A problem that passed its check and whose
constraints were obtained in one of the ways that exist has none of these
defects.  On a solution of its width it is then described by two total
functions, `Problem.value` and `Problem.accepts`, and no later argument has to
look at a failure again.
-/

namespace Ascent

/-! ## Operations that succeed -/

@[simp]
theorem ok_bind {ε α β : Type} (value : α) (next : α → Except ε β) :
    ((Except.ok value : Except ε α) >>= next) = next value :=
  rfl

/-- A sequence succeeds exactly if both of its parts do. -/
theorem bind_eq_ok_iff {ε α β : Type} {first : Except ε α} {next : α → Except ε β} {result : β} :
    (first >>= next) = .ok result ↔ ∃ value, first = .ok value ∧ next value = .ok result := by
  cases first with
  | error error => simp [bind, Except.bind]
  | ok value => simp

theorem eq_ok_of_toOption {ε α : Type} {given : Except ε α} {value : α}
    (evaluated : given.toOption = some value) : given = .ok value := by
  cases given with
  | error error => cases evaluated
  | ok other => exact congrArg Except.ok (Option.some.inj evaluated)

@[simp]
theorem pure_eq_ok {ε α : Type} (value : α) : (pure value : Except ε α) = .ok value :=
  rfl

/-- What is done for all items succeeds exactly if it succeeds for each of them. -/
theorem forM_eq_ok_iff {ε α : Type} {items : List α} {f : α → Except ε Unit} :
    items.forM f = .ok () ↔ ∀ item ∈ items, f item = .ok () := by
  induction items with
  | nil => exact iff_of_true rfl (List.forall_mem_nil _)
  | cons item rest ih =>
      change (f item >>= fun _ => rest.forM f) = .ok () ↔ _
      rw [bind_eq_ok_iff, List.forall_mem_cons, ← ih]
      exact ⟨fun ⟨_, done⟩ => done, fun done => ⟨(), done⟩⟩

/-- What fails for items in one way only fails for all of them in this way, if at all. -/
theorem forM_cases {ε α : Type} {items : List α} {f : α → Except ε Unit} {error : ε}
    (each : ∀ item ∈ items, f item = .ok () ∨ f item = .error error) :
    items.forM f = .ok () ∨ items.forM f = .error error := by
  induction items with
  | nil => exact Or.inl rfl
  | cons item rest ih =>
      rcases List.forall_mem_cons.mp each with ⟨first, others⟩
      change (f item >>= fun _ => rest.forM f) = _ ∨ (f item >>= fun _ => rest.forM f) = _
      rcases first with done | failed
      · rw [done]
        exact ih others
      · rw [failed]
        exact Or.inr rfl

@[simp]
theorem report_ok {α : Type} (value : α) : report (.ok value) = .ok value :=
  rfl

@[simp]
theorem insist_ok {α : Type} (value : α) : insist (.ok value) = .ok value :=
  rfl

/-- Insisting adds and takes away no value. -/
theorem insist_eq_ok_iff {α : Type} {given : Except Fault α} {value : α} :
    insist given = .ok value ↔ given = .ok value := by
  cases given with
  | error fault => simp [insist]
  | ok other => rfl

@[simp]
theorem present_some {α : Type} (value : α) : present (some value) = .ok value :=
  rfl

/-! ## Constraints that can be obtained -/

namespace Constraint

/-- A constraint that a caller can hold: the blank one, or one that was built. -/
inductive Constructible : Constraint → Prop where
  | blank : Constructible .blank
  | built {weights : List Int64} {operator : Operator} {threshold : Int64} {c : Constraint}
      (made : Constraint.make weights operator threshold = .ok c) : Constructible c

theorem make_eq_ok_iff {weights : List Int64} {operator : Operator} {threshold : Int64}
    {c : Constraint} :
    Constraint.make weights operator threshold = .ok c ↔
      weights ≠ [] ∧ c = ⟨weights, some operator, threshold⟩ := by
  cases weights with
  | nil => simp [make]
  | cons weight weights =>
      simp only [make, List.isEmpty_cons, Bool.false_eq_true, if_false, Except.ok.injEq]
      constructor
      · rintro rfl
        exact ⟨List.cons_ne_nil _ _, rfl⟩
      · rintro ⟨_, rfl⟩
        rfl

/-- A constraint with a comparison can be obtained exactly if it has weights. -/
theorem constructible_iff {weights : List Int64} {operator : Operator} {threshold : Int64} :
    (⟨weights, some operator, threshold⟩ : Constraint).Constructible ↔ weights ≠ [] := by
  constructor
  · intro constructible
    cases constructible with
    | built made =>
        rcases make_eq_ok_iff.mp made with ⟨nonempty, same⟩
        rwa [(Constraint.mk.inj same).1]
  · intro nonempty
    exact .built (make_eq_ok_iff.mpr ⟨nonempty, rfl⟩)

/-- A constraint that a searchable problem with this width can have. -/
def Usable (width : Nat) (c : Constraint) : Prop :=
  c.length = width ∧ c.Constructible

/-- A constraint that can be obtained lacks a comparison only if it is blank. -/
theorem Constructible.exists_operator {c : Constraint} (constructible : c.Constructible)
    (nonempty : 0 < c.length) : ∃ operator, c.operator = some operator := by
  cases constructible with
  | blank => simp [length, Constraint.blank] at nonempty
  | built made =>
      rcases make_eq_ok_iff.mp made with ⟨_, rfl⟩
      exact ⟨_, rfl⟩

/-- Whether the comparison holds, without looking at widths. -/
def accepts (c : Constraint) (s : Solution) : Bool :=
  match c.operator with
  | some operator => operator.holds (weightedSum c.weights s.bits) c.threshold
  | none => false

theorem isFeasible_eq_accepts {c : Constraint} {s : Solution} {operator : Operator}
    (compares : c.operator = some operator) (width : s.length = c.length) :
    c.isFeasible s = .ok (c.accepts s) := by
  simp [isFeasible, value, accepts, compares, width]

theorem isFeasible_of_length_ne {c : Constraint} {s : Solution} (differs : s.length ≠ c.length) :
    c.isFeasible s =
      .error (.rejected ⟨[.constraint], .solutionWidth s.length c.length⟩) := by
  rw [isFeasible, value, if_neg differs]
  rfl

/-- A verdict is given at the right width only, and it is the comparison's. -/
theorem accepts_of_isFeasible {c : Constraint} {s : Solution} {verdict : Bool}
    (judged : c.isFeasible s = .ok verdict) : s.length = c.length ∧ c.accepts s = verdict := by
  by_cases width : s.length = c.length
  · cases compares : c.operator with
    | none => simp [isFeasible, value, width, compares] at judged
    | some operator =>
        rw [isFeasible_eq_accepts compares width] at judged
        exact ⟨width, Except.ok.inj judged⟩
  · rw [isFeasible_of_length_ne width] at judged
    contradiction

end Constraint

/-- Constraints with comparisons decide together every solution of their width. -/
theorem ConstraintSet.feasibleFrom_eq_all {s : Solution} {members : List Constraint}
    (compare : ∀ c ∈ members, ∃ operator, c.operator = some operator)
    (widths : ∀ c ∈ members, s.length = c.length) (index : Nat) :
    feasibleFrom s index members = .ok (members.all fun c => c.accepts s) := by
  induction members generalizing index with
  | nil => rfl
  | cons c rest ih =>
      rcases compare c List.mem_cons_self with ⟨operator, compares⟩
      have decided := Constraint.isFeasible_eq_accepts compares (widths c List.mem_cons_self)
      have restDecided := ih (fun d member => compare d (List.mem_cons_of_mem c member))
        (fun d member => widths d (List.mem_cons_of_mem c member)) (index + 1)
      rw [feasibleFrom, decided]
      cases accepted : c.accepts s with
      | false => simp [accepted]
      | true => simp [accepted, restDecided]

/-- A verdict of the constraints says whether all of them accept, whatever made the
check stop. -/
theorem ConstraintSet.all_accepts_of_feasibleFrom {s : Solution} {members : List Constraint}
    {index : Nat} {verdict : Bool} (judged : feasibleFrom s index members = .ok verdict) :
    (members.all fun c => c.accepts s) = verdict := by
  induction members generalizing index with
  | nil => exact Except.ok.inj judged
  | cons c rest ih =>
      rw [feasibleFrom] at judged
      rw [List.all_cons]
      cases outcome : c.isFeasible s with
      | error fault =>
          rw [outcome] at judged
          contradiction
      | ok accepted =>
          rw [outcome] at judged
          rw [(Constraint.accepts_of_isFeasible outcome).2]
          cases accepted with
          | false => exact Except.ok.inj judged
          | true => exact ih judged

/-- The check of a set, which may be missing, is the check of its members. -/
theorem ConstraintSet.allows_eq (s : Solution) (cs? : Option ConstraintSet) :
    allows s cs? = feasibleFrom s 0 (listed cs?) := by
  cases cs? with
  | none => rfl
  | some cs => rfl

/-! ## Problems that can be searched -/

namespace Problem

theorem listed_constraints (p : Problem) : ConstraintSet.listed p.constraints = p.members := by
  rw [members]
  cases p.constraints with
  | none => rfl
  | some cs => rfl

/-- A problem insists on the check of its constraints. -/
theorem feasible_eq_insist_allows (p : Problem) (s : Solution) :
    p.feasible s = insist (ConstraintSet.allows s p.constraints) := by
  rw [feasible]
  cases p.constraints with
  | none => rfl
  | some cs => rfl

theorem checkWidths_eq_ok_iff {width index : Nat} {members : List Constraint} :
    checkWidths width index members = .ok () ↔ ∀ c ∈ members, c.length = width := by
  induction members generalizing index with
  | nil => simp [checkWidths]
  | cons c rest ih =>
      by_cases fits : c.length = width
      · simp [checkWidths, fits, ih]
      · simp [checkWidths, fits]

/-- Exactly the problems with a nonempty objective and matching widths are valid. -/
theorem validate_eq_ok_iff {p : Problem} :
    validate (some p) = .ok () ↔
      ∃ o, p.objective = some o ∧ 0 < o.length ∧ ∀ c ∈ p.members, c.length = o.length := by
  cases objective : p.objective with
  | none => simp [validate, objective]
  | some o =>
      by_cases empty : o.length = 0
      · simp [validate, objective, empty]
      · simp [validate, objective, empty, checkWidths_eq_ok_iff, Nat.pos_of_ne_zero empty]

/-- A problem that passed its check and whose constraints can be obtained. -/
structure Searchable (p : Problem) : Prop where
  valid : validate (some p) = .ok ()
  constructible : ∀ c ∈ p.members, c.Constructible

/-- Exactly the problems with a nonempty objective and usable constraints can be
searched. -/
theorem searchable_iff {p : Problem} {o : Objective} (objective : p.objective = some o) :
    p.Searchable ↔ 0 < o.length ∧ ∀ c ∈ p.members, c.Usable o.length := by
  constructor
  · intro searchable
    rcases validate_eq_ok_iff.mp searchable.valid with ⟨other, found, nonempty, widths⟩
    obtain rfl := Option.some.inj (objective.symm.trans found)
    exact ⟨nonempty, fun c member => ⟨widths c member, searchable.constructible c member⟩⟩
  · rintro ⟨nonempty, usable⟩
    exact ⟨validate_eq_ok_iff.mpr ⟨o, objective, nonempty, fun c member => (usable c member).1⟩,
      fun c member => (usable c member).2⟩

/-- The weights of the objective; a missing objective has none. -/
def weights (p : Problem) : List Int64 :=
  match p.objective with
  | some o => o.weights
  | none => []

/-- The objective's value at a solution, without looking at widths. -/
def value (p : Problem) (s : Solution) : Int64 :=
  weightedSum p.weights s.bits

/-- Whether a solution satisfies all constraints, without looking at widths. -/
def accepts (p : Problem) (s : Solution) : Bool :=
  p.members.all fun c => c.accepts s

variable {p : Problem} {s : Solution}

/-- A searchable problem has a width, and it is not zero. -/
theorem Searchable.width_eq (searchable : p.Searchable) :
    p.width = .ok p.weights.length ∧ 0 < p.weights.length := by
  rcases validate_eq_ok_iff.mp searchable.valid with ⟨o, objective, nonempty, _⟩
  have weights_eq : p.weights = o.weights := by rw [weights, objective]
  rw [weights_eq]
  exact ⟨by simp [width, objective, Objective.length], nonempty⟩

theorem Searchable.width_eq_ok_iff (searchable : p.Searchable) {n : Nat} :
    p.width = .ok n ↔ n = p.weights.length := by
  rw [searchable.width_eq.1, Except.ok.injEq]
  exact eq_comm

/-- On a solution of the problem's width the fitness is the objective's value, whatever
the constraints are. -/
theorem fitness_eq_value (width : p.width = .ok s.length) : p.fitness s = .ok (p.value s) := by
  cases objective : p.objective with
  | none => simp [Problem.width, objective, present, bind, Except.bind] at width
  | some o =>
      have sameLength : s.length = o.length := by simpa [Problem.width, objective] using width.symm
      simp [fitness, objective, Objective.evaluate, sameLength, value, weights]

theorem Searchable.fitness_eq (searchable : p.Searchable)
    (width : s.length = p.weights.length) : p.fitness s = .ok (p.value s) :=
  fitness_eq_value (searchable.width_eq_ok_iff.mpr width)

/-- Whenever the constraints give a verdict, it says whether all of them accept. -/
theorem accepts_of_feasible {verdict : Bool} (judged : p.feasible s = .ok verdict) :
    p.accepts s = verdict := by
  rw [feasible_eq_insist_allows, insist_eq_ok_iff, ConstraintSet.allows_eq, listed_constraints]
    at judged
  exact ConstraintSet.all_accepts_of_feasibleFrom judged

/-- On a solution of the problem's width feasibility is decided by the constraints. -/
theorem Searchable.feasible_eq (searchable : p.Searchable)
    (width : s.length = p.weights.length) : p.feasible s = .ok (p.accepts s) := by
  rcases validate_eq_ok_iff.mp searchable.valid with ⟨o, objective, nonempty, widths⟩
  have weights_eq : p.weights = o.weights := by rw [weights, objective]
  have sameWidth : s.length = o.length := by rw [width, weights_eq, Objective.length]
  have decided : ConstraintSet.feasibleFrom s 0 p.members = .ok (p.accepts s) := by
    apply ConstraintSet.feasibleFrom_eq_all
    · intro c member
      apply (searchable.constructible c member).exists_operator
      rw [widths c member]
      exact nonempty
    · intro c member
      rw [widths c member, sameWidth]
  rw [feasible_eq_insist_allows, ConstraintSet.allows_eq, listed_constraints, decided, insist_ok]

/-- A problem tells the fitness of a solution and whether it is feasible. -/
structure Evaluates (p : Problem) (s : Solution) : Prop where
  fitness : p.fitness s = .ok (p.value s)
  feasible : p.feasible s = .ok (p.accepts s)

theorem Searchable.evaluates (searchable : p.Searchable)
    (width : s.length = p.weights.length) : p.Evaluates s where
  fitness := searchable.fitness_eq width
  feasible := searchable.feasible_eq width

/-- At the right width only a missing verdict of the constraints can be in the way. -/
theorem Evaluates.of_verdict (width : p.width = .ok s.length) {verdict : Bool}
    (judged : p.feasible s = .ok verdict) : p.Evaluates s where
  fitness := fitness_eq_value width
  feasible := by rw [judged, accepts_of_feasible judged]

/-- A start can be searched from exactly when it has the problem's width. -/
theorem Searchable.check_eq_ok_iff (searchable : p.Searchable) :
    check (some p) (some s) = .ok () ↔ s.length = p.weights.length := by
  by_cases width : s.length = p.weights.length
  · simp [check, searchable.width_eq.1, width]
  · simp [check, searchable.width_eq.1, width]

/-- The demonstration problem can be searched. -/
theorem knapsack_searchable : knapsack.Searchable where
  valid := rfl
  constructible := by
    intro c member
    obtain rfl : c = ⟨[3, 2, 1, 4, 3, 3, 1, 2, 2, 5], some .lessOrEqual, 12⟩ := by
      simpa [knapsack, members] using member
    exact Constraint.Constructible.built (Constraint.make_eq_ok_iff.mpr ⟨by simp, rfl⟩)

end Problem

end Ascent
