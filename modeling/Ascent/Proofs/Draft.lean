import Ascent.Draft.Assembly
import Ascent.Proofs.Climb.Safety
import Mathlib.Data.List.Forall2

/-!
# What a draft builds

Everything that is wrong with a draft can be listed without building it.
`Draft.complaints` is this list, in the order in which the complaints count: the
objective, then for each constraint its operator and its weights, then the widths of
the constraints, then those of the starts.  Constraints are looked at twice, so an
unknown operator of a late constraint comes before the width of an early one.

Building a draft gives the first complaint as its error.  If there is none, which is
when the draft is `WellFormed`, it gives the problem and the starts that the draft
describes.  Putting the problem together part by part does the same, so none of the
points at which it could break down is reached.
-/

namespace Ascent

/-! ## The first complaint -/

/-- Succeed with a value unless there is a complaint; the first one is the error. -/
def settle {α : Type} (complaints : List Error) (value : α) : Except Error α :=
  match complaints with
  | [] => .ok value
  | error :: _ => .error error

section Settle

variable {α β : Type} {complaints : List Error} {value : α}

theorem settle_eq_ok_iff {result : α} :
    settle complaints value = .ok result ↔ complaints = [] ∧ value = result := by
  cases complaints with
  | nil => simp [settle]
  | cons error rest => simp [settle]

theorem settle_eq_error_iff {error : Error} :
    settle complaints value = .error error ↔ complaints.head? = some error := by
  cases complaints with
  | nil => simp [settle]
  | cons first rest => simp [settle]

/-- Complaints of what comes next stand behind the first ones; it is only tried if there
are none of those. -/
theorem settle_bind {next : α → Except Error β} {more : List Error} {result : β}
    (continues : complaints = [] → next value = settle more result) :
    (settle complaints value >>= next) = settle (complaints ++ more) result := by
  cases complaints with
  | nil => exact continues rfl
  | cons error rest => rfl

theorem report_settle_bind {next : α → Except Fault β} {more : List Error} {result : β}
    (continues : complaints = [] → next value = report (settle more result)) :
    (report (settle complaints value) >>= next) = report (settle (complaints ++ more) result) := by
  cases complaints with
  | nil => exact continues rfl
  | cons error rest => rfl

theorem settle_map (complaints : List Error) (value : α) (next : α → β) :
    next <$> settle complaints value = settle complaints (next value) := by
  cases complaints with
  | nil => rfl
  | cons error rest => rfl

end Settle

/-- Complaints about the entries of a list, the first of which has index `index`. -/
def complaintsFrom {α : Type} (about : Nat → α → List Error) (index : Nat) (entries : List α) :
    List Error :=
  (entries.zipIdx index).flatMap fun (entry, i) => about i entry

section ComplaintsFrom

variable {α : Type} (about : Nat → α → List Error)

theorem complaintsFrom_nil (index : Nat) : complaintsFrom about index [] = [] :=
  rfl

theorem complaintsFrom_cons (index : Nat) (entry : α) (rest : List α) :
    complaintsFrom about index (entry :: rest) =
      about index entry ++ complaintsFrom about (index + 1) rest := by
  rw [complaintsFrom, List.zipIdx_cons, List.flatMap_cons]
  rfl

/-- There is nothing to complain about in a list whose entries are all good. -/
theorem complaintsFrom_eq_nil_iff {good : α → Prop}
    (silent : ∀ i entry, about i entry = [] ↔ good entry) (index : Nat) (entries : List α) :
    complaintsFrom about index entries = [] ↔ ∀ entry ∈ entries, good entry := by
  induction entries generalizing index with
  | nil => simp [complaintsFrom_nil]
  | cons entry rest ih =>
      rw [complaintsFrom_cons, List.append_eq_nil_iff, List.forall_mem_cons, silent, ih]

end ComplaintsFrom

/-! ## The complaints about a draft -/

namespace ConstraintDraft

/-- The weights of a constraint; weights that were not given are none. -/
def row (draft : ConstraintDraft) : List Int64 :=
  draft.weights.getD []

/-- What is wrong with a constraint by itself: its operator, then its weights. -/
def complaints (draft : ConstraintDraft) : List Error :=
  (match Operator.parse draft.operator with
    | .ok _ => []
    | .error _ => [.of (.unknownOperator draft.operator)]) ++
  (if draft.row = [] then [(Error.of .emptyWeights).within .constraint] else [])

/-- The constraint that is written down. -/
def constraint (draft : ConstraintDraft) : Constraint :=
  ⟨draft.row, (Operator.parse draft.operator).toOption, draft.threshold⟩

/-- A constraint that has what is written down: the weights, the comparison that the
operator spells, and the threshold. -/
def Denotes (draft : ConstraintDraft) (c : Constraint) : Prop :=
  ∃ operator, Operator.parse draft.operator = .ok operator ∧
    c = ⟨draft.row, some operator, draft.threshold⟩

theorem parse_eq (draft : ConstraintDraft) :
    (∃ operator, Operator.parse draft.operator = .ok operator) ∨
      Operator.parse draft.operator = .error (.of (.unknownOperator draft.operator)) := by
  unfold Operator.parse
  cases Operator.ofSpelling? (Text.lower (Text.trim draft.operator)) with
  | none => exact Or.inr rfl
  | some operator => exact Or.inl ⟨operator, rfl⟩

theorem make_eq_settle (draft : ConstraintDraft) :
    (do Constraint.make draft.row (← Operator.parse draft.operator) draft.threshold) =
      settle draft.complaints draft.constraint := by
  rcases draft.parse_eq with ⟨operator, parsed⟩ | unknown
  · rw [complaints, constraint, parsed]
    by_cases empty : draft.row = []
    · simp [Constraint.make, empty, settle]
    · simp [Constraint.make, empty, settle, Except.toOption]
  · rw [complaints, unknown]
    rfl

theorem complaints_eq_nil_iff {draft : ConstraintDraft} :
    draft.complaints = [] ↔
      (∃ operator, Operator.parse draft.operator = .ok operator) ∧ draft.row ≠ [] := by
  rcases draft.parse_eq with ⟨operator, parsed⟩ | unknown
  · simp [complaints, parsed]
  · simp [complaints, unknown]

end ConstraintDraft

namespace Draft

/-- The weights of the objective; weights that were not given are none. -/
def row (draft : Draft) : List Int64 :=
  draft.objective.getD []

/-- The number of variables. -/
def width (draft : Draft) : Nat :=
  draft.row.length

/-- The starting points as numbers; a point that was not given has none. -/
def points (draft : Draft) : List (List Int64) :=
  (draft.starts.getD []).map fun values => values.getD []

/-- What is wrong with the objective. -/
def objectiveComplaints (draft : Draft) : List Error :=
  if draft.row = [] then [(Error.of .emptyWeights).within .objective] else []

/-- What is wrong with constraint `i` by itself. -/
def memberComplaints (i : Nat) (draft : ConstraintDraft) : List Error :=
  draft.complaints.map (Error.within (.member i))

/-- What is wrong with the width of constraint `i`. -/
def widthComplaints (width i : Nat) (draft : ConstraintDraft) : List Error :=
  if draft.row.length = width then []
  else [((Error.of (.weightCount draft.row.length width)).within (.member i)).within .problem]

/-- What is wrong with the width of start `i`. -/
def startComplaints (width i : Nat) (point : List Int64) : List Error :=
  if point.length = width then []
  else [((Error.of (.solutionWidth point.length width)).within .problem).within (.startAt i)]

/-- Everything that is wrong with a draft, in the order in which it counts. -/
def complaints (draft : Draft) : List Error :=
  draft.objectiveComplaints ++ (complaintsFrom memberComplaints 0 draft.constraints ++
  (complaintsFrom (widthComplaints draft.width) 0 draft.constraints ++
  complaintsFrom (startComplaints draft.width) 0 draft.points))

/-- The problem that is written down. -/
def problem (draft : Draft) : Problem where
  name := draft.name
  objective := some ⟨draft.row⟩
  constraints := some ⟨draft.constraints.map ConstraintDraft.constraint⟩

/-! ## Building by complaints -/

section Unfolding

-- The recursion is unfolded without a try to read the operator.
attribute [local irreducible] Operator.parse

theorem buildConstraints_cons (index : Nat) (draft : ConstraintDraft)
    (rest : List ConstraintDraft) :
    buildConstraints index (draft :: rest) =
      match settle draft.complaints draft.constraint with
      | .error error => .error (error.within (.member index))
      | .ok c => (c :: ·) <$> buildConstraints (index + 1) rest := by
  rw [← draft.make_eq_settle]
  rfl

end Unfolding

theorem buildConstraints_eq_settle (index : Nat) (drafts : List ConstraintDraft) :
    buildConstraints index drafts =
      settle (complaintsFrom memberComplaints index drafts)
        (drafts.map ConstraintDraft.constraint) := by
  induction drafts generalizing index with
  | nil => rfl
  | cons draft rest ih =>
      rw [buildConstraints_cons, ih, complaintsFrom_cons, memberComplaints]
      cases draft.complaints with
      | nil => exact settle_map _ _ _
      | cons error more => rfl

theorem checkWidths_eq_settle (width index : Nat) (drafts : List ConstraintDraft) :
    Problem.checkWidths width index (drafts.map ConstraintDraft.constraint) =
      settle (complaintsFrom (widthComplaints width) index drafts) () := by
  induction drafts generalizing index with
  | nil => rfl
  | cons draft rest ih =>
      have same : draft.constraint.length = draft.row.length := rfl
      rw [List.map_cons, Problem.checkWidths, complaintsFrom_cons, widthComplaints, same, ih]
      by_cases fits : draft.row.length = width
      · rw [if_pos fits, if_pos fits, List.nil_append]
      · rw [if_neg fits, if_neg fits]
        rfl

theorem buildStarts_eq_settle (width index : Nat) (starts : List (Option (List Int64))) :
    buildStarts width index starts =
      settle (complaintsFrom (startComplaints width) index
          (starts.map fun values => values.getD []))
        ((starts.map fun values => values.getD []).map Solution.ofInts) := by
  induction starts generalizing index with
  | nil => rfl
  | cons values rest ih =>
      simp only [buildStarts, List.map_cons, complaintsFrom_cons, startComplaints,
        Solution.length_ofInts, ih]
      by_cases fits : (values.getD []).length = width
      · rw [if_pos fits, if_pos fits, List.nil_append]
        exact settle_map _ _ _
      · rw [if_neg fits, if_neg fits]
        rfl

theorem make_objective_eq_settle (draft : Draft) :
    Objective.make (draft.objective.getD []) =
      settle draft.objectiveComplaints ⟨draft.row⟩ := by
  rw [← row, Objective.make, objectiveComplaints]
  by_cases empty : draft.row = []
  · simp [empty, settle]
  · simp [empty, settle]

theorem row_ne_nil {draft : Draft} (silent : draft.objectiveComplaints = []) :
    draft.row ≠ [] := by
  intro empty
  simp [objectiveComplaints, empty] at silent

theorem make_problem_eq_settle {row : List Int64} (nonempty : row ≠ [])
    (drafts : List ConstraintDraft) :
    Problem.make (some ⟨row⟩) (some ⟨drafts.map ConstraintDraft.constraint⟩) =
      settle (complaintsFrom (widthComplaints row.length) 0 drafts)
        ⟨"", some ⟨row⟩, some ⟨drafts.map ConstraintDraft.constraint⟩⟩ := by
  have positive : (Objective.mk row).length ≠ 0 := by
    simpa [Objective.length] using nonempty
  simp only [Problem.make, Problem.validate, if_neg positive, Problem.members, Option.getD_some,
    checkWidths_eq_settle]
  exact settle_map _ () _

/-- A draft builds what it describes, or its first complaint is the error. -/
theorem build_eq_settle (draft : Draft) :
    draft.build = settle draft.complaints (draft.problem, draft.points.map Solution.ofInts) := by
  rw [build, make_objective_eq_settle]
  refine settle_bind fun silent => ?_
  rw [buildConstraints_eq_settle]
  refine settle_bind fun _ => ?_
  rw [make_problem_eq_settle (row_ne_nil silent)]
  refine settle_bind fun _ => ?_
  rw [buildStarts_eq_settle]
  exact settle_map _ _ _

/-! ## Putting a draft together -/

theorem assembleConstraint_eq (draft : ConstraintDraft) :
    assembleConstraint draft = settle draft.complaints draft.constraint := by
  rw [← draft.make_eq_settle, assembleConstraint]
  cases Operator.parse draft.operator with
  | error error => rfl
  | ok operator => cases operator <;> rfl

/-- Constraints are added behind those that are there. -/
theorem assembleConstraints_eq (index : Nat) (cs : ConstraintSet)
    (drafts : List ConstraintDraft) :
    assembleConstraints index cs drafts =
      report (settle (complaintsFrom memberComplaints index drafts)
        ⟨cs.members ++ drafts.map ConstraintDraft.constraint⟩) := by
  induction drafts generalizing index cs with
  | nil =>
      rw [List.map_nil, List.append_nil]
      rfl
  | cons draft rest ih =>
      rw [assembleConstraints, assembleConstraint_eq, complaintsFrom_cons, memberComplaints]
      cases draft.complaints with
      | nil =>
          change assembleConstraints (index + 1) ⟨cs.members ++ [draft.constraint]⟩ rest = _
          rw [ih, List.append_assoc]
          rfl
      | cons error more => rfl

end Draft

namespace Solution

/-- Turning variables on one by one gives the truth values of the numbers. -/
theorem turnOn_eq (index : Nat) (values : List Int64) (front : List Bool)
    (here : front.length = index) :
    turnOn index values ⟨front ++ List.replicate values.length false⟩ =
      ⟨front ++ values.map fun value => value != 0⟩ := by
  induction values generalizing index front with
  | nil => rfl
  | cons value rest ih =>
      have extended : (front ++ [value != 0]).length = index + 1 := by
        rw [List.length_append, here, List.length_singleton]
      have turned : (if value != 0 then
            (⟨(front ++ List.replicate (rest.length + 1) false).set index true⟩ : Solution)
          else ⟨front ++ List.replicate (rest.length + 1) false⟩) =
            ⟨(front ++ [value != 0]) ++ List.replicate rest.length false⟩ := by
        cases value != 0 with
        | false => simp [List.replicate_succ]
        | true => simp [List.replicate_succ, ← here]
      rw [turnOn, List.length_cons, turned, ih (index + 1) _ extended, List.append_assoc]
      rfl

/-- A blank solution never has a negative length. -/
theorem fill_eq (values : List Int64) : fill values = .ok (ofInts values) := by
  have blank : Solution.make values.length = .ok ⟨[] ++ List.replicate values.length false⟩ := by
    simp [Solution.make, zeros]
  rw [fill, blank, ok_bind, turnOn_eq 0 values [] rfl]
  rfl

end Solution

namespace Draft

theorem assembleStarts_eq {p : Problem} {width : Nat} (known : p.width = .ok width)
    (index : Nat) (starts : List Solution) (more : List (Option (List Int64))) :
    assembleStarts p index starts more =
      report (settle (complaintsFrom (startComplaints width) index
          (more.map fun values => values.getD []))
        (starts ++ (more.map fun values => values.getD []).map Solution.ofInts)) := by
  induction more generalizing index starts with
  | nil =>
      rw [List.map_nil, List.map_nil, List.append_nil]
      rfl
  | cons values rest ih =>
      rw [assembleStarts, Solution.fill_eq, List.map_cons, complaintsFrom_cons, startComplaints]
      simp only [ok_bind, Problem.check, present_some, known, Solution.length_ofInts]
      by_cases fits : (values.getD []).length = width
      · simp only [if_pos fits]
        change assembleStarts p (index + 1) (starts ++ [Solution.ofInts (values.getD [])]) rest = _
        rw [ih, List.append_assoc]
        rfl
      · simp only [if_neg fits]
        rfl

/-- Putting a draft together part by part never breaks down: it gives what building the
draft gives. -/
theorem assemble_eq_build (draft : Draft) : draft.assemble = report draft.build := by
  rw [build_eq_settle, assemble, make_objective_eq_settle]
  refine report_settle_bind fun silent => ?_
  rw [assembleConstraints_eq]
  refine report_settle_bind fun _ => ?_
  rw [ConstraintSet.empty, List.nil_append, make_problem_eq_settle (row_ne_nil silent)]
  refine report_settle_bind fun _ => ?_
  have known : draft.problem.width = .ok draft.width := rfl
  change (assembleStarts draft.problem 0 [] (draft.starts.getD []) >>= fun starts =>
    pure (draft.problem, starts)) = _
  rw [assembleStarts_eq known, ← points]
  cases complaintsFrom (startComplaints draft.width) 0 draft.points with
  | nil => rfl
  | cons error rest => rfl

/-! ## Drafts that can be built -/

/-- A draft with variables, known operators and matching widths. -/
structure WellFormed (draft : Draft) : Prop where
  nonempty : draft.row ≠ []
  operators : ∀ c ∈ draft.constraints, ∃ operator, Operator.parse c.operator = .ok operator
  widths : ∀ c ∈ draft.constraints, c.row.length = draft.width
  starts : ∀ point ∈ draft.points, point.length = draft.width

theorem complaints_eq_nil_iff {draft : Draft} : draft.complaints = [] ↔ draft.WellFormed := by
  have members : complaintsFrom memberComplaints 0 draft.constraints = [] ↔
      ∀ c ∈ draft.constraints,
        (∃ operator, Operator.parse c.operator = .ok operator) ∧ c.row ≠ [] := by
    apply complaintsFrom_eq_nil_iff
    intro i c
    rw [memberComplaints, List.map_eq_nil_iff, c.complaints_eq_nil_iff]
  have widths : complaintsFrom (widthComplaints draft.width) 0 draft.constraints = [] ↔
      ∀ c ∈ draft.constraints, c.row.length = draft.width := by
    apply complaintsFrom_eq_nil_iff
    intro i c
    simp [widthComplaints]
  have starts : complaintsFrom (startComplaints draft.width) 0 draft.points = [] ↔
      ∀ point ∈ draft.points, point.length = draft.width := by
    apply complaintsFrom_eq_nil_iff
    intro i point
    simp [startComplaints]
  rw [complaints, List.append_eq_nil_iff, List.append_eq_nil_iff, List.append_eq_nil_iff, members,
    widths, starts]
  constructor
  · rintro ⟨silent, sound, fits, starts⟩
    exact ⟨row_ne_nil silent, fun c member => (sound c member).1, fits, starts⟩
  · intro wellFormed
    refine ⟨by simp [objectiveComplaints, wellFormed.nonempty], fun c member => ?_,
      wellFormed.widths, wellFormed.starts⟩
    -- Weights of the objective's width are there, because the objective has some.
    refine ⟨wellFormed.operators c member, ?_⟩
    rw [← List.length_pos_iff, wellFormed.widths c member]
    exact List.length_pos_iff.mpr wellFormed.nonempty

/-- A problem and starts that have what is written down, in its order. -/
structure Describes (draft : Draft) (p : Problem) (starts : List Solution) : Prop where
  name : p.name = draft.name
  objective : p.objective = some ⟨draft.row⟩
  members : List.Forall₂ ConstraintDraft.Denotes draft.constraints p.members
  starts : starts = draft.points.map Solution.ofInts

namespace WellFormed

variable {draft : Draft}

theorem describes (wellFormed : draft.WellFormed) :
    draft.Describes draft.problem (draft.points.map Solution.ofInts) where
  name := rfl
  objective := rfl
  members := by
    change List.Forall₂ ConstraintDraft.Denotes draft.constraints
      (draft.constraints.map ConstraintDraft.constraint)
    rw [List.forall₂_map_right_iff, List.forall₂_same]
    intro c member
    rcases wellFormed.operators c member with ⟨operator, parsed⟩
    exact ⟨operator, parsed, by rw [ConstraintDraft.constraint, parsed]; rfl⟩
  starts := rfl

/-- The problem of a well-formed draft can be searched. -/
theorem searchable (wellFormed : draft.WellFormed) : draft.problem.Searchable := by
  refine (Problem.searchable_iff rfl).mpr ⟨List.length_pos_iff.mpr wellFormed.nonempty, ?_⟩
  intro c member
  rcases List.mem_map.mp member with ⟨written, listed, rfl⟩
  rcases wellFormed.operators written listed with ⟨operator, parsed⟩
  have width := wellFormed.widths written listed
  have nonempty : written.row ≠ [] := by
    rw [← List.length_pos_iff, width]
    exact List.length_pos_iff.mpr wellFormed.nonempty
  rw [ConstraintDraft.constraint, parsed]
  exact ⟨width, Constraint.constructible_iff.mpr nonempty⟩

end WellFormed

/-- A problem that was built can be searched, and its starts have its width. -/
theorem searchable_of_build {draft : Draft} {p : Problem} {starts : List Solution}
    (built : draft.build = .ok (p, starts)) :
    p.Searchable ∧ ∀ start ∈ starts, start.length = p.weights.length := by
  rw [build_eq_settle] at built
  rcases settle_eq_ok_iff.mp built with ⟨silent, same⟩
  obtain ⟨rfl, rfl⟩ := Prod.mk.inj same
  have wellFormed := complaints_eq_nil_iff.mp silent
  refine ⟨wellFormed.searchable, fun start member => ?_⟩
  rcases List.mem_map.mp member with ⟨point, listed, rfl⟩
  rw [Solution.length_ofInts]
  exact wellFormed.starts point listed

/-- Building a draft, for every draft.  Nothing on the way breaks down.  It succeeds
exactly for the well-formed drafts; then the problem is valid, problem and starts are
what is written down, and a climb from each of the starts succeeds.  Otherwise the
error is the first of all complaints. -/
theorem build_accepts_wellFormed (draft : Draft) :
    draft.assemble = report draft.build ∧
    ((∃ built, draft.build = .ok built) ↔ draft.WellFormed) ∧
    (∀ p starts, draft.build = .ok (p, starts) →
      Problem.validate (some p) = .ok () ∧ draft.Describes p starts ∧
      ∀ config : Climb.Config, config.validate = .ok () → ∀ start ∈ starts,
        ∃ run, Climb.solve (some p) config .never (some start) = .ok run ∧ run.error = none) ∧
    (∀ error, draft.build = .error error ↔ draft.complaints.head? = some error) := by
  refine ⟨assemble_eq_build draft, ?_, ?_, ?_⟩
  · rw [build_eq_settle, ← complaints_eq_nil_iff]
    exact ⟨fun ⟨built, settled⟩ => (settle_eq_ok_iff.mp settled).1,
      fun silent => ⟨_, settle_eq_ok_iff.mpr ⟨silent, rfl⟩⟩⟩
  · intro p starts built
    rw [build_eq_settle] at built
    rcases settle_eq_ok_iff.mp built with ⟨silent, same⟩
    obtain ⟨rfl, rfl⟩ := Prod.mk.inj same
    have wellFormed := complaints_eq_nil_iff.mp silent
    refine ⟨wellFormed.searchable.valid, wellFormed.describes, ?_⟩
    intro config valid start member
    rcases List.mem_map.mp member with ⟨point, listed, rfl⟩
    have width : (Solution.ofInts point).length = draft.problem.weights.length := by
      rw [Solution.length_ofInts]
      exact wellFormed.starts point listed
    rcases Climb.exists_course wellFormed.searchable width valid .never with
      ⟨moves, count, stop, course, solved⟩
    exact ⟨_, solved, course.error?_never⟩
  · intro error
    rw [build_eq_settle]
    exact settle_eq_error_iff

-- An unknown operator of the second constraint comes before the width of the first one.
example : (Draft.mk "" (some [1, 2]) [⟨some [1], "<=", 0⟩, ⟨some [1, 2], "=<", 0⟩] none).build =
    .error ((Error.of (.unknownOperator "=<")).within (.member 1)) := by
  rfl

end Draft

end Ascent
