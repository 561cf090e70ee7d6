import Ascent.Proofs.Climb.Loop

/-!
# Only the accepted solutions count

A climb asks its constraints one thing: whether they accept a solution of the
problem's width.  How they say so makes no difference, although checking stops at
another constraint when they are written in another order.  Two problems with one
objective that accept the same solutions are climbed in the same way, step by step,
from every start, with every configuration and under every signal.

`Restated` is the closure of the changes that keep a list of constraints the same
demand: another order, a constraint said again, and a strict comparison written as
the other one at the next threshold.  The next threshold has to exist; at the ends of
the range of 64 bits it would wrap around.
-/

namespace Ascent

/-! ## Problems that agree -/

namespace Problem

/-- The same objective, and the same answer about every solution of its width. -/
structure Agrees (p q : Problem) : Prop where
  objective : p.objective = q.objective
  feasible : ∀ s, p.width = .ok s.length → p.feasible s = q.feasible s

namespace Agrees

variable {p q : Problem}

theorem fitness (agrees : p.Agrees q) (s : Solution) : p.fitness s = q.fitness s := by
  rw [Problem.fitness, Problem.fitness, agrees.objective]

theorem width (agrees : p.Agrees q) : p.width = q.width := by
  rw [Problem.width, Problem.width, agrees.objective]

theorem check (agrees : p.Agrees q) (start? : Option Solution) :
    Problem.check (some p) start? = Problem.check (some q) start? := by
  cases start? with
  | none => rfl
  | some start => rw [Problem.check, Problem.check, present_some, present_some, ok_bind, ok_bind,
      agrees.width]

/-- The neighbors of a solution of the problem's width have this width too. -/
theorem width_of_mem_neighbors {s t : Solution} (width : p.width = .ok s.length)
    (member : t ∈ s.neighbors) : p.width = .ok t.length := by
  rw [Solution.length_of_mem_neighbors member, width]

/-- The scan for the best candidate sees no difference. -/
theorem bestFrom (agrees : p.Agrees q) {candidates : List Solution}
    (widths : ∀ c ∈ candidates, p.width = .ok c.length) (index : Nat) (best : Option Nat)
    (score : Int64) :
    p.bestFrom index best score candidates = q.bestFrom index best score candidates := by
  induction candidates generalizing index best score with
  | nil => rfl
  | cons candidate rest ih =>
      have restWidths := fun c member => widths c (List.mem_cons_of_mem candidate member)
      rw [Problem.bestFrom, Problem.bestFrom,
        agrees.feasible candidate (widths candidate List.mem_cons_self), agrees.fitness candidate]
      simp only [ih restWidths]

theorem select (agrees : p.Agrees q) {s : Solution} (width : p.width = .ok s.length)
    (selector : Selector) :
    selector.select p s s.neighbors = selector.select q s s.neighbors := by
  have scanned := agrees.bestFrom fun _ member => width_of_mem_neighbors width member
  rw [Selector.select, Selector.select, bestImprovement, bestImprovement, agrees.fitness s]
  simp only [scanned]

end Agrees

end Problem

namespace Climb

variable {p q : Problem}

/-! ## Climbs on problems that agree -/

theorem describeFrom_of_agrees (agrees : p.Agrees q) {hood : List Solution}
    (widths : ∀ c ∈ hood, p.width = .ok c.length) (index : Nat) :
    describeFrom p index hood = describeFrom q index hood := by
  induction hood generalizing index with
  | nil => rfl
  | cons neighbor rest ih =>
      have restWidths := fun c member => widths c (List.mem_cons_of_mem neighbor member)
      rw [describeFrom, describeFrom, describe, describe,
        agrees.feasible neighbor (widths neighbor List.mem_cons_self), agrees.fitness neighbor,
        ih restWidths]

/-- One iteration is the same on both problems. -/
theorem iterate_of_agrees (agrees : p.Agrees q) {position : Position}
    (width : p.width = .ok position.current.length) (iteration : Nat) (selector : Selector) :
    iterate p iteration selector position = iterate q iteration selector position := by
  have described := describeFrom_of_agrees agrees
    (fun _ member => Problem.Agrees.width_of_mem_neighbors width member) 0
  rw [iterate, iterate, agrees.select width, described]

/-- So is the whole climb: every iteration leaves a solution of the same width. -/
theorem ascend_of_agrees (agrees : p.Agrees q) (config : Config) (signal : Signal) {fuel : Nat}
    {iteration : Nat} {selector : Selector} {position : Position}
    (width : p.width = .ok position.current.length) :
    ascend p config signal fuel iteration selector position =
      ascend q config signal fuel iteration selector position := by
  induction fuel generalizing iteration selector position with
  | zero => rfl
  | succ fuel ih =>
      rw [ascend, ascend]
      cases stop? config signal iteration selector with
      | some stop => rfl
      | none =>
          rw [← iterate_of_agrees agrees width]
          cases iterated : iterate p iteration selector position with
          | error fault => rfl
          | ok after =>
              rcases after with ⟨step, next, selector⟩
              have nextWidth : p.width = .ok next.current.length := by
                rw [Loop.length_current_iterate iterated, width]
              simp only [ok_bind, ih nextWidth]

theorem current_start {start : Solution} {position : Position}
    (placed : Position.start p start = .ok position) : position.current = start := by
  rw [Position.start] at placed
  rcases bind_eq_ok_iff.mp placed with ⟨fitness, _, placed⟩
  rcases bind_eq_ok_iff.mp placed with ⟨feasible, _, placed⟩
  obtain rfl := Except.ok.inj placed
  rfl

/-- Whatever is asked for, valid problems that agree give the same run or the same
refusal. -/
theorem solve_of_agrees (agrees : p.Agrees q) (valid : Problem.validate (some p) = .ok ())
    (otherValid : Problem.validate (some q) = .ok ()) (config : Config) (signal : Signal)
    (start? : Option Solution) :
    solve (some p) config signal start? = solve (some q) config signal start? := by
  rw [solve, solve, valid, otherValid, ← agrees.check start?]
  cases checked : Problem.check (some p) start? with
  | error fault => rfl
  | ok =>
      rcases Problem.validate_eq_ok_iff.mp valid with ⟨o, objective, _, _⟩
      rcases (check_eq_ok_iff objective).mp checked with ⟨start, rfl, length⟩
      have width : p.width = .ok start.length := by
        rw [Problem.width, objective, length]
        rfl
      have started : Position.start p start = Position.start q start := by
        rw [Position.start, Position.start, agrees.fitness, agrees.feasible start width]
      simp only [present_some, ok_bind, ← started, ← agrees.width]
      cases placed : Position.start p start with
      | error fault => rfl
      | ok position =>
          have here : p.width = .ok position.current.length := by
            rw [current_start placed, width]
          simp only [ok_bind, ascend_of_agrees agrees config signal here]

end Climb

/-! ## The same demand in other words -/

namespace Operator

/-- Below a threshold is at most the one before it. -/
theorem lessThan_holds {threshold : Int64} (above : Int64.minValue < threshold) (value : Int64) :
    lessThan.holds value threshold = lessOrEqual.holds value (threshold - 1) := by
  rw [Int64.lt_iff_toInt_lt, Int64.toInt_minValue] at above
  have upper := threshold.toInt_lt
  have one : (1 : Int64).toInt = 1 := rfl
  simp only [holds, decide_eq_decide]
  rw [Int64.lt_iff_toInt_lt, Int64.le_iff_toInt_le, Int64.toInt_sub, one, Int.bmod]
  omega

/-- Above a threshold is at least the one behind it. -/
theorem greaterThan_holds {threshold : Int64} (below : threshold < Int64.maxValue)
    (value : Int64) :
    greaterThan.holds value threshold = greaterOrEqual.holds value (threshold + 1) := by
  rw [Int64.lt_iff_toInt_lt, Int64.toInt_maxValue] at below
  have lower := threshold.le_toInt
  have one : (1 : Int64).toInt = 1 := rfl
  simp only [holds, decide_eq_decide]
  rw [Int64.lt_iff_toInt_lt, Int64.le_iff_toInt_le, Int64.toInt_add, one, Int.bmod]
  omega

end Operator

namespace Constraint

/-- A strict comparison and the other one at the next threshold. -/
inductive Rewritten : Constraint → Constraint → Prop where
  | lessThan {weights : List Int64} {threshold : Int64} (above : Int64.minValue < threshold) :
      Rewritten ⟨weights, some .lessThan, threshold⟩ ⟨weights, some .lessOrEqual, threshold - 1⟩
  | greaterThan {weights : List Int64} {threshold : Int64} (below : threshold < Int64.maxValue) :
      Rewritten ⟨weights, some .greaterThan, threshold⟩
        ⟨weights, some .greaterOrEqual, threshold + 1⟩

theorem Rewritten.accepts {c d : Constraint} (rewritten : c.Rewritten d) (s : Solution) :
    c.accepts s = d.accepts s := by
  cases rewritten with
  | lessThan above => exact Operator.lessThan_holds above _
  | greaterThan below => exact Operator.greaterThan_holds below _

theorem Rewritten.usable {c d : Constraint} (rewritten : c.Rewritten d) {width : Nat} :
    c.Usable width ↔ d.Usable width := by
  cases rewritten with
  | lessThan => simp [Usable, length, constructible_iff]
  | greaterThan => simp [Usable, length, constructible_iff]

end Constraint

/-- The same demand, in another order, with repetitions, or with other comparisons. -/
inductive Restated : List Constraint → List Constraint → Prop where
  | reordered {members others : List Constraint} (permuted : members.Perm others) :
      Restated members others
  | repeated {c : Constraint} {members : List Constraint} (member : c ∈ members) :
      Restated members (c :: members)
  | rewritten {c d : Constraint} {before after : List Constraint} (same : c.Rewritten d) :
      Restated (before ++ c :: after) (before ++ d :: after)
  | symm {members others : List Constraint} (restated : Restated members others) :
      Restated others members
  | trans {members others more : List Constraint} (first : Restated members others)
      (second : Restated others more) : Restated members more

namespace Restated

variable {members others : List Constraint}

theorem accepts (restated : Restated members others) (s : Solution) :
    (members.all fun c => c.accepts s) = others.all fun c => c.accepts s := by
  induction restated with
  | reordered permuted => exact permuted.all_eq
  | @repeated c members member =>
      rw [List.all_cons, Bool.eq_iff_iff, Bool.and_eq_true, List.all_eq_true]
      exact ⟨fun all => ⟨all c member, all⟩, And.right⟩
  | rewritten same => simp only [List.all_append, List.all_cons, same.accepts s]
  | symm _ ih => exact ih.symm
  | trans _ _ first second => exact first.trans second

theorem usable (restated : Restated members others) (width : Nat) :
    (∀ c ∈ members, c.Usable width) ↔ ∀ c ∈ others, c.Usable width := by
  induction restated with
  | reordered permuted => simp only [permuted.mem_iff]
  | @repeated c members member =>
      rw [List.forall_mem_cons]
      exact ⟨fun all => ⟨all c member, all⟩, And.right⟩
  | rewritten same => simp only [List.forall_mem_append, List.forall_mem_cons, same.usable]
  | symm _ ih => exact ih.symm
  | trans _ _ first second => exact first.trans second

end Restated

namespace Problem

variable {p q : Problem}

/-- A problem whose constraints are said in other words can be searched as well. -/
theorem Searchable.of_restated (searchable : p.Searchable) (objective : p.objective = q.objective)
    (restated : Restated p.members q.members) : q.Searchable := by
  rcases validate_eq_ok_iff.mp searchable.valid with ⟨o, found, _, _⟩
  rcases (searchable_iff found).mp searchable with ⟨nonempty, usable⟩
  exact (searchable_iff (objective.symm.trans found)).mpr
    ⟨nonempty, (restated.usable o.length).mp usable⟩

theorem Searchable.agrees_of_restated (searchable : p.Searchable)
    (objective : p.objective = q.objective) (restated : Restated p.members q.members) :
    p.Agrees q where
  objective := objective
  feasible := by
    intro s width
    have sameWeights : p.weights = q.weights := by rw [weights, weights, objective]
    have here := searchable.width_eq_ok_iff.mp width
    have there : s.length = q.weights.length := by rw [here, sameWeights]
    rw [searchable.feasible_eq here,
      (searchable.of_restated objective restated).feasible_eq there, Problem.accepts,
      Problem.accepts, restated.accepts s]

end Problem

namespace Climb

open Benchmark (climber)

variable {p q : Problem}

/-- Every request has the same answer about both problems: the same steps, the same
final event, result and error, also with reporters that are told the events. -/
def SameClimbs (p q : Problem) : Prop :=
  ∀ (reporters : List Reporter) (config : Config) (signal : Signal) (start? : Option Solution),
    solve (some p) config signal start? = solve (some q) config signal start? ∧
      Loop.solve reporters config (some p) signal start? =
        Loop.solve reporters config (some q) signal start?

theorem sameClimbs_of_agrees (searchable : p.Searchable) (otherSearchable : q.Searchable)
    (agrees : p.Agrees q) : SameClimbs p q := by
  intro reporters config signal start?
  have solved := solve_of_agrees agrees searchable.valid otherSearchable.valid config signal start?
  have looped : ∀ r : Problem, r.Searchable →
      Loop.solve reporters config (some r) signal start? =
        climber config (some r) signal start? := by
    intro r searchable
    apply Loop.solve_eq_climber
    simpa using searchable.constructible
  refine ⟨solved, ?_⟩
  rw [looped p searchable, looped q otherSearchable, climber, climber, solved]

/-- A climb depends on the constraints only through the solutions that they accept: two
problems with one objective whose constraints accept the same solutions of its width
are climbed in the same way.  This is so for constraints in another order, with
repetitions, and with strict comparisons written as the other ones. -/
theorem solve_constraints_extensional (searchable : p.Searchable)
    (objective : p.objective = q.objective) :
    (q.Searchable → (∀ s, p.width = .ok s.length → p.feasible s = q.feasible s) →
      SameClimbs p q) ∧
    (Restated p.members q.members → q.Searchable ∧ SameClimbs p q) := by
  constructor
  · intro otherSearchable accepted
    exact sameClimbs_of_agrees searchable otherSearchable ⟨objective, accepted⟩
  · intro restated
    have otherSearchable := searchable.of_restated objective restated
    exact ⟨otherSearchable, sameClimbs_of_agrees searchable otherSearchable
      (searchable.agrees_of_restated objective restated)⟩

/-- Two constraints with thresholds at the ends of the range, which leave one solution. -/
def tight : Problem where
  name := "tight"
  objective := some ⟨[3, 5]⟩
  constraints := some ⟨[
    ⟨[Int64.minValue, 1], some .lessThan, Int64.minValue + 1⟩,
    ⟨[Int64.maxValue, 0], some .greaterThan, Int64.maxValue - 1⟩]⟩

/-- The same constraints without strict comparisons, one of them twice. -/
def tightRestated : Problem :=
  { tight with
    constraints := some ⟨[
      ⟨[Int64.maxValue, 0], some .greaterOrEqual, Int64.maxValue⟩,
      ⟨[Int64.minValue, 1], some .lessOrEqual, Int64.minValue⟩,
      ⟨[Int64.maxValue, 0], some .greaterOrEqual, Int64.maxValue⟩]⟩ }

/-- Another constraint that leaves the same solution. -/
def tightAlone : Problem :=
  { tight with constraints := some ⟨[⟨[1, -1], some .greaterOrEqual, 1⟩]⟩ }

theorem tight_searchable : tight.Searchable := by
  refine (Problem.searchable_iff rfl).mpr ⟨by decide, ?_⟩
  simp [tight, Problem.members, Constraint.Usable, Constraint.length, Constraint.constructible_iff,
    Objective.length]

/-- The climb finds the only solution in all three forms of the problem. -/
theorem solve_constraints_extensional_tight :
    SameClimbs tight tightRestated ∧ SameClimbs tight tightAlone ∧
    (solve (some tight) .default .never (some (.zeros 2))).map (fun run => run.result.solution) =
      .ok (some (.ofInts [1, 0])) := by
  have aloneSearchable : tightAlone.Searchable := by
    refine (Problem.searchable_iff rfl).mpr ⟨by decide, ?_⟩
    simp [tightAlone, Problem.members, Constraint.Usable, Constraint.length,
      Constraint.constructible_iff, tight, Objective.length]
  have restated : Restated tight.members tightRestated.members := by
    have less : Restated tight.members
        [⟨[Int64.minValue, 1], some .lessOrEqual, Int64.minValue⟩,
          ⟨[Int64.maxValue, 0], some .greaterThan, Int64.maxValue - 1⟩] :=
      @Restated.rewritten _ _ [] _ (.lessThan (by decide))
    have greater : Restated tight.members
        [⟨[Int64.minValue, 1], some .lessOrEqual, Int64.minValue⟩,
          ⟨[Int64.maxValue, 0], some .greaterOrEqual, Int64.maxValue⟩] :=
      less.trans (@Restated.rewritten _ _ [_] [] (.greaterThan (by decide)))
    exact greater.trans (.repeated (List.mem_cons_of_mem _ List.mem_cons_self))
  have accepted : ∀ s, tight.width = .ok s.length → tight.feasible s = tightAlone.feasible s := by
    intro s width
    have length : s.bits.length = 2 := (Except.ok.inj width).symm
    rcases List.length_eq_two.mp length with ⟨first, second, bits⟩
    obtain rfl : s = ⟨[first, second]⟩ := Solution.ext bits
    cases first <;> cases second <;> rfl
  have objective : tight.objective = tightRestated.objective := rfl
  have aloneObjective : tight.objective = tightAlone.objective := rfl
  exact ⟨((solve_constraints_extensional tight_searchable objective).2 restated).2,
    (solve_constraints_extensional tight_searchable aloneObjective).1 aloneSearchable accepted,
    rfl⟩

end Climb

end Ascent
