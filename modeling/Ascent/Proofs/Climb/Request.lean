import Ascent.Benchmark.Runner
import Ascent.Proofs.Climb.Course

/-!
# Requests

A climb is asked for with a problem, a configuration and a start, and each of them
may be missing or unusable.  `Accepted` says that the three checks pass.
`Refused` lists what can be wrong, without the checks; the two exclude each other
and leave nothing out.

`Benchmark.climber` turns every request into an attempt.  A refused request gives
the blank result with an error and no event.  An accepted one gives the run of a
course, provided that the constraints can be obtained at all.  `Answer` lists these
two kinds of attempts, and later files only look at them.
-/

namespace Ascent.Climb

open Benchmark (Attempt blankResult climber)

variable {p? : Option Problem} {config : Config} {start? : Option Solution} {signal : Signal}

/-- A request that passes all checks. -/
structure Accepted (p? : Option Problem) (config : Config) (start? : Option Solution) :
    Prop where
  problem : Problem.validate p? = .ok ()
  config : config.validate = .ok ()
  start : Problem.check p? start? = .ok ()

/-- What can be wrong with a request. -/
inductive Refused : Option Problem → Config → Option Solution → Prop where
  | noProblem {config : Config} {start? : Option Solution} : Refused none config start?
  | noObjective {p : Problem} {config : Config} {start? : Option Solution}
      (missing : p.objective = none) : Refused (some p) config start?
  | emptyObjective {p : Problem} {o : Objective} {config : Config} {start? : Option Solution}
      (objective : p.objective = some o) (empty : o.length = 0) : Refused (some p) config start?
  | constraintWidth {p : Problem} {o : Objective} {c : Constraint} {config : Config}
      {start? : Option Solution} (objective : p.objective = some o) (member : c ∈ p.members)
      (differs : c.length ≠ o.length) : Refused (some p) config start?
  | negativeCap {p? : Option Problem} {config : Config} {start? : Option Solution}
      (negative : config.maxIterations < 0) : Refused p? config start?
  | unknownNeighborhood {p? : Option Problem} {config : Config} {start? : Option Solution}
      (unknown : config.neighborhood ≠ Config.singleBit) : Refused p? config start?
  | unknownSelection {p? : Option Problem} {config : Config} {start? : Option Solution}
      (unknown : config.selection ≠ Config.bestImprovement) : Refused p? config start?
  | noStart {p? : Option Problem} {config : Config} : Refused p? config none
  | startWidth {p : Problem} {o : Objective} {config : Config} {start : Solution}
      (objective : p.objective = some o) (differs : start.length ≠ o.length) :
      Refused (some p) config (some start)

/-! ## The checks -/

theorem Config.validate_eq_ok_iff :
    config.validate = .ok () ↔ 0 ≤ config.maxIterations ∧
      config.neighborhood = singleBit ∧ config.selection = bestImprovement := by
  by_cases negative : config.maxIterations < 0
  · simp [validate, negative]
  · by_cases neighborhood : config.neighborhood = singleBit
    · by_cases selection : config.selection = bestImprovement
      · simp [validate, negative, neighborhood, selection, Int.not_lt.mp negative]
      · simp [validate, negative, neighborhood, selection]
    · simp [validate, negative, neighborhood]

theorem check_eq_ok_iff {p : Problem} {o : Objective} (objective : p.objective = some o) :
    Problem.check (some p) start? = .ok () ↔
      ∃ start, start? = some start ∧ start.length = o.length := by
  cases start? with
  | none => simp [Problem.check]
  | some start =>
      by_cases width : start.length = o.length
      · simp [Problem.check, Problem.width, objective, width]
      · simp [Problem.check, Problem.width, objective, width]

/-- A start that fails its check at a problem with an objective is reported. -/
theorem exists_check_error {p : Problem} {o : Objective} (objective : p.objective = some o)
    (fails : Problem.check (some p) start? ≠ .ok ()) :
    ∃ error, Problem.check (some p) start? = .error (.rejected error) := by
  cases start? with
  | none => exact ⟨_, rfl⟩
  | some start =>
      have differs : start.length ≠ o.length :=
        fun width => fails ((check_eq_ok_iff objective).mpr ⟨start, rfl, width⟩)
      refine ⟨(Error.of (.solutionWidth start.length o.length)).within .problem, ?_⟩
      simp [Problem.check, Problem.width, objective, differs]

theorem Refused.not_accepted (refused : Refused p? config start?) :
    ¬ Accepted p? config start? := by
  intro accepted
  cases refused with
  | noProblem => exact absurd accepted.problem (by simp [Problem.validate])
  | noObjective missing =>
      rcases Problem.validate_eq_ok_iff.mp accepted.problem with ⟨o, objective, _, _⟩
      simp [missing] at objective
  | emptyObjective objective empty =>
      rcases Problem.validate_eq_ok_iff.mp accepted.problem with ⟨o, found, nonempty, _⟩
      obtain rfl := Option.some.inj (objective.symm.trans found)
      omega
  | constraintWidth objective member differs =>
      rcases Problem.validate_eq_ok_iff.mp accepted.problem with ⟨o, found, _, widths⟩
      obtain rfl := Option.some.inj (objective.symm.trans found)
      exact differs (widths _ member)
  | negativeCap negative =>
      exact absurd (Config.validate_eq_ok_iff.mp accepted.config).1 (Int.not_le.mpr negative)
  | unknownNeighborhood unknown =>
      exact unknown (Config.validate_eq_ok_iff.mp accepted.config).2.1
  | unknownSelection unknown =>
      exact unknown (Config.validate_eq_ok_iff.mp accepted.config).2.2
  | noStart => exact absurd accepted.start (by simp [Problem.check])
  | startWidth objective differs =>
      rcases (check_eq_ok_iff objective).mp accepted.start with ⟨start, found, width⟩
      obtain rfl := Option.some.inj found
      exact differs width

/-- A request with nothing wrong passes all checks. -/
theorem Accepted.of_not_refused (usable : ¬ Refused p? config start?) :
    Accepted p? config start? := by
  cases p? with
  | none => exact absurd Refused.noProblem usable
  | some p =>
      cases objective : p.objective with
      | none => exact absurd (Refused.noObjective objective) usable
      | some o =>
          have nonempty : 0 < o.length := by
            by_contra empty
            exact usable (Refused.emptyObjective objective (Nat.eq_zero_of_not_pos empty))
          have widths : ∀ c ∈ p.members, c.length = o.length := by
            intro c member
            by_contra differs
            exact usable (Refused.constraintWidth objective member differs)
          have valid : config.validate = .ok () := by
            refine Config.validate_eq_ok_iff.mpr ⟨?_, ?_, ?_⟩
            · by_contra negative
              exact usable (Refused.negativeCap (Int.not_le.mp negative))
            · by_contra unknown
              exact usable (Refused.unknownNeighborhood unknown)
            · by_contra unknown
              exact usable (Refused.unknownSelection unknown)
          refine ⟨Problem.validate_eq_ok_iff.mpr ⟨o, objective, nonempty, widths⟩, valid, ?_⟩
          cases start? with
          | none => exact absurd Refused.noStart usable
          | some start =>
              refine (check_eq_ok_iff objective).mpr ⟨start, rfl, ?_⟩
              by_contra differs
              exact usable (Refused.startWidth objective differs)

theorem refused_iff_not_accepted : Refused p? config start? ↔ ¬ Accepted p? config start? :=
  ⟨Refused.not_accepted, fun rejected => by
    by_contra usable
    exact rejected (Accepted.of_not_refused usable)⟩

/-! ## The attempts -/

/-- A request that fails a check gives an error and nothing else. -/
theorem climber_of_not_accepted (rejected : ¬ Accepted p? config start?) (signal : Signal) :
    ∃ error, climber config p? signal start? = .ok ⟨blankResult, some error, []⟩ := by
  rw [climber, solve]
  cases validated : Problem.validate p? with
  | error error => exact ⟨error, rfl⟩
  | ok =>
      cases valid : config.validate with
      | error error => exact ⟨error, rfl⟩
      | ok =>
          cases p? with
          | none => simp [Problem.validate] at validated
          | some p =>
              rcases Problem.validate_eq_ok_iff.mp validated with ⟨o, objective, _, _⟩
              have fails : Problem.check (some p) start? ≠ .ok () :=
                fun checked => rejected ⟨validated, valid, checked⟩
              rcases exists_check_error objective fails with ⟨error, checked⟩
              rw [checked]
              exact ⟨error.within .start, rfl⟩

/-- An accepted request with constraints that can be obtained is about a searchable
problem and a start of its width. -/
theorem Accepted.exists_searchable (accepted : Accepted p? config start?)
    (constructible : ∀ p ∈ p?, ∀ c ∈ p.members, c.Constructible) :
    ∃ p start, p? = some p ∧ start? = some start ∧ p.Searchable ∧
      start.length = p.weights.length := by
  cases p? with
  | none => exact absurd accepted.problem (by simp [Problem.validate])
  | some p =>
      have searchable : p.Searchable := ⟨accepted.problem, constructible p rfl⟩
      rcases Problem.validate_eq_ok_iff.mp accepted.problem with ⟨o, objective, _, _⟩
      rcases (check_eq_ok_iff objective).mp accepted.start with ⟨start, rfl, _⟩
      exact ⟨p, start, rfl, rfl, searchable, searchable.check_eq_ok_iff.mp accepted.start⟩

/-- What is kept of a run. -/
def Run.attempt (run : Run) : Attempt :=
  ⟨run.result, run.error, run.events⟩

theorem climber_of_solve {run : Run} (solved : solve p? config signal start? = .ok run) :
    climber config p? signal start? = .ok run.attempt := by
  rw [climber, solved]
  rfl

/-- The run of a course that begins with the first iteration. -/
def runAt (p : Problem) (s : Solution) (count : Nat) (stop : Stop) : Run :=
  (trailAt p 0 s count stop).run s.length s

/-- The attempt that answers a request. -/
inductive Answer : Option Problem → Config → Signal → Option Solution → Attempt → Prop where
  /-- A request that fails a check is answered with an error alone. -/
  | refused {p? : Option Problem} {config : Config} {signal : Signal} {start? : Option Solution}
      (rejected : ¬ Accepted p? config start?) (error : Error) :
      Answer p? config signal start? ⟨blankResult, some error, []⟩
  /-- Every other request is answered with the run of a course. -/
  | climbed {p : Problem} {config : Config} {signal : Signal} {start : Solution}
      {moves count : Nat} {stop : Stop} (accepted : Accepted (some p) config (some start))
      (searchable : p.Searchable) (width : start.length = p.weights.length)
      (course : Course p config signal 0 start moves count stop) :
      Answer (some p) config signal (some start) (runAt p start count stop).attempt

/-- Every request is answered if its constraints can be obtained. -/
theorem exists_answer (constructible : ∀ p ∈ p?, ∀ c ∈ p.members, c.Constructible)
    (config : Config) (signal : Signal) (start? : Option Solution) :
    ∃ attempt, climber config p? signal start? = .ok attempt ∧
      Answer p? config signal start? attempt := by
  by_cases accepted : Accepted p? config start?
  · rcases accepted.exists_searchable constructible with ⟨p, start, rfl, rfl, searchable, width⟩
    rcases exists_course searchable width accepted.config signal with
      ⟨moves, count, stop, course, solved⟩
    exact ⟨_, climber_of_solve solved, .climbed accepted searchable width course⟩
  · rcases climber_of_not_accepted accepted signal with ⟨error, refused⟩
    exact ⟨_, refused, .refused accepted error⟩

end Ascent.Climb
