import Ascent.Proofs.Climb.Loop
import Ascent.Proofs.Climb.Termination
import Ascent.Proofs.Lookup

/-!
# A climb never breaks down

The loop of a climb insists where it could ask: it evaluates without looking at the
error, takes rules by name, and reads lists at computed places.  Nothing of this
can go wrong in a request that a caller can put together.  The checks in front of
the loop are strong enough for every solution that the climb reaches, because all
of them have the width of the start.  A constraint without a comparison could only
be the blank one; it has no weights, so the check of the widths finds it.

An error is therefore an answer.  If nothing interrupts the climb, it is given
exactly for the requests that are `Refused`.
-/

namespace Ascent

namespace Climb

open Benchmark (Attempt climber)

variable {p? : Option Problem} {config : Config} {start? : Option Solution}

/-! ## Errors are answers -/

/-- A climb that nothing interrupts ends without an error. -/
theorem Course.error?_never {p : Problem} {s : Solution} {first moves count : Nat} {stop : Stop}
    (course : Course p config .never first s moves count stop) : stop.error? = none := by
  rcases course.ending with ⟨_, rfl, _⟩ | ⟨_, cut⟩
  · rfl
  · rw [eq_iterationCap_of_never cut]
    rfl

/-- Without an interruption an answer has an error exactly if the request is refused. -/
theorem Answer.error_isSome_iff {attempt : Attempt}
    (answer : Answer p? config .never start? attempt) :
    attempt.error.isSome ↔ Refused p? config start? := by
  rw [refused_iff_not_accepted]
  cases answer with
  | refused rejected error => simp [rejected]
  | @climbed p _ _ start _ count stop accepted _ _ course =>
      have noError : (runAt p start count stop).attempt.error = none := course.error?_never
      simp [noError, accepted]

/-- No request that a caller can put together makes the loop break down, whatever
its configuration, its problem, its signal, its start and its reporters are, and
no weight is looked up that is not there.  If nothing interrupts the climb, its
answer is an error exactly for the refused requests. -/
theorem solve_never_breaks (reporters : List Reporter) (config : Config) (p? : Option Problem)
    (start? : Option Solution)
    (constructible : ∀ p ∈ p?, ∀ c ∈ p.members, c.Constructible) :
    (∀ signal, ∃ attempt, Loop.solve reporters config p? signal start? = .ok attempt ∧
      climber config p? signal start? = .ok attempt) ∧
    (∀ (o : Objective) (s : Solution),
      indexedSum .objective o.weights s = report (o.evaluate s)) ∧
    (∀ (c : Constraint) (s : Solution),
      indexedSum .constraint c.weights s = report (c.value s)) ∧
    ∃ attempt, Loop.solve reporters config p? .never start? = .ok attempt ∧
      (attempt.error.isSome ↔ Refused p? config start?) := by
  refine ⟨?_, indexedSum_objective, indexedSum_constraint, ?_⟩
  · intro signal
    rcases exists_answer constructible config signal start? with ⟨attempt, answered, _⟩
    rw [Loop.solve_eq_climber reporters config p? signal start? constructible]
    exact ⟨attempt, answered, answered⟩
  · rcases exists_answer constructible config .never start? with ⟨attempt, answered, answer⟩
    rw [Loop.solve_eq_climber reporters config p? .never start? constructible]
    exact ⟨attempt, answered, answer.error_isSome_iff⟩

/-- A problem with a constraint about which nothing was said. -/
def blankConstrained : Problem where
  name := "blank-constrained"
  objective := some ⟨[5, -3]⟩
  constraints := some ⟨[.blank]⟩

/-- The blank constraint is refused by its width, so its missing comparison is not
noticed. -/
theorem solve_never_breaks_blank :
    ∃ attempt, Loop.solve [.journal (.writing ()), .table .empty, .recorder .empty] .default
        (some blankConstrained) .never (some (.zeros 2)) = .ok attempt ∧
      attempt.error = some ⟨[.problem, .member 0], .weightCount 0 2⟩ ∧
      Refused (some blankConstrained) .default (some (.zeros 2)) := by
  have constructible : ∀ p ∈ some blankConstrained, ∀ c ∈ p.members, c.Constructible := by
    intro p here c member
    obtain rfl : blankConstrained = p := Option.some.inj here
    obtain rfl : c = .blank := by simpa [blankConstrained, Problem.members] using member
    exact Constraint.Constructible.blank
  rcases solve_never_breaks [.journal (.writing ()), .table .empty, .recorder .empty] .default
      (some blankConstrained) (some (.zeros 2)) constructible with
    ⟨_, _, _, attempt, answered, refused⟩
  have evaluated : (Loop.solve [.journal (.writing ()), .table .empty, .recorder .empty] .default
      (some blankConstrained) .never (some (.zeros 2))).map (fun attempt => attempt.error) =
        .ok (some ⟨[.problem, .member 0], .weightCount 0 2⟩) := rfl
  rw [answered] at evaluated
  have error := Except.ok.inj evaluated
  exact ⟨attempt, answered, error, refused.mp (by simp [error])⟩

end Climb

end Ascent
