import Ascent.Proofs.Benchmark.Climbs

/-!
# The blamed start

A start that is missing or has the wrong width makes its climb fail.  Which failure
is handed in first depends on the order of what happens, and once the signal is
raised the other climbs fail as well: the interrupted ones, and also climbs that would
have failed by themselves but are judged too late and look like interrupted ones.

None of these late errors is ever the first one.  The outcome of the pool is what a
climb from a refused start says when it is alone.
-/

namespace Ascent

/-- An error seen from one place further out is worded with this place in front. -/
theorem Error.message_within (place : Place) (error : Error) :
    (error.within place).message = place.text ++ ": " ++ error.message := by
  simp [message, within, String.append_assoc]

/-- A start that a problem cannot take, and what is wrong with it. -/
inductive Problem.Refuses (p : Problem) : Option Solution → Error → Prop where
  | missing : Refuses p none (.of .noSolution)
  | width {start : Solution} {width : Nat} (known : p.width = .ok width)
      (differs : start.length ≠ width) :
      Refuses p (some start) ((Error.of (.solutionWidth start.length width)).within .problem)

/-- A problem refuses the start at this place of a list. -/
def Problem.RefusesAt (p : Problem) (starts : List (Option Solution)) (i : Nat)
    (cause : Error) : Prop :=
  ∃ start?, starts[i]? = some start? ∧ p.Refuses start? cause

theorem Problem.Refuses.check_eq {p : Problem} {start? : Option Solution} {cause : Error}
    (refuses : p.Refuses start? cause) :
    Problem.check (some p) start? = .error (.rejected cause) := by
  cases refuses with
  | missing => rfl
  | width known differs => simp [Problem.check, known, differs]

namespace Climb

open Benchmark (Attempt Job blankResult climber)

variable {p : Problem} {config : Config} {reporters : List Reporter}
  {starts : List (Option Solution)} {start? : Option Solution} {cause : Error}
  {alone : Option Solution → Attempt} {i limit : Nat}

/-! ## Refused starts -/

/-- A start is refused, or it has the problem's width. -/
theorem refuses_or_width (searchable : p.Searchable) (start? : Option Solution) :
    (∃ cause, p.Refuses start? cause) ∨
      ∃ start, start? = some start ∧ p.width = .ok start.length := by
  cases start? with
  | none => exact Or.inl ⟨_, .missing⟩
  | some start =>
      have known := searchable.width_eq.1
      by_cases same : start.length = p.weights.length
      · exact Or.inr ⟨start, rfl, by rw [known, same]⟩
      · exact Or.inl ⟨_, .width known same⟩

/-- The error of the run with an index whose climb fails on account of its start. -/
def startError (i : Nat) (cause : Error) : Error :=
  ((cause.within .start).within .failedRun).within (.run i)

theorem message_startError (i : Nat) (cause : Error) :
    (startError i cause).message = s!"run {i}: solve error: start: " ++ cause.message := by
  have joined : ": solve error: start: " =
      ": " ++ ("solve error" ++ (": " ++ ("start" ++ ": "))) := by
    decide
  rw [joined]
  simp only [startError, Error.message_within, Place.text, String.append_assoc, toString]

/-- A run that failed by itself is not told as an interrupted one. -/
theorem interruptedRun_not_mem_startError (refuses : p.Refuses start? cause) (i : Nat) :
    Place.interruptedRun ∉ (startError i cause).path := by
  cases refuses <;> simp [startError, Error.of]

/-- The complaint about the climb from a refused start alone. -/
theorem verdict_of_refuses (searchable : p.Searchable) (valid : config.validate = .ok ())
    (answered : ∀ start?, climber config (some p) .never start? = .ok (alone start?))
    (refuses : p.Refuses start? cause) (starts : List (Option Solution)) (i : Nat) :
    (job reporters config p starts limit).verdict alone i start? =
      .ok (some (startError i cause)) := by
  have failed : climber config (some p) .never start? =
      .ok ⟨blankResult, some (cause.within .start), []⟩ := by
    simp [climber, solve, searchable.valid, valid, refuses.check_eq, Fault.within]
  have same := (answered start?).symm.trans failed
  rw [Job.verdict, Except.ok.inj same]
  rfl

/-! ## The outcome -/

/-- An outcome that is the error of a run with a refused start, told as a failure of
its own. -/
def BlamesStart (p : Problem) (starts : List (Option Solution))
    (outcome : Except Error (List Result)) : Prop :=
  ∃ i cause error, p.RefusesAt starts i cause ∧ outcome = .error error ∧
    error.message = s!"run {i}: solve error: start: " ++ cause.message ∧
    Place.interruptedRun ∉ error.path

theorem exists_startError_of_explained {outcome : Except Error (List Result)}
    (searchable : p.Searchable) (valid : config.validate = .ok ())
    (answered : ∀ start?, climber config (some p) .never start? = .ok (alone start?))
    (unfit : ∃ i cause, p.RefusesAt starts i cause)
    (explained : (job reporters config p starts limit).Explained alone outcome) :
    ∃ i cause, p.RefusesAt starts i cause ∧ outcome = .error (startError i cause) := by
  cases explained with
  | accepted unblamed =>
      rcases unfit with ⟨i, cause, start?, given, refuses⟩
      have judged := unblamed i start? given
      rw [verdict_of_refuses searchable valid answered refuses] at judged
      cases judged
  | @blamed i start? error given judged =>
      rcases refuses_or_width searchable start? with ⟨cause, refuses⟩ | ⟨start, rfl, width⟩
      · rw [verdict_of_refuses searchable valid answered refuses] at judged
        obtain rfl := Option.some.inj (Except.ok.inj judged)
        exact ⟨i, cause, ⟨start?, given, refuses⟩, rfl⟩
      · rw [verdict_of_width searchable valid answered width] at judged
        cases judged

/-- If some start is missing or has another width than the problem, a pool gives back
no results, whatever its size is and in whatever order things happen, but the error of
a climb from such a start; it is told as a failure of this climb, never as an
interruption.  The same holds of the runner that takes the climbs in order.  If there
is only one such start, the error is always the same. -/
theorem pool_blames_start (searchable : p.Searchable) (valid : config.validate = .ok ())
    (reporters : List Reporter) (unfit : ∃ i cause, p.RefusesAt starts i cause) :
    (∀ limit, 0 < limit →
      (job reporters config p starts limit).Delivers (BlamesStart p starts)) ∧
    (∃ batch, Benchmark.run (climber config) (some p) none starts = .ok batch ∧
      BlamesStart p starts batch.results) ∧
    ((∃! i, ∃ cause, p.RefusesAt starts i cause) → ∃ error, ∀ limit, 0 < limit →
      (job reporters config p starts limit).Delivers (· = .error error)) := by
  rcases exists_alone searchable config with ⟨alone, answered⟩
  have explains : ∀ limit, 0 < limit → (job reporters config p starts limit).Delivers
      fun outcome => ∃ i cause, p.RefusesAt starts i cause ∧
        outcome = .error (startError i cause) := fun limit room =>
    (job_orderly searchable answered reporters starts room).delivers.imp fun _ explained =>
      exists_startError_of_explained searchable valid answered unfit explained
  have blames : ∀ limit, 0 < limit →
      (job reporters config p starts limit).Delivers (BlamesStart p starts) := by
    intro limit room
    refine (explains limit room).imp ?_
    rintro outcome ⟨i, cause, ⟨start?, given, refuses⟩, same⟩
    exact ⟨i, cause, _, ⟨start?, given, refuses⟩, same, message_startError i cause,
      interruptedRun_not_mem_startError refuses i⟩
  refine ⟨blames, ?_, ?_⟩
  · rcases exists_batch_climber searchable config starts with ⟨batch, ran⟩
    exact ⟨batch, ran, (blames 1 Nat.one_pos).kept_by_run
      (process_implements reporters config searchable.constructible) Nat.one_pos ran⟩
  · rintro ⟨i, ⟨cause, start?, given, refuses⟩, only⟩
    refine ⟨startError i cause, fun limit room => (explains limit room).imp ?_⟩
    rintro outcome ⟨j, otherCause, ⟨other?, otherGiven, otherRefuses⟩, rfl⟩
    obtain rfl := only j ⟨otherCause, other?, otherGiven, otherRefuses⟩
    obtain rfl := Option.some.inj (given.symm.trans otherGiven)
    have sameCause := refuses.check_eq.symm.trans otherRefuses.check_eq
    rw [Fault.rejected.inj (Except.error.inj sameCause)]

/-- A start for the knapsack, no start, and a start that is too short. -/
def mixedStarts : List (Option Solution) :=
  [some (.zeros 10), none, some (.zeros 3)]

/-- The climbs from these starts, all of them at a time. -/
def mixedJob : Job (Solution × Loop) :=
  job [] .default .knapsack mixedStarts 3

/-- The climb without a start is overtaken by the one with the short start: it is told
as an interrupted one, but by then the other error has been handed in.  If the short
start is left out, there is only one error. -/
theorem pool_blames_start_overtaken :
    mixedJob.Delivers (BlamesStart .knapsack mixedStarts) ∧
    (∃ error, ∀ limit, 0 < limit →
      (job [] .default .knapsack (mixedStarts.take 2) limit).Delivers (· = .error error)) ∧
    ∃ late last, mixedJob.Reaches mixedJob.initial late ∧
      late.phases[1]? = some (.failed
        ((((Error.of .noSolution).within .start).within .interruptedRun).within (.run 1))) ∧
      mixedJob.Reaches late last ∧ last.Complete ∧
      last.outcome =
        .error (startError 2 ((Error.of (.solutionWidth 3 10)).within .problem)) := by
  have valid : Config.default.validate = .ok () := rfl
  have missing : Problem.knapsack.RefusesAt mixedStarts 1 (.of .noSolution) :=
    ⟨none, rfl, .missing⟩
  have missingOfTwo : Problem.knapsack.RefusesAt (mixedStarts.take 2) 1 (.of .noSolution) :=
    ⟨none, rfl, .missing⟩
  have only : ∀ i cause, Problem.knapsack.RefusesAt (mixedStarts.take 2) i cause → i = 1 := by
    rintro i cause ⟨start?, given, refuses⟩
    match i with
    | 0 =>
        obtain rfl := Option.some.inj given
        have checked : Problem.check (some .knapsack) (some (.zeros 10)) = .ok () := rfl
        rw [refuses.check_eq] at checked
        cases checked
    | 1 => rfl
    | i + 2 => simp [mixedStarts] at given
  refine ⟨(pool_blames_start Problem.knapsack_searchable valid [] ⟨1, _, missing⟩).1 3 (by decide),
    ?_, ?_⟩
  · exact (pool_blames_start Problem.knapsack_searchable valid [] ⟨1, _, missingOfTwo⟩).2.2
      ⟨1, ⟨_, missingOfTwo⟩, fun i ⟨cause, refused⟩ => only i cause refused⟩
  · -- The short start is handed in and the signal raised before the other climbs go on.
    have played : ∃ late,
        mixedJob.play [0, 1, 2, 2, 2, 2, 2, 1, 1] mixedJob.initial = .ok (some late) ∧
      late.phases[1]? = some (.failed
        ((((Error.of .noSolution).within .start).within .interruptedRun).within (.run 1))) ∧
      ∃ last, mixedJob.play [1, 0, 0, 0, 0] late = .ok (some last) ∧
        last.phases = [.finished, .finished, .finished] ∧
        last.outcome =
          .error (startError 2 ((Error.of (.solutionWidth 3 10)).within .problem)) :=
      ⟨_, rfl, rfl, _, rfl, rfl, rfl⟩
    rcases played with ⟨late, early, mislabelled, last, rest, phases, outcome⟩
    refine ⟨late, last, Job.reaches_of_play early, mislabelled, Job.reaches_of_play rest, ?_,
      outcome⟩
    intro phase member
    simpa [phases] using member

end Climb

end Ascent
