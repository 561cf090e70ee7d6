import Ascent.Proofs.Benchmark.Pool

/-!
# Runs one after the other as an execution of a pool

`Benchmark.run` takes the runs in the order of their starts and decides beforehand
what signal each of them gets.  It is one of the executions of a pool: the one that
launches a run only after all runs before it are finished.

So whatever is true of all executions of a pool is true of `Benchmark.run`.
-/

namespace Ascent.Benchmark

variable {σ : Type} {job : Job σ} {pool : Pool σ} {optimizer : Optimizer}

namespace Pool

/-! ## Changing the phase of one run -/

@[simp]
theorem put_put (pool : Pool σ) (i : Nat) (phase later : Phase σ) :
    (pool.put i phase).put i later = pool.put i later := by
  simp [put]

theorem phases_put_self {i : Nat} (inside : i < pool.phases.length) (phase : Phase σ) :
    (pool.put i phase).phases[i]? = some phase :=
  List.getElem?_set_self inside

/-! ## Between two runs -/

/-- The first `finished` runs are finished and the other ones wait. -/
structure Paused (pool : Pool σ) (finished waiting : Nat) : Prop where
  phases : pool.phases = List.replicate finished .finished ++ List.replicate waiting .waiting
  results : pool.results.length = finished + waiting
  signal : pool.signal = pool.failure.map fun _ => .cancelled

namespace Paused

variable {finished waiting : Nat}

theorem lt_length (paused : pool.Paused finished (waiting + 1)) :
    finished < pool.phases.length := by
  simp [paused.phases]

theorem getElem?_phases (paused : pool.Paused finished (waiting + 1)) :
    pool.phases[finished]? = some .waiting := by
  simp [paused.phases]

theorem admits (paused : pool.Paused finished (waiting + 1)) {limit : Nat} (room : 0 < limit) :
    pool.admits limit finished = true := by
  have free : pool.phases.countP Phase.active = 0 := by
    simp [paused.phases, List.countP_replicate, Phase.active]
  have before : (pool.phases.take finished).all Phase.launched = true := by
    simp [paused.phases, Phase.launched]
  simp [Pool.admits, free, before, room]

theorem complete (paused : pool.Paused finished 0) : pool.Complete := by
  intro phase member
  rw [paused.phases, List.replicate_zero, List.append_nil] at member
  exact List.eq_of_mem_replicate member

/-- Finishing the first run that waits leaves one less. -/
theorem set_phases (paused : pool.Paused finished (waiting + 1)) :
    pool.phases.set finished .finished =
      List.replicate (finished + 1) .finished ++ List.replicate waiting .waiting := by
  rw [paused.phases, List.set_append_right _ _ (by simp), List.length_replicate, Nat.sub_self,
    List.replicate_succ, List.set_cons_zero, List.replicate_succ', List.append_assoc]
  rfl

end Paused

end Pool

/-! ## One run -/

namespace Job

/-- A process whose signal stays as it is goes on until it answers. -/
theorem reaches_answered {i looks : Nat} {attempt : Attempt} {progress : Progress σ}
    (inside : i < pool.phases.length)
    (leads : job.process.Leads pool.signal attempt looks progress) :
    job.Reaches (pool.put i (.ofProgress progress)) (pool.put i (.answered attempt)) := by
  induction leads with
  | answer => exact .refl
  | @more looks state progress resumed rest ih =>
      have taken : job.Step i (pool.put i (.working state))
          ((pool.put i (.working state)).put i (.ofProgress progress)) :=
        .resume (Pool.phases_put_self inside _) resumed
      rw [Pool.put_put] at taken
      exact .head ⟨i, taken⟩ ih

/-- The first run that waits can be made from its launch to its answer. -/
theorem reaches_of_answers {finished waiting : Nat} {start? : Option Solution}
    {attempt : Attempt} (paused : pool.Paused finished (waiting + 1)) (room : 0 < job.limit)
    (start : job.starts[finished]? = some start?)
    (answers : job.process.Answers pool.signal start? attempt) :
    job.Reaches pool (pool.put finished (.answered attempt)) := by
  rcases answers with ⟨looks, progress, entered, leads⟩
  have entering : job.Step finished (pool.put finished .ready)
      ((pool.put finished .ready).put finished (.ofProgress progress)) :=
    .enter (Pool.phases_put_self paused.lt_length _) start entered
  rw [Pool.put_put] at entering
  exact .head ⟨_, .launch paused.getElem?_phases (paused.admits room)⟩
    (.head ⟨_, entering⟩ (reaches_answered paused.lt_length leads))

/-- The first run that fails can hand in its error and raise the signal at once. -/
theorem reaches_raised {i : Nat} {error : Error} (inside : i < pool.phases.length)
    (first : pool.failure = none) :
    job.Reaches (pool.put i (.failed error))
      { pool.put i .finished with failure := some error, signal := some .cancelled } := by
  have recorded : job.Step i (pool.put i (.failed error))
      { (pool.put i (.failed error)).put i .raising with failure := some error } :=
    .record (Pool.phases_put_self inside _) first
  rw [Pool.put_put] at recorded
  have raised : job.Step i { pool.put i .raising with failure := some error } _ :=
    .raise (Pool.phases_put_self inside _)
  have both : job.Reaches (pool.put i (.failed error)) _ :=
    .head ⟨i, recorded⟩ (.single ⟨i, raised⟩)
  simpa [Pool.put] using both

/-- A run that has answered can be judged and finished before anything else happens. -/
theorem exists_paused_of_judged {finished waiting : Nat} {attempt : Attempt}
    {found : Option Error} (paused : pool.Paused finished (waiting + 1))
    (judged : complaint finished pool.signal job.problem.width attempt = .ok found) :
    ∃ next, job.Reaches (pool.put finished (.answered attempt)) next ∧
      next.Paused (finished + 1) waiting ∧ next.failure = (pool.failure <|> found) ∧
      (next.failure = none → next.results = pool.results.set finished attempt.result) := by
  have answered := Pool.phases_put_self paused.lt_length (.answered attempt)
  have lengths : pool.results.length = finished + 1 + waiting := by
    rw [paused.results]
    omega
  cases found with
  | none =>
      have stored : job.Step finished (pool.put finished (.answered attempt))
          { (pool.put finished (.answered attempt)).put finished .finished with
            results := pool.results.set finished attempt.result } :=
        .store answered judged
      rw [Pool.put_put] at stored
      have unchanged : pool.failure = (pool.failure <|> none) := by
        cases pool.failure <;> rfl
      exact ⟨_, .single ⟨_, stored⟩,
        ⟨paused.set_phases, List.length_set.trans lengths, paused.signal⟩, unchanged, fun _ => rfl⟩
  | some error =>
      have complained : job.Step finished (pool.put finished (.answered attempt))
          ((pool.put finished (.answered attempt)).put finished (.failed error)) :=
        .complain answered judged
      rw [Pool.put_put] at complained
      cases failure : pool.failure with
      | some first =>
          have dropped : job.Step finished (pool.put finished (.failed error))
              ((pool.put finished (.failed error)).put finished .finished) :=
            .drop (Pool.phases_put_self paused.lt_length _) (by simp [Pool.put, failure])
          rw [Pool.put_put] at dropped
          exact ⟨_, .head ⟨_, complained⟩ (.single ⟨_, dropped⟩),
            ⟨paused.set_phases, lengths, paused.signal⟩, failure,
            fun clean => by simp [Pool.put, failure] at clean⟩
      | none =>
          exact ⟨_, .head ⟨_, complained⟩ (reaches_raised paused.lt_length failure),
            ⟨paused.set_phases, lengths, rfl⟩, rfl, fun clean => by cases clean⟩

/-! ## All runs -/

/-- The runs that are left, taken in order, are an execution of the pool from where it
stands. -/
theorem exists_complete_of_runFrom {finished : Nat} {rest : List (Option Solution)}
    {batch : Batch} (implements : job.process.Implements optimizer job.problem)
    (room : 0 < job.limit) (paused : pool.Paused finished rest.length)
    (remaining : job.starts.drop finished = rest)
    (ran : runFrom optimizer (some job.problem) none finished pool.failure rest = .ok batch) :
    ∃ last, job.Reaches pool last ∧ last.Complete ∧ last.failure = batch.failure ∧
      (last.failure = none → pool.failure = none ∧
        last.results = pool.results.take finished ++ batch.attempts.map (·.2.result)) := by
  induction rest generalizing finished pool batch with
  | nil =>
      obtain rfl := Except.ok.inj ran
      refine ⟨pool, .refl, paused.complete, rfl, fun clean => ⟨clean, ?_⟩⟩
      have all : pool.results.length ≤ finished := Nat.le_of_eq paused.results
      rw [List.map_nil, List.append_nil, List.take_of_length_le all]
  | cons start? rest ih =>
      have start : job.starts[finished]? = some start? := by
        simpa [List.getElem?_drop] using congrArg List.head? remaining
      have others : job.starts.drop (finished + 1) = rest := by
        simpa using congrArg List.tail remaining
      rcases bind_eq_ok_iff.mp ran with ⟨attempt, optimized, ran⟩
      rcases bind_eq_ok_iff.mp ran with ⟨found, judged, ran⟩
      rcases bind_eq_ok_iff.mp ran with ⟨later, restRan, ran⟩
      obtain rfl := Except.ok.inj ran
      have answers := implements _ start? attempt optimized
      rw [← paused.signal] at answers
      rw [← paused.signal, present_some, ok_bind] at judged
      rcases exists_paused_of_judged paused judged with
        ⟨next, reached, nextPaused, failure, stored⟩
      rw [← failure] at restRan
      rcases ih nextPaused others restRan with ⟨last, continued, complete, same, results⟩
      refine ⟨last, ((reaches_of_answers paused room start answers).trans reached).trans continued,
        complete, same, fun clean => ?_⟩
      rcases results clean with ⟨nextClean, results⟩
      have inside : finished < pool.results.length := by
        rw [paused.results, List.length_cons]
        omega
      have untouched : pool.failure = none := by
        cases failed : pool.failure with
        | none => rfl
        | some error => simp [nextClean, failed] at failure
      refine ⟨untouched, ?_⟩
      have kept : next.results.take (finished + 1) =
          pool.results.take finished ++ [attempt.result] := by
        rw [stored nextClean, List.take_add_one, List.take_set_of_le (Nat.le_refl _),
          List.getElem?_set_self inside]
        rfl
      rw [results, kept, List.append_assoc]
      rfl

/-- What the runner gives back when it takes the runs in order is the outcome of an
execution of the pool. -/
theorem exists_complete_of_run {batch : Batch}
    (implements : job.process.Implements optimizer job.problem) (room : 0 < job.limit)
    (ran : Benchmark.run optimizer (some job.problem) none job.starts = .ok batch) :
    ∃ last, job.Reaches job.initial last ∧ last.Complete ∧ last.outcome = batch.results := by
  have paused : job.initial.Paused 0 job.starts.length :=
    ⟨by simp [initial], by simp [initial], rfl⟩
  rcases exists_complete_of_runFrom implements room paused rfl ran with
    ⟨last, reached, complete, same, results⟩
  refine ⟨last, reached, complete, ?_⟩
  rw [Pool.outcome, Batch.results, same]
  cases failure : batch.failure with
  | some error => rfl
  | none =>
      rcases results (same.trans failure) with ⟨_, results⟩
      rw [results]
      rfl

/-- The runner that takes the runs in order keeps every promise about a pool. -/
theorem Delivers.kept_by_run {promise : Except Error (List Result) → Prop} {batch : Batch}
    (delivers : job.Delivers promise)
    (implements : job.process.Implements optimizer job.problem) (room : 0 < job.limit)
    (ran : Benchmark.run optimizer (some job.problem) none job.starts = .ok batch) :
    promise batch.results := by
  rcases exists_complete_of_run implements room ran with ⟨last, reached, complete, same⟩
  rw [← same]
  exact delivers.kept reached complete

/-- If the runner that takes the runs in order finds results, every execution of the
pool gives these results. -/
theorem Orderly.delivers_of_run {alone : Option Solution → Attempt} {batch : Batch}
    {results : List Result} (orderly : job.Orderly alone)
    (implements : job.process.Implements optimizer job.problem)
    (ran : Benchmark.run optimizer (some job.problem) none job.starts = .ok batch)
    (found : batch.results = .ok results) : job.Delivers (· = .ok results) := by
  have explained := orderly.delivers.kept_by_run implements orderly.room ran
  rw [found] at explained
  cases explained with
  | accepted unblamed =>
      refine orderly.delivers.imp fun outcome explained => ?_
      cases explained with
      | accepted => rfl
      | @blamed i start? error given judged =>
          -- No run alone has a complaint, so no execution has one.
          rw [unblamed i start? given] at judged
          cases judged

end Job

/-- The runner finds an outcome if every run is answered. -/
theorem exists_batch {p : Problem} (width : ∃ width, p.width = .ok width)
    (answered : ∀ interrupt start?, ∃ attempt,
      optimizer (some p) (signalOf interrupt) start? = .ok attempt)
    (starts : List (Option Solution)) :
    ∃ batch, run optimizer (some p) none starts = .ok batch := by
  suffices ran : ∀ index failure, ∃ batch,
      runFrom optimizer (some p) none index failure starts = .ok batch from ran 0 none
  induction starts with
  | nil => exact fun index failure => ⟨_, rfl⟩
  | cons start? rest ih =>
      intro index failure
      rcases answered (none <|> failure.map fun _ => .cancelled) start? with ⟨attempt, optimized⟩
      rcases exists_complaint width index (none <|> failure.map fun _ => .cancelled) attempt with
        ⟨found, judged⟩
      rcases ih (index + 1) (failure <|> found) with ⟨batch, ran⟩
      refine ⟨{ batch with attempts := (start?, attempt) :: batch.attempts }, ?_⟩
      rw [runFrom, optimized, ok_bind, present_some, ok_bind, judged, ok_bind, ran]
      rfl

end Ascent.Benchmark
