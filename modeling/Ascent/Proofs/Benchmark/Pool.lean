import Mathlib.Algebra.Order.BigOperators.Group.Finset
import Mathlib.Logic.Relation
import Ascent.Benchmark.Pool
import Ascent.Proofs.Evaluation

/-!
# What a pool gives back

The runs of a pool influence each other through the signal and through the first
error.  This file shows that this does not reach the outcome: a complete pool gives
back the results that the runs give alone, or the complaint about one of these.

The invariant is `Pool.Sound`.  As long as no error has been handed in, the signal is
not raised, and every run is at a place where it would also be alone.  After that
nothing is claimed of what the runs hold, only that they still come to an end; the
error that was handed in stays.  So a run that was cut short can hand in its error,
but never as the first one.

The invariant also has a bound on how often each run will do something, so that the
same step lemma shows that every execution ends.
-/

namespace Ascent.Benchmark

variable {σ : Type}

/-! ## Runs alone -/

namespace Process

/-- From this progress a process comes to the attempt after a number of looks at a
signal that stays as it is. -/
inductive Leads (process : Process σ) (interrupt : Option Interrupt) (attempt : Attempt) :
    (looks : Nat) → Progress σ → Prop where
  | answer : Leads process interrupt attempt 0 (.answer attempt)
  | more {looks : Nat} {state : σ} {progress : Progress σ}
      (resumed : process.resume interrupt state = .ok progress)
      (rest : Leads process interrupt attempt looks progress) :
      Leads process interrupt attempt (looks + 1) (.more state)

/-- Under a signal that stays as it is, a process makes the attempt of a start. -/
def Answers (process : Process σ) (interrupt : Option Interrupt) (start? : Option Solution)
    (attempt : Attempt) : Prop :=
  ∃ looks progress, process.enter start? = .ok progress ∧
    process.Leads interrupt attempt looks progress

/-- The process does what the optimizer does at a problem, under every signal that stays
as it is. -/
def Implements (process : Process σ) (optimizer : Optimizer) (p : Problem) : Prop :=
  ∀ interrupt start? attempt, optimizer (some p) (signalOf interrupt) start? = .ok attempt →
    process.Answers interrupt start? attempt

end Process

/-- An attempt at a problem with a width can be judged. -/
theorem exists_complaint {problem : Problem} (width : ∃ width, problem.width = .ok width)
    (i : Nat) (interrupt : Option Interrupt) (attempt : Attempt) :
    ∃ found, complaint i interrupt problem.width attempt = .ok found := by
  rcases width with ⟨width, known⟩
  rw [complaint, known]
  cases attempt.error with
  | some error => exact ⟨_, rfl⟩
  | none => cases attempt.result.solution <;> exact ⟨_, rfl⟩

namespace Job

variable {job : Job σ} {alone : Option Solution → Attempt} {pool next : Pool σ} {i : Nat}

/-- A job whose runs come to an end: without a signal they make the attempts `alone`,
and under a raised one they answer when they look at it. -/
structure Orderly (job : Job σ) (alone : Option Solution → Attempt) : Prop where
  answers : ∀ start? ∈ job.starts, job.process.Answers none start? (alone start?)
  prompt : ∀ interrupt state, ∃ attempt,
    job.process.resume (some interrupt) state = .ok (.answer attempt)
  width : ∃ width, job.problem.width = .ok width
  room : 0 < job.limit

/-- The complaint about a run alone. -/
def verdict (job : Job σ) (alone : Option Solution → Attempt) (i : Nat)
    (start? : Option Solution) : Except Fault (Option Error) :=
  complaint i none job.problem.width (alone start?)

/-- An outcome that the runs alone account for: all their results, or the complaint
about one of them. -/
inductive Explained (job : Job σ) (alone : Option Solution → Attempt) :
    Except Error (List Result) → Prop where
  | accepted (unblamed : ∀ i start?, job.starts[i]? = some start? →
        job.verdict alone i start? = .ok none) :
      Explained job alone (.ok (job.starts.map fun start? => (alone start?).result))
  | blamed {i : Nat} {start? : Option Solution} {error : Error}
      (start : job.starts[i]? = some start?)
      (judged : job.verdict alone i start? = .ok (some error)) :
      Explained job alone (.error error)

/-! ## Executions -/

/-- The function and the relation say the same about the next thing. -/
theorem act_eq_ok_some_iff : job.act pool i = .ok (some next) ↔ job.Step i pool next := by
  constructor
  · intro acted
    rw [act] at acted
    split at acted
    case h_1 here =>
      split at acted
      case isTrue admitted =>
        obtain rfl := Option.some.inj (Except.ok.inj acted)
        exact .launch here admitted
      case isFalse => cases acted
    case h_2 here =>
      rcases bind_eq_ok_iff.mp acted with ⟨start?, found, acted⟩
      rcases bind_eq_ok_iff.mp acted with ⟨progress, entered, acted⟩
      obtain rfl := Option.some.inj (Except.ok.inj acted)
      cases start : job.starts[i]? with
      | none => simp [start, present] at found
      | some other =>
          obtain rfl : other = start? := by simpa [start] using found
          exact .enter here start entered
    case h_3 here =>
      rcases bind_eq_ok_iff.mp acted with ⟨progress, resumed, acted⟩
      obtain rfl := Option.some.inj (Except.ok.inj acted)
      exact .resume here resumed
    case h_4 here =>
      rcases bind_eq_ok_iff.mp acted with ⟨found, judged, acted⟩
      cases found with
      | none =>
          obtain rfl := Option.some.inj (Except.ok.inj acted)
          exact .store here judged
      | some error =>
          obtain rfl := Option.some.inj (Except.ok.inj acted)
          exact .complain here judged
    case h_5 here =>
      cases failure : pool.failure with
      | none =>
          rw [failure] at acted
          obtain rfl := Option.some.inj (Except.ok.inj acted)
          exact .record here failure
      | some first =>
          rw [failure] at acted
          obtain rfl := Option.some.inj (Except.ok.inj acted)
          exact .drop here (by simp [failure])
    case h_6 here =>
      obtain rfl := Option.some.inj (Except.ok.inj acted)
      exact .raise here
    case h_7 => cases acted
    case h_8 => cases acted
  · intro step
    cases step with
    | launch here admitted => simp [act, here, admitted]
    | enter here start entered => simp [act, here, start, entered]
    | resume here resumed => simp [act, here, resumed]
    | store here judged => simp [act, here, judged]
    | complain here judged => simp [act, here, judged]
    | record here first => simp [act, here, first]
    | drop here later =>
        cases failure : pool.failure with
        | none => exact absurd failure later
        | some first => simp [act, here, failure]
    | raise here => simp [act, here]

/-- The second pool comes out of the first one. -/
abbrev Reaches (job : Job σ) : Pool σ → Pool σ → Prop :=
  Relation.ReflTransGen job.Next

/-- A schedule that can be played is an execution. -/
theorem reaches_of_play {schedule : List Nat} (played : job.play schedule pool = .ok (some next)) :
    job.Reaches pool next := by
  induction schedule generalizing pool with
  | nil =>
      obtain rfl := Option.some.inj (Except.ok.inj played)
      exact .refl
  | cons i rest ih =>
      rcases bind_eq_ok_iff.mp played with ⟨taken?, acted, played⟩
      cases taken? with
      | none => cases played
      | some taken => exact .head ⟨i, act_eq_ok_some_iff.mp acted⟩ (ih played)

/-- Only a launch takes a place of the pool, and only if there is one. -/
theorem Step.active_le (taken : job.Step i pool next)
    (bounded : pool.phases.countP Phase.active ≤ job.limit) :
    next.phases.countP Phase.active ≤ job.limit := by
  have keeps {phase later : Phase σ} (here : pool.phases[i]? = some phase)
      (active : phase.active = true) :
      (pool.phases.set i later).countP Phase.active ≤ job.limit := by
    rcases List.getElem?_eq_some_iff.mp here with ⟨inside, rfl⟩
    have counted : 0 < pool.phases.countP Phase.active :=
      List.countP_pos_iff.mpr ⟨_, List.getElem_mem inside, active⟩
    rw [List.countP_set inside, active]
    cases later.active <;> simp only [Bool.false_eq_true, if_true, if_false] <;> omega
  cases taken with
  | launch here admitted =>
      rcases List.getElem?_eq_some_iff.mp here with ⟨inside, waits⟩
      have free : pool.phases.countP Phase.active < job.limit := by
        rw [Pool.admits, Bool.and_eq_true, decide_eq_true_eq] at admitted
        exact admitted.1
      change (pool.phases.set i .ready).countP Phase.active ≤ job.limit
      rw [List.countP_set inside, waits]
      exact free
  | enter here | resume here | store here | complain here | record here | drop here
  | raise here => exact keeps here rfl

/-- What holds in every execution of a job: it ends, no run breaks down, there are never
more runs under way than the limit says, the pool is complete when nothing can be done
any more, and its outcome is as promised. -/
structure Delivers (job : Job σ) (promise : Except Error (List Result) → Prop) : Prop where
  ends : Acc (fun next pool => job.Next pool next) job.initial
  bounded : ∀ {pool}, job.Reaches job.initial pool →
    pool.phases.countP Phase.active ≤ job.limit
  unbroken : ∀ {pool}, job.Reaches job.initial pool → ∀ i, ∃ next?, job.act pool i = .ok next?
  unstuck : ∀ {pool}, job.Reaches job.initial pool → pool.Complete ∨ ∃ next, job.Next pool next
  kept : ∀ {pool}, job.Reaches job.initial pool → pool.Complete → promise pool.outcome

namespace Delivers

variable {promise weaker : Except Error (List Result) → Prop}

theorem imp (delivers : job.Delivers promise)
    (implied : ∀ outcome, promise outcome → weaker outcome) : job.Delivers weaker where
  ends := delivers.ends
  bounded := delivers.bounded
  unbroken := delivers.unbroken
  unstuck := delivers.unstuck
  kept reached complete := implied _ (delivers.kept reached complete)

/-- Some execution makes the pool complete. -/
theorem exists_complete (delivers : job.Delivers promise) :
    ∃ pool, job.Reaches job.initial pool ∧ pool.Complete := by
  suffices complete : ∀ pool, Acc (fun next pool => job.Next pool next) pool →
      job.Reaches job.initial pool → ∃ last, job.Reaches job.initial last ∧ last.Complete from
    complete _ delivers.ends .refl
  intro pool accessible
  induction accessible with
  | intro pool _ ih =>
      intro reached
      rcases delivers.unstuck reached with complete | ⟨next, taken⟩
      · exact ⟨pool, reached, complete⟩
      · exact ih next taken (reached.tail taken)

end Delivers

end Job

/-! ## The invariant -/

/-- What is known of a run in a phase, and a bound on how often it will still do
something; `failure` and `stored?` are the error handed in and the result stored for
the run. -/
inductive Phase.Sound (job : Job σ) (alone : Option Solution → Attempt) (failure : Option Error)
    (stored? : Option Result) (i : Nat) (start? : Option Solution) :
    (rank : Nat) → Phase σ → Prop where
  | waiting {looks : Nat} {progress : Progress σ}
      (entered : job.process.enter start? = .ok progress)
      (leads : job.process.Leads none (alone start?) looks progress) :
      Sound job alone failure stored? i start? (looks + 5) .waiting
  | ready {looks : Nat} {progress : Progress σ}
      (entered : job.process.enter start? = .ok progress)
      (leads : job.process.Leads none (alone start?) looks progress) :
      Sound job alone failure stored? i start? (looks + 4) .ready
  | working {looks : Nat} {state : σ}
      (leads : job.process.Leads none (alone start?) looks (.more state)) :
      Sound job alone failure stored? i start? (looks + 3) (.working state)
  | answered {attempt : Attempt} (unhurt : failure = none → attempt = alone start?) :
      Sound job alone failure stored? i start? 3 (.answered attempt)
  | failed {error : Error}
      (unhurt : failure = none → job.verdict alone i start? = .ok (some error)) :
      Sound job alone failure stored? i start? 2 (.failed error)
  | raising (recorded : failure ≠ none) : Sound job alone failure stored? i start? 1 .raising
  | finished (unhurt : failure = none →
        job.verdict alone i start? = .ok none ∧ stored? = some (alone start?).result) :
      Sound job alone failure stored? i start? 0 .finished

/-- What is known of a pool.  `rank` bounds how often each run will still do something. -/
structure Pool.Sound (job : Job σ) (alone : Option Solution → Attempt) (pool : Pool σ)
    (rank : Nat → Nat) : Prop where
  runs : ∀ i start?, job.starts[i]? = some start? → ∃ phase : Phase σ,
    pool.phases[i]? = some phase ∧
    phase.Sound job alone pool.failure pool.results[i]? i start? (rank i)
  length_phases : pool.phases.length = job.starts.length
  length_results : pool.results.length = job.starts.length
  quiet : pool.failure = none → pool.signal = none
  blame : ∀ error, pool.failure = some error →
    ∃ i start?, job.starts[i]? = some start? ∧ job.verdict alone i start? = .ok (some error)

namespace Phase.Sound

variable {job : Job σ} {alone : Option Solution → Attempt} {failure later : Option Error}
  {stored? : Option Result} {i rank : Nat} {start? : Option Solution} {phase : Phase σ}

/-- An error that is handed in takes nothing away from what is known of a run. -/
theorem mono (sound : phase.Sound job alone failure stored? i start? rank)
    (since : later = none → failure = none) :
    phase.Sound job alone later stored? i start? rank := by
  cases sound with
  | waiting entered leads => exact .waiting entered leads
  | ready entered leads => exact .ready entered leads
  | working leads => exact .working leads
  | answered unhurt => exact .answered fun clean => unhurt (since clean)
  | failed unhurt => exact .failed fun clean => unhurt (since clean)
  | raising recorded => exact .raising fun clean => recorded (since clean)
  | finished unhurt => exact .finished fun clean => unhurt (since clean)

theorem of_leads {looks : Nat} {progress : Progress σ}
    (leads : job.process.Leads none (alone start?) looks progress) :
    (Phase.ofProgress progress).Sound job alone failure stored? i start? (looks + 3) := by
  cases leads with
  | answer => exact .answered fun _ => rfl
  | more resumed rest => exact .working (.more resumed rest)

end Phase.Sound

namespace Pool.Sound

variable {job : Job σ} {alone : Option Solution → Attempt} {pool next : Pool σ}
  {rank : Nat → Nat} {i : Nat} {start? : Option Solution} {phase : Phase σ}

/-- What is known of the run in a phase. -/
theorem exists_run (sound : pool.Sound job alone rank) (here : pool.phases[i]? = some phase) :
    ∃ start? r, job.starts[i]? = some start? ∧ rank i = r ∧
      phase.Sound job alone pool.failure pool.results[i]? i start? r := by
  have inside : i < job.starts.length := by
    rw [← sound.length_phases]
    exact (List.getElem?_eq_some_iff.mp here).1
  have start := List.getElem?_eq_getElem inside
  rcases sound.runs i _ start with ⟨found, isHere, fits⟩
  obtain rfl := Option.some.inj (here.symm.trans isHere)
  exact ⟨_, _, start, rfl, fits⟩

/-- One run is in another phase, and the rest of the pool may have changed in what the
other runs do not depend on. -/
theorem update (sound : pool.Sound job alone rank) {r : Nat}
    (start : job.starts[i]? = some start?) (changed : next.phases = pool.phases.set i phase)
    (lengths : next.results.length = pool.results.length)
    (others : ∀ j, j ≠ i → next.results[j]? = pool.results[j]?)
    (since : next.failure = none → pool.failure = none)
    (quiet : next.failure = none → next.signal = none)
    (blame : ∀ error, next.failure = some error →
      ∃ i start?, job.starts[i]? = some start? ∧ job.verdict alone i start? = .ok (some error))
    (fits : phase.Sound job alone next.failure next.results[i]? i start? r) :
    next.Sound job alone (Function.update rank i r) where
  runs := by
    intro j other found
    by_cases same : j = i
    · subst same
      obtain rfl := Option.some.inj (start.symm.trans found)
      have inside : j < pool.phases.length := by
        rw [sound.length_phases]
        exact (List.getElem?_eq_some_iff.mp start).1
      refine ⟨phase, by rw [changed, List.getElem?_set_self inside], ?_⟩
      rwa [Function.update_self]
    · rcases sound.runs j other found with ⟨kept, here, unchanged⟩
      refine ⟨kept, by rwa [changed, List.getElem?_set_ne (Ne.symm same)], ?_⟩
      rw [Function.update_of_ne same, others j same]
      exact unchanged.mono since
  length_phases := by rw [changed, List.length_set, sound.length_phases]
  length_results := lengths.trans sound.length_results
  quiet := quiet
  blame := blame

theorem put (sound : pool.Sound job alone rank) {r : Nat}
    (start : job.starts[i]? = some start?)
    (fits : phase.Sound job alone pool.failure pool.results[i]? i start? r) :
    (pool.put i phase).Sound job alone (Function.update rank i r) :=
  sound.update start rfl rfl (fun _ _ => rfl) id sound.quiet sound.blame fits

/-- Whatever a run does, the pool stays sound and the run has less to do. -/
theorem step (orderly : job.Orderly alone) (sound : pool.Sound job alone rank)
    (taken : job.Step i pool next) :
    i < job.starts.length ∧ ∃ r < rank i, next.Sound job alone (Function.update rank i r) := by
  suffices stays : ∃ start?, job.starts[i]? = some start? ∧
      ∃ r < rank i, next.Sound job alone (Function.update rank i r) by
    rcases stays with ⟨start?, start, less⟩
    exact ⟨(List.getElem?_eq_some_iff.mp start).1, less⟩
  cases taken with
  | launch here admitted =>
      rcases sound.exists_run here with ⟨start?, r, start, ranked, fits⟩
      cases fits with
      | @waiting looks progress entered leads =>
          exact ⟨start?, start, looks + 4, by omega, sound.put start (.ready entered leads)⟩
  | @enter _ progress here found entered =>
      rcases sound.exists_run here with ⟨start?, r, start, ranked, fits⟩
      obtain rfl := Option.some.inj (found.symm.trans start)
      cases fits with
      | @ready looks _ expected leads =>
          obtain rfl := Except.ok.inj (entered.symm.trans expected)
          exact ⟨_, start, looks + 3, by omega, sound.put start (.of_leads leads)⟩
  | @resume _ progress here resumed =>
      rcases sound.exists_run here with ⟨start?, r, start, ranked, fits⟩
      cases fits with
      | working leads =>
          cases leads with
          | @more looks _ _ expected rest =>
              cases signal : pool.signal with
              | none =>
                  rw [signal] at resumed
                  obtain rfl := Except.ok.inj (resumed.symm.trans expected)
                  exact ⟨start?, start, looks + 3, by omega, sound.put start (.of_leads rest)⟩
              | some interrupt =>
                  -- The signal is raised only after a failure, and then the answer is free.
                  rw [signal] at resumed
                  rcases orderly.prompt interrupt _ with ⟨attempt, answered⟩
                  obtain rfl := Except.ok.inj (resumed.symm.trans answered)
                  have hurt : pool.failure ≠ none := fun unhurt => by
                    simp [sound.quiet unhurt] at signal
                  exact ⟨start?, start, 3, by omega,
                    sound.put start (.answered fun unhurt => absurd unhurt hurt)⟩
  | @store attempt here judged =>
      rcases sound.exists_run here with ⟨start?, r, start, ranked, fits⟩
      cases fits with
      | answered unhurt =>
          have inside : i < pool.results.length := by
            rw [sound.length_results]
            exact (List.getElem?_eq_some_iff.mp start).1
          refine ⟨start?, start, 0, by omega, ?_⟩
          refine sound.update start rfl List.length_set
            (fun j other => List.getElem?_set_ne (Ne.symm other)) id sound.quiet sound.blame
            (.finished fun clean => ⟨?_, ?_⟩)
          · rw [sound.quiet clean, unhurt clean] at judged
            exact judged
          · rw [← unhurt clean]
            exact List.getElem?_set_self inside
  | @complain attempt error here judged =>
      rcases sound.exists_run here with ⟨start?, r, start, ranked, fits⟩
      cases fits with
      | answered unhurt =>
          refine ⟨start?, start, 2, by omega, sound.put start (.failed fun clean => ?_)⟩
          rw [sound.quiet clean, unhurt clean] at judged
          exact judged
  | @record error here first =>
      rcases sound.exists_run here with ⟨start?, r, start, ranked, fits⟩
      cases fits with
      | failed unhurt =>
          refine ⟨start?, start, 1, by omega, ?_⟩
          refine sound.update start rfl rfl (fun _ _ => rfl) (fun clean => by cases clean)
            (fun clean => by cases clean) ?_ (.raising fun clean => by cases clean)
          intro other recorded
          obtain rfl := Option.some.inj recorded
          exact ⟨i, start?, start, unhurt first⟩
  | drop here later =>
      rcases sound.exists_run here with ⟨start?, r, start, ranked, fits⟩
      cases fits with
      | failed =>
          exact ⟨start?, start, 0, by omega,
            sound.put start (.finished fun clean => absurd clean later)⟩
  | raise here =>
      rcases sound.exists_run here with ⟨start?, r, start, ranked, fits⟩
      cases fits with
      | raising recorded =>
          exact ⟨start?, start, 0, by omega, sound.update start rfl rfl (fun _ _ => rfl) id
            (fun clean => absurd clean recorded) sound.blame
            (.finished fun clean => absurd clean recorded)⟩

/-- Every execution from a sound pool ends. -/
theorem acc (orderly : job.Orderly alone) (sound : pool.Sound job alone rank) :
    Acc (fun next pool => job.Next pool next) pool := by
  induction total : ∑ j ∈ Finset.range job.starts.length, rank j using Nat.strong_induction_on
    generalizing pool rank with
  | _ total ih =>
      refine Acc.intro pool ?_
      rintro next ⟨i, taken⟩
      rcases sound.step orderly taken with ⟨inside, r, less, after⟩
      refine ih _ ?_ after rfl
      rw [← total]
      refine Finset.sum_lt_sum (fun j _ => ?_) ⟨i, Finset.mem_range.mpr inside, ?_⟩
      · rw [Function.update_apply]
        split
        case isTrue same => exact same ▸ Nat.le_of_lt less
        case isFalse => exact Nat.le_refl _
      · rwa [Function.update_self]

/-! ### What a sound pool can do -/

/-- A run that occupies a place can do something. -/
theorem exists_step_of_active (orderly : job.Orderly alone) (sound : pool.Sound job alone rank)
    (here : pool.phases[i]? = some phase) (active : phase.active = true) :
    ∃ next, job.Step i pool next := by
  rcases sound.exists_run here with ⟨start?, r, start, ranked, fits⟩
  cases fits with
  | waiting => cases active
  | ready entered leads => exact ⟨_, .enter here start entered⟩
  | working leads =>
      cases leads with
      | more expected rest =>
          cases signal : pool.signal with
          | none => exact ⟨_, .resume here (by rw [signal]; exact expected)⟩
          | some interrupt =>
              rcases orderly.prompt interrupt _ with ⟨attempt, answered⟩
              exact ⟨_, .resume here (by rw [signal]; exact answered)⟩
  | @answered attempt =>
      rcases exists_complaint orderly.width i pool.signal attempt with ⟨found, judged⟩
      cases found with
      | none => exact ⟨_, .store here judged⟩
      | some error => exact ⟨_, .complain here judged⟩
  | failed =>
      by_cases first : pool.failure = none
      · exact ⟨_, .record here first⟩
      · exact ⟨_, .drop here first⟩
  | raising => exact ⟨_, .raise here⟩
  | finished => cases active

theorem exists_act (orderly : job.Orderly alone) (sound : pool.Sound job alone rank) (i : Nat) :
    ∃ next?, job.act pool i = .ok next? := by
  cases here : pool.phases[i]? with
  | none => exact ⟨none, by simp [Job.act, here]⟩
  | some phase =>
      cases active : phase.active with
      | true =>
          rcases sound.exists_step_of_active orderly here active with ⟨next, taken⟩
          exact ⟨some next, Job.act_eq_ok_some_iff.mpr taken⟩
      | false =>
          cases phase with
          | waiting =>
              rw [Job.act, here]
              cases pool.admits job.limit i <;> exact ⟨_, rfl⟩
          | finished => exact ⟨none, by simp [Job.act, here]⟩
          | _ => cases active

/-- In a pool without an active run, the first one that waits can be launched. -/
theorem exists_launch (orderly : job.Orderly alone)
    (idle : ∀ phase ∈ pool.phases, phase.active = false)
    (unfinished : ∃ phase ∈ pool.phases, phase ≠ .finished) :
    ∃ i next, job.Step i pool next := by
  have waits {phase : Phase σ} (member : phase ∈ pool.phases) (remains : phase ≠ .finished) :
      phase = .waiting := by
    have inactive := idle phase member
    cases phase with
    | waiting => rfl
    | finished => exact absurd rfl remains
    | _ => cases inactive
  have exists_waiting : ∃ phase ∈ pool.phases, (!phase.launched) = true := by
    rcases unfinished with ⟨phase, member, remains⟩
    exact ⟨phase, member, by rw [waits member remains]; rfl⟩
  have inside := List.findIdx_lt_length_of_exists exists_waiting
  have first := List.findIdx_getElem (w := inside)
  refine ⟨pool.phases.findIdx fun phase => !phase.launched, _, .launch ?_ ?_⟩
  · rw [List.getElem?_eq_getElem inside]
    refine congrArg some (waits (List.getElem_mem inside) fun finished => ?_)
    rw [finished] at first
    cases first
  · have free : pool.phases.countP Phase.active = 0 :=
      List.countP_eq_zero.mpr fun phase member => by simp [idle phase member]
    have before : (pool.phases.take (pool.phases.findIdx fun phase => !phase.launched)).all
        Phase.launched = true := by
      rw [List.all_eq_true]
      intro phase member
      rcases List.mem_take_iff_getElem.mp member with ⟨j, bound, rfl⟩
      simpa using List.not_of_lt_findIdx (Nat.lt_of_lt_of_le bound (Nat.min_le_left _ _))
    simp [admits, free, before, orderly.room]

theorem complete_or_next (orderly : job.Orderly alone) (sound : pool.Sound job alone rank) :
    pool.Complete ∨ ∃ next, job.Next pool next := by
  by_cases busy : ∃ phase ∈ pool.phases, phase.active = true
  · rcases busy with ⟨phase, member, active⟩
    rcases List.mem_iff_getElem?.mp member with ⟨i, here⟩
    rcases sound.exists_step_of_active orderly here active with ⟨next, taken⟩
    exact Or.inr ⟨next, i, taken⟩
  · by_cases complete : pool.Complete
    · exact Or.inl complete
    · have idle : ∀ phase ∈ pool.phases, phase.active = false := by simpa using busy
      have unfinished : ∃ phase ∈ pool.phases, phase ≠ .finished := by
        simpa [Complete] using complete
      rcases exists_launch orderly idle unfinished with ⟨i, next, taken⟩
      exact Or.inr ⟨next, i, taken⟩

/-! ### What a complete pool gives back -/

/-- A complete pool without a failure has the results of the runs alone, and one with
a failure the complaint about one of them. -/
theorem explained (sound : pool.Sound job alone rank) (complete : pool.Complete) :
    job.Explained alone pool.outcome := by
  rw [outcome]
  cases failure : pool.failure with
  | some error =>
      rcases sound.blame error failure with ⟨i, start?, start, judged⟩
      exact .blamed start judged
  | none =>
      have finished : ∀ i start?, job.starts[i]? = some start? →
          job.verdict alone i start? = .ok none ∧
            pool.results[i]? = some (alone start?).result := by
        intro i start? start
        rcases sound.runs i start? start with ⟨phase, here, fits⟩
        obtain rfl := complete phase (List.mem_of_getElem? here)
        generalize rank i = r at fits
        cases fits with
        | finished unhurt => exact unhurt failure
      have results : pool.results = job.starts.map fun start? => (alone start?).result := by
        refine List.ext_getElem? fun i => ?_
        rw [List.getElem?_map]
        cases start : job.starts[i]? with
        | some start? => exact (finished i start? start).2
        | none =>
            rw [List.getElem?_eq_none_iff, ← sound.length_results] at start
            exact List.getElem?_eq_none_iff.mpr start
      rw [results]
      exact .accepted fun i start? start => (finished i start? start).1

end Pool.Sound

namespace Job.Orderly

variable {job : Job σ} {alone : Option Solution → Attempt} {pool : Pool σ}

theorem exists_sound_initial (orderly : job.Orderly alone) :
    ∃ rank, job.initial.Sound job alone rank := by
  have waits : ∀ i, ∃ r, ∀ start?, job.starts[i]? = some start? →
      ∃ phase : Phase σ, job.initial.phases[i]? = some phase ∧
        phase.Sound job alone none job.initial.results[i]? i start? r := by
    intro i
    cases start : job.starts[i]? with
    | none => exact ⟨0, fun start? found => by cases found⟩
    | some start? =>
        rcases orderly.answers start? (List.mem_of_getElem? start) with
          ⟨looks, progress, entered, leads⟩
        refine ⟨looks + 5, fun other found => ?_⟩
        obtain rfl := Option.some.inj found
        have inside := (List.getElem?_eq_some_iff.mp start).1
        exact ⟨.waiting, List.getElem?_replicate_of_lt inside, .waiting entered leads⟩
  choose rank runs using waits
  exact ⟨rank, runs, List.length_replicate, List.length_replicate, fun _ => rfl,
    fun error failed => by cases failed⟩

/-- Every pool of every execution is sound. -/
theorem exists_sound (orderly : job.Orderly alone) (reached : job.Reaches job.initial pool) :
    ∃ rank, pool.Sound job alone rank := by
  induction reached with
  | refl => exact orderly.exists_sound_initial
  | tail _ taken ih =>
      rcases ih with ⟨rank, sound⟩
      rcases taken with ⟨i, taken⟩
      rcases sound.step orderly taken with ⟨_, r, _, after⟩
      exact ⟨_, after⟩

/-- In every execution of an orderly job the outcome is one that the runs alone
account for. -/
theorem delivers (orderly : job.Orderly alone) : job.Delivers (job.Explained alone) where
  ends := by
    rcases orderly.exists_sound_initial with ⟨rank, sound⟩
    exact sound.acc orderly
  bounded reached := by
    induction reached with
    | refl => simp [initial, List.countP_replicate, Phase.active]
    | tail _ taken ih =>
        rcases taken with ⟨i, taken⟩
        exact taken.active_le ih
  unbroken reached i := by
    rcases orderly.exists_sound reached with ⟨rank, sound⟩
    exact sound.exists_act orderly i
  unstuck reached := by
    rcases orderly.exists_sound reached with ⟨rank, sound⟩
    exact sound.complete_or_next orderly
  kept reached complete := by
    rcases orderly.exists_sound reached with ⟨rank, sound⟩
    exact sound.explained complete

end Job.Orderly

end Ascent.Benchmark
