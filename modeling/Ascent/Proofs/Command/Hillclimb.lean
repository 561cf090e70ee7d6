import Ascent.Command.Hillclimb
import Ascent.Proofs.Draft
import Ascent.Proofs.Random
import Ascent.Proofs.Climb.Narration
import Ascent.Proofs.Solution.Parse

/-!
# How the climbing command ends

When a request can be fulfilled at all, only one thing can still go wrong: a start that
was given on the command line may have another number of variables than the problem.
Starts that come with a problem were checked when it was built, and random starts are
made with its width.

The command notices a start of another width when its turn comes.  It ends with the
status one and the index of that start, behind the reports on the runs of all starts
before it.  A reporter is as new behind every run, so what is written about several
runs is what would be written about each of them alone: its table, its journal, or a line
about its result, and what the log has to say.
-/

namespace Ascent

/-- Reporters that are behind every run what they were before it. -/
def Reporter.Renewed (reporters : List Reporter) : Prop :=
  ∀ (logger : Log.Logger Unit) (took : Log.Value) (events : List Climb.Event),
    Report.Table.OneRun events → (Climb.narrate logger took reporters events).1 = reporters

namespace Command

theorem Outcome.after_after (outputs more : List Output) (outcome : Outcome) :
    (outcome.after more).after outputs = outcome.after (outputs ++ more) := by
  simp [Outcome.after]

namespace Hillclimb

/-- The reporters of every known report format are renewed. -/
theorem renewed_of_reporters? {logger : Log.Logger Unit} {format : String}
    {reporters : List Reporter} (known : reporters? logger format = some reporters) :
    Reporter.Renewed reporters := by
  intro narrator took events oneRun
  unfold reporters? at known
  split at known
  · obtain rfl := Option.some.inj known
    rcases oneRun with ⟨steps, final, rfl⟩
    rw [Climb.narrate_table_run]
  · obtain rfl := Option.some.inj known
    rw [Climb.narrate_journal]
  · obtain rfl := Option.some.inj known
    rw [Climb.narrate_none]
  · contradiction

/-! ## The runs of a plan -/

/-- What is written about the run of a start: what reporters and log say about its
events, and the line about its result if there is no reporter. -/
def Plan.account (plan : Plan) (took : Log.Value) (start : Solution) (run : Climb.Run) :
    List Output :=
  let logger := plan.logger.withFields (Climb.context plan.problem start)
  (Climb.narrate logger took plan.reporters run.events).2.map Output.ofLine ++
    if plan.reporters.isEmpty then [Output.result (resultLine run.result)] else []

/-- What the log says about an event of the run of a start. -/
def Plan.logged (plan : Plan) (took : Log.Value) (start : Solution) (event : Climb.Event) :
    List Output :=
  (Climb.logged (plan.logger.withFields (Climb.context plan.problem start)) took event).map
    Output.ofLine

/-- What is written about a run beside the log, in each report format. -/
structure Plan.Tells (plan : Plan) (format : String) : Prop where
  /-- The table of the run stands before what the log says about the end. -/
  table : format = "table" → ∀ (took : Log.Value) (start : Solution) (run : Climb.Run),
    plan.account took start run =
      (run.steps.flatMap fun step => plan.logged took start (.step step)) ++
        .result (Report.Table.written Report.Grid.render run.events) ::
          plan.logged took start (.final run.final)
  /-- Every event has a record, which stands before what the log says about it. -/
  log : format = "log" → ∀ (took : Log.Value) (start : Solution) (run : Climb.Run),
    Climb.solve (some plan.problem) plan.config .never (some start) = .ok run →
    (∀ event ∈ run.events, ∃ record, Report.Journal.record event = .ok record) ∧
      plan.account took start run = run.events.flatMap fun event =>
        (Report.Journal.record event).toOption.toList.map Output.log ++
          plan.logged took start event
  /-- The line about the result stands at the end. -/
  none : format = "none" → ∀ (took : Log.Value) (start : Solution) (run : Climb.Run),
    plan.account took start run =
      run.events.flatMap (plan.logged took start) ++ [.result (resultLine run.result)]

/-- The outputs about the runs of starts, in their order; the first start has index
`index`. -/
inductive Plan.Reports (plan : Plan) (took : Nat → Log.Value) :
    Nat → List Solution → List Output → Prop where
  | nothing {index : Nat} : Reports plan took index [] []
  | next {index : Nat} {start : Solution} {rest : List Solution} {run : Climb.Run}
      {outputs : List Output}
      (solved : Climb.solve (some plan.problem) plan.config .never (some start) = .ok run)
      (others : Reports plan took (index + 1) rest outputs) :
      Reports plan took index (start :: rest) (plan.account (took index) start run ++ outputs)

/-- What is wrong with a start of another width. -/
def misfit (found expected : Nat) : Error :=
  ((Error.of (.solutionWidth found expected)).within .problem).within .start

/-- A start of another width is the only thing that is refused. -/
theorem solve_misfit {p : Problem} {config : Climb.Config} {start : Solution}
    (searchable : p.Searchable) (valid : config.validate = .ok ()) (signal : Signal)
    (differs : start.length ≠ p.weights.length) :
    Climb.solve (some p) config signal (some start) =
      .error (.rejected (misfit start.length p.weights.length)) := by
  have checked : Problem.check (some p) (some start) =
      .error (.rejected ((Error.of (.solutionWidth start.length p.weights.length)).within
        .problem)) := by
    simp [Problem.check, searchable.width_eq.1, differs]
  rw [Climb.solve, searchable.valid, valid, checked]
  rfl

/-- A journal has the level info, or a more detailed one. -/
theorem admits_info (level : Log.Level) :
    (if Log.Level.info.value < level.value then Log.Level.info else level).admits .info = true := by
  split
  · rfl
  · rename_i detailed
    simp only [Log.Level.admits, Bool.and_eq_true, decide_eq_true_eq]
    exact ⟨Int.not_lt.mp detailed, by decide⟩

/-- A plan tells about its runs as its report format says. -/
theorem tells_of_reporters? {plan : Plan} {format : String}
    (searchable : plan.problem.Searchable) (valid : plan.config.validate = .ok ())
    (bare : plan.logger.context = []) (attached : plan.logger.target = some ())
    (known : reporters? plan.logger format = some plan.reporters) : plan.Tells format where
  table := by
    rintro rfl took start run
    obtain table := Option.some.inj known
    simp only [Plan.account, ← table, Climb.Run.events, Climb.narrate_table_run, List.map_append,
      List.map_flatMap, List.map_cons, Output.ofLine, Plan.logged, List.isEmpty_cons,
      Bool.false_eq_true, if_false, List.append_nil]
  log := by
    rintro rfl took start run solved
    obtain journal := Option.some.inj known
    have width : start.length = plan.problem.weights.length := by
      by_contra differs
      rw [solve_misfit searchable valid .never differs] at solved
      contradiction
    refine ⟨Climb.exists_record_of_solve searchable valid width solved, ?_⟩
    simp only [Plan.account, ← journal, bare, attached, Climb.narrate_journal, List.map_flatMap,
      List.isEmpty_cons, Bool.false_eq_true, if_false, List.append_nil]
    refine List.flatMap_congr fun event _ => ?_
    rw [List.map_append, Climb.journaled_eq (admits_info plan.logger.level), List.map_map]
    rfl
  none := by
    rintro rfl took start run
    obtain nothing := Option.some.inj known
    simp only [Plan.account, ← nothing, Climb.narrate_none, List.map_flatMap, List.isEmpty_nil,
      if_true]
    rfl

/-- A run that succeeds is reported on, and the command goes on with the next start. -/
theorem climbFrom_of_solve {plan : Plan} (renewed : Reporter.Renewed plan.reporters)
    {start : Solution} {run : Climb.Run}
    (solved : Climb.solve (some plan.problem) plan.config .never (some start) = .ok run)
    (took : Nat → Log.Value) (index : Nat) (rest : List Solution) :
    climbFrom plan took index plan.reporters (start :: rest) =
      (climbFrom plan took (index + 1) plan.reporters rest).map
        (Outcome.after (plan.account (took index) start run)) := by
  have kept := renewed (plan.logger.withFields (Climb.context plan.problem start)) (took index)
    run.events ⟨run.steps, run.final, rfl⟩
  rw [climbFrom, solved]
  simp only [kept]
  cases climbFrom plan took (index + 1) plan.reporters rest with
  | error fault => rfl
  | ok outcome => rfl

section Climbing

variable {plan : Plan} (searchable : plan.problem.Searchable)
  (valid : plan.config.validate = .ok ()) (took : Nat → Log.Value)
include searchable valid

/-- Starts of the problem's width are climbed from and reported on, one after another,
before those behind them. -/
theorem climbFrom_append (renewed : Reporter.Renewed plan.reporters) {front : List Solution}
    (fits : ∀ start ∈ front, start.length = plan.problem.weights.length) (index : Nat)
    (rest : List Solution) :
    ∃ outputs, plan.Reports took index front outputs ∧
      climbFrom plan took index plan.reporters (front ++ rest) =
        (climbFrom plan took (index + front.length) plan.reporters rest).map
          (Outcome.after outputs) := by
  induction front generalizing index with
  | nil =>
      refine ⟨[], .nothing, ?_⟩
      rw [List.nil_append, List.length_nil, Nat.add_zero]
      cases climbFrom plan took index plan.reporters rest with
      | error fault => rfl
      | ok outcome => rfl
  | cons start front ih =>
      rcases ih (fun later member => fits later (List.mem_cons_of_mem start member)) (index + 1)
        with ⟨outputs, reports, climbed⟩
      rcases Climb.exists_course searchable (fits start List.mem_cons_self) valid .never with
        ⟨_, _, _, _, solved⟩
      -- The rest is climbed with renewed reporters, so the induction hypothesis speaks of it.
      refine ⟨_, .next solved reports, ?_⟩
      rw [List.cons_append, climbFrom_of_solve renewed solved, climbed, List.length_cons,
        Nat.add_comm front.length, ← Nat.add_assoc]
      cases climbFrom plan took (index + 1 + front.length) plan.reporters rest with
      | error fault => rfl
      | ok outcome => exact congrArg Except.ok (Outcome.after_after _ _ _)

/-- A start of another width ends the command. -/
theorem climbFrom_misfit {start : Solution}
    (differs : start.length ≠ plan.problem.weights.length) (index : Nat)
    (reporters : List Reporter) (rest : List Solution) :
    climbFrom plan took index reporters (start :: rest) =
      .ok (.refuse 1 (s!"start {index}: " ++
        (misfit start.length plan.problem.weights.length).message)) := by
  rw [climbFrom, solve_misfit searchable valid .never differs]

end Climbing

/-! ## Requests that can be fulfilled -/

/-- A request in which everything that is looked at before the first run is in order:
the problem and its own starts are loaded, and `given` are the starts asked for. -/
structure Fulfillable (options : Options) (read : Reader) (p : Problem)
    (own given : List Solution) : Prop where
  level : ∃ level, Log.Level.parse options.logLevel = .ok level
  loaded : load read options.problem = .ok (p, own)
  parsed : List.Forall₂ (fun text s => Solution.parse text = .ok s) options.starts given
  /-- There is at least one start. -/
  started : given ≠ [] ∨ own ≠ [] ∨ 0 < options.randomStarts
  report : options.report = "table" ∨ options.report = "log" ∨ options.report = "none"
  cap : 0 ≤ options.maxIterations

/-- The starts that were not given: those of the problem, unless there are given ones,
and the random ones. -/
def ungiven (options : Options) (p : Problem) (own : List Solution) : List Solution :=
  (if options.starts.isEmpty then own else []) ++
    (Solution.randoms Random.Source.generator p.weights.length options.density
      options.randomStarts.toNat (.ofSeed options.seed)).1

theorem mapM_of_forall₂ {ε α β : Type} {f : α → Except ε β} {values : List α} {results : List β}
    (succeeds : List.Forall₂ (fun value result => f value = .ok result) values results) :
    values.mapM f = .ok results := by
  induction succeeds with
  | nil => rfl
  | cons first _ ih =>
      rw [List.mapM_cons, first, ih]
      rfl

/-- A problem that can be loaded can be searched, and its own starts have its width. -/
theorem load_fits {read : Reader} {path : String} {p : Problem} {own : List Solution}
    (loaded : load read path = .ok (p, own)) :
    p.Searchable ∧ ∀ start ∈ own, start.length = p.weights.length := by
  unfold load at loaded
  split at loaded
  · obtain ⟨rfl, rfl⟩ := Prod.mk.inj (Except.ok.inj loaded)
    exact ⟨Problem.knapsack_searchable, by decide⟩
  · split at loaded
    · contradiction
    · split at loaded
      · contradiction
      · split at loaded
        · contradiction
        · rename_i built
          rw [Except.ok.inj loaded] at built
          exact Draft.searchable_of_build built

theorem fits_of_mem_ungiven {options : Options} {p : Problem} {own : List Solution}
    (fits : ∀ start ∈ own, start.length = p.weights.length) :
    ∀ start ∈ ungiven options p own, start.length = p.weights.length := by
  intro start member
  rcases List.mem_append.mp member with owned | random
  · by_cases asked : options.starts.isEmpty
    · rw [if_pos asked] at owned
      exact fits start owned
    · rw [if_neg asked] at owned
      exact absurd owned List.not_mem_nil
  · exact Solution.length_of_mem_randoms random

theorem width_eq_length_weights (p : Problem) :
    (p.objective.map Objective.length).getD 0 = p.weights.length := by
  rw [Problem.weights]
  cases p.objective with
  | none => rfl
  | some objective => rfl

namespace Fulfillable

variable {options : Options} {read : Reader} {p : Problem} {own given : List Solution}

theorem isEmpty_starts (request : Fulfillable options read p own given) :
    options.starts.isEmpty = given.isEmpty := by
  rw [Bool.eq_iff_iff, List.isEmpty_iff_length_eq_zero, List.isEmpty_iff_length_eq_zero,
    request.parsed.length_eq]

/-- The given starts come first. -/
theorem gatherStarts_eq (request : Fulfillable options read p own given) :
    gatherStarts options p own = .ok (given ++ ungiven options p own) := by
  rw [gatherStarts, mapM_of_forall₂ request.parsed]
  simp only [ok_bind, width_eq_length_weights, pure_eq_ok, ungiven, request.isEmpty_starts]
  cases given with
  | nil => rfl
  | cons first rest => simp

theorem gathered_ne_nil (request : Fulfillable options read p own given) :
    given ++ ungiven options p own ≠ [] := by
  intro nothing
  rcases List.append_eq_nil_iff.mp nothing with ⟨noneGiven, noneOther⟩
  rcases List.append_eq_nil_iff.mp noneOther with ⟨noneOwn, noneRandom⟩
  rw [request.isEmpty_starts, noneGiven, List.isEmpty_nil, if_pos rfl] at noneOwn
  have count := congrArg List.length noneRandom
  rw [Solution.length_randoms, List.length_nil] at count
  rcases request.started with given | own | random
  · exact given noneGiven
  · exact own noneOwn
  · omega

theorem exists_reporters (request : Fulfillable options read p own given)
    (logger : Log.Logger Unit) :
    ∃ reporters, reporters? logger options.report = some reporters := by
  rcases request.report with table | log | none
  · exact ⟨_, by rw [table]; rfl⟩
  · exact ⟨_, by rw [log]; rfl⟩
  · exact ⟨_, by rw [none]; rfl⟩

/-- Nothing is left to complain about before the first run. -/
theorem exists_plan (request : Fulfillable options read p own given) :
    ∃ plan, Hillclimb.plan options read = .ok plan ∧ plan.problem = p ∧
      plan.starts = given ++ ungiven options p own ∧ plan.config.validate = .ok () ∧
      Reporter.Renewed plan.reporters ∧ plan.Tells options.report := by
  rcases request.level with ⟨level, leveled⟩
  have logger : initialLogger.setLevel options.logLevel =
      .ok { initialLogger with level := level } := by
    rw [Log.Logger.setLevel, leveled]
    rfl
  rcases request.exists_reporters { initialLogger with level := level } with
    ⟨reporters, known⟩
  rcases List.exists_cons_of_ne_nil request.gathered_ne_nil with ⟨first, others, gathered⟩
  have valid : ({ Climb.Config.default with maxIterations := options.maxIterations } :
      Climb.Config).validate = .ok () :=
    Climb.Config.validate_eq_ok_iff.mpr ⟨request.cap, rfl, rfl⟩
  refine ⟨⟨{ initialLogger with level := level }, p, given ++ ungiven options p own, reporters,
    { Climb.Config.default with maxIterations := options.maxIterations }⟩, ?_, rfl, rfl, valid,
    renewed_of_reporters? known,
    tells_of_reporters? (load_fits request.loaded).1 valid rfl rfl known⟩
  rw [Hillclimb.plan, logger, request.loaded]
  simp only [ok_bind, request.gatherStarts_eq, gathered, known, valid]

end Fulfillable

/-! ## Exit statuses -/

section Following

variable {plan : Plan} (searchable : plan.problem.Searchable)
  (valid : plan.config.validate = .ok ()) (renewed : Reporter.Renewed plan.reporters)
  (took : Nat → Log.Value)
include searchable valid renewed

/-- A plan whose starts all have the problem's width succeeds. -/
theorem follow_of_fits
    (fits : ∀ start ∈ plan.starts, start.length = plan.problem.weights.length) :
    ∃ outputs, plan.Reports took 0 plan.starts outputs ∧
      plan.follow took = .ok ⟨outputs, 0⟩ := by
  rcases climbFrom_append searchable valid took renewed fits 0 [] with
    ⟨outputs, reports, climbed⟩
  refine ⟨outputs, reports, ?_⟩
  rw [Plan.follow, ← plan.starts.append_nil, climbed, climbFrom, Except.map, Outcome.after,
    List.append_nil]

/-- A plan with a start of another width ends with the first such start. -/
theorem follow_of_misfit {front rest : List Solution} {start : Solution}
    (starts : plan.starts = front ++ start :: rest)
    (fits : ∀ earlier ∈ front, earlier.length = plan.problem.weights.length)
    (differs : start.length ≠ plan.problem.weights.length) :
    ∃ outputs, plan.Reports took 0 front outputs ∧
      plan.follow took = .ok ⟨outputs ++ [.notice (s!"start {front.length}: " ++
        (misfit start.length plan.problem.weights.length).message ++ "\n")], 1⟩ := by
  rcases climbFrom_append searchable valid took renewed fits 0 (start :: rest) with
    ⟨outputs, reports, climbed⟩
  refine ⟨outputs, reports, ?_⟩
  rw [Plan.follow, starts, climbed, climbFrom_misfit searchable valid took differs,
    Nat.zero_add]
  rfl

end Following

variable {options : Options} {read : Reader} {p : Problem} {own given : List Solution}

/-- A request that can be fulfilled succeeds exactly if the given starts have the
problem's width, and then it reports on all runs.  Otherwise it names the first given
start of another width, behind the reports on the runs before it.  What is written about a
run is its table, its journal or its result, and what the log says about its events.  The
starts that were not given always have the width. -/
theorem execute_exit_iff_widths (request : Fulfillable options read p own given)
    (took : Nat → Log.Value) :
    ∃ plan outcome, Hillclimb.plan options read = .ok plan ∧
      execute options read took = .ok outcome ∧
      plan.problem = p ∧ plan.starts = given ++ ungiven options p own ∧
      plan.Tells options.report ∧
      (∀ start ∈ ungiven options p own, p.width = .ok start.length) ∧
      (outcome.exit = 0 ↔ ∀ start ∈ given, p.width = .ok start.length) ∧
      (outcome.exit = 0 → plan.Reports took 0 plan.starts outcome.outputs) ∧
      (outcome.exit ≠ 0 → outcome.exit = 1 ∧ ∃ front start rest outputs,
        given = front ++ start :: rest ∧ p.width ≠ .ok start.length ∧
        (∀ earlier ∈ front, p.width = .ok earlier.length) ∧
        plan.Reports took 0 front outputs ∧
        outcome.outputs = outputs ++ [.notice (s!"start {front.length}: " ++
          (misfit start.length p.weights.length).message ++ "\n")]) := by
  rcases load_fits request.loaded with ⟨searchable, ownFit⟩
  have otherFit : ∀ start ∈ ungiven options p own, start.length = p.weights.length :=
    fits_of_mem_ungiven ownFit
  rcases request.exists_plan with ⟨plan, planned, rfl, starts, valid, renewed, tells⟩
  have executed : execute options read took = plan.follow took := by
    rw [execute, planned]
  simp only [searchable.width_eq_ok_iff, executed, ne_eq]
  by_cases fits : ∀ start ∈ given, start.length = plan.problem.weights.length
  · have allFit : ∀ start ∈ plan.starts, start.length = plan.problem.weights.length := by
      rw [starts]
      exact List.forall_mem_append.mpr ⟨fits, otherFit⟩
    rcases follow_of_fits searchable valid renewed took allFit with ⟨outputs, reports, followed⟩
    exact ⟨plan, _, planned, followed, rfl, starts, tells, otherFit, iff_of_true rfl fits,
      fun _ => reports, fun failed => absurd rfl failed⟩
  · rcases exists_first_not fits with ⟨front, start, rest, split, differs, earlier⟩
    have position : plan.starts =
        front ++ start :: (rest ++ ungiven options plan.problem own) := by
      rw [starts, split, List.append_assoc, List.cons_append]
    rcases follow_of_misfit searchable valid renewed took position earlier differs with
      ⟨outputs, reports, followed⟩
    exact ⟨plan, _, planned, followed, rfl, starts, tells, otherFit,
      iff_of_false Nat.one_ne_zero fits, fun succeeded => absurd succeeded Nat.one_ne_zero,
      fun _ => ⟨rfl, front, start, rest, outputs, split, differs, earlier, reports, rfl⟩⟩

/-- The second given start of the built-in problem is too short; random ones follow. -/
theorem execute_exit_iff_widths_knapsack :
    ∃ outcome outputs,
      execute { Options.default with starts := ["0000000000", "[0, 1]"], randomStarts := 2 }
        (fun _ => .ok "") (fun _ => .int 0) = .ok outcome ∧ outcome.exit = 1 ∧
      outcome.outputs = outputs ++ [.notice ("start 1: start: problem: " ++
        "problem: length mismatch: solution has 2 variables, want 10\n")] := by
  have request : Fulfillable
      { Options.default with starts := ["0000000000", "[0, 1]"], randomStarts := 2 }
      (fun _ => .ok "") .knapsack Problem.knapsackStarts
      [.zeros 10, .ofBools [false, true]] :=
    { level := ⟨_, rfl⟩
      loaded := rfl
      parsed := .cons (by decide) (.cons (by decide) .nil)
      started := .inl (List.cons_ne_nil _ _)
      report := .inl rfl
      cap := le_rfl }
  rcases execute_exit_iff_widths request (fun _ => .int 0) with
    ⟨plan, outcome, _, executed, _, _, _, _, succeeds, _, fails⟩
  have failed : outcome.exit ≠ 0 := fun exit => absurd (succeeds.mp exit) (by decide)
  rcases fails failed with ⟨exit, front, start, rest, outputs, split, differs, _, _, written⟩
  rcases front with _ | ⟨first, _ | ⟨second, others⟩⟩
  · obtain ⟨rfl, _⟩ := List.cons.inj split
    exact absurd (by decide) differs
  · obtain ⟨rfl, _⟩ := List.cons.inj (List.cons.inj split).2
    have wording : s!"start {1}: " ++ (misfit 2 10).message ++ "\n" = "start 1: start: problem: " ++
        "problem: length mismatch: solution has 2 variables, want 10\n" := by decide
    exact ⟨outcome, outputs, executed, exit, wording ▸ written⟩
  · have tooMany := congrArg List.length split
    simp at tooMany

end Hillclimb

end Command

end Ascent
