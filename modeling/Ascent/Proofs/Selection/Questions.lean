import Ascent.Proofs.Selection
import Mathlib.Order.Bounds.Basic

/-!
# A selector over many questions

A selector can be asked any number of times, about any solutions, whether they are
neighbors or not.  Each answer is the least index of maximal fitness among the feasible
candidates that exceed the current solution.  It depends on the question alone.  What a
selector remembers is whether it ever had to say that there is no such candidate.

Nothing is assumed of the problem but that the solutions have its width.  The problem
need not have passed its check, so its constraints may fail to judge a candidate; exactly
then there is no answer.  The constraints of a searchable problem judge everything.
-/

namespace Ascent

namespace Problem

variable {p : Problem} {s t : Solution}

/-! ## Better solutions -/

/-- Both solutions have a fitness, and that of the first is higher. -/
def Exceeds (p : Problem) (s t : Solution) : Prop :=
  ∃ higher lower, p.fitness s = .ok higher ∧ p.fitness t = .ok lower ∧ lower < higher

/-- A feasible candidate whose fitness exceeds that of the current solution. -/
structure Improves (p : Problem) (current candidate : Solution) : Prop where
  feasible : p.feasible candidate = .ok true
  exceeds : p.Exceeds candidate current

theorem exceeds_iff (fitness : p.fitness s = .ok (p.value s))
    (otherFitness : p.fitness t = .ok (p.value t)) :
    p.Exceeds s t ↔ p.value t < p.value s := by
  constructor
  · rintro ⟨higher, lower, first, second, less⟩
    obtain rfl := Except.ok.inj (fitness.symm.trans first)
    obtain rfl := Except.ok.inj (otherFitness.symm.trans second)
    exact less
  · intro less
    exact ⟨_, _, fitness, otherFitness, less⟩

theorem Evaluates.improves_iff (evaluates : p.Evaluates t)
    (fitness : p.fitness s = .ok (p.value s)) :
    p.Improves s t ↔ p.accepts t = true ∧ p.value s < p.value t := by
  rw [← exceeds_iff evaluates.fitness fitness]
  constructor
  · rintro ⟨feasible, exceeds⟩
    exact ⟨accepts_of_feasible feasible, exceeds⟩
  · rintro ⟨accepted, exceeds⟩
    exact ⟨accepted ▸ evaluates.feasible, exceeds⟩

/-- A scan that returns had a verdict on every candidate. -/
theorem judged_of_bestFrom {candidates : List Solution} {index : Nat} {best : Option Nat}
    {score : Int64} {answer : Option Nat}
    (scanned : p.bestFrom index best score candidates = .ok answer) :
    ∀ c ∈ candidates, ∃ verdict, p.feasible c = .ok verdict := by
  induction candidates generalizing index best score with
  | nil => exact nofun
  | cons candidate rest ih =>
      rw [bestFrom, bind_eq_ok_iff] at scanned
      rcases scanned with ⟨verdict, judged, scanned⟩
      rw [List.forall_mem_cons]
      refine ⟨⟨verdict, judged⟩, ?_⟩
      cases verdict with
      | false => exact ih (by simpa using scanned)
      | true =>
          rw [if_pos rfl, bind_eq_ok_iff] at scanned
          rcases scanned with ⟨fitness, _, scanned⟩
          split at scanned
          · exact ih scanned
          · exact ih scanned

end Problem

namespace Selector

variable {p : Problem} {n : Nat}

/-! ## One question -/

namespace Question

/-- All solutions of a question have one width. -/
structure Fits (question : Question) (n : Nat) : Prop where
  current : question.current.length = n
  candidates : ∀ c ∈ question.candidates, c.length = n

/-- The constraints give a verdict on every candidate. -/
def Judged (question : Question) (p : Problem) : Prop :=
  ∀ c ∈ question.candidates, ∃ verdict, p.feasible c = .ok verdict

/-- The indices of maximal fitness among the candidates that improve. -/
def best (question : Question) (p : Problem) : Set Nat :=
  { k | ∃ c, question.candidates[k]? = some c ∧ p.Improves question.current c ∧
    ∀ d ∈ question.candidates, p.Improves question.current d → ¬ p.Exceeds d c }

/-- The answer to a question: the least of the best indices, or nothing if no candidate
improves.  There is an answer exactly if all candidates are judged. -/
structure Answered (question : Question) (p : Problem) (answer : Except Fault (Option Nat)) :
    Prop where
  returns : (∃ choice, answer = .ok choice) ↔ question.Judged p
  chosen : ∀ k, answer = .ok (some k) ↔ question.Judged p ∧ IsLeast (question.best p) k
  nothing : answer = .ok none ↔
    question.Judged p ∧ ∀ c ∈ question.candidates, ¬ p.Improves question.current c

variable {question : Question}

theorem Fits.fitness (fits : question.Fits n) (width : p.width = .ok n) :
    p.fitness question.current = .ok (p.value question.current) :=
  Problem.fitness_eq_value (by rw [width, fits.current])

theorem Judged.evaluates (judged : question.Judged p) (fits : question.Fits n)
    (width : p.width = .ok n) : ∀ c ∈ question.candidates, p.Evaluates c := by
  intro c member
  rcases judged c member with ⟨verdict, feasible⟩
  exact .of_verdict (by rw [width, fits.candidates c member]) feasible

section Evaluated

variable (fitness : p.fitness question.current = .ok (p.value question.current))
  (evaluates : ∀ c ∈ question.candidates, p.Evaluates c)
include fitness evaluates

/-- The first best candidate of the scan has the least of the best indices. -/
theorem isLeast_of_firstBest {k : Nat} {chosen : Solution}
    (firstBest : p.FirstBest (p.value question.current) question.candidates k chosen) :
    IsLeast (question.best p) k := by
  have member : chosen ∈ question.candidates := List.mem_of_getElem? firstBest.here
  have improves : p.Improves question.current chosen :=
    ((evaluates chosen member).improves_iff fitness).mpr ⟨firstBest.accepted, firstBest.better⟩
  constructor
  · refine ⟨chosen, firstBest.here, improves, ?_⟩
    intro d other better exceeds
    have accepted := (((evaluates d other).improves_iff fitness).mp better).1
    rw [Problem.exceeds_iff (evaluates d other).fitness (evaluates chosen member).fitness]
      at exceeds
    exact Int64.not_lt.mpr (firstBest.best d other accepted) exceeds
  · rintro j ⟨c, found, better, unexceeded⟩
    -- A smaller index would belong to a candidate that the chosen one exceeds.
    by_contra before
    have other : c ∈ question.candidates := List.mem_of_getElem? found
    have accepted := (((evaluates c other).improves_iff fitness).mp better).1
    apply unexceeded chosen member improves
    rw [Problem.exceeds_iff (evaluates chosen member).fitness (evaluates c other).fitness]
    exact firstBest.first j c (Nat.lt_of_not_le before) found accepted

theorem not_improves_of_noneBetter
    (noneBetter : p.NoneBetter (p.value question.current) question.candidates) :
    ∀ c ∈ question.candidates, ¬ p.Improves question.current c := by
  intro c member improves
  rcases ((evaluates c member).improves_iff fitness).mp improves with ⟨accepted, better⟩
  exact Int64.not_lt.mpr (noneBetter c member accepted) better

end Evaluated

/-- The selection answers every question about solutions of the problem's width. -/
theorem Fits.answered (fits : question.Fits n) (width : p.width = .ok n) :
    question.Answered p (p.bestImprovement question.current question.candidates) := by
  have fitness := fits.fitness width
  by_cases judged : question.Judged p
  · have evaluates := judged.evaluates fits width
    rcases Problem.bestImprovement_selects fitness evaluates with ⟨choice, improved, selects⟩
    rw [improved]
    cases selects with
    | nothing noneBetter =>
        have unimproved := not_improves_of_noneBetter fitness evaluates noneBetter
        have empty : ∀ k, ¬ IsLeast (question.best p) k := by
          rintro k ⟨⟨c, found, improves, _⟩, _⟩
          exact unimproved c (List.mem_of_getElem? found) improves
        exact ⟨by simp [judged], by simp [empty], by simpa [judged] using unimproved⟩
    | @candidate k chosen firstBest =>
        have least := isLeast_of_firstBest fitness evaluates firstBest
        rcases least.1 with ⟨c, found, improves, _⟩
        refine ⟨by simp [judged], ?_, ?_⟩
        · intro j
          simp only [Except.ok.injEq, Option.some.injEq, judged, true_and]
          exact ⟨fun same => same ▸ least, fun other => least.unique other⟩
        · simp only [Except.ok.injEq, reduceCtorEq, judged, true_and, false_iff]
          intro unimproved
          exact unimproved c (List.mem_of_getElem? found) improves
  · have unanswered : ∀ choice,
        p.bestImprovement question.current question.candidates ≠ .ok choice := by
      intro choice improved
      rw [Problem.bestImprovement, fitness, ok_bind] at improved
      exact judged (Problem.judged_of_bestFrom improved)
    exact ⟨by simp [unanswered, judged], by simp [unanswered, judged],
      by simp [unanswered, judged]⟩

end Question

/-! ## Many questions -/

/-- The answer does not depend on what the selector remembers. -/
theorem answer_fst (selector : Selector) (p : Problem) (question : Question) :
    (selector.answer p question).1 =
      p.bestImprovement question.current question.candidates := by
  rw [answer, select]
  cases p.bestImprovement question.current question.candidates with
  | error fault => rfl
  | ok choice => rfl

/-- A selector is complete behind a question if it was so before, or found nothing. -/
theorem complete_answer (selector : Selector) (p : Problem) (question : Question) :
    (selector.answer p question).2.complete = true ↔
      selector.complete = true ∨ (selector.answer p question).1 = .ok none := by
  rw [answer, select]
  cases p.bestImprovement question.current question.candidates with
  | error fault => simp [bind, Except.bind]
  | ok choice =>
      cases choice with
      | none => simp
      | some k => simp

/-- Every answer is the one that a fresh selector gives to this question alone. -/
theorem answerAll_fst (selector : Selector) (p : Problem) (questions : List Question) :
    (selector.answerAll p questions).1 =
      questions.map fun question => (fresh.answer p question).1 := by
  induction questions generalizing selector with
  | nil => rfl
  | cons question questions ih =>
      rw [answerAll, List.map_cons, ← ih (selector.answer p question).2, answer_fst fresh,
        ← answer_fst selector]

/-- A selector is complete exactly if it was so before or some answer was nothing. -/
theorem complete_answerAll (selector : Selector) (p : Problem) (questions : List Question) :
    (selector.answerAll p questions).2.complete = true ↔
      selector.complete = true ∨ .ok none ∈ (selector.answerAll p questions).1 := by
  induction questions generalizing selector with
  | nil => simp [answerAll]
  | cons question questions ih =>
      have later := ih (selector.answer p question).2
      rw [complete_answer, or_assoc] at later
      rw [answerAll, List.mem_cons, eq_comm (a := Except.ok none)]
      exact later

/-- Whatever a selector was asked before, each answer is the least index of maximal
fitness among the feasible candidates that exceed the current solution, or nothing if
there is none.  It is the answer that a fresh selector gives to this question.  After any
number of questions the selector is complete exactly if one of the answers so far was
nothing.  A searchable problem judges all candidates, so that every question is
answered. -/
theorem answerAll_first_best (width : p.width = .ok n) {questions : List Question}
    (fits : ∀ question ∈ questions, question.Fits n) :
    (fresh.answerAll p questions).1 =
      questions.map (fun question => (fresh.answer p question).1) ∧
    (∀ question ∈ questions, question.Answered p (fresh.answer p question).1) ∧
    (∀ k, (fresh.answerAll p (questions.take k)).2.complete = true ↔
      .ok none ∈ (fresh.answerAll p questions).1.take k) ∧
    (p.Searchable → ∀ question ∈ questions, question.Judged p) := by
  refine ⟨answerAll_fst fresh p questions, ?_, ?_, ?_⟩
  · intro question member
    rw [answer_fst]
    exact (fits question member).answered width
  · intro k
    have earlier : (fresh.answerAll p (questions.take k)).1 =
        (fresh.answerAll p questions).1.take k := by
      rw [answerAll_fst, answerAll_fst, List.map_take]
    rw [complete_answerAll, earlier]
    simp [fresh]
  · intro searchable question member c candidate
    have fitting : c.length = p.weights.length := by
      rw [(fits question member).candidates c candidate]
      exact searchable.width_eq_ok_iff.mp width
    exact ⟨_, searchable.feasible_eq fitting⟩

/-- Taking the first two variables wraps around, and the last one is too heavy. -/
def contested : Problem where
  name := "contested"
  objective := some ⟨[Int64.maxValue, 1, 5]⟩
  constraints := some ⟨[⟨[1, 1, 3], some .lessOrEqual, 2⟩]⟩

/-- Among the candidates there are an infeasible one, repeated ones, the current solution
and one whose sum wraps around. -/
def climbing : Question :=
  ⟨.ofInts [0, 1, 0],
    [.ofInts [1, 1, 0], .ofInts [0, 0, 1], .ofInts [1, 0, 0], .ofInts [1, 0, 0],
      .ofInts [0, 1, 0]]⟩

/-- The exact sum of the first candidate is higher, but it wraps around. -/
def settled : Question :=
  ⟨.ofInts [1, 0, 0], [.ofInts [1, 1, 0], .ofInts [0, 1, 0]]⟩

/-- The flag is raised by the second question and stays so through the third. -/
theorem answerAll_first_best_contested :
    (fresh.answerAll contested [climbing, settled, climbing]).1 =
      [.ok (some 2), .ok none, .ok (some 2)] ∧
    IsLeast (climbing.best contested) 2 ∧
    (∀ c ∈ settled.candidates, ¬ contested.Improves settled.current c) ∧
    (fresh.answerAll contested [climbing]).2.complete = false ∧
    (fresh.answerAll contested [climbing, settled, climbing]).2.complete = true := by
  have fits : ∀ question ∈ [climbing, settled, climbing], question.Fits 3 := by
    have both : climbing.Fits 3 ∧ settled.Fits 3 :=
      ⟨⟨rfl, by decide⟩, ⟨rfl, by decide⟩⟩
    simp [both]
  have width : contested.width = .ok 3 := rfl
  rcases answerAll_first_best width fits with ⟨_, answered, complete, _⟩
  have least := (answered climbing (by simp)).chosen 2
  have nothing := (answered settled (by simp)).nothing
  have begun : (fresh.answerAll contested [climbing]).2.complete = true ↔ _ := complete 1
  refine ⟨rfl, (least.mp rfl).2, (nothing.mp rfl).2, ?_, (complete 3).mpr ?_⟩
  · rw [← Bool.not_eq_true, begun]
    decide
  · decide

end Selector

end Ascent
