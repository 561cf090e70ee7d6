import Ascent.Proofs.Evaluation
import Ascent.Selection

/-!
# What the selection chooses

The scan over the candidates keeps a best index and the fitness to exceed.  Its
answer is described without the scan: it is the first of the feasible candidates
of maximal fitness, if that fitness exceeds the given one, and nothing
otherwise.  `Problem.Selects` states this, and `Problem.bestImprovement_selects`
proves that the scan returns such an answer.
-/

namespace Ascent.Problem

variable {p : Problem}

/-- Candidate `k` exceeds the score, no feasible candidate exceeds it, and the
feasible ones before it stay below it. -/
structure FirstBest (p : Problem) (score : Int64) (candidates : List Solution) (k : Nat)
    (chosen : Solution) : Prop where
  here : candidates[k]? = some chosen
  accepted : p.accepts chosen = true
  better : score < p.value chosen
  best : ∀ d ∈ candidates, p.accepts d = true → p.value d ≤ p.value chosen
  first : ∀ j d, j < k → candidates[j]? = some d → p.accepts d = true →
    p.value d < p.value chosen

/-- No feasible candidate exceeds the score. -/
def NoneBetter (p : Problem) (score : Int64) (candidates : List Solution) : Prop :=
  ∀ d ∈ candidates, p.accepts d = true → p.value d ≤ score

/-- The answers that a selection may give. -/
inductive Selects (p : Problem) (score : Int64) (candidates : List Solution) :
    Option Nat → Prop where
  | nothing (none_better : p.NoneBetter score candidates) : Selects p score candidates none
  | candidate {k : Nat} {chosen : Solution} (first_best : p.FirstBest score candidates k chosen) :
      Selects p score candidates (some k)

/-! ## One more candidate -/

/-- A candidate in front that does not exceed the score to beat moves the best
one by a place. -/
theorem FirstBest.cons {score raised : Int64} {candidate chosen : Solution}
    {rest : List Solution} {k : Nat} (firstBest : p.FirstBest raised rest k chosen)
    (scoreRaised : score ≤ raised)
    (beaten : p.accepts candidate = true → p.value candidate ≤ raised) :
    p.FirstBest score (candidate :: rest) (k + 1) chosen where
  here := by simpa using firstBest.here
  accepted := firstBest.accepted
  better := Int64.lt_of_le_of_lt scoreRaised firstBest.better
  best := by
    intro d member accepted
    rcases List.mem_cons.mp member with rfl | member
    · exact Int64.le_of_lt (Int64.lt_of_le_of_lt (beaten accepted) firstBest.better)
    · exact firstBest.best d member accepted
  first := by
    intro j d before found accepted
    cases j with
    | zero =>
        obtain rfl : candidate = d := by simpa using found
        exact Int64.lt_of_le_of_lt (beaten accepted) firstBest.better
    | succ j =>
        exact firstBest.first j d (Nat.lt_of_succ_lt_succ before) (by simpa using found) accepted

/-- A candidate that exceeds the score and is not exceeded behind is the best one. -/
theorem firstBest_zero {score : Int64} {candidate : Solution} {rest : List Solution}
    (accepted : p.accepts candidate = true) (better : score < p.value candidate)
    (noneBetter : p.NoneBetter (p.value candidate) rest) :
    p.FirstBest score (candidate :: rest) 0 candidate where
  here := rfl
  accepted := accepted
  better := better
  best := by
    intro d member accepted
    rcases List.mem_cons.mp member with rfl | member
    · exact Int64.le_refl _
    · exact noneBetter d member accepted
  first := by
    intro j d before
    exact absurd before (Nat.not_lt_zero j)

theorem NoneBetter.cons {score : Int64} {candidate : Solution} {rest : List Solution}
    (noneBetter : p.NoneBetter score rest)
    (beaten : p.accepts candidate = true → p.value candidate ≤ score) :
    p.NoneBetter score (candidate :: rest) := by
  intro d member accepted
  rcases List.mem_cons.mp member with rfl | member
  · exact beaten accepted
  · exact noneBetter d member accepted

/-! ## The scan -/

/-- One candidate of the scan that can be evaluated. -/
theorem Evaluates.bestFrom_cons {candidate : Solution} (evaluates : p.Evaluates candidate)
    (index : Nat) (best : Option Nat) (score : Int64) (rest : List Solution) :
    p.bestFrom index best score (candidate :: rest) =
      if p.accepts candidate = true ∧ score < p.value candidate then
        p.bestFrom (index + 1) (some index) (p.value candidate) rest
      else p.bestFrom (index + 1) best score rest := by
  rw [bestFrom, evaluates.feasible, evaluates.fitness]
  cases accepted : p.accepts candidate with
  | false => simp
  | true => simp

/-- The scan returns, and its answer is the best index so far if nothing behind
exceeds the score, and otherwise the place of the first best candidate. -/
theorem bestFrom_spec {candidates : List Solution}
    (evaluates : ∀ c ∈ candidates, p.Evaluates c) (index : Nat) (best : Option Nat)
    (score : Int64) :
    ∃ answer, p.bestFrom index best score candidates = .ok answer ∧
      ((answer = best ∧ p.NoneBetter score candidates) ∨
        ∃ k chosen, answer = some (index + k) ∧ p.FirstBest score candidates k chosen) := by
  induction candidates generalizing index best score with
  | nil => exact ⟨best, rfl, Or.inl ⟨rfl, by simp [NoneBetter]⟩⟩
  | cons candidate rest ih =>
      have restEvaluates : ∀ c ∈ rest, p.Evaluates c :=
        fun c member => evaluates c (List.mem_cons_of_mem candidate member)
      rw [(evaluates candidate List.mem_cons_self).bestFrom_cons]
      by_cases exceeds : p.accepts candidate = true ∧ score < p.value candidate
      · -- The candidate becomes the best one so far; it stays so unless a later one exceeds it.
        rw [if_pos exceeds]
        rcases exceeds with ⟨accepted, better⟩
        rcases ih restEvaluates (index + 1) (some index) (p.value candidate) with
          ⟨answer, scanned, outcome⟩
        refine ⟨answer, scanned, Or.inr ?_⟩
        rcases outcome with ⟨kept, noneBetter⟩ | ⟨k, chosen, found, firstBest⟩
        · exact ⟨0, candidate, kept, firstBest_zero accepted better noneBetter⟩
        · refine ⟨k + 1, chosen, ?_, ?_⟩
          · rw [found, Nat.add_assoc, Nat.add_comm 1 k]
          · exact firstBest.cons (Int64.le_of_lt better) fun _ => Int64.le_refl _
      · rw [if_neg exceeds]
        have beaten : p.accepts candidate = true → p.value candidate ≤ score :=
          fun accepted => Int64.not_lt.mp fun better => exceeds ⟨accepted, better⟩
        rcases ih restEvaluates (index + 1) best score with ⟨answer, scanned, outcome⟩
        refine ⟨answer, scanned, ?_⟩
        rcases outcome with ⟨kept, noneBetter⟩ | ⟨k, chosen, found, firstBest⟩
        · exact Or.inl ⟨kept, noneBetter.cons beaten⟩
        · refine Or.inr ⟨k + 1, chosen, ?_, firstBest.cons (Int64.le_refl _) beaten⟩
          rw [found, Nat.add_assoc, Nat.add_comm 1 k]

/-- Among candidates that can be evaluated the selection returns, and what it returns
is the first best improvement. -/
theorem bestImprovement_selects {current : Solution} {candidates : List Solution}
    (fitness : p.fitness current = .ok (p.value current))
    (evaluates : ∀ c ∈ candidates, p.Evaluates c) :
    ∃ answer, p.bestImprovement current candidates = .ok answer ∧
      p.Selects (p.value current) candidates answer := by
  rcases bestFrom_spec evaluates 0 none (p.value current) with ⟨answer, scanned, outcome⟩
  refine ⟨answer, ?_, ?_⟩
  · rw [bestImprovement, fitness]
    simpa using scanned
  · rcases outcome with ⟨rfl, noneBetter⟩ | ⟨k, chosen, found, firstBest⟩
    · exact Selects.nothing noneBetter
    · rw [found, Nat.zero_add]
      exact Selects.candidate firstBest

/-- Among solutions of the width of a searchable problem the selection always
returns. -/
theorem Searchable.bestImprovement_selects (searchable : p.Searchable) {current : Solution}
    {candidates : List Solution} (width : current.length = p.weights.length)
    (widths : ∀ c ∈ candidates, c.length = p.weights.length) :
    ∃ answer, p.bestImprovement current candidates = .ok answer ∧
      p.Selects (p.value current) candidates answer :=
  Problem.bestImprovement_selects (searchable.fitness_eq width)
    fun c member => searchable.evaluates (widths c member)

end Ascent.Problem
