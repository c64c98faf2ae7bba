import SatSum.Proofs.SubsetSum.Backtracking
import SatSum.Proofs.SubsetSum.BruteForce
import SatSum.Proofs.SubsetSum.Dynamic
import SatSum.SubsetSum.Solve

/-! # What the strategies answer

An instance has one answer by the order of masks: its least solution, or that it has none. Enumeration
ends with it, and so does dynamic programming if the table of sums is not too large. Backtracking goes
by the order of lists and ends with the first solution instead.

* `solve_agrees_on_leastSolution`: enumeration and dynamic programming end with one answer.
* `solve_backtracking_isFirst`: what backtracking ends with.
* `isCorrect_of_solve`: whatever the strategy, an answer is correct.
-/

namespace SatSum.SubsetSum

/-- The answer is that there is none exactly if no selection is a solution, and it is a selection
    exactly if that is the least solution. -/
structure Answer.IsExact (problem : Instance) (answer : Answer) : Prop where
  notFound_iff : answer = .notFound ↔ ∀ selection, ¬ problem.IsSolution selection
  found_iff : ∀ selection, answer = .found selection ↔ problem.IsLeastSolution selection

theorem Answer.Decides.unique {problem : Instance} {first second : Answer}
    (left : first.Decides problem) (right : second.Decides problem) : first = second := by
  cases first with
  | found selection =>
    cases second with
    | found other => rw [Instance.IsLeastSolution.unique left right]
    | notFound => exact absurd left.isSolution (right selection)
  | notFound =>
    cases second with
    | found other => exact absurd right.isSolution (left other)
    | notFound => rfl

theorem Answer.Decides.isExact {problem : Instance} {answer : Answer}
    (decides : answer.Decides problem) : answer.IsExact problem where
  notFound_iff := by
    constructor
    · rintro rfl
      exact decides
    · intro noSolution
      have notFound : Answer.notFound.Decides problem := noSolution
      exact decides.unique notFound
  found_iff := by
    intro selection
    constructor
    · rintro rfl
      exact decides
    · intro least
      have found : (Answer.found selection).Decides problem := least
      exact decides.unique found

theorem solve_eq_search (strategy : Strategy) {problem : Instance}
    (accepted : problem.validate = .ok ()) :
    problem.solve strategy = (search strategy problem).complete := by
  rw [Instance.solve, Instance.solving, Activity.complete_bind, Activity.complete_ofExcept, accepted]
  exact Activity.complete_reported (.subsetSumStarted strategy problem.numbers.length problem.target)
    (fun outcome => .subsetSumFinished strategy outcome.answer.isFound outcome.nodes)
    (search strategy problem)

/-- Enumeration gives the exact answer to an instance that validation accepts, and where dynamic
    programming gives an answer, it is the same one. -/
theorem solve_agrees_on_leastSolution (problem : Instance) (accepted : problem.validate = .ok ()) :
    ∃ answer : Answer, answer.IsExact problem
      ∧ (∃ nodes, problem.solve .bruteForce = .ok ⟨answer, nodes⟩)
      ∧ ∀ outcome, problem.solve .dynamicProgramming = .ok outcome → outcome.answer = answer := by
  refine ⟨_, (leastSelection?_decides problem).isExact, ?_, ?_⟩
  · rw [solve_eq_search _ accepted]
    exact bruteForce_eq problem
  · intro outcome ended
    rw [solve_eq_search _ accepted] at ended
    exact dynamicProgramming_answer ended

/-- An instance with a negative, a zero and a repeated number. -/
theorem solve_agrees_on_mixed_numbers :
    ∃ answer : Answer, answer.IsExact ⟨[3, -2, 3, 0], 1⟩
      ∧ (∃ nodes, Instance.solve .bruteForce ⟨[3, -2, 3, 0], 1⟩ = .ok ⟨answer, nodes⟩)
      ∧ ∃ outcome, Instance.solve .dynamicProgramming ⟨[3, -2, 3, 0], 1⟩ = .ok outcome
        ∧ outcome.answer = answer := by
  have solved : Instance.solve .dynamicProgramming ⟨[3, -2, 3, 0], 1⟩ = .ok ⟨.found [0, 1], 36⟩ := by
    rfl
  obtain ⟨answer, exact, enumerated, agrees⟩ := solve_agrees_on_leastSolution ⟨[3, -2, 3, 0], 1⟩ rfl
  exact ⟨answer, exact, enumerated, _, solved, agrees _ solved⟩

/-! ## Backtracking -/

/-- The answer is that there is none exactly if no selection is a solution, and it is a selection
    exactly if that is the first solution. -/
structure Answer.IsFirst (problem : Instance) (answer : Answer) : Prop where
  notFound_iff : answer = .notFound ↔ ∀ selection, ¬ problem.IsSolution selection
  found_iff : ∀ selection, answer = .found selection ↔ problem.IsFirstSolution selection

/-- Backtracking answers an instance that validation accepts: with its first solution or, if it has
    none, that there is none. The answer is the one of the reference that tests every prefix of
    decisions, so giving up branches by their bounds does not change it. -/
theorem solve_backtracking_isFirst (problem : Instance) (accepted : problem.validate = .ok ()) :
    ∃ answer : Answer, answer.IsFirst problem
      ∧ (∃ nodes, problem.solve .backtracking = .ok ⟨answer, nodes⟩)
      ∧ answer = problem.firstAnswer := by
  obtain ⟨nodes, ended⟩ := backtracking_eq problem
  obtain ⟨notFound_iff, found_iff⟩ := problem.firstAnswer_spec
  refine ⟨_, ⟨notFound_iff, found_iff⟩, ⟨nodes, ?_⟩, rfl⟩
  rw [solve_eq_search _ accepted]
  exact ended

/-- A solution that a longer one continues, before one that begins later. -/
theorem solve_backtracking_isFirst_mixed_numbers :
    (Answer.found [0, 1]).IsFirst ⟨[3, -2, 0, 1], 1⟩
      ∧ ∃ nodes, Instance.solve .backtracking ⟨[3, -2, 0, 1], 1⟩ = .ok ⟨.found [0, 1], nodes⟩ := by
  obtain ⟨answer, isFirst, solved, same⟩ := solve_backtracking_isFirst ⟨[3, -2, 0, 1], 1⟩ rfl
  obtain rfl : answer = .found [0, 1] := same
  exact ⟨isFirst, solved⟩

/-! ## Every strategy -/

/-- The answer is a solution, or says rightly that there is none. -/
def Answer.IsCorrect (problem : Instance) : Answer → Prop
  | .found selection => problem.IsSolution selection
  | .notFound => ∀ selection, ¬ problem.IsSolution selection

theorem Answer.Decides.isCorrect {problem : Instance} {answer : Answer}
    (decides : answer.Decides problem) : answer.IsCorrect problem := by
  cases answer with
  | found selection => exact decides.isSolution
  | notFound => exact decides

theorem firstAnswer_isCorrect (problem : Instance) : problem.firstAnswer.IsCorrect problem := by
  obtain ⟨notFound_iff, found_iff⟩ := problem.firstAnswer_spec
  cases answer : problem.firstAnswer with
  | found selection => exact ((found_iff selection).1 answer).isSolution
  | notFound => exact notFound_iff.1 answer

theorem isCorrect_of_search {strategy : Strategy} {problem : Instance} {outcome : Outcome Answer}
    (ended : (search strategy problem).complete = .ok outcome) : outcome.answer.IsCorrect problem := by
  cases strategy with
  | bruteForce =>
    obtain ⟨nodes, found⟩ := bruteForce_eq problem
    cases found.symm.trans ended
    exact (leastSelection?_decides problem).isCorrect
  | backtracking =>
    obtain ⟨nodes, found⟩ := backtracking_eq problem
    cases found.symm.trans ended
    exact firstAnswer_isCorrect problem
  | dynamicProgramming =>
    rw [dynamicProgramming_answer ended]
    exact (leastSelection?_decides problem).isCorrect

theorem isCorrect_of_solve {strategy : Strategy} {problem : Instance} {outcome : Outcome Answer}
    (ended : problem.solve strategy = .ok outcome) : outcome.answer.IsCorrect problem := by
  cases accepted : problem.validate with
  | error fault =>
    simp only [Instance.solve, Instance.solving, Activity.complete_bind, Activity.complete_ofExcept,
      accepted] at ended
    cases ended
  | ok =>
    rw [solve_eq_search strategy accepted] at ended
    exact isCorrect_of_search ended

end SatSum.SubsetSum
