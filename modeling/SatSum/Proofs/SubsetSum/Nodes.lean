import SatSum.Proofs.SubsetSum.Strategies

/-! # What the strategies count

A node is a mask tried, a branch searched or a cell filled. Each count is told by the instance and the
answer: the masks up to the one found, the branches that do not come after the first hit, and the cells
of a table over the range of sums.

* `solve_counts_nodes`: the nodes of each strategy.
-/

namespace SatSum.SubsetSum

/-- Backtracking answers with what the first hit takes. -/
theorem firstAnswer_eq_found_iff {problem : Instance} {selection : Selection} :
    problem.firstAnswer = .found selection
      ↔ ∃ hit, IsFirstHit problem.numbers problem.target hit ∧ includedPositions hit = selection := by
  rw [Instance.firstAnswer, firstSelection?_eq]
  simp only [← firstDecisions?_eq_some_iff]
  cases firstDecisions? problem.target problem.numbers with
  | none => simp
  | some hit => simp [includedPositions, takenFrom]

/-- On an instance that validation accepts, enumeration and backtracking end with an answer, and dynamic
    programming does unless there is too little space for its table. Enumeration has counted the masks
    up to the answer then, backtracking the branches up to its first hit, and dynamic programming the
    cells of its table. -/
theorem solve_counts_nodes (problem : Instance) (accepted : problem.validate = .ok ()) :
    problem.solve .bruteForce = .ok ⟨problem.leastAnswer,
        min maxWord (problem.leastAnswer.candidates problem.numbers.length)⟩
      ∧ (∃ nodes, problem.solve .backtracking = .ok ⟨problem.firstAnswer, nodes⟩
        ∧ (∀ selection, problem.firstAnswer = .found selection
          ↔ ∃ hit, IsFirstHit problem.numbers problem.target hit ∧ includedPositions hit = selection)
        ∧ (searched problem.numbers problem.target).encard = nodes
        ∧ nodes ≤ 2 ^ (problem.numbers.length + 1) - 1)
      ∧ (problem.solve .dynamicProgramming = .ok ⟨problem.leastAnswer, problem.tableCells⟩
        ∨ ∃ cause, problem.solve .dynamicProgramming = .error (.exhausted (.space cause))) := by
  simp only [solve_eq_search _ accepted, search]
  refine ⟨?_, ⟨_, complete_backtracking problem, fun selection => firstAnswer_eq_found_iff,
    encard_searched problem.numbers problem.target, ?_⟩, ?_⟩
  · rw [complete_bruteForce, addSaturating, Nat.zero_add, Nat.min_comm]
  · exact Nat.le_sub_one_of_lt (length_branches_lt problem.target problem.numbers)
  · have ends := ends_dynamicProgramming problem
    cases ended : (dynamicProgramming problem).complete with
    | ok outcome =>
      rw [ended] at ends
      exact Or.inl (congrArg Except.ok ends)
    | error fault =>
      rw [ended] at ends
      obtain ⟨cause, rfl⟩ := ends
      exact Or.inr ⟨cause, rfl⟩

/-- Branches with the first element are given up before the hit without it. -/
theorem solve_counts_nodes_mixed_numbers :
    Instance.solve .bruteForce ⟨[3, -2, 4, 0], 2⟩ = .ok ⟨.found [1, 2], 7⟩
      ∧ Instance.solve .backtracking ⟨[3, -2, 4, 0], 2⟩ = .ok ⟨.found [1, 2], 9⟩
      ∧ (searched [3, -2, 4, 0] 2).encard = 9
      ∧ Instance.solve .dynamicProgramming ⟨[3, -2, 4, 0], 2⟩ = .ok ⟨.found [1, 2], 40⟩ := by
  obtain ⟨enumerated, ⟨nodes, searchedAll, _, counted, _⟩, tabulated⟩ :=
    solve_counts_nodes ⟨[3, -2, 4, 0], 2⟩ rfl
  have nine : nodes = 9 := by
    rw [encard_searched] at counted
    exact (Nat.cast_inj.1 counted).symm
  subst nine
  refine ⟨enumerated, searchedAll, counted, ?_⟩
  rcases tabulated with answered | ⟨cause, short⟩
  · exact answered
  · cases short

end SatSum.SubsetSum
