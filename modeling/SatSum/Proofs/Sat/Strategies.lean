import SatSum.Proofs.Sat.Backtracking
import SatSum.Proofs.Sat.BruteForce
import SatSum.Proofs.Sat.Dpll.Rounds
import SatSum.Proofs.ThreeFormula
import SatSum.Sat.Solve

/-! # The strategies agree

A formula has one answer: its least model, or that it has none. Each search ends with an answer that
decides the formula, so the searches end with the same one. Solving a formula, a three-literal one or
not, adds nothing to the search but checks and events.

* `search_decides`: every search decides the formula.
* `solve_agrees_on_leastModel`: every way of solving a formula ends with its one answer.
-/

namespace SatSum.Sat

/-- The answer is that there is no model exactly if no valuation of the variables satisfies the
    formula, and it is a valuation exactly if that is the least model. -/
structure Answer.IsExact (formula : Formula) (answer : Answer) : Prop where
  unsatisfiable_iff : answer = .unsatisfiable
    ↔ ∀ valuation : Valuation, valuation.length = formula.numVariables →
      formula.satisfied valuation = false
  satisfiable_iff : ∀ valuation, answer = .satisfiable valuation ↔ formula.IsLeastModel valuation

def AllEndWith (solve : Strategy → Except Fault (Outcome Answer)) (answer : Answer) : Prop :=
  ∀ strategy, ∃ nodes, solve strategy = .ok ⟨answer, nodes⟩

theorem Answer.Decides.isExact {formula : Formula} {answer : Answer}
    (decides : answer.Decides formula) : answer.IsExact formula where
  unsatisfiable_iff := by
    constructor
    · rintro rfl valuation covers
      rw [Bool.eq_false_iff]
      exact fun satisfies => decides valuation ⟨covers, satisfies⟩
    · intro noModel
      have unsatisfiable : Answer.unsatisfiable.Decides formula := by
        rintro valuation ⟨covers, satisfies⟩
        rw [noModel valuation covers] at satisfies
        cases satisfies
      exact decides.unique unsatisfiable
  satisfiable_iff := by
    intro valuation
    constructor
    · rintro rfl
      exact decides
    · intro least
      have satisfiable : (Answer.satisfiable valuation).Decides formula := least
      exact decides.unique satisfiable

/-! ## Searches -/

theorem search_decides (strategy : Strategy) {formula : Formula} (wellFormed : formula.WellFormed) :
    ∃ answer nodes, (search strategy formula.numVariables formula.clauses).complete
        = .ok ⟨answer, nodes⟩
      ∧ answer.Decides formula := by
  cases strategy with
  | bruteForce =>
    exact ⟨_, _, complete_bruteForce formula.numVariables formula.clauses, leastAnswer_decides formula⟩
  | backtracking =>
    exact ⟨_, _, complete_backtracking wellFormed.hasVariable wellFormed.within, leastAnswer_decides formula⟩
  | dpll =>
    obtain ⟨answer, bindings, ended, decides, _⟩ := Dpll.dpll_spec formula wellFormed.within
    exact ⟨answer, _, ended, decides⟩

theorem exists_answer {formula : Formula} (wellFormed : formula.WellFormed) :
    ∃ answer : Answer, answer.Decides formula ∧ AllEndWith
      (fun strategy => (search strategy formula.numVariables formula.clauses).complete) answer := by
  obtain ⟨answer, _, _, decides⟩ := search_decides .bruteForce wellFormed
  refine ⟨answer, decides, ?_⟩
  intro strategy
  obtain ⟨other, nodes, ended, otherDecides⟩ := search_decides strategy wellFormed
  rw [otherDecides.unique decides] at ended
  exact ⟨nodes, ended⟩

/-! ## Solving -/

theorem complete_reportedSearch (strategy : Strategy) (numVariables : Nat) (clauses : List Clause) :
    (reportedSearch strategy numVariables clauses).complete
      = (search strategy numVariables clauses).complete :=
  Activity.complete_reported _ _ _

theorem solve_eq_search (strategy : Strategy) {formula : Formula}
    (accepted : formula.validate = .ok ()) :
    formula.solve strategy = (search strategy formula.numVariables formula.clauses).complete := by
  simp only [Formula.solve, Formula.solving, Activity.complete_bind, Activity.complete_ofExcept,
    accepted, complete_reportedSearch]
  rfl

/-- A formula that is taken as a three-literal one is solved as the formula it is. -/
theorem solveThree_eq_search (strategy : Strategy) {formula : Formula} {three : ThreeFormula}
    (accepted : formula.validate = .ok ()) (taken : ThreeFormula.ofFormula formula = .ok three) :
    formula.solveThree strategy
      = (search strategy formula.numVariables formula.clauses).complete := by
  simp only [Formula.solveThree, Formula.solvingThree, Activity.complete_bind,
    Activity.complete_ofExcept, accepted, taken, complete_reportedSearch]
  obtain ⟨rfl, _⟩ := ThreeFormula.ofFormula_eq_ok_iff.1 taken
  rfl

theorem decides_of_search {strategy : Strategy} {formula : Formula} {outcome : Outcome Answer}
    (accepted : formula.validate = .ok ())
    (ended : (search strategy formula.numVariables formula.clauses).complete = .ok outcome) :
    outcome.answer.Decides formula := by
  obtain ⟨answer, nodes, searched, decides⟩ :=
    search_decides strategy (Formula.validate_eq_ok_iff.1 accepted)
  cases searched.symm.trans ended
  exact decides

theorem decides_of_solve {strategy : Strategy} {formula : Formula} {outcome : Outcome Answer}
    (ended : formula.solve strategy = .ok outcome) : outcome.answer.Decides formula := by
  have accepted : formula.validate = .ok () := by
    simp only [Formula.solve, Formula.solving, Activity.complete_bind, Activity.complete_ofExcept]
      at ended
    obtain ⟨_, accepted, _⟩ := bind_eq_ok_iff.1 ended
    exact accepted
  rw [solve_eq_search strategy accepted] at ended
  exact decides_of_search accepted ended

theorem exists_three_of_solveThree {strategy : Strategy} {formula : Formula}
    {outcome : Outcome Answer} (ended : formula.solveThree strategy = .ok outcome) :
    ∃ three, formula.validate = .ok () ∧ ThreeFormula.ofFormula formula = .ok three := by
  simp only [Formula.solveThree, Formula.solvingThree, Activity.complete_bind,
    Activity.complete_ofExcept] at ended
  obtain ⟨_, accepted, later⟩ := bind_eq_ok_iff.1 ended
  obtain ⟨three, taken, _⟩ := bind_eq_ok_iff.1 later
  exact ⟨three, accepted, taken⟩

theorem decides_of_solveThree {strategy : Strategy} {formula : Formula} {outcome : Outcome Answer}
    (ended : formula.solveThree strategy = .ok outcome) : outcome.answer.Decides formula := by
  obtain ⟨three, accepted, taken⟩ := exists_three_of_solveThree ended
  rw [solveThree_eq_search strategy accepted taken] at ended
  exact decides_of_search accepted ended

/-- All strategies give one answer, the exact one, to a formula that validation accepts; so they do if
    it is taken as a three-literal formula, and for every three-literal formula that is accepted,
    whether or not its clauses repeat a variable. -/
theorem solve_agrees_on_leastModel :
    (∀ formula : Formula, formula.validate = .ok () →
      ∃ answer : Answer, answer.IsExact formula
        ∧ AllEndWith formula.solve answer
        ∧ ∀ three, ThreeFormula.ofFormula formula = .ok three →
          AllEndWith formula.solveThree answer)
    ∧ ∀ three : ThreeFormula, three.validate = .ok () →
      ∃ answer : Answer, answer.IsExact three.toFormula ∧ AllEndWith three.solve answer := by
  constructor
  · intro formula accepted
    obtain ⟨answer, decides, allEnd⟩ := exists_answer (Formula.validate_eq_ok_iff.1 accepted)
    refine ⟨answer, decides.isExact, ?_, ?_⟩
    · intro strategy
      obtain ⟨nodes, ended⟩ := allEnd strategy
      exact ⟨nodes, (solve_eq_search strategy accepted).trans ended⟩
    · intro three taken strategy
      obtain ⟨nodes, ended⟩ := allEnd strategy
      exact ⟨nodes, (solveThree_eq_search strategy accepted taken).trans ended⟩
  · intro three accepted
    have acceptedFormula : three.toFormula.validate = .ok () := accepted
    obtain ⟨answer, decides, allEnd⟩ := exists_answer (Formula.validate_eq_ok_iff.1 acceptedFormula)
    refine ⟨answer, decides.isExact, ?_⟩
    intro strategy
    obtain ⟨nodes, ended⟩ := allEnd strategy
    exact ⟨nodes, (solve_eq_search strategy acceptedFormula).trans ended⟩

/-- A formula that is taken as a three-literal one, and a three-literal formula that repeats a
    variable. -/
theorem solve_agrees_on_distinct_and_repeated :
    (∃ answer : Answer, answer.IsExact ⟨3, [[⟨1, true⟩, ⟨2, false⟩, ⟨3, true⟩]]⟩
      ∧ AllEndWith (Formula.solve · ⟨3, [[⟨1, true⟩, ⟨2, false⟩, ⟨3, true⟩]]⟩) answer
      ∧ AllEndWith (Formula.solveThree · ⟨3, [[⟨1, true⟩, ⟨2, false⟩, ⟨3, true⟩]]⟩) answer)
    ∧ ∃ answer : Answer, answer.IsExact ⟨2, [[⟨1, true⟩, ⟨1, true⟩, ⟨2, false⟩]]⟩
      ∧ AllEndWith (ThreeFormula.solve · ⟨2, [⟨⟨1, true⟩, ⟨1, true⟩, ⟨2, false⟩⟩]⟩) answer := by
  constructor
  · obtain ⟨answer, exact, allSolve, allSolveThree⟩ :=
      solve_agrees_on_leastModel.1 ⟨3, [[⟨1, true⟩, ⟨2, false⟩, ⟨3, true⟩]]⟩ rfl
    exact ⟨answer, exact, allSolve,
      allSolveThree ⟨3, [⟨⟨1, true⟩, ⟨2, false⟩, ⟨3, true⟩⟩]⟩ rfl⟩
  · exact solve_agrees_on_leastModel.2 ⟨2, [⟨⟨1, true⟩, ⟨1, true⟩, ⟨2, false⟩⟩]⟩ rfl

end SatSum.Sat
