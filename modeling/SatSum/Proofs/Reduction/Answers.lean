import SatSum.Proofs.Reduction.ThreeLiterals
import SatSum.Proofs.Sat.Strategies

/-! # Answers through three-literal clauses

The models of the reduction are the models of the formula with values for the auxiliary variables
after them. These values come last, so they count only between valuations that agree on the formula:
the least model of the reduction begins with the least model of the formula. Every search finds a
least model, so a search on the reduction answers for the formula.

* `Formula.IsLeastModel.restore`: the least model of the reduction restores to the least model.
* `solve_commutes_with_reduceToThree`: solving the reduction and restoring is solving the formula.
-/

namespace SatSum

/-- Which of two valuations of one length comes first is settled before anything follows them. -/
theorem append_lt_append {first second : Valuation} (sameLength : first.length = second.length)
    (before : first < second) (more others : Valuation) : first ++ more < second ++ others := by
  induction first generalizing second with
  | nil =>
    rw [List.length_eq_zero_iff.1 sameLength.symm] at before
    exact absurd before (lt_irrefl [])
  | cons value first inductionHypothesis =>
    cases second with
    | nil => cases sameLength
    | cons other second =>
      rw [List.cons_append, List.cons_append, List.cons_lt_cons_iff]
      rcases List.cons_lt_cons_iff.1 before with smaller | ⟨same, later⟩
      · exact Or.inl smaller
      · exact Or.inr ⟨same, inductionHypothesis (Nat.succ.inj sameLength) later⟩

namespace Formula

variable {formula : Formula} {reduction : ThreeReduction} {valuation extended : Valuation}

/-! ## Models -/

/-- A model is what a model of the reduction begins with. -/
theorem IsModel.exists_extended (wellFormed : formula.WellFormed)
    (fits : formula.numVariables + formula.auxiliaryCount ≤ maxWord)
    (reduced : formula.reduceToThree = .ok reduction) (model : formula.IsModel valuation) :
    ∃ more, reduction.formula.toFormula.IsModel (valuation ++ more) := by
  rw [reduceToThree_eq_ok wellFormed fits, Except.ok.injEq] at reduced
  subst reduced
  obtain ⟨more, moreLength, all⟩ := exists_extension wellFormed model
  refine ⟨more, ?_, ThreeFormula.satisfied_toFormula_iff.2 all⟩
  rw [List.length_append, model.covers, moreLength]
  rfl

/-- A model of the reduction begins with the model it restores to. -/
theorem IsModel.restore (wellFormed : formula.WellFormed)
    (fits : formula.numVariables + formula.auxiliaryCount ≤ maxWord)
    (reduced : formula.reduceToThree = .ok reduction)
    (model : reduction.formula.toFormula.IsModel extended) :
    formula.IsModel (reduction.restore extended)
      ∧ ∃ more, reduction.restore extended ++ more = extended := by
  rw [reduceToThree_eq_ok wellFormed fits, Except.ok.injEq] at reduced
  subst reduced
  have covers : extended.length = formula.numVariables + formula.auxiliaryCount := model.covers
  have restoredLength : (extended.take formula.numVariables).length = formula.numVariables := by
    rw [List.length_take, covers]
    omega
  have isExtension := List.take_append_drop formula.numVariables extended
  have all := ThreeFormula.satisfied_toFormula_iff.1 model.satisfies
  rw [← isExtension] at all
  exact ⟨isModel_of_extension wellFormed restoredLength all, _, isExtension⟩

theorem wellFormed_of_reduced (wellFormed : formula.WellFormed)
    (fits : formula.numVariables + formula.auxiliaryCount ≤ maxWord)
    (reduced : formula.reduceToThree = .ok reduction) : reduction.formula.toFormula.WellFormed := by
  rw [reduceToThree_eq_ok wellFormed fits, Except.ok.injEq] at reduced
  subst reduced
  apply ThreeFormula.wellFormed_toFormula
  · exact Nat.lt_of_lt_of_le wellFormed.hasVariable (Nat.le_add_right _ _)
  · exact Clause.blocksFrom_proper (Clause.normalize_within wellFormed.within)
      Clause.normalize_distinctVars

theorem IsLeastModel.restore (wellFormed : formula.WellFormed)
    (fits : formula.numVariables + formula.auxiliaryCount ≤ maxWord)
    (reduced : formula.reduceToThree = .ok reduction)
    (least : reduction.formula.toFormula.IsLeastModel extended) :
    formula.IsLeastModel (reduction.restore extended) := by
  obtain ⟨restored, auxiliary, isExtension⟩ := least.isModel.restore wellFormed fits reduced
  refine ⟨restored, ?_⟩
  intro other model
  obtain ⟨more, otherExtended⟩ := model.exists_extended wellFormed fits reduced
  by_contra notLeast
  have smaller := append_lt_append (model.covers.trans restored.covers.symm) (not_le.1 notLeast)
    more auxiliary
  rw [isExtension] at smaller
  exact absurd (least.least _ otherExtended) (not_le.2 smaller)

end Formula

/-! ## Answers -/

/-- The answer for a formula that an answer for its reduction gives. -/
def ThreeReduction.restoreAnswer (reduction : ThreeReduction) : Sat.Answer → Sat.Answer
  | .satisfiable extended => .satisfiable (reduction.restore extended)
  | .unsatisfiable => .unsatisfiable

theorem Sat.Answer.Decides.restore {formula : Formula} {reduction : ThreeReduction}
    {answer : Sat.Answer} (wellFormed : formula.WellFormed)
    (fits : formula.numVariables + formula.auxiliaryCount ≤ maxWord)
    (reduced : formula.reduceToThree = .ok reduction)
    (decides : answer.Decides reduction.formula.toFormula) :
    (reduction.restoreAnswer answer).Decides formula := by
  cases answer with
  | satisfiable extended => exact Formula.IsLeastModel.restore wellFormed fits reduced decides
  | unsatisfiable =>
    intro valuation model
    obtain ⟨more, extendedModel⟩ := model.exists_extended wellFormed fits reduced
    exact decides _ extendedModel

/-- A formula that validation accepts, with numbers for its auxiliary variables: it has no model
    exactly if the reduction has none, and what any search finds for the reduction restores to what
    any search finds for the formula. -/
theorem solve_commutes_with_reduceToThree (formula : Formula) (accepted : formula.validate = .ok ())
    (fits : formula.numVariables + formula.auxiliaryCount ≤ maxWord) :
    ∃ reduction, formula.reduceToThree = .ok reduction
      ∧ ∀ strategy other : Sat.Strategy, ∃ outcome threeOutcome,
        formula.solve strategy = .ok outcome
        ∧ reduction.formula.solve other = .ok threeOutcome
        ∧ (outcome.answer = .unsatisfiable ↔ threeOutcome.answer = .unsatisfiable)
        ∧ ∀ extended, threeOutcome.answer = .satisfiable extended →
          outcome.answer = .satisfiable (reduction.restore extended) := by
  have wellFormed := Formula.validate_eq_ok_iff.1 accepted
  obtain ⟨reduction, reduced⟩ : ∃ reduction, formula.reduceToThree = .ok reduction :=
    ⟨_, Formula.reduceToThree_eq_ok wellFormed fits⟩
  have threeWellFormed := Formula.wellFormed_of_reduced wellFormed fits reduced
  refine ⟨reduction, reduced, ?_⟩
  intro strategy other
  obtain ⟨answer, nodes, searched, decides⟩ := Sat.search_decides strategy wellFormed
  obtain ⟨threeAnswer, threeNodes, threeSearched, threeDecides⟩ :=
    Sat.search_decides other threeWellFormed
  have solved : formula.solve strategy = .ok ⟨answer, nodes⟩ :=
    (Sat.solve_eq_search strategy accepted).trans searched
  have threeSolved : reduction.formula.solve other = .ok ⟨threeAnswer, threeNodes⟩ :=
    (Sat.solve_eq_search other (Formula.validate_eq_ok_iff.2 threeWellFormed)).trans threeSearched
  have restored : answer = reduction.restoreAnswer threeAnswer :=
    decides.unique (threeDecides.restore wellFormed fits reduced)
  refine ⟨⟨answer, nodes⟩, ⟨threeAnswer, threeNodes⟩, solved, threeSolved, ?_, ?_⟩
  · rw [restored]
    cases threeAnswer <;> simp [ThreeReduction.restoreAnswer]
  · rintro extended rfl
    exact restored

/-- A clause with a link, a unit clause and one that is always true. -/
theorem solve_commutes_with_reduceToThree_chain_and_unit :
    ∃ reduction, (⟨4, [[⟨1, false⟩, ⟨2, true⟩, ⟨3, true⟩, ⟨4, true⟩], [⟨2, false⟩],
        [⟨3, true⟩, ⟨3, false⟩]]⟩ : Formula).reduceToThree = .ok reduction
      ∧ ∀ strategy other : Sat.Strategy, ∃ outcome threeOutcome,
        (⟨4, [[⟨1, false⟩, ⟨2, true⟩, ⟨3, true⟩, ⟨4, true⟩], [⟨2, false⟩],
          [⟨3, true⟩, ⟨3, false⟩]]⟩ : Formula).solve strategy = .ok outcome
        ∧ reduction.formula.solve other = .ok threeOutcome
        ∧ (outcome.answer = .unsatisfiable ↔ threeOutcome.answer = .unsatisfiable)
        ∧ ∀ extended, threeOutcome.answer = .satisfiable extended →
          outcome.answer = .satisfiable (reduction.restore extended) :=
  solve_commutes_with_reduceToThree _ rfl (by decide +kernel)

end SatSum
