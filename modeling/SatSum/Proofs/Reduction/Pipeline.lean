import SatSum.Proofs.Reduction.Faithful
import SatSum.Proofs.Reduction.ThreeLiterals
import SatSum.Proofs.Sat.Strategies
import SatSum.Proofs.SubsetSum.Strategies
import SatSum.Reduction.Pipeline

/-! # The pipeline is faithful

Whatever formula goes through both reductions, its auxiliary variables could be numbered, or the program
would have stopped. So the three literal formula has the models of the formula, with values for the
auxiliary variables after them, and the instance has the solutions of the three literal formula.

* `Formula.pipeline_eq_ok`: the two reductions.
* `pipeline_isFaithful`: solutions, models and the answers of all searches correspond.
-/

namespace SatSum

open SubsetSum (Selection)

/-! ## What a pipeline is made of -/

theorem ThreeFormula.encode_eq_ok {three : ThreeFormula} {encoding : Encoding}
    (encoded : three.encode = .ok encoding) :
    three.toFormula.WellFormed ∧ encoding.Faithful three.toFormula := by
  obtain ⟨_, accepted, made⟩ := bind_eq_ok_iff.1 encoded
  have wellFormed : three.toFormula.WellFormed := Formula.validate_eq_ok_iff.1 accepted
  exact ⟨wellFormed, Encoding.faithful_ofClauses wellFormed.within made fun _ _ => rfl⟩

namespace Formula

variable {formula : Formula} {pipeline : Pipeline} {valuation : Valuation} {selection : Selection}

/-- The two reductions of a formula that goes through the pipeline. -/
theorem pipeline_eq_ok (small : formula.numVariables ≤ maxWord)
    (made : formula.pipeline = .ok pipeline) :
    formula.WellFormed
      ∧ pipeline.three = ⟨⟨formula.numVariables + formula.auxiliaryCount,
          (Clause.blocksFrom formula.numVariables (Clause.normalize formula.clauses)).flatten⟩,
        formula.numVariables, formula.clauses.length⟩
      ∧ pipeline.encoding.Faithful pipeline.three.formula.toFormula := by
  obtain ⟨three, reduced, later⟩ := bind_eq_ok_iff.1 made
  obtain ⟨encoding, encoded, same⟩ := bind_eq_ok_iff.1 later
  cases same
  obtain ⟨wellFormed, _, sameThree⟩ := of_reduceToThree_eq_ok small reduced
  exact ⟨wellFormed, sameThree, (ThreeFormula.encode_eq_ok encoded).2⟩

/-! ## There and back -/

/-- A solution restores to a model. -/
theorem isModel_of_solution (small : formula.numVariables ≤ maxWord)
    (made : formula.pipeline = .ok pipeline) (accepted : pipeline.problem.verify selection = .ok ()) :
    ∃ valuation, pipeline.restore selection = .ok valuation ∧ formula.IsModel valuation := by
  obtain ⟨wellFormed, three, faithful⟩ := pipeline_eq_ok small made
  obtain ⟨extended, restored, model⟩ := faithful.restores selection accepted
  rw [three] at model
  have covers : extended.length = formula.numVariables + formula.auxiliaryCount := model.covers
  have all := ThreeFormula.satisfied_toFormula_iff.1 model.satisfies
  rw [← List.take_append_drop formula.numVariables extended] at all
  refine ⟨extended.take formula.numVariables, ?_, isModel_of_extension wellFormed ?_ all⟩
  · rw [Pipeline.restore, restored, three]
    rfl
  · rw [List.length_take, covers]
    omega

/-- Every model is what a solution restores to. -/
theorem IsModel.exists_solution (small : formula.numVariables ≤ maxWord)
    (made : formula.pipeline = .ok pipeline) (model : formula.IsModel valuation) :
    ∃ selection, pipeline.problem.verify selection = .ok ()
      ∧ pipeline.restore selection = .ok valuation := by
  obtain ⟨wellFormed, three, faithful⟩ := pipeline_eq_ok small made
  obtain ⟨more, moreLength, all⟩ := exists_extension wellFormed model
  have extendedLength : (valuation ++ more).length = pipeline.three.formula.toFormula.numVariables := by
    rw [List.length_append, model.covers, moreLength, three]
    rfl
  have satisfies : pipeline.three.formula.toFormula.satisfied (valuation ++ more) = true := by
    rw [three]
    exact ThreeFormula.satisfied_toFormula_iff.2 all
  obtain ⟨selection, isWitness⟩ :=
    Option.isSome_iff_exists.1 ((faithful.witness_isSome_iff _ extendedLength).2 satisfies)
  obtain ⟨_, accepted, restored⟩ := faithful.witness_accepted _ _ isWitness
  refine ⟨selection, accepted, ?_⟩
  have restoredLength : pipeline.three.sourceVariables = valuation.length := by
    rw [three, model.covers]
  rw [Pipeline.restore, restored]
  show Except.ok ((valuation ++ more).take pipeline.three.sourceVariables) = _
  rw [restoredLength, List.take_left]

end Formula

/-! ## Answers -/

/-- A correct answer for the instance and one for the formula tell the same. -/
theorem isFound_eq_isSatisfiable {formula : Formula} {pipeline : Pipeline}
    {answer : SubsetSum.Answer} {decided : Sat.Answer} (small : formula.numVariables ≤ maxWord)
    (made : formula.pipeline = .ok pipeline) (correct : answer.IsCorrect pipeline.problem)
    (decides : decided.Decides formula) : answer.isFound = decided.isSatisfiable := by
  cases answer with
  | found selection =>
    obtain ⟨valuation, _, model⟩ := Formula.isModel_of_solution small made
      (SubsetSum.Instance.verify_eq_ok_iff.2 correct)
    cases decided with
    | satisfiable => rfl
    | unsatisfiable => exact absurd model (decides valuation)
  | notFound =>
    cases decided with
    | satisfiable valuation =>
      obtain ⟨selection, accepted, _⟩ := decides.isModel.exists_solution small made
      exact absurd (SubsetSum.Instance.verify_eq_ok_iff.1 accepted) (correct selection)
    | unsatisfiable => rfl

/-- What a pipeline owes its formula: solutions restore to what verification accepts for the formula,
    and to all of that; and a search for a solution, if it answers, answers as any search for a model. -/
structure Pipeline.IsFaithful (formula : Formula) (pipeline : Pipeline) : Prop where
  restores : ∀ selection, pipeline.problem.verify selection = .ok () →
    ∃ valuation, pipeline.restore selection = .ok valuation ∧ formula.verify valuation = .ok ()
  reaches : ∀ valuation, formula.verify valuation = .ok () →
    ∃ selection, pipeline.problem.verify selection = .ok ()
      ∧ pipeline.restore selection = .ok valuation
  decides : ∀ (strategy : SubsetSum.Strategy) (outcome : Outcome SubsetSum.Answer),
    pipeline.problem.solve strategy = .ok outcome → ∀ other : Sat.Strategy,
      ∃ decided, formula.solve other = .ok decided
        ∧ outcome.answer.isFound = decided.answer.isSatisfiable
  restores_found : ∀ (strategy : SubsetSum.Strategy) (selection : Selection) (nodes : Nat),
    pipeline.problem.solve strategy = .ok ⟨.found selection, nodes⟩ →
      ∃ valuation, pipeline.restore selection = .ok valuation ∧ formula.verify valuation = .ok ()

/-- Every formula that goes through the pipeline, its number of variables being a word. -/
theorem pipeline_isFaithful (formula : Formula) (pipeline : Pipeline)
    (small : formula.numVariables ≤ maxWord) (made : formula.pipeline = .ok pipeline) :
    pipeline.IsFaithful formula := by
  have wellFormed := (Formula.pipeline_eq_ok small made).1
  have restores (selection : Selection) (accepted : pipeline.problem.verify selection = .ok ()) :
      ∃ valuation, pipeline.restore selection = .ok valuation
        ∧ formula.verify valuation = .ok () := by
    obtain ⟨valuation, restored, model⟩ := Formula.isModel_of_solution small made accepted
    exact ⟨valuation, restored, Formula.verify_eq_ok_iff.2 model⟩
  refine ⟨restores, ?_, ?_, ?_⟩
  · intro valuation accepted
    exact (Formula.verify_eq_ok_iff.1 accepted).exists_solution small made
  · intro strategy outcome ended other
    obtain ⟨answer, nodes, searched, decides⟩ := Sat.search_decides other wellFormed
    refine ⟨⟨answer, nodes⟩, ?_, ?_⟩
    · rw [Sat.solve_eq_search other (Formula.validate_eq_ok_iff.2 wellFormed), searched]
    · exact isFound_eq_isSatisfiable small made (SubsetSum.isCorrect_of_solve ended) decides
  · intro strategy selection nodes ended
    exact restores selection
      (SubsetSum.Instance.verify_eq_ok_iff.2 (SubsetSum.isCorrect_of_solve ended))

/-- A clause that is always true, a unit clause, one with a link, and then an empty one. -/
theorem pipeline_isFaithful_every_length :
    ∃ made unsatisfiable : Pipeline,
      (⟨4, [[⟨2, true⟩, ⟨2, false⟩], [⟨3, false⟩], [⟨1, true⟩, ⟨2, false⟩, ⟨3, true⟩, ⟨4, true⟩]]⟩
          : Formula).pipeline = .ok made
        ∧ made.IsFaithful
          ⟨4, [[⟨2, true⟩, ⟨2, false⟩], [⟨3, false⟩], [⟨1, true⟩, ⟨2, false⟩, ⟨3, true⟩, ⟨4, true⟩]]⟩
        ∧ (⟨1, [[]]⟩ : Formula).pipeline = .ok unsatisfiable
        ∧ unsatisfiable.IsFaithful ⟨1, [[]]⟩ :=
  ⟨_, _, rfl, pipeline_isFaithful _ _ (by decide +kernel) rfl,
    rfl, pipeline_isFaithful _ _ (by decide +kernel) rfl⟩

end SatSum
