import SatSum.Proofs.Sat.Dpll.Invariant

/-! # The model at the end of a path

When every clause has a true literal, the valuation of the path, free variables taken as false, is a
model. Any other model either has all the literals of the path, and then it is false nowhere where the
valuation is true, or it leaves the path for the first time at a decision. The decision took the first
free variable and made it false, so the two agree on all variables before and the model is greater.

* `holds_of_unit`: a unit clause forces its free literal.
* `holdsIn_or_leaves`: how a model relates to a path that is justified.
* `isLeastModel_of_satisfied`: the valuation read off at the end is the least model.
-/

namespace SatSum.Sat.Dpll.Path

variable {formula : Formula} {path : Path} {step : Step} {literal : Literal} {clause : Clause}
  {valuation : Valuation} {numVariables : Nat}

/-! ## Units -/

theorem two_le_countP {list : List Literal} {counted : Literal → Bool} {first second : Literal}
    (inList : first ∈ list ∧ second ∈ list)
    (both : counted first = true ∧ counted second = true) (different : first ≠ second) :
    2 ≤ list.countP counted := by
  have pair : [first, second].Nodup := by simpa using different
  have within : [first, second] ⊆ list.filter counted := by
    intro literal member
    rw [List.mem_filter]
    rcases List.mem_pair.1 member with rfl | rfl
    · exact ⟨inList.1, both.1⟩
    · exact ⟨inList.2, both.2⟩
  have shorter := (List.subperm_of_subset pair within).length_le
  rwa [← List.countP_eq_length_filter] at shorter

/-- The free literal of a clause without a true one and without another free one holds in every model
    that the path holds in. -/
theorem holds_of_unit (member : clause ∈ formula.clauses)
    (unsatisfied : (path.counter clause).isUnsatisfied = true)
    (unit : (path.counter clause).freeCount ≤ 1) (inClause : literal ∈ clause)
    (free : literal.var ∉ path.vars) (model : formula.IsModel valuation)
    (holdsIn : path.HoldsIn valuation) : literal.holds valuation = true := by
  -- Some literal of the clause holds, and it is free; were it another one, two would be free.
  obtain ⟨other, otherIn, otherHolds⟩ := model.clause member
  have otherFree : other.var ∉ path.vars := by
    intro bound
    have negated := (mem_literals_or_negate bound).resolve_left
      (isUnsatisfied_iff.1 unsatisfied other otherIn)
    have fails := holdsIn _ negated
    rw [Literal.not_holds_negate otherHolds] at fails
    cases fails
  by_cases same : literal = other
  · rwa [same]
  · have twoFree : 2 ≤ (path.counter clause).freeCount :=
      two_le_countP ⟨Clause.mem_deduplicated.2 inClause, Clause.mem_deduplicated.2 otherIn⟩
        ⟨by simpa using free, by simpa using otherFree⟩ same
    exact absurd unit (Nat.not_le.2 twoFree)

/-! ## Reading off the valuation -/

/-- The values of the path, free variables taken as false. -/
def completion (numVariables : Nat) (path : Path) : Valuation :=
  (path.values numVariables).map (·.getD false)

theorem holds_completion (wellFormed : WellFormed numVariables path)
    (member : literal ∈ path.literals) : literal.holds (path.completion numVariables) = true := by
  obtain ⟨step, onPath, rfl⟩ := List.mem_map.1 member
  have positive := (wellFormed.within step onPath).1
  have value := (getElem?_values_eq_some_iff wellFormed positive).2 member
  rw [Literal.holds_iff positive, completion, List.getElem?_map, value]
  rfl

theorem mem_literals_of_completion (wellFormed : WellFormed numVariables path) {index : Nat}
    (isTrue : (path.completion numVariables)[index]? = some true) :
    ⟨index + 1, true⟩ ∈ path.literals := by
  rw [completion, List.getElem?_map, Option.map_eq_some_iff] at isTrue
  obtain ⟨value, atIndex, isTrue⟩ := isTrue
  cases value with
  | none => cases isTrue
  | some value =>
    cases isTrue
    have positive : 1 ≤ (⟨index + 1, true⟩ : Literal).var := Nat.le_add_left 1 index
    exact (getElem?_values_eq_some_iff wellFormed positive).1 atIndex

/-- A model has the literals of the path, or leaves it at a decision. -/
theorem holdsIn_or_leaves (justified : Justified formula path) (model : formula.IsModel valuation) :
    path.HoldsIn valuation ∨ ∃ (newer : Path) (step : Step) (older : Path), path = newer ++ step :: older
      ∧ step.origin = .branching ∧ Justifies formula older step ∧ older.HoldsIn valuation
      ∧ step.literal.holds valuation = false := by
  -- The latest step matters only if the model has all earlier literals.
  induction path with
  | nil => exact Or.inl fun literal member => (List.not_mem_nil member).elim
  | cons step path inductionHypothesis =>
    obtain ⟨justifies, justified⟩ := justified
    rcases inductionHypothesis justified with holdsIn | ⟨newer, other, older, rfl, leaves⟩
    · cases holds : step.literal.holds valuation with
      | true => exact Or.inl (holdsIn_cons.2 ⟨holds, holdsIn⟩)
      | false =>
        cases origin : step.origin with
        | branching =>
          exact Or.inr ⟨[], step, path, rfl, origin, justifies, holdsIn, holds⟩
        -- What is not a decision holds in the model by its justification.
        | forced | flipped =>
          rw [Justifies, origin] at justifies
          rw [justifies valuation model holdsIn] at holds
          cases holds
    · exact Or.inr ⟨step :: newer, other, older, rfl, leaves⟩

/-- The first place where two lists of the same length differ decides their order. -/
theorem lt_of_first_difference {first second : Valuation} (index : Nat)
    (before : ∀ earlier, earlier < index → first[earlier]? = second[earlier]?)
    (isFalse : first[index]? = some false) (isTrue : second[index]? = some true) : first < second := by
  obtain ⟨inFirst, atFirst⟩ := List.getElem?_eq_some_iff.1 isFalse
  obtain ⟨inSecond, atSecond⟩ := List.getElem?_eq_some_iff.1 isTrue
  refine List.lt_iff_exists.2 (Or.inr ⟨index, inFirst, inSecond, ?_, ?_⟩)
  · intro earlier less
    have same := before earlier less
    rw [List.getElem?_eq_getElem (less.trans inFirst), List.getElem?_eq_getElem (less.trans inSecond)]
      at same
    exact Option.some.inj same
  · rw [atFirst, atSecond]
    decide

/-- A model with the literals of the path does not come before the valuation. -/
theorem completion_le_of_holdsIn (wellFormed : WellFormed numVariables path)
    (covers : valuation.length = numVariables) (holdsIn : path.HoldsIn valuation) :
    path.completion numVariables ≤ valuation := by
  -- Were the model smaller, it would be false at a place where the path has a literal.
  apply le_of_not_gt
  intro smaller
  rcases List.lt_iff_exists.1 smaller with ⟨_, shorter⟩ | ⟨index, inModel, inCompletion, _, differ⟩
  · simp [completion, covers] at shorter
  · obtain ⟨isFalse, isTrue⟩ := Bool.lt_iff.1 differ
    have onPath := mem_literals_of_completion wellFormed
      (List.getElem?_eq_some_iff.2 ⟨inCompletion, isTrue⟩)
    have holds := (Literal.holds_iff (Nat.le_add_left 1 index)).1 (holdsIn _ onPath)
    obtain ⟨_, modelTrue⟩ := List.getElem?_eq_some_iff.1 holds
    simp only [Nat.add_sub_cancel] at modelTrue
    rw [isFalse] at modelTrue
    cases modelTrue

/-- A valuation that leaves the path at a decision comes after that of the path. -/
theorem completion_lt_of_leaves {newer older : Path}
    (wellFormed : WellFormed formula.numVariables (newer ++ step :: older))
    (branching : step.origin = .branching) (justifies : Justifies formula older step)
    (covers : valuation.length = formula.numVariables) (holdsIn : older.HoldsIn valuation)
    (leaves : step.literal.holds valuation = false) :
    completion formula.numVariables (newer ++ step :: older) < valuation := by
  rw [Justifies, branching] at justifies
  obtain ⟨isNegative, firstFree, _⟩ := justifies
  have onPath : step ∈ newer ++ step :: older :=
    List.mem_append_right _ List.mem_cons_self
  obtain ⟨positive, within⟩ := wellFormed.within step onPath
  refine lt_of_first_difference (step.literal.var - 1) ?_ ?_ ?_
  -- All variables before the decision are bound by older steps, whose literals the model has.
  · intro earlier less
    obtain ⟨sign, member⟩ := exists_literal_of_mem_vars
      (firstFree (earlier + 1) (Nat.le_add_left 1 earlier) (by omega))
    have inCompletion : (⟨earlier + 1, sign⟩ : Literal).holds
        (completion formula.numVariables (newer ++ step :: older)) = true := by
      apply holds_completion wellFormed
      rw [literals, List.map_append]
      exact List.mem_append_right _ (List.mem_cons_of_mem _ member)
    have inModel := holdsIn _ member
    rw [Literal.holds_iff (Nat.le_add_left 1 earlier)] at inCompletion inModel
    exact inCompletion.trans inModel.symm
  · have holds := holds_completion wellFormed (List.mem_map_of_mem onPath)
    rw [Literal.holds_iff positive, isNegative] at holds
    exact holds
  · have negated := (Literal.holds_negate_iff positive (covers ▸ within)).2 leaves
    have samePlace : 1 ≤ step.literal.negate.var := positive
    rw [Literal.holds_iff samePlace] at negated
    simpa [Literal.negate, isNegative] using negated

/-- The valuation of a path that satisfies every clause is the least model. -/
theorem isLeastModel_of_satisfied (reached : Reached formula path)
    (satisfied : ∀ clause ∈ formula.clauses, ∃ literal ∈ clause, literal ∈ path.literals) :
    formula.IsLeastModel (path.completion formula.numVariables) := by
  constructor
  · constructor
    · simp [completion]
    · rw [Formula.satisfied, List.all_eq_true]
      intro clause member
      obtain ⟨literal, inClause, onPath⟩ := satisfied clause member
      exact Clause.satisfied_iff.2 ⟨literal, inClause, holds_completion reached.wellFormed onPath⟩
  · intro other model
    rcases holdsIn_or_leaves reached.justified model with
      holdsIn | ⟨newer, step, older, rfl, branching, justifies, holdsIn, leaves⟩
    · exact completion_le_of_holdsIn reached.wellFormed model.covers holdsIn
    · exact le_of_lt
        (completion_lt_of_leaves reached.wellFormed branching justifies model.covers holdsIn leaves)

end SatSum.Sat.Dpll.Path
