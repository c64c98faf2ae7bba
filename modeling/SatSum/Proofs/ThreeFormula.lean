import SatSum.Proofs.Normalize
import SatSum.ThreeFormula

/-! # Taking three-literal formulas

`ThreeFormula.ofFormula` changes nothing about a formula it takes: it finds three literals over three
different variables in every clause and keeps them in order.

* `ofFormula_eq_ok_iff`: what is taken, and as what.
* `normalize_toFormula`: such a formula is in normal form.
-/

namespace SatSum

namespace ThreeClause

/-- The literals are over three different variables. -/
def DistinctVars (clause : ThreeClause) : Prop :=
  clause.toClause.DistinctVars

/-- Three different variables, from 1 to `bound`. -/
structure Proper (bound : Nat) (clause : ThreeClause) : Prop where
  within : clause.toClause.Within bound
  distinct : clause.DistinctVars

theorem distinctVars_iff {a b c : Literal} :
    (⟨a, b, c⟩ : ThreeClause).DistinctVars ↔ a.var ≠ b.var ∧ a.var ≠ c.var ∧ b.var ≠ c.var := by
  simp [DistinctVars, toClause, Clause.DistinctVars, and_assoc]

theorem ofLiterals_eq_ok_iff {a b c : Literal} {three : ThreeClause} :
    ofLiterals a b c = .ok three ↔ three = ⟨a, b, c⟩ ∧ three.DistinctVars := by
  rw [ofLiterals]
  split
  next shared =>
    constructor
    · intro accepted
      cases accepted
    · rintro ⟨rfl, distinct⟩
      rw [distinctVars_iff] at distinct
      rcases shared with same | same | same
      · exact absurd same distinct.1
      · exact absurd same distinct.2.1
      · exact absurd same distinct.2.2
  next different =>
    have distinct : (⟨a, b, c⟩ : ThreeClause).DistinctVars := by
      rw [distinctVars_iff]
      tauto
    constructor
    · intro accepted
      cases accepted
      exact ⟨rfl, distinct⟩
    · rintro ⟨rfl, _⟩
      rfl

theorem Proper.mono {bound more : Nat} {clause : ThreeClause} (proper : clause.Proper bound)
    (fewer : bound ≤ more) : clause.Proper more :=
  ⟨proper.within.mono fewer, proper.distinct⟩

theorem proper_of_ne {bound : Nat} {a b c : Literal} (first : 1 ≤ a.var ∧ a.var ≤ bound)
    (second : 1 ≤ b.var ∧ b.var ≤ bound) (third : 1 ≤ c.var ∧ c.var ≤ bound)
    (different : a.var ≠ b.var ∧ a.var ≠ c.var ∧ b.var ≠ c.var) :
    (⟨a, b, c⟩ : ThreeClause).Proper bound where
  within := by simpa [Clause.Within, toClause] using ⟨first, second, third⟩
  distinct := distinctVars_iff.2 different

/-- The variable after those of two literals makes a third one. -/
theorem proper_of_next {top bound : Nat} {a b next : Literal} (first : 1 ≤ a.var ∧ a.var ≤ top)
    (second : 1 ≤ b.var ∧ b.var ≤ top) (different : a.var ≠ b.var) (newer : next.var = top + 1)
    (room : top + 1 ≤ bound) : (⟨a, b, next⟩ : ThreeClause).Proper bound := by
  apply proper_of_ne
  · exact ⟨first.1, by omega⟩
  · exact ⟨second.1, by omega⟩
  · exact ⟨by omega, by omega⟩
  · exact ⟨different, by omega, by omega⟩

end ThreeClause

namespace ThreeFormula

theorem clauseAt_eq_ok_iff {position : Nat} {clause : Clause} {three : ThreeClause} :
    clauseAt position clause = .ok three ↔ three.toClause = clause ∧ three.DistinctVars := by
  constructor
  · intro accepted
    unfold clauseAt at accepted
    split at accepted
    next a b c =>
      split at accepted
      next taken found =>
        cases accepted
        obtain ⟨rfl, distinct⟩ := ThreeClause.ofLiterals_eq_ok_iff.1 found
        exact ⟨rfl, distinct⟩
      next refused => cases accepted
    next wrongWidth => cases accepted
  · rintro ⟨rfl, distinct⟩
    have found : ThreeClause.ofLiterals three.first three.second three.third = .ok three :=
      ThreeClause.ofLiterals_eq_ok_iff.2 ⟨rfl, distinct⟩
    simp only [clauseAt, ThreeClause.toClause, found]

theorem clausesFrom_eq_ok_iff {position : Nat} {clauses : List Clause} {threes : List ThreeClause} :
    clausesFrom position clauses = .ok threes
      ↔ threes.map ThreeClause.toClause = clauses ∧ ∀ three ∈ threes, three.DistinctVars := by
  induction clauses generalizing position threes with
  | nil =>
    rw [clausesFrom, List.map_eq_nil_iff]
    constructor
    · intro accepted
      cases accepted
      exact ⟨rfl, fun _ member => nomatch member⟩
    · rintro ⟨rfl, _⟩
      rfl
  | cons clause rest inductionHypothesis =>
    constructor
    · intro accepted
      simp only [clausesFrom, bind, Except.bind] at accepted
      split at accepted
      next fault refused => cases accepted
      next three found =>
        split at accepted
        next fault refused => cases accepted
        next others foundRest =>
          cases accepted
          obtain ⟨rfl, distinct⟩ := clauseAt_eq_ok_iff.1 found
          obtain ⟨rfl, distinctRest⟩ := inductionHypothesis.1 foundRest
          exact ⟨rfl, List.forall_mem_cons.2 ⟨distinct, distinctRest⟩⟩
    · rintro ⟨sameClauses, distinct⟩
      cases threes with
      | nil => cases sameClauses
      | cons three threes =>
        obtain ⟨rfl, rfl⟩ := List.cons.inj sameClauses
        obtain ⟨distinctFirst, distinctRest⟩ := List.forall_mem_cons.1 distinct
        have found : clauseAt position three.toClause = .ok three :=
          clauseAt_eq_ok_iff.2 ⟨rfl, distinctFirst⟩
        have foundRest : clausesFrom (position + 1) (threes.map ThreeClause.toClause) = .ok threes :=
          inductionHypothesis.2 ⟨rfl, distinctRest⟩
        rw [clausesFrom, found, foundRest]
        rfl

/-- A formula is taken as the three-literal formula that it is. -/
theorem ofFormula_eq_ok_iff {formula : Formula} {three : ThreeFormula} :
    ofFormula formula = .ok three
      ↔ three.toFormula = formula ∧ ∀ clause ∈ three.clauses, clause.DistinctVars := by
  obtain ⟨numVariables, clauses⟩ := formula
  constructor
  · intro accepted
    simp only [ofFormula, bind, Except.bind] at accepted
    split at accepted
    next fault refused => cases accepted
    next threes found =>
      cases accepted
      obtain ⟨rfl, distinct⟩ := clausesFrom_eq_ok_iff.1 found
      exact ⟨rfl, distinct⟩
  · rintro ⟨sameFormula, distinct⟩
    cases sameFormula
    have found : clausesFrom 1 (three.clauses.map ThreeClause.toClause) = .ok three.clauses :=
      clausesFrom_eq_ok_iff.2 ⟨rfl, distinct⟩
    rw [ofFormula, found]
    rfl

theorem wellFormed_toFormula {three : ThreeFormula} (hasVariable : 0 < three.numVariables)
    (proper : ∀ clause ∈ three.clauses, clause.Proper three.numVariables) :
    three.toFormula.WellFormed where
  hasVariable := hasVariable
  within := by
    intro clause member
    obtain ⟨source, inClauses, rfl⟩ := List.mem_map.1 member
    exact (proper source inClauses).within

/-- Three different variables a clause leave nothing to normalise. -/
theorem normalize_toFormula {three : ThreeFormula}
    (distinct : ∀ clause ∈ three.clauses, clause.DistinctVars) :
    Clause.normalize three.toFormula.clauses = three.clauses.map ThreeClause.toClause := by
  apply Clause.normalize_eq_self
  intro clause member
  obtain ⟨source, inClauses, rfl⟩ := List.mem_map.1 member
  exact distinct source inClauses

end ThreeFormula

end SatSum
