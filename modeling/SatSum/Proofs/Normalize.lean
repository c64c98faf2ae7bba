import SatSum.Proofs.Models

/-! # Clauses without repetitions

Dropping repeated literals keeps what satisfies a clause, and a clause with both polarities of a
variable is satisfied by every valuation that covers it. So `Clause.normalize` keeps the models, and
what it leaves are clauses over pairwise different variables, which it would leave again.
-/

namespace SatSum.Clause

/-! ## Repeated literals -/

theorem deduplicated_nodup (clause : Clause) : clause.deduplicated.Nodup := by
  match clause with
  | [] => exact List.nodup_nil
  | literal :: rest =>
    rw [deduplicated, List.eraseDups_cons, List.nodup_cons]
    constructor
    · simp
    · exact deduplicated_nodup (rest.filter fun other => !other == literal)
termination_by clause.length
decreasing_by
  exact Nat.lt_succ_of_le (List.length_filter_le _ _)

@[simp] theorem mem_deduplicated {clause : Clause} {literal : Literal} :
    literal ∈ clause.deduplicated ↔ literal ∈ clause :=
  List.mem_eraseDups

theorem satisfied_deduplicated (valuation : Valuation) (clause : Clause) :
    clause.deduplicated.satisfied valuation = clause.satisfied valuation := by
  rw [Bool.eq_iff_iff]
  simp only [satisfied_iff, mem_deduplicated]

theorem Within.deduplicated {numVariables : Nat} {clause : Clause} (within : clause.Within numVariables) :
    clause.deduplicated.Within numVariables :=
  fun literal member => within literal (mem_deduplicated.1 member)

/-! ## Tautologies -/

theorem isTautology_iff {clause : Clause} :
    clause.isTautology = true ↔ ∃ literal ∈ clause, literal.negate ∈ clause := by
  simp [isTautology]

theorem satisfied_of_isTautology {valuation : Valuation} {clause : Clause}
    (within : clause.Within valuation.length) (tautology : clause.isTautology = true) :
    clause.satisfied valuation = true := by
  obtain ⟨literal, member, negated⟩ := isTautology_iff.1 tautology
  obtain ⟨positive, covered⟩ := within literal member
  rw [satisfied_iff]
  cases holds : literal.holds valuation with
  | true => exact ⟨literal, member, holds⟩
  | false => exact ⟨literal.negate, negated, (Literal.holds_negate_iff positive covered).2 holds⟩

/-! ## Normal form -/

/-- The literals of the clause are over pairwise different variables. -/
def DistinctVars (clause : Clause) : Prop :=
  clause.Pairwise fun first second => first.var ≠ second.var

theorem mem_normalize_iff {clauses : List Clause} {clause : Clause} :
    clause ∈ normalize clauses
      ↔ (∃ source ∈ clauses, source.deduplicated = clause) ∧ clause.isTautology = false := by
  simp [normalize, List.mem_filter]

theorem normalize_within {numVariables : Nat} {clauses : List Clause}
    (within : ∀ clause ∈ clauses, clause.Within numVariables) :
    ∀ clause ∈ normalize clauses, clause.Within numVariables := by
  intro clause member
  obtain ⟨⟨source, inClauses, rfl⟩, _⟩ := mem_normalize_iff.1 member
  exact (within source inClauses).deduplicated

theorem normalize_distinctVars {clauses : List Clause} :
    ∀ clause ∈ normalize clauses, clause.DistinctVars := by
  intro clause member
  obtain ⟨⟨source, _, rfl⟩, noTautology⟩ := mem_normalize_iff.1 member
  apply List.Pairwise.imp_of_mem _ source.deduplicated_nodup
  intro first second inFirst inSecond different sameVar
  -- Two different literals over one variable are negations of each other.
  have negated : first = second.negate := (Literal.var_eq_iff.1 sameVar).resolve_left different
  rw [negated] at inFirst
  rw [isTautology_iff.2 ⟨second, inSecond, inFirst⟩] at noTautology
  cases noTautology

/-- A clause over different variables has at most one literal for each. -/
theorem DistinctVars.length_le {numVariables : Nat} {clause : Clause} (distinct : clause.DistinctVars)
    (within : clause.Within numVariables) : clause.length ≤ numVariables := by
  have different : (clause.map Literal.var).Nodup := List.pairwise_map.2 distinct
  have declared : clause.map Literal.var ⊆ List.range' 1 numVariables := by
    intro var member
    obtain ⟨literal, inClause, rfl⟩ := List.mem_map.1 member
    have := within literal inClause
    rw [List.mem_range'_1]
    omega
  simpa using (List.subperm_of_subset different declared).length_le

theorem DistinctVars.deduplicated_eq {clause : Clause} (distinct : clause.DistinctVars) :
    clause.deduplicated = clause := by
  induction clause with
  | nil => rfl
  | cons literal rest inductionHypothesis =>
    obtain ⟨different, distinctRest⟩ := List.pairwise_cons.1 distinct
    have kept : rest.filter (fun other => !other == literal) = rest := by
      apply List.filter_eq_self.2
      intro other member
      have notSame : other ≠ literal :=
        fun same => different other member (congrArg Literal.var same).symm
      simpa using notSame
    rw [deduplicated, List.eraseDups_cons, kept]
    exact congrArg (literal :: ·) (inductionHypothesis distinctRest)

theorem DistinctVars.isTautology_eq_false {clause : Clause} (distinct : clause.DistinctVars) :
    clause.isTautology = false := by
  rw [Bool.eq_false_iff, Ne, isTautology_iff]
  rintro ⟨literal, member, negated⟩
  have symmetric : Std.Symm fun first second : Literal => first.var ≠ second.var :=
    ⟨fun _ _ different => different.symm⟩
  exact distinct.forall member negated literal.negate_ne.symm rfl

/-- Clauses over pairwise different variables are left as they are. -/
theorem normalize_eq_self {clauses : List Clause}
    (distinct : ∀ clause ∈ clauses, clause.DistinctVars) : normalize clauses = clauses := by
  have deduplicated : clauses.map Clause.deduplicated = clauses :=
    (List.map_congr_left fun clause member => (distinct clause member).deduplicated_eq).trans
      (List.map_id' clauses)
  rw [normalize, deduplicated]
  apply List.filter_eq_self.2
  intro clause member
  rw [(distinct clause member).isTautology_eq_false]
  rfl

/-- Normalising keeps the valuations that satisfy every clause. -/
theorem all_satisfied_normalize {valuation : Valuation} {clauses : List Clause}
    (within : ∀ clause ∈ clauses, clause.Within valuation.length) :
    (normalize clauses).all (satisfied valuation) = clauses.all (satisfied valuation) := by
  rw [Bool.eq_iff_iff]
  simp only [List.all_eq_true]
  constructor
  · intro normalSatisfied clause member
    rw [← satisfied_deduplicated]
    cases tautology : clause.deduplicated.isTautology with
    | true => exact satisfied_of_isTautology (within clause member).deduplicated tautology
    | false =>
      exact normalSatisfied _ (mem_normalize_iff.2 ⟨⟨clause, member, rfl⟩, tautology⟩)
  · intro allSatisfied clause member
    obtain ⟨⟨source, inClauses, rfl⟩, _⟩ := mem_normalize_iff.1 member
    rw [satisfied_deduplicated]
    exact allSatisfied source inClauses

end SatSum.Clause
