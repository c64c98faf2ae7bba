import SatSum.Proofs.Sat.Dpll.Path

/-! # Binding and undoing along a path

A step changes a counter by the occurrences of its literal and of the negation, of which a clause has
at most one each after repetitions are dropped. Both directions follow from the two equations for
counts, so `bind` and `unbind` move between the states of a path and of the path with a step more.

* `trueCount_cons`, `freeCount_cons`: what a step does to the counts of a clause.
* `bind_state`: binding a free literal is a step.
* `undo_state`: undoing the latest binding takes the step back.
-/

namespace SatSum.Sat.Dpll.Path

variable {formula : Formula} {path : Path} {step : Step} {literal : Literal} {clause : Clause}
  {numVariables : Nat}

/-! ## Counts -/

/-- In a list without repetitions, admitting one more member counts one more, if it is there. -/
theorem countP_beq_or {list : List Literal} (distinct : list.Nodup) {counted : Literal → Bool}
    (new : counted literal = false) :
    list.countP (fun other => other == literal || counted other)
      = list.countP counted + if list.contains literal then 1 else 0 := by
  induction list with
  | nil => rfl
  | cons head list inductionHypothesis =>
    obtain ⟨headNew, distinct⟩ := List.nodup_cons.1 distinct
    rw [List.countP_cons, List.countP_cons, inductionHypothesis distinct]
    by_cases same : head = literal
    · subst same
      simp [headNew, new]
    · have different : ¬ literal = head := fun equal => same equal.symm
      simp [same, different]
      omega

theorem trueCount_cons (clause : Clause) (free : step.literal.var ∉ path.vars) :
    (counter (step :: path) clause).trueCount = (path.counter clause).trueCount
      + if clause.deduplicated.contains step.literal then 1 else 0 := by
  have new : path.literals.contains step.literal = false := by
    simpa using fun member => free (mem_vars_of_mem_literals member)
  simp only [counter, literals_cons, List.contains_cons]
  exact countP_beq_or clause.deduplicated_nodup new

theorem freeCount_cons (clause : Clause) (free : step.literal.var ∉ path.vars) :
    (path.counter clause).freeCount = (counter (step :: path) clause).freeCount
      + (if clause.deduplicated.contains step.literal then 1 else 0)
      + if clause.deduplicated.contains step.literal.negate then 1 else 0 := by
  -- A literal was free if it still is, or is the one that became true or its negation.
  have wasFree (other : Literal) : (!path.vars.contains other.var)
      = (other == step.literal.negate
        || (other == step.literal || !(vars (step :: path)).contains other.var)) := by
    rw [Bool.eq_iff_iff]
    simp only [vars_cons, Bool.not_eq_true', Bool.or_eq_true, beq_iff_eq, List.contains_eq_mem,
      decide_eq_false_iff_not, List.mem_cons, not_or]
    by_cases same : other.var = step.literal.var
    · rw [same]
      rcases Literal.var_eq_iff.1 same with equal | negated
      · simp [free, equal]
      · simp [free, negated]
    · have different : other ≠ step.literal ∧ other ≠ step.literal.negate :=
        not_or.1 fun equal => same (Literal.var_eq_iff.2 equal)
      simp [same, different]
  have newLiteral : (!(vars (step :: path)).contains step.literal.var) = false := by simp
  have newNegation : (step.literal.negate == step.literal
      || !(vars (step :: path)).contains step.literal.negate.var) = false := by
    simp [Literal.negate_ne]
  simp only [counter]
  rw [funext wasFree, countP_beq_or clause.deduplicated_nodup newNegation,
    countP_beq_or clause.deduplicated_nodup newLiteral]

/-! ## Counters -/

theorem bind_counter (free : step.literal.var ∉ path.vars) :
    (path.counter clause).bind step.literal = counter (step :: path) clause := by
  have gained := trueCount_cons clause free
  have lost := freeCount_cons clause free
  -- No count goes below zero, since what is lost was free.
  have left : ∀ now gain loss : Nat, now + gain + loss - gain - loss = now := by omega
  have sameLiterals : (path.counter clause).literals = clause.deduplicated := rfl
  simp only [Counter.bind, sameLiterals, ← gained, lost, left]
  rfl

theorem unbind_counter (free : step.literal.var ∉ path.vars) :
    (counter (step :: path) clause).unbind step.literal = path.counter clause := by
  have gained := trueCount_cons clause free
  have lost := freeCount_cons clause free
  have sameLiterals : (counter (step :: path) clause).literals = clause.deduplicated := rfl
  simp only [Counter.unbind, sameLiterals, ← lost, gained, Nat.add_sub_cancel]
  rfl

theorem isUnsatisfied_iff :
    (path.counter clause).isUnsatisfied = true ↔ ∀ literal ∈ clause, literal ∉ path.literals := by
  simp [Counter.isUnsatisfied, counter, List.countP_eq_zero]

theorem freeCount_eq_zero_iff :
    (path.counter clause).freeCount = 0 ↔ ∀ literal ∈ clause, literal.var ∈ path.vars := by
  simp [counter, List.countP_eq_zero]

/-- The clauses without a true literal were without one before, and some of them had the literal of
    the step. -/
theorem countP_isUnsatisfied_cons (clauses : List Clause) (free : step.literal.var ∉ path.vars) :
    clauses.countP (fun clause => (path.counter clause).isUnsatisfied)
      = clauses.countP (fun clause => (counter (step :: path) clause).isUnsatisfied)
        + clauses.countP fun clause =>
            (path.counter clause).literals.contains step.literal
              && (path.counter clause).isUnsatisfied := by
  have sameLiterals (clause : Clause) : (path.counter clause).literals = clause.deduplicated := rfl
  have stillUnsatisfied (clause : Clause) : (counter (step :: path) clause).isUnsatisfied
      = ((path.counter clause).isUnsatisfied && !clause.deduplicated.contains step.literal) := by
    rw [Counter.isUnsatisfied, trueCount_cons clause free, Counter.isUnsatisfied]
    cases clause.deduplicated.contains step.literal <;> simp
  -- Split by whether the clause has the literal of the step.
  rw [List.countP_eq_countP_filter_add clauses _
    fun clause => !clause.deduplicated.contains step.literal, List.countP_filter, List.countP_filter]
  simp only [stillUnsatisfied, sameLiterals, Bool.not_not, Bool.and_comm]

/-! ## States -/

/-- The clauses that a step makes false or unit, by their new counters. -/
def weakenedBy (formula : Formula) (step : Step) (path : Path) : List (Counter × Nat) :=
  State.weakened step.literal (formula.clauses.map (counter (step :: path)))

theorem bind_state (queue : List Nat) (nodes : Nat) (free : step.literal.var ∉ path.vars) :
    (path.state formula queue nodes).bind step.literal step.origin
      = (state formula (step :: path)
          (queue ++ ((weakenedBy formula step path).filter (·.1.freeCount == 1)).map Prod.snd)
          (nodes + 1),
        (weakenedBy formula step path).all (·.1.freeCount != 0)) := by
  have counters : (path.state formula queue nodes).counters.map (Counter.bind step.literal)
      = formula.clauses.map (counter (step :: path)) := by
    simp only [state, List.map_map]
    exact List.map_congr_left fun clause _ => bind_counter free
  have unsatisfied := countP_isUnsatisfied_cons formula.clauses free
  simp only [State.bind, counters]
  congr 2
  simp only [state, List.countP_map, Function.comp_def]
  omega

theorem undo_state (queue : List Nat) (nodes : Nat)
    (wellFormed : WellFormed formula.numVariables (step :: path)) :
    State.unbind step.literal { state formula (step :: path) queue nodes with
      trail := path.map Step.binding } = path.state formula queue nodes := by
  have counters : (formula.clauses.map (counter (step :: path))).map (Counter.unbind step.literal)
      = formula.clauses.map path.counter := by
    rw [List.map_map]
    exact List.map_congr_left fun clause _ => unbind_counter wellFormed.head_free
  have unsatisfied := countP_isUnsatisfied_cons formula.clauses wellFormed.head_free
  simp only [State.unbind, state, counters]
  congr 1
  · exact set_values_cons wellFormed
  · simp only [List.countP_map, Function.comp_def]
    exact unsatisfied.symm

end SatSum.Sat.Dpll.Path
