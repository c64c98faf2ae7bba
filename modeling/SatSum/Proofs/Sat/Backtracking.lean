import SatSum.Proofs.Activity
import SatSum.Proofs.Sat.Completion
import SatSum.Sat.Backtracking

/-! # Backtracking finds the least model

The invariant of the search: no clause is false under the values chosen so far. A binding is tested
only against the clauses over its variable, and that is enough, because the other clauses are as they
were before it. A clause that is false stays false, so a branch that is left has no model; and once
every variable is bound, a clause that is not false is satisfied. A node is a prefix of values, and
`visited` lists the prefixes in the order in which the search comes to them.

* `findsAt_bindFrom`: the search from a binding on.
* `complete_backtracking`: backtracking ends with the least model, after the prefixes visited.
-/

namespace SatSum

namespace Clause

variable {valuation more : Valuation} {clause : Clause} {clauses : List Clause}

theorem falsified_iff : clause.falsified valuation = true
    ↔ ∀ literal ∈ clause, literal.negate.holds valuation = true := by
  simp only [falsified, List.all_eq_true]

theorem not_satisfied_of_falsified (isFalse : clause.falsified valuation = true) :
    clause.satisfied (valuation ++ more) = false := by
  rw [Bool.eq_false_iff, ne_eq, satisfied_iff]
  rintro ⟨literal, member, holds⟩
  have negated := falsified_iff.1 isFalse literal member
  have covered := (Literal.covered_of_holds negated).2
  rw [← Literal.holds_append covered more, Literal.not_holds_negate holds] at negated
  cases negated

theorem satisfied_of_not_falsified (within : clause.Within valuation.length)
    (notFalse : clause.falsified valuation = false) : clause.satisfied valuation = true := by
  rw [Bool.eq_false_iff, ne_eq, falsified_iff] at notFalse
  rw [satisfied_iff]
  by_contra noneHolds
  apply notFalse
  intro literal member
  obtain ⟨positive, covered⟩ := within literal member
  rw [Literal.holds_negate_iff positive covered, Bool.eq_false_iff]
  exact fun holds => noneHolds ⟨literal, member, holds⟩

/-- A clause that does not have the latest variable is false only if it was false before. -/
theorem falsified_of_append {value : Bool}
    (absent : clause.any (·.var == valuation.length + 1) = false)
    (isFalse : clause.falsified (valuation ++ [value]) = true) :
    clause.falsified valuation = true := by
  rw [falsified_iff] at isFalse ⊢
  intro literal member
  have negated := isFalse literal member
  -- The literals of the clause are over earlier variables, whose values the last one does not touch.
  have other : literal.var ≠ valuation.length + 1 := by
    simpa using List.any_eq_false.1 absent literal member
  have covered := (Literal.covered_of_holds negated).2
  rw [List.length_append, Literal.negate_var] at covered
  have earlier : literal.negate.var ≤ valuation.length := by
    have : [value].length = 1 := rfl
    rw [Literal.negate_var]
    omega
  rwa [Literal.holds_append earlier [value]] at negated

def NoneFalsified (clauses : List Clause) (valuation : Valuation) : Prop :=
  ∀ clause ∈ clauses, clause.falsified valuation = false

end Clause

namespace Sat

open Clause (NoneFalsified)

variable {clauses : List Clause} {chosen : List Bool} {value : Bool}

theorem noneFalsified_of_bound (before : NoneFalsified clauses chosen.reverse)
    (passed : falsifiesClause clauses chosen value = false) :
    NoneFalsified clauses (chosen.reverse ++ [value]) := by
  intro clause member
  have tested := List.any_eq_false.1 passed clause member
  rw [List.reverse_cons] at tested
  rw [Bool.eq_false_iff]
  intro isFalse
  rw [isFalse, Bool.and_true, Bool.not_eq_true, ← List.length_reverse] at tested
  have wasFalse := Clause.falsified_of_append tested isFalse
  rw [before clause member] at wasFalse
  cases wasFalse

theorem any_falsified_of_falsifies (refused : falsifiesClause clauses chosen value = true) :
    clauses.any (Clause.falsified (chosen.reverse ++ [value])) = true := by
  obtain ⟨clause, member, tested⟩ := List.any_eq_true.1 refused
  rw [List.reverse_cons, Bool.and_eq_true] at tested
  exact List.any_eq_true.2 ⟨clause, member, tested.2⟩

theorem any_falsified_eq_false_iff {valuation : Valuation} :
    clauses.any (Clause.falsified valuation) = false ↔ NoneFalsified clauses valuation := by
  simp only [List.any_eq_false, Bool.not_eq_true]
  rfl

theorem leastCompletion?_of_falsified {initial : Valuation} (free : Nat)
    (someFalse : clauses.any (Clause.falsified initial) = true) :
    leastCompletion? (allSatisfied clauses) initial free = none := by
  obtain ⟨clause, member, isFalse⟩ := List.any_eq_true.1 someFalse
  rw [leastCompletion?_eq_none_iff]
  intro more _
  rw [List.all_eq_false]
  exact ⟨clause, member, Bool.not_eq_true _ ▸ Clause.not_satisfied_of_falsified isFalse⟩

/-! ## Prefixes -/

/-- The prefixes that the search goes through from `initial` on, in order, with `free` more variables to
    bind: none follows one that falsifies a clause, and none with `true` where `false` leads to a
    model. -/
def visited (clauses : List Clause) (initial : Valuation) : Nat → List Valuation
  | 0 => [initial]
  | free + 1 =>
    initial :: if clauses.any (Clause.falsified initial) then []
      else
        visited clauses (initial ++ [false]) free
          ++ if (leastCompletion? (allSatisfied clauses) (initial ++ [false]) free).isSome then []
            else visited clauses (initial ++ [true]) free

theorem visited_of_falsified {initial : Valuation} (free : Nat)
    (someFalse : clauses.any (Clause.falsified initial) = true) :
    visited clauses initial free = [initial] := by
  cases free with
  | zero => rfl
  | succ free => rw [visited, if_pos someFalse]

theorem visited_succ {initial : Valuation} (free : Nat) (noneFalse : NoneFalsified clauses initial) :
    visited clauses initial (free + 1) = initial :: (visited clauses (initial ++ [false]) free
      ++ if (leastCompletion? (allSatisfied clauses) (initial ++ [false]) free).isSome then []
        else visited clauses (initial ++ [true]) free) := by
  rw [visited, any_falsified_eq_false_iff.2 noneFalse, if_neg Bool.false_ne_true]

/-! ## The search -/

/-- What is done after a branch without a model. -/
def goBack (clauses : List Clause) (numVariables : Nat) (stack : List Bool) (nodes : Nat) :
    Activity (Outcome Answer) :=
  match below? stack with
  | none => .done ⟨.unsatisfiable, nodes⟩
  | some below => bindFrom clauses numVariables below true nodes

theorem bindFrom_eq (clauses : List Clause) (numVariables : Nat) (chosen : List Bool) (value : Bool)
    (nodes : Nat) :
    bindFrom clauses numVariables chosen value nodes = .poll (nodes + 1) fun _ =>
      if falsifiesClause clauses chosen value then
        .note (.falsified (chosen.length + 1) value) fun _ =>
          goBack clauses numVariables (value :: chosen) (nodes + 1)
      else if numVariables ≤ chosen.length + 1 then
        .done ⟨.satisfiable (value :: chosen).reverse, nodes + 1⟩
      else bindFrom clauses numVariables (value :: chosen) false (nodes + 1) := by
  rw [bindFrom]
  congr 1
  funext _
  split
  next refused =>
    congr 1
    funext _
    rw [goBack]
    split
    next isBottom => rw [isBottom]
    next below isBelow => rw [isBelow]
  next passed => rfl

/-- Binding a variable finds what going on finds, if no clause is false then, and nothing otherwise. -/
theorem findsAt_bindFrom_of_passed {numVariables free nodes : Nat}
    (before : NoneFalsified clauses chosen.reverse)
    (goesOn : NoneFalsified clauses (chosen.reverse ++ [value]) →
      (if numVariables ≤ chosen.length + 1 then
        .done ⟨.satisfiable (value :: chosen).reverse, nodes + 1⟩
      else bindFrom clauses numVariables (value :: chosen) false (nodes + 1)).FindsAt
        ((leastCompletion? (allSatisfied clauses) (chosen.reverse ++ [value]) free).map
          Answer.satisfiable)
        (nodes + (visited clauses (chosen.reverse ++ [value]) free).length)
        (goBack clauses numVariables (value :: chosen))) :
    (bindFrom clauses numVariables chosen value nodes).FindsAt
      ((leastCompletion? (allSatisfied clauses) (chosen.reverse ++ [value]) free).map
        Answer.satisfiable)
      (nodes + (visited clauses (chosen.reverse ++ [value]) free).length)
      (goBack clauses numVariables (value :: chosen)) := by
  rw [bindFrom_eq]
  apply Activity.FindsAt.poll
  cases tested : falsifiesClause clauses chosen value with
  | true =>
    have someFalse := any_falsified_of_falsifies tested
    rw [if_pos rfl, leastCompletion?_of_falsified free someFalse, visited_of_falsified free someFalse]
    exact Activity.FindsAt.note (Activity.findsAt_otherwise _)
  | false =>
    rw [if_neg Bool.false_ne_true]
    exact goesOn (noneFalsified_of_bound before tested)

/-- Binding a variable to `false`, and to `true` if that finds nothing, goes through the prefixes that
    come after the values chosen. -/
theorem findsAt_either {numVariables free : Nat} (nodes : Nat)
    (noneFalse : NoneFalsified clauses chosen.reverse)
    (each : ∀ value nodes, (bindFrom clauses numVariables chosen value nodes).FindsAt
      ((leastCompletion? (allSatisfied clauses) (chosen.reverse ++ [value]) free).map
        Answer.satisfiable)
      (nodes + (visited clauses (chosen.reverse ++ [value]) free).length)
      (goBack clauses numVariables (value :: chosen))) :
    (bindFrom clauses numVariables chosen false nodes).FindsAt
      ((leastCompletion? (allSatisfied clauses) chosen.reverse (free + 1)).map Answer.satisfiable)
      (nodes + (visited clauses chosen.reverse (free + 1)).tail.length)
      (goBack clauses numVariables chosen) := by
  have both := (each false nodes).orElse (each true _)
  rw [← Option.map_or, Option.isSome_map] at both
  rw [leastCompletion?, visited_succ free noneFalse, List.tail_cons, List.length_append,
    ← Nat.add_assoc]
  split at both
  next found =>
    rw [if_pos found]
    exact both
  next notFound =>
    rw [if_neg notFound]
    exact both

/-- Binding a variable finds the least model among those that go on from there, and goes back if there
    is none. A node is counted for each prefix on the way. -/
theorem findsAt_bindFrom {numVariables : Nat} (free : Nat) (chosen : List Bool) (value : Bool)
    (nodes : Nat) (covers : chosen.length + 1 + free = numVariables)
    (within : ∀ clause ∈ clauses, clause.Within numVariables)
    (before : NoneFalsified clauses chosen.reverse) :
    (bindFrom clauses numVariables chosen value nodes).FindsAt
      ((leastCompletion? (allSatisfied clauses) (chosen.reverse ++ [value]) free).map
        Answer.satisfiable)
      (nodes + (visited clauses (chosen.reverse ++ [value]) free).length)
      (goBack clauses numVariables (value :: chosen)) := by
  induction free generalizing chosen value nodes with
  | zero =>
    apply findsAt_bindFrom_of_passed before
    intro noneFalse
    have sameLength : (chosen.reverse ++ [value]).length = numVariables := by
      rw [List.length_append, List.length_reverse]
      exact covers
    -- Every variable is bound now, so a clause that is not false is satisfied.
    have satisfied : clauses.all (Clause.satisfied (chosen.reverse ++ [value])) = true := by
      rw [List.all_eq_true]
      intro clause member
      apply Clause.satisfied_of_not_falsified _ (noneFalse clause member)
      rw [sameLength]
      exact within clause member
    rw [if_pos covers.ge, leastCompletion?, if_pos satisfied, List.reverse_cons]
    exact Activity.findsAt_done _ _
  | succ free inductionHypothesis =>
    apply findsAt_bindFrom_of_passed before
    intro noneFalse
    rw [← List.reverse_cons] at noneFalse ⊢
    have coversDeeper : (value :: chosen).length + 1 + free = numVariables := by
      rw [List.length_cons]
      omega
    have deeper := findsAt_either (nodes + 1) noneFalse fun next nodes =>
      inductionHypothesis (value :: chosen) next nodes coversDeeper noneFalse
    rw [visited_succ free noneFalse, List.tail_cons, Nat.add_assoc, Nat.add_comm 1] at deeper
    rw [if_neg (by omega), visited_succ free noneFalse]
    exact deeper

/-- Backtracking ends with the least model. It starts with the empty prefix, which is not counted. -/
theorem complete_backtracking {numVariables : Nat} (hasVariable : 0 < numVariables)
    (within : ∀ clause ∈ clauses, clause.Within numVariables) :
    (backtracking numVariables clauses).complete
      = .ok ⟨leastAnswer ⟨numVariables, clauses⟩, (visited clauses [] numVariables).tail.length⟩ := by
  simp only [backtracking]
  split
  next someEmpty =>
    have someFalse : clauses.any (Clause.falsified []) = true := by
      obtain ⟨clause, member, empty⟩ := List.any_eq_true.1 someEmpty
      rw [List.isEmpty_iff.1 empty] at member
      exact List.any_eq_true.2 ⟨[], member, rfl⟩
    have noModel : leastCompletion? (Formula.satisfied · ⟨numVariables, clauses⟩) [] numVariables
        = none := leastCompletion?_of_falsified numVariables someFalse
    rw [visited_of_falsified numVariables someFalse, leastAnswer, noModel]
    rfl
  next noneEmpty =>
    have noneFalse : NoneFalsified clauses [] := by
      intro clause member
      cases clause with
      | nil => exact absurd (List.any_eq_true.2 ⟨[], member, rfl⟩) noneEmpty
      | cons literal rest =>
        rw [Bool.eq_false_iff, ne_eq, Clause.falsified_iff]
        intro isFalse
        have covered := Literal.covered_of_holds (isFalse literal List.mem_cons_self)
        exact Nat.not_succ_le_zero 0 (covered.1.trans covered.2)
    obtain ⟨free, rfl⟩ := Nat.exists_eq_succ_of_ne_zero hasVariable.ne'
    have finds := findsAt_either 0 noneFalse fun value nodes =>
      findsAt_bindFrom free [] value nodes (Nat.add_comm 1 free) within noneFalse
    rw [Nat.zero_add] at finds
    exact finds.complete_eq

end Sat

end SatSum
