import SatSum.Proofs.Activity
import SatSum.Proofs.Sat.Completion
import SatSum.Sat.BruteForce

/-! # Enumeration decides formulas

The valuations that begin alike are counted through in a row, from the one that goes on with `false`
only to the one that goes on with `true` only. The first that is accepted is the least completion of
what they begin with, and if none is, the valuation after them begins the next count.

* `findsAt_tryFrom`: the count through the valuations that begin alike.
* `complete_bruteForce`: enumeration ends with the least model, having paid for every candidate up to it.
-/

namespace SatSum.Sat

/-- The last of the valuations that begin alike is followed by the first of the next ones. -/
theorem next?_append_ones (initial : Valuation) (free : Nat) :
    Valuation.next? (initial ++ List.replicate free true)
      = initial.next?.map (· ++ List.replicate free false) := by
  rw [Valuation.next?, Valuation.next?, List.reverse_append, List.reverse_replicate,
    Digits.next?_ones_append, Option.map_map, Option.map_map]
  congr 1
  funext digits
  simp

/-- What is done after a valuation that is refused. -/
def tryAfter (clauses : List Clause) (cost : Nat) (valuation : Valuation) (nodes : Nat) :
    Activity (Outcome Answer) :=
  match valuation.next? with
  | none => .done ⟨.unsatisfiable, nodes⟩
  | some next => tryFrom clauses cost next nodes

theorem tryFrom_eq (clauses : List Clause) (cost : Nat) (valuation : Valuation) (nodes : Nat) :
    tryFrom clauses cost valuation nodes = .poll (addSaturating nodes cost) fun _ =>
      if clauses.all (Clause.satisfied valuation) then
        .done ⟨.satisfiable valuation, addSaturating nodes cost⟩
      else tryAfter clauses cost valuation (addSaturating nodes cost) := by
  rw [tryFrom]
  congr 1
  funext _
  split
  next accepted => rfl
  next refused =>
    rw [tryAfter]
    split
    next isLast => rw [isLast]
    next following isNext => rw [isNext]

theorem tryAfter_eq_tryFrom (clauses : List Clause) (cost free : Nat) (initial : Valuation) :
    tryAfter clauses cost (initial ++ [false] ++ List.replicate free true)
      = tryFrom clauses cost (initial ++ [true] ++ List.replicate free false) := by
  funext nodes
  have follows : (initial ++ [false]).next? = some (initial ++ [true]) := by
    simp [Valuation.next?, Digits.next?]
  rw [tryAfter, next?_append_ones, follows]
  rfl

/-- Counting through the valuations that begin alike finds the least one accepted, and costs as much
    for each candidate. -/
theorem findsAt_tryFrom (clauses : List Clause) (cost free : Nat) (initial : Valuation)
    (nodes : Nat) :
    (tryFrom clauses cost (initial ++ List.replicate free false) nodes).FindsAt
      ((leastCompletion? (allSatisfied clauses) initial free).map Answer.satisfiable)
      (addSaturating nodes (candidates (allSatisfied clauses) initial free * cost))
      (tryAfter clauses cost (initial ++ List.replicate free true)) := by
  induction free generalizing initial nodes with
  | zero =>
    simp only [List.replicate_zero, List.append_nil, candidates, Nat.one_mul]
    rw [tryFrom_eq, leastCompletion?]
    apply Activity.FindsAt.poll
    split
    next accepted => exact Activity.findsAt_done _ _
    next refused => exact Activity.findsAt_otherwise _
  | succ free inductionHypothesis =>
    have split (value : Bool) : initial ++ List.replicate (free + 1) value
        = initial ++ [value] ++ List.replicate free value := by
      rw [List.replicate_succ, List.append_cons]
    -- The count is one through what goes on with `false`, followed by one through the rest.
    have second (between : Nat) := inductionHypothesis (initial ++ [true]) between
    rw [← tryAfter_eq_tryFrom] at second
    have both := (inductionHypothesis (initial ++ [false]) nodes).orElse (second _)
    rw [← Option.map_or, Option.isSome_map, addSaturating_addSaturating, ← Nat.add_mul] at both
    rw [split, split, leastCompletion?, candidates]
    split at both
    next found => rwa [if_pos found]
    next notFound => rwa [if_neg notFound]

theorem complete_bruteForce (numVariables : Nat) (clauses : List Clause) :
    (bruteForce numVariables clauses).complete = .ok ⟨leastAnswer ⟨numVariables, clauses⟩,
      addSaturating 0 ((leastAnswer ⟨numVariables, clauses⟩).candidates numVariables
        * (numVariables + 1))⟩ := by
  have finds := findsAt_tryFrom clauses (numVariables + 1) numVariables [] 0
  have last : tryAfter clauses (numVariables + 1) ([] ++ List.replicate numVariables true)
      = fun nodes => .done ⟨.unsatisfiable, nodes⟩ := by
    funext nodes
    rw [tryAfter, next?_append_ones]
    rfl
  rw [last] at finds
  rw [← candidates_leastAnswer ⟨numVariables, clauses⟩]
  exact finds.complete_eq

/-- A search counts less than enumeration if it has no more nodes for a candidate than there are
    variables. -/
theorem lt_nodes_bruteForce {numVariables candidates nodes : Nat} (someCandidate : 0 < candidates)
    (fewer : nodes ≤ numVariables * candidates) (bounded : nodes < 2 ^ (numVariables + 1) - 1)
    (short : numVariables ≤ 63) : nodes < addSaturating 0 (candidates * (numVariables + 1)) := by
  have noneLost : 2 ^ (numVariables + 1) ≤ 2 ^ 64 := Nat.pow_le_pow_right Nat.two_pos (by omega)
  have words : 2 ^ 64 - 1 = maxWord := rfl
  rw [addSaturating, Nat.zero_add, Nat.mul_succ, Nat.mul_comm]
  omega

end SatSum.Sat
