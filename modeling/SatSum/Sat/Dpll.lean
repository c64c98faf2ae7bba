import SatSum.Activity
import SatSum.Sat.Dpll.State

/-! # Unit propagation with decisions

Before every decision unit clauses are propagated. A decision takes the first free variable and tries
`false` first; a conflict goes back to the latest decision whose second value is untried. The search
ends once every clause has a true literal; the variables left over are false. Bindings are counted as
nodes, and the budget is polled before each round of propagation.
-/

namespace SatSum.Sat

open Dpll (State)

namespace Dpll

/-- Goes back to an untried value and on with `resume`; without one the formula is unsatisfiable. -/
def retreat (state : State) (resume : State → Activity (Outcome Answer)) :
    Activity (Outcome Answer) :=
  let back := state.backtrack
  back.flips.foldr (fun flip rest => .note (.flipped flip.1 flip.2) fun _ => rest)
    (if back.resumed then resume back.state else .done ⟨.unsatisfiable, back.state.nodes⟩)

def State.outcome (state : State) : Outcome Answer :=
  ⟨.satisfiable state.valuation, state.nodes⟩

/-- Propagates, and then decides or goes back, for at most `limit` rounds. -/
def rounds (limit : Nat) (state : State) : Activity (Outcome Answer) :=
  match limit with
  | 0 => .done ⟨.unsatisfiable, state.nodes⟩
  | limit + 1 =>
    -- The bindings of the last round are not polled.
    .poll state.nodes fun _ =>
      match state.propagate with
      | (state, false) => retreat state (rounds limit)
      | (state, true) =>
        if state.unsatisfied = 0 then .done state.outcome
        else
          -- Without a free variable every clause would have a true literal.
          match state.firstFree? with
          | none => .done state.outcome
          | some var =>
            match state.bind ⟨var, false⟩ .branching with
            | (state, true) => rounds limit state
            | (state, false) => retreat state (rounds limit)

end Dpll

/-- Searches by unit propagation and decisions. Every round but the last binds a variable and the
    bindings form a binary tree, so fewer than `2 ^ (numVariables + 1)` rounds are needed. -/
def dpll (numVariables : Nat) (clauses : List Clause) : Activity (Outcome Answer) :=
  match (State.ofClauses numVariables clauses).queueUnits? with
  | none => .done ⟨.unsatisfiable, 0⟩
  | some state => Dpll.rounds (1 <<< (numVariables + 1)) state

end SatSum.Sat
