import SatSum.Activity
import SatSum.Clause
import SatSum.Digits
import SatSum.Sat.Answer

/-! # Enumeration of valuations

The valuations are the binary numbers whose highest digit is the value of variable 1. They are counted
up from zero, so the valuation found is the least one. A candidate costs a node for each variable and
one for the check.
-/

namespace SatSum

/-- The next valuation of the same length, the value of the last variable changing first. -/
def Valuation.next? (valuation : Valuation) : Option Valuation :=
  (Digits.next? valuation.reverse).map List.reverse

theorem Valuation.remaining_next? {valuation next : Valuation} (isNext : valuation.next? = some next) :
    Digits.remaining next.reverse < Digits.remaining valuation.reverse := by
  obtain ⟨digits, isNextNumber, rfl⟩ := Option.map_eq_some_iff.1 isNext
  rw [List.reverse_reverse, Digits.remaining_next? isNextNumber]
  exact Nat.lt_succ_self _

namespace Sat

/-- Tries the valuation and all that come after it. -/
def tryFrom (clauses : List Clause) (cost : Nat) (valuation : Valuation) (nodes : Nat) :
    Activity (Outcome Answer) :=
  -- A candidate is paid for before it is checked.
  let paid := addSaturating nodes cost
  .poll paid fun _ =>
    if clauses.all (Clause.satisfied valuation) then .done ⟨.satisfiable valuation, paid⟩
    else
      match _isNext : valuation.next? with
      | none => .done ⟨.unsatisfiable, paid⟩
      | some next => tryFrom clauses cost next paid
termination_by Digits.remaining valuation.reverse
decreasing_by exact Valuation.remaining_next? _isNext

def bruteForce (numVariables : Nat) (clauses : List Clause) : Activity (Outcome Answer) :=
  tryFrom clauses (numVariables + 1) (List.replicate numVariables false) 0

end Sat

end SatSum
