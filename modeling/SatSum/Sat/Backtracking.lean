import SatSum.Activity
import SatSum.Clause
import SatSum.Digits
import SatSum.Sat.Answer

/-! # Backtracking over valuations

Variables are bound in order, `false` before `true`. A branch ends as soon as a clause over the latest
variable has become false; the search then goes back to the latest variable that is `false` and makes it
`true`. The values are kept on a stack, so it is never deeper than there are variables. A node is
counted for each binding.
-/

namespace SatSum

/-- The clause is false whatever the variables that are not covered yet will be. -/
def Clause.falsified (valuation : Valuation) (clause : Clause) : Bool :=
  clause.all fun literal => literal.negate.holds valuation

namespace Sat

/-- Binding the next variable to `value` after `chosen` (latest variable first) falsifies a clause.
    Only clauses over that variable can have become false. -/
def falsifiesClause (clauses : List Clause) (chosen : List Bool) (value : Bool) : Bool :=
  let var := chosen.length + 1
  let valuation := (value :: chosen).reverse
  clauses.any fun clause => clause.any (·.var == var) && clause.falsified valuation

/-- The values below the latest `false`, which is the next to be made `true`. -/
def below? : List Bool → Option (List Bool)
  | [] => none
  | false :: below => some below
  | true :: rest => below? rest

theorem below?_eq_some {stack below : List Bool} (isBelow : below? stack = some below) :
    ∃ count, stack = List.replicate count true ++ false :: below := by
  induction stack with
  | nil => cases isBelow
  | cons value rest inductionHypothesis =>
    cases value with
    | false =>
      cases isBelow
      exact ⟨0, rfl⟩
    | true =>
      obtain ⟨count, rfl⟩ := inductionHypothesis isBelow
      exact ⟨count + 1, rfl⟩

/-- How many valuations come after the first one that the stack begins. -/
def valuationsLeft (numVariables : Nat) (stack : List Bool) : Nat :=
  Digits.remaining (List.replicate (numVariables - stack.length) false ++ stack)

theorem valuationsLeft_deeper {numVariables : Nat} {stack : List Bool}
    (room : stack.length < numVariables) :
    valuationsLeft numVariables (false :: stack) = valuationsLeft numVariables stack := by
  obtain ⟨free, rfl⟩ := Nat.exists_eq_add_of_lt room
  have fewer : stack.length + free + 1 - (stack.length + 1) = free := by omega
  have more : stack.length + free + 1 - stack.length = free + 1 := by omega
  rw [valuationsLeft, valuationsLeft, List.length_cons, fewer, more, List.replicate_succ',
    List.append_assoc, List.singleton_append]

theorem valuationsLeft_back {numVariables : Nat} {stack below : List Bool}
    (isBelow : below? stack = some below) :
    valuationsLeft numVariables (true :: below) < valuationsLeft numVariables stack := by
  obtain ⟨count, rfl⟩ := below?_eq_some isBelow
  rw [valuationsLeft, valuationsLeft, ← List.append_assoc]
  apply Digits.remaining_one_lt_zero
  simp only [List.length_append, List.length_replicate, List.length_cons]
  omega

/-- Binds the variable after `chosen` to `value`, and goes on with the next one or back. -/
def bindFrom (clauses : List Clause) (numVariables : Nat) (chosen : List Bool) (value : Bool)
    (nodes : Nat) : Activity (Outcome Answer) :=
  .poll (nodes + 1) fun _ =>
    if falsifiesClause clauses chosen value then
      .note (.falsified (chosen.length + 1) value) fun _ =>
        match _isBelow : below? (value :: chosen) with
        | none => .done ⟨.unsatisfiable, nodes + 1⟩
        | some below => bindFrom clauses numVariables below true (nodes + 1)
    else if _full : numVariables ≤ chosen.length + 1 then
      .done ⟨.satisfiable (value :: chosen).reverse, nodes + 1⟩
    else bindFrom clauses numVariables (value :: chosen) false (nodes + 1)
termination_by (valuationsLeft numVariables (value :: chosen), numVariables - chosen.length)
decreasing_by
  · exact Prod.Lex.left _ _ (valuationsLeft_back _isBelow)
  · rw [valuationsLeft_deeper (Nat.not_le.1 _full)]
    apply Prod.Lex.right
    rw [List.length_cons]
    omega

/-- Searches by backtracking. An empty clause is false before anything is bound. -/
def backtracking (numVariables : Nat) (clauses : List Clause) : Activity (Outcome Answer) :=
  if clauses.any List.isEmpty then .done ⟨.unsatisfiable, 0⟩
  else bindFrom clauses numVariables [] false 0

end Sat

end SatSum
