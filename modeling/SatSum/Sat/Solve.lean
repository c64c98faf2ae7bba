import SatSum.ThreeFormula
import SatSum.Sat.BruteForce
import SatSum.Sat.Backtracking
import SatSum.Sat.Dpll

/-! # Deciding formulas

Solving validates a formula and searches it by the strategy asked for, noting the start and the end of
the search. The activities here run under any budget; `Formula.solve` and `ThreeFormula.solve` run
without one.
-/

namespace SatSum

namespace Sat

def search (strategy : Strategy) (numVariables : Nat) (clauses : List Clause) :
    Activity (Outcome Answer) :=
  match strategy with
  | .bruteForce => bruteForce numVariables clauses
  | .backtracking => backtracking numVariables clauses
  | .dpll => dpll numVariables clauses

def reportedSearch (strategy : Strategy) (numVariables : Nat) (clauses : List Clause) :
    Activity (Outcome Answer) := do
  .report (.satStarted strategy clauses.length numVariables)
  let outcome ← search strategy numVariables clauses
  .report (.satFinished strategy outcome.answer.isSatisfiable outcome.nodes)
  return outcome

end Sat

def Formula.solving (strategy : Sat.Strategy) (formula : Formula) :
    Activity (Outcome Sat.Answer) := do
  .ofExcept formula.validate
  Sat.reportedSearch strategy formula.numVariables formula.clauses

def ThreeFormula.solving (strategy : Sat.Strategy) (formula : ThreeFormula) :
    Activity (Outcome Sat.Answer) :=
  formula.toFormula.solving strategy

/-- Decides a formula that has to have three-literal clauses over different variables. -/
def Formula.solvingThree (strategy : Sat.Strategy) (formula : Formula) :
    Activity (Outcome Sat.Answer) := do
  .ofExcept formula.validate
  let three ← .ofExcept (ThreeFormula.ofFormula formula)
  Sat.reportedSearch strategy three.numVariables (three.clauses.map ThreeClause.toClause)

/-- The answer for a formula, without limits. -/
def Formula.solve (strategy : Sat.Strategy) (formula : Formula) :
    Except Fault (Outcome Sat.Answer) :=
  (formula.solving strategy).complete

/-- The answer for a formula that has to have three-literal clauses, without limits. -/
def Formula.solveThree (strategy : Sat.Strategy) (formula : Formula) :
    Except Fault (Outcome Sat.Answer) :=
  (formula.solvingThree strategy).complete

/-- The answer for a three-literal formula, without limits. -/
def ThreeFormula.solve (strategy : Sat.Strategy) (formula : ThreeFormula) :
    Except Fault (Outcome Sat.Answer) :=
  (formula.solving strategy).complete

end SatSum
