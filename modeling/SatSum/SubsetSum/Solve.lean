import SatSum.SubsetSum.BruteForce
import SatSum.SubsetSum.Dynamic
import SatSum.SubsetSum.Strategy

/-! # Deciding instances

Solving validates an instance and searches it by the strategy asked for, noting the start and the end
of the search.
-/

namespace SatSum.SubsetSum

def search (strategy : Strategy) (problem : Instance) : Activity (Outcome Answer) :=
  match strategy with
  | .bruteForce => bruteForce problem
  | .backtracking => backtracking problem
  | .dynamicProgramming => dynamicProgramming problem

def Instance.solving (strategy : Strategy) (problem : Instance) : Activity (Outcome Answer) := do
  .ofExcept problem.validate
  .report (.subsetSumStarted strategy problem.numbers.length problem.target)
  let outcome ← search strategy problem
  .report (.subsetSumFinished strategy outcome.answer.isFound outcome.nodes)
  return outcome

/-- The answer for an instance, without limits. -/
def Instance.solve (strategy : Strategy) (problem : Instance) : Except Fault (Outcome Answer) :=
  (problem.solving strategy).complete

end SatSum.SubsetSum
