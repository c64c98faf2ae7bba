import SatSum.Activity
import SatSum.Formula.Dimacs
import SatSum.SubsetSum.Text

/-! # Decoding with notes

The readers as activities: what has been decoded is noted once it is known to be well-formed.
-/

namespace SatSum

def Formula.decoding (text : String) : Activity Formula := do
  let formula ← .ofExcept (Formula.ofDimacs text)
  .report (.decodedFormula formula.numVariables formula.clauses.length)
  return formula

def SubsetSum.Instance.decoding (text : String) : Activity SubsetSum.Instance := do
  let problem ← .ofExcept (SubsetSum.Instance.ofText text)
  .report (.decodedInstance problem.numbers.length problem.target)
  return problem

end SatSum
