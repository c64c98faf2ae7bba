import SatSum.Reduction.Encoding
import SatSum.Reduction.ThreeLiterals

/-! # From formulas to Subset Sum by way of three-literal clauses

Both reductions in a row. A selection that hits the target is taken back to a valuation of the
formula.
-/

namespace SatSum

/-- A formula reduced to three-literal clauses, and those encoded. -/
structure Pipeline where
  three : ThreeReduction
  encoding : Encoding
deriving DecidableEq, Repr

namespace Pipeline

def problem (pipeline : Pipeline) : SubsetSum.Instance :=
  pipeline.encoding.encoded

def restore (pipeline : Pipeline) (selection : SubsetSum.Selection) :
    Except Rejection Valuation := do
  let valuation ← pipeline.encoding.restore selection
  return pipeline.three.restore valuation

end Pipeline

def Formula.pipeline (formula : Formula) : Except Fault Pipeline := do
  let three ← formula.reduceToThree
  let encoding ← three.formula.encode
  return ⟨three, encoding⟩

def Formula.pipelining (formula : Formula) : Activity Pipeline := do
  let three ← formula.reducingToThree
  let encoding ← three.formula.encoding
  return ⟨three, encoding⟩

end SatSum
