import SatSum.Activity
import SatSum.Checked
import SatSum.ThreeFormula

/-! # Reduction to three-literal clauses

Every clause becomes clauses of three literals over three different variables. Shorter ones are padded
with auxiliary variables in every combination of signs, longer ones become a chain in which each
auxiliary variable links a clause to the next. Auxiliary variables are numbered after those of the
formula, clause by clause, so a valuation of the formula is the beginning of one of the result. Numbers
are words: the program stops at the first one that would pass the largest word.
-/

namespace SatSum

/-- The clause itself, refused if it repeats a variable. -/
def ThreeClause.checked (clause : ThreeClause) : Except Fault ThreeClause :=
  ofLiterals clause.first clause.second clause.third

namespace Clause

def bothSigns (var : Nat) : List Literal :=
  [⟨var, true⟩, ⟨var, false⟩]

/-- The links of a chain after its first clause: the auxiliary variable `link` stands for the literals
    from `c` on. -/
def chainFrom (link : Nat) (c d : Literal) : List Literal → List ThreeClause
  | [] => [⟨⟨link, false⟩, c, d⟩]
  | e :: rest => ⟨⟨link, false⟩, c, ⟨link + 1, true⟩⟩ :: chainFrom (link + 1) d e rest

def auxiliaries : Clause → Nat
  | [] => 3
  | [_] => 2
  | [_, _] => 1
  | clause => clause.length - 3

/-- The three-literal clauses for a clause, with auxiliary variables from `top + 1` on. -/
def toThree (top : Nat) : Clause → List ThreeClause
  | [] =>
    -- Every valuation of the three variables violates one of the eight clauses.
    (bothSigns (top + 1)).flatMap fun y => (bothSigns (top + 2)).flatMap fun z =>
      (bothSigns (top + 3)).map fun w => ⟨y, z, w⟩
  | [a] => (bothSigns (top + 1)).flatMap fun y => (bothSigns (top + 2)).map fun z => ⟨a, y, z⟩
  | [a, b] => (bothSigns (top + 1)).map fun y => ⟨a, b, y⟩
  | [a, b, c] => [⟨a, b, c⟩]
  | a :: b :: c :: d :: rest => ⟨a, b, ⟨top + 1, true⟩⟩ :: chainFrom (top + 1) c d rest

/-- Hands out auxiliary variables after `top`, one by one; the last variable in use is the result. -/
def handOut (top : Nat) : Nat → Except Fault Nat
  | 0 => .ok top
  | count + 1 => do
    let next ← Checked.add top 1
    handOut next count

/-- The three-literal clauses for clauses in order, and the last variable in use. -/
def allToThree (top : Nat) : List Clause → Except Fault (List ThreeClause × Nat)
  | [] => .ok ([], top)
  | clause :: rest => do
    let last ← handOut top (auxiliaries clause)
    let made ← (toThree top clause).mapM ThreeClause.checked
    let (others, last) ← allToThree last rest
    return (made ++ others, last)

end Clause

/-- A three-literal formula made from a formula, the source, and the sizes of the source. Variables up
    to `sourceVariables` are those of the source, the ones above are auxiliary. -/
structure ThreeReduction where
  formula : ThreeFormula
  sourceVariables : Nat
  sourceClauses : Nat
deriving DecidableEq, Repr

def ThreeReduction.restore (reduction : ThreeReduction) (valuation : Valuation) : Valuation :=
  valuation.take reduction.sourceVariables

/-- Reduces a formula to three-literal clauses. Repeated literals and clauses that are always true are
    dropped first. -/
def Formula.reduceToThree (formula : Formula) : Except Fault ThreeReduction := do
  formula.validate
  let (clauses, last) ← Clause.allToThree formula.numVariables (Clause.normalize formula.clauses)
  return ⟨⟨last, clauses⟩, formula.numVariables, formula.clauses.length⟩

def Formula.reducingToThree (formula : Formula) : Activity ThreeReduction := do
  let reduction ← .ofExcept formula.reduceToThree
  .report (.becameThree formula.clauses.length formula.numVariables
    reduction.formula.clauses.length reduction.formula.numVariables)
  return reduction

end SatSum
