import SatSum.Formula.Dimacs

/-! # Three-literal formulas

Formulas in which every clause has exactly three literals. `ofFormula` takes only clauses over three
different variables; a formula put together by hand may repeat one.
-/

namespace SatSum

structure ThreeClause where
  first : Literal
  second : Literal
  third : Literal
deriving DecidableEq, Repr

namespace ThreeClause

def ofLiterals (a b c : Literal) : Except Fault ThreeClause :=
  if a.var = b.var ∨ a.var = c.var ∨ b.var = c.var then
    .error (.malformed (.repeatedAmong a b c))
  else
    .ok ⟨a, b, c⟩

def toClause (clause : ThreeClause) : Clause :=
  [clause.first, clause.second, clause.third]

def render (clause : ThreeClause) : String :=
  clause.toClause.render

end ThreeClause

/-- A conjunction of three-literal clauses over variables `1, …, numVariables`. -/
structure ThreeFormula where
  numVariables : Nat
  clauses : List ThreeClause
deriving DecidableEq, Repr

namespace ThreeFormula

/-- The same formula without the promise on its clauses. -/
def toFormula (formula : ThreeFormula) : Formula :=
  ⟨formula.numVariables, formula.clauses.map ThreeClause.toClause⟩

/-- Asks the same of a formula as `Formula.validate`. -/
def validate (formula : ThreeFormula) : Except Fault Unit :=
  formula.toFormula.validate

def toDimacs (formula : ThreeFormula) : String :=
  formula.toFormula.toDimacs

/-- Takes the clause at a position (counted from one) if it has three literals over three different
    variables. -/
def clauseAt (position : Nat) (clause : Clause) : Except Fault ThreeClause :=
  match clause with
  | [a, b, c] =>
    match ThreeClause.ofLiterals a b c with
    | .ok three => .ok three
    | .error _ => .error (.malformed (.repeatedVariable position))
  | _ => .error (.malformed (.clauseWidth position clause.length))

/-- Takes the clauses that start at a position, up to the first that is refused. -/
def clausesFrom (position : Nat) : List Clause → Except Fault (List ThreeClause)
  | [] => .ok []
  | clause :: rest => do
    let three ← clauseAt position clause
    let others ← clausesFrom (position + 1) rest
    return three :: others

/-- Takes a formula whose clauses each have three literals over three different variables. -/
def ofFormula (formula : Formula) : Except Fault ThreeFormula := do
  let clauses ← clausesFrom 1 formula.clauses
  return ⟨formula.numVariables, clauses⟩

end ThreeFormula

end SatSum
