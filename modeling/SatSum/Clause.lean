import SatSum.Literal

/-! # Clauses

A clause is the disjunction of its literals. Repeated literals add nothing and a clause with both
polarities of a variable excludes nothing, so `normalize` drops both.
-/

namespace SatSum

abbrev Clause := List Literal

namespace Clause

def satisfied (valuation : Valuation) (clause : Clause) : Bool :=
  clause.any (Literal.holds valuation)

/-- The clause has both polarities of a variable. -/
def isTautology (clause : Clause) : Bool :=
  clause.any fun literal => clause.contains literal.negate

/-- The clause without repeated literals; of equal ones the first is kept. -/
def deduplicated (clause : Clause) : Clause :=
  clause.eraseDups

/-- The first literal whose variable is not numbered 1 to `numVariables`. -/
def outside? (numVariables : Nat) (clause : Clause) : Option Literal :=
  clause.find? fun literal => literal.var == 0 || numVariables < literal.var

/-- Clauses without repeated literals, those with both polarities of a variable left out. -/
def normalize (clauses : List Clause) : List Clause :=
  (clauses.map deduplicated).filter (!isTautology ·)

def render (clause : Clause) : String :=
  "(" ++ String.intercalate " ∨ " (clause.map Literal.render) ++ ")"

end Clause

end SatSum
