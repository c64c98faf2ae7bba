import SatSum.Clause
import SatSum.Fault

/-! # Formulas

A formula is the conjunction of its clauses over variables 1 to `numVariables`. Searches and
reductions ask for a well-formed one: at least one variable, and every literal over a declared
variable.
-/

namespace SatSum

/-- A conjunction of clauses over variables `1, …, numVariables`. -/
structure Formula where
  numVariables : Nat
  clauses : List Clause
deriving DecidableEq, Repr

/-- The first clause, counted from `position`, with a literal over an undeclared variable. -/
def Clause.firstOutside? (numVariables : Nat) : Nat → List Clause → Option (Nat × Literal)
  | _, [] => none
  | position, clause :: rest =>
    match Clause.outside? numVariables clause with
    | some literal => some (position, literal)
    | none => firstOutside? numVariables (position + 1) rest

namespace Formula

def satisfied (valuation : Valuation) (formula : Formula) : Bool :=
  formula.clauses.all (Clause.satisfied valuation)

/-- Refuses a formula without variables, then the first literal over an undeclared variable. -/
def validate (formula : Formula) : Except Fault Unit :=
  if formula.numVariables = 0 then
    .error (.malformed .noVariables)
  else
    match Clause.firstOutside? formula.numVariables 1 formula.clauses with
    | some (clause, literal) =>
      .error (.malformed (.variableOutside clause literal.var formula.numVariables))
    | none => .ok ()

def render (formula : Formula) : String :=
  String.join (formula.clauses.map fun clause => clause.render ++ "\n")

end Formula

end SatSum
