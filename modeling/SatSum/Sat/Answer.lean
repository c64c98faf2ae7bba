import SatSum.Literal

/-! # Answers about formulas

A formula is satisfiable, shown by a valuation of all its variables, or it is not. The written forms
put eight literals on a line.
-/

namespace SatSum.Sat

inductive Answer
  | satisfiable (valuation : Valuation)
  | unsatisfiable
deriving DecidableEq, Repr

namespace Answer

def isSatisfiable : Answer → Bool
  | satisfiable _ => true
  | unsatisfiable => false

def valuation? : Answer → Option Valuation
  | satisfiable valuation => some valuation
  | unsatisfiable => none

/-! ## Written forms -/

def literalsPerLine : Nat := 8

/-- The literals that a valuation makes true, in the order of their variables. -/
def literalsFrom (var : Nat) : Valuation → List Literal
  | [] => []
  | value :: rest => ⟨var, value⟩ :: literalsFrom (var + 1) rest

/-- Cuts a list into pieces of `size + 1` members; the last may be shorter. -/
def pieces {α : Type} (size : Nat) : List α → List (List α)
  | [] => []
  | a :: rest => (a :: rest.take size) :: pieces size (rest.drop size)
termination_by list => list.length
decreasing_by
  simp only [List.length_drop, List.length_cons]
  omega

def literalLines (valuation : Valuation) : List (List Literal) :=
  pieces (literalsPerLine - 1) (literalsFrom 1 valuation)

/-- A line of literals in the solver output format: each after a blank, negative ones with a minus. -/
def valueLine (literals : List Literal) : String :=
  "v" ++ String.join (literals.map fun literal =>
    (if literal.positive then " " else " -") ++ toString literal.var) ++ "\n"

/-- The answer in the solver output format: a status line, the literals, and a closing zero. -/
def toDimacs : Answer → String
  | unsatisfiable => "s UNSATISFIABLE\n"
  | satisfiable valuation =>
    "s SATISFIABLE\n" ++ String.join ((literalLines valuation).map valueLine) ++ "v 0\n"

/-- A line of literals as a reader writes it: each with a place for its sign and a blank after it. -/
def signedLine (literals : List Literal) : String :=
  String.join (literals.map fun literal =>
    (if literal.positive then " " else "-") ++ toString literal.var ++ " ") ++ "\n"

/-- The answer as a reader writes it. -/
def render : Answer → String
  | unsatisfiable => "Unsatisfiable"
  | satisfiable valuation =>
    "Satisfiable:\n" ++ String.join ((literalLines valuation).map signedLine)

end Answer

end SatSum.Sat
