import SatSum.ThreeFormula
import SatSum.Sat.Answer
import SatSum.SubsetSum.Instance

/-! # Checking witnesses

A witness is checked without search: a valuation against a formula, positions against an instance.
A rejection says what is wrong with it. A negative answer has no witness and passes.
-/

namespace SatSum

/-- Why a witness is rejected. Clauses and variables count from one, positions from zero. -/
inductive Rejection
  | assignmentLength (found expected : Nat)
  | unsatisfiedClause (clause : Nat)
  | clauseWidth (clause width : Nat)
  | repeatedVariable (clause : Nat)
  | indexOutOfRange (index length : Nat)
  | repeatedIndex (index : Nat)
  | wrongSum (sum target : Int)
  | conflictingSelection (var : Nat)
  | missingSelection (var : Nat)
deriving DecidableEq, Repr

/-- What is reported about a rejection. -/
def Rejection.message : Rejection → String
  | assignmentLength found expected =>
    s!"assignment has {found} values, formula has {expected} variables"
  | unsatisfiedClause clause => s!"clause {clause} unsatisfied"
  | clauseWidth clause width => s!"clause {clause} has {width} literals, expected 3"
  | repeatedVariable clause => s!"clause {clause} repeats a variable"
  | indexOutOfRange index length => s!"index {index} out of range for {length} elements"
  | repeatedIndex index => s!"index {index} selected more than once"
  | wrongSum sum target => s!"sum {sum} ≠ target {target}"
  | conflictingSelection var => s!"variable {var} selected as both true and false"
  | missingSelection var => s!"variable {var} selected as neither true nor false"

/-- The outcome of a check. -/
abbrev Verdict := Except Rejection Unit

/-! ## Valuations -/

/-- A valuation has to cover exactly the variables of the formula and satisfy every clause. -/
def Formula.verify (formula : Formula) (valuation : Valuation) : Verdict :=
  if valuation.length ≠ formula.numVariables then
    .error (.assignmentLength valuation.length formula.numVariables)
  else
    match formula.clauses.findIdx? fun clause => !clause.satisfied valuation with
    | some index => .error (.unsatisfiedClause (index + 1))
    | none => .ok ()

/-- Every clause, the first at the given position, has three literals over three different
    variables. -/
def verifyShape (position : Nat) : List Clause → Verdict
  | [] => .ok ()
  | [a, b, c] :: rest =>
    match ThreeClause.ofLiterals a b c with
    | .ok _ => verifyShape (position + 1) rest
    | .error _ => .error (.repeatedVariable position)
  | clause :: _ => .error (.clauseWidth position clause.length)

/-- Like `Formula.verify`, for a formula that has to have three-literal clauses. -/
def Formula.verifyThree (formula : Formula) (valuation : Valuation) : Verdict := do
  verifyShape 1 formula.clauses
  formula.verify valuation

/-- Checks the valuation of an answer. -/
def Formula.verifyAnswer (formula : Formula) : Sat.Answer → Verdict
  | .satisfiable valuation => formula.verify valuation
  | .unsatisfiable => .ok ()

/-! ## Selections -/

namespace SubsetSum

/-- The positions are below `length`, differ from each other and are not in `seen`. -/
def verifyPositions (length : Nat) (seen : List Nat) : Selection → Verdict
  | [] => .ok ()
  | index :: rest =>
    if length ≤ index then .error (.indexOutOfRange index length)
    else if seen.contains index then .error (.repeatedIndex index)
    else verifyPositions length (index :: seen) rest

/-- Positions have to exist, to differ and to hit the target. -/
def Instance.verify (problem : Instance) (selection : Selection) : Verdict := do
  verifyPositions problem.numbers.length [] selection
  let sum := problem.sumOf selection
  if sum ≠ problem.target then .error (.wrongSum sum problem.target) else .ok ()

/-- Checks the positions of an answer. -/
def Instance.verifyAnswer (problem : Instance) : Answer → Verdict
  | .found selection => problem.verify selection
  | .notFound => .ok ()

end SubsetSum

end SatSum
