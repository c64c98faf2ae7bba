import SatSum.Literal

/-! # Faults

Why a request has no answer: the data is malformed, a text cannot be read, a table would be too
large, or a search ran out of its budget. A formula without a model and an instance without a
solution are answers and no faults. Each cause is a constructor; its wording is given once here.

Where the machine itself has no result, for example for a sum that is no word, the program stops. That
ends a request like a fault does, but nobody is told of it.
-/

namespace SatSum

/-- The largest size in bits of an element or a target. -/
def maxBits : Nat := 4096

/-- What is wrong with an instance, a formula or a wish for a random one. Clauses count from one,
    elements from zero. -/
inductive Malformation
  | noVariables
  | variableOutside (clause var numVariables : Nat)
  | repeatedVariable (clause : Nat)
  | repeatedAmong (a b c : Literal)
  | clauseWidth (clause width : Nat)
  | elementTooLarge (index bits : Nat)
  | targetTooLarge (bits : Nat)
  | encodingTooLarge (columns radix : Nat)
  | impossibleWidths (least greatest numVariables : Nat)
  | tooFewVariables (numVariables : Nat)
  | sampledWidth
  | nonPositiveMaximum (maximum : Int)
deriving DecidableEq, Repr

/-- What is wrong with a text. Quoted tokens are kept as they were written. -/
inductive Misreading
  | duplicateProblemLine
  | invalidVariableCount (token : String)
  | invalidClauseCount (token : String)
  | unsupportedFormat (token : String)
  | malformedProblemLine
  | clauseBeforeProblemLine
  | invalidLiteral (token : String)
  | undeclaredVariable (var declared : Nat)
  | missingProblemLine
  | unterminatedClause
  | clauseCount (declared found : Nat)
  | duplicateCountLine
  | invalidElementCount (token : String)
  | duplicateTargetLine
  | invalidTarget (token : String)
  | keyWithoutSingleValue
  | invalidElement (token : String)
  | missingTargetLine
  | elementCount (declared found : Nat)
deriving DecidableEq, Repr

/-- An operation without a result: a word that is too large or below zero, an index past the end of a
    list, or a list that cannot be laid out. -/
inductive Stop
  | sum
  | difference
  | product
  | negation
  | index (length place : Nat)
  | capacity
deriving DecidableEq, Repr

/-- A table that would be too large. -/
inductive Shortage
  | sumRange (span : Nat)
  | table (rows width : Nat)
deriving DecidableEq, Repr

/-- What does not suffice: the space for a table, which is refused, or the machine, where the program
    stops. -/
inductive Exhaustion
  | space (shortage : Shortage)
  | machine (stop : Stop)
deriving DecidableEq, Repr

inductive Fault
  | malformed (cause : Malformation)
  | unreadable (line column : Nat) (cause : Misreading)
  | exhausted (cause : Exhaustion)
  | interrupted (nodes : Nat)
deriving DecidableEq, Repr

/-! ## Wording -/

def Malformation.message : Malformation → String
  | noVariables => "formula must declare at least one variable"
  | variableOutside clause var numVariables =>
    s!"clause {clause} references variable {var} outside [1, {numVariables}]"
  | repeatedVariable clause => s!"clause {clause} repeats a variable"
  | repeatedAmong a b c =>
    "3-SAT clause (" ++ a.render ++ " ∨ " ++ b.render ++ " ∨ " ++ c.render ++ ") repeats a variable"
  | clauseWidth clause width => s!"clause {clause} has {width} literals, expected 3"
  | elementTooLarge index bits =>
    s!"element {index} has {bits} bits, beyond the representable range of {maxBits} bits"
  | targetTooLarge bits =>
    s!"target has {bits} bits, beyond the representable range of {maxBits} bits"
  | encodingTooLarge columns radix =>
    s!"encoding needs {columns} base-{radix} digits, numbers would exceed {maxBits} bits"
  | impossibleWidths least greatest numVariables =>
    s!"clause widths [{least}, {greatest}] impossible with {numVariables} variables"
  | tooFewVariables numVariables => s!"3-SAT needs at least 3 variables, got {numVariables}"
  | sampledWidth => "sampled clause of wrong width"
  | nonPositiveMaximum maximum => s!"maximum element {maximum} must be positive"

/-- A token in the quotes that messages put around it. -/
def quoteToken (token : String) : String :=
  "`" ++ token ++ "`"

def Misreading.message : Misreading → String
  | duplicateProblemLine => "duplicate problem line"
  | invalidVariableCount token => "invalid variable count " ++ quoteToken token
  | invalidClauseCount token => "invalid clause count " ++ quoteToken token
  | unsupportedFormat token => "only CNF formulae are supported, found " ++ quoteToken token
  | malformedProblemLine => "expected " ++ quoteToken "p cnf <variables> <clauses>"
  | clauseBeforeProblemLine => "clause before problem line"
  | invalidLiteral token => "expected integer literal, found " ++ quoteToken token
  | undeclaredVariable var declared => s!"variable {var} exceeds declared count {declared}"
  | missingProblemLine => "missing " ++ quoteToken "p cnf" ++ " problem line"
  | unterminatedClause => "clause not terminated by 0"
  | clauseCount declared found => s!"problem line declares {declared} clauses, found {found}"
  | duplicateCountLine => "duplicate " ++ quoteToken "n" ++ " line"
  | invalidElementCount token => "invalid element count " ++ quoteToken token
  | duplicateTargetLine => "duplicate " ++ quoteToken "t" ++ " line"
  | invalidTarget token => "invalid target " ++ quoteToken token
  | keyWithoutSingleValue => "expected exactly one value after the key"
  | invalidElement token => "expected integer element, found " ++ quoteToken token
  | missingTargetLine => "missing " ++ quoteToken "t <target>" ++ " line"
  | elementCount declared found => s!"declared {declared} elements, found {found}"

def Stop.message : Stop → String
  | sum => "attempt to add with overflow"
  | difference => "attempt to subtract with overflow"
  | product => "attempt to multiply with overflow"
  | negation => "attempt to negate with overflow"
  | index length place => s!"index out of bounds: the len is {length} but the index is {place}"
  | capacity => "capacity overflow"

def Shortage.message : Shortage → String
  | sumRange span => s!"sum range of {span} values"
  | table rows width => s!"{rows} × {width} reachability table"

def Fault.message : Fault → String
  | malformed cause => "invalid instance: " ++ cause.message
  | unreadable line column cause =>
    s!"parse error at line {line}, column {column}: " ++ cause.message
  | exhausted (.space shortage) => "resource exhausted: " ++ shortage.message
  | exhausted (.machine stop) => stop.message
  | interrupted nodes => s!"search interrupted after {nodes} nodes"

end SatSum
