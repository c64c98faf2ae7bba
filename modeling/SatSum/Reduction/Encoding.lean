import SatSum.Activity
import SatSum.Checked
import SatSum.ThreeFormula
import SatSum.Verify

/-! # Encoding clauses as a Subset-Sum instance

Numbers are written with a digit column for each variable, variable 1 first, above one for each
clause. Each literal has a number with a one in the column of its variable and in the columns of its
clauses. A clause of `k` literals asks for the digit `k` (an empty one for a digit that nothing
supplies) and has `k - 1` slack numbers with a one in its column. The radix is so large that no
column carries.

Columns are looked up by words, and the numbers of the literals are put together in place. Before that,
room is made for the weights of all columns: `reserve` tells where the program stops there, and `encode`
begins after it.
-/

namespace SatSum

open SubsetSum (Instance Selection)

/-- Clauses over variables `1, …, numVariables` and the instance made from them. The instance has the
    two numbers of each variable, the true one first, and then the slack numbers in clause order. -/
structure Encoding where
  numVariables : Nat
  clauses : List Clause
  encoded : Instance
deriving DecidableEq, Repr

namespace Encoding

/-! ## Columns -/

/-- The width of the widest clause. -/
def widest (clauses : List Clause) : Nat :=
  (clauses.map List.length).foldl max 0

/-- The radix for clauses: ten, or twice the width of the widest clause. -/
def radixFor (clauses : List Clause) : Nat :=
  max 10 (2 * widest clauses)

/-- The most weights that one list has room for: it takes less than 2^63 bytes, and a number 32. -/
def maxColumns : Nat := 1 <<< 58 - 1

/-- What comes before the weights. The radix is a 32-bit word, and so is the width that it is twice of. -/
def reserve (numVariables : Nat) (clauses : List Clause) : Except Fault Unit := do
  if UInt32.size ≤ 2 * (widest clauses % UInt32.size) then Checked.stop .product
  let columns ← Checked.add numVariables clauses.length
  if maxColumns < columns then Checked.stop .capacity

/-- The weights of `columns` digit columns, lowest first, from `weight` on; none if one of them is too
    large. -/
def weightsFrom? (radix weight columns : Nat) : Option (List Nat) :=
  match columns with
  | 0 => some []
  | columns + 1 =>
    if maxBits < bitLength weight then none
    else (weightsFrom? radix (weight * radix) columns).map (weight :: ·)

/-- The weight of the column of a variable, given the weights lowest first. -/
def variableColumn (weights : List Nat) (numVariables numClauses var : Nat) : Except Fault Nat := do
  let columns ← Checked.add numClauses numVariables
  let index ← Checked.sub columns var
  Checked.entry weights index

/-- The weight of the column of the clause at a place. -/
def clauseColumn (weights : List Nat) (numClauses place : Nat) : Except Fault Nat := do
  let last ← Checked.sub numClauses 1
  let index ← Checked.sub last place
  Checked.entry weights index

/-! ## Numbers -/

/-- The numbers of the positive literals and those of the negative ones, in the order of the variables. -/
structure Numbers where
  positive : List Nat
  negative : List Nat

/-- Adds a weight to the number of a literal. -/
def addLiteral (weight : Nat) (numbers : Numbers) (literal : Literal) : Except Fault Numbers := do
  let index ← Checked.sub literal.var 1
  if literal.positive then
    return { numbers with positive := ← Checked.addAt numbers.positive index weight }
  else
    return { numbers with negative := ← Checked.addAt numbers.negative index weight }

/-- Adds the weight of a clause to the numbers of its literals. -/
def addClause (numbers : Numbers) (column : Clause × Nat) : Except Fault Numbers :=
  column.1.foldlM (addLiteral column.2) numbers

/-- The two numbers of each variable, the positive one first. -/
def Numbers.interleaved (numbers : Numbers) : List Nat :=
  (numbers.positive.zip numbers.negative).flatMap fun pair => [pair.1, pair.2]

def slackNumbers (columns : List (Clause × Nat)) : List Nat :=
  columns.flatMap fun column => List.replicate (column.1.length - 1) column.2

/-- The target: one for each variable and the width, but at least one, for each clause. -/
def targetFor (columns : List (Clause × Nat)) (variableColumns : List Nat) : Nat :=
  total variableColumns + total (columns.map fun column => column.2 * max column.1.length 1)

/-- The instance for clauses, given the weights of the columns, lowest first. -/
def makeInstance (numVariables : Nat) (clauses : List Clause) (weights : List Nat) :
    Except Fault Instance := do
  let variableColumns ←
    (List.range' 1 numVariables).mapM (variableColumn weights numVariables clauses.length)
  let clauseColumns ← (List.range' 0 clauses.length).mapM (clauseColumn weights clauses.length)
  let columns := clauses.zip clauseColumns
  let numbers ← columns.foldlM addClause ⟨variableColumns, variableColumns⟩
  let literals := numbers.interleaved
  let slack := slackNumbers columns
  -- The positions of the slack numbers end there.
  let _ ← Checked.add literals.length slack.length
  return { numbers := (literals ++ slack).map Int.ofNat
           target := Int.ofNat (targetFor columns variableColumns) }

/-- Encodes clauses. Numbers that would be too large are refused. -/
def ofClauses (numVariables : Nat) (clauses : List Clause) : Except Fault Encoding := do
  let columns := numVariables + clauses.length
  let radix := radixFor clauses
  -- The weights are checked before any number is put together.
  match weightsFrom? radix 1 columns with
  | none => .error (.malformed (.encodingTooLarge columns radix))
  | some weights =>
    let encoded ← makeInstance numVariables clauses weights
    encoded.validate
    return ⟨numVariables, clauses, encoded⟩

/-! ## Positions -/

def radix (encoding : Encoding) : Nat :=
  radixFor encoding.clauses

/-- The position of the number that makes a variable true. -/
def truePosition (var : Nat) : Nat :=
  2 * (var - 1)

/-- The position of the number that makes a variable false. -/
def falsePosition (var : Nat) : Nat :=
  2 * (var - 1) + 1

def vars (encoding : Encoding) : List Nat :=
  List.range' 1 encoding.numVariables

def positive (encoding : Encoding) : List Nat :=
  encoding.vars.map truePosition

def negative (encoding : Encoding) : List Nat :=
  encoding.vars.map falsePosition

/-- The slack positions of each clause, the first being `position`. -/
def slacksFrom (position : Nat) : List Clause → List (List Nat)
  | [] => []
  | clause :: rest =>
    List.range' position (clause.length - 1) :: slacksFrom (position + (clause.length - 1)) rest

def clauseSlacks (encoding : Encoding) : List (List Nat) :=
  slacksFrom (2 * encoding.numVariables) encoding.clauses

def slacks (encoding : Encoding) : List Nat :=
  encoding.clauseSlacks.flatten

/-! ## Witnesses -/

/-- The value that a selection gives a variable: exactly one of its two numbers has to be selected. -/
def selectedValue (selection : Selection) (var : Nat) : Except Rejection Bool :=
  match selection.contains (truePosition var), selection.contains (falsePosition var) with
  | true, true => .error (.conflictingSelection var)
  | true, false => .ok true
  | false, true => .ok false
  | false, false => .error (.missingSelection var)

def restore (encoding : Encoding) (selection : Selection) : Except Rejection Valuation :=
  let length := encoding.encoded.numbers.length
  match selection.find? (length ≤ ·) with
  | some index => .error (.indexOutOfRange index length)
  | none => encoding.vars.mapM (selectedValue selection)

/-- The positions of the literals that a valuation makes true, for variables from `var` on. -/
def literalPositions (var : Nat) : Valuation → List Nat
  | [] => []
  | value :: rest =>
    (if value then truePosition var else falsePosition var) :: literalPositions (var + 1) rest

/-- The slack positions that fill up a clause; none if the clause has no true literal. -/
def fillClause? (valuation : Valuation) (clause : Clause) (slacks : List Nat) :
    Option (List Nat) :=
  match clause.countP (Literal.holds valuation) with
  | 0 => none
  | satisfied => some (slacks.take (clause.length - satisfied))

/-- The ascending selection for a valuation; none unless it covers the variables and satisfies the
    clauses. -/
def witness? (encoding : Encoding) (valuation : Valuation) : Option Selection :=
  if valuation.length ≠ encoding.numVariables then none
  else do
    let filling ← (encoding.clauses.zip encoding.clauseSlacks).mapM fun entry =>
      fillClause? valuation entry.1 entry.2
    return (literalPositions 1 valuation ++ filling.flatten).mergeSort

end Encoding

/-! ## Encoding formulas -/

/-- Encodes a three-literal formula; the radix is ten. -/
def ThreeFormula.encode (formula : ThreeFormula) : Except Fault Encoding := do
  formula.validate
  Encoding.ofClauses formula.numVariables (formula.clauses.map ThreeClause.toClause)

/-- Encodes a formula. Repeated literals and clauses that are always true are dropped first. -/
def Formula.encode (formula : Formula) : Except Fault Encoding := do
  formula.validate
  Encoding.ofClauses formula.numVariables (Clause.normalize formula.clauses)

/-- Makes room for the encoding of a formula. -/
def ThreeFormula.reserve (formula : ThreeFormula) : Except Fault Unit := do
  formula.validate
  Encoding.reserve formula.numVariables (formula.clauses.map ThreeClause.toClause)

@[inherit_doc ThreeFormula.reserve]
def Formula.reserve (formula : Formula) : Except Fault Unit := do
  formula.validate
  Encoding.reserve formula.numVariables (Clause.normalize formula.clauses)

def ThreeFormula.encoding (formula : ThreeFormula) : Activity Encoding := do
  .ofExcept formula.reserve
  let encoding ← .ofExcept formula.encode
  .report (.encodedThree formula.clauses.length formula.numVariables
    encoding.encoded.numbers.length)
  return encoding

def Formula.encoding (formula : Formula) : Activity Encoding := do
  .ofExcept formula.reserve
  let encoding ← .ofExcept formula.encode
  .report (.encoded formula.clauses.length formula.numVariables
    encoding.encoded.numbers.length encoding.radix)
  return encoding

end SatSum
