import SatSum.Checked
import SatSum.Formula
import SatSum.Text.Line
import SatSum.Text.Numeral

/-! # Formulas as DIMACS text

Writing puts the problem line first and then one clause a line, each ended by zero. Reading also
takes comments, clauses over several lines and a line with `%` that ends the text early. What has
been read so far is a `Dimacs.Reading`; every token of a clause line is one step of it, so a fault is
reported at the first offending token.
-/

namespace SatSum

/-! ## Writing -/

/-- A clause as its signed literals and a final zero. -/
def Clause.toDimacs (clause : Clause) : String :=
  String.join (clause.map fun literal => toString literal.toSigned ++ " ") ++ "0\n"

def Formula.toDimacs (formula : Formula) : String :=
  s!"p cnf {formula.numVariables} {formula.clauses.length}\n"
    ++ String.join (formula.clauses.map Clause.toDimacs)

/-- Writes a formula. The program stops at a literal whose signed form overflows. -/
def Formula.write (formula : Formula) : Except Fault String :=
  if ∃ clause ∈ formula.clauses, ∃ literal ∈ clause, literal.Overflows then Checked.stop .negation
  else .ok formula.toDimacs

/-! ## Reading -/

namespace Dimacs

structure Header where
  numVariables : Nat
  numClauses : Nat
deriving DecidableEq, Repr

/-- What has been read so far. Finished clauses and the literals of the open clause are kept latest
    first; `openedAt` is the line and column of the first literal of the open clause. -/
structure Reading where
  header : Option Header
  finished : List Clause
  literals : List Literal
  openedAt : Nat × Nat
deriving Repr

def Reading.start : Reading :=
  ⟨none, [], [], (0, 0)⟩

/-- What the first character of a line that is not blank makes of the line. -/
inductive LineKind
  | skipped
  | final
  | problem
  | literals
deriving DecidableEq, Repr

/-- Blank lines and comments are skipped, `%` ends the text, `p` starts the problem line. -/
def LineKind.ofLine (line : List Char) : LineKind :=
  match line.dropWhile Text.isBlank with
  | [] => .skipped
  | 'c' :: _ => .skipped
  | '%' :: _ => .final
  | 'p' :: _ => .problem
  | _ => .literals

def readHeader (number : Nat) (line : List Char) : Except Fault Header :=
  match Text.tokens line with
  | [⟨_, ['p']⟩, ⟨_, ['c', 'n', 'f']⟩, first, second] =>
    match Text.count? first.text with
    | none => .error (.unreadable number first.column (.invalidVariableCount first.written))
    | some numVariables =>
      match Text.count? second.text with
      | none => .error (.unreadable number second.column (.invalidClauseCount second.written))
      | some numClauses => .ok ⟨numVariables, numClauses⟩
  | ⟨_, ['p']⟩ :: format :: _ =>
    -- A wrong format is reported before a wrong number of tokens.
    if format.text = ['c', 'n', 'f'] then
      .error (.unreadable number (Text.indent line) .malformedProblemLine)
    else
      .error (.unreadable number format.column (.unsupportedFormat format.written))
  | _ => .error (.unreadable number (Text.indent line) .malformedProblemLine)

/-- Reads one token of a clause line: zero ends the open clause, any other number adds a literal to
    it. -/
def Reading.addToken (numVariables number : Nat) (reading : Reading) (token : Text.Token) :
    Except Fault Reading :=
  match Text.signed? token.text with
  | none => .error (.unreadable number token.column (.invalidLiteral token.written))
  | some value =>
    if value = 0 then
      .ok { reading with finished := reading.literals.reverse :: reading.finished, literals := [] }
    else if numVariables < value.natAbs then
      .error (.unreadable number token.column (.undeclaredVariable value.natAbs numVariables))
    else
      .ok { reading with
        literals := Literal.ofSigned value :: reading.literals
        openedAt := if reading.literals.isEmpty then (number, token.column) else reading.openedAt }

/-- Reads one line that neither is skipped nor ends the text. -/
def Reading.addLine (number : Nat) (reading : Reading) (line : List Char) : Except Fault Reading :=
  match LineKind.ofLine line, reading.header with
  | .problem, some _ => .error (.unreadable number (Text.indent line) .duplicateProblemLine)
  | .problem, none => do
    let header ← readHeader number line
    return { reading with header := some header }
  | .literals, none => .error (.unreadable number (Text.indent line) .clauseBeforeProblemLine)
  | .literals, some header =>
    (Text.tokens line).foldlM (Reading.addToken header.numVariables number) reading
  | _, _ => .ok reading

/-- Reads lines, the first of which follows line `last`, up to one that ends the text. The result
    comes with the number of the last line looked at. -/
def readLines (last : Nat) (reading : Reading) : List (List Char) → Except Fault (Reading × Nat)
  | [] => .ok (reading, last)
  | line :: rest =>
    if LineKind.ofLine line = .final then .ok (reading, last + 1)
    else do
      let reading ← reading.addLine (last + 1) line
      readLines (last + 1) reading rest

/-- The formula that has been read when the text ends after line `last`. -/
def Reading.finish (last : Nat) (reading : Reading) : Except Fault Formula :=
  match reading.header with
  | none => .error (.unreadable (max last 1) 1 .missingProblemLine)
  | some header =>
    if !reading.literals.isEmpty then
      .error (.unreadable reading.openedAt.1 reading.openedAt.2 .unterminatedClause)
    else if reading.finished.length ≠ header.numClauses then
      .error (.unreadable (max last 1) 1 (.clauseCount header.numClauses reading.finished.length))
    else
      .ok ⟨header.numVariables, reading.finished.reverse⟩

end Dimacs

def Formula.ofDimacs (text : String) : Except Fault Formula := do
  let (reading, last) ← Dimacs.readLines 0 .start (Text.lines text)
  let formula ← reading.finish last
  formula.validate
  return formula

end SatSum
