import SatSum.SubsetSum.Instance
import SatSum.Text.Line
import SatSum.Text.Numeral

/-! # Subset-Sum instances as text

A line `n` with the number of elements, a line `t` with the target, and elements on all other lines.
The count may be left out; the two keyed lines may stand anywhere. Blank lines and lines that start
with `#` are skipped.
-/

namespace SatSum.SubsetSum

/-- Writes the count, the target and one element a line. -/
def Instance.toText (problem : Instance) : String :=
  s!"n {problem.numbers.length}\nt {problem.target}\n"
    ++ String.join (problem.numbers.map fun number => toString number ++ "\n")

/-- What has been read so far: the declared count with its line, the target, and the elements, latest
    first. -/
structure Reading where
  declared : Option (Nat × Nat)
  target : Option Int
  elements : List Int
deriving Repr

def Reading.start : Reading :=
  ⟨none, none, []⟩

/-- The line holds no tokens that count. -/
def isSkipped (line : List Char) : Bool :=
  match line.dropWhile Text.isBlank with
  | [] => true
  | c :: _ => c == '#'

def Reading.addElement (number : Nat) (reading : Reading) (token : Text.Token) :
    Except Fault Reading :=
  match Text.integer? token.text with
  | none => .error (.unreadable number token.column (.invalidElement token.written))
  | some element => .ok { reading with elements := element :: reading.elements }

def Reading.addCount (number : Nat) (line : List Char) (reading : Reading) (value : Text.Token) :
    Except Fault Reading :=
  if reading.declared.isSome then
    .error (.unreadable number (Text.indent line) .duplicateCountLine)
  else
    match Text.count? value.text with
    | none => .error (.unreadable number value.column (.invalidElementCount value.written))
    | some count => .ok { reading with declared := some (count, number) }

def Reading.addTarget (number : Nat) (line : List Char) (reading : Reading) (value : Text.Token) :
    Except Fault Reading :=
  if reading.target.isSome then
    .error (.unreadable number (Text.indent line) .duplicateTargetLine)
  else
    match Text.integer? value.text with
    | none => .error (.unreadable number value.column (.invalidTarget value.written))
    | some target => .ok { reading with target := some target }

def Reading.addLine (number : Nat) (reading : Reading) (line : List Char) : Except Fault Reading :=
  if isSkipped line then .ok reading
  else
    match Text.tokens line with
    | [⟨_, ['n']⟩, value] => reading.addCount number line value
    | [⟨_, ['t']⟩, value] => reading.addTarget number line value
    | ⟨column, ['n']⟩ :: _ => .error (.unreadable number column .keyWithoutSingleValue)
    | ⟨column, ['t']⟩ :: _ => .error (.unreadable number column .keyWithoutSingleValue)
    | elements => elements.foldlM (Reading.addElement number) reading

/-- Reads lines, the first of which follows line `last`. -/
def readLines (last : Nat) (reading : Reading) : List (List Char) → Except Fault (Reading × Nat)
  | [] => .ok (reading, last)
  | line :: rest => do
    let reading ← reading.addLine (last + 1) line
    readLines (last + 1) reading rest

/-- The instance that has been read when the text ends after line `last`. -/
def Reading.finish (last : Nat) (reading : Reading) : Except Fault Instance :=
  match reading.target with
  | none => .error (.unreadable (max last 1) 1 .missingTargetLine)
  | some target =>
    let read : Instance := ⟨reading.elements.reverse, target⟩
    match reading.declared with
    | none => .ok read
    | some (count, number) =>
      if count ≠ reading.elements.length then
        .error (.unreadable number 1 (.elementCount count reading.elements.length))
      else .ok read

def Instance.ofText (text : String) : Except Fault Instance := do
  let (reading, last) ← readLines 0 .start (Text.lines text)
  let problem ← reading.finish last
  problem.validate
  return problem

end SatSum.SubsetSum
