import SatSum.SubsetSum.Backtracking
import SatSum.SubsetSum.BitTable

/-! # Dynamic programming over reachable sums

Row `i` of a table marks the sums of selections among the first `i` elements, from the least sum of
all elements to the greatest. A selection is read back from the last row. A node is counted for each
cell, a row at a time.
-/

namespace SatSum.SubsetSum

/-- How far an element moves a sum, and whether downwards. -/
structure Shift where
  distance : Nat
  negative : Bool
deriving DecidableEq, Repr

/-- A number as a word. What is not one is too much for a table over `span` sums. -/
def wordOf (span : Nat) (number : Int) : Except Fault Nat :=
  if number < 0 ∨ Int.ofNat maxWord < number then .error (.exhausted (.space (.sumRange span)))
  else .ok number.toNat

def shiftOf (span : Nat) (number : Int) : Except Fault Shift := do
  let distance ← wordOf span number.natAbs
  return ⟨distance, number < 0⟩

/-- Fills the rows after `row` for the remaining elements, and goes on with the full table. -/
def fillFrom (width : Nat) (shifts : List Shift) (row : Nat) (table : BitTable) (nodes : Nat)
    (next : BitTable → Nat → Activity (Outcome Answer)) : Activity (Outcome Answer) :=
  match shifts with
  | [] => next table nodes
  | shift :: rest =>
    let table := table.extendRow row shift.distance shift.negative
    let nodes := addSaturating nodes width
    .poll nodes fun _ => fillFrom width rest (row + 1) table nodes next

/-- The positions below `undecided.length` that lead to a marked cell. The elements are given last
    first; one is needed only where the row before it does not have the sum. -/
def traceBack (table : BitTable) (undecided : List Shift) (cell : Nat) (selection : Selection) :
    Selection :=
  match undecided with
  | [] => selection
  | shift :: rest =>
    if table.get rest.length cell then traceBack table rest cell selection
    else
      -- The sum before this element was added.
      let before := if shift.negative then cell + shift.distance else cell - shift.distance
      traceBack table rest before (rest.length :: selection)

def dynamicProgramming (problem : Instance) : Activity (Outcome Answer) :=
  let low := leastSum problem.numbers
  let high := greatestSum problem.numbers
  if problem.target < low ∨ high < problem.target then .done ⟨.notFound, 0⟩
  else do
    -- Cell `b` stands for the sum `low + b`.
    let span := (high - low).toNat + 1
    let width ← .ofExcept (wordOf span span)
    let shifts ← .ofExcept (problem.numbers.mapM (shiftOf span))
    let table ← .ofExcept (BitTable.allocate (problem.numbers.length + 1) width)
    let origin ← .ofExcept (wordOf span (0 - low))
    fillFrom width shifts 0 (table.set 0 origin) 0 fun table nodes => do
      let cell ← .ofExcept (wordOf span (problem.target - low))
      if table.get problem.numbers.length cell then
        return ⟨.found (traceBack table shifts.reverse cell []), nodes⟩
      else return ⟨.notFound, nodes⟩

end SatSum.SubsetSum
