import SatSum.Fault
import SatSum.Word

/-! # Subset-Sum instances

An instance asks for positions of a list of integers whose elements add up to a target. Equal numbers
at different positions are different elements. Elements and target are bounded in size, so that no
later step has to deal with numbers without limit.
-/

namespace SatSum

/-- The number has more bits than an element or a target may have. -/
def exceedsMaxBits (number : Int) : Bool :=
  maxBits < bitLength number.natAbs

namespace SubsetSum

structure Instance where
  numbers : List Int
  target : Int
deriving DecidableEq, Repr

/-- Positions of elements, counted from zero. -/
abbrev Selection := List Nat

/-- The answer of a search: ascending positions that hit the target, or none exist. -/
inductive Answer
  | found (selection : Selection)
  | notFound
deriving DecidableEq, Repr

namespace Instance

/-- The elements at the given positions; positions past the end select nothing. -/
def selected (problem : Instance) (selection : Selection) : List Int :=
  selection.filterMap fun position => problem.numbers[position]?

def sumOf (problem : Instance) (selection : Selection) : Int :=
  total (problem.selected selection)

/-- Refuses the first element that is too large, then a target that is too large. -/
def validate (problem : Instance) : Except Fault Unit :=
  match problem.numbers.zipIdx.find? (fun entry => exceedsMaxBits entry.1) with
  | some (number, position) =>
    .error (.malformed (.elementTooLarge position (bitLength number.natAbs)))
  | none =>
    if exceedsMaxBits problem.target then
      .error (.malformed (.targetTooLarge (bitLength problem.target.natAbs)))
    else .ok ()

def render (problem : Instance) : String :=
  "\x7b" ++ String.intercalate ", " (problem.numbers.map toString) ++ "\x7d → "
    ++ toString problem.target

end Instance

namespace Answer

def isFound : Answer → Bool
  | found _ => true
  | notFound => false

def selection? : Answer → Option Selection
  | found selection => some selection
  | notFound => none

def render : Answer → String
  | found selection => "Found: [" ++ String.intercalate ", " (selection.map toString) ++ "]"
  | notFound => "NotFound"

end Answer

end SubsetSum

end SatSum
