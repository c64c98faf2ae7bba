/-! # Columns of a table

A cell is filled up with blanks to the width of its column; a longer one keeps its length.
-/

namespace SatSum.Text

inductive Alignment
  | left
  | right
deriving DecidableEq, Repr

def padded (alignment : Alignment) (width : Nat) (cell : String) : String :=
  let blanks := String.ofList (List.replicate (width - cell.length) ' ')
  match alignment with
  | .left => cell ++ blanks
  | .right => blanks ++ cell

def row (columns : List (Alignment × Nat)) (cells : List String) : String :=
  String.intercalate " "
    ((columns.zip cells).map fun entry => padded entry.1.1 entry.1.2 entry.2)

end SatSum.Text
