import SatSum.Fault
import SatSum.Word

/-! # Tables of bits

A table has rows of equally many 64-bit words; bit `b` of a row is bit `b % 64` of its word `b / 64`.
`extendRow` makes the next row from a row and the same row shifted, a whole word at a time with the
bits that cross a word boundary carried over.
-/

namespace SatSum.SubsetSum

/-- The words of a row, lowest first. -/
abbrev BitRow (rowWords : Nat) := Vector UInt64 rowWords

namespace BitRow

variable {rowWords : Nat}

/-- A bit of the row; there are none past the end. -/
def get (row : BitRow rowWords) (bit : Nat) : Bool :=
  match row[bit / 64]? with
  | some word => word.toNat.testBit (bit % 64)
  | none => false

/-- The row with one more bit. -/
def set (row : BitRow rowWords) (bit : Nat) : BitRow rowWords :=
  Vector.ofFn fun position =>
    if position = bit / 64 then row[position] ||| 1 <<< UInt64.ofNat (bit % 64) else row[position]

/-- Word `position` of the row shifted up by whole words and by `bits` below 64. -/
def wordUp (row : BitRow rowWords) (words bits position : Nat) : UInt64 :=
  if position < words then 0
  else
    let source := position - words
    -- The top bits of the word below move into this one.
    let carry :=
      if 0 < bits ∧ 0 < source then row[source - 1]?.getD 0 >>> UInt64.ofNat (64 - bits) else 0
    row[source]?.getD 0 <<< UInt64.ofNat bits ||| carry

/-- Word `position` of the row shifted down by whole words and by `bits` below 64. -/
def wordDown (row : BitRow rowWords) (words bits position : Nat) : UInt64 :=
  let source := position + words
  -- The bottom bits of the word above move into this one.
  let carry := if 0 < bits then row[source + 1]?.getD 0 <<< UInt64.ofNat (64 - bits) else 0
  row[source]?.getD 0 >>> UInt64.ofNat bits ||| carry

/-- The row or-ed with itself shifted by `distance` bits, downwards if `negative`. -/
def extend (row : BitRow rowWords) (distance : Nat) (negative : Bool) : BitRow rowWords :=
  Vector.ofFn fun position =>
    let moved :=
      if negative then wordDown row (distance / 64) (distance % 64) position
      else wordUp row (distance / 64) (distance % 64) position
    row[position] ||| moved

end BitRow

structure BitTable where
  rowWords : Nat
  rows : Array (BitRow rowWords)

namespace BitTable

def maxWords : Nat := 1 <<< 29

def wordsFor (width : Nat) : Nat :=
  (width + 63) / 64

/-- A table of zeros, unless it would be too large. -/
def allocate (rows width : Nat) : Except Fault BitTable :=
  if maxWords < wordsFor width * rows then .error (.exhausted (.space (.table rows width)))
  else .ok ⟨wordsFor width, Array.replicate rows (Vector.replicate (wordsFor width) 0)⟩

/-- A bit of a row; there are none outside the table. -/
def get (table : BitTable) (row bit : Nat) : Bool :=
  match table.rows[row]? with
  | some bits => BitRow.get bits bit
  | none => false

/-- The table with one more bit. -/
def set (table : BitTable) (row bit : Nat) : BitTable :=
  { table with rows := table.rows.modify row (BitRow.set · bit) }

/-- Makes row `row + 1` from row `row`. -/
def extendRow (table : BitTable) (row distance : Nat) (negative : Bool) : BitTable :=
  match table.rows[row]? with
  | some bits =>
    { table with rows := table.rows.modify (row + 1) fun _ => BitRow.extend bits distance negative }
  | none => table

end BitTable

end SatSum.SubsetSum
