import SatSum.Word

/-! # Numerals

The spellings of numbers that the readers accept. Machine integers allow one sign and decimal digits
and must be in range; integers of any size also allow underscores between digits.
-/

namespace SatSum.Text

/-- The value of a run of decimal digits read after `value`. -/
def digitsFrom (value : Nat) (digits : List Char) : Nat :=
  digits.foldl (fun total digit => total * 10 + (digit.toNat - '0'.toNat)) value

/-- At least one decimal digit and nothing else. -/
def natural? (chars : List Char) : Option Nat :=
  if !chars.isEmpty && chars.all Char.isDigit then some (digitsFrom 0 chars) else none

/-- A single leading plus sign may be left out. -/
def dropPlus : List Char → List Char
  | '+' :: rest => rest
  | chars => chars

/-- A count: digits after an optional plus sign, at most the largest word. -/
def count? (chars : List Char) : Option Nat :=
  (natural? (dropPlus chars)).filter (· ≤ maxWord)

def signed? : List Char → Option Int
  | '-' :: rest => (natural? rest).filter (· ≤ 1 <<< 63) |>.map fun magnitude => -(magnitude : Int)
  | chars => (natural? (dropPlus chars)).filter (· < 1 <<< 63) |>.map Int.ofNat

/-- Digits and underscores, a digit first; the underscores say nothing. -/
def spacedNatural? : List Char → Option Nat
  | '_' :: _ => none
  | chars => natural? (chars.filter (· ≠ '_'))

def integer? : List Char → Option Int
  | '-' :: rest => (spacedNatural? rest).map fun magnitude => -(magnitude : Int)
  | chars => (spacedNatural? (dropPlus chars)).map Int.ofNat

end SatSum.Text
