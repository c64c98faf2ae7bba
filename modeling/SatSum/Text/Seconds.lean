import SatSum.Text.Numeral

/-! # Times

Seconds as a decimal numeral: digits with or without a point, and perhaps an exponent. A numeral is
read as the nearest double-precision number, so one that is tiny counts as zero. Times are kept in
nanoseconds.
-/

namespace SatSum.Text

/-- A decimal numeral: `digits` times a power of ten. -/
structure Decimal where
  negative : Bool
  digits : Nat
  exponent : Int
deriving DecidableEq, Repr

def digitsOrNone? (chars : List Char) : Option Nat :=
  if chars.all Char.isDigit then some (digitsFrom 0 chars) else none

/-- The exponent of a numeral: digits after an optional sign. -/
def exponent? : List Char → Option Int
  | '-' :: rest => (natural? rest).map fun magnitude => -(magnitude : Int)
  | chars => (natural? (dropPlus chars)).map Int.ofNat

def splitSign : List Char → Bool × List Char
  | '-' :: rest => (true, rest)
  | chars => (false, dropPlus chars)

/-- A decimal numeral: it has a digit before or after the point. -/
def decimal? (chars : List Char) : Option Decimal := do
  let (negative, unsigned) := splitSign chars
  let isMark (c : Char) : Bool := c == 'e' || c == 'E'
  let (mantissa, tail) := unsigned.span (!isMark ·)
  let exponent ← match tail with
    | [] => some 0
    | _ :: digits => exponent? digits
  let (whole, tail) := mantissa.span (· != '.')
  let fraction := tail.drop 1
  if whole.isEmpty && fraction.isEmpty then none
  else
    let digits ← digitsOrNone? (whole ++ fraction)
    return ⟨negative, digits, exponent - fraction.length⟩

/-- The quotient to the nearest whole number, a half to the even one. -/
def roundedQuotient (numerator denominator : Nat) : Nat :=
  let quotient := numerator / denominator
  let double := 2 * (numerator % denominator)
  if double < denominator ∨ (double = denominator ∧ quotient % 2 = 0) then quotient else quotient + 1

/-- The least number of seconds that is too large: 2^64 less half the spacing of the double-precision
    numbers below it, so that the nearest of them is 2^64. -/
def secondsLimit : Nat := UInt64.size - 1 <<< 10

/-- The time in nanoseconds. Negative times and times from 2^64 seconds on are refused. -/
def Decimal.toNanoseconds? (decimal : Decimal) : Option Nat :=
  let size := (Nat.repr decimal.digits).length
  -- Far from the range of double-precision numbers no power of ten has to be computed.
  if decimal.digits = 0 ∨ decimal.exponent + size < -400 then some 0
  else if 400 < decimal.exponent then none
  else
    let numerator := decimal.digits * Nat.pow 10 decimal.exponent.toNat
    let denominator := Nat.pow 10 (-decimal.exponent).toNat
    -- At most half the least positive number: the nearest one is zero, also for a negative numeral.
    if numerator <<< 1075 ≤ denominator then some 0
    else if decimal.negative ∨ secondsLimit * denominator ≤ numerator then none
    else some (roundedQuotient (numerator * 1000000000) denominator)

def nanoseconds? (text : String) : Option Nat := do
  (← decimal? text.toList).toNanoseconds?

def renderSeconds (nanoseconds : Nat) : String :=
  let micros := roundedQuotient nanoseconds 1000
  let fraction := toString (micros % 1000000)
  toString (micros / 1000000) ++ "." ++ String.ofList (List.replicate (6 - fraction.length) '0')
    ++ fraction

end SatSum.Text
