/-! # Literals

A literal is a variable or its negation. Variables are numbered from one; number zero is no variable
and a literal over it is never true. A valuation lists the values of variables 1, 2, … in order.

* `negate_negate`: negating twice changes nothing.
* `holds_negate`: over a variable that a valuation covers, exactly one of a literal and its negation
  holds.
* `ofSigned_toSigned`: a literal survives its signed form if its variable has a positive number below
  2^63.
-/

namespace SatSum

/-- The values of variables 1, 2, … in order. -/
abbrev Valuation := List Bool

/-- The value of a variable, where the valuation covers it. -/
def Valuation.value? (valuation : Valuation) (var : Nat) : Option Bool :=
  match var with
  | 0 => none
  | index + 1 => valuation[index]?

structure Literal where
  var : Nat
  positive : Bool
deriving DecidableEq, Repr, Inhabited

namespace Literal

def negate (literal : Literal) : Literal :=
  ⟨literal.var, !literal.positive⟩

/-- The literal is true under the valuation. A variable that is not covered makes it false. -/
def holds (valuation : Valuation) (literal : Literal) : Bool :=
  valuation.value? literal.var == some literal.positive

/-- Reads the signed form: the magnitude is the variable and the sign the polarity. -/
def ofSigned (number : Int) : Literal :=
  ⟨number.natAbs, decide (0 < number)⟩

/-- The signed form, in 64-bit two's complement: the number of a variable above 2^63 - 1 wraps. -/
def toSigned (literal : Literal) : Int :=
  let number : Int := Int.bmod literal.var UInt64.size
  if literal.positive then number else Int.bmod (-number) UInt64.size

/-- The signed form is the negation of the least signed word, which is no signed word itself. -/
def Overflows (literal : Literal) : Prop :=
  literal.positive = false ∧ Int.bmod literal.var UInt64.size = Int64.minValue.toInt

instance (literal : Literal) : Decidable literal.Overflows :=
  inferInstanceAs (Decidable (_ ∧ _))

/-- Order by variable, the negative literal first. -/
def le (a b : Literal) : Bool :=
  a.var < b.var || (a.var == b.var && (!a.positive || b.positive))

def render (literal : Literal) : String :=
  if literal.positive then s!"x{literal.var}" else s!"¬x{literal.var}"

@[simp] theorem negate_negate (literal : Literal) : literal.negate.negate = literal := by
  simp [negate]

@[simp] theorem negate_var (literal : Literal) : literal.negate.var = literal.var := rfl

theorem holds_negate {valuation : Valuation} {literal : Literal} {value : Bool}
    (covered : valuation.value? literal.var = some value) :
    literal.negate.holds valuation = !literal.holds valuation := by
  cases value <;> cases polarity : literal.positive <;>
    simp [holds, negate, covered, polarity]

theorem ofSigned_toSigned {literal : Literal} (positive : 0 < literal.var)
    (small : literal.var < 1 <<< 63) : ofSigned literal.toSigned = literal := by
  obtain ⟨var, sign⟩ := literal
  simp only at positive small
  cases sign <;> simp [ofSigned, toSigned, Int.bmod] <;> omega

end Literal

end SatSum
