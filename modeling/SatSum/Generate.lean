import SatSum.Chance.Source
import SatSum.SubsetSum.Instance
import SatSum.ThreeFormula

/-! # Random formulas and instances

Whatever is asked for in vain is refused before anything is drawn. The result depends on the source
alone, so a seeded one gives the same again.
-/

namespace SatSum

open Chance (Draw Choices)

section

variable {σ : Type} [Choices σ]

abbrev Generated (σ α : Type) := ExceptT Fault (StateM σ) α

/-- A clause of `width` different variables with random signs; the variables are drawn first. -/
def Clause.random (numVariables width : Nat) : Draw σ Clause := do
  let indices ← Choices.sample numVariables width
  indices.mapM fun index => do return ⟨index + 1, ← Choices.coin⟩

def drawBetween (least greatest : Nat) : Draw σ Nat := do
  return least + (← Choices.below 2 (greatest - least + 1))

/-- A formula whose clauses have widths from `least` to `greatest`, each over different variables. -/
def Formula.random (numVariables numClauses least greatest : Nat) : Generated σ Formula := do
  if numVariables = 0 then
    throw (.malformed .noVariables)
  if greatest < least ∨ numVariables < greatest then
    throw (.malformed (.impossibleWidths least greatest numVariables))
  let clauses ← (Chance.repeated numClauses do
    let width ← drawBetween least greatest
    Clause.random numVariables width : StateM σ (List Clause))
  return ⟨numVariables, clauses⟩

def ThreeClause.ofSampled : Clause → Except Fault ThreeClause
  | [a, b, c] => ThreeClause.ofLiterals a b c
  | _ => .error (.malformed .sampledWidth)

/-- A formula of three-literal clauses over different variables. -/
def ThreeFormula.random (numVariables numClauses : Nat) : Generated σ ThreeFormula := do
  if numVariables < 3 then
    throw (.malformed (.tooFewVariables numVariables))
  let sampled ← (Chance.repeated numClauses (Clause.random numVariables 3) : StateM σ (List Clause))
  match sampled.mapM ThreeClause.ofSampled with
  | .ok clauses => return ⟨numVariables, clauses⟩
  | .error fault => throw fault

namespace SubsetSum

inductive Feasibility
  | guaranteed
  | random
deriving DecidableEq, Repr

/-- A target for the numbers: the sum of a random selection that is not empty, or any number up to the
    sum of all. -/
def drawTarget (numbers : List Int) : Feasibility → Draw σ Int
  | .random => do
    return Int.ofNat (← Choices.below 4 ((total numbers).toNat + 1))
  | .guaranteed =>
    if numbers.isEmpty then pure 0
    else do
      let amount ← drawBetween 1 numbers.length
      let selection ← Choices.sample numbers.length amount
      return Instance.sumOf ⟨numbers, 0⟩ selection

/-- An instance of `length` elements from 1 to `maximum`. -/
def Instance.random (length : Nat) (maximum : Int) (feasibility : Feasibility) :
    Generated σ Instance := do
  if maximum < 1 then
    throw (.malformed (.nonPositiveMaximum maximum))
  let numbers ← (Chance.repeated length (Int.ofNat <$> drawBetween 1 maximum.toNat) :
    StateM σ (List Int))
  let target ← (drawTarget numbers feasibility : StateM σ Int)
  return ⟨numbers, target⟩

end SubsetSum

end

end SatSum
