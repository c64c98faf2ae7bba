import SatSum.Word

/-! # Budgets

A budget limits a search by a cap on its nodes and by a deadline. A search polls it with the number of
nodes so far. Reading the clock is worth avoiding, so after one reading the next is due only
`Budget.stride` nodes later; when it is due is part of the budget and carries over to later searches.
-/

namespace SatSum

/-- Time, as a number of units since some beginning. -/
abbrev Moment := Nat

/-- The limits of a search, and the node count at which the clock is read next. -/
structure Budget where
  maxNodes : Option Nat
  deadline : Option Moment
  nextReading : Nat
deriving DecidableEq, Repr

namespace Budget

/-- Nodes between two readings of the clock. -/
def stride : Nat := 256

def unlimited : Budget :=
  ⟨none, none, 0⟩

def before (deadline : Moment) : Budget :=
  ⟨none, some deadline, 0⟩

def withMaxNodes (budget : Budget) (maxNodes : Nat) : Budget :=
  { budget with maxNodes := some maxNodes }

def isCapped (budget : Budget) (nodes : Nat) : Bool :=
  budget.maxNodes.any (· < nodes)

/-- There is a deadline and a reading of the clock is due. -/
def isDue (budget : Budget) (nodes : Nat) : Bool :=
  budget.deadline.isSome && budget.nextReading ≤ nodes

/-- Polls the budget at a node count and a moment: whether the search may go on, and the budget from
    then on. The cap comes first; the clock is looked at only when a reading is due. -/
def check (budget : Budget) (nodes : Nat) (now : Moment) : Bool × Budget :=
  if budget.isCapped nodes then (false, budget)
  else
    match budget.deadline with
    | none => (true, budget)
    | some deadline =>
      if nodes < budget.nextReading then (true, budget)
      else (now < deadline, { budget with nextReading := addSaturating nodes stride })

@[simp] theorem check_unlimited (nodes : Nat) (now : Moment) :
    unlimited.check nodes now = (true, unlimited) := rfl

end Budget

end SatSum
