/-! # Strategies for formulas

The three searches and the names they are asked for by.
-/

namespace SatSum.Sat

inductive Strategy
  | bruteForce
  | backtracking
  | dpll
deriving DecidableEq, Repr

namespace Strategy

def all : List Strategy :=
  [bruteForce, backtracking, dpll]

/-- The name in reports. -/
def name : Strategy → String
  | bruteForce => "brute"
  | backtracking => "backtrack"
  | dpll => "dpll"

/-- The strategy that a name asks for. -/
def ofName? : String → Option Strategy
  | "brute" | "bruteforce" | "brute_force" => some bruteForce
  | "backtrack" | "backtracking" => some backtracking
  | "dpll" => some dpll
  | _ => none

def unknown (name : String) : String :=
  "unknown SAT strategy `" ++ name ++ "`"

theorem ofName?_name (strategy : Strategy) : ofName? strategy.name = some strategy := by
  cases strategy <;> rfl

end Strategy

end SatSum.Sat
