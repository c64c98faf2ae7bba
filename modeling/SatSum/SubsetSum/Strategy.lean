/-! # Strategies for Subset Sum

The three searches and the names they are asked for by.
-/

namespace SatSum.SubsetSum

inductive Strategy
  | bruteForce
  | backtracking
  | dynamicProgramming
deriving DecidableEq, Repr

namespace Strategy

def all : List Strategy :=
  [bruteForce, backtracking, dynamicProgramming]

/-- The name in reports. -/
def name : Strategy → String
  | bruteForce => "brute"
  | backtracking => "backtrack"
  | dynamicProgramming => "dp"

/-- The strategy that a name asks for. -/
def ofName? : String → Option Strategy
  | "brute" | "bruteforce" | "brute_force" => some bruteForce
  | "backtrack" | "backtracking" => some backtracking
  | "dp" | "dynamic" | "dynamic_programming" => some dynamicProgramming
  | _ => none

def unknown (name : String) : String :=
  "unknown subset-sum strategy `" ++ name ++ "`"

theorem ofName?_name (strategy : Strategy) : ofName? strategy.name = some strategy := by
  cases strategy <;> rfl

end Strategy

end SatSum.SubsetSum
