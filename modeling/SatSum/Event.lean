import SatSum.Sat.Strategy
import SatSum.SubsetSum.Strategy

/-! # Events

What the library reports while it works: an event has a level, a topic and a text.
-/

namespace SatSum

inductive Event
  | decodedFormula (numVariables numClauses : Nat)
  | decodedInstance (elements : Nat) (target : Int)
  | satStarted (strategy : Sat.Strategy) (numClauses numVariables : Nat)
  | satFinished (strategy : Sat.Strategy) (satisfiable : Bool) (nodes : Nat)
  | subsetSumStarted (strategy : SubsetSum.Strategy) (elements : Nat) (target : Int)
  | subsetSumFinished (strategy : SubsetSum.Strategy) (found : Bool) (nodes : Nat)
  | falsified (var : Nat) (value : Bool)
  | flipped (var depth : Nat)
  | pruned (depth : Nat) (sum : Int)
  | becameThree (numClauses numVariables newClauses newVariables : Nat)
  | encodedThree (numClauses numVariables numbers : Nat)
  | encoded (numClauses numVariables numbers radix : Nat)
deriving DecidableEq, Repr

namespace Event

inductive Level
  | debug
  | trace
deriving DecidableEq, Repr

inductive Topic
  | parse
  | solve
  | search
  | reduction
deriving DecidableEq, Repr

def Level.name : Level → String
  | debug => "DEBUG"
  | trace => "TRACE"

/-- How much has to be asked for before events of the level are reported. -/
def Level.verbosity : Level → Nat
  | debug => 2
  | trace => 3

def Topic.name : Topic → String
  | parse => "parse"
  | solve => "solve"
  | search => "search"
  | reduction => "reduction"

def topic : Event → Topic
  | decodedFormula .. | decodedInstance .. => .parse
  | satStarted .. | satFinished .. | subsetSumStarted .. | subsetSumFinished .. => .solve
  | falsified .. | flipped .. | pruned .. => .search
  | becameThree .. | encodedThree .. | encoded .. => .reduction

/-- Steps inside a search are traced, everything else is worth a debugging line. -/
def level (event : Event) : Level :=
  if event.topic = .search then .trace else .debug

def text : Event → String
  | decodedFormula numVariables numClauses =>
    s!"decoded formula with {numVariables} variables and {numClauses} clauses"
  | decodedInstance elements target =>
    s!"decoded subset-sum instance with {elements} elements, target {target}"
  | satStarted strategy numClauses numVariables =>
    strategy.name ++ s!": {numClauses} clauses over {numVariables} variables"
  | satFinished strategy satisfiable nodes =>
    strategy.name ++ (if satisfiable then ": satisfiable" else ": unsatisfiable")
      ++ s!" after {nodes} nodes"
  | subsetSumStarted strategy elements target =>
    strategy.name ++ s!": {elements} elements, target {target}"
  | subsetSumFinished strategy found nodes =>
    strategy.name ++ (if found then ": found" else ": not found") ++ s!" after {nodes} nodes"
  | falsified var value => s!"x{var} = {value} falsifies a clause"
  | flipped var depth => s!"conflict, flipping x{var} at depth {depth}"
  | pruned depth sum => s!"pruned at depth {depth} with sum {sum}"
  | becameThree numClauses numVariables newClauses newVariables =>
    s!"SAT → 3-SAT: {numClauses} clauses over {numVariables} variables"
      ++ s!" became {newClauses} clauses over {newVariables} variables"
  | encodedThree numClauses numVariables numbers =>
    s!"3-SAT → Subset Sum: {numClauses} clauses over {numVariables} variables"
      ++ s!" became {numbers} numbers"
  | encoded numClauses numVariables numbers radix =>
    s!"SAT → Subset Sum: {numClauses} clauses over {numVariables} variables"
      ++ s!" became {numbers} numbers in base {radix}"

def line (event : Event) : String :=
  event.level.name ++ " " ++ event.topic.name ++ " " ++ event.text

end Event

end SatSum
