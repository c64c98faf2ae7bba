import SatSum.Benchmark
import SatSum.CommandLine.Arguments
import SatSum.Text.Line
import SatSum.Text.Numeral

/-! # Commands

The commands of the program and what their options mean. Everything that can be decided without the
input is decided here: values are read, and options that exclude or need each other are checked.
-/

namespace SatSum.CommandLine

/-! ## Tasks -/

inductive Input
  | standard
  | file (path : String)
deriving DecidableEq, Repr

inductive InstanceSource
  | inline (problem : SubsetSum.Instance)
  | text (input : Input)
deriving DecidableEq, Repr

inductive Reduction
  | satToThreeSat
  | threeSatToSubsetSum
  | satToSubsetSum
deriving DecidableEq, Repr

/-- What the program is asked to do. The literals of an assignment stay text until the formula is
    known. -/
inductive Task
  | solveSat (input : Input) (strategy : Sat.Strategy) (three : Bool)
  | solveSubsetSum (source : InstanceSource) (strategy : SubsetSum.Strategy)
  | reduce (input : Input) (reduction : Reduction)
  | verifySat (input : Input) (assignment : String) (three : Bool)
  | verifySubsetSum (source : InstanceSource) (selection : SubsetSum.Selection)
  | benchmark (plan : Benchmark.Plan)

/-- A task, the file for its report if it is not to be printed, whether the exit code tells that there
    is a witness, and how much is reported about the work. -/
structure Command where
  task : Task
  output : Option String
  returnsCode : Bool
  verbosity : Nat

inductive Refusal
  | usage
  | version
  | message (text : String)
deriving DecidableEq, Repr

/-! ## The command tree -/

/-- Takes a value that does not begin with a hyphen. -/
def plainValue : OptionKind := .value false true

def pathValue : OptionKind := .value false false

def anyValue : OptionKind := .value true true

def sharedOptions : List OptionSpec :=
  [⟨"verbose", some 'v', .counted⟩, ⟨"output", some 'o', pathValue⟩,
    ⟨"return-code", some 'r', .switch⟩]

def fileOption : OptionSpec := ⟨"file", some 'f', pathValue⟩

def strategyOption : OptionSpec := ⟨"strategy", some 's', plainValue⟩

def assignmentOption : OptionSpec := ⟨"assignment", some 'a', anyValue⟩

def indicesOption : OptionSpec := ⟨"indices", some 'i', plainValue⟩

def instanceOptions : List OptionSpec :=
  [fileOption, ⟨"numbers", some 'n', anyValue⟩, ⟨"target", some 't', anyValue⟩]

def benchmarkOptions : List OptionSpec :=
  [⟨"problem", some 'p', plainValue⟩, ⟨"sizes", none, plainValue⟩, ⟨"instances", none, plainValue⟩,
    ⟨"strategies", none, plainValue⟩, ⟨"seed", none, plainValue⟩, ⟨"timeout", none, plainValue⟩,
    ⟨"max-nodes", none, plainValue⟩]

def leaf (options : List OptionSpec) : CommandSpec :=
  .node (options ++ sharedOptions) []

/-- A command that needs one of the given commands after it. -/
def group (commands : List (String × CommandSpec)) : CommandSpec :=
  .node sharedOptions commands

def commandTree : CommandSpec :=
  .node (⟨"version", some 'V', .version⟩ :: sharedOptions) [
    ("solve", group [
      ("sat", leaf [fileOption, strategyOption]),
      ("3sat", leaf [fileOption, strategyOption]),
      ("subset-sum", leaf (strategyOption :: instanceOptions))]),
    ("reduce", group [
      ("sat-to-3sat", leaf [fileOption]),
      ("3sat-to-subset-sum", leaf [fileOption]),
      ("sat-to-subset-sum", leaf [fileOption])]),
    ("verify", group [
      ("sat", leaf [fileOption, assignmentOption]),
      ("3sat", leaf [fileOption, assignmentOption]),
      ("subset-sum", leaf (indicesOption :: instanceOptions))]),
    ("benchmark", group [("run", leaf benchmarkOptions)])]

/-! ## Values -/

def required {α : Type} : Option α → Except Refusal α
  | some value => .ok value
  | none => .error .usage

def optional {α : Type} (parsed : Parsed) (name : String) (read? : String → Option α) :
    Except Refusal (Option α) :=
  match parsed.value? name with
  | none => .ok none
  | some value => return some (← required (read? value))

def trim (chars : List Char) : List Char :=
  ((chars.dropWhile Text.isBlank).reverse.dropWhile Text.isBlank).reverse

def integer? (text : String) : Option Int :=
  Text.integer? (trim text.toList)

/-- Values between commas; every one of them has to be read. -/
def separated? {α : Type} (read? : String → Option α) (text : String) : Option (List α) :=
  (text.splitOn ",").mapM read?

def count? (text : String) : Option Nat :=
  Text.count? text.toList

def inputOf (parsed : Parsed) : Input :=
  match parsed.value? "file" with
  | some path => .file path
  | none => .standard

/-- The instance of a task: elements and target come together and exclude a file. -/
def instanceSource (parsed : Parsed) : Except Refusal InstanceSource := do
  let numbers ← optional parsed "numbers" (separated? integer?)
  let target ← optional parsed "target" integer?
  match numbers, target with
  | some numbers, some target =>
    if parsed.has "file" then .error .usage else .ok (.inline ⟨numbers, target⟩)
  | none, none => .ok (.text (inputOf parsed))
  | _, _ => .error .usage

/-- The strategy of a task for formulas; only the names in reports are taken here. -/
def satStrategy (parsed : Parsed) : Except Refusal Sat.Strategy :=
  match parsed.value? "strategy" with
  | none => .ok .dpll
  | some name => required (Sat.Strategy.all.find? (·.name == name))

/-- The strategy of a task for instances; only the names in reports are taken here. -/
def subsetSumStrategy (parsed : Parsed) : Except Refusal SubsetSum.Strategy :=
  match parsed.value? "strategy" with
  | none => .ok .dynamicProgramming
  | some name => required (SubsetSum.Strategy.all.find? (·.name == name))

/-- Reads positions between commas; empty pieces are skipped. -/
def readSelection (text : String) : Except Refusal SubsetSum.Selection :=
  ((text.splitOn ",").filter (!·.isEmpty)).mapM fun piece =>
    match Text.count? (trim piece.toList) with
    | some position => .ok position
    | none => .error (.message ("invalid index `" ++ piece ++ "`"))

/-! ## Benchmarks -/

def readNames {α : Type} (ofName? : String → Option α) (unknown : String → String) (text : String) :
    Except Refusal (List α) :=
  (text.splitOn ",").mapM fun name =>
    match ofName? name with
    | some value => .ok value
    | none => .error (.message (unknown name))

/-- The strategies for formulas to compare, all unless some are named. -/
def satStrategies (parsed : Parsed) : Except Refusal (List Sat.Strategy) :=
  match parsed.value? "strategies" with
  | none => .ok Sat.Strategy.all
  | some names => readNames Sat.Strategy.ofName? Sat.Strategy.unknown names

/-- The strategies for instances to compare, all unless some are named. -/
def subsetSumStrategies (parsed : Parsed) : Except Refusal (List SubsetSum.Strategy) :=
  match parsed.value? "strategies" with
  | none => .ok SubsetSum.Strategy.all
  | some names => readNames SubsetSum.Strategy.ofName? SubsetSum.Strategy.unknown names

def contest? (parsed : Parsed) : String → Option (Except Refusal Benchmark.Contest)
  | "sat" => some (.sat <$> satStrategies parsed)
  | "3sat" => some (.threeSat <$> satStrategies parsed)
  | "subset-sum" => some (.subsetSum <$> subsetSumStrategies parsed)
  | _ => none

structure Defaults where
  sizes : List Nat
  instances : Nat
  seed : Nat
  nanoseconds : Nat

def defaults : Defaults :=
  ⟨[5, 10, 15], 5, 42, 300 * 1000000000⟩

/-- The plan of a benchmark. All values are read before strategies are looked up. -/
def benchmarkPlan (parsed : Parsed) : Except Refusal Benchmark.Plan := do
  let problem ← required (parsed.value? "problem")
  let contest ← required (contest? parsed problem)
  let sizes ← optional parsed "sizes" (separated? count?)
  let instances ← optional parsed "instances" count?
  let seed ← optional parsed "seed" count?
  let time ← optional parsed "timeout" Text.nanoseconds?
  let maxNodes ← optional parsed "max-nodes" count?
  return {
    contest := ← contest
    sizes := sizes.getD defaults.sizes
    instances := instances.getD defaults.instances
    seed := UInt64.ofNat (seed.getD defaults.seed)
    limits := ⟨some (time.getD defaults.nanoseconds), maxNodes⟩ }

/-! ## Reading a command -/

def taskOf (parsed : Parsed) : Except Refusal Task :=
  let input := inputOf parsed
  match parsed.path with
  | ["solve", "sat"] => return .solveSat input (← satStrategy parsed) false
  | ["solve", "3sat"] => return .solveSat input (← satStrategy parsed) true
  | ["solve", "subset-sum"] => do
    let source ← instanceSource parsed
    return .solveSubsetSum source (← subsetSumStrategy parsed)
  | ["reduce", "sat-to-3sat"] => .ok (.reduce input .satToThreeSat)
  | ["reduce", "3sat-to-subset-sum"] => .ok (.reduce input .threeSatToSubsetSum)
  | ["reduce", "sat-to-subset-sum"] => .ok (.reduce input .satToSubsetSum)
  | ["verify", "sat"] => return .verifySat input (← required (parsed.value? "assignment")) false
  | ["verify", "3sat"] => return .verifySat input (← required (parsed.value? "assignment")) true
  | ["verify", "subset-sum"] => do
    let source ← instanceSource parsed
    return .verifySubsetSum source (← readSelection ((parsed.value? "indices").getD ""))
  | ["benchmark", "run"] => return .benchmark (← benchmarkPlan parsed)
  | _ => .error .usage

def Command.ofWords (words : List String) : Except Refusal Command :=
  match commandTree.read words with
  | .error .usage => .error .usage
  | .error .version => .error .version
  | .ok parsed => do
    let task ← taskOf parsed
    return ⟨task, parsed.value? "output", parsed.has "return-code",
      parsed.count "verbose"⟩

end SatSum.CommandLine
