import SatSum.Generate
import SatSum.Chance.ChaCha
import SatSum.Sat.Solve
import SatSum.SubsetSum.Solve
import SatSum.Text.Column
import SatSum.Text.Seconds

/-! # Comparing strategies

A plan names a problem, the strategies to compare on it, and the random instances to compare them on.
Each solve has a budget of its own; one that is interrupted is recorded as timed out. The strategies
that come to an end have to agree on whether there is a solution.
-/

namespace SatSum.Benchmark

/-! ## Plans -/

inductive Contest
  | sat (strategies : List Sat.Strategy)
  | threeSat (strategies : List Sat.Strategy)
  | subsetSum (strategies : List SubsetSum.Strategy)
deriving DecidableEq, Repr

def Contest.name : Contest → String
  | sat _ => "sat"
  | threeSat _ => "3sat"
  | subsetSum _ => "subset-sum"

/-- What limits a single solve; the time is in nanoseconds. -/
structure Limits where
  time : Option Nat
  maxNodes : Option Nat
deriving DecidableEq, Repr

namespace Limits

def none : Limits :=
  ⟨.none, .none⟩

def budget (limits : Limits) (now : Moment) : Budget :=
  ⟨limits.maxNodes, limits.time.map (now + ·), 0⟩

end Limits

/-- A comparison. Each size has the same number of instances. -/
structure Plan where
  contest : Contest
  sizes : List Nat
  instances : Nat
  seed : UInt64
  limits : Limits

/-- One of the instances of a plan: its size and its number among those of that size. -/
structure Job where
  size : Nat
  index : Nat
deriving DecidableEq, Repr

def Plan.jobs (plan : Plan) : List Job :=
  plan.sizes.flatMap fun size => (List.range plan.instances).map fun index => ⟨size, index⟩

/-- The seed of a job. Sizes and numbers below 2^32 never share one. -/
def Job.seed (base : UInt64) (job : Job) : UInt64 :=
  base ^^^ (UInt64.ofNat job.size <<< 32) ^^^ UInt64.ofNat job.index

/-- The number of clauses: 4.26 for each variable, to the nearest. Three-literal formulas are hardest
    near that ratio. -/
def numClauses (size : Nat) : Nat :=
  (size * 426 + 50) / 100

def maxWidth : Nat := 5

def maxElement : Nat := 1000

/-! ## Solves -/

/-- A solve by one strategy: the strategy's name, and the activity, which tells whether there is a
    solution. -/
structure Entry where
  strategy : String
  solving : Activity (Outcome Bool)

def Entry.ofSat (strategy : Sat.Strategy) (solving : Activity (Outcome Sat.Answer)) : Entry where
  strategy := strategy.name
  solving := (fun outcome => ⟨outcome.answer.isSatisfiable, outcome.nodes⟩) <$> solving

def Entry.ofSubsetSum (strategy : SubsetSum.Strategy)
    (solving : Activity (Outcome SubsetSum.Answer)) : Entry where
  strategy := strategy.name
  solving := (fun outcome => ⟨outcome.answer.isFound, outcome.nodes⟩) <$> solving

section

variable {σ : Type} [Chance.WordSource σ]

/-- Draws the instance of a size, and lays out a solve for each strategy. -/
def Contest.entries (size : Nat) : Contest → Generated σ (List Entry)
  | sat strategies => do
    let formula ← Formula.random size (numClauses size) 1 (min maxWidth size)
    return strategies.map fun strategy => .ofSat strategy (formula.solving strategy)
  | threeSat strategies => do
    let three ← ThreeFormula.random size (numClauses size)
    return strategies.map fun strategy =>
      .ofSat strategy (three.toFormula.solvingThree strategy)
  | subsetSum strategies => do
    let problem ← SubsetSum.Instance.random size maxElement .random
    return strategies.map fun strategy => .ofSubsetSum strategy (problem.solving strategy)

end

/-! ## Records -/

/-- What a solve came to. `feasible` is missing if it was interrupted; the time is in nanoseconds,
    where it was taken. -/
structure Record where
  strategy : String
  size : Nat
  index : Nat
  feasible : Option Bool
  timedOut : Bool
  nodes : Nat
  time : Option Nat
deriving DecidableEq, Repr

structure Measured (α : Type) where
  result : Except Fault α
  time : Option Nat

inductive Failure
  | fault (cause : Fault)
  | disagreement (problem : String) (job : Job) (cells : List (String × Option Bool))
deriving DecidableEq, Repr

def feasibleCell : Option Bool → String
  | some true => "true"
  | some false => "false"
  | none => "-"

def Failure.message : Failure → String
  | fault cause => cause.message
  | disagreement problem job cells =>
    "strategies disagree on " ++ problem ++ s!" instance {job.index} of size {job.size}: "
      ++ String.intercalate ", " (cells.map fun cell => cell.1 ++ "=" ++ feasibleCell cell.2)

def Record.ofMeasured (job : Job) (strategy : String) (measured : Measured (Outcome Bool)) :
    Except Failure Record :=
  match measured.result with
  | .ok outcome =>
    .ok ⟨strategy, job.size, job.index, some outcome.answer, false, outcome.nodes, measured.time⟩
  | .error (.interrupted nodes) =>
    .ok ⟨strategy, job.size, job.index, none, true, nodes, measured.time⟩
  | .error fault => .error (.fault fault)

/-- All that is known about there being a solution is the same. -/
def agree (records : List Record) : Bool :=
  match records.filterMap (·.feasible) with
  | [] => true
  | first :: others => others.all (· == first)

def checked (plan : Plan) (job : Job) (records : List Record) : Except Failure (List Record) :=
  if agree records then .ok records
  else
    .error (.disagreement plan.contest.name job (records.map fun record =>
      (record.strategy, record.feasible)))

/-! ## Running a plan -/

section

variable {m : Type → Type} [Monad m]

def Plan.measure (plan : Plan)
    (perform : Limits → Activity (Outcome Bool) → m (Measured (Outcome Bool))) (job : Job) :
    ExceptT Failure m (List Record) := do
  let stream := Chance.ChaCha.Stream.ofSeed (job.seed plan.seed)
  match ((plan.contest.entries job.size).run.run stream).1 with
  | .error fault => throw (.fault fault)
  | .ok entries =>
    let records ← entries.mapM fun entry => do
      let measured ← perform plan.limits entry.solving
      ExceptT.mk (pure (Record.ofMeasured job entry.strategy measured))
    ExceptT.mk (pure (checked plan job records))

/-- The records of all jobs in order, up to the first that fails. -/
def Plan.run (plan : Plan)
    (perform : Limits → Activity (Outcome Bool) → m (Measured (Outcome Bool))) :
    ExceptT Failure m (List Record) := do
  let records ← plan.jobs.mapM (plan.measure perform)
  return records.flatten

end

/-! ## Reports -/

def Record.cells (problem : String) (record : Record) : List String :=
  [problem, record.strategy, toString record.size, toString record.index,
    feasibleCell record.feasible, toString record.timedOut, toString record.nodes]

def Record.timeCell (record : Record) : List String :=
  record.time.toList.map Text.renderSeconds

def columns : List (Text.Alignment × Nat) :=
  [(.left, 11), (.left, 10), (.right, 5), (.right, 8), (.right, 9), (.right, 9), (.right, 14),
    (.right, 12)]

def headings : List String :=
  ["problem", "strategy", "size", "instance", "feasible", "timed_out", "nodes"]

def timeHeading (timed : Bool) : List String :=
  if timed then ["seconds"] else []

def allCells (timed : Bool) (problem : String) (records : List Record) : List (List String) :=
  (headings ++ timeHeading timed)
    :: records.map fun record => record.cells problem ++ record.timeCell

def renderTable (timed : Bool) (problem : String) (records : List Record) : String :=
  String.join ((allCells timed problem records).map fun cells => Text.row columns cells ++ "\n")

def renderCsv (timed : Bool) (problem : String) (records : List Record) : String :=
  String.join ((allCells timed problem records).map fun cells =>
    String.intercalate "," cells ++ "\n")

end SatSum.Benchmark
