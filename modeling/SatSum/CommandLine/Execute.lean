import SatSum.CommandLine.Command
import SatSum.CommandLine.Failure
import SatSum.Decode
import SatSum.Reduction.Pipeline

/-! # Executing commands

A command reads at most one text, does its task, and prints a report or writes it to a file. What it
needs of its surroundings is a `Host`: files, standard input and output, and a way to run activities.
-/

namespace SatSum.CommandLine

open Benchmark (Limits Measured)

/-! ## Surroundings -/

/-- What a command needs. `perform` runs an activity within limits; `timed` tells whether it takes
    the time. -/
structure Host (m : Type → Type) where
  read : Input → m (Except FileFault ByteArray)
  write : (path text : String) → m (Except FileFault Unit)
  print : String → m Unit
  perform : {α : Type} → Limits → Activity α → m (Measured α)
  timed : Bool

/-! ## Assignments -/

def assignmentTokens (text : String) : List Text.Token :=
  Text.tokens (text.toList.map fun c => if c = ',' then ' ' else c)

/-- Takes a literal into a valuation; zero says nothing. -/
def assign (numVariables : Nat) (valuation : Valuation) (token : Text.Token) :
    Except Failure Valuation :=
  match Text.signed? token.text with
  | none => .error (.message ("invalid literal `" ++ token.written ++ "`"))
  | some value =>
    if value = 0 then .ok valuation
    else if numVariables < value.natAbs then
      .error (.message s!"literal {value} names a variable outside [1, {numVariables}]")
    else .ok (valuation.set (value.natAbs - 1) (decide (0 < value)))

/-- Reads the literals of an assignment; variables that are not mentioned are false. -/
def readAssignment (numVariables : Nat) (text : String) : Except Failure Valuation :=
  (assignmentTokens text).foldlM (assign numVariables) (List.replicate numVariables false)

/-! ## Reports -/

inductive Report
  | sat (outcome : Outcome Sat.Answer) (time : Option Nat)
  | subsetSum (problem : SubsetSum.Instance) (outcome : Outcome SubsetSum.Answer)
      (time : Option Nat)
  | text (content : String)
  | verdict (result : Verdict)
  | records (problem : String) (rows : List Benchmark.Record)

namespace Report

/-- Comments on the work of a search: its nodes, and its time where it was taken. -/
def comments (mark : String) (nodes : Nat) (time : Option Nat) : String :=
  mark ++ s!" nodes {nodes}\n"
    ++ String.join (time.toList.map fun time => mark ++ " seconds " ++ Text.renderSeconds time ++ "\n")

def elements (problem : SubsetSum.Instance) (selection : SubsetSum.Selection) : String :=
  "elements: " ++ String.intercalate " + " ((problem.selected selection).map toString) ++ "\n"

def render (timed : Bool) : Report → String
  | sat outcome time => comments "c" outcome.nodes time ++ outcome.answer.toDimacs
  | subsetSum problem outcome time =>
    comments "#" outcome.nodes time ++ outcome.answer.render ++ "\n"
      ++ String.join (outcome.answer.selection?.toList.map (elements problem))
  | text content => content
  | verdict (.ok ()) => "VALID\n"
  | verdict (.error rejection) => "INVALID: " ++ rejection.message ++ "\n"
  | records problem rows => Benchmark.renderTable timed problem rows

def renderFile (timed : Bool) : Report → String
  | records problem rows => Benchmark.renderCsv timed problem rows
  | report => report.render timed

/-- What is printed although the report goes to a file: the table of a benchmark. -/
def renderBeside (timed : Bool) : Report → String
  | records problem rows => Benchmark.renderTable timed problem rows
  | _ => ""

/-- The exit code: a rejected witness is an error; otherwise, if asked for, a witness that exists
    gives one. -/
def exitCode (returnsCode : Bool) : Report → Nat
  | verdict (.ok ()) => 0
  | verdict (.error _) => 1
  | sat outcome _ => if returnsCode && outcome.answer.isSatisfiable then 1 else 0
  | subsetSum _ outcome _ => if returnsCode && outcome.answer.isFound then 1 else 0
  | text _ => 0
  | records _ _ => 0

end Report

/-! ## Tasks -/

def Reduction.applying (reduction : Reduction) (formula : Formula) : Activity String :=
  match reduction with
  | .satToThreeSat => do
    let reduction ← formula.reducingToThree
    .ofExcept reduction.formula.toFormula.write
  | .threeSatToSubsetSum => do
    let three ← .ofExcept (ThreeFormula.ofFormula formula)
    let encoding ← three.encoding
    return encoding.encoded.toText
  | .satToSubsetSum => do
    let encoding ← formula.encoding
    return encoding.encoded.toText

section

variable {m : Type → Type} [Monad m]

abbrev Attempt (m : Type → Type) (α : Type) := ExceptT Failure m α

def Host.measure {α : Type} (host : Host m) (activity : Activity α) :
    Attempt m (α × Option Nat) := do
  let measured ← (host.perform .none activity : m _)
  match measured.result with
  | .ok result => return (result, measured.time)
  | .error cause => throw (.fault cause)

def Host.run {α : Type} (host : Host m) (activity : Activity α) : Attempt m α := do
  return (← host.measure activity).1

def Host.readText (host : Host m) (input : Input) : Attempt m String := do
  match ← (host.read input : m _) with
  | .error cause => throw (.file cause)
  | .ok bytes =>
    match String.fromUTF8? bytes with
    | some text => return text
    | none => throw (.file .notText)

def Host.readFormula (host : Host m) (input : Input) : Attempt m Formula := do
  host.run (Formula.decoding (← host.readText input))

/-- Reads an instance that is not given with the command. -/
def Host.readInstance (host : Host m) : InstanceSource → Attempt m SubsetSum.Instance
  | .inline problem => return problem
  | .text input => do
    host.run (SubsetSum.Instance.decoding (← host.readText input))

def Task.perform (host : Host m) : Task → Attempt m Report
  | .solveSat input strategy three => do
    let formula ← host.readFormula input
    let solving := if three then formula.solvingThree strategy else formula.solving strategy
    let (outcome, time) ← host.measure solving
    return .sat outcome time
  | .solveSubsetSum source strategy => do
    let problem ← host.readInstance source
    let (outcome, time) ← host.measure (problem.solving strategy)
    return .subsetSum problem outcome time
  | .reduce input reduction => do
    let formula ← host.readFormula input
    return .text (← host.run (reduction.applying formula))
  | .verifySat input assignment three => do
    let formula ← host.readFormula input
    let valuation ← ExceptT.mk (pure (readAssignment formula.numVariables assignment))
    return .verdict (if three then formula.verifyThree valuation else formula.verify valuation)
  | .verifySubsetSum source selection => do
    let problem ← host.readInstance source
    return .verdict (problem.verify selection)
  | .benchmark plan => do
    let records ← ExceptT.adapt (fun (cause : Benchmark.Failure) => Failure.message cause.message)
      (plan.run host.perform)
    return .records plan.contest.name records

def Host.deliver (host : Host m) (output : Option String) (report : Report) : Attempt m Unit := do
  match output with
  | none => host.print (report.render host.timed)
  | some path =>
    -- The table comes first, so that it is printed even if the file cannot be written.
    host.print (report.renderBeside host.timed)
    match ← (host.write path (report.renderFile host.timed) : m _) with
    | .ok () => return ()
    | .error cause => throw (.file cause)

/-- Executes a command; the result is its exit code. -/
def Command.execute (host : Host m) (command : Command) : Attempt m Nat := do
  let report ← command.task.perform host
  host.deliver command.output report
  return report.exitCode command.returnsCode

/-! ## Command lines -/

inductive Ending
  | refused
  | failed (failure : Failure)
  | finished (code : Nat)
deriving DecidableEq, Repr

def Ending.code : Ending → Nat
  | refused => 2
  | failed _ => 1
  | finished code => code

/-- The exit code of a program that stopped. -/
def stopCode : Nat := 101

/-- How a command that failed ends. A stop is no failure that is told of: the program is left at once. -/
def Failure.ending : Failure → Ending
  | .fault (.exhausted (.machine _)) => .finished stopCode
  | failure => .failed failure

def versionText : String := "npc 1.0\n"

/-- Runs a command line. The host may depend on how much is to be reported. -/
def runWords (hostFor : (verbosity : Nat) → Host m) (words : List String) : m Ending := do
  match Command.ofWords words with
  | .error .usage => return .refused
  | .error .version =>
    (hostFor 0).print versionText
    return .finished 0
  | .error (.message text) => return .failed (.message text)
  | .ok command =>
    match ← (command.execute (hostFor command.verbosity)).run with
    | .ok code => return .finished code
    | .error failure => return failure.ending

end

end SatSum.CommandLine
