import SatSum.CommandLine.Execute

/-! # The program

The command line on the real file system, standard streams and clock. Events and failures go to
standard error.
-/

open SatSum SatSum.CommandLine

namespace SatSum.CommandLine

/-- The code of an error stands for the given number; some operations report it negated. -/
def isNumber (number code : UInt32) : Bool :=
  code == number || code == 0 - number

def FileFault.ofError : IO.Error → FileFault
  | .noFileOrDirectory .. => .notFound
  | .permissionDenied .. => .denied
  | .inappropriateType _ code _ => if isNumber 20 code then .notDirectory else .isDirectory
  | error@(.invalidArgument _ code _) =>
    if isNumber 36 code then .nameTooLong else .other (toString error)
  | error => .other (toString error)

def attempt {α : Type} (action : IO α) : IO (Except FileFault α) := do
  match ← action.toBaseIO with
  | .ok result => return .ok result
  | .error error => return .error (.ofError error)

def readInput : Input → IO (Except FileFault ByteArray)
  | .file path => attempt (IO.FS.readBinFile path)
  | .standard => attempt do
    IO.eprintln "No input file specified. Reading from standard input..."
    (← IO.getStdin).readBinToEnd

/-- Runs an activity under a budget. The clock is read only when that is due. -/
def drive {α : Type} (verbosity : Nat) (budget : Budget) : Activity α → IO (Except Fault α)
  | .done result => return .ok result
  | .fail fault => return .error fault
  | .note event next => do
    if event.level.verbosity ≤ verbosity then
      IO.eprintln event.line
    drive verbosity budget (next ())
  | .poll nodes next => do
    let now ← if budget.isDue nodes then IO.monoNanosNow else pure 0
    match budget.check nodes now with
    | (true, budget) => drive verbosity budget (next ())
    | (false, _) => return .error (.interrupted nodes)

/-- The operating system as a host. -/
def systemHost (verbosity : Nat) : Host IO where
  read := readInput
  write path text := attempt (IO.FS.writeFile path text)
  print text := IO.print text
  perform limits activity := do
    let start ← IO.monoNanosNow
    let result ← drive verbosity (limits.budget start) activity
    let finish ← IO.monoNanosNow
    return ⟨result, some (finish - start)⟩
  timed := true

end SatSum.CommandLine

def main (words : List String) : IO UInt32 := do
  let ending ← runWords systemHost words
  match ending with
  | .refused => IO.eprintln "error: the arguments are not understood"
  | .failed failure => IO.eprintln s!"Error: {failure.written}"
  | .finished _ => pure ()
  return UInt32.ofNat ending.code
