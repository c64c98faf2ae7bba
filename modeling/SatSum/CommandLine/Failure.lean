import SatSum.Fault
import SatSum.Text.Quoted

/-! # Failures of a command

A command fails on a fault, on a file, or with a message. Failures are written as constructors with
their fields, texts in quotes.
-/

namespace SatSum

def Fault.written : Fault → String
  | malformed cause => "InvalidInstance(" ++ Text.quoted cause.message ++ ")"
  | unreadable line column cause =>
    s!"Parse \x7b line: {line}, column: {column}, message: " ++ Text.quoted cause.message ++ " \x7d"
  | exhausted (.space shortage) => "ResourceExhausted(" ++ Text.quoted shortage.message ++ ")"
  | exhausted (.machine stop) => stop.message
  | interrupted nodes => s!"Interrupted \x7b nodes: {nodes} \x7d"

namespace CommandLine

inductive FileFault
  | notFound
  | denied
  | notDirectory
  | isDirectory
  | nameTooLong
  | notText
  | other (message : String)
deriving DecidableEq, Repr

namespace FileFault

/-- A fault that the operating system reports, by its number, name and message. -/
def ofSystem (code : Nat) (kind message : String) : String :=
  s!"Os \x7b code: {code}, kind: {kind}, message: " ++ Text.quoted message ++ " \x7d"

def written : FileFault → String
  | notFound => ofSystem 2 "NotFound" "No such file or directory"
  | denied => ofSystem 13 "PermissionDenied" "Permission denied"
  | notDirectory => ofSystem 20 "NotADirectory" "Not a directory"
  | isDirectory => ofSystem 21 "IsADirectory" "Is a directory"
  | nameTooLong => ofSystem 36 "InvalidFilename" "File name too long"
  | notText =>
    "Error \x7b kind: InvalidData, message: " ++ Text.quoted "stream did not contain valid UTF-8"
      ++ " \x7d"
  | other message => Text.quoted message

end FileFault

inductive Failure
  | fault (cause : Fault)
  | file (cause : FileFault)
  | message (text : String)
deriving DecidableEq, Repr

def Failure.written : Failure → String
  | fault cause => cause.written
  | file cause => cause.written
  | message text => Text.quoted text

end CommandLine

end SatSum
