/-! # Arguments

How the words of a command line become a command and its options. Commands form a tree; the words up
to a command's name are read with the options of the commands above it. An option is given by its long
name after two hyphens or by its letter after one; letters may share a hyphen. A value follows in the
next word or is attached, after an equals sign or directly after the letter.
-/

namespace SatSum.CommandLine

/-! ## What may be given -/

/-- What an option takes and means. -/
inductive OptionKind
  /-- May be given any number of times. -/
  | counted
  /-- Is given or not. -/
  | switch
  /-- Asks for the version and nothing else. -/
  | version
  /-- Takes a value. The flags tell whether a value in the next word may begin with a hyphen, and
      whether a value may be empty. -/
  | value (hyphenated empty : Bool)
deriving DecidableEq, Repr

structure OptionSpec where
  name : String
  letter : Option Char
  kind : OptionKind
deriving DecidableEq, Repr

/-- A command: its options and the commands below it. A command with commands below it is not
    complete without one of them. -/
inductive CommandSpec
  | node (options : List OptionSpec) (commands : List (String × CommandSpec))

namespace CommandSpec

def options : CommandSpec → List OptionSpec
  | node options _ => options

def commands : CommandSpec → List (String × CommandSpec)
  | node _ commands => commands

def below? (command : CommandSpec) (name : String) : Option CommandSpec :=
  (command.commands.find? (·.1 == name)).map Prod.snd

def isComplete (command : CommandSpec) : Bool :=
  command.commands.isEmpty

end CommandSpec

/-! ## What is given -/

structure Given where
  name : String
  value : Option String
deriving DecidableEq, Repr

inductive Stop
  | usage
  | version
deriving DecidableEq, Repr

/-- The names of the commands in order, and the options given, those of the last command first. -/
structure Parsed where
  path : List String
  given : List Given
deriving DecidableEq, Repr

/-- The value given for an option; the one given furthest below counts. -/
def Parsed.value? (parsed : Parsed) (name : String) : Option String :=
  match parsed.given.find? (·.name == name) with
  | some given => given.value
  | none => none

def Parsed.has (parsed : Parsed) (name : String) : Bool :=
  parsed.given.any (·.name == name)

def Parsed.count (parsed : Parsed) (name : String) : Nat :=
  parsed.given.countP (·.name == name)

/-! ## Reading -/

/-- Takes an option. At one command only a counted option may be given again. -/
def give (level : List Given) (option : OptionSpec) (value : Option String) :
    Except Stop (List Given) :=
  let added : Given := ⟨option.name, value⟩
  match option.kind with
  | .version => .error .version
  | .counted => .ok (added :: level)
  | .switch => if level.any (·.name == option.name) then .error .usage else .ok (added :: level)
  | .value _ empty =>
    if level.any (·.name == option.name) || (!empty && value == some "") then .error .usage
    else .ok (added :: level)

/-- What reading a word leaves: the options given so far, and an option that waits for its value. -/
abbrev Progress := List Given × Option OptionSpec

/-- Reads an option of which a value may be attached. -/
def giveAttached (level : List Given) (option : OptionSpec) (attached : Option String) :
    Except Stop Progress :=
  match option.kind, attached with
  | .value .., none => .ok (level, some option)
  | .value .., some value => return (← give level option (some value), none)
  | _, none => return (← give level option none, none)
  | _, some _ => .error .usage

def readLong (options : List OptionSpec) (level : List Given) (word : List Char) :
    Except Stop Progress :=
  let (name, tail) := word.span (· ≠ '=')
  match options.find? (·.name == String.ofList name) with
  | none => .error .usage
  | some option =>
    giveAttached level option (match tail with
      | [] => none
      | _ :: value => some (String.ofList value))

/-- Reads letters that share a hyphen; what follows a letter that takes a value is attached to it. -/
def readLetters (options : List OptionSpec) (level : List Given) : List Char → Except Stop Progress
  | [] => .ok (level, none)
  | letter :: rest =>
    match options.find? (·.letter == some letter) with
    | none => .error .usage
    | some option =>
      match option.kind with
      | .value .. =>
        giveAttached level option (match rest with
          | [] => none
          | '=' :: value => some (String.ofList value)
          | value => some (String.ofList value))
      | _ => do
        let level ← give level option none
        readLetters options level rest

def readWord (options : List OptionSpec) (level : List Given) (word : String) :
    Except Stop Progress :=
  match word.toList with
  | '-' :: '-' :: name => readLong options level name
  | '-' :: letter :: rest => readLetters options level (letter :: rest)
  | _ => .error .usage

/-- The word may be the value of an option that waits for one. -/
def mayBeValue (option : OptionSpec) (word : String) : Bool :=
  match option.kind, word.toList with
  | .value true _, _ => true
  | _, '-' :: _ :: _ => false
  | _, _ => true

/-- Reads the words after the command at the end of `path` (backwards), with the options given at it
    and at the commands above. Two hyphens end the options; nothing may follow them. -/
def readFrom (command : CommandSpec) (path : List String) (above level : List Given) :
    List String → Except Stop Parsed
  | [] => if command.isComplete then .ok ⟨path.reverse, level ++ above⟩ else .error .usage
  | word :: rest =>
    match command.below? word with
    -- The options of the next command start afresh: each may be given once more.
    | some next => readFrom next (word :: path) (level ++ above) [] rest
    | none =>
      if word == "--" then
        if rest.isEmpty && command.isComplete then .ok ⟨path.reverse, level ++ above⟩
        else .error .usage
      else
        match readWord command.options level word with
        | .error stop => .error stop
        | .ok (level, none) => readFrom command path above level rest
        -- The option waits for its value.
        | .ok (level, some option) =>
          match rest with
          | [] => .error .usage
          | value :: rest =>
            if mayBeValue option value then
              match give level option (some value) with
              | .error stop => .error stop
              | .ok level => readFrom command path above level rest
            else .error .usage

def CommandSpec.read (command : CommandSpec) (words : List String) : Except Stop Parsed :=
  readFrom command [] [] [] words

end SatSum.CommandLine
