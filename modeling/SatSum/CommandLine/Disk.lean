import SatSum.CommandLine.Failure

/-! # Disks

A disk holds folders, files and sinks, each at a location. A path is followed name by name: a single
point stays in the folder, two points go to the folder around it, and every name but the last has to
lead to a folder.

* `Disk.read` takes the content that a path leads to;
* `Disk.write` puts a content where a path leads, in a new file or in place of an old one.
-/

namespace SatSum.CommandLine

/-! ## Places -/

/-- The names on the way to a place, the last one first. The root has none. -/
abbrev Location := List String

/-- Folders, files with their contents, and sinks, which are always empty. Relative paths start at the
    working folder. -/
structure Disk where
  folders : List Location
  files : List (Location × ByteArray)
  sinks : List Location
  working : Location

inductive Entry
  | folder
  | file (content : ByteArray)
  | sink
  | absent

def maxNameBytes : Nat := 255

def maxPathBytes : Nat := 4095

namespace Disk

def content? (disk : Disk) (location : Location) : Option ByteArray :=
  (disk.files.find? (·.1 == location)).map Prod.snd

/-- What is at a location; the root is a folder. -/
def entry (disk : Disk) (location : Location) : Entry :=
  if location.isEmpty || disk.folders.contains location then .folder
  else if disk.sinks.contains location then .sink
  else
    match disk.content? location with
    | some content => .file content
    | none => .absent

/-- What is at the location of a name that is not too long. -/
def named (disk : Disk) (name : String) (location : Location) : Except FileFault Entry :=
  if maxNameBytes < name.utf8ByteSize then .error .nameTooLong else .ok (disk.entry location)

/-! ## Following paths -/

def isStep (name : String) : Bool :=
  name == "." || name == ".."

/-- Where a name leads from a folder. The root is around itself. -/
def towards (folder : Location) (name : String) : Location :=
  if name = "." then folder
  else if name = ".." then folder.tail
  else name :: folder

/-- Goes from a folder along names that all have to lead to folders. -/
def enter (disk : Disk) (folder : Location) : List String → Except FileFault Location
  | [] => .ok folder
  | name :: rest => do
    let next := towards folder name
    match ← disk.named name next with
    | .folder => disk.enter next rest
    | .absent => .error .notFound
    | _ => .error .notDirectory

/-- What a path asks for: a folder by the way it is written, or the entry of a name in a folder,
    perhaps with a slash after it. -/
inductive Target
  | folder
  | entry (folder : Location) (name : String) (slashed : Bool)

def follow (disk : Disk) (path : String) : Except FileFault Target :=
  if maxPathBytes < path.utf8ByteSize then .error .nameTooLong
  else
    let start := if path.startsWith "/" then [] else disk.working
    let names := (path.splitOn "/").filter (!·.isEmpty)
    match names.getLast? with
    | none => if path.isEmpty then .error .notFound else .ok .folder
    | some last => do
      let folder ← disk.enter start names.dropLast
      return if isStep last then .folder else .entry folder last (path.endsWith "/")

/-! ## Reading and writing -/

/-- Reads what a path leads to. A slash at its end asks for a folder, which has no content. -/
def read (disk : Disk) (path : String) : Except FileFault ByteArray := do
  match ← disk.follow path with
  | .folder => .error .isDirectory
  | .entry folder name slashed =>
    match ← disk.named name (name :: folder) with
    | .folder => .error .isDirectory
    | .absent => .error .notFound
    | .file content => if slashed then .error .notDirectory else .ok content
    | .sink => if slashed then .error .notDirectory else .ok .empty

/-- Writes where a path leads. A slash at its end is refused whether there is something or not. -/
def write (disk : Disk) (path : String) (content : ByteArray) : Except FileFault Disk := do
  match ← disk.follow path with
  | .folder => .error .isDirectory
  | .entry _ _ true => .error .isDirectory
  | .entry folder name false =>
    let location := name :: folder
    match ← disk.named name location with
    | .folder => .error .isDirectory
    | .sink => .ok disk
    | _ =>
      .ok { disk with files := (location, content) :: disk.files.filter (·.1 != location) }

end Disk

end SatSum.CommandLine
