import SatSum.CommandLine.Disk
import SatSum.CommandLine.Execute

/-! # Command lines without an operating system

Commands run in a `Scene`: a disk, what is on standard input, what has been printed, and a clock that
is read at every poll of an activity.
-/

namespace SatSum.CommandLine

open Benchmark (Limits Measured)

/-- What a command finds and leaves. `polls` counts the readings of the clock. -/
structure Scene where
  disk : Disk
  standardInput : ByteArray
  printed : String
  polls : Nat

namespace Scene

/-- Runs an activity within limits that start now. -/
def perform (clock : Activity.Clock) {α : Type} (limits : Limits) (activity : Activity α) :
    StateM Scene (Measured α) := fun scene =>
  let run := activity.run clock ⟨limits.budget (clock scene.polls), scene.polls + 1⟩
  (⟨run.result, none⟩, { scene with polls := run.session.polls })

/-- The scene as a host that takes no times. -/
def host (clock : Activity.Clock) : Host (StateM Scene) where
  read
    | .standard => do return .ok (← get).standardInput
    | .file path => do return (← get).disk.read path
  write path text := do
    let scene ← get
    match scene.disk.write path text.toUTF8 with
    | .error cause => return .error cause
    | .ok disk =>
      set { scene with disk }
      return .ok ()
  print text := modify fun scene => { scene with printed := scene.printed ++ text }
  perform := perform clock
  timed := false

def run (clock : Activity.Clock) (words : List String) (scene : Scene) : Ending × Scene :=
  runWords (fun _ => host clock) words scene

end Scene

end SatSum.CommandLine
