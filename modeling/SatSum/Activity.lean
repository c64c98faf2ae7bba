import SatSum.Budget
import SatSum.Event
import SatSum.Fault

/-! # Activities

An activity is work laid out step by step: it may poll a budget with its node count, note an event,
fail, or end with a result. What the budget says is decided by whoever runs it:

* `Activity.complete` lets every poll pass;
* `Activity.run` keeps a budget and a clock, and collects the events.

`run_unlimited_result` says that both agree where the budget has no limits.
-/

namespace SatSum

inductive Activity (α : Type) : Type
  | done (result : α)
  | fail (fault : Fault)
  | note (event : Event) (next : Unit → Activity α)
  | poll (nodes : Nat) (next : Unit → Activity α)

namespace Activity

variable {α β : Type}

/-! ## Composition -/

/-- Goes on with `next` once the result is there. -/
def andThen (next : α → Activity β) : Activity α → Activity β
  | done result => next result
  | fail fault => fail fault
  | note event rest => note event fun _ => andThen next (rest ())
  | poll nodes rest => poll nodes fun _ => andThen next (rest ())

instance : Monad Activity where
  pure := done
  bind activity next := andThen next activity

/-- A result or a fault that is already known. -/
def ofExcept : Except Fault α → Activity α
  | .ok result => done result
  | .error fault => fail fault

def report (event : Event) : Activity Unit :=
  note event fun _ => done ()

/-! ## Running -/

/-- The end of the activity if nothing interrupts it. -/
def complete : Activity α → Except Fault α
  | done result => .ok result
  | fail fault => .error fault
  | note _ next => complete (next ())
  | poll _ next => complete (next ())

/-- The moment of each poll, counted over all activities that share a session. -/
abbrev Clock := Nat → Moment

/-- What activities that follow each other share: the budget, and how many polls there have been. -/
structure Session where
  budget : Budget
  polls : Nat
deriving DecidableEq, Repr

def Session.start (budget : Budget) : Session :=
  ⟨budget, 0⟩

/-- What running an activity leaves: how it ended, the session, and the events in order. -/
structure Run (α : Type) where
  result : Except Fault α
  session : Session
  events : List Event

/-- Runs an activity after the given events (latest first). It is interrupted where the budget says
    so at a poll. -/
def runFrom (clock : Clock) (session : Session) (events : List Event) : Activity α → Run α
  | done result => ⟨.ok result, session, events.reverse⟩
  | fail fault => ⟨.error fault, session, events.reverse⟩
  | note event next => runFrom clock session (event :: events) (next ())
  | poll nodes next =>
    match session.budget.check nodes (clock session.polls) with
    | (true, budget) => runFrom clock ⟨budget, session.polls + 1⟩ events (next ())
    | (false, budget) => ⟨.error (.interrupted nodes), ⟨budget, session.polls + 1⟩, events.reverse⟩

def run (clock : Clock) (session : Session) (activity : Activity α) : Run α :=
  activity.runFrom clock session []

theorem runFrom_unlimited_result (clock : Clock) (polls : Nat) (events : List Event)
    (activity : Activity α) :
    (activity.runFrom clock ⟨.unlimited, polls⟩ events).result = activity.complete := by
  induction activity generalizing polls events with
  | done => rfl
  | fail => rfl
  | note event next ih => exact ih () polls (event :: events)
  | poll nodes next ih => simpa [runFrom, complete] using ih () (polls + 1) events

theorem run_unlimited_result (clock : Clock) (activity : Activity α) :
    (activity.run clock (.start .unlimited)).result = activity.complete :=
  runFrom_unlimited_result clock 0 [] activity

end Activity

structure Outcome (α : Type) where
  answer : α
  nodes : Nat
deriving DecidableEq, Repr

end SatSum
