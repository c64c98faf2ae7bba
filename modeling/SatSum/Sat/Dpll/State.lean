import SatSum.Clause
import SatSum.Sat.Answer

/-! # The state of unit propagation

Variables are free or bound. For each clause two counters are kept, of its true and of its free
literals, so that a binding shows at once which clauses became unit and whether one became false. The
trail lists the bindings, latest first, so that they can be undone.

* `State.bind` and `State.unbind` change one variable and all counters;
* `State.propagate` binds the free literals of unit clauses until none is left;
* `State.backtrack` undoes the trail up to the latest decision whose second value is untried.
-/

namespace SatSum.Sat.Dpll

/-! ## Counters -/

/-- A clause without repeated literals, and how many of its literals are true and free. -/
structure Counter where
  literals : List Literal
  trueCount : Nat
  freeCount : Nat
deriving DecidableEq, Repr

namespace Counter

def ofClause (clause : Clause) : Counter :=
  let literals := clause.deduplicated
  ⟨literals, 0, literals.length⟩

/-- The literal becomes true and its negation false. -/
def bind (literal : Literal) (counter : Counter) : Counter :=
  let gained := if counter.literals.contains literal then 1 else 0
  let lost := if counter.literals.contains literal.negate then 1 else 0
  { counter with
    trueCount := counter.trueCount + gained
    freeCount := counter.freeCount - gained - lost }

def unbind (literal : Literal) (counter : Counter) : Counter :=
  let gained := if counter.literals.contains literal then 1 else 0
  let lost := if counter.literals.contains literal.negate then 1 else 0
  { counter with
    trueCount := counter.trueCount - gained
    freeCount := counter.freeCount + gained + lost }

def isUnsatisfied (counter : Counter) : Bool :=
  counter.trueCount == 0

end Counter

/-! ## States -/

/-- How a variable got its value: implied by a unit clause, as the first value of a decision, or as
    the second. -/
inductive Origin
  | forced
  | branching
  | flipped
deriving DecidableEq, Repr

structure Binding where
  var : Nat
  origin : Origin
deriving DecidableEq, Repr

/-- The state of the search. `values` has a place for each variable in order; `queue` holds positions
    of clauses that became unit, `unsatisfied` is the number of clauses without a true literal. -/
structure State where
  values : List (Option Bool)
  counters : List Counter
  trail : List Binding
  queue : List Nat
  unsatisfied : Nat
  nodes : Nat
deriving DecidableEq, Repr

namespace State

def ofClauses (numVariables : Nat) (clauses : List Clause) : State where
  values := List.replicate numVariables none
  counters := clauses.map Counter.ofClause
  trail := []
  queue := []
  unsatisfied := clauses.length
  nodes := 0

def isFree (state : State) (literal : Literal) : Bool :=
  state.values[literal.var - 1]? == some none

/-- The variables bound so far, every other one taken as false. -/
def valuation (state : State) : Valuation :=
  state.values.map (·.getD false)

def firstFree? (state : State) : Option Nat :=
  (state.values.findIdx? Option.isNone).map (· + 1)

/-- Queues the clauses that have one literal; none if a clause has no literal at all. -/
def queueUnits? (state : State) : Option State :=
  if state.counters.any (·.freeCount == 0) then none
  else some { state with
    queue := (state.counters.zipIdx.filter (·.1.freeCount == 1)).map Prod.snd }

/-! ## Binding -/

/-- The clauses with their positions that lost a literal and have no true one. -/
def weakened (literal : Literal) (counters : List Counter) : List (Counter × Nat) :=
  counters.zipIdx.filter fun entry =>
    entry.1.literals.contains literal.negate && entry.1.isUnsatisfied

/-- Makes a literal true. The flag tells whether every clause still has a true or a free literal; all
    counters are up to date either way, so that the binding can be undone. -/
def bind (literal : Literal) (origin : Origin) (state : State) : State × Bool :=
  let counters := state.counters.map (Counter.bind literal)
  -- Positions refer to the clauses before and after, which are the same up to their counts.
  let weak := weakened literal counters
  let satisfied := state.counters.countP fun counter =>
    counter.literals.contains literal && counter.isUnsatisfied
  let units := (weak.filter (·.1.freeCount == 1)).map Prod.snd
  ({ values := state.values.set (literal.var - 1) (some literal.positive)
     counters
     trail := ⟨literal.var, origin⟩ :: state.trail
     queue := state.queue ++ units
     unsatisfied := state.unsatisfied - satisfied
     nodes := state.nodes + 1 },
   weak.all (·.1.freeCount != 0))

/-- Frees the variable of a literal that is true. -/
def unbind (literal : Literal) (state : State) : State :=
  let counters := state.counters.map (Counter.unbind literal)
  let reopened := counters.countP fun counter =>
    counter.literals.contains literal && counter.isUnsatisfied
  { state with
    values := state.values.set (literal.var - 1) none
    counters
    unsatisfied := state.unsatisfied + reopened }

def freeVariables (state : State) : Nat :=
  state.values.count none

theorem freeVariables_bind_lt {state : State} {literal : Literal} (free : state.isFree literal = true)
    (origin : Origin) : (state.bind literal origin).1.freeVariables < state.freeVariables := by
  have entry : state.values[literal.var - 1]? = some none := by simpa [isFree] using free
  obtain ⟨bound, value⟩ := List.getElem?_eq_some_iff.1 entry
  have some_free : 0 < state.values.count none :=
    List.count_pos_iff.2 (value ▸ List.getElem_mem bound)
  show (state.values.set (literal.var - 1) (some literal.positive)).count none
    < state.values.count none
  rw [List.count_set bound, value, if_pos (beq_self_eq_true none),
    if_neg (by simp)]
  exact Nat.sub_lt some_free Nat.one_pos

/-! ## Propagation -/

def clearQueue (state : State) : State :=
  { state with queue := [] }

/-- Takes clauses off the queue, each time binding the free literal of one without a true literal. The
    flag is off if a clause became false. -/
def propagate (state : State) : State × Bool :=
  match _pending : state.queue with
  | [] => (state, true)
  | position :: rest =>
    let waiting := { state with queue := rest }
    match state.counters[position]? with
    | none => propagate waiting
    | some counter =>
      -- A clause may have got a true literal while it waited.
      if counter.isUnsatisfied then
        match _found : counter.literals.find? waiting.isFree with
        | none => (waiting.clearQueue, false)
        | some literal =>
          let next := waiting.bind literal .forced
          if next.2 then propagate next.1 else (next.1.clearQueue, false)
      else propagate waiting
termination_by (state.freeVariables, state.queue.length)
decreasing_by
  · exact Prod.Lex.right _ (by simp [_pending])
  · exact Prod.Lex.left _ _ (freeVariables_bind_lt (List.find?_some _found) .forced)
  · exact Prod.Lex.right _ (by simp [_pending])

/-! ## Backtracking -/

/-- What backtracking leaves: the state, whether a decision was flipped so that the search goes on,
    and the variables flipped with the depth of the trail below them, in order. -/
structure Retreat where
  state : State
  resumed : Bool
  flips : List (Nat × Nat)

/-- The value of a bound variable. -/
def valueOf (state : State) (var : Nat) : Bool :=
  (state.values[var - 1]?.getD none).getD false

/-- The decisions on the trail whose second value is untried. -/
def openDecisions (state : State) : Nat :=
  state.trail.countP (·.origin == .branching)

/-- Undoes bindings up to the latest decision whose second value is untried, and binds that. -/
def backtrack (state : State) : Retreat :=
  match _pending : state.trail with
  | [] => ⟨state.clearQueue, false, []⟩
  | last :: rest =>
    let value := state.valueOf last.var
    let undone := { state.clearQueue with trail := rest }.unbind ⟨last.var, value⟩
    if _branching : last.origin = .branching then
      -- The first value is used up; the second may be in conflict at once.
      let next := undone.bind ⟨last.var, !value⟩ .flipped
      let flip := (last.var, rest.length)
      if next.2 then ⟨next.1, true, [flip]⟩
      else
        let retreat := backtrack next.1
        { retreat with flips := flip :: retreat.flips }
    -- The second value of a decision, or a value without a choice.
    else backtrack undone
termination_by (state.openDecisions, state.trail.length)
decreasing_by
  · refine Prod.Lex.left _ _ ?_
    simp [openDecisions, bind, unbind, clearQueue, _pending, _branching]
  · have same : (undone.openDecisions) = state.openDecisions := by
      simp [undone, openDecisions, unbind, clearQueue, _pending, _branching]
    rw [same]
    exact Prod.Lex.right _ (by simp [unbind, clearQueue, _pending])

end State

end SatSum.Sat.Dpll
