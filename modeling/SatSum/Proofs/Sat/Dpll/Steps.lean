import SatSum.Proofs.Sat.Dpll.Pace
import SatSum.Proofs.Sat.Dpll.Rounds
import Mathlib.Logic.Relation

/-! # The propagation search, a step at a time

A step takes a clause off the queue, makes a decision, takes a binding back, or tries the second value of
a decision. Between two steps the search is at a `Point`, so what it does just before a binding can be
told. Propagation, backtracking and rounds are made of such steps, and a whole search polls and ends at
the points that the steps lead to.

* `leads_propagate`, `leads_backtrack`: the phases of a round.
* `rounds_plays`: a round.
* `follows_dpll`: a whole search.
-/

namespace SatSum.Sat.Dpll

/-- What the search does next. -/
inductive Phase
  | propagating
  | deciding
  | retreating
  /-- The literal becomes true as the second value of the decision just taken back. -/
  | flipping (literal : Literal)
  | ended (answer : Answer)
deriving DecidableEq, Repr

/-- Where the search is between two steps. -/
structure Point where
  phase : Phase
  state : State
deriving DecidableEq, Repr

namespace State

/-- Takes a clause off the queue, or finds none. -/
def propagateOnce (state : State) : Point :=
  match state.queue with
  | [] => ⟨.deciding, state⟩
  | position :: rest =>
    let waiting := { state with queue := rest }
    match state.counters[position]? with
    | none => ⟨.propagating, waiting⟩
    | some counter =>
      if counter.isUnsatisfied then
        match counter.literals.find? waiting.isFree with
        | none => ⟨.retreating, waiting.clearQueue⟩
        | some literal =>
          let next := waiting.bind literal .forced
          if next.2 then ⟨.propagating, next.1⟩ else ⟨.retreating, next.1.clearQueue⟩
      else ⟨.propagating, waiting⟩

/-- Ends the search, or binds the first free variable. -/
def decideOnce (state : State) : Point :=
  if state.unsatisfied = 0 then ⟨.ended (.satisfiable state.valuation), state⟩
  else
    match state.firstFree? with
    | none => ⟨.ended (.satisfiable state.valuation), state⟩
    | some var =>
      let next := state.bind ⟨var, false⟩ .branching
      ⟨if next.2 then .propagating else .retreating, next.1⟩

/-- Takes the latest binding back, or finds none. -/
def retreatOnce (state : State) : Point :=
  match state.trail with
  | [] => ⟨.ended .unsatisfiable, state.clearQueue⟩
  | last :: rest =>
    let value := state.valueOf last.var
    ⟨if last.origin = .branching then .flipping ⟨last.var, !value⟩ else .retreating,
      { state.clearQueue with trail := rest }.unbind ⟨last.var, value⟩⟩

/-- Binds the second value of a decision. -/
def flipOnce (literal : Literal) (state : State) : Point :=
  let next := state.bind literal .flipped
  ⟨if next.2 then .propagating else .retreating, next.1⟩

end State

namespace Point

/-- A step; none once the search has ended. -/
def next? (point : Point) : Option Point :=
  match point.phase with
  | .propagating => some point.state.propagateOnce
  | .deciding => some point.state.decideOnce
  | .retreating => some point.state.retreatOnce
  | .flipping literal => some (point.state.flipOnce literal)
  | .ended _ => none

/-- Any steps, one after the other. -/
abbrev Leads : Point → Point → Prop :=
  Relation.ReflTransGen fun before after => before.next? = some after

/-- The activity polls and ends at points that the steps lead to, with the nodes that are there. -/
inductive Follows : Point → Activity (Outcome Answer) → Prop
  | done {point : Point} (answer : Answer) (last : State) (leads : point.Leads ⟨.ended answer, last⟩) :
      Follows point (.done ⟨answer, last.nodes⟩)
  | poll {point : Point} {rest : Activity (Outcome Answer)} (state : State)
      (leads : point.Leads ⟨.propagating, state⟩) (later : Follows ⟨.propagating, state⟩ rest) :
      Follows point (.poll state.nodes fun _ => rest)
  | note {point : Point} {rest : Activity (Outcome Answer)} (event : Event) (later : Follows point rest) :
      Follows point (.note event fun _ => rest)

theorem Follows.head {point between : Point} {activity : Activity (Outcome Answer)}
    (leads : point.Leads between) (follows : between.Follows activity) : point.Follows activity := by
  induction follows with
  | done answer last later => exact .done answer last (leads.trans later)
  | poll state later rest => exact .poll state (leads.trans later) rest
  | note event _ inductionHypothesis => exact .note event (inductionHypothesis leads)

end Point

open Point (Leads Follows)

/-! ## Propagation and backtracking -/

section Phases

variable {state : State}

/-- Where propagation ends. -/
theorem leads_propagate (state : State) :
    Leads ⟨.propagating, state⟩
      ⟨if state.propagate.2 then .deciding else .retreating, state.propagate.1⟩ := by
  fun_induction State.propagate state with
  | case1 state pending =>
    refine .single ?_
    simp [Point.next?, State.propagateOnce, pending]
  | case2 state position rest pending waiting missing later =>
    refine .head ?_ later
    simp [Point.next?, State.propagateOnce, pending, missing, waiting]
  | case3 state position rest pending waiting counter atPosition unsatisfied noneFree =>
    refine .single ?_
    simp [Point.next?, State.propagateOnce, pending, atPosition, unsatisfied, noneFree, waiting]
  | case4 state position rest pending waiting counter atPosition unsatisfied literal found next consistent
      later =>
    refine .head ?_ later
    simp [Point.next?, State.propagateOnce, pending, atPosition, unsatisfied, found, consistent, waiting, next]
  | case5 state position rest pending waiting counter atPosition unsatisfied literal found next conflict =>
    refine .single ?_
    simp [Point.next?, State.propagateOnce, pending, atPosition, unsatisfied, found, conflict, waiting, next]
  | case6 state position rest pending waiting counter atPosition satisfied later =>
    refine .head ?_ later
    simp [Point.next?, State.propagateOnce, pending, atPosition, satisfied, waiting]

theorem State.retreatOnce_eq {last : Binding} {rest : List Binding} (pending : state.trail = last :: rest) :
    state.retreatOnce
      = ⟨if last.origin = .branching then .flipping ⟨last.var, !state.valueOf last.var⟩ else .retreating,
          unbind ⟨last.var, state.valueOf last.var⟩ { state.clearQueue with trail := rest }⟩ := by
  rw [retreatOnce, pending]

/-- Where backtracking ends. -/
theorem leads_backtrack (state : State) :
    Leads ⟨.retreating, state⟩
      ⟨if state.backtrack.resumed then .propagating else .ended .unsatisfiable, state.backtrack.state⟩ := by
  fun_induction State.backtrack state with
  | case1 state pending =>
    refine .single ?_
    simp [Point.next?, State.retreatOnce, pending]
  | case2 state last rest pending value undone branching next flip consistent =>
    have undoing : (Point.mk .retreating state).next? = some ⟨.flipping ⟨last.var, !value⟩, undone⟩ := by
      rw [Point.next?, State.retreatOnce_eq pending, if_pos branching]
    have flipping : (Point.mk (.flipping ⟨last.var, !value⟩) undone).next? = some ⟨.propagating, next.1⟩ := by
      simp [Point.next?, State.flipOnce, consistent, next]
    exact .head undoing (.single flipping)
  | case3 state last rest pending value undone branching next flip conflict retreat later =>
    have undoing : (Point.mk .retreating state).next? = some ⟨.flipping ⟨last.var, !value⟩, undone⟩ := by
      rw [Point.next?, State.retreatOnce_eq pending, if_pos branching]
    have flipping : (Point.mk (.flipping ⟨last.var, !value⟩) undone).next? = some ⟨.retreating, next.1⟩ := by
      simp [Point.next?, State.flipOnce, conflict, next]
    exact .head undoing (.head flipping later)
  | case4 state last rest pending value undone decided later =>
    have undoing : (Point.mk .retreating state).next? = some ⟨.retreating, undone⟩ := by
      rw [Point.next?, State.retreatOnce_eq pending, if_neg decided]
    exact .head undoing later

/-- Backtracking goes on with a binding. -/
theorem nodes_le_backtrack (state : State) :
    state.nodes + (if state.backtrack.resumed then 1 else 0) ≤ state.backtrack.state.nodes := by
  fun_induction State.backtrack state with
  | case1 => exact Nat.le_refl _
  | case2 => exact Nat.le_refl _
  | case3 state last rest pending value undone branching next flip conflict retreat later =>
    exact Nat.le_trans (Nat.add_le_add_right (Nat.le_succ state.nodes) _) later
  | case4 state last rest pending value undone decided later => exact later

end Phases

/-! ## Rounds -/

/-- What a round does from a state, for every limit on the rounds after it: it ends at a point that the
    steps lead to, or goes on from one with more nodes. -/
inductive State.Plays (state : State) : (Nat → Activity (Outcome Answer)) → Prop
  | ends (answer : Answer) (last : State) (leads : Leads ⟨.propagating, state⟩ ⟨.ended answer, last⟩) :
      Plays state fun _ => .done ⟨answer, last.nodes⟩
  | goesOn (next : State) (leads : Leads ⟨.propagating, state⟩ ⟨.propagating, next⟩)
      (progress : state.nodes < next.nodes) : Plays state fun limit => rounds limit next
  | note {rest : Nat → Activity (Outcome Answer)} (event : Event) (plays : Plays state rest) :
      Plays state fun limit => .note event fun _ => rest limit

variable {state conflict : State}

theorem plays_retreat (leads : Leads ⟨.propagating, state⟩ ⟨.retreating, conflict⟩)
    (notLess : state.nodes ≤ conflict.nodes) :
    state.Plays fun limit => retreat conflict (rounds limit) := by
  have backtracking := leads.trans (leads_backtrack conflict)
  have more := nodes_le_backtrack conflict
  unfold retreat
  generalize conflict.backtrack = back at backtracking more
  obtain ⟨after, resumed, flips⟩ := back
  simp only at backtracking more ⊢
  -- The flips are noted before the search goes on or ends.
  induction flips with
  | nil =>
    cases resumed with
    | true =>
      rw [if_pos rfl] at more
      exact .goesOn after backtracking (by omega)
    | false => exact .ends .unsatisfiable after backtracking
  | cons flip flips inductionHypothesis => exact .note _ (inductionHypothesis backtracking more)

/-- A round polls and goes along the steps. -/
theorem rounds_plays (state : State) :
    ∃ turn, (∀ limit, rounds (limit + 1) state = .poll state.nodes fun _ => turn limit)
      ∧ state.Plays turn := by
  refine ⟨_, fun limit => rfl, ?_⟩
  have propagation := leads_propagate state
  have notLess := state.spends_propagate.atLeast
  generalize state.propagate = propagated at propagation notLess
  obtain ⟨saturated, flag⟩ := propagated
  cases flag with
  | false => exact plays_retreat propagation notLess
  | true =>
    have deciding : Leads ⟨.propagating, state⟩ saturated.decideOnce := propagation.tail rfl
    unfold State.decideOnce at deciding
    simp only
    split
    next noneUnsatisfied =>
      rw [if_pos noneUnsatisfied] at deciding
      exact .ends _ saturated deciding
    next someUnsatisfied =>
      rw [if_neg someUnsatisfied] at deciding
      cases found : saturated.firstFree? with
      | none =>
        rw [found] at deciding
        exact .ends _ saturated deciding
      | some var =>
        rw [found] at deciding
        have oneMore : (saturated.bind ⟨var, false⟩ .branching).1.nodes = saturated.nodes + 1 := rfl
        simp only at deciding ⊢
        generalize saturated.bind ⟨var, false⟩ .branching = bound at deciding oneMore
        obtain ⟨next, consistent⟩ := bound
        simp only at notLess oneMore
        cases consistent with
        | true => exact .goesOn next deciding (by omega)
        | false => exact plays_retreat deciding (by omega)

/-! ## Runs -/

/-- If the run ends before the limit is used up, all of it goes along the steps. -/
theorem follows_rounds (limit : Nat) (state : State) (outcome : Outcome Answer)
    (ended : (rounds limit state).complete = .ok outcome) (early : outcome.nodes < state.nodes + limit) :
    Follows ⟨.propagating, state⟩ (rounds limit state) := by
  induction limit generalizing state with
  | zero =>
    cases ended
    exact absurd early (Nat.lt_irrefl _)
  | succ limit inductionHypothesis =>
    obtain ⟨turn, unfolds, plays⟩ := rounds_plays state
    rw [unfolds] at ended ⊢
    refine .poll state .refl ?_
    replace ended : (turn limit).complete = .ok outcome := ended
    clear unfolds
    induction plays with
    | ends answer last leads => exact .done answer last leads
    | goesOn next leads progress => exact (inductionHypothesis next ended (by omega)).head leads
    | note event plays later => exact .note event (later ended)

/-- A search goes along the steps from the state with the first units queued. -/
theorem follows_dpll {numVariables : Nat} {clauses : List Clause}
    (within : ∀ clause ∈ clauses, clause.Within numVariables)
    (started : (State.ofClauses numVariables clauses).queueUnits? = some state) :
    Follows ⟨.propagating, state⟩ (dpll numVariables clauses) := by
  obtain ⟨answer, bindings, ended, _, few, _⟩ := dpll_spec ⟨numVariables, clauses⟩ within
  have unfolds : dpll numVariables clauses = rounds (2 ^ (numVariables + 1)) state := by
    rw [dpll, started, Nat.one_shiftLeft]
  rw [unfolds]
  simp only [unfolds] at ended
  refine follows_rounds _ state _ ended ?_
  have fewer : Path.ahead numVariables [] < 2 ^ (numVariables + 1) := Path.ahead_nil_lt
  show 0 + bindings < state.nodes + 2 ^ (numVariables + 1)
  simp only at few
  omega

end SatSum.Sat.Dpll
