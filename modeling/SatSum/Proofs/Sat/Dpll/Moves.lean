import SatSum.Proofs.Sat.Dpll.Steps

/-! # Moves of the propagation search

A search binds a free literal, takes the latest binding back, or changes the queue; its steps are made of
these moves. Whatever moves lead to a state, it is the state of a path. So trail and counters agree with
the values, and taking a binding back gives what was there before it, whatever was bound and taken back
in between.

* `counted_of_moves`: what trail and counters say about the values.
* `moves_of_leads`: the steps of a search are moves.
* `restores_of_movesAbove`: a binding and its undoing.
-/

namespace SatSum.Sat.Dpll

namespace State

/-- The variable of the literal is bound so that the literal is true. -/
def isTrue (state : State) (literal : Literal) : Bool :=
  state.values[literal.var - 1]? == some (some literal.positive)

/-- Takes the latest binding back. -/
def undo (state : State) : State :=
  match state.trail with
  | [] => state
  | last :: rest => unbind ⟨last.var, state.valueOf last.var⟩ { state with trail := rest }

/-- What the search does to its state at a time. -/
inductive Move : State → State → Prop
  | bind (state : State) (literal : Literal) (origin : Origin) (isVariable : 1 ≤ literal.var)
      (free : state.isFree literal = true) : Move state (state.bind literal origin).1
  | undo (state : State) : Move state state.undo
  | queue (state : State) (queue : List Nat) : Move state { state with queue }

/-- Any moves, one after the other. -/
abbrev Moves : State → State → Prop :=
  Relation.ReflTransGen Move

/-- Moves that do not take back any of the first `depth` bindings of the trail. -/
abbrev MovesAbove (depth : Nat) : State → State → Prop :=
  Relation.ReflTransGen fun before after => Move before after ∧ depth ≤ after.trail.length

/-- Trail and counters agree with the values: a variable is on the trail once if it is bound, and not at
    all if it is free; the counters count the true and the free ones of the distinct literals of each
    clause, and the clauses without a true literal. -/
structure Counted (numVariables : Nat) (clauses : List Clause) (state : State) : Prop where
  covers : state.values.length = numVariables
  declared : ∀ binding ∈ state.trail, 1 ≤ binding.var ∧ binding.var ≤ numVariables
  boundOnce : ∀ var, 1 ≤ var → var ≤ numVariables →
    (state.trail.map Binding.var).count var = if state.isFree ⟨var, true⟩ then 0 else 1
  counters : state.counters = clauses.map fun clause =>
    ⟨clause.deduplicated, clause.deduplicated.countP state.isTrue,
      clause.deduplicated.countP state.isFree⟩
  unsatisfied : state.unsatisfied = state.counters.countP fun counter => counter.trueCount == 0

/-- What the second state knows about the bindings is what the first one does. -/
structure Restores (before after : State) : Prop where
  values : after.values = before.values
  counters : after.counters = before.counters
  unsatisfied : after.unsatisfied = before.unsatisfied
  trail : after.trail = before.trail

end State

open Point (Leads)
open State (Move Moves MovesAbove Counted Restores)

namespace Path

variable {formula : Formula} {path : Path} {step : Step} {queue : List Nat} {nodes : Nat}
  {literal : Literal} {after : State}

/-! ## Counts -/

theorem isTrue_iff (queue : List Nat) (nodes : Nat) (wellFormed : WellFormed formula.numVariables path)
    (isVariable : 1 ≤ literal.var) :
    (path.state formula queue nodes).isTrue literal = true ↔ literal ∈ path.literals := by
  rw [State.isTrue, beq_iff_eq]
  exact getElem?_values_eq_some_iff wellFormed isVariable

/-- The counters of a path count its true and its free literals. -/
theorem counter_eq (queue : List Nat) (nodes : Nat) (wellFormed : WellFormed formula.numVariables path)
    {clause : Clause} (within : clause.Within formula.numVariables) :
    path.counter clause = ⟨clause.deduplicated,
      clause.deduplicated.countP (path.state formula queue nodes).isTrue,
      clause.deduplicated.countP (path.state formula queue nodes).isFree⟩ := by
  have declared := within.deduplicated
  rw [counter, Counter.mk.injEq]
  refine ⟨rfl, List.countP_congr fun literal inClause => ?_, List.countP_congr fun literal inClause => ?_⟩
  · rw [isTrue_iff queue nodes wellFormed (declared literal inClause).1, List.contains_iff_mem]
  · rw [isFree_iff queue nodes wellFormed (declared literal inClause)]
    simp

theorem map_var_trail (path : Path) :
    (path.state formula queue nodes).trail.map Binding.var = path.vars := by
  rw [state, List.map_map]
  rfl

theorem counted (queue : List Nat) (nodes : Nat)
    (within : ∀ clause ∈ formula.clauses, clause.Within formula.numVariables)
    (wellFormed : WellFormed formula.numVariables path) :
    Counted formula.numVariables formula.clauses (path.state formula queue nodes) := by
  constructor
  case covers => exact length_values path
  case declared =>
    intro binding onTrail
    obtain ⟨step, onPath, rfl⟩ := List.mem_map.1 onTrail
    exact wellFormed.within step onPath
  case boundOnce =>
    intro var positive inRange
    have free_iff : (path.state formula queue nodes).isFree ⟨var, true⟩ = true ↔ var ∉ path.vars :=
      isFree_iff queue nodes wellFormed ⟨positive, inRange⟩
    rw [map_var_trail]
    split
    next free => exact List.count_eq_zero.2 (free_iff.1 free)
    next bound =>
      have onPath : var ∈ path.vars := not_not.1 (mt free_iff.2 bound)
      exact List.count_eq_one_of_mem wellFormed.distinct onPath
  case counters =>
    exact List.map_congr_left fun clause member => counter_eq queue nodes wellFormed (within clause member)
  case unsatisfied =>
    show _ = (formula.clauses.map path.counter).countP _
    rw [List.countP_map]
    rfl

/-! ## Moves along paths -/

theorem length_trail (path : Path) : (path.state formula queue nodes).trail.length = path.length :=
  List.length_map ..

theorem within_of_isFree (isVariable : 1 ≤ literal.var)
    (free : (path.state formula queue nodes).isFree literal = true) :
    1 ≤ literal.var ∧ literal.var ≤ formula.numVariables := by
  rw [State.isFree, beq_iff_eq] at free
  have inRange := (List.getElem?_eq_some_iff.1 free).1
  rw [state, length_values] at inRange
  exact ⟨isVariable, by omega⟩

theorem undo_cons (queue : List Nat) (nodes : Nat)
    (wellFormed : WellFormed formula.numVariables (step :: path)) :
    (state formula (step :: path) queue nodes).undo = path.state formula queue nodes := by
  have value := valueOf_state queue nodes wellFormed
  rw [← undo_state queue nodes wellFormed]
  show State.unbind ⟨step.literal.var, (state formula (step :: path) queue nodes).valueOf step.literal.var⟩ _
    = _
  rw [value]

/-- A move puts a step in front of the path, takes the latest one away, or leaves the path as it is. -/
theorem exists_of_move (wellFormed : WellFormed formula.numVariables path)
    (move : Move (path.state formula queue nodes) after) :
    ∃ (next : Path) (queueAfter : List Nat) (nodesAfter : Nat),
      after = next.state formula queueAfter nodesAfter ∧ WellFormed formula.numVariables next
        ∧ (next = path ∨ next = path.tail ∨ ∃ step, next = step :: path) := by
  cases move with
  | bind literal origin isVariable free =>
    have inRange := within_of_isFree isVariable free
    have notOnPath := (isFree_iff queue nodes wellFormed inRange).1 free
    have bound := @bind_state formula path ⟨literal, origin⟩ queue nodes notOnPath
    simp only at bound
    rw [bound]
    exact ⟨_, _, _, rfl, wellFormed.cons inRange notOnPath, Or.inr (Or.inr ⟨_, rfl⟩)⟩
  | undo =>
    cases path with
    | nil => exact ⟨[], queue, nodes, rfl, wellFormed, Or.inl rfl⟩
    | cons step path =>
      exact ⟨path, queue, nodes, undo_cons queue nodes wellFormed, wellFormed.tail, Or.inr (Or.inl rfl)⟩
  | queue queueAfter => exact ⟨path, queueAfter, nodes, rfl, wellFormed, Or.inl rfl⟩

theorem exists_of_moves (wellFormed : WellFormed formula.numVariables path)
    (moves : Moves (path.state formula queue nodes) after) :
    ∃ (last : Path) (queueAfter : List Nat) (nodesAfter : Nat),
      after = last.state formula queueAfter nodesAfter ∧ WellFormed formula.numVariables last := by
  induction moves with
  | refl => exact ⟨path, queue, nodes, rfl, wellFormed⟩
  | tail _ move inductionHypothesis =>
    obtain ⟨last, _, _, rfl, lastWellFormed⟩ := inductionHypothesis
    obtain ⟨next, queueAfter, nodesAfter, isState, nextWellFormed, _⟩ := exists_of_move lastWellFormed move
    exact ⟨next, queueAfter, nodesAfter, isState, nextWellFormed⟩

/-- As long as the steps of a path are not taken back, other steps come and go in front of it. -/
theorem exists_of_movesAbove (wellFormed : WellFormed formula.numVariables path)
    (moves : MovesAbove path.length (path.state formula queue nodes) after) :
    ∃ (newer : Path) (queueAfter : List Nat) (nodesAfter : Nat),
      after = state formula (newer ++ path) queueAfter nodesAfter
        ∧ WellFormed formula.numVariables (newer ++ path) := by
  induction moves with
  | refl => exact ⟨[], queue, nodes, rfl, wellFormed⟩
  | tail _ move inductionHypothesis =>
    obtain ⟨newer, _, _, rfl, newerWellFormed⟩ := inductionHypothesis
    obtain ⟨move, kept⟩ := move
    obtain ⟨next, queueAfter, nodesAfter, rfl, nextWellFormed, rfl | rfl | ⟨step, rfl⟩⟩ :=
      exists_of_move newerWellFormed move
    · exact ⟨newer, queueAfter, nodesAfter, rfl, nextWellFormed⟩
    · cases newer with
      | nil =>
        -- The latest step is one of the path, and may not go.
        rw [length_trail, List.nil_append, List.length_tail] at kept
        cases path with
        | nil => exact ⟨[], queueAfter, nodesAfter, rfl, wellFormed⟩
        | cons step path => simp at kept
      | cons step newer => exact ⟨newer, queueAfter, nodesAfter, rfl, nextWellFormed⟩
    · exact ⟨step :: newer, queueAfter, nodesAfter, rfl, nextWellFormed⟩

end Path

/-! ## Moves from the start -/

section Reached

variable {numVariables : Nat} {clauses : List Clause} {state after : State} {literal : Literal}
  {last : Binding} {rest : List Binding}

theorem exists_path_of_moves (reached : Moves (.ofClauses numVariables clauses) state) :
    ∃ (path : Path) (queue : List Nat) (nodes : Nat),
      state = path.state ⟨numVariables, clauses⟩ queue nodes ∧ path.WellFormed numVariables := by
  rw [← Path.state_nil ⟨numVariables, clauses⟩] at reached
  exact Path.exists_of_moves (Path.wellFormed_nil numVariables) reached

theorem counted_of_moves (within : ∀ clause ∈ clauses, clause.Within numVariables)
    (reached : Moves (.ofClauses numVariables clauses) state) : Counted numVariables clauses state := by
  obtain ⟨path, queue, nodes, rfl, wellFormed⟩ := exists_path_of_moves reached
  exact @Path.counted ⟨numVariables, clauses⟩ path queue nodes within wellFormed

theorem State.Counted.one_le_var (within : ∀ clause ∈ clauses, clause.Within numVariables)
    (counted : Counted numVariables clauses state) {counter : Counter} (member : counter ∈ state.counters)
    (inClause : literal ∈ counter.literals) : 1 ≤ literal.var := by
  rw [counted.counters] at member
  obtain ⟨clause, inClauses, rfl⟩ := List.mem_map.1 member
  exact ((within clause inClauses).deduplicated literal inClause).1

/-- A literal that is about to get its other value is a free one. -/
def Point.Ready (point : Point) : Prop :=
  match point.phase with
  | .flipping literal => 1 ≤ literal.var ∧ point.state.isFree literal = true
  | _ => True

theorem moves_propagateOnce (within : ∀ clause ∈ clauses, clause.Within numVariables)
    (reached : Moves (.ofClauses numVariables clauses) state) :
    Moves state state.propagateOnce.state ∧ state.propagateOnce.Ready := by
  unfold State.propagateOnce
  cases state.queue with
  | nil => exact ⟨.refl, trivial⟩
  | cons position rest =>
    have dequeued : Move state { state with queue := rest } := .queue state rest
    simp only
    cases atPosition : state.counters[position]? with
    | none => exact ⟨.single dequeued, trivial⟩
    | some counter =>
      by_cases unsatisfied : counter.isUnsatisfied = true
      · simp only [if_pos unsatisfied]
        cases found : counter.literals.find? (State.isFree { state with queue := rest }) with
        | none => exact ⟨.single (.queue state []), trivial⟩
        | some literal =>
          have isVariable := (counted_of_moves within reached).one_le_var within
            (List.mem_of_getElem? atPosition) (List.mem_of_find?_eq_some found)
          have bound := Move.bind { state with queue := rest } literal .forced isVariable
            (List.find?_some found)
          simp only
          split
          next => exact ⟨.head dequeued (.single bound), trivial⟩
          next => exact ⟨.head dequeued (.head bound (.single (.queue _ []))), trivial⟩
      · simp only [if_neg unsatisfied]
        exact ⟨.single dequeued, trivial⟩

theorem move_decide {var : Nat} (found : state.firstFree? = some var) :
    Move state (state.bind ⟨var, false⟩ .branching).1 := by
  obtain ⟨index, _, rfl⟩ := Option.map_eq_some_iff.1 found
  exact .bind state _ .branching (Nat.le_add_left 1 index) (State.isFree_of_firstFree? found)

theorem moves_decideOnce (state : State) :
    Moves state state.decideOnce.state ∧ state.decideOnce.Ready := by
  unfold State.decideOnce
  split
  next => exact ⟨.refl, trivial⟩
  next =>
    cases found : state.firstFree? with
    | none => exact ⟨.refl, trivial⟩
    | some var =>
      simp only
      split <;> exact ⟨.single (move_decide found), trivial⟩

/-- A binding is taken back with the queue emptied. -/
theorem moves_unbind (pending : state.trail = last :: rest) :
    Moves state (State.unbind ⟨last.var, state.valueOf last.var⟩ { state.clearQueue with trail := rest }) := by
  have sameTrail : state.clearQueue.trail = last :: rest := pending
  have undone : state.clearQueue.undo
      = State.unbind ⟨last.var, state.valueOf last.var⟩ { state.clearQueue with trail := rest } := by
    rw [State.undo, sameTrail]
    rfl
  rw [← undone]
  exact .head (.queue state []) (.single (.undo state.clearQueue))

theorem State.isFree_unbind (literal : Literal) (positive : Bool)
    (inRange : literal.var - 1 < state.values.length) :
    (state.unbind literal).isFree ⟨literal.var, positive⟩ = true := by
  show ((state.values.set (literal.var - 1) none)[literal.var - 1]? == some none) = true
  rw [List.getElem?_set_self inRange]
  rfl

/-- Where a decision is taken back its variable is free again, so it can get the other value. -/
theorem moves_retreatOnce (counted : Counted numVariables clauses state) :
    Moves state state.retreatOnce.state ∧ state.retreatOnce.Ready := by
  cases pending : state.trail with
  | nil =>
    rw [State.retreatOnce, pending]
    exact ⟨.single (.queue state []), trivial⟩
  | cons last rest =>
    rw [State.retreatOnce_eq pending]
    refine ⟨moves_unbind pending, ?_⟩
    by_cases branching : last.origin = .branching
    · have declared := counted.declared last (pending ▸ List.mem_cons_self)
      have inRange : last.var - 1 < state.values.length := by
        rw [counted.covers]
        omega
      rw [if_pos branching]
      exact ⟨declared.1, State.isFree_unbind _ _ inRange⟩
    · rw [if_neg branching]
      trivial

theorem moves_next (within : ∀ clause ∈ clauses, clause.Within numVariables) {before after : Point}
    (reached : Moves (.ofClauses numVariables clauses) before.state) (ready : before.Ready)
    (step : before.next? = some after) : Moves before.state after.state ∧ after.Ready := by
  obtain ⟨phase, state⟩ := before
  cases phase with
  | propagating =>
    cases step
    exact moves_propagateOnce within reached
  | deciding =>
    cases step
    exact moves_decideOnce state
  | retreating =>
    cases step
    exact moves_retreatOnce (counted_of_moves within reached)
  | flipping literal =>
    cases step
    obtain ⟨isVariable, free⟩ := ready
    refine ⟨.single (.bind state literal .flipped isVariable free), ?_⟩
    unfold State.flipOnce
    simp only
    split <;> trivial
  | ended => cases step

/-- The steps of a search are moves. -/
theorem moves_of_leads (within : ∀ clause ∈ clauses, clause.Within numVariables) {before after : Point}
    (reached : Moves (.ofClauses numVariables clauses) before.state) (ready : before.Ready)
    (leads : Leads before after) : Moves before.state after.state := by
  have moves : Moves before.state after.state ∧ after.Ready := by
    induction leads with
    | refl => exact ⟨.refl, ready⟩
    | tail _ step inductionHypothesis =>
      obtain ⟨earlier, readyBetween⟩ := inductionHypothesis
      obtain ⟨later, readyAfter⟩ := moves_next within (reached.trans earlier) readyBetween step
      exact ⟨earlier.trans later, readyAfter⟩
  exact moves.1

/-- A binding is taken back completely, whatever comes and goes after it, and whether or not it made a
    clause false. -/
theorem restores_of_movesAbove (reached : Moves (.ofClauses numVariables clauses) state)
    (isVariable : 1 ≤ literal.var) (free : state.isFree literal = true) (origin : Origin)
    (between : MovesAbove (state.trail.length + 1) (state.bind literal origin).1 after)
    (sameDepth : after.trail.length = state.trail.length + 1) : Restores state after.undo := by
  obtain ⟨path, queue, nodes, rfl, wellFormed⟩ := exists_path_of_moves reached
  have inRange := Path.within_of_isFree isVariable free
  have notOnPath := (Path.isFree_iff queue nodes wellFormed inRange).1 free
  have bound := @Path.bind_state ⟨numVariables, clauses⟩ path ⟨literal, origin⟩ queue nodes notOnPath
  simp only at bound
  rw [bound, Path.length_trail] at between
  rw [Path.length_trail] at sameDepth
  have longer : Path.WellFormed numVariables (⟨literal, origin⟩ :: path) := wellFormed.cons inRange notOnPath
  obtain ⟨newer, queueAfter, nodesAfter, rfl, newerWellFormed⟩ :=
    @Path.exists_of_movesAbove ⟨numVariables, clauses⟩ _ _ _ _ longer between
  -- At the same depth nothing is in front of the binding.
  rw [Path.length_trail, List.length_append, List.length_cons] at sameDepth
  obtain rfl : newer = [] := List.length_eq_zero_iff.1 (by omega)
  rw [List.nil_append] at newerWellFormed ⊢
  rw [Path.undo_cons queueAfter nodesAfter newerWellFormed]
  exact ⟨rfl, rfl, rfl, rfl⟩

end Reached

end SatSum.Sat.Dpll
