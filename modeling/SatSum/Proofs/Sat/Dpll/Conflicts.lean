import SatSum.Proofs.Sat.Dpll.Moves
import SatSum.Proofs.Sat.Dpll.Steps

/-! # Conflicts come from propagation

The queue is emptied whenever a binding is taken back. No unit is lost by that: before a decision the
path was saturated, so once the search is back there every clause without a true literal has two free
literals again, and neither value of the decision makes one false. A clause on the queue always has a
true or a free literal, because the search goes back as soon as a clause is false.

* `Point.Invariant`: what the path is at each point.
* `Point.Invariant.next`: a step keeps it.
* `decisions_meet_no_conflict`: what holds at every point of a search.
-/

namespace SatSum.Sat.Dpll

/-- Every clause without a true literal has two free ones at least. -/
def State.LacksUnits (clauses : List Clause) (state : State) : Prop :=
  ∀ clause ∈ clauses, (∀ literal ∈ clause, state.isTrue literal = false) →
    2 ≤ clause.deduplicated.countP state.isFree

namespace Point

/-- A queued clause has a true or a free literal; a decision is possible where it is needed; and neither
    of its values is bound where a clause is a unit, or makes one false. -/
def Safe (clauses : List Clause) (point : Point) : Prop :=
  match point.phase with
  | .propagating => ∀ position ∈ point.state.queue, ∃ counter,
      point.state.counters[position]? = some counter
        ∧ (counter.isUnsatisfied = true → counter.literals.find? point.state.isFree ≠ none)
  | .deciding => 0 < point.state.unsatisfied → point.state.LacksUnits clauses
      ∧ ∃ var, point.state.firstFree? = some var
        ∧ (point.state.bind ⟨var, false⟩ .branching).2 = true
  | .flipping literal => point.state.LacksUnits clauses ∧ (point.state.bind literal .flipped).2 = true
  | .retreating | .ended _ => True

/-- Where the search is on its path. -/
inductive Invariant (formula : Formula) : Point → Prop
  | propagating (path : Path) (queue : List Nat) (nodes : Nat) (reached : path.Reached formula)
      (queued : path.QueueUnits formula queue)
      (inRange : ∀ position ∈ queue, position < formula.clauses.length) :
      Invariant formula ⟨.propagating, path.state formula queue nodes⟩
  | deciding (path : Path) (nodes : Nat) (reached : path.Reached formula)
      (saturated : path.Saturated formula) :
      Invariant formula ⟨.deciding, path.state formula [] nodes⟩
  | retreating (path : Path) (queue : List Nat) (nodes : Nat) (conflict : path.Conflict formula) :
      Invariant formula ⟨.retreating, path.state formula queue nodes⟩
  | flipping (literal : Literal) (path : Path) (nodes : Nat) (reached : path.Reached formula)
      (saturated : path.Saturated formula)
      (within : 1 ≤ literal.var ∧ literal.var ≤ formula.numVariables) (free : literal.var ∉ path.vars)
      (justifies : path.Justifies formula ⟨literal, .flipped⟩) :
      Invariant formula ⟨.flipping literal, path.state formula [] nodes⟩
  | ended (answer : Answer) (state : State) : Invariant formula ⟨.ended answer, state⟩

end Point

open Point (Leads Follows Safe Invariant)

namespace Path

variable {formula : Formula} {path : Path} {step : Step} {queue : List Nat} {nodes : Nat}

/-! ## Steps -/

theorem lt_length_of_mem_queueAfter (inRange : ∀ position ∈ queue, position < formula.clauses.length) :
    ∀ position ∈ queueAfter formula step path queue, position < formula.clauses.length := by
  intro position member
  rcases List.mem_append.1 member with old | new
  · exact inRange position old
  · obtain ⟨⟨counter, _⟩, inUnits, rfl⟩ := List.mem_map.1 new
    obtain ⟨clause, atPosition, _⟩ := mem_weakenedBy.1 (List.mem_filter.1 inUnits).1
    exact (List.getElem?_eq_some_iff.1 atPosition).1

theorem getElem?_counters {position : Nat} {clause : Clause}
    (atPosition : formula.clauses[position]? = some clause) :
    (path.state formula queue nodes).counters[position]? = some (path.counter clause) := by
  rw [state, List.getElem?_map, atPosition]
  rfl

theorem propagateOnce_cons {position : Nat} {clause : Clause}
    (atPosition : formula.clauses[position]? = some clause) :
    (path.state formula (position :: queue) nodes).propagateOnce =
      if (path.counter clause).isUnsatisfied then
        match clause.deduplicated.find? (path.state formula queue nodes).isFree with
        | none => ⟨.retreating, path.state formula [] nodes⟩
        | some literal =>
          let next := (path.state formula queue nodes).bind literal .forced
          if next.2 then ⟨.propagating, next.1⟩ else ⟨.retreating, next.1.clearQueue⟩
      else ⟨.propagating, path.state formula queue nodes⟩ := by
  have atCounter := @getElem?_counters formula path (position :: queue) nodes _ _ atPosition
  rw [State.propagateOnce]
  dsimp only [state] at atCounter ⊢
  rw [atCounter]
  rfl

/-- A clause taken off the queue leaves a path that is reached, or a conflict. -/
theorem invariant_propagateOnce (within : ∀ clause ∈ formula.clauses, clause.Within formula.numVariables)
    (reached : Reached formula path) (queued : QueueUnits formula path queue)
    (inRange : ∀ position ∈ queue, position < formula.clauses.length) :
    Invariant formula (path.state formula queue nodes).propagateOnce := by
  cases queue with
  | nil => exact .deciding path nodes reached (queueUnits_nil_iff.1 queued)
  | cons position queue =>
    obtain ⟨here, inRange⟩ := List.forall_mem_cons.1 inRange
    obtain ⟨clause, atPosition⟩ : ∃ clause, formula.clauses[position]? = some clause :=
      ⟨_, List.getElem?_eq_getElem here⟩
    rw [propagateOnce_cons atPosition]
    by_cases unsatisfied : (path.counter clause).isUnsatisfied = true
    · obtain ⟨literal, flag, found, _, bound, endsAt, queuedAfter⟩ := bind_unit nodes
        (within clause (List.mem_of_getElem? atPosition)) atPosition reached queued unsatisfied
      simp only [unsatisfied, if_true, found, bound]
      cases flag with
      | true => exact .propagating _ _ _ endsAt queuedAfter (lt_length_of_mem_queueAfter inRange)
      | false => exact .retreating (⟨literal, .forced⟩ :: path) [] (nodes + 1) endsAt
    · rw [if_neg unsatisfied]
      exact .propagating path queue nodes reached
        (queued.pop_satisfied atPosition (Bool.eq_false_iff.2 unsatisfied)) inRange

/-- The first value of a decision makes no clause false. -/
theorem invariant_decideOnce (reached : Reached formula path) (saturated : Saturated formula path) :
    Invariant formula (path.state formula [] nodes).decideOnce := by
  unfold State.decideOnce
  split
  · exact .ended _ _
  · cases found : (path.state formula [] nodes).firstFree? with
    | none => exact .ended _ _
    | some var =>
      obtain ⟨bound, reachedAfter, queuedAfter⟩ := bind_of_firstFree? reached saturated found
      simp only [bound]
      exact .propagating _ _ _ reachedAfter queuedAfter
        (lt_length_of_mem_queueAfter fun _ member => (List.not_mem_nil member).elim)

theorem retreatOnce_cons (wellFormed : WellFormed formula.numVariables (step :: path)) :
    (state formula (step :: path) queue nodes).retreatOnce
      = ⟨if step.origin = .branching then .flipping step.literal.negate else .retreating,
          path.state formula [] nodes⟩ := by
  have undone : State.unbind ⟨step.literal.var, step.literal.positive⟩
      { (state formula (step :: path) queue nodes).clearQueue with trail := path.map Step.binding }
      = path.state formula [] nodes := undo_state [] nodes wellFormed
  have value := valueOf_state queue nodes wellFormed
  have pending : (state formula (step :: path) queue nodes).trail = step.binding :: path.map Step.binding :=
    rfl
  rw [State.retreatOnce_eq pending]
  simp only [Step.binding, value] at undone ⊢
  rw [undone]
  rfl

/-- Where a decision is taken back, the path is as saturated as it was before the decision. -/
theorem invariant_retreatOnce (conflict : Conflict formula path) :
    Invariant formula (path.state formula queue nodes).retreatOnce := by
  cases path with
  | nil => exact .ended _ _
  | cons step rest =>
    rw [retreatOnce_cons conflict.wellFormed]
    by_cases branching : step.origin = .branching
    · have justifies := conflict.justified.1
      rw [Justifies, branching] at justifies
      rw [if_pos branching]
      exact .flipping step.literal.negate rest nodes conflict.reached_tail justifies.2.2
        (conflict.wellFormed.within step List.mem_cons_self) conflict.wellFormed.head_free
        conflict.justifies_negate
    · rw [if_neg branching]
      exact .retreating rest [] nodes (conflict.tail branching)

/-- The second value of a decision makes no clause false either. -/
theorem invariant_flipOnce {literal : Literal} (reached : Reached formula path)
    (saturated : Saturated formula path) (within : 1 ≤ literal.var ∧ literal.var ≤ formula.numVariables)
    (free : literal.var ∉ path.vars) (justifies : Justifies formula path ⟨literal, .flipped⟩) :
    Invariant formula ((path.state formula [] nodes).flipOnce literal) := by
  obtain ⟨bound, reachedAfter, queuedAfter⟩ :=
    bind_of_saturated ⟨literal, .flipped⟩ nodes reached within free justifies saturated
  simp only at bound
  rw [State.flipOnce]
  simp only [bound]
  exact .propagating _ _ _ reachedAfter queuedAfter
    (lt_length_of_mem_queueAfter fun _ member => (List.not_mem_nil member).elim)

/-! ## Units -/

theorem lacksUnits (wellFormed : WellFormed formula.numVariables path)
    (within : ∀ clause ∈ formula.clauses, clause.Within formula.numVariables)
    (saturated : Saturated formula path) :
    (path.state formula queue nodes).LacksUnits formula.clauses := by
  intro clause member noneTrue
  have counts := counter_eq queue nodes wellFormed (within clause member)
  have unsatisfied : (path.counter clause).isUnsatisfied = true := by
    rw [isUnsatisfied_iff]
    intro literal inClause onPath
    have isTrue := (isTrue_iff queue nodes wellFormed (within clause member literal inClause).1).2 onPath
    rw [noneTrue literal inClause] at isTrue
    cases isTrue
  have twoFree := saturated clause member unsatisfied
  rwa [counts] at twoFree

/-- A clause without a true literal has a free one to decide about. -/
theorem firstFree?_ne_none (wellFormed : WellFormed formula.numVariables path)
    (within : ∀ clause ∈ formula.clauses, clause.Within formula.numVariables)
    (saturated : Saturated formula path)
    (someUnsatisfied : 0 < (path.state formula queue nodes).unsatisfied) :
    (path.state formula queue nodes).firstFree? ≠ none := by
  intro noneFree
  obtain ⟨clause, member, unsatisfied⟩ := List.countP_pos_iff.1 someUnsatisfied
  have twoFree := saturated clause member unsatisfied
  have noFreeCount : (path.counter clause).freeCount = 0 := by
    rw [freeCount_eq_zero_iff]
    intro literal inClause
    obtain ⟨positive, inRange⟩ := within clause member literal inClause
    exact mem_vars_of_firstFree?_eq_none wellFormed noneFree positive inRange
  omega

end Path

/-! ## Runs -/

section Runs

variable {formula : Formula} {numVariables : Nat} {clauses : List Clause} {before after point : Point}
  {state : State}

theorem Point.Invariant.next (within : ∀ clause ∈ formula.clauses, clause.Within formula.numVariables)
    (invariant : Invariant formula before) (step : before.next? = some after) :
    Invariant formula after := by
  cases invariant with
  | propagating path queue nodes reached queued inRange =>
    cases step
    exact Path.invariant_propagateOnce within reached queued inRange
  | deciding path nodes reached saturated =>
    cases step
    exact Path.invariant_decideOnce reached saturated
  | retreating path queue nodes conflict =>
    cases step
    exact Path.invariant_retreatOnce conflict
  | flipping literal path nodes reached saturated inRange free justifies =>
    cases step
    exact Path.invariant_flipOnce reached saturated inRange free justifies
  | ended => cases step

theorem Point.Invariant.leads (within : ∀ clause ∈ formula.clauses, clause.Within formula.numVariables)
    (invariant : Invariant formula before) (leads : Leads before after) : Invariant formula after := by
  induction leads with
  | refl => exact invariant
  | tail _ step inductionHypothesis => exact inductionHypothesis.next within step

theorem Point.Invariant.safe (within : ∀ clause ∈ formula.clauses, clause.Within formula.numVariables)
    (invariant : Invariant formula point) : point.Safe formula.clauses := by
  cases invariant with
  | propagating path queue nodes reached queued inRange =>
    intro position member
    have here := inRange position member
    have inClauses : formula.clauses[position] ∈ formula.clauses := List.getElem_mem here
    refine ⟨_, Path.getElem?_counters (List.getElem?_eq_getElem here), fun unsatisfied => ?_⟩
    exact Path.find?_isFree_ne_none queue nodes reached (within _ inClauses) inClauses unsatisfied
  | deciding path nodes reached saturated =>
    intro someUnsatisfied
    refine ⟨Path.lacksUnits reached.wellFormed within saturated, ?_⟩
    obtain ⟨var, found⟩ := Option.ne_none_iff_exists'.1
      (Path.firstFree?_ne_none reached.wellFormed within saturated someUnsatisfied)
    have bound := (Path.bind_of_firstFree? reached saturated found).1
    exact ⟨var, found, congrArg Prod.snd bound⟩
  | retreating => trivial
  | flipping literal path nodes reached saturated inRange free justifies =>
    have bound := (Path.bind_of_saturated ⟨literal, .flipped⟩ nodes reached inRange free justifies
      saturated).1
    exact ⟨Path.lacksUnits reached.wellFormed within saturated, congrArg Prod.snd bound⟩
  | ended => trivial

/-- Only propagation meets a conflict; after it bindings are taken back. -/
theorem Point.Safe.of_retreating (safe : point.Safe clauses) (step : point.next? = some after)
    (retreating : after.phase = .retreating) :
    point.phase = .propagating ∨ point.phase = .retreating := by
  obtain ⟨phase, state⟩ := point
  cases phase with
  | propagating => exact Or.inl rfl
  | retreating => exact Or.inr rfl
  | deciding =>
    cases step
    rw [State.decideOnce] at retreating
    split at retreating
    · cases retreating
    next someUnsatisfied =>
      obtain ⟨_, var, found, consistent⟩ := safe (Nat.pos_of_ne_zero someUnsatisfied)
      simp [found, consistent] at retreating
  | flipping literal =>
    cases step
    obtain ⟨_, consistent⟩ := safe
    simp [State.flipOnce, consistent] at retreating
  | ended => cases step

/-- The units queued at first are clauses. -/
theorem lt_length_of_queueUnits? {queued : State} (found : state.queueUnits? = some queued) :
    ∀ position ∈ queued.queue, position < state.counters.length := by
  rw [State.queueUnits?] at found
  split at found
  · cases found
  · cases found
    intro position member
    obtain ⟨⟨counter, _⟩, isUnit, rfl⟩ := List.mem_map.1 member
    have atPosition := List.mem_zipIdx_iff_getElem?.1 (List.mem_filter.1 isUnit).1
    exact (List.getElem?_eq_some_iff.1 atPosition).1

theorem invariant_of_queueUnits? (started : (State.ofClauses numVariables clauses).queueUnits? = some state) :
    Invariant ⟨numVariables, clauses⟩ ⟨.propagating, state⟩ := by
  have inRange := lt_length_of_queueUnits? started
  rw [State.ofClauses, List.length_map] at inRange
  rw [← Path.state_nil ⟨numVariables, clauses⟩] at started
  obtain ⟨queue, rfl, reached, queued⟩ := Path.queueUnits?_eq_some started
  exact .propagating [] queue 0 reached queued inRange

/-- At every point of a search queued clauses have a true or a free literal, and neither value of a
    decision meets a conflict. A clause without literals ends the search before its first step. -/
theorem decisions_meet_no_conflict (numVariables : Nat) (clauses : List Clause)
    (within : ∀ clause ∈ clauses, clause.Within numVariables) :
    ((State.ofClauses numVariables clauses).queueUnits? = none →
      dpll numVariables clauses = .done ⟨.unsatisfiable, 0⟩)
      ∧ ∀ state, (State.ofClauses numVariables clauses).queueUnits? = some state →
        Follows ⟨.propagating, state⟩ (dpll numVariables clauses)
          ∧ ∀ point, Leads ⟨.propagating, state⟩ point → point.Safe clauses
            ∧ ∀ after, point.next? = some after → after.phase = .retreating →
              point.phase = .propagating ∨ point.phase = .retreating := by
  constructor
  · intro noneQueued
    rw [dpll, noneQueued]
  · intro state started
    refine ⟨follows_dpll within started, fun point leads => ?_⟩
    have invariant := invariant_of_queueUnits? started
    have safe : point.Safe clauses := (invariant.leads within leads).safe within
    exact ⟨safe, fun after step retreating => safe.of_retreating step retreating⟩

/-- The first value of the first variable makes both clauses units, and one of them false; the second
    value is bound where neither is. -/
theorem decisions_meet_no_conflict_at_flip :
    let clauses : List Clause := [[⟨1, true⟩, ⟨2, true⟩], [⟨1, true⟩, ⟨2, false⟩]]
    let state := State.ofClauses 2 clauses
    (∀ clause ∈ clauses, clause.Within 2) ∧ state.queueUnits? = some state
      ∧ ∃ undone, Leads ⟨.propagating, state⟩ ⟨.flipping ⟨1, true⟩, undone⟩
        ∧ undone.LacksUnits clauses ∧ (undone.bind ⟨1, true⟩ .flipped).2 = true := by
  intro clauses state
  have within : ∀ clause ∈ clauses, clause.Within 2 := by simp [clauses, Clause.Within]
  have started : state.queueUnits? = some state := by decide
  obtain ⟨_, safe⟩ := (decisions_meet_no_conflict 2 clauses within).2 state started
  let decided := (state.bind ⟨1, false⟩ .branching).1
  let conflict := ((State.bind ⟨2, true⟩ .forced { decided with queue := [1] }).1).clearQueue
  let undone := { state with nodes := 2 }
  have decides : (Point.mk .deciding state).next? = some ⟨.propagating, decided⟩ := by decide
  have propagates : (Point.mk .propagating decided).next? = some ⟨.retreating, conflict⟩ := by decide
  have retreats : (Point.mk .retreating conflict).next?
      = some ⟨.retreating, { decided with queue := [], nodes := 2 }⟩ := by decide
  have undoes : (Point.mk .retreating { decided with queue := [], nodes := 2 }).next?
      = some ⟨.flipping ⟨1, true⟩, undone⟩ := by decide
  have leads : Leads ⟨.propagating, state⟩ ⟨.flipping ⟨1, true⟩, undone⟩ :=
    .head rfl (.head decides (.head propagates (.head retreats (.single undoes))))
  exact ⟨within, started, _, leads, (safe _ leads).1⟩

end Runs

end SatSum.Sat.Dpll
