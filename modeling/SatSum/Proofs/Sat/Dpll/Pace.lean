import SatSum.Proofs.Interruption
import SatSum.Sat.Dpll

/-! # The pace of propagation with decisions

Propagation binds free variables, and backtracking binds once for each decision that is open. Free
variables and the trail together never outgrow the variables. So what is bound between two polls, or
after the last one, is no more than there are variables, and one more where a decision meets a conflict
at once.

* `State.spends_propagate`, `State.spends_backtrack`: what the phases of a round use up.
* `paced_dpll`: the polls of the search.
-/

namespace SatSum.Sat.Dpll

open Activity (Paced)

namespace State

variable {state between after : State} {supply : State → Nat} {literal : Literal} {origin : Origin}
  {var : Nat}

/-! ## Bindings -/

@[simp] theorem nodes_bind : (state.bind literal origin).1.nodes = state.nodes + 1 := rfl

@[simp] theorem length_trail_bind :
    (state.bind literal origin).1.trail.length = state.trail.length + 1 := rfl

theorem openDecisions_bind :
    (state.bind literal origin).1.openDecisions
      = state.openDecisions + if origin = .branching then 1 else 0 := by
  simp [openDecisions, bind, List.countP_cons]

theorem isFree_of_firstFree? (found : state.firstFree? = some var) :
    state.isFree ⟨var, false⟩ = true := by
  rw [firstFree?, Option.map_eq_some_iff] at found
  obtain ⟨index, found, rfl⟩ := found
  obtain ⟨inRange, isNone, _⟩ := List.findIdx?_eq_some_iff_getElem.1 found
  rw [isFree, Nat.add_sub_cancel, List.getElem?_eq_getElem inRange, Option.isNone_iff_eq_none.1 isNone]
  rfl

/-- How long the trail is, and how much it may still grow. -/
def room (state : State) : Nat :=
  state.freeVariables + state.trail.length

theorem freeVariables_add_openDecisions_le (state : State) :
    state.freeVariables + state.openDecisions ≤ state.room :=
  Nat.add_le_add_left List.countP_le_length _

/-- From `state` to `after` each binding uses up some of the supply, and the room does not grow. -/
structure Spends (supply : State → Nat) (state after : State) : Prop where
  atLeast : state.nodes ≤ after.nodes
  bindings : after.nodes + supply after ≤ state.nodes + supply state
  room : after.room ≤ state.room

theorem Spends.trans (first : Spends supply state between) (second : Spends supply between after) :
    Spends supply state after :=
  ⟨Nat.le_trans first.atLeast second.atLeast, Nat.le_trans second.bindings first.bindings,
    Nat.le_trans second.room first.room⟩

/-- The queue is no part of the room, nor of a supply. -/
theorem spends_queue (queue : List Nat) (same : supply { state with queue } = supply state) :
    Spends supply state { state with queue } :=
  ⟨Nat.le_refl _, Nat.le_of_eq (congrArg (state.nodes + ·) same), Nat.le_refl _⟩

theorem spends_bind (free : state.isFree literal = true) (origin : Origin) :
    Spends freeVariables state (state.bind literal origin).1 := by
  have fewer := freeVariables_bind_lt free origin
  refine ⟨Nat.le_succ _, ?_, ?_⟩
  · rw [nodes_bind]
    omega
  · rw [room, room, length_trail_bind]
    omega

/-! ## Propagation -/

theorem spends_propagate (state : State) : Spends freeVariables state state.propagate.1 := by
  fun_induction propagate state with
  | case1 state => exact spends_queue state.queue rfl
  | case2 state position rest pending waiting _ later => exact (spends_queue rest rfl).trans later
  | case3 state position rest pending waiting counter => exact spends_queue [] rfl
  | case4 state position rest pending waiting counter _ _ literal found next _ later =>
    have bound : Spends freeVariables waiting next.1 := spends_bind (List.find?_some found) .forced
    exact ((spends_queue rest rfl).trans bound).trans later
  | case5 state position rest pending waiting counter _ _ literal found next =>
    have bound : Spends freeVariables waiting next.1 := spends_bind (List.find?_some found) .forced
    exact ((spends_queue rest rfl).trans bound).trans (spends_queue [] rfl)
  | case6 state position rest pending waiting counter _ _ later =>
    exact (spends_queue rest rfl).trans later

theorem openDecisions_propagate (state : State) :
    state.propagate.1.openDecisions = state.openDecisions := by
  fun_induction propagate state with
  | case1 => rfl
  | case2 state position rest pending waiting _ later => exact later
  | case3 => rfl
  | case4 state position rest pending waiting counter _ _ literal found next _ later =>
    exact later.trans openDecisions_bind
  | case5 => exact openDecisions_bind
  | case6 state position rest pending waiting counter _ _ later => exact later

/-! ## Backtracking -/

theorem count_set_le {α : Type} [BEq α] [LawfulBEq α] (list : List α) (index : Nat) (new counted : α) :
    (list.set index new).count counted ≤ list.count counted + if new == counted then 1 else 0 := by
  by_cases inRange : index < list.length
  · rw [List.count_set inRange]
    omega
  · rw [List.set_eq_of_length_le (Nat.not_lt.1 inRange)]
    exact Nat.le_add_right _ _

theorem freeVariables_unbind_le (literal : Literal) (state : State) :
    (state.unbind literal).freeVariables ≤ state.freeVariables + 1 :=
  count_set_le state.values (literal.var - 1) none none

/-- A variable that gets its other value is not free afterwards. -/
theorem freeVariables_flip_le (state : State) (var : Nat) (first second : Bool) (origin : Origin) :
    ((state.unbind ⟨var, first⟩).bind ⟨var, second⟩ origin).1.freeVariables ≤ state.freeVariables := by
  show ((state.values.set (var - 1) none).set (var - 1) (some second)).count none ≤ _
  rw [List.set_set]
  exact count_set_le state.values (var - 1) (some second) none

section Undoing

variable {last : Binding} {rest : List Binding}

theorem openDecisions_eq (pending : state.trail = last :: rest) :
    state.openDecisions = rest.countP (·.origin == .branching)
      + if last.origin = .branching then 1 else 0 := by
  simp [openDecisions, pending, List.countP_cons]

/-- Undoing the latest binding makes room for one at most. -/
theorem spends_undo (pending : state.trail = last :: rest) (value : Bool) :
    Spends openDecisions state
      (unbind ⟨last.var, value⟩ { state.clearQueue with trail := rest }) := by
  have fewerOpen := openDecisions_eq pending
  have oneMore := freeVariables_unbind_le ⟨last.var, value⟩ { state.clearQueue with trail := rest }
  have sameFree : freeVariables { state.clearQueue with trail := rest } = state.freeVariables := rfl
  refine ⟨Nat.le_refl _, ?_, ?_⟩
  · show state.nodes + rest.countP _ ≤ _
    omega
  · show _ + rest.length ≤ state.freeVariables + state.trail.length
    rw [pending, List.length_cons]
    omega

/-- A decision is open no longer once its second value is tried. -/
theorem spends_flip (pending : state.trail = last :: rest) (branching : last.origin = .branching)
    (first second : Bool) :
    Spends openDecisions state
      ((unbind ⟨last.var, first⟩ { state.clearQueue with trail := rest }).bind
        ⟨last.var, second⟩ .flipped).1 := by
  have fewerOpen := openDecisions_eq pending
  rw [if_pos branching] at fewerOpen
  refine ⟨Nat.le_succ _, ?_, ?_⟩
  · rw [openDecisions_bind]
    show state.nodes + 1 + (rest.countP _ + 0) ≤ _
    omega
  · have notMore := freeVariables_flip_le { state.clearQueue with trail := rest } last.var first second
      .flipped
    show _ + (rest.length + 1) ≤ state.freeVariables + state.trail.length
    rw [pending, List.length_cons]
    exact Nat.add_le_add_right notMore _

theorem spends_backtrack (state : State) : Spends openDecisions state state.backtrack.state := by
  fun_induction backtrack state with
  | case1 => exact spends_queue [] rfl
  | case2 state last rest pending value undone branching =>
    exact spends_flip pending branching value (!value)
  | case3 state last rest pending value undone branching next flip _ retreat later =>
    exact (spends_flip pending branching value (!value)).trans later
  | case4 state last rest pending value undone decided later =>
    exact (spends_undo pending value).trans later

end Undoing

end State

/-! ## The search -/

variable {slack before numVariables : Nat}

theorem paced_foldr_note {activity : Activity (Outcome Answer)} (flips : List (Nat × Nat))
    (paced : Paced Outcome.nodes slack before activity) :
    Paced Outcome.nodes slack before
      (flips.foldr (fun flip rest => .note (.flipped flip.1 flip.2) fun _ => rest) activity) := by
  induction flips with
  | nil => exact paced
  | cons flip flips inductionHypothesis => exact .note inductionHypothesis

theorem paced_retreat {state : State} {resume : State → Activity (Outcome Answer)}
    (atLeast : before ≤ state.nodes) (atMost : state.nodes + state.openDecisions ≤ before + slack)
    (resumes : ∀ next : State, before ≤ next.nodes → next.nodes ≤ before + slack →
      next.room ≤ state.room → Paced Outcome.nodes slack before (resume next)) :
    Paced Outcome.nodes slack before (retreat state resume) := by
  obtain ⟨more, bindings, room⟩ := state.spends_backtrack
  apply paced_foldr_note
  split
  · exact resumes _ (by omega) (by omega) room
  · refine .done (Nat.le_trans atLeast more) ?_
    show state.backtrack.state.nodes ≤ before + slack
    omega

theorem paced_rounds (limit : Nat) (state : State) (roomy : state.room ≤ numVariables)
    (atLeast : before ≤ state.nodes) (atMost : state.nodes ≤ before + (numVariables + 1)) :
    Paced Outcome.nodes (numVariables + 1) before (rounds limit state) := by
  induction limit generalizing before state with
  | zero => exact .done atLeast atMost
  | succ limit inductionHypothesis =>
    have supply := state.freeVariables_add_openDecisions_le
    -- Where a conflict is met in this round, at most one more decision is open than at its start.
    have conflict {after : State} (spends : State.Spends State.freeVariables state after)
        (fewOpen : after.openDecisions ≤ state.openDecisions + 1) :
        Paced Outcome.nodes (numVariables + 1) state.nodes (retreat after (rounds limit)) := by
      obtain ⟨more, bindings, room⟩ := spends
      refine paced_retreat more (by omega) fun next atLeast atMost smaller => ?_
      exact inductionHypothesis next (by omega) atLeast atMost
    have propagation := state.spends_propagate
    have sameOpen := state.openDecisions_propagate
    refine .poll atLeast ?_
    cases propagated : state.propagate with
    | mk after flag =>
      rw [propagated] at propagation sameOpen
      obtain ⟨more, bindings, room⟩ := propagation
      cases flag with
      | false => exact conflict ⟨more, bindings, room⟩ (Nat.le_succ_of_le (Nat.le_of_eq sameOpen))
      | true =>
        have ended : Paced Outcome.nodes (numVariables + 1) state.nodes (.done after.outcome) := by
          refine .done more ?_
          show after.nodes ≤ state.nodes + (numVariables + 1)
          simp only at bindings
          omega
        simp only
        split
        next => exact ended
        next =>
          split
          next => exact ended
          next var found =>
            have spends := State.Spends.trans ⟨more, bindings, room⟩
              (State.spends_bind (State.isFree_of_firstFree? found) .branching)
            have oneMoreOpen : (after.bind ⟨var, false⟩ .branching).1.openDecisions
                = state.openDecisions + 1 := by
              rw [State.openDecisions_bind, if_pos rfl, sameOpen]
            split
            next _ bound isBound =>
              rw [isBound] at spends
              obtain ⟨more, bindings, room⟩ := spends
              refine inductionHypothesis bound (Nat.le_trans room roomy) more ?_
              simp only at bindings
              omega
            next _ bound isBound =>
              rw [isBound] at spends oneMoreOpen
              exact conflict spends (Nat.le_of_eq oneMoreOpen)

theorem paced_dpll (numVariables : Nat) (clauses : List Clause) :
    Paced Outcome.nodes (numVariables + 1) 0 (dpll numVariables clauses) := by
  rw [dpll]
  split
  next => exact .done_exact rfl
  next state queued =>
    rw [State.queueUnits?] at queued
    split at queued
    next => cases queued
    next =>
      cases queued
      refine paced_rounds _ _ ?_ (Nat.le_refl 0) (Nat.zero_le _)
      show (List.replicate numVariables none).count none + 0 ≤ numVariables
      simp

end SatSum.Sat.Dpll
