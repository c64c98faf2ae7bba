import SatSum.Proofs.Sat.Dpll.LeastModel

/-! # The phases of a round

Propagation makes forced steps until the path is saturated, or a conflict is met. A conflict takes the
search back to the latest decision, whose second value is bound without a new conflict, because the path
was saturated before the decision. Without a decision on the path there is no model.

* `bind_endsAt`: a single binding.
* `propagate_spec`: propagation.
* `backtrack_spec`: backtracking.
-/

namespace SatSum.Sat.Dpll.Path

variable {formula : Formula} {path : Path} {step : Step} {queue : List Nat} {nodes numVariables : Nat}

/-! ## Binding -/

/-- Where a phase ends: the flag tells a path that is reached from a conflict. -/
def EndsAt (formula : Formula) (path : Path) : Bool → Prop
  | true => Reached formula path
  | false => Conflict formula path

/-- Binding a free literal for a reason goes on to a path that is reached, or to a conflict. -/
theorem bind_endsAt (step : Step) (queue : List Nat) (nodes : Nat) (reached : Reached formula path)
    (within : 1 ≤ step.literal.var ∧ step.literal.var ≤ formula.numVariables)
    (free : step.literal.var ∉ path.vars) (justifies : Justifies formula path step) :
    ∃ flag, (path.state formula queue nodes).bind step.literal step.origin
        = (state formula (step :: path) (queueAfter formula step path queue) (nodes + 1), flag)
      ∧ EndsAt formula (step :: path) flag := by
  have wellFormed : WellFormed formula.numVariables (step :: path) :=
    reached.wellFormed.cons within free
  have justified : Justified formula (step :: path) := ⟨justifies, reached.justified⟩
  obtain ⟨flag, bound, flagIff⟩ := bind_spec queue nodes wellFormed reached.noneFalsified
  refine ⟨flag, bound, ?_⟩
  cases flag with
  | true => exact ⟨wellFormed, justified, flagIff.1 rfl⟩
  | false =>
    -- A false clause excludes every model that has the literals of the path.
    have someFalsified : ¬ NoneFalsified formula (step :: path) :=
      mt flagIff.2 Bool.false_ne_true
    obtain ⟨clause, member, falsified⟩ : ∃ clause ∈ formula.clauses,
        Falsifies (step :: path) clause := by
      simpa [NoneFalsified] using someFalsified
    exact ⟨wellFormed, justified,
      fun valuation model => not_holdsIn_of_falsifies falsified member model, reached.noneFalsified⟩

/-- On a saturated path there is no conflict at once. -/
theorem bind_of_saturated (step : Step) (nodes : Nat) (reached : Reached formula path)
    (within : 1 ≤ step.literal.var ∧ step.literal.var ≤ formula.numVariables)
    (free : step.literal.var ∉ path.vars) (justifies : Justifies formula path step)
    (saturated : Saturated formula path) :
    (path.state formula [] nodes).bind step.literal step.origin
        = (state formula (step :: path) (queueAfter formula step path []) (nodes + 1), true)
      ∧ Reached formula (step :: path)
      ∧ QueueUnits formula (step :: path) (queueAfter formula step path []) := by
  have wellFormed : WellFormed formula.numVariables (step :: path) :=
    reached.wellFormed.cons within free
  have noneFalsified := noneFalsified_of_saturated wellFormed saturated
  obtain ⟨flag, bound, flagIff⟩ := bind_spec [] nodes wellFormed reached.noneFalsified
  rw [flagIff.2 noneFalsified] at bound
  exact ⟨bound, ⟨wellFormed, ⟨justifies, reached.justified⟩, noneFalsified⟩,
    (queueUnits_nil_iff.2 saturated).cons free⟩

/-! ## Propagation -/

theorem isFree_iff (queue : List Nat) (nodes : Nat)
    (wellFormed : WellFormed formula.numVariables path) {literal : Literal}
    (within : 1 ≤ literal.var ∧ literal.var ≤ formula.numVariables) :
    (path.state formula queue nodes).isFree literal = true ↔ literal.var ∉ path.vars := by
  rw [State.isFree, beq_iff_eq]
  exact getElem?_values_eq_none_iff wellFormed within.1 within.2

/-- A clause without a true literal has a free one, or it would be false. -/
theorem find?_isFree_ne_none (queue : List Nat) (nodes : Nat) (reached : Reached formula path)
    {clause : Clause} (within : clause.Within formula.numVariables) (member : clause ∈ formula.clauses)
    (unsatisfied : (path.counter clause).isUnsatisfied = true) :
    clause.deduplicated.find? (path.state formula queue nodes).isFree ≠ none := by
  intro noneFound
  have noneFree : (path.counter clause).freeCount = 0 := by
    rw [freeCount_eq_zero_iff]
    intro literal inClause
    by_contra free
    rw [← isFree_iff queue nodes reached.wellFormed (within literal inClause)] at free
    exact List.find?_eq_none.1 noneFound literal (Clause.mem_deduplicated.2 inClause) free
  exact reached.noneFalsified clause member
    ((falsifies_iff reached.wellFormed).2 ⟨unsatisfied, noneFree⟩)

/-- The free literal of a unit clause can be bound, and holds in every model that has the path. -/
theorem forced_of_find?_isFree (queue : List Nat) (nodes : Nat) (reached : Reached formula path)
    {clause : Clause} (within : clause.Within formula.numVariables) (member : clause ∈ formula.clauses)
    (unsatisfied : (path.counter clause).isUnsatisfied = true)
    (unit : (path.counter clause).freeCount ≤ 1) {literal : Literal}
    (found : clause.deduplicated.find? (path.state formula queue nodes).isFree = some literal) :
    (1 ≤ literal.var ∧ literal.var ≤ formula.numVariables) ∧ literal.var ∉ path.vars
      ∧ Justifies formula path ⟨literal, .forced⟩ := by
  have inClause : literal ∈ clause := Clause.mem_deduplicated.1 (List.mem_of_find?_eq_some found)
  have inRange := within literal inClause
  have free : literal.var ∉ path.vars :=
    (isFree_iff queue nodes reached.wellFormed inRange).1 (List.find?_some found)
  refine ⟨inRange, free, ?_⟩
  intro valuation model holdsIn
  exact holds_of_unit member unsatisfied unit inClause free model holdsIn

/-- A clause with a true literal may be taken off the queue. -/
theorem QueueUnits.pop_satisfied {position : Nat} {clause : Clause}
    (queued : QueueUnits formula path (position :: queue))
    (atPosition : formula.clauses[position]? = some clause)
    (satisfied : (path.counter clause).isUnsatisfied = false) : QueueUnits formula path queue := by
  refine queued.pop ?_
  intro other atOther
  rw [atPosition] at atOther
  cases atOther
  exact satisfied

/-- A clause without a true literal that comes off the queue has a free one. Binding it goes on to a path
    that is reached, with the units queued, or to a conflict. -/
theorem bind_unit {position : Nat} {clause : Clause} (nodes : Nat)
    (within : clause.Within formula.numVariables)
    (atPosition : formula.clauses[position]? = some clause) (reached : Reached formula path)
    (queued : QueueUnits formula path (position :: queue))
    (unsatisfied : (path.counter clause).isUnsatisfied = true) :
    ∃ literal flag, clause.deduplicated.find? (path.state formula queue nodes).isFree = some literal
      ∧ path.length < formula.numVariables
      ∧ (path.state formula queue nodes).bind literal .forced
        = (state formula (⟨literal, .forced⟩ :: path) (queueAfter formula ⟨literal, .forced⟩ path queue)
            (nodes + 1), flag)
      ∧ EndsAt formula (⟨literal, .forced⟩ :: path) flag
      ∧ QueueUnits formula (⟨literal, .forced⟩ :: path) (queueAfter formula ⟨literal, .forced⟩ path queue) := by
  have member : clause ∈ formula.clauses := List.mem_of_getElem? atPosition
  have unit := (queued position clause atPosition unsatisfied).1 List.mem_cons_self
  obtain ⟨literal, found⟩ := Option.ne_none_iff_exists'.1
    (find?_isFree_ne_none queue nodes reached within member unsatisfied)
  obtain ⟨inRange, free, justifies⟩ :=
    forced_of_find?_isFree queue nodes reached within member unsatisfied unit found
  obtain ⟨flag, bound, endsAt⟩ := bind_endsAt ⟨literal, .forced⟩ queue nodes reached inRange free justifies
  refine ⟨literal, flag, found, reached.wellFormed.length_lt inRange free, bound, endsAt, ?_⟩
  -- The clause taken off the queue has a true literal now.
  refine QueueUnits.pop_satisfied (queued.cons free) atPosition ?_
  rw [Bool.eq_false_iff, ne_eq, isUnsatisfied_iff]
  exact fun noneTrue => noneTrue literal
    (Clause.mem_deduplicated.1 (List.mem_of_find?_eq_some found)) List.mem_cons_self

theorem propagate_nil :
    (path.state formula [] nodes).propagate = (path.state formula [] nodes, true) := by
  rw [State.propagate]
  rfl

theorem propagate_cons (position : Nat) :
    (path.state formula (position :: queue) nodes).propagate =
      match formula.clauses[position]? with
      | none => (path.state formula queue nodes).propagate
      | some clause =>
        if (path.counter clause).isUnsatisfied then
          match clause.deduplicated.find? (path.state formula queue nodes).isFree with
          | none => (path.state formula [] nodes, false)
          | some literal =>
            let next := (path.state formula queue nodes).bind literal .forced
            if next.2 then next.1.propagate else (next.1.clearQueue, false)
        else (path.state formula queue nodes).propagate := by
  rw [State.propagate]
  -- The counter at a position is that of the clause there.
  have atPosition : (path.state formula (position :: queue) nodes).counters[position]?
      = formula.clauses[position]?.map path.counter := List.getElem?_map ..
  dsimp only [state] at atPosition ⊢
  rw [atPosition]
  cases formula.clauses[position]? with
  | none => rfl
  | some clause =>
    show (if (path.counter clause).isUnsatisfied then _ else _)
      = if (path.counter clause).isUnsatisfied then _ else _
    by_cases unsatisfied : (path.counter clause).isUnsatisfied = true
    · rw [if_pos unsatisfied, if_pos unsatisfied]
      split
      next noneFree =>
        have sameSearch : clause.deduplicated.find? _ = none := noneFree
        rw [sameSearch]
        rfl
      next literal found =>
        have sameSearch : clause.deduplicated.find? _ = some literal := found
        rw [sameSearch]
    · rw [if_neg unsatisfied, if_neg unsatisfied]

/-- What propagation leaves: the path with forced steps in front, which is saturated if there is no
    conflict. -/
structure Propagated (formula : Formula) (forced path : Path) (flag : Bool) : Prop where
  origins : ∀ step ∈ forced, step.origin = .forced
  endsAt : EndsAt formula (forced ++ path) flag
  saturated : flag = true → Saturated formula (forced ++ path)

/-- Propagation empties the queue, with a binding for each forced step. -/
theorem propagate_spec (within : ∀ clause ∈ formula.clauses, clause.Within formula.numVariables)
    (path : Path) (queue : List Nat) (nodes : Nat) (reached : Reached formula path)
    (queued : QueueUnits formula path queue) :
    ∃ forced flag, (path.state formula queue nodes).propagate
        = (state formula (forced ++ path) [] (nodes + forced.length), flag)
      ∧ Propagated formula forced path flag := by
  match queue with
  | [] =>
    exact ⟨[], true, propagate_nil, fun _ member => (List.not_mem_nil member).elim, reached,
      fun _ => queueUnits_nil_iff.1 queued⟩
  | position :: queue =>
    rw [propagate_cons]
    cases atPosition : formula.clauses[position]? with
    | none =>
      refine propagate_spec within path queue nodes reached (queued.pop ?_)
      intro clause atClause
      rw [atPosition] at atClause
      cases atClause
    | some clause =>
      by_cases unsatisfied : (path.counter clause).isUnsatisfied = true
      · obtain ⟨literal, flag, found, short, bound, endsAt, queuedAfter⟩ := bind_unit nodes
          (within clause (List.mem_of_getElem? atPosition)) atPosition reached queued unsatisfied
        simp only [unsatisfied, if_true, found, bound]
        cases flag with
        | true =>
          obtain ⟨forced, flag, propagated, origins, endsAt, saturated⟩ :=
            propagate_spec within _ _ (nodes + 1) endsAt queuedAfter
          rw [List.append_cons] at propagated endsAt saturated
          refine ⟨forced ++ [⟨literal, .forced⟩], flag, ?_, ?_, endsAt, saturated⟩
          · rw [if_pos rfl, propagated, List.length_append, List.length_singleton, Nat.add_assoc,
              Nat.add_comm 1]
          · exact List.forall_mem_append.2 ⟨origins, List.forall_mem_singleton.2 rfl⟩
        | false =>
          exact ⟨[⟨literal, .forced⟩], false, rfl, List.forall_mem_singleton.2 rfl, endsAt, nofun⟩
      · simp only [unsatisfied]
        exact propagate_spec within path queue nodes reached
          (queued.pop_satisfied atPosition (Bool.eq_false_iff.2 unsatisfied))
termination_by (formula.numVariables - path.length, queue.length)

/-! ## Backtracking -/

theorem backtrack_nil :
    (state formula [] queue nodes).backtrack = ⟨state formula [] [] nodes, false, []⟩ := by
  rw [State.backtrack]
  rfl

theorem valueOf_state (queue : List Nat) (nodes : Nat)
    (wellFormed : WellFormed formula.numVariables (step :: path)) :
    (state formula (step :: path) queue nodes).valueOf step.literal.var = step.literal.positive := by
  have value := (getElem?_values_eq_some_iff wellFormed
    (wellFormed.within step List.mem_cons_self).1).2 List.mem_cons_self
  show ((values formula.numVariables (step :: path))[step.literal.var - 1]?.getD none).getD false = _
  rw [value]
  rfl

/-- The latest step is undone, and tried with the other value if it was a decision. -/
theorem backtrack_cons (wellFormed : WellFormed formula.numVariables (step :: path)) :
    (state formula (step :: path) queue nodes).backtrack =
      if step.origin = .branching then
        let next := (path.state formula [] nodes).bind step.literal.negate .flipped
        let flip := (step.literal.var, path.length)
        if next.2 then ⟨next.1, true, [flip]⟩
        else { next.1.backtrack with flips := flip :: next.1.backtrack.flips }
      else (path.state formula [] nodes).backtrack := by
  have undone : State.unbind ⟨step.literal.var, step.literal.positive⟩
      { (state formula (step :: path) queue nodes).clearQueue with trail := path.map Step.binding }
      = path.state formula [] nodes := undo_state [] nodes wellFormed
  have value := valueOf_state queue nodes wellFormed
  have depth : (path.map Step.binding).length = path.length := List.length_map ..
  rw [State.backtrack]
  split
  next empty => cases empty
  next last rest pending =>
    cases pending
    simp only [Step.binding] at *
    simp only [value, depth, undone, dite_eq_ite]
    rfl

/-- A step that is no decision loses no model, so the conflict is one of the earlier steps. -/
theorem Conflict.tail (conflict : Conflict formula (step :: path))
    (decided : step.origin ≠ .branching) : Conflict formula path where
  wellFormed := conflict.wellFormed.tail
  justified := conflict.justified.2
  excluded := by
    intro valuation model holdsIn
    have justifies := conflict.justified.1
    cases origin : step.origin with
    | branching => exact decided origin
    | forced | flipped =>
      rw [Justifies, origin] at justifies
      exact conflict.excluded valuation model
        (holdsIn_cons.2 ⟨justifies valuation model holdsIn, holdsIn⟩)
  noneFalsified := conflict.noneFalsified.tail

theorem Conflict.reached_tail (conflict : Conflict formula (step :: path)) : Reached formula path :=
  ⟨conflict.wellFormed.tail, conflict.justified.2, conflict.noneFalsified⟩

/-- A conflict with a literal in front justifies the negation. -/
theorem Conflict.justifies_negate (conflict : Conflict formula (step :: path)) :
    Justifies formula path ⟨step.literal.negate, .flipped⟩ := by
  intro valuation model holdsIn
  obtain ⟨positive, within⟩ := conflict.wellFormed.within step List.mem_cons_self
  rw [Literal.holds_negate_iff positive (model.covers ▸ within), Bool.eq_false_iff]
  intro holds
  exact conflict.excluded valuation model (holdsIn_cons.2 ⟨holds, holdsIn⟩)

/-- How backtracking ends: with the second value of the latest decision, or because there is none and so
    no model. -/
inductive Retreated (formula : Formula) (nodes : Nat) : Path → State.Retreat → Prop
  | resumed (newer : Path) (step : Step) (older : Path) (queue : List Nat)
      (branching : step.origin = .branching)
      (reached : Reached formula (⟨step.literal.negate, .flipped⟩ :: older))
      (queued : QueueUnits formula (⟨step.literal.negate, .flipped⟩ :: older) queue) :
      Retreated formula nodes (newer ++ step :: older)
        ⟨state formula (⟨step.literal.negate, .flipped⟩ :: older) queue (nodes + 1), true,
          [(step.literal.var, older.length)]⟩
  | exhausted (path : Path) (noModel : ∀ valuation, ¬ formula.IsModel valuation) :
      Retreated formula nodes path ⟨state formula [] [] nodes, false, []⟩

theorem Retreated.after {retreat : State.Retreat} (step : Step)
    (retreated : Retreated formula nodes path retreat) :
    Retreated formula nodes (step :: path) retreat := by
  cases retreated with
  | resumed newer decision older queue branching reached queued =>
    exact .resumed (step :: newer) decision older queue branching reached queued
  | exhausted path noModel => exact .exhausted (step :: path) noModel

/-- Backtracking from a conflict tries the second value of the latest decision, or finds that there is
    no model. -/
theorem backtrack_spec (path : Path) (queue : List Nat) (nodes : Nat)
    (conflict : Conflict formula path) :
    Retreated formula nodes path (path.state formula queue nodes).backtrack := by
  induction path generalizing queue with
  | nil =>
    rw [backtrack_nil]
    exact .exhausted [] fun valuation model =>
      conflict.excluded valuation model fun literal member => (List.not_mem_nil member).elim
  | cons step path inductionHypothesis =>
    rw [backtrack_cons conflict.wellFormed]
    by_cases branching : step.origin = .branching
    · have justifies := conflict.justified.1
      rw [Justifies, branching] at justifies
      obtain ⟨bound, reached, queued⟩ := bind_of_saturated ⟨step.literal.negate, .flipped⟩ nodes
        conflict.reached_tail (conflict.wellFormed.within step List.mem_cons_self)
        conflict.wellFormed.head_free conflict.justifies_negate justifies.2.2
      simp only at bound
      simp only [branching, if_true, bound]
      exact .resumed [] step path _ branching reached queued
    -- A step without a second value is undone, and the conflict is one of the earlier steps.
    · rw [if_neg branching]
      exact (inductionHypothesis [] (conflict.tail branching)).after step

end SatSum.Sat.Dpll.Path
