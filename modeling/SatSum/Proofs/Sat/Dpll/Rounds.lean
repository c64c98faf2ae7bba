import SatSum.Proofs.Activity
import SatSum.Proofs.Sat.Dpll.Phases
import SatSum.Proofs.Sat.Dpll.Progress

/-! # Propagation with decisions decides formulas

A round binds a variable or is the last one, and every binding uses up some of the bindings ahead. So
the rounds end before their limit, with the least model or because there is none.

* `rounds_succ`: a single round.
* `rounds_spec`: a run from any path that is reached.
* `dpll_spec`: a whole run.
-/

namespace SatSum.Sat.Dpll

namespace Path

variable {formula : Formula} {path : Path} {queue : List Nat} {nodes numVariables : Nat}

/-! ## Reading states -/

theorem mem_vars_of_firstFree?_eq_none (wellFormed : WellFormed formula.numVariables path)
    (noneFree : (path.state formula queue nodes).firstFree? = none) {var : Nat} (positive : 1 ≤ var)
    (within : var ≤ formula.numVariables) : var ∈ path.vars := by
  rw [State.firstFree?, Option.map_eq_none_iff, List.findIdx?_eq_none_iff] at noneFree
  by_contra free
  have value := (getElem?_values_eq_none_iff wellFormed positive within).2 free
  have bound := noneFree none (List.mem_of_getElem? value)
  cases bound

theorem firstFree?_spec (wellFormed : WellFormed formula.numVariables path) {var : Nat}
    (found : (path.state formula queue nodes).firstFree? = some var) :
    (1 ≤ var ∧ var ≤ formula.numVariables) ∧ var ∉ path.vars
      ∧ ∀ earlier, 1 ≤ earlier → earlier < var → earlier ∈ path.vars := by
  rw [State.firstFree?, Option.map_eq_some_iff] at found
  obtain ⟨index, found, rfl⟩ := found
  rw [List.findIdx?_eq_some_iff_getElem] at found
  obtain ⟨inRange, isNone, before⟩ := found
  have short : index < formula.numVariables := by
    simpa [state] using inRange
  have value : (path.values formula.numVariables)[index + 1 - 1]? = some none := by
    rw [Nat.add_sub_cancel]
    exact List.getElem?_eq_some_iff.2 ⟨inRange, Option.isNone_iff_eq_none.1 isNone⟩
  refine ⟨⟨Nat.le_add_left 1 index, short⟩,
    (getElem?_values_eq_none_iff wellFormed (Nat.le_add_left 1 index) short).1 value, ?_⟩
  intro earlier positive less
  by_contra free
  have earlierValue := (getElem?_values_eq_none_iff wellFormed positive (by omega)).2 free
  have bound := before (earlier - 1) (by omega)
  rw [List.getElem?_eq_some_iff] at earlierValue
  obtain ⟨_, atEarlier⟩ := earlierValue
  exact bound (Option.isNone_iff_eq_none.2 atEarlier)

/-- On a saturated path the first value of a decision makes no clause false. -/
theorem bind_of_firstFree? {var : Nat} (reached : Reached formula path) (saturated : Saturated formula path)
    (found : (path.state formula [] nodes).firstFree? = some var) :
    (path.state formula [] nodes).bind ⟨var, false⟩ .branching
        = (state formula (⟨⟨var, false⟩, .branching⟩ :: path)
            (queueAfter formula ⟨⟨var, false⟩, .branching⟩ path []) (nodes + 1), true)
      ∧ Reached formula (⟨⟨var, false⟩, .branching⟩ :: path)
      ∧ QueueUnits formula (⟨⟨var, false⟩, .branching⟩ :: path)
          (queueAfter formula ⟨⟨var, false⟩, .branching⟩ path []) := by
  obtain ⟨inRange, free, before⟩ := firstFree?_spec reached.wellFormed found
  exact bind_of_saturated ⟨⟨var, false⟩, .branching⟩ nodes reached inRange free ⟨rfl, before, saturated⟩
    saturated

/-- When no clause is without a true literal, the valuation is the least model. -/
theorem decides_of_unsatisfied_eq_zero (reached : Reached formula path)
    (noneUnsatisfied : (path.state formula queue nodes).unsatisfied = 0) :
    (Answer.satisfiable (path.state formula queue nodes).valuation).Decides formula := by
  apply isLeastModel_of_satisfied reached
  intro clause member
  have satisfied := List.countP_eq_zero.1 noneUnsatisfied clause member
  rw [isUnsatisfied_iff] at satisfied
  push Not at satisfied
  exact satisfied

/-- When no variable is free, the valuation is the least model. -/
theorem decides_of_firstFree?_eq_none (reached : Reached formula path)
    (within : ∀ clause ∈ formula.clauses, clause.Within formula.numVariables)
    (noneFree : (path.state formula queue nodes).firstFree? = none) :
    (Answer.satisfiable (path.state formula queue nodes).valuation).Decides formula := by
  apply isLeastModel_of_satisfied reached
  intro clause member
  by_contra noneTrue
  -- With every variable bound, a clause without a true literal would be false.
  push Not at noneTrue
  apply reached.noneFalsified clause member
  intro literal inClause
  obtain ⟨positive, inRange⟩ := within clause member literal inClause
  exact (mem_literals_or_negate
    (mem_vars_of_firstFree?_eq_none reached.wellFormed noneFree positive inRange)).resolve_left
    (noneTrue literal inClause)

/-! ## Rounds -/

/-- What a round does once its poll has passed, for every limit on the rounds after it: it ends the
    search with an answer, or goes on from a path that is reached. It makes no more bindings than there
    are variables, and makes one if it goes on. -/
inductive Turn (formula : Formula) (path : Path) (nodes : Nat) :
    (Nat → Activity (Outcome Answer)) → Prop
  | settled (answer : Answer) (bindings : Nat) (decides : answer.Decides formula)
      (few : bindings ≤ formula.numVariables) (fewer : bindings ≤ path.ahead formula.numVariables)
      (paid : ∀ valuation, answer = .satisfiable valuation →
        path.behind formula.numVariables + bindings ≤ formula.numVariables * (rank valuation + 1)) :
      Turn formula path nodes fun _ => .done ⟨answer, nodes + bindings⟩
  | goesOn (after : Path) (queue : List Nat) (bindings : Nat) (reached : Reached formula after)
      (queued : QueueUnits formula after queue) (progress : 0 < bindings)
      (few : bindings ≤ formula.numVariables)
      (advances : Advances formula.numVariables path after bindings) :
      Turn formula path nodes fun limit => rounds limit (after.state formula queue (nodes + bindings))
  | note {rest : Nat → Activity (Outcome Answer)} (event : Event) (turn : Turn formula path nodes rest) :
      Turn formula path nodes fun limit => .note event fun _ => rest limit

theorem Justified.justifies {newer older : Path} {step : Step}
    (justified : Justified formula (newer ++ step :: older)) : Justifies formula older step := by
  induction newer with
  | nil => exact justified.1
  | cons other newer inductionHypothesis => exact inductionHypothesis justified.2

/-- A conflict after forced steps ends the search, or takes it to the second value of a decision before
    them. -/
theorem turn_of_conflict {forced : Path} (nodes : Nat) (origins : ∀ step ∈ forced, step.origin = .forced)
    (conflict : Conflict formula (forced ++ path)) :
    Turn formula path nodes fun limit =>
      retreat (state formula (forced ++ path) [] (nodes + forced.length)) (rounds limit) := by
  have retreated := backtrack_spec (forced ++ path) [] (nodes + forced.length) conflict
  have advances := advances_append conflict.wellFormed
  have few := conflict.wellFormed.length_le_of_append
  unfold retreat
  generalize (state formula (forced ++ path) [] (nodes + forced.length)).backtrack = back at retreated
  generalize whole : forced ++ path = conflicting at retreated
  cases retreated with
  | resumed newer step older queue branching reached queued =>
    -- The decision is not among the forced steps, so there is a step before them.
    have earlier : step ∈ path := by
      have member : step ∈ forced ++ path := whole ▸ List.mem_append_right _ List.mem_cons_self
      refine (List.mem_append.1 member).resolve_left fun isForced => ?_
      rw [origins step isForced] at branching
      cases branching
    have someStep := List.length_pos_of_mem earlier
    rw [whole] at conflict advances
    have flips := advances_flip conflict.wellFormed branching conflict.justified.justifies
      reached.wellFormed
    exact .note _ (.goesOn _ queue (forced.length + 1) reached queued (Nat.succ_pos _) (by omega)
      (advances.trans flips))
  | exhausted _ noModel =>
    have fewer := advances.ahead
    exact .settled .unsatisfiable forced.length noModel (by omega) (by omega) nofun

/-- Forced steps up to a path that satisfies every clause end the search. -/
theorem turn_of_decides {forced : Path} (nodes : Nat)
    (wellFormed : WellFormed formula.numVariables (forced ++ path))
    (decides : (Answer.satisfiable (completion formula.numVariables (forced ++ path))).Decides formula) :
    Turn formula path nodes fun _ =>
      .done (state formula (forced ++ path) [] (nodes + forced.length)).outcome := by
  have few := wellFormed.length_le_of_append
  obtain ⟨fewer, paid⟩ := advances_append wellFormed
  refine .settled (.satisfiable (completion formula.numVariables (forced ++ path))) forced.length decides
    (by omega) (by omega) ?_
  rintro valuation ⟨⟩
  have whole : behind formula.numVariables (forced ++ path) = _ + (forced ++ path).length := rfl
  have short := wellFormed.length_le
  rw [Nat.mul_succ]
  omega

/-- From a path that is reached, a round polls and takes its turn. -/
theorem rounds_succ (within : ∀ clause ∈ formula.clauses, clause.Within formula.numVariables)
    (path : Path) (queue : List Nat) (nodes : Nat) (reached : Reached formula path)
    (queued : QueueUnits formula path queue) :
    ∃ turn, (∀ limit, rounds (limit + 1) (path.state formula queue nodes) = .poll nodes fun _ => turn limit)
      ∧ Turn formula path nodes turn := by
  obtain ⟨forced, flag, propagated, origins, endsAt, saturated⟩ :=
    propagate_spec within path queue nodes reached queued
  refine ⟨_, fun limit => rfl, ?_⟩
  simp only [propagated]
  cases flag with
  | false => exact turn_of_conflict nodes origins endsAt
  | true =>
    simp only
    split
    next noneUnsatisfied =>
      exact turn_of_decides nodes endsAt.wellFormed (decides_of_unsatisfied_eq_zero endsAt noneUnsatisfied)
    next someUnsatisfied =>
      cases found : (state formula (forced ++ path) [] (nodes + forced.length)).firstFree? with
      | none =>
        exact turn_of_decides nodes endsAt.wellFormed (decides_of_firstFree?_eq_none endsAt within found)
      | some var =>
        obtain ⟨bound, reachedAfter, queuedAfter⟩ := bind_of_firstFree? endsAt (saturated rfl) found
        simp only [bound]
        have wellFormed : WellFormed formula.numVariables
          ((⟨⟨var, false⟩, .branching⟩ :: forced) ++ path) := reachedAfter.wellFormed
        have few := wellFormed.length_le_of_append
        rw [List.length_cons] at few
        exact .goesOn _ _ (forced.length + 1) reachedAfter queuedAfter (Nat.succ_pos _) (by omega)
          (advances_append wellFormed)

/-! ## Runs -/

/-- Uninterrupted, the activity decides the formula, with no more bindings than are ahead of the path.
    If there is a model, the bindings from the start on are no more than there are variables for each
    valuation up to it. -/
def Settles (formula : Formula) (path : Path) (nodes : Nat) (activity : Activity (Outcome Answer)) :
    Prop :=
  ∃ answer bindings, activity.complete = .ok ⟨answer, nodes + bindings⟩ ∧ answer.Decides formula
    ∧ bindings ≤ path.ahead formula.numVariables
    ∧ ∀ valuation, answer = .satisfiable valuation →
      path.behind formula.numVariables + bindings ≤ formula.numVariables * (rank valuation + 1)

/-- Bindings made before count as well. -/
theorem Settles.of_advances {after : Path} {bindings : Nat} {activity : Activity (Outcome Answer)}
    (settles : Settles formula after (nodes + bindings) activity)
    (advances : Advances formula.numVariables path after bindings) :
    Settles formula path nodes activity := by
  obtain ⟨answer, more, ended, decides, fewer, paid⟩ := settles
  obtain ⟨fewerAhead, moreBehind⟩ := advances
  refine ⟨answer, bindings + more, by rw [ended, Nat.add_assoc], decides, by omega, ?_⟩
  intro valuation isAnswer
  have := paid valuation isAnswer
  omega

/-- With more rounds than bindings ahead, the run decides the formula. -/
theorem rounds_spec (within : ∀ clause ∈ formula.clauses, clause.Within formula.numVariables)
    (limit : Nat) (path : Path) (queue : List Nat) (nodes : Nat) (reached : Reached formula path)
    (queued : QueueUnits formula path queue) (enough : path.ahead formula.numVariables < limit) :
    Settles formula path nodes (rounds limit (path.state formula queue nodes)) := by
  induction limit generalizing path queue nodes with
  | zero => exact absurd enough (Nat.not_lt_zero _)
  | succ limit inductionHypothesis =>
    obtain ⟨turn, unfolds, isTurn⟩ := rounds_succ within path queue nodes reached queued
    rw [unfolds]
    show Settles formula path nodes (turn limit)
    clear unfolds
    induction isTurn with
    | settled answer bindings decides few fewer paid =>
      exact ⟨answer, bindings, rfl, decides, fewer, paid⟩
    | goesOn after newQueue bindings reached queued progress few advances =>
      have fewerAhead := advances.ahead
      exact (inductionHypothesis after newQueue (nodes + bindings) reached queued (by omega)).of_advances
        advances
    | note event turn settles => exact settles

/-! ## The first round -/

theorem counter_nil (clause : Clause) : counter [] clause = .ofClause clause := by
  simp [counter, Counter.ofClause, literals, vars]

theorem state_nil (formula : Formula) :
    state formula [] [] 0 = .ofClauses formula.numVariables formula.clauses := by
  simp [state, State.ofClauses, counter_nil, values, Counter.ofClause, Counter.isUnsatisfied]

theorem wellFormed_nil (numVariables : Nat) : WellFormed numVariables [] where
  within := fun _ onPath => (List.not_mem_nil onPath).elim
  distinct := List.nodup_nil

theorem falsifies_nil_iff {clause : Clause} :
    Falsifies [] clause ↔ (counter [] clause).freeCount = 0 := by
  rw [falsifies_iff (wellFormed_nil 0)]
  apply and_iff_right
  rw [counter_nil]
  rfl

theorem noModel_of_queueUnits?_eq_none
    (noneQueued : (state formula [] [] 0).queueUnits? = none) (valuation : Valuation) :
    ¬ formula.IsModel valuation := by
  rw [State.queueUnits?, ite_eq_left_iff] at noneQueued
  have someEmpty : (state formula [] [] 0).counters.any (·.freeCount == 0) = true := by
    by_contra noneEmpty
    cases noneQueued noneEmpty
  simp only [state, List.any_map, List.any_eq_true, Function.comp_apply, beq_iff_eq] at someEmpty
  obtain ⟨clause, member, noneFree⟩ := someEmpty
  intro model
  exact not_holdsIn_of_falsifies (falsifies_nil_iff.2 noneFree) member model
    fun literal onPath => (List.not_mem_nil onPath).elim

/-- If every clause has a literal, those with one are queued. -/
theorem queueUnits?_eq_some {queued : State}
    (found : (state formula [] [] 0).queueUnits? = some queued) :
    ∃ queue, queued = state formula [] queue 0 ∧ Reached formula [] ∧ QueueUnits formula [] queue := by
  rw [State.queueUnits?] at found
  split at found
  next someEmpty => cases found
  next noneEmpty =>
    cases found
    have someFree (clause : Clause) (member : clause ∈ formula.clauses) :
        (counter [] clause).freeCount ≠ 0 := by
      intro noneFree
      apply noneEmpty
      rw [List.any_eq_true]
      exact ⟨_, List.mem_map_of_mem member, beq_iff_eq.2 noneFree⟩
    refine ⟨_, rfl, ⟨wellFormed_nil _, trivial, ?_⟩, ?_⟩
    · exact fun clause member falsified => someFree clause member (falsifies_nil_iff.1 falsified)
    · intro position clause atPosition _
      have free := someFree clause (List.mem_of_getElem? atPosition)
      have atCounter : (state formula [] [] 0).counters[position]? = some (counter [] clause) := by
        simp only [state, List.getElem?_map, atPosition, Option.map_some]
      rw [List.mem_map]
      constructor
      · rintro ⟨⟨unit, _⟩, isUnit, rfl⟩
        rw [List.mem_filter, List.mem_zipIdx_iff_getElem?, beq_iff_eq] at isUnit
        rw [atCounter, Option.some.injEq] at isUnit
        rw [isUnit.1]
        exact Nat.le_of_eq isUnit.2
      · intro unit
        refine ⟨(counter [] clause, position), ?_, rfl⟩
        rw [List.mem_filter, List.mem_zipIdx_iff_getElem?, beq_iff_eq]
        exact ⟨atCounter, by simp only; omega⟩

/-- At first a whole binary tree is ahead. -/
theorem ahead_nil (numVariables : Nat) : ahead numVariables [] = 2 ^ (numVariables + 1) - 2 :=
  rfl

theorem ahead_nil_lt : ahead numVariables [] < 2 ^ (numVariables + 1) := by
  have positive : 0 < 2 ^ (numVariables + 1) := Nat.two_pow_pos _
  rw [ahead_nil]
  omega

end Path

/-- Propagation with decisions decides the formula. -/
theorem dpll_spec (formula : Formula)
    (within : ∀ clause ∈ formula.clauses, clause.Within formula.numVariables) :
    Path.Settles formula [] 0 (dpll formula.numVariables formula.clauses) := by
  rw [dpll, ← Path.state_nil]
  cases found : (Path.state formula [] [] 0).queueUnits? with
  | none =>
    exact ⟨.unsatisfiable, 0, rfl, Path.noModel_of_queueUnits?_eq_none found, Nat.zero_le _, nofun⟩
  | some queued =>
    obtain ⟨queue, rfl, reached, queued⟩ := Path.queueUnits?_eq_some found
    simp only [Nat.one_shiftLeft]
    exact Path.rounds_spec within _ [] queue 0 reached queued Path.ahead_nil_lt

end SatSum.Sat.Dpll
