import SatSum.Proofs.Calls
import SatSum.Proofs.Sat.Dpll.Pace
import SatSum.Proofs.ThreeFormula

/-! # Caps on nodes

Whether a cap interrupts a search is decided at the poll with the highest count, which is the last one.
All searches but one poll every count they come to, so a cap interrupts them where their outcome states
more nodes. Propagation with decisions is polled before a round only: what it binds in its last round
escapes the cap.

* `Sat.paced_search`, `SubsetSum.paced_search`: the polls of the searches.
* `replyWithin_threshold`: the caps within which a call replies as without limits.
* `dpll_replies_above_cap`: a call that replies with more nodes than the cap.
-/

namespace SatSum

open Activity (Paced)

theorem le_addSaturating {nodes : Nat} (isWord : nodes ≤ maxWord) (more : Nat) :
    nodes ≤ addSaturating nodes more :=
  Nat.le_min.2 ⟨Nat.le_add_right nodes more, isWord⟩

theorem addSaturating_le (nodes more : Nat) : addSaturating nodes more ≤ maxWord :=
  Nat.min_le_right _ _

/-! ## Searches for models -/

namespace Sat

theorem paced_tryFrom (clauses : List Clause) (cost : Nat) (valuation : Valuation) (nodes : Nat)
    (isWord : nodes ≤ maxWord) :
    Paced Outcome.nodes 0 nodes (tryFrom clauses cost valuation nodes) := by
  fun_induction tryFrom clauses cost valuation nodes with
  | case1 valuation nodes paid goesOn =>
    refine .poll (le_addSaturating isWord cost) ?_
    split
    · exact .done_exact rfl
    · split
      next => exact .done_exact rfl
      next next isNext => exact goesOn next isNext (addSaturating_le nodes cost)

theorem paced_bindFrom (clauses : List Clause) (numVariables : Nat) (chosen : List Bool) (value : Bool)
    (nodes : Nat) : Paced Outcome.nodes 0 nodes (bindFrom clauses numVariables chosen value nodes) := by
  fun_induction bindFrom clauses numVariables chosen value nodes with
  | case1 chosen value nodes goesBack goesOn =>
    refine .poll (Nat.le_succ nodes) ?_
    split
    · refine .note ?_
      split
      next => exact .done_exact rfl
      next below isBelow => exact goesBack below isBelow
    · split
      next => exact .done_exact rfl
      next notFull => exact goesOn notFull

/-- The nodes that a search may count after its last poll. -/
def Strategy.unpolled (numVariables : Nat) : Strategy → Nat
  | .bruteForce => 0
  | .backtracking => 0
  | .dpll => numVariables + 1

theorem paced_search (strategy : Strategy) (numVariables : Nat) (clauses : List Clause) :
    Paced Outcome.nodes (strategy.unpolled numVariables) 0 (search strategy numVariables clauses) := by
  cases strategy with
  | bruteForce => exact paced_tryFrom clauses _ _ 0 (Nat.zero_le _)
  | backtracking =>
    rw [search, backtracking]
    split
    · exact .done_exact rfl
    · exact paced_bindFrom clauses numVariables [] false 0
  | dpll => exact Dpll.paced_dpll numVariables clauses

theorem paced_solving (strategy : Strategy) (formula : Formula) :
    Paced Outcome.nodes (strategy.unpolled formula.numVariables) 0 (formula.solving strategy) :=
  .ofExcept_bind fun _ _ => .reported _ _ (paced_search strategy _ _)

theorem paced_solvingThree (strategy : Strategy) (formula : Formula) :
    Paced Outcome.nodes (strategy.unpolled formula.numVariables) 0 (formula.solvingThree strategy) := by
  refine .ofExcept_bind fun _ _ => .ofExcept_bind fun three isThree => .reported _ _ ?_
  have sameVariables : three.numVariables = formula.numVariables := by
    rw [← (ThreeFormula.ofFormula_eq_ok_iff.1 isThree).1]
    rfl
  rw [← sameVariables]
  exact paced_search strategy _ _

end Sat

/-! ## Searches for solutions -/

namespace SubsetSum

theorem paced_tryFrom (target : Int) (numbers : List Int) (included : List Bool) (sum : Int)
    (nodes : Nat) (isWord : nodes ≤ maxWord) :
    Paced Outcome.nodes 0 nodes (tryFrom target numbers included sum nodes) := by
  fun_induction tryFrom target numbers included sum nodes with
  | case1 included sum nodes counted goesOn =>
    refine .poll (le_addSaturating isWord 1) ?_
    split
    · exact .done_exact rfl
    · split
      next => exact .done_exact rfl
      next next isNext => exact goesOn next isNext (addSaturating_le nodes 1)

theorem paced_chooseFrom (target : Int) (branch : Branch) (nodes : Nat) :
    Paced Outcome.nodes 0 nodes (chooseFrom target branch nodes) := by
  fun_induction chooseFrom target branch nodes with
  | case1 branch nodes goesDeeper goesBack =>
    refine .poll (Nat.le_succ nodes) ?_
    split
    · exact .done_exact rfl
    · split
      next next isDeeper => exact goesDeeper next isDeeper
      next =>
        refine .note ?_
        split
        next => exact .done_exact rfl
        next next isBack => exact goesBack next isBack

theorem paced_fillFrom {next : BitTable → Nat → Activity (Outcome Answer)}
    (goesOn : ∀ table nodes, Paced Outcome.nodes 0 nodes (next table nodes)) (width : Nat)
    (shifts : List Shift) (row : Nat) (table : BitTable) (nodes : Nat) (isWord : nodes ≤ maxWord) :
    Paced Outcome.nodes 0 nodes (fillFrom width shifts row table nodes next) := by
  induction shifts generalizing row table nodes with
  | nil => exact goesOn table nodes
  | cons shift rest inductionHypothesis =>
    exact .poll (le_addSaturating isWord width)
      (inductionHypothesis (row + 1) _ _ (addSaturating_le nodes width))

theorem paced_dynamicProgramming (problem : Instance) :
    Paced Outcome.nodes 0 0 (dynamicProgramming problem) := by
  rw [dynamicProgramming]
  split
  · exact .done_exact rfl
  · refine .ofExcept_bind fun width _ => .ofExcept_bind fun shifts _ => .ofExcept_bind fun table _ =>
      .ofExcept_bind fun origin _ => paced_fillFrom ?_ width shifts 0 _ 0 (Nat.zero_le _)
    refine fun table nodes => .ofExcept_bind fun cell _ => ?_
    split <;> exact .done_exact rfl

theorem paced_search (strategy : Strategy) (problem : Instance) :
    Paced Outcome.nodes 0 0 (search strategy problem) := by
  cases strategy with
  | bruteForce => exact paced_tryFrom problem.target problem.numbers _ 0 0 (Nat.zero_le _)
  | backtracking => exact paced_chooseFrom problem.target _ 0
  | dynamicProgramming => exact paced_dynamicProgramming problem

theorem paced_solving (strategy : Strategy) (problem : Instance) :
    Paced Outcome.nodes 0 0 (problem.solving strategy) :=
  .ofExcept_bind fun _ _ => .reported _ _ (paced_search strategy problem)

end SubsetSum

/-! ## Calls -/

def Reply.nodes : Reply → Nat
  | sat outcome => outcome.nodes
  | subsetSum outcome => outcome.nodes

namespace Call

/-- The nodes that the search may count after its last poll. -/
def unpolled : Call → Nat
  | sat strategy formula => strategy.unpolled formula.numVariables
  | threeSat strategy formula => strategy.unpolled formula.numVariables
  | subsetSum _ _ => 0

theorem paced_activity (call : Call) : Paced Reply.nodes call.unpolled 0 call.activity := by
  cases call with
  | sat strategy formula => exact (Sat.paced_solving strategy formula).map fun _ => rfl
  | threeSat strategy formula => exact (Sat.paced_solvingThree strategy formula).map fun _ => rfl
  | subsetSum strategy problem => exact (SubsetSum.paced_solving strategy problem).map fun _ => rfl

theorem replyWithin_capped (clock : Activity.Clock) (cap : Nat) (call : Call) :
    call.replyWithin clock (Budget.unlimited.withMaxNodes cap)
      = call.activity.completeWithin (some cap) :=
  Activity.run_capped_result clock cap call.activity

end Call

/-- A call replies as without limits within every cap from the count polled last, and is interrupted by
    every lower one. That is the count of the reply, but for the nodes that propagation with decisions
    does not poll. -/
theorem replyWithin_threshold (call : Call) (reply : Reply) (ended : call.reply = .ok reply) :
    ∃ polled, polled ≤ reply.nodes ∧ reply.nodes ≤ polled + call.unpolled
      ∧ ∀ clock cap,
        (polled ≤ cap → call.replyWithin clock (Budget.unlimited.withMaxNodes cap) = .ok reply)
        ∧ (cap < polled → ∃ nodes, cap < nodes
          ∧ call.replyWithin clock (Budget.unlimited.withMaxNodes cap)
            = .error (.interrupted nodes)) := by
  rw [← call.complete_activity] at ended
  obtain ⟨polled, _, atLeast, atMost, thresholds⟩ := call.paced_activity.exists_polled ended
  refine ⟨polled, atLeast, atMost, fun clock cap => ?_⟩
  rw [call.replyWithin_capped]
  exact thresholds cap (Nat.zero_le cap)

theorem Sat.Dpll.State.propagate_of_queue_eq_nil {state : State} (done : state.queue = []) :
    state.propagate = (state, true) := by
  rw [propagate]
  split
  next => rfl
  next pending =>
    rw [done] at pending
    cases pending

/-- A unit clause is propagated in the first round, and that ends the search. -/
theorem Sat.dpll_unit : dpll 1 [[⟨1, true⟩]] = .poll 0 fun _ => .done ⟨.satisfiable [true], 1⟩ := by
  have started : dpll 1 [[⟨1, true⟩]]
      = Dpll.rounds 4 ⟨[none], [⟨[⟨1, true⟩], 0, 1⟩], [], [0], 1, 0⟩ := rfl
  have propagated : Dpll.State.propagate ⟨[none], [⟨[⟨1, true⟩], 0, 1⟩], [], [0], 1, 0⟩
      = (⟨[some true], [⟨[⟨1, true⟩], 1, 0⟩], [⟨1, .forced⟩], [], 0, 1⟩, true) := by
    rw [Dpll.State.propagate]
    exact Dpll.State.propagate_of_queue_eq_nil rfl
  rw [started, Dpll.rounds, propagated]
  rfl

theorem reply_unit :
    (Call.sat .dpll ⟨1, [[⟨1, true⟩]]⟩).reply = .ok (.sat ⟨.satisfiable [true], 1⟩) := by
  rw [Call.reply, Formula.solve, Formula.solving, Sat.reportedSearch, Sat.search, Sat.dpll_unit]
  rfl

/-- A search that does not poll all it counts, and one that does. -/
theorem replyWithin_threshold_dpll_and_table :
    (∃ polled, polled ≤ 1 ∧ 1 ≤ polled + 2
      ∧ ∀ clock cap,
        (polled ≤ cap → (Call.sat .dpll ⟨1, [[⟨1, true⟩]]⟩).replyWithin clock
          (Budget.unlimited.withMaxNodes cap) = .ok (.sat ⟨.satisfiable [true], 1⟩))
        ∧ (cap < polled → ∃ nodes, cap < nodes
          ∧ (Call.sat .dpll ⟨1, [[⟨1, true⟩]]⟩).replyWithin clock
            (Budget.unlimited.withMaxNodes cap) = .error (.interrupted nodes)))
      ∧ ∃ polled, polled ≤ 8 ∧ 8 ≤ polled + 0
        ∧ ∀ clock cap,
          (polled ≤ cap → (Call.subsetSum .dynamicProgramming ⟨[1, 2], 3⟩).replyWithin clock
            (Budget.unlimited.withMaxNodes cap) = .ok (.subsetSum ⟨.found [0, 1], 8⟩))
          ∧ (cap < polled → ∃ nodes, cap < nodes
            ∧ (Call.subsetSum .dynamicProgramming ⟨[1, 2], 3⟩).replyWithin clock
              (Budget.unlimited.withMaxNodes cap) = .error (.interrupted nodes)) :=
  ⟨replyWithin_threshold (.sat .dpll ⟨1, [[⟨1, true⟩]]⟩) (.sat ⟨.satisfiable [true], 1⟩) reply_unit,
    replyWithin_threshold (.subsetSum .dynamicProgramming ⟨[1, 2], 3⟩)
      (.subsetSum ⟨.found [0, 1], 8⟩) rfl⟩

/-- The only binding is made after the only poll, so no cap keeps it from being made. -/
theorem dpll_replies_above_cap :
    (Call.sat .dpll ⟨1, [[⟨1, true⟩]]⟩).reply = .ok (.sat ⟨.satisfiable [true], 1⟩)
      ∧ (Call.sat .dpll ⟨1, [[⟨1, true⟩]]⟩).replyWithin (fun _ => 0) (Budget.unlimited.withMaxNodes 0)
        = .ok (.sat ⟨.satisfiable [true], 1⟩) := by
  refine ⟨reply_unit, ?_⟩
  rw [Call.replyWithin_capped, Call.activity, Formula.solving, Sat.reportedSearch, Sat.search, Sat.dpll_unit]
  rfl

end SatSum
