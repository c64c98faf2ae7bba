import SatSum.Proofs.Caps
import SatSum.Proofs.Normalize
import SatSum.Proofs.Polls
import SatSum.Proofs.Sat.Strategies
import SatSum.Proofs.SubsetSum.Safety

/-! # Deadlines

What a deadline does to a call is told by its polls, so it does nothing to a call that has none. Calls
without polls are those that are refused, those with an answer that needs no search, and those for which
a table would be too large.

* `Call.firstPoll?_eq_none_iff`: which accepted calls do not poll.
* `heeds_deadline`: searches and calls within a deadline, and calls for which it is over already.
-/

namespace SatSum

open Activity (Clock Session)

/-! ## Searches without polls -/

namespace Sat

theorem exists_complete_bindFrom (clauses : List Clause) (numVariables : Nat) (chosen : List Bool)
    (value : Bool) (nodes : Nat) :
    ∃ outcome, (bindFrom clauses numVariables chosen value nodes).complete = .ok outcome := by
  fun_induction bindFrom clauses numVariables chosen value nodes with
  | case1 chosen value nodes goesBack goesOn =>
    rw [Activity.complete_poll]
    split
    · rw [Activity.complete_note]
      split
      next => exact ⟨_, rfl⟩
      next below isBelow => exact goesBack below isBelow
    · split
      next => exact ⟨_, rfl⟩
      next notFull => exact goesOn notFull

theorem Dpll.exists_complete_retreat {resume : Dpll.State → Activity (Outcome Answer)}
    (goesOn : ∀ state, ∃ outcome, (resume state).complete = .ok outcome) (state : Dpll.State) :
    ∃ outcome, (Dpll.retreat state resume).complete = .ok outcome := by
  rw [Dpll.retreat]
  induction state.backtrack.flips with
  | nil =>
    rw [List.foldr_nil]
    split
    · exact goesOn _
    · exact ⟨_, rfl⟩
  | cons flip flips inductionHypothesis => exact inductionHypothesis

theorem Dpll.exists_complete_rounds (limit : Nat) (state : Dpll.State) :
    ∃ outcome, (Dpll.rounds limit state).complete = .ok outcome := by
  induction limit generalizing state with
  | zero => exact ⟨_, rfl⟩
  | succ limit inductionHypothesis =>
    rw [Dpll.rounds, Activity.complete_poll]
    split
    next conflict _ => exact Dpll.exists_complete_retreat inductionHypothesis _
    next propagated _ =>
      split
      · exact ⟨_, rfl⟩
      · split
        next => exact ⟨_, rfl⟩
        next =>
          split
          next => exact inductionHypothesis _
          next => exact Dpll.exists_complete_retreat inductionHypothesis _

/-- A search ends with an answer, also for clauses that are not over the variables. -/
theorem exists_complete_search (strategy : Strategy) (numVariables : Nat) (clauses : List Clause) :
    ∃ outcome, (search strategy numVariables clauses).complete = .ok outcome := by
  cases strategy with
  | bruteForce => exact ⟨_, complete_bruteForce numVariables clauses⟩
  | backtracking =>
    rw [search, backtracking]
    split
    · exact ⟨_, rfl⟩
    · exact exists_complete_bindFrom clauses numVariables [] false 0
  | dpll =>
    rw [search, dpll]
    split
    · exact ⟨_, rfl⟩
    · exact Dpll.exists_complete_rounds _ _

/-- Some clause has nothing that could be queued exactly if it has no literal. -/
theorem Dpll.queueUnits?_ofClauses_eq_none_iff (numVariables : Nat) (clauses : List Clause) :
    (Dpll.State.ofClauses numVariables clauses).queueUnits? = none ↔ [] ∈ clauses := by
  have noLiteral (clause : Clause) : (Dpll.Counter.ofClause clause).freeCount = 0 ↔ clause = [] := by
    rw [Dpll.Counter.ofClause, List.length_eq_zero_iff, List.eq_nil_iff_forall_not_mem,
      List.eq_nil_iff_forall_not_mem]
    simp only [Clause.mem_deduplicated]
  simp only [Dpll.State.queueUnits?, Dpll.State.ofClauses, List.any_map, ite_eq_left_iff, reduceCtorEq,
    imp_false, not_not, List.any_eq_true, Function.comp_apply, beq_iff_eq, noLiteral]
  simp

theorem firstPoll?_search_eq_none_iff (strategy : Strategy) (numVariables : Nat)
    (clauses : List Clause) :
    (search strategy numVariables clauses).firstPoll? = none
      ↔ strategy ≠ .bruteForce ∧ [] ∈ clauses := by
  cases strategy with
  | bruteForce =>
    rw [search, bruteForce, tryFrom]
    exact iff_of_false (Option.some_ne_none _) fun different => different.1 rfl
  | backtracking =>
    rw [search, backtracking]
    by_cases someEmpty : clauses.any List.isEmpty = true
    · rw [if_pos someEmpty]
      rw [List.any_eq_true] at someEmpty
      obtain ⟨clause, member, isEmpty⟩ := someEmpty
      rw [List.isEmpty_iff.1 isEmpty] at member
      exact iff_of_true rfl ⟨by decide, member⟩
    · rw [if_neg someEmpty, bindFrom]
      refine iff_of_false (Option.some_ne_none _) fun empty => someEmpty ?_
      exact List.any_eq_true.2 ⟨[], empty.2, rfl⟩
  | dpll =>
    rw [search, dpll, ← Dpll.queueUnits?_ofClauses_eq_none_iff numVariables]
    cases queued : (Dpll.State.ofClauses numVariables clauses).queueUnits? with
    | none => exact iff_of_true rfl ⟨by decide, rfl⟩
    | some state =>
      -- There is always a first round, and it begins with a poll.
      obtain ⟨limit, positive⟩ : ∃ limit, 1 <<< (numVariables + 1) = limit + 1 := by
        refine Nat.exists_eq_succ_of_ne_zero ?_
        rw [Nat.one_shiftLeft]
        exact Nat.ne_of_gt (Nat.two_pow_pos _)
      dsimp only
      rw [positive, Dpll.rounds]
      exact iff_of_false (Option.some_ne_none _) fun atOnce => Option.some_ne_none _ atOnce.2

end Sat

namespace SubsetSum

theorem Instance.not_tooLarge_of_isEmpty {problem : Instance} (isEmpty : problem.numbers = []) :
    ¬ problem.TooLarge := by
  rw [TooLarge, width, isEmpty]
  decide

theorem firstPoll?_search_eq_none_iff (strategy : Strategy) (problem : Instance) :
    (search strategy problem).firstPoll? = none
      ↔ strategy = .dynamicProgramming
        ∧ (problem.numbers = [] ∨ ¬ problem.TargetInRange ∨ problem.TooLarge) := by
  cases strategy with
  | bruteForce =>
    rw [search, bruteForce, tryFrom]
    exact iff_of_false (Option.some_ne_none _) fun atOnce => absurd atOnce.1 (by decide)
  | backtracking =>
    rw [search, backtracking, chooseFrom]
    exact iff_of_false (Option.some_ne_none _) fun atOnce => absurd atOnce.1 (by decide)
  | dynamicProgramming =>
    rw [search, ← problem.exists_shortage_iff]
    by_cases inRange : problem.TargetInRange
    · rw [dynamicProgramming_of_inRange inRange]
      cases short : problem.shortage? with
      | some cause => exact iff_of_true rfl ⟨rfl, .inr (.inr ⟨cause, rfl⟩)⟩
      | none =>
        cases numbers : problem.numbers with
        | nil =>
          -- Without elements there is no row to fill.
          refine iff_of_true ?_ ⟨rfl, .inl rfl⟩
          simp only [List.map_nil, fillFrom]
          split <;> rfl
        | cons number rest =>
          refine iff_of_false (Option.some_ne_none _) ?_
          rintro ⟨_, isEmpty | outside | ⟨cause, isCause⟩⟩
          · cases isEmpty
          · exact outside inRange
          · cases isCause
    · rw [dynamicProgramming_of_not_inRange inRange]
      exact iff_of_true rfl ⟨rfl, .inr (.inl inRange)⟩

end SubsetSum

/-! ## Calls without polls -/

namespace Call

/-- The checks before the search let the call through. -/
def IsAccepted : Call → Prop
  | sat _ formula => formula.validate = .ok ()
  | threeSat _ formula =>
    formula.validate = .ok () ∧ ∃ three, ThreeFormula.ofFormula formula = .ok three
  | subsetSum _ problem => problem.validate = .ok ()

/-- The answer needs no search: a clause is empty, there is no element, or the target is out of range.
    Only some strategies look at that first. -/
def AnswersAtOnce : Call → Prop
  | sat strategy formula => strategy ≠ .bruteForce ∧ [] ∈ formula.clauses
  | threeSat _ _ => False
  | subsetSum strategy problem =>
    strategy = .dynamicProgramming ∧ (problem.numbers = [] ∨ ¬ problem.TargetInRange)

/-- The table that the search needs would be too large. -/
def RunsShort : Call → Prop
  | sat _ _ => False
  | threeSat _ _ => False
  | subsetSum strategy problem =>
    strategy = .dynamicProgramming ∧ problem.TargetInRange ∧ problem.TooLarge

theorem isAccepted_of_firstPoll? {call : Call} {nodes : Nat}
    (polls : call.activity.firstPoll? = some nodes) : call.IsAccepted := by
  cases call with
  | sat strategy formula =>
    rw [activity, Activity.firstPoll?_map, Formula.solving] at polls
    cases validated : formula.validate with
    | ok => exact validated
    | error fault =>
      rw [validated] at polls
      cases polls
  | threeSat strategy formula =>
    rw [activity, Activity.firstPoll?_map, Formula.solvingThree] at polls
    cases validated : formula.validate with
    | ok =>
      cases taken : ThreeFormula.ofFormula formula with
      | ok three => exact ⟨validated, three, taken⟩
      | error fault =>
        rw [validated, taken] at polls
        cases polls
    | error fault =>
      rw [validated] at polls
      cases polls
  | subsetSum strategy problem =>
    rw [activity, Activity.firstPoll?_map, SubsetSum.Instance.solving] at polls
    cases validated : problem.validate with
    | ok => exact validated
    | error fault =>
      rw [validated] at polls
      cases polls

theorem firstPoll?_eq_none_iff {call : Call} (accepted : call.IsAccepted) :
    call.activity.firstPoll? = none ↔ call.AnswersAtOnce ∨ call.RunsShort := by
  cases call with
  | sat strategy formula =>
    have validated : formula.validate = .ok () := accepted
    rw [activity, Activity.firstPoll?_map, Formula.solving, validated, Activity.ofExcept_ok_bind,
      Sat.reportedSearch, Activity.firstPoll?_reported, Sat.firstPoll?_search_eq_none_iff,
      AnswersAtOnce, RunsShort, or_false]
  | threeSat strategy formula =>
    obtain ⟨validated, three, taken⟩ := accepted
    rw [activity, Activity.firstPoll?_map, Formula.solvingThree, validated, Activity.ofExcept_ok_bind,
      taken, Activity.ofExcept_ok_bind, Sat.reportedSearch, Activity.firstPoll?_reported,
      Sat.firstPoll?_search_eq_none_iff, AnswersAtOnce, RunsShort, or_false, iff_false]
    -- A clause with three literals is never empty.
    rintro ⟨_, empty⟩
    obtain ⟨clause, _, isEmpty⟩ := List.mem_map.1 empty
    cases isEmpty
  | subsetSum strategy problem =>
    have validated : problem.validate = .ok () := accepted
    rw [activity, Activity.firstPoll?_map, SubsetSum.Instance.solving, validated,
      Activity.ofExcept_ok_bind, Activity.firstPoll?_reported,
      SubsetSum.firstPoll?_search_eq_none_iff, AnswersAtOnce, RunsShort]
    tauto

/-! ## Replies without limits -/

theorem exists_reply {call : Call} (accepted : call.IsAccepted) (fits : ¬ call.RunsShort) :
    ∃ reply, call.reply = .ok reply := by
  cases call with
  | sat strategy formula =>
    obtain ⟨answer, nodes, ended, _⟩ :=
      Sat.search_decides strategy (Formula.validate_eq_ok_iff.1 accepted)
    exact ⟨_, by rw [reply, Sat.solve_eq_search strategy accepted, ended]; rfl⟩
  | threeSat strategy formula =>
    obtain ⟨validated, three, taken⟩ := accepted
    obtain ⟨answer, nodes, ended, _⟩ :=
      Sat.search_decides strategy (Formula.validate_eq_ok_iff.1 validated)
    exact ⟨_, by rw [reply, Sat.solveThree_eq_search strategy validated taken, ended]; rfl⟩
  | subsetSum strategy problem =>
    obtain ⟨outcome, ended⟩ : ∃ outcome, (SubsetSum.search strategy problem).complete = .ok outcome := by
      cases strategy with
      | bruteForce => exact ⟨_, SubsetSum.complete_bruteForce problem⟩
      | backtracking => exact ⟨_, SubsetSum.complete_backtracking problem⟩
      | dynamicProgramming =>
        rw [SubsetSum.search]
        by_cases inRange : problem.TargetInRange
        · have enough := problem.not_tooLarge_iff.1 fun tooLarge => fits ⟨rfl, inRange, tooLarge⟩
          rw [SubsetSum.complete_dynamicProgramming_of_inRange inRange, enough]
          exact ⟨_, rfl⟩
        · exact ⟨_, SubsetSum.complete_dynamicProgramming_of_not_inRange inRange⟩
    exact ⟨_, by rw [reply, SubsetSum.solve_eq_search strategy accepted, ended]; rfl⟩

theorem exists_shortage {call : Call} (accepted : call.IsAccepted) (short : call.RunsShort) :
    ∃ cause, call.reply = .error (.exhausted (.space cause)) := by
  cases call with
  | sat strategy formula => exact short.elim
  | threeSat strategy formula => exact short.elim
  | subsetSum strategy problem =>
    obtain ⟨rfl, inRange, tooLarge⟩ := short
    obtain ⟨cause, isCause⟩ := problem.exists_shortage_iff.2 tooLarge
    refine ⟨cause, ?_⟩
    rw [reply, SubsetSum.solve_eq_search _ accepted, SubsetSum.search,
      SubsetSum.complete_dynamicProgramming_of_inRange inRange, isCause]
    rfl

theorem not_runsShort_of_answersAtOnce {call : Call} (atOnce : call.AnswersAtOnce) :
    ¬ call.RunsShort := by
  intro short
  cases call with
  | sat strategy formula => exact short
  | threeSat strategy formula => exact short
  | subsetSum strategy problem =>
    obtain ⟨_, isEmpty | outside⟩ := atOnce
    · exact SubsetSum.Instance.not_tooLarge_of_isEmpty isEmpty short.2.2
    · exact outside short.2.1

/-! ## Deadlines -/

/-- How an accepted call ends where the deadline is over from the start. Only the calls that do not poll
    end otherwise than interrupted. -/
structure EndsOverdue (clock : Clock) (budget : Budget) (call : Call) : Prop where
  interrupted_iff : (∃ nodes, call.replyWithin clock budget = .error (.interrupted nodes))
    ↔ ¬ call.AnswersAtOnce ∧ ¬ call.RunsShort
  answers_iff : (∃ reply, call.replyWithin clock budget = .ok reply) ↔ call.AnswersAtOnce
  runsShort_iff : (∃ cause, call.replyWithin clock budget = .error (.exhausted (.space cause)))
    ↔ call.RunsShort

variable {call : Call} {clock : Clock} {budget : Budget} {deadline : Moment}

/-- A call that polls is one that ends with a reply unless it is interrupted. -/
theorem exists_reply_of_polls {session : Session}
    (polls : call.activity.pollsFrom clock session ≠ []) : ∃ reply, call.reply = .ok reply := by
  rw [Ne, Activity.pollsFrom_eq_nil_iff, ← Ne, Option.ne_none_iff_exists'] at polls
  obtain ⟨nodes, isFirst⟩ := polls
  have accepted := isAccepted_of_firstPoll? isFirst
  refine exists_reply accepted fun short => ?_
  rw [(firstPoll?_eq_none_iff accepted).2 (.inr short)] at isFirst
  cases isFirst

theorem endsOverdue (accepted : call.IsAccepted)
    (heeds : call.activity.HeedsDeadline clock budget deadline) (overdue : deadline ≤ clock 0) :
    call.EndsOverdue clock budget := by
  by_cases unpolled : call.AnswersAtOnce ∨ call.RunsShort
  · -- Without polls the call ends as it does without limits.
    have replied : call.replyWithin clock budget = call.reply := by
      rw [← call.complete_activity]
      exact Activity.runFrom_result_of_firstPoll?_eq_none
        ((firstPoll?_eq_none_iff accepted).2 unpolled) []
    by_cases atOnce : call.AnswersAtOnce
    · have fits := not_runsShort_of_answersAtOnce atOnce
      obtain ⟨reply, isReply⟩ := exists_reply accepted fits
      refine ⟨?_, ?_, ?_⟩ <;> simp [replied, isReply, atOnce, fits]
    · have short := unpolled.resolve_left atOnce
      obtain ⟨cause, isCause⟩ := exists_shortage accepted short
      refine ⟨?_, ?_, ?_⟩ <;> simp [replied, isCause, atOnce, short]
  · obtain ⟨notAtOnce, fits⟩ := not_or.1 unpolled
    obtain ⟨nodes, isFirst⟩ := Option.ne_none_iff_exists'.1
      (mt (firstPoll?_eq_none_iff accepted).1 unpolled)
    have first := Activity.head?_pollsFrom clock (.start budget) call.activity
    rw [isFirst, Option.map_some, ← Option.mem_def] at first
    have replied : call.replyWithin clock budget = .error (.interrupted nodes) :=
      (heeds.overdue_at_first overdue _ first).2
    refine ⟨?_, ?_, ?_⟩ <;> simp [replied, notAtOnce, fits]

end Call

/-- Within a budget that nothing has polled before and by a clock that does not go back, every search for
    a model and every call heeds a deadline, and those that poll end with an answer unless they are
    interrupted. A deadline that is over from the start leaves only answers that need no search. -/
theorem heeds_deadline {clock : Clock} {budget : Budget} {deadline : Moment}
    (isMonotone : Monotone clock) (isDeadline : budget.deadline = some deadline)
    (isFresh : budget.nextReading = 0) :
    (∀ strategy numVariables clauses,
      (Sat.search strategy numVariables clauses).HeedsDeadline clock budget deadline
        ∧ (∃ outcome, (Sat.search strategy numVariables clauses).complete = .ok outcome)
        ∧ ((Sat.search strategy numVariables clauses).pollsFrom clock (.start budget) = []
          ↔ strategy ≠ .bruteForce ∧ [] ∈ clauses))
      ∧ ∀ call : Call,
        call.activity.HeedsDeadline clock budget deadline
          ∧ (call.activity.pollsFrom clock (.start budget) ≠ [] → ∃ reply, call.reply = .ok reply)
          ∧ (deadline ≤ clock 0 → call.IsAccepted → call.EndsOverdue clock budget) := by
  constructor
  · intro strategy numVariables clauses
    refine ⟨(Sat.paced_search strategy numVariables clauses).heedsDeadline isMonotone isDeadline isFresh,
      Sat.exists_complete_search strategy numVariables clauses, ?_⟩
    rw [Activity.pollsFrom_eq_nil_iff, Sat.firstPoll?_search_eq_none_iff]
  · intro call
    have heeds := call.paced_activity.heedsDeadline isMonotone isDeadline isFresh
    exact ⟨heeds, Call.exists_reply_of_polls, fun overdue accepted =>
      Call.endsOverdue accepted heeds overdue⟩

/-- A search that has its answer before the clock is read again, and under a deadline that is over from
    the start calls of all three kinds: one that polls, one that answers and one that is short of space. -/
theorem heeds_deadline_of_short_calls :
    (Call.sat .backtracking ⟨2, [[⟨1, true⟩, ⟨2, true⟩]]⟩).activity.HeedsDeadline id (.before 1) 1
      ∧ (∃ nodes, (Call.sat .bruteForce ⟨1, [[]]⟩).replyWithin (fun _ => 5) (.before 5)
        = .error (.interrupted nodes))
      ∧ (∃ reply, (Call.sat .dpll ⟨1, [[]]⟩).replyWithin (fun _ => 5) (.before 5) = .ok reply)
      ∧ ∃ cause, (Call.subsetSum .dynamicProgramming ⟨[2 ^ 64], 5⟩).replyWithin (fun _ => 5) (.before 5)
        = .error (.exhausted (.space cause)) := by
  have overdue (call : Call) (accepted : call.IsAccepted) :
      call.EndsOverdue (fun _ => 5) (.before 5) :=
    ((heeds_deadline monotone_const rfl rfl).2 call).2.2 (Nat.le_refl 5) accepted
  refine ⟨((heeds_deadline monotone_id rfl rfl).2 _).1, ?_, ?_, ?_⟩
  · exact (overdue (.sat .bruteForce ⟨1, [[]]⟩) rfl).interrupted_iff.2 ⟨fun atOnce => atOnce.1 rfl, id⟩
  · exact (overdue (.sat .dpll ⟨1, [[]]⟩) rfl).answers_iff.2 ⟨by decide, List.mem_cons_self⟩
  · have accepted : SubsetSum.Instance.validate ⟨[2 ^ 64], 5⟩ = .ok () := rfl
    exact (overdue (.subsetSum .dynamicProgramming ⟨[2 ^ 64], 5⟩) accepted).runsShort_iff.2
      ⟨rfl, by decide, by decide⟩

/-- A cap that the first poll exceeds keeps it from reading the clock. The next call reads it instead. -/
theorem not_forall_first_reads :
    (∃ first ∈ ((Call.sat .bruteForce ⟨1, [[⟨1, true⟩]]⟩).activity.pollsFrom (fun _ => 0)
          (.start ⟨some 0, some 0, 0⟩)).head?,
        first.readsClock = false)
      ∧ replies (fun _ => 0) (.start ⟨some 0, some 0, 0⟩)
          [.sat .bruteForce ⟨1, [[⟨1, true⟩]]⟩, .sat .dpll ⟨1, [[⟨1, true⟩]]⟩]
        = [.error (.interrupted 2), .error (.interrupted 0)] := by
  constructor
  · exact ⟨⟨2, 0, ⟨some 0, some 0, 0⟩⟩, by decide +kernel, by decide⟩
  · decide +kernel

end SatSum
