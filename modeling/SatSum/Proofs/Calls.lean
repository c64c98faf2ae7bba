import SatSum.Proofs.Interruption
import SatSum.Sat.Solve
import SatSum.SubsetSum.Solve
import Mathlib.Data.List.Forall2

/-! # Calls that share a budget

The searches for formulas and instances may be called one after the other within the same budget, which
keeps when the clock is read next. A call takes from this no more than its interruption: it replies
what it would without limits, or that it was interrupted because a limit is passed. Where the deadline
stays out of reach, not even the interruption depends on the calls before.

* `Call.run_result_eq_or`, `Call.run_result_of_outOfReach`: one call in any session.
* `replies_within_budget`: any calls in a row.
-/

namespace SatSum

open Activity (Clock Session)

/-- A request to decide a formula, a formula that has to have three-literal clauses, or an instance. -/
inductive Call
  | sat (strategy : Sat.Strategy) (formula : Formula)
  | threeSat (strategy : Sat.Strategy) (formula : Formula)
  | subsetSum (strategy : SubsetSum.Strategy) (problem : SubsetSum.Instance)
deriving DecidableEq, Repr

inductive Reply
  | sat (outcome : Outcome Sat.Answer)
  | subsetSum (outcome : Outcome SubsetSum.Answer)
deriving DecidableEq, Repr

namespace Call

def activity : Call → Activity Reply
  | sat strategy formula => Reply.sat <$> formula.solving strategy
  | threeSat strategy formula => Reply.sat <$> formula.solvingThree strategy
  | subsetSum strategy problem => Reply.subsetSum <$> problem.solving strategy

/-- The reply without limits. -/
def reply : Call → Except Fault Reply
  | sat strategy formula => Reply.sat <$> formula.solve strategy
  | threeSat strategy formula => Reply.sat <$> formula.solveThree strategy
  | subsetSum strategy problem => Reply.subsetSum <$> problem.solve strategy

/-- The reply within a budget that no call has used before. -/
def replyWithin (clock : Clock) (budget : Budget) (call : Call) : Except Fault Reply :=
  (call.activity.run clock (.start budget)).result

end Call

/-- The replies to calls one after the other, which share the session. -/
def replies (clock : Clock) (session : Session) : List Call → List (Except Fault Reply)
  | [] => []
  | call :: calls =>
    let run := call.activity.run clock session
    run.result :: replies clock run.session calls

namespace Call

variable {clock : Clock} {session : Session}

/-! ## One call -/

theorem complete_activity (call : Call) : call.activity.complete = call.reply := by
  cases call with
  | sat strategy formula => exact Activity.complete_map _ _
  | threeSat strategy formula => exact Activity.complete_map _ _
  | subsetSum strategy problem => exact Activity.complete_map _ _

theorem run_result_eq_or (clock : Clock) (session : Session) (call : Call) :
    (call.activity.run clock session).result = call.reply
      ∨ ∃ nodes, (call.activity.run clock session).result = .error (.interrupted nodes)
        ∧ session.budget.Spent clock nodes := by
  rw [← complete_activity]
  exact Activity.runFrom_result_eq_or clock session [] call.activity

theorem run_result_of_outOfReach (call : Call) (outOfReach : session.budget.OutOfReach clock) :
    (call.activity.run clock session).result
      = call.activity.completeWithin session.budget.maxNodes :=
  Activity.runFrom_result_of_outOfReach clock session [] call.activity outOfReach

end Call

/-! ## Calls in a row -/

theorem forall₂_replies (clock : Clock) (session : Session) (calls : List Call) :
    List.Forall₂
      (fun call result => result = call.reply
        ∨ ∃ nodes, result = .error (.interrupted nodes) ∧ session.budget.Spent clock nodes)
      calls (replies clock session calls) := by
  induction calls generalizing session with
  | nil => exact .nil
  | cons call calls inductionHypothesis =>
    have sameLimits := Activity.runFrom_session_limits clock session [] call.activity
    refine .cons (call.run_result_eq_or clock session) ?_
    refine (inductionHypothesis (call.activity.run clock session).session).imp ?_
    rintro later result (same | ⟨nodes, interrupted, spent⟩)
    · exact Or.inl same
    · exact Or.inr ⟨nodes, interrupted, spent.of_limits sameLimits⟩

/-- Where the deadline is out of reach, the calls before do not matter. -/
theorem replies_of_outOfReach {clock : Clock} (session : Session) (calls : List Call)
    (outOfReach : session.budget.OutOfReach clock) :
    replies clock session calls
      = calls.map fun call => call.activity.completeWithin session.budget.maxNodes := by
  induction calls generalizing session with
  | nil => rfl
  | cons call calls inductionHypothesis =>
    obtain ⟨sameMaxNodes, sameDeadline⟩ :=
      Activity.runFrom_session_limits clock session [] call.activity
    have stillOutOfReach : (call.activity.run clock session).session.budget.OutOfReach clock := by
      rw [Budget.OutOfReach, Activity.run, sameDeadline]
      exact outOfReach
    rw [replies, List.map_cons, call.run_result_of_outOfReach outOfReach,
      inductionHypothesis _ stillOutOfReach, Activity.run, sameMaxNodes]

/-- Calls within the same budget, whatever they are and whatever the clock shows: a reply is the one
    without limits, or an interruption because a limit is passed; while the deadline is out of reach, it
    is the one of the call alone; and without a deadline, the replies within a cap are those within every
    higher one. -/
theorem replies_within_budget (clock : Clock) (budget : Budget) (calls : List Call) :
    List.Forall₂
        (fun call result => result = call.reply
          ∨ ∃ nodes, result = .error (.interrupted nodes) ∧ budget.Spent clock nodes)
        calls (replies clock (.start budget) calls)
      ∧ (budget.OutOfReach clock →
        replies clock (.start budget) calls = calls.map (Call.replyWithin clock budget))
      ∧ (budget.deadline = none → ∀ cap higher, cap ≤ higher →
        List.Forall₂ (fun result other => ∀ reply, result = .ok reply → other = .ok reply)
          (replies clock (.start (budget.withMaxNodes cap)) calls)
          (replies clock (.start (budget.withMaxNodes higher)) calls)) := by
  refine ⟨forall₂_replies clock (.start budget) calls, ?_, ?_⟩
  · intro outOfReach
    rw [replies_of_outOfReach (.start budget) calls outOfReach]
    apply List.map_congr_left
    intro call _
    exact (call.run_result_of_outOfReach outOfReach).symm
  · intro noDeadline cap higher atMost
    have outOfReach (cap : Nat) : (budget.withMaxNodes cap).OutOfReach clock := by
      intro deadline isDeadline
      rw [Budget.withMaxNodes, noDeadline] at isDeadline
      cases isDeadline
    rw [replies_of_outOfReach (.start (budget.withMaxNodes cap)) calls (outOfReach cap),
      replies_of_outOfReach (.start (budget.withMaxNodes higher)) calls (outOfReach higher),
      List.forall₂_map_left_iff, List.forall₂_map_right_iff, List.forall₂_same]
    intro call _ reply ended
    exact Activity.completeWithin_mono atMost ended

/-- The first call replies within three nodes, the second would need a fourth. -/
example :
    replies (fun _ => 0) (.start ⟨some 3, some 1, 0⟩)
        [.sat .backtracking ⟨2, [[⟨1, true⟩, ⟨2, true⟩]]⟩, .subsetSum .bruteForce ⟨[1, 2], 3⟩]
      = [.ok (.sat ⟨.satisfiable [false, true], 3⟩), .error (.interrupted 4)] := by
  cbv

/-- Two calls under a deadline that stays out of reach. Under the higher cap the second one ends too. -/
theorem replies_within_budget_of_two :
    replies (fun _ => 0) (.start ⟨some 3, some 1, 0⟩)
        [.sat .backtracking ⟨2, [[⟨1, true⟩, ⟨2, true⟩]]⟩, .subsetSum .bruteForce ⟨[1, 2], 3⟩]
        = [.sat .backtracking ⟨2, [[⟨1, true⟩, ⟨2, true⟩]]⟩, .subsetSum .bruteForce ⟨[1, 2], 3⟩].map
          (Call.replyWithin (fun _ => 0) ⟨some 3, some 1, 0⟩)
      ∧ List.Forall₂ (fun result other => ∀ reply, result = .ok reply → other = .ok reply)
        (replies (fun _ => 0) (.start (Budget.unlimited.withMaxNodes 3))
          [.sat .backtracking ⟨2, [[⟨1, true⟩, ⟨2, true⟩]]⟩, .subsetSum .bruteForce ⟨[1, 2], 3⟩])
        (replies (fun _ => 0) (.start (Budget.unlimited.withMaxNodes 4))
          [.sat .backtracking ⟨2, [[⟨1, true⟩, ⟨2, true⟩]]⟩, .subsetSum .bruteForce ⟨[1, 2], 3⟩]) := by
  refine ⟨(replies_within_budget _ ⟨some 3, some 1, 0⟩ _).2.1 ?_,
    (replies_within_budget _ .unlimited _).2.2 rfl 3 4 (by decide)⟩
  intro deadline isDeadline _
  cases isDeadline
  exact Nat.one_pos

end SatSum
