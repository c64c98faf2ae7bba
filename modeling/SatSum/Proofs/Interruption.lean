import SatSum.Proofs.Activity

/-! # Interrupted activities

At a poll an activity learns from its budget only whether it may go on. So limits cannot change a
result, they can only keep it from being reached; and what one activity leaves in the session matters to
the next only for when the clock is read.

* `runFrom_result_eq_or`: a run ends as it would without limits, or is interrupted because one is passed.
* `runFrom_result_of_outOfReach`: where no moment reaches the deadline, only the cap matters.
* `completeWithin_mono`: a higher cap does not change a result.
* `Paced.exists_polled`: which caps interrupt an activity that polls ever higher counts.
-/

namespace SatSum

variable {α β : Type}

namespace Budget

/-- Polling leaves the limits as they are. -/
theorem check_limits (budget : Budget) (nodes : Nat) (now : Moment) :
    (budget.check nodes now).2.maxNodes = budget.maxNodes
      ∧ (budget.check nodes now).2.deadline = budget.deadline := by
  rw [check]
  split
  · exact ⟨rfl, rfl⟩
  · split
    · exact ⟨rfl, rfl⟩
    · split <;> exact ⟨rfl, rfl⟩

/-- A limit is passed: the cap by the node count, or the deadline at some moment of the clock. -/
def Spent (budget : Budget) (clock : Activity.Clock) (nodes : Nat) : Prop :=
  budget.isCapped nodes = true ∨ ∃ deadline ∈ budget.deadline, ∃ poll, deadline ≤ clock poll

theorem Spent.of_limits {budget other : Budget} {clock : Activity.Clock} {nodes : Nat}
    (spent : other.Spent clock nodes)
    (same : other.maxNodes = budget.maxNodes ∧ other.deadline = budget.deadline) :
    budget.Spent clock nodes := by
  rw [Spent, isCapped, same.1, same.2] at spent
  exact spent

theorem spent_of_check {budget : Budget} {clock : Activity.Clock} {nodes poll : Nat}
    (refused : (budget.check nodes (clock poll)).1 = false) : budget.Spent clock nodes := by
  rw [check] at refused
  split at refused
  next capped => exact Or.inl capped
  next =>
    split at refused
    next => cases refused
    next deadline isDeadline =>
      split at refused
      · cases refused
      · exact Or.inr ⟨deadline, isDeadline, poll, Nat.not_lt.1 (of_decide_eq_false refused)⟩

/-- No moment of the clock reaches the deadline. -/
def OutOfReach (budget : Budget) (clock : Activity.Clock) : Prop :=
  ∀ deadline ∈ budget.deadline, ∀ poll, clock poll < deadline

theorem OutOfReach.check_fst {budget : Budget} {clock : Activity.Clock}
    (outOfReach : budget.OutOfReach clock) (nodes poll : Nat) :
    (budget.check nodes (clock poll)).1 = !budget.isCapped nodes := by
  cases passes : (budget.check nodes (clock poll)).1 with
  | true =>
    rw [check] at passes
    split at passes
    next => cases passes
    next within => rw [Bool.eq_false_iff.2 within, Bool.not_false]
  | false =>
    rcases spent_of_check passes with capped | ⟨deadline, isDeadline, poll, reached⟩
    · rw [capped, Bool.not_true]
    · exact absurd (outOfReach deadline isDeadline poll) (Nat.not_lt.2 reached)

end Budget

namespace Activity

/-! ## Runs -/

theorem runFrom_result_eq_or (clock : Clock) (session : Session) (events : List Event)
    (activity : Activity α) :
    (activity.runFrom clock session events).result = activity.complete
      ∨ ∃ nodes, (activity.runFrom clock session events).result = .error (.interrupted nodes)
        ∧ session.budget.Spent clock nodes := by
  induction activity generalizing session events with
  | done result => exact Or.inl rfl
  | fail fault => exact Or.inl rfl
  | note event next inductionHypothesis => exact inductionHypothesis () session (event :: events)
  | poll nodes next inductionHypothesis =>
    have sameLimits := session.budget.check_limits nodes (clock session.polls)
    rw [runFrom, complete_poll]
    split
    next budget polled =>
      rw [polled] at sameLimits
      refine (inductionHypothesis () ⟨budget, session.polls + 1⟩ events).imp_right ?_
      rintro ⟨later, interrupted, spent⟩
      exact ⟨later, interrupted, spent.of_limits sameLimits⟩
    next budget polled =>
      have refused : (session.budget.check nodes (clock session.polls)).1 = false := by rw [polled]
      exact Or.inr ⟨nodes, rfl, Budget.spent_of_check refused⟩

theorem runFrom_session_limits (clock : Clock) (session : Session) (events : List Event)
    (activity : Activity α) :
    (activity.runFrom clock session events).session.budget.maxNodes = session.budget.maxNodes
      ∧ (activity.runFrom clock session events).session.budget.deadline = session.budget.deadline := by
  induction activity generalizing session events with
  | done result => exact ⟨rfl, rfl⟩
  | fail fault => exact ⟨rfl, rfl⟩
  | note event next inductionHypothesis => exact inductionHypothesis () session (event :: events)
  | poll nodes next inductionHypothesis =>
    have sameLimits := session.budget.check_limits nodes (clock session.polls)
    rw [runFrom]
    split
    next budget polled =>
      rw [polled] at sameLimits
      rw [← sameLimits.1, ← sameLimits.2]
      exact inductionHypothesis () ⟨budget, session.polls + 1⟩ events
    next budget polled =>
      rw [polled] at sameLimits
      exact sameLimits

/-! ## Caps -/

/-- The end of the activity if nothing but a cap interrupts it. -/
def completeWithin (maxNodes : Option Nat) : Activity α → Except Fault α
  | done result => .ok result
  | fail fault => .error fault
  | note _ next => completeWithin maxNodes (next ())
  | poll nodes next =>
    if maxNodes.any (· < nodes) then .error (.interrupted nodes)
    else completeWithin maxNodes (next ())

theorem runFrom_result_of_outOfReach (clock : Clock) (session : Session) (events : List Event)
    (activity : Activity α) (outOfReach : session.budget.OutOfReach clock) :
    (activity.runFrom clock session events).result
      = activity.completeWithin session.budget.maxNodes := by
  induction activity generalizing session events with
  | done result => rfl
  | fail fault => rfl
  | note event next inductionHypothesis =>
    exact inductionHypothesis () session (event :: events) outOfReach
  | poll nodes next inductionHypothesis =>
    have sameLimits := session.budget.check_limits nodes (clock session.polls)
    have passes := outOfReach.check_fst nodes session.polls
    rw [runFrom, completeWithin, ← Budget.isCapped]
    split
    next budget polled =>
      rw [polled] at sameLimits passes
      have within : session.budget.isCapped nodes = false := by simpa using passes.symm
      have stillOutOfReach : budget.OutOfReach clock := by
        rw [Budget.OutOfReach, sameLimits.2]
        exact outOfReach
      rw [within, if_neg Bool.false_ne_true, ← sameLimits.1]
      exact inductionHypothesis () ⟨budget, session.polls + 1⟩ events stillOutOfReach
    next budget polled =>
      rw [polled] at passes
      have capped : session.budget.isCapped nodes = true := by simpa using passes.symm
      rw [capped, if_pos rfl]

theorem run_capped_result (clock : Clock) (cap : Nat) (activity : Activity α) :
    (activity.run clock (.start (Budget.unlimited.withMaxNodes cap))).result
      = activity.completeWithin (some cap) :=
  runFrom_result_of_outOfReach clock _ [] activity fun _ isDeadline => nomatch isDeadline

theorem completeWithin_mono {activity : Activity α} {cap higher : Nat} {result : α}
    (atMost : cap ≤ higher) (ended : activity.completeWithin (some cap) = .ok result) :
    activity.completeWithin (some higher) = .ok result := by
  induction activity with
  | done other => exact ended
  | fail fault => exact ended
  | note event next inductionHypothesis => exact inductionHypothesis () ended
  | poll nodes next inductionHypothesis =>
    simp only [completeWithin, Option.any_some, decide_eq_true_eq] at ended ⊢
    by_cases capped : cap < nodes
    · rw [if_pos capped] at ended
      cases ended
    · rw [if_neg capped] at ended
      rw [if_neg (by omega)]
      exact inductionHypothesis () ended

/-! ## Pace -/

/-- From `before` on, each poll is at least as high as the one before it; and the result counts no fewer
    nodes than the last one, and at most `slack` more. -/
inductive Paced (count : α → Nat) (slack : Nat) : Nat → Activity α → Prop
  | done {before : Nat} {result : α} (atLeast : before ≤ count result)
      (atMost : count result ≤ before + slack) : Paced count slack before (.done result)
  | fail {before : Nat} {fault : Fault} : Paced count slack before (.fail fault)
  | note {before : Nat} {event : Event} {next : Unit → Activity α}
      (later : Paced count slack before (next ())) : Paced count slack before (.note event next)
  | poll {before nodes : Nat} {next : Unit → Activity α} (atLeast : before ≤ nodes)
      (later : Paced count slack nodes (next ())) : Paced count slack before (.poll nodes next)

variable {count : α → Nat} {countAfter : β → Nat} {slack before : Nat} {activity : Activity α}

theorem Paced.done_exact {result : α} (exact : count result = before) :
    Paced count slack before (.done result) :=
  .done (Nat.le_of_eq exact.symm) (Nat.le_add_right_of_le (Nat.le_of_eq exact))

theorem Paced.bind {next : α → Activity β} (paced : Paced count slack before activity)
    (goesOn : ∀ result last, last ≤ count result → count result ≤ last + slack →
      Paced countAfter slack last (next result)) :
    Paced countAfter slack before (activity >>= next) := by
  induction paced with
  | done atLeast atMost => exact goesOn _ _ atLeast atMost
  | fail => exact .fail
  | note later inductionHypothesis => exact .note inductionHypothesis
  | poll atLeast later inductionHypothesis => exact .poll atLeast inductionHypothesis

theorem Paced.map {change : α → β} (paced : Paced count slack before activity)
    (same : ∀ result, countAfter (change result) = count result) :
    Paced countAfter slack before (change <$> activity) := by
  refine paced.bind fun result last atLeast atMost => .done ?_ ?_
  · rwa [same]
  · rwa [same]

theorem Paced.ofExcept_bind {known : Except Fault β} {next : β → Activity α}
    (goesOn : ∀ result, known = .ok result → Paced count slack before (next result)) :
    Paced count slack before (ofExcept known >>= next) := by
  cases known with
  | error fault => exact .fail
  | ok result => exact goesOn result rfl

/-- Events around an activity do not change its pace. -/
theorem Paced.reported (first : Event) (last : α → Event)
    (paced : Paced count slack before activity) :
    Paced count slack before (do
      report first
      let result ← activity
      report (last result)
      return result) :=
  .note (paced.bind fun _ _ atLeast atMost => .note (.done atLeast atMost))

/-- The caps that interrupt an activity are those below the count polled last. -/
theorem Paced.exists_polled {result : α} (paced : Paced count slack before activity)
    (ended : activity.complete = .ok result) :
    ∃ polled, before ≤ polled ∧ polled ≤ count result ∧ count result ≤ polled + slack
      ∧ ∀ cap, before ≤ cap →
        (polled ≤ cap → activity.completeWithin (some cap) = .ok result)
        ∧ (cap < polled →
          ∃ nodes, cap < nodes ∧ activity.completeWithin (some cap) = .error (.interrupted nodes)) := by
  induction paced with
  | @done before other atLeast atMost =>
    cases ended
    exact ⟨before, Nat.le_refl _, atLeast, atMost, fun cap notBelow =>
      ⟨fun _ => rfl, fun below => absurd notBelow (Nat.not_le.2 below)⟩⟩
  | fail => cases ended
  | note later inductionHypothesis => exact inductionHypothesis ended
  | @poll before nodes next atLeast later inductionHypothesis =>
    obtain ⟨polled, higher, polledAtMost, slackAtMost, thresholds⟩ := inductionHypothesis ended
    refine ⟨polled, Nat.le_trans atLeast higher, polledAtMost, slackAtMost, fun cap _ => ?_⟩
    simp only [completeWithin, Option.any_some, decide_eq_true_eq]
    by_cases capped : cap < nodes
    · rw [if_pos capped]
      exact ⟨fun notBelow => by omega, fun _ => ⟨nodes, capped, rfl⟩⟩
    · rw [if_neg capped]
      exact thresholds cap (Nat.not_lt.1 capped)

end Activity

end SatSum
