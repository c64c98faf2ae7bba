import SatSum.Proofs.Interruption
import Mathlib.Order.Monotone.Basic

/-! # Polls

The polls of a run are listed as the budget finds them. The clock is read at the first poll of a fresh
budget and then once every 256 nodes, so a deadline that has gone by may stay unnoticed for a while. How
long is a matter of three things: the counts polled never fall, the next reading is never due later than
256 nodes after some count polled before, and a clock that does not go back keeps the deadline over.

* `Activity.endsBy_runFrom`: a run ends by its polls.
* `Activity.refused_of_overdue`: from the first reading after the deadline no poll passes.
* `Activity.overdue_polls`: so no poll passes 256 nodes after one at which the deadline is over.
* `Activity.firstPoll?`: the poll at which a deadline already over interrupts.
* `Activity.Paced.heedsDeadline`: what a fresh budget with a deadline does to a run.
-/

namespace SatSum

open Activity (Clock Session Paced)

variable {α β : Type}

/-! ## Polls -/

/-- A poll that a run makes: the node count, the moment, and the budget as the poll finds it. -/
structure Poll where
  nodes : Nat
  moment : Moment
  budget : Budget
deriving DecidableEq, Repr

namespace Poll

variable {poll : Poll} {deadline : Moment}

/-- The search may go on. -/
def passes (poll : Poll) : Bool :=
  (poll.budget.check poll.nodes poll.moment).1

/-- The budget from then on. -/
def budgetAfter (poll : Poll) : Budget :=
  (poll.budget.check poll.nodes poll.moment).2

/-- The clock is looked at: the cap is not passed, and a reading is due. -/
def readsClock (poll : Poll) : Bool :=
  !poll.budget.isCapped poll.nodes && poll.budget.isDue poll.nodes

/-- Without a reading only the cap counts, and the budget stays as it is. -/
theorem check_of_not_readsClock (unread : poll.readsClock = false) :
    poll.passes = !poll.budget.isCapped poll.nodes ∧ poll.budgetAfter = poll.budget := by
  rw [readsClock] at unread
  rw [passes, budgetAfter, Budget.check]
  split
  next capped => exact ⟨by rw [capped]; rfl, rfl⟩
  next within =>
    rw [Bool.eq_false_iff.2 within, Bool.not_false, Bool.true_and, Budget.isDue] at unread
    rw [Bool.eq_false_iff.2 within]
    split
    next => exact ⟨rfl, rfl⟩
    next deadline isDeadline =>
      rw [isDeadline, Option.isSome_some, Bool.true_and, decide_eq_false_iff_not] at unread
      rw [if_pos (Nat.lt_of_not_le unread)]
      exact ⟨rfl, rfl⟩

theorem exists_deadline_of_readsClock (read : poll.readsClock = true) :
    ∃ deadline, poll.budget.deadline = some deadline := by
  rw [readsClock, Bool.and_eq_true, Budget.isDue, Bool.and_eq_true] at read
  exact Option.isSome_iff_exists.1 read.2.1

/-- A reading decides by the deadline, and puts the next one off. -/
theorem check_of_readsClock (isDeadline : poll.budget.deadline = some deadline)
    (read : poll.readsClock = true) :
    poll.passes = decide (poll.moment < deadline)
      ∧ poll.budgetAfter
        = { poll.budget with nextReading := addSaturating poll.nodes Budget.stride } := by
  rw [readsClock, Bool.and_eq_true, Bool.not_eq_true', Budget.isDue, Bool.and_eq_true,
    decide_eq_true_iff] at read
  obtain ⟨within, _, due⟩ := read
  rw [passes, budgetAfter, Budget.check, within, if_neg Bool.false_ne_true, isDeadline]
  dsimp only
  rw [if_neg (Nat.not_lt.2 due)]
  exact ⟨rfl, by rw [isDeadline]⟩

/-- Once the deadline is over, a reading refuses the poll. -/
theorem unread_of_overdue (isDeadline : poll.budget.deadline = some deadline)
    (overdue : deadline ≤ poll.moment) (passes : poll.passes = true) : poll.readsClock = false := by
  rw [Bool.eq_false_iff]
  intro read
  rw [(check_of_readsClock isDeadline read).1, decide_eq_true_iff] at passes
  exact Nat.not_lt.2 overdue passes

theorem budgetAfter_of_overdue (isDeadline : poll.budget.deadline = some deadline)
    (overdue : deadline ≤ poll.moment) (passes : poll.passes = true) :
    poll.budgetAfter = poll.budget :=
  (check_of_not_readsClock (unread_of_overdue isDeadline overdue passes)).2

theorem refused_of_overdue (isDeadline : poll.budget.deadline = some deadline)
    (overdue : deadline ≤ poll.moment) (due : poll.budget.nextReading ≤ poll.nodes) :
    poll.passes = false := by
  rw [Bool.eq_false_iff]
  intro passes
  have unread := unread_of_overdue isDeadline overdue passes
  rw [(check_of_not_readsClock unread).1] at passes
  rw [readsClock, passes, Bool.true_and, Budget.isDue, isDeadline, Option.isSome_some, Bool.true_and,
    decide_eq_false_iff_not] at unread
  exact unread due

theorem nextReading_budgetAfter_le
    (soon : poll.budget.nextReading ≤ poll.nodes + Budget.stride) :
    poll.budgetAfter.nextReading ≤ poll.nodes + Budget.stride := by
  cases read : poll.readsClock with
  | false =>
    rw [(check_of_not_readsClock read).2]
    exact soon
  | true =>
    obtain ⟨deadline, isDeadline⟩ := exists_deadline_of_readsClock read
    rw [(check_of_readsClock isDeadline read).2]
    exact Nat.min_le_left _ _

end Poll

namespace Activity

/-- The polls of a run, up to the first that does not pass. -/
def pollsFrom (clock : Clock) (session : Session) : Activity α → List Poll
  | done _ => []
  | fail _ => []
  | note _ next => pollsFrom clock session (next ())
  | poll nodes next =>
    let made : Poll := ⟨nodes, clock session.polls, session.budget⟩
    if made.passes then made :: pollsFrom clock ⟨made.budgetAfter, session.polls + 1⟩ (next ())
    else [made]

/-- How a run with these polls ends: as without limits once all have passed, or interrupted by the one
    that does not. -/
inductive EndsBy (unlimited : Except Fault α) : List Poll → Except Fault α → Prop
  | finished {polls : List Poll} (passed : ∀ poll ∈ polls, poll.passes = true) :
      EndsBy unlimited polls unlimited
  | interrupted {polls : List Poll} {last : Poll} (passed : ∀ poll ∈ polls, poll.passes = true)
      (refused : last.passes = false) :
      EndsBy unlimited (polls ++ [last]) (.error (.interrupted last.nodes))

theorem EndsBy.interrupted_of_refused {unlimited result : Except Fault α} {polls : List Poll} {last : Poll}
    (refused : last.passes = false) (ends : EndsBy unlimited (polls ++ [last]) result) :
    result = .error (.interrupted last.nodes) := by
  generalize whole : polls ++ [last] = all at ends
  cases ends with
  | finished passed =>
    rw [passed last (whole ▸ List.mem_append_right _ List.mem_cons_self)] at refused
    cases refused
  | interrupted passed otherRefused =>
    obtain ⟨rfl, same⟩ := List.append_inj' whole rfl
    obtain rfl := List.singleton_inj.1 same
    rfl

theorem EndsBy.cons {unlimited result : Except Fault α} {polls : List Poll} {first : Poll}
    (passes : first.passes = true) (ends : EndsBy unlimited polls result) :
    EndsBy unlimited (first :: polls) result := by
  cases ends with
  | finished passed => exact .finished (List.forall_mem_cons.2 ⟨passes, passed⟩)
  | @interrupted earlier last passed refused =>
    rw [← List.cons_append]
    exact .interrupted (List.forall_mem_cons.2 ⟨passes, passed⟩) refused

theorem runFrom_poll (clock : Clock) (session : Session) (events : List Event) (nodes : Nat)
    (next : Unit → Activity α) :
    (poll nodes next).runFrom clock session events =
      let made : Poll := ⟨nodes, clock session.polls, session.budget⟩
      if made.passes then (next ()).runFrom clock ⟨made.budgetAfter, session.polls + 1⟩ events
      else ⟨.error (.interrupted nodes), ⟨made.budgetAfter, session.polls + 1⟩, events.reverse⟩ := by
  cases checked : session.budget.check nodes (clock session.polls) with
  | mk passes budget =>
    simp only [runFrom, Poll.passes, Poll.budgetAfter, checked]
    cases passes with
    | true => rfl
    | false => rfl

theorem endsBy_runFrom (clock : Clock) (session : Session) (events : List Event)
    (activity : Activity α) :
    EndsBy activity.complete (activity.pollsFrom clock session)
      (activity.runFrom clock session events).result := by
  induction activity generalizing session events with
  | done result => exact .finished fun _ member => nomatch member
  | fail fault => exact .finished fun _ member => nomatch member
  | note event next inductionHypothesis => exact inductionHypothesis () session (event :: events)
  | poll nodes next inductionHypothesis =>
    rw [pollsFrom, runFrom_poll]
    simp only
    split
    next passes => exact (inductionHypothesis () _ events).cons passes
    next refused =>
      have noneEarlier : ∀ poll ∈ ([] : List Poll), poll.passes = true := fun _ member => nomatch member
      exact .interrupted noneEarlier (Bool.eq_false_iff.2 refused)

/-! ## Polls after the deadline -/

variable {clock : Clock} {session : Session} {deadline : Moment} {activity : Activity α}
  {count : α → Nat} {slack before : Nat}

theorem le_nodes_of_mem_pollsFrom (paced : Paced count slack before activity) {made : Poll}
    (member : made ∈ activity.pollsFrom clock session) : before ≤ made.nodes := by
  induction paced generalizing session with
  | done => cases member
  | fail => cases member
  | note later inductionHypothesis => exact inductionHypothesis member
  | @poll before nodes next atLeast later inductionHypothesis =>
    rw [pollsFrom] at member
    split at member
    next =>
      rcases List.mem_cons.1 member with rfl | isLater
      · exact atLeast
      · exact Nat.le_trans atLeast (inductionHypothesis isLater)
    next =>
      obtain rfl := List.mem_singleton.1 member
      exact atLeast

/-- Once the deadline is over, polls that pass leave the next reading due where it is, and from there on
    none passes. -/
theorem refused_of_overdue (isMonotone : Monotone clock)
    (isDeadline : session.budget.deadline = some deadline) (overdue : deadline ≤ clock session.polls)
    {made : Poll} (member : made ∈ activity.pollsFrom clock session)
    (due : session.budget.nextReading ≤ made.nodes) : made.passes = false := by
  induction activity generalizing session with
  | done result => cases member
  | fail fault => cases member
  | note event next inductionHypothesis =>
    exact inductionHypothesis () isDeadline overdue member due
  | poll nodes next inductionHypothesis =>
    rw [pollsFrom] at member
    split at member
    next passes =>
      rcases List.mem_cons.1 member with rfl | isLater
      · exact Poll.refused_of_overdue isDeadline overdue due
      · rw [Poll.budgetAfter_of_overdue isDeadline overdue passes] at isLater
        refine inductionHypothesis () ?_ ?_ isLater due
        · exact isDeadline
        · exact Nat.le_trans overdue (isMonotone (Nat.le_succ session.polls))
    next refused =>
      obtain rfl := List.mem_singleton.1 member
      exact Bool.eq_false_iff.2 refused

/-- The next reading is due at most 256 nodes after a count polled before, so a deadline that is over at
    some poll is noticed 256 nodes later at the latest. -/
theorem overdue_polls (isMonotone : Monotone clock) (paced : Paced count slack before activity)
    (isDeadline : session.budget.deadline = some deadline)
    (soon : session.budget.nextReading ≤ before + Budget.stride) {made later : Poll}
    (member : made ∈ activity.pollsFrom clock session) (overdue : deadline ≤ made.moment)
    (laterMember : later ∈ activity.pollsFrom clock session)
    (much : made.nodes + Budget.stride ≤ later.nodes) : later.passes = false := by
  have positive : 0 < Budget.stride := by decide
  induction paced generalizing session with
  | done => cases member
  | fail => cases member
  | note _ inductionHypothesis => exact inductionHypothesis isDeadline soon member laterMember
  | @poll before nodes next atLeast paced inductionHypothesis =>
    rw [pollsFrom] at member laterMember
    split at member
    next passes =>
      rw [if_pos passes] at laterMember
      rcases List.mem_cons.1 member with rfl | isAfter
      · -- The overdue poll is this one; it has passed, so it has not read the clock.
        rcases List.mem_cons.1 laterMember with rfl | laterAfter
        · omega
        · rw [Poll.budgetAfter_of_overdue isDeadline overdue passes] at laterAfter
          have sameDeadline : (Session.mk session.budget (session.polls + 1)).budget.deadline
            = some deadline := isDeadline
          refine refused_of_overdue isMonotone sameDeadline ?_ laterAfter ?_
          · exact Nat.le_trans overdue (isMonotone (Nat.le_succ session.polls))
          · exact Nat.le_trans soon (Nat.le_trans (Nat.add_le_add_right atLeast _) much)
      · have notLess := le_nodes_of_mem_pollsFrom paced isAfter
        rcases List.mem_cons.1 laterMember with rfl | laterAfter
        · simp only at much
          omega
        · refine inductionHypothesis ?_ ?_ isAfter laterAfter
          · rw [← isDeadline]
            exact (Budget.check_limits _ _ _).2
          · exact Poll.nextReading_budgetAfter_le
              (Nat.le_trans soon (Nat.add_le_add_right atLeast _))
    next refused =>
      rw [if_neg refused] at laterMember
      obtain rfl := List.mem_singleton.1 laterMember
      exact Bool.eq_false_iff.2 refused

/-! ## The first poll -/

/-- The node count of the first poll; none for an activity that ends without one. -/
def firstPoll? : Activity α → Option Nat
  | done _ => none
  | fail _ => none
  | note _ next => firstPoll? (next ())
  | poll nodes _ => some nodes

theorem head?_pollsFrom (clock : Clock) (session : Session) (activity : Activity α) :
    (activity.pollsFrom clock session).head?
      = activity.firstPoll?.map fun nodes => ⟨nodes, clock session.polls, session.budget⟩ := by
  induction activity with
  | done result => rfl
  | fail fault => rfl
  | note event next inductionHypothesis => exact inductionHypothesis ()
  | poll nodes next =>
    rw [pollsFrom]
    split <;> rfl

theorem pollsFrom_eq_nil_iff : activity.pollsFrom clock session = [] ↔ activity.firstPoll? = none := by
  rw [← List.head?_eq_none_iff, head?_pollsFrom, Option.map_eq_none_iff]

/-- An activity that polls is interrupted at its first poll if the budget refuses that one. -/
theorem pollsFrom_of_refused {nodes : Nat} (isFirst : activity.firstPoll? = some nodes)
    (refused : (Poll.mk nodes (clock session.polls) session.budget).passes = false) :
    activity.pollsFrom clock session = [⟨nodes, clock session.polls, session.budget⟩] := by
  induction activity with
  | done result => cases isFirst
  | fail fault => cases isFirst
  | note event next inductionHypothesis => exact inductionHypothesis () isFirst
  | poll other next =>
    cases isFirst
    rw [pollsFrom]
    simp only [refused, Bool.false_eq_true, if_false]

theorem runFrom_result_of_firstPoll?_eq_none (unpolled : activity.firstPoll? = none)
    (events : List Event) : (activity.runFrom clock session events).result = activity.complete := by
  induction activity generalizing events with
  | done result => rfl
  | fail fault => rfl
  | note event next inductionHypothesis => exact inductionHypothesis () unpolled (event :: events)
  | poll nodes next => cases unpolled

/-! ## A deadline -/

/-- A run within a deadline. The clock is read at the first poll, unless the cap refuses it; after a poll
    at which the deadline is over, none 256 nodes later passes; and the run ends as without limits or is
    interrupted at its last poll, which is the first one if the deadline is over from the start. -/
structure HeedsDeadline (clock : Clock) (budget : Budget) (deadline : Moment) (activity : Activity α) :
    Prop where
  first_reads : ∀ first ∈ (activity.pollsFrom clock (.start budget)).head?,
    first.readsClock = !budget.isCapped first.nodes
  later_refused : ∀ made ∈ activity.pollsFrom clock (.start budget), deadline ≤ made.moment →
    ∀ later ∈ activity.pollsFrom clock (.start budget),
      made.nodes + 256 ≤ later.nodes → later.passes = false
  ends : EndsBy activity.complete (activity.pollsFrom clock (.start budget))
    (activity.run clock (.start budget)).result
  overdue_at_first : deadline ≤ clock 0 →
    ∀ first ∈ (activity.pollsFrom clock (.start budget)).head?,
      activity.pollsFrom clock (.start budget) = [first]
        ∧ (activity.run clock (.start budget)).result = .error (.interrupted first.nodes)

/-- A fresh budget keeps its deadline whatever is run, if the counts polled never fall. -/
theorem Paced.heedsDeadline {budget : Budget} (paced : Paced count slack 0 activity)
    (isMonotone : Monotone clock) (isDeadline : budget.deadline = some deadline)
    (isFresh : budget.nextReading = 0) : activity.HeedsDeadline clock budget deadline where
  first_reads := by
    intro first isFirst
    rw [head?_pollsFrom, Option.mem_def, Option.map_eq_some_iff] at isFirst
    obtain ⟨nodes, _, rfl⟩ := isFirst
    have due : budget.isDue nodes = true := by
      rw [Budget.isDue, isDeadline, isFresh, Option.isSome_some, Bool.true_and, decide_eq_true_iff]
      exact Nat.zero_le nodes
    rw [Poll.readsClock]
    simp only [Session.start, due, Bool.and_true]
  later_refused := by
    intro made member overdue later laterMember much
    have soon : (Session.start budget).budget.nextReading ≤ 0 + Budget.stride := by
      simp only [Session.start, isFresh, Nat.zero_le]
    exact overdue_polls isMonotone paced isDeadline soon member overdue laterMember much
  ends := endsBy_runFrom clock (.start budget) [] activity
  overdue_at_first := by
    intro overdue first isFirst
    rw [head?_pollsFrom, Option.mem_def, Option.map_eq_some_iff] at isFirst
    obtain ⟨nodes, isFirst, rfl⟩ := isFirst
    have due : budget.nextReading ≤ nodes := isFresh ▸ Nat.zero_le nodes
    have refused : (Poll.mk nodes (clock 0) budget).passes = false :=
      Poll.refused_of_overdue isDeadline overdue due
    have onlyPoll : activity.pollsFrom clock (.start budget) = [] ++ [⟨nodes, clock 0, budget⟩] :=
      pollsFrom_of_refused isFirst refused
    have ends := endsBy_runFrom clock (.start budget) [] activity
    rw [onlyPoll] at ends
    exact ⟨onlyPoll, ends.interrupted_of_refused refused⟩

/-! ## First polls of compositions -/

/-- What follows does not matter if it does not poll. -/
theorem firstPoll?_bind {next : α → Activity β} (quiet : ∀ result, (next result).firstPoll? = none) :
    (activity >>= next).firstPoll? = activity.firstPoll? := by
  induction activity with
  | done result => exact quiet result
  | fail fault => rfl
  | note event rest inductionHypothesis => exact inductionHypothesis ()
  | poll nodes rest => rfl

theorem firstPoll?_map (change : α → β) (activity : Activity α) :
    (change <$> activity).firstPoll? = activity.firstPoll? :=
  firstPoll?_bind fun _ => rfl

theorem firstPoll?_reported (first : Event) (last : α → Event) (activity : Activity α) :
    (do
      report first
      let result ← activity
      report (last result)
      return result).firstPoll? = activity.firstPoll? := by
  show (activity >>= fun result => report (last result) >>= fun _ => pure result).firstPoll? = _
  exact firstPoll?_bind fun _ => rfl

end Activity

end SatSum
