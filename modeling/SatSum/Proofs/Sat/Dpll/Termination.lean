import SatSum.Proofs.Sat.BruteForce
import SatSum.Proofs.Sat.Dpll.Rounds
import SatSum.Sat.Solve

/-! # How long propagation with decisions takes

A round that goes on binds a variable, and the bindings ahead are those of a tree. So the limit on the
rounds is never reached: a higher one changes nothing. No round binds more than there are variables, and
all rounds together bind no more than that for each valuation up to the answer, for which enumeration
pays one more.

* `rounds_eq_of_enough`: the limit does not matter.
* `steady_rounds`: what is bound between polls.
* `dpll_terminates`: a whole run, compared with enumeration.
-/

namespace SatSum

namespace Activity

variable {α : Type}

/-- The node counts at the polls of the activity and at its end, if nothing interrupts it. -/
def counts (count : α → Nat) : Activity α → List Nat
  | done result => [count result]
  | fail _ => []
  | note _ next => counts count (next ())
  | poll nodes next => nodes :: counts count (next ())

/-- From `before` on, the nodes counted between a poll and the next, or the end, are at most `stride`. -/
def Steady (count : α → Nat) (stride before : Nat) (activity : Activity α) : Prop :=
  (before :: activity.counts count).IsChain fun earlier later =>
    earlier ≤ later ∧ later ≤ earlier + stride

end Activity

namespace Sat

namespace Dpll

open Activity (Steady)

variable {formula : Formula} {path : Path} {queue : List Nat}

/-! ## The limit -/

/-- Limits above the bindings ahead are all the same to a run. -/
theorem rounds_eq_of_enough (within : ∀ clause ∈ formula.clauses, clause.Within formula.numVariables)
    (limit other nodes : Nat) (reached : Path.Reached formula path)
    (queued : Path.QueueUnits formula path queue) (enough : path.ahead formula.numVariables < limit)
    (enoughOther : path.ahead formula.numVariables < other) :
    rounds limit (path.state formula queue nodes) = rounds other (path.state formula queue nodes) := by
  induction limit generalizing path queue nodes other with
  | zero => exact absurd enough (Nat.not_lt_zero _)
  | succ limit inductionHypothesis =>
    obtain ⟨other, rfl⟩ := Nat.exists_eq_succ_of_ne_zero (Nat.ne_zero_of_lt enoughOther)
    obtain ⟨turn, unfolds, isTurn⟩ := Path.rounds_succ within path queue nodes reached queued
    have sameTurn : turn limit = turn other := by
      clear unfolds
      induction isTurn with
      | settled => rfl
      | goesOn after newQueue bindings reached queued progress few advances =>
        have fewerAhead := advances.ahead
        exact inductionHypothesis other (nodes + bindings) reached queued (by omega) (by omega)
      | note event turn same => exact congrArg (fun rest => Activity.note event fun _ => rest) same
    rw [unfolds, unfolds, sameTurn]

/-! ## Between polls -/

/-- A run polls after each round, and no round makes more bindings than there are variables. -/
theorem steady_rounds (within : ∀ clause ∈ formula.clauses, clause.Within formula.numVariables)
    (limit before nodes : Nat) (reached : Path.Reached formula path)
    (queued : Path.QueueUnits formula path queue) (atLeast : before ≤ nodes)
    (atMost : nodes ≤ before + formula.numVariables) :
    (rounds limit (path.state formula queue nodes)).Steady Outcome.nodes formula.numVariables before := by
  induction limit generalizing path queue before nodes with
  | zero => exact .cons_cons ⟨atLeast, atMost⟩ (.singleton _)
  | succ limit inductionHypothesis =>
    obtain ⟨turn, unfolds, isTurn⟩ := Path.rounds_succ within path queue nodes reached queued
    have later : (turn limit).Steady Outcome.nodes formula.numVariables nodes := by
      clear unfolds
      induction isTurn with
      | settled answer bindings decides few fewer paid =>
        exact .cons_cons ⟨Nat.le_add_right _ _, Nat.add_le_add_left few _⟩ (.singleton _)
      | goesOn after newQueue bindings reached queued progress few advances =>
        exact inductionHypothesis nodes (nodes + bindings) reached queued (Nat.le_add_right _ _)
          (Nat.add_le_add_left few _)
      | note event turn steady => exact steady
    rw [unfolds]
    exact .cons_cons ⟨atLeast, atMost⟩ later

/-! ## Whole runs -/

theorem steady_dpll (formula : Formula)
    (within : ∀ clause ∈ formula.clauses, clause.Within formula.numVariables) :
    (dpll formula.numVariables formula.clauses).Steady Outcome.nodes formula.numVariables 0 := by
  rw [dpll, ← Path.state_nil]
  cases found : (Path.state formula [] [] 0).queueUnits? with
  | none => exact .cons_cons ⟨Nat.le_refl _, Nat.zero_le _⟩ (.singleton _)
  | some queued =>
    obtain ⟨queue, rfl, reached, queued⟩ := Path.queueUnits?_eq_some found
    exact steady_rounds within _ 0 0 reached queued (Nat.le_refl _) (Nat.zero_le _)

/-- A higher limit on the rounds does not change a run. -/
theorem rounds_eq_dpll (formula : Formula)
    (within : ∀ clause ∈ formula.clauses, clause.Within formula.numVariables) {start : State}
    (started : (State.ofClauses formula.numVariables formula.clauses).queueUnits? = some start)
    {limit : Nat} (enough : 2 ^ (formula.numVariables + 1) ≤ limit) :
    rounds limit start = dpll formula.numVariables formula.clauses := by
  rw [dpll, started]
  rw [← Path.state_nil] at started
  obtain ⟨queue, rfl, reached, queued⟩ := Path.queueUnits?_eq_some started
  simp only [Nat.one_shiftLeft]
  exact rounds_eq_of_enough within _ _ 0 reached queued (Path.ahead_nil_lt.trans_le enough)
    Path.ahead_nil_lt

end Dpll

/-! ## Comparison with enumeration -/

theorem Answer.candidates_pos (numVariables : Nat) (answer : Answer) :
    0 < answer.candidates numVariables := by
  cases answer with
  | satisfiable valuation => exact Nat.succ_pos _
  | unsatisfiable => exact Nat.two_pow_pos _

/-- A tree over one variable or more has no more edges than enumeration has values to look up. -/
theorem two_pow_sub_two_le {numVariables : Nat} (hasVariable : 0 < numVariables) :
    2 ^ (numVariables + 1) - 2 ≤ numVariables * 2 ^ numVariables := by
  rcases Nat.eq_or_lt_of_le hasVariable with rfl | more
  · decide
  · calc 2 ^ (numVariables + 1) - 2 ≤ 2 * 2 ^ numVariables := by
          rw [Nat.pow_succ, Nat.mul_comm]
          exact Nat.sub_le _ _
      _ ≤ numVariables * 2 ^ numVariables := Nat.mul_le_mul_right _ more

/-- Propagation with decisions comes to its end without the limit on its rounds, which could be any
    higher one. It makes no more bindings than a binary tree over the variables has, no more than there
    are variables between two polls or after the last one, and fewer than enumeration pays for. -/
theorem dpll_terminates (numVariables : Nat) (clauses : List Clause) (hasVariable : 0 < numVariables)
    (within : ∀ clause ∈ clauses, clause.Within numVariables) :
    (∀ start, (Dpll.State.ofClauses numVariables clauses).queueUnits? = some start →
        ∀ limit, 2 ^ (numVariables + 1) ≤ limit →
          Dpll.rounds limit start = search .dpll numVariables clauses)
      ∧ (search .dpll numVariables clauses).Steady Outcome.nodes numVariables 0
      ∧ ∃ answer nodes paid, answer.Decides ⟨numVariables, clauses⟩
        ∧ (search .dpll numVariables clauses).complete = .ok ⟨answer, nodes⟩
        ∧ nodes ≤ 2 ^ (numVariables + 1) - 2
        ∧ (search .bruteForce numVariables clauses).complete = .ok ⟨answer, paid⟩
        ∧ (numVariables ≤ 63 → nodes < paid) := by
  obtain ⟨answer, nodes, ended, decides, fewer, perCandidate⟩ :=
    Dpll.dpll_spec ⟨numVariables, clauses⟩ within
  rw [Nat.zero_add] at ended
  rw [Dpll.Path.ahead_nil] at fewer
  have sameAnswer := decides.unique (leastAnswer_decides ⟨numVariables, clauses⟩)
  have enumerated := complete_bruteForce numVariables clauses
  rw [← sameAnswer] at enumerated
  refine ⟨fun start started limit => Dpll.rounds_eq_dpll ⟨numVariables, clauses⟩ within started,
    Dpll.steady_dpll ⟨numVariables, clauses⟩ within, answer, nodes, _, decides, ended, fewer,
    enumerated, ?_⟩
  apply lt_nodes_bruteForce (answer.candidates_pos numVariables)
  · cases answer with
    | satisfiable valuation => exact (Nat.le_add_left _ _).trans (perCandidate valuation rfl)
    | unsatisfiable => exact fewer.trans (two_pow_sub_two_le hasVariable)
  · have := Nat.two_pow_pos numVariables
    rw [Nat.pow_succ] at fewer ⊢
    simp only at fewer
    omega

/-- The first decision meets a conflict in propagation, and its second value satisfies both clauses. -/
theorem dpll_terminates_after_conflict :
    (∃ start, (Dpll.State.ofClauses 2 [[⟨1, true⟩, ⟨2, true⟩], [⟨1, true⟩, ⟨2, false⟩]]).queueUnits?
          = some start
        ∧ Dpll.rounds 9 start = search .dpll 2 [[⟨1, true⟩, ⟨2, true⟩], [⟨1, true⟩, ⟨2, false⟩]])
      ∧ (search .dpll 2 [[⟨1, true⟩, ⟨2, true⟩], [⟨1, true⟩, ⟨2, false⟩]]).Steady Outcome.nodes 2 0
      ∧ ∃ nodes, (search .dpll 2 [[⟨1, true⟩, ⟨2, true⟩], [⟨1, true⟩, ⟨2, false⟩]]).complete
          = .ok ⟨.satisfiable [true, false], nodes⟩
        ∧ nodes ≤ 6
        ∧ (search .bruteForce 2 [[⟨1, true⟩, ⟨2, true⟩], [⟨1, true⟩, ⟨2, false⟩]]).complete
          = .ok ⟨.satisfiable [true, false], 9⟩
        ∧ nodes < 9 := by
  obtain ⟨unlimited, steady, answer, nodes, paid, decides, ended, fewer, enumerated, less⟩ :=
    dpll_terminates 2 [[⟨1, true⟩, ⟨2, true⟩], [⟨1, true⟩, ⟨2, false⟩]] (by decide)
      (by simp [Clause.Within])
  have known := complete_bruteForce 2 [[⟨1, true⟩, ⟨2, true⟩], [⟨1, true⟩, ⟨2, false⟩]]
  cases enumerated.symm.trans known
  exact ⟨⟨_, rfl, unlimited _ rfl 9 (by decide)⟩, steady, nodes, ended, fewer, enumerated,
    less (by decide)⟩

end Sat

end SatSum
