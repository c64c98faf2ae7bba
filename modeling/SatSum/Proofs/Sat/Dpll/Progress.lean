import SatSum.Proofs.Sat.Completion
import SatSum.Proofs.Sat.Dpll.LeastModel

/-! # How far a path is

A path is between two bounds. The bindings that can still follow it are those of a binary tree over the
free variables, and of one for each decision whose second value is untried. And the bindings made before
it are no more than enumeration has made on its way to the valuation of the path: a step never takes the
valuation back, and the second value of a decision takes it to a later one, which makes room for a
binding of every variable.

* `advances_append`, `advances_flip`: how steps in front and a second value move a path between its
  bounds.
-/

namespace SatSum.Sat.Dpll.Path

variable {formula : Formula} {path : Path} {step : Step} {numVariables : Nat}

/-! ## Bindings ahead -/

/-- The bindings that the untried values of the decisions on the path allow. -/
def untried (numVariables : Nat) : Path → Nat
  | [] => 0
  | step :: rest =>
    (if step.origin = .branching then 2 ^ (numVariables - rest.length) - 1 else 0)
      + untried numVariables rest

/-- The bindings that can still follow: those of a full tree over the free variables, and those that
    the untried values allow. -/
def ahead (numVariables : Nat) (path : Path) : Nat :=
  2 ^ (numVariables - path.length + 1) - 2 + path.untried numVariables

theorem untried_le_ahead (numVariables : Nat) (path : Path) :
    path.untried numVariables ≤ path.ahead numVariables :=
  Nat.le_add_left _ _

/-- A variable less is free after a step, which halves the tree. -/
theorem two_pow_free (short : path.length < numVariables) :
    2 ^ (numVariables - path.length) = 2 ^ (numVariables - (path.length + 1)) * 2
      ∧ 0 < 2 ^ (numVariables - (path.length + 1)) := by
  have oneLess : numVariables - path.length = numVariables - (path.length + 1) + 1 := by omega
  rw [oneLess, Nat.pow_succ]
  exact ⟨rfl, Nat.two_pow_pos _⟩

theorem ahead_cons (step : Step) (short : path.length < numVariables) :
    ahead numVariables (step :: path) + 1 ≤ path.ahead numVariables := by
  obtain ⟨halved, positive⟩ := two_pow_free short
  simp only [ahead, untried, List.length_cons, Nat.pow_succ, halved]
  split <;> omega

/-- Each of the steps in front uses up one of the bindings ahead. -/
theorem ahead_append {newer : Path} (wellFormed : WellFormed numVariables (newer ++ path)) :
    newer.length + ahead numVariables (newer ++ path) ≤ path.ahead numVariables := by
  induction newer with
  | nil => exact Nat.le_of_eq (Nat.zero_add _)
  | cons step newer inductionHypothesis =>
    have fewer : ahead numVariables (step :: (newer ++ path)) + 1 ≤ ahead numVariables (newer ++ path) :=
      ahead_cons step wellFormed.length_le
    have later := inductionHypothesis wellFormed.tail
    rw [List.length_cons, List.cons_append]
    omega

theorem untried_le_append (numVariables : Nat) (newer path : Path) :
    path.untried numVariables ≤ untried numVariables (newer ++ path) := by
  induction newer with
  | nil => exact Nat.le_refl _
  | cons step newer inductionHypothesis =>
    rw [List.cons_append, untried]
    omega

/-- Trying the second value of a decision uses up one binding of those it allowed. -/
theorem ahead_flip {flipped : Step} (short : path.length < numVariables)
    (branching : step.origin = .branching) (isFlipped : flipped.origin = .flipped) :
    ahead numVariables (flipped :: path) + 1 ≤ untried numVariables (step :: path) := by
  obtain ⟨halved, positive⟩ := two_pow_free short
  simp only [ahead, untried, List.length_cons, Nat.pow_succ, halved, branching, isFlipped, if_true,
    reduceCtorEq, if_false]
  omega

/-! ## Bindings before -/

/-- As many bindings as there are variables for each valuation before that of the path, and one for each
    of its steps. -/
def behind (numVariables : Nat) (path : Path) : Nat :=
  numVariables * rank (path.completion numVariables) + path.length

theorem length_completion (numVariables : Nat) (path : Path) :
    (path.completion numVariables).length = numVariables := by
  rw [completion, List.length_map, length_values]

theorem completion_le_append {newer : Path} (wellFormed : WellFormed numVariables (newer ++ path)) :
    path.completion numVariables ≤ completion numVariables (newer ++ path) := by
  refine completion_le_of_holdsIn wellFormed.of_append (length_completion _ _) fun literal member => ?_
  apply holds_completion wellFormed
  rw [literals, List.map_append]
  exact List.mem_append_right _ member

theorem behind_append {newer : Path} (wellFormed : WellFormed numVariables (newer ++ path)) :
    path.behind numVariables + newer.length ≤ behind numVariables (newer ++ path) := by
  have sameLength := (length_completion numVariables path).trans
    (length_completion numVariables (newer ++ path)).symm
  have notBefore := rank_le_rank sameLength (completion_le_append wellFormed)
  have more := Nat.mul_le_mul_left numVariables notBefore
  rw [behind, behind, List.length_append]
  omega

/-- The second value of a decision is true where the valuation was false, and what comes before has not
    changed. -/
theorem completion_lt_flip {newer older : Path}
    (wellFormed : WellFormed formula.numVariables (newer ++ step :: older))
    (branching : step.origin = .branching) (justifies : Justifies formula older step)
    (flipped : WellFormed formula.numVariables (⟨step.literal.negate, .flipped⟩ :: older)) :
    completion formula.numVariables (newer ++ step :: older)
      < completion formula.numVariables (⟨step.literal.negate, .flipped⟩ :: older) := by
  have leaves := Literal.not_holds_negate (holds_completion flipped List.mem_cons_self)
  rw [Literal.negate_negate] at leaves
  exact completion_lt_of_leaves wellFormed branching justifies (length_completion _ _)
    (fun literal member => holds_completion flipped (List.mem_cons_of_mem _ member)) leaves

/-! ## Both bounds -/

/-- The search goes from a path to another with so many bindings. -/
structure Advances (numVariables : Nat) (path after : Path) (bindings : Nat) : Prop where
  ahead : bindings + after.ahead numVariables ≤ path.ahead numVariables
  behind : path.behind numVariables + bindings ≤ after.behind numVariables

theorem Advances.trans {between after : Path} {bindings more : Nat}
    (first : Advances numVariables path between bindings)
    (second : Advances numVariables between after more) :
    Advances numVariables path after (bindings + more) := by
  obtain ⟨fewerAhead, moreBehind⟩ := first
  obtain ⟨fewerAhead', moreBehind'⟩ := second
  exact ⟨by omega, by omega⟩

theorem advances_append {newer : Path} (wellFormed : WellFormed numVariables (newer ++ path)) :
    Advances numVariables path (newer ++ path) newer.length :=
  ⟨ahead_append wellFormed, behind_append wellFormed⟩

theorem advances_flip {newer older : Path}
    (wellFormed : WellFormed formula.numVariables (newer ++ step :: older))
    (branching : step.origin = .branching) (justifies : Justifies formula older step)
    (flipped : WellFormed formula.numVariables (⟨step.literal.negate, .flipped⟩ :: older)) :
    Advances formula.numVariables (newer ++ step :: older) (⟨step.literal.negate, .flipped⟩ :: older)
      1 := by
  constructor
  · have usedUp := ahead_flip flipped.length_le branching
      (rfl : (⟨step.literal.negate, .flipped⟩ : Step).origin = .flipped)
    have stillUntried := untried_le_append formula.numVariables newer (step :: older)
    have notMore := untried_le_ahead formula.numVariables (newer ++ step :: older)
    omega
  · have later := rank_lt_rank ((length_completion _ _).trans (length_completion _ _).symm)
      (completion_lt_flip wellFormed branching justifies flipped)
    have room := Nat.mul_le_mul_left formula.numVariables (Nat.succ_le_of_lt later)
    have short := wellFormed.length_le
    rw [Nat.mul_succ] at room
    rw [behind, behind, List.length_cons]
    omega

end SatSum.Sat.Dpll.Path
