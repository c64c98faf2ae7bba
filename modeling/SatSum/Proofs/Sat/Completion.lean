import SatSum.Proofs.Models
import SatSum.Sat.Answer

/-! # Least completions

A reference for the searches that bind variables in order: of the valuations that begin with given
values, `leastCompletion?` is the least one that is accepted. From no values at all it is the least
model, or there is none.

* `leastCompletion?_eq_none_iff`, `leastCompletion?_eq_some`: what the reference computes.
* `leastAnswer_decides`: the reference decides the formula.
* `candidates_leastAnswer`: how many valuations come up to the answer.
-/

namespace SatSum.Sat

/-- The least valuation accepted among those that have `free` more values than `initial`. -/
def leastCompletion? (accepts : Valuation → Bool) (initial : Valuation) : Nat → Option Valuation
  | 0 => if accepts initial then some initial else none
  | free + 1 =>
    (leastCompletion? accepts (initial ++ [false]) free).or
      (leastCompletion? accepts (initial ++ [true]) free)

variable {accepts : Valuation → Bool} {initial valuation : Valuation} {free : Nat}

theorem leastCompletion?_eq_none_iff :
    leastCompletion? accepts initial free = none
      ↔ ∀ more : Valuation, more.length = free → accepts (initial ++ more) = false := by
  induction free generalizing initial with
  | zero =>
    simp only [leastCompletion?, ite_eq_right_iff, reduceCtorEq, imp_false, Bool.not_eq_true,
      List.length_eq_zero_iff, forall_eq, List.append_nil]
  | succ free inductionHypothesis =>
    simp only [leastCompletion?, Option.or_eq_none_iff, inductionHypothesis, forall_length_succ,
      List.append_assoc, List.cons_append, List.nil_append]

theorem leastCompletion?_eq_some (found : leastCompletion? accepts initial free = some valuation) :
    (∃ more, more.length = free ∧ initial ++ more = valuation) ∧ accepts valuation = true
      ∧ ∀ more : Valuation, more.length = free → accepts (initial ++ more) = true →
        valuation ≤ initial ++ more := by
  induction free generalizing initial with
  | zero =>
    simp only [leastCompletion?] at found
    split at found
    next accepted =>
      cases found
      refine ⟨⟨[], rfl, List.append_nil _⟩, accepted, ?_⟩
      intro more covers _
      rw [List.length_eq_zero_iff.1 covers, List.append_nil]
    next refused => cases found
  | succ free inductionHypothesis =>
    simp only [leastCompletion?, Option.or_eq_some_iff] at found
    rw [forall_length_succ]
    rcases found with foundFalse | ⟨noneFalse, foundTrue⟩
    · obtain ⟨⟨rest, covers, shape⟩, accepted, least⟩ := inductionHypothesis foundFalse
      simp only [List.append_assoc, List.cons_append, List.nil_append] at shape least
      refine ⟨⟨false :: rest, congrArg Nat.succ covers, shape⟩, accepted, least, ?_⟩
      -- Whatever begins with `true` comes after what begins with `false`.
      intro more _ _
      rw [← shape]
      exact le_of_lt (List.append_left_lt (List.Lex.rel (by decide)))
    · obtain ⟨⟨rest, covers, shape⟩, accepted, least⟩ := inductionHypothesis foundTrue
      simp only [List.append_assoc, List.cons_append, List.nil_append] at shape least
      refine ⟨⟨true :: rest, congrArg Nat.succ covers, shape⟩, accepted, ?_, least⟩
      intro more covers acceptedMore
      have refused := leastCompletion?_eq_none_iff.1 noneFalse more covers
      rw [List.append_assoc, List.cons_append, List.nil_append, acceptedMore] at refused
      cases refused

/-! ## Candidates -/

/-- How many valuations are looked at in order, up to the first that is accepted. -/
def candidates (accepts : Valuation → Bool) (initial : Valuation) : Nat → Nat
  | 0 => 1
  | free + 1 =>
    candidates accepts (initial ++ [false]) free
      + if (leastCompletion? accepts (initial ++ [false]) free).isSome then 0
        else candidates accepts (initial ++ [true]) free

theorem candidates_pos (accepts : Valuation → Bool) (initial : Valuation) (free : Nat) :
    0 < candidates accepts initial free := by
  induction free generalizing initial with
  | zero => exact Nat.one_pos
  | succ free inductionHypothesis => exact Nat.add_pos_left (inductionHypothesis _) _

theorem candidates_eq_of_none (noneFound : leastCompletion? accepts initial free = none) :
    candidates accepts initial free = 2 ^ free := by
  induction free generalizing initial with
  | zero => rfl
  | succ free inductionHypothesis =>
    rw [leastCompletion?, Option.or_eq_none_iff] at noneFound
    rw [candidates, noneFound.1, inductionHypothesis noneFound.1, inductionHypothesis noneFound.2,
      Nat.pow_succ]
    simp only [Option.isSome_none, Bool.false_eq_true, if_false]
    omega

/-- The place of a valuation in the order of those as long, counted from zero: the binary number with
    the value of variable 1 as its highest digit. -/
def rank : Valuation → Nat
  | [] => 0
  | value :: rest => (if value then 2 ^ rest.length else 0) + rank rest

theorem rank_lt (valuation : Valuation) : rank valuation < 2 ^ valuation.length := by
  induction valuation with
  | nil => exact Nat.one_pos
  | cons value rest inductionHypothesis =>
    rw [rank, List.length_cons, Nat.pow_succ]
    split <;> omega

theorem rank_lt_rank {first second : Valuation} (sameLength : first.length = second.length)
    (less : first < second) : rank first < rank second := by
  induction first generalizing second with
  | nil =>
    rw [List.length_eq_zero_iff.1 sameLength.symm] at less
    exact absurd less (List.not_lt_nil _)
  | cons value rest inductionHypothesis =>
    cases second with
    | nil => cases sameLength
    | cons other others =>
      have restLength : rest.length = others.length := Nat.succ.inj sameLength
      rw [rank, rank, restLength]
      rcases List.cons_lt_cons_iff.1 less with differ | ⟨rfl, later⟩
      · obtain ⟨rfl, rfl⟩ := Bool.lt_iff.1 differ
        have below := rank_lt rest
        rw [restLength] at below
        simp only [Bool.false_eq_true, if_false, if_true]
        omega
      · exact Nat.add_lt_add_left (inductionHypothesis restLength later) _

theorem rank_le_rank {first second : Valuation} (sameLength : first.length = second.length)
    (le : first ≤ second) : rank first ≤ rank second := by
  rcases eq_or_lt_of_le le with rfl | less
  · exact Nat.le_refl _
  · exact Nat.le_of_lt (rank_lt_rank sameLength less)

/-- Where a valuation is found, those looked at are the ones before it and itself. -/
theorem candidates_eq_of_some (found : leastCompletion? accepts initial free = some valuation) :
    ∃ more, more.length = free ∧ valuation = initial ++ more
      ∧ candidates accepts initial free = rank more + 1 := by
  induction free generalizing initial with
  | zero =>
    rw [leastCompletion?] at found
    split at found
    next accepted =>
      cases found
      exact ⟨[], rfl, (List.append_nil _).symm, rfl⟩
    next refused => cases found
  | succ free inductionHypothesis =>
    rw [leastCompletion?, Option.or_eq_some_iff] at found
    rcases found with foundFalse | ⟨noneFalse, foundTrue⟩
    · obtain ⟨more, covers, rfl, counted⟩ := inductionHypothesis foundFalse
      refine ⟨false :: more, congrArg Nat.succ covers, List.append_assoc _ _ _, ?_⟩
      rw [candidates, foundFalse, counted, rank]
      simp
    · obtain ⟨more, covers, rfl, counted⟩ := inductionHypothesis foundTrue
      refine ⟨true :: more, congrArg Nat.succ covers, List.append_assoc _ _ _, ?_⟩
      rw [candidates, noneFalse, counted, candidates_eq_of_none noneFalse, rank, covers]
      simp only [Option.isSome_none, Bool.false_eq_true, if_false, if_true]
      omega

/-! ## Answers -/

abbrev allSatisfied (clauses : List Clause) (valuation : Valuation) : Bool :=
  clauses.all (Clause.satisfied valuation)

/-- The answer a formula has: its least model, or that it has none. -/
def Answer.Decides (formula : Formula) : Answer → Prop
  | .satisfiable valuation => formula.IsLeastModel valuation
  | .unsatisfiable => ∀ valuation, ¬ formula.IsModel valuation

theorem Answer.Decides.unique {formula : Formula} {first second : Answer}
    (left : first.Decides formula) (right : second.Decides formula) : first = second := by
  cases first with
  | satisfiable valuation =>
    cases second with
    | satisfiable other => rw [Formula.IsLeastModel.unique left right]
    | unsatisfiable => exact absurd left.isModel (right valuation)
  | unsatisfiable =>
    cases second with
    | satisfiable other => exact absurd right.isModel (left other)
    | unsatisfiable => rfl

/-- The answer of the reference. -/
def leastAnswer (formula : Formula) : Answer :=
  ((leastCompletion? (Formula.satisfied · formula) [] formula.numVariables).map
    Answer.satisfiable).getD .unsatisfiable

theorem leastAnswer_decides (formula : Formula) : (leastAnswer formula).Decides formula := by
  rw [leastAnswer]
  cases found : leastCompletion? (Formula.satisfied · formula) [] formula.numVariables with
  | none =>
    intro valuation model
    have refused := leastCompletion?_eq_none_iff.1 found valuation model.covers
    rw [List.nil_append, model.satisfies] at refused
    cases refused
  | some valuation =>
    obtain ⟨⟨more, covers, rfl⟩, accepted, least⟩ := leastCompletion?_eq_some found
    exact ⟨⟨covers, accepted⟩, fun other model => least other model.covers model.satisfies⟩

/-- How many of the valuations of the variables come up to the one that is the answer, and how many
    there are if none is. -/
def Answer.candidates (numVariables : Nat) : Answer → Nat
  | .satisfiable valuation => rank valuation + 1
  | .unsatisfiable => 2 ^ numVariables

theorem candidates_leastAnswer (formula : Formula) :
    Sat.candidates (Formula.satisfied · formula) [] formula.numVariables
      = (leastAnswer formula).candidates formula.numVariables := by
  rw [leastAnswer]
  cases found : leastCompletion? (Formula.satisfied · formula) [] formula.numVariables with
  | none => exact candidates_eq_of_none found
  | some valuation =>
    obtain ⟨more, _, rfl, counted⟩ := candidates_eq_of_some found
    exact counted

end SatSum.Sat
