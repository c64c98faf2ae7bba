import SatSum.Proofs.Reduction.ThreeLiterals

/-! # Auxiliary variables

The clauses made from a formula have its literals and both signs of each auxiliary variable, the numbers
after those of the formula.

* `mem_literalsOf_toThree`, `mem_literalsOf_blocksFrom`: the literals of the clauses made.
-/

namespace SatSum.Clause

variable {top link count : Nat} {c d literal : Literal} {rest clause : Clause} {clauses : List Clause}

/-! ## Numbers of auxiliary variables -/

/-- The literal is over one of the `count` auxiliary variables above `top`. -/
def IsFresh (top count : Nat) (literal : Literal) : Prop :=
  ∃ place, 1 ≤ place ∧ place ≤ count ∧ literal.var = top + place

/-- Auxiliary variables are numbered without gaps. -/
theorem isFresh_iff : IsFresh top count literal ↔ top < literal.var ∧ literal.var ≤ top + count := by
  constructor
  · rintro ⟨place, positive, few, sameVar⟩
    omega
  · rintro ⟨above, within⟩
    exact ⟨literal.var - top, by omega, by omega, by omega⟩

theorem not_isFresh_zero : ¬ IsFresh top 0 literal := by
  rw [isFresh_iff]
  omega

theorem isFresh_one_iff : IsFresh top 1 literal ↔ literal.var = top + 1 := by
  rw [isFresh_iff]
  omega

theorem isFresh_add_iff {more : Nat} :
    IsFresh top (count + more) literal ↔ IsFresh top count literal ∨ IsFresh (top + count) more literal := by
  rw [isFresh_iff, isFresh_iff, isFresh_iff]
  omega

/-- The first of the auxiliary variables, or one of the others. -/
theorem isFresh_succ_iff :
    IsFresh top (count + 1) literal ↔ literal.var = top + 1 ∨ IsFresh (top + 1) count literal := by
  rw [Nat.add_comm, isFresh_add_iff, isFresh_one_iff]

/-! ## Literals -/

/-- The literals that occur in clauses. -/
def literalsOf (threes : List ThreeClause) : List Literal :=
  threes.flatMap ThreeClause.toClause

@[simp] theorem literalsOf_nil : literalsOf [] = [] := rfl

@[simp] theorem mem_literalsOf_cons {x y z : Literal} {threes : List ThreeClause} :
    literal ∈ literalsOf (⟨x, y, z⟩ :: threes)
      ↔ (literal = x ∨ literal = y ∨ literal = z) ∨ literal ∈ literalsOf threes := by
  rw [literalsOf, List.flatMap_cons, List.mem_append]
  simp [ThreeClause.toClause, literalsOf]

theorem literalsOf_append (first second : List ThreeClause) :
    literalsOf (first ++ second) = literalsOf first ++ literalsOf second :=
  List.flatMap_append

/-- A chain has the first link with a minus, its literals, and both signs of the links after it. -/
theorem mem_literalsOf_chainFrom :
    literal ∈ literalsOf (chainFrom link c d rest)
      ↔ literal = ⟨link, false⟩ ∨ literal ∈ c :: d :: rest ∨ IsFresh link rest.length literal := by
  induction rest generalizing link c d with
  | nil => simp [chainFrom, not_isFresh_zero]
  | cons e rest inductionHypothesis =>
    have bothLinks : literal.var = link + 1
        ↔ literal = ⟨link + 1, true⟩ ∨ literal = ⟨link + 1, false⟩ := by
      rw [← mem_bothSigns_iff, bothSigns, List.mem_pair]
    rw [chainFrom, mem_literalsOf_cons, inductionHypothesis, List.length_cons, isFresh_succ_iff, bothLinks,
      List.mem_cons (a := literal) (b := c)]
    tauto

theorem mem_literalsOf_toThree :
    literal ∈ literalsOf (toThree top clause) ↔ literal ∈ clause ∨ IsFresh top clause.auxiliaries literal := by
  match clause with
  | [] =>
    simp only [auxiliaries, isFresh_succ_iff, not_isFresh_zero, Nat.add_assoc, ← mem_bothSigns_iff]
    simp [toThree, bothSigns]
    tauto
  | [a] =>
    simp only [auxiliaries, isFresh_succ_iff, not_isFresh_zero, Nat.add_assoc, ← mem_bothSigns_iff]
    simp [toThree, bothSigns]
    tauto
  | [a, b] =>
    simp only [auxiliaries, isFresh_one_iff, ← mem_bothSigns_iff]
    simp [toThree, bothSigns]
    tauto
  | [a, b, c] => simp [toThree, auxiliaries, not_isFresh_zero]
  | a :: b :: c :: d :: rest =>
    have needs : auxiliaries (a :: b :: c :: d :: rest) = rest.length + 1 := rfl
    simp only [needs, isFresh_succ_iff, toThree, mem_literalsOf_cons, mem_literalsOf_chainFrom,
      ← mem_bothSigns_iff]
    simp [bothSigns]
    tauto

/-- The clauses made have the literals of the source, and both signs of every auxiliary variable. -/
theorem mem_literalsOf_blocksFrom :
    literal ∈ literalsOf (blocksFrom top clauses).flatten
      ↔ (∃ clause ∈ clauses, literal ∈ clause) ∨ IsFresh top (auxiliaryCount clauses) literal := by
  induction clauses generalizing top with
  | nil => simp [blocksFrom, auxiliaryCount, not_isFresh_zero]
  | cons clause clauses inductionHypothesis =>
    rw [blocksFrom, List.flatten_cons, literalsOf_append, List.mem_append, mem_literalsOf_toThree,
      inductionHypothesis, auxiliaryCount_cons, isFresh_add_iff, List.exists_mem_cons_iff]
    exact or_or_or_comm

end SatSum.Clause
