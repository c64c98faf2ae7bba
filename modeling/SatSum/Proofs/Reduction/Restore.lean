import SatSum.Proofs.Models
import SatSum.Proofs.Reduction.Columns

/-! # Reading valuations off selections

A selection that hits the target has one number of each variable, so it reads as a valuation; and since
a clause has too little slack to fill its column alone, the valuation satisfies every clause.

* `restore_eq_ok`: restoring gives the valuation that the selection reads as.
* `Balanced.exists_reads`: a balanced selection reads as a valuation.
* `Balanced.satisfied`: which satisfies every clause.
-/

namespace SatSum.Encoding

variable {selects : Nat → Bool} {numVariables position : Nat} {clause : Clause} {clauses : List Clause}
  {valuation : Valuation} {encoding : Encoding}

/-! ## Balanced selections -/

/-- Every column counts what it asks for. -/
structure Balanced (selects : Nat → Bool) (numVariables : Nat) (clauses : List Clause) : Prop where
  oneEach : ∀ var, 1 ≤ var → var ≤ numVariables → variableCount selects var = 1
  filled : clauseCounts selects (2 * numVariables) clauses
    = clauses.map fun clause => max clause.length 1

theorem balanced_iff :
    Balanced selects numVariables clauses
      ↔ columnCounts selects numVariables clauses = askedCounts numVariables clauses := by
  have oneEach_iff : (List.range' 1 numVariables).map (variableCount selects)
      = List.replicate numVariables 1
        ↔ ∀ var, 1 ≤ var → var ≤ numVariables → variableCount selects var = 1 := by
    rw [List.eq_replicate_iff, List.length_map, List.length_range', List.forall_mem_map]
    simp only [List.mem_range'_1, true_and]
    constructor
    · intro ones var positive inRange
      exact ones var ⟨positive, by omega⟩
    · rintro ones var ⟨positive, inRange⟩
      exact ones var positive (by omega)
  constructor
  · rintro ⟨oneEach, filled⟩
    rw [columnCounts, askedCounts, oneEach_iff.2 oneEach, filled]
  · intro sameCounts
    obtain ⟨variablesSame, clausesSame⟩ := List.append_inj sameCounts (by simp)
    exact ⟨oneEach_iff.1 variablesSame, clausesSame⟩

theorem literalCount_pos_of_filled
    (filled : clauseCounts selects position clauses = clauses.map fun clause => max clause.length 1) :
    ∀ clause ∈ clauses, 0 < literalCount selects clause := by
  induction clauses generalizing position with
  | nil => exact fun clause member => nomatch member
  | cons clause clauses inductionHypothesis =>
    rw [clauseCounts_cons, List.map_cons] at filled
    obtain ⟨filledFirst, filledRest⟩ := List.cons.inj filled
    refine List.forall_mem_cons.2 ⟨?_, inductionHypothesis filledRest⟩
    -- The slack is one short of what the clause asks for.
    have slack : (List.range' position (clause.length - 1)).countP selects ≤ clause.length - 1 :=
      List.countP_le_length.trans_eq (List.length_range' ..)
    omega

/-! ## Selections read as valuations -/

/-- The numbers selected are those of the literals that hold. -/
def Reads (selects : Nat → Bool) (valuation : Valuation) : Prop :=
  ∀ literal : Literal, 1 ≤ literal.var → literal.var ≤ valuation.length →
    selects (literalPosition literal) = literal.holds valuation

theorem Reads.literalCount_eq (reads : Reads selects valuation)
    (within : clause.Within valuation.length) :
    literalCount selects clause = clause.countP (Literal.holds valuation) := by
  apply List.countP_congr
  intro literal member
  obtain ⟨positive, covered⟩ := within literal member
  rw [reads literal positive covered]

theorem Reads.variableCount_eq (reads : Reads selects valuation) {var : Nat} (positive : 1 ≤ var)
    (covered : var ≤ valuation.length) : variableCount selects var = 1 := by
  have isTrue : selects (truePosition var) = (⟨var, true⟩ : Literal).holds valuation :=
    reads ⟨var, true⟩ positive covered
  have isFalse : selects (falsePosition var) = (⟨var, true⟩ : Literal).negate.holds valuation :=
    reads ⟨var, false⟩ positive covered
  have opposite : (⟨var, true⟩ : Literal).negate.holds valuation = true ↔ _ :=
    Literal.holds_negate_iff positive covered
  rw [variableCount, isTrue, isFalse]
  cases holds : (⟨var, true⟩ : Literal).holds valuation with
  | true => rw [Literal.not_holds_negate holds]; rfl
  | false => rw [opposite.2 holds]; rfl

theorem Balanced.exists_reads (balanced : Balanced selects numVariables clauses) :
    ∃ valuation : Valuation, valuation.length = numVariables ∧ Reads selects valuation := by
  refine ⟨(List.range' 1 numVariables).map fun var => selects (truePosition var), by simp, ?_⟩
  intro literal positive covered
  rw [List.length_map, List.length_range'] at covered
  have one := balanced.oneEach literal.var positive covered
  have atVar : ((List.range' 1 numVariables).map fun var => selects (truePosition var))[literal.var - 1]?
      = some (selects (truePosition literal.var)) := by
    rw [List.getElem?_map, List.getElem?_range' (by omega)]
    simp [Nat.add_sub_cancel' positive]
  rw [Bool.eq_iff_iff, Literal.holds_iff positive, atVar, literalPosition]
  cases literal.positive with
  | true => simp
  | false =>
    -- Exactly one of the two numbers is selected, so the false one is if the true one is not.
    simp only [Bool.false_eq_true, if_false, Option.some.injEq]
    rw [variableCount] at one
    generalize selects (truePosition literal.var) = isTrue at one ⊢
    generalize selects (falsePosition literal.var) = isFalse at one ⊢
    cases isTrue <;> cases isFalse <;> simp at one ⊢

theorem Balanced.satisfied (balanced : Balanced selects numVariables clauses)
    (within : ∀ clause ∈ clauses, clause.Within numVariables) (covers : valuation.length = numVariables)
    (reads : Reads selects valuation) : clauses.all (Clause.satisfied valuation) = true := by
  rw [List.all_eq_true]
  intro clause member
  have counted := literalCount_pos_of_filled balanced.filled clause member
  rw [reads.literalCount_eq (covers ▸ within clause member), List.countP_pos_iff] at counted
  exact Clause.satisfied_iff.2 counted

/-! ## Restoring -/

theorem restore_eq_ok {selection : SubsetSum.Selection} (covers : valuation.length = encoding.numVariables)
    (inRange : ∀ position ∈ selection, position < encoding.encoded.numbers.length)
    (reads : Reads selection.contains valuation) : encoding.restore selection = .ok valuation := by
  have noneOutside : selection.find? (encoding.encoded.numbers.length ≤ ·) = none := by
    rw [List.find?_eq_none]
    intro position member
    simpa using inRange position member
  simp only [restore, noneOutside, vars]
  apply mapM_range'_eq_ok covers
  intro index bit atIndex
  have below : index < valuation.length := (List.getElem?_eq_some_iff.1 atIndex).1
  have readsBit (sign : Bool) : selection.contains (literalPosition ⟨1 + index, sign⟩)
      = (bit == sign) := by
    have positive : 1 ≤ (⟨1 + index, sign⟩ : Literal).var := Nat.le_add_right 1 index
    rw [reads ⟨1 + index, sign⟩ positive (Nat.one_add_le_iff.2 below), Bool.eq_iff_iff,
      Literal.holds_iff positive, Nat.add_sub_cancel_left, atIndex]
    simp
  have readsTrue : selection.contains (truePosition (1 + index)) = (bit == true) := readsBit true
  have readsFalse : selection.contains (falsePosition (1 + index)) = (bit == false) := readsBit false
  rw [selectedValue, readsTrue, readsFalse]
  cases bit <;> rfl

end SatSum.Encoding
