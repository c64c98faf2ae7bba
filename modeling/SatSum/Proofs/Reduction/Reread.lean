import SatSum.Proofs.Formula.RoundTrip
import SatSum.Proofs.Reduction.Fresh

/-! # Reading a reduction back

A literal is written as a signed 64-bit word. Every literal that was read has one, so what was read is
read back. But a variable may have any number up to the largest word, and the auxiliary variables of a
reduction are numbered above those of the formula: from 2^63 on, a positive literal is written as
another one, and no text at all is read as it. So a reduction is read back exactly if it has no such
auxiliary variable.

* `Literal.kept_iff`: the literals that are read back from their signed form.
* `Formula.ofDimacs_toDimacs_iff`: a well-formed formula is read back exactly if it has no others.
* `texts_reread`: formulas that were read, and their reductions.
-/

namespace SatSum

/-! ## Signed forms -/

namespace Literal

variable {literal : Literal}

theorem bmod_var {var : Nat} (small : var ≤ maxWord) :
    Int.bmod var UInt64.size = if var < 2 ^ 63 then (var : Int) else var - 2 ^ 64 := by
  simp only [maxWord, UInt64.size] at small ⊢
  rw [Int.bmod]
  split <;> split <;> omega

theorem overflows_iff (small : literal.var ≤ maxWord) : literal.Overflows ↔ literal = ⟨2 ^ 63, false⟩ := by
  obtain ⟨var, sign⟩ := literal
  rw [Overflows, Int64.toInt_minValue, bmod_var small, mk.injEq, and_comm, and_congr_left_iff]
  rintro -
  simp only [maxWord, UInt64.size] at small ⊢
  split <;> omega

/-- The signed form determines a positive literal below 2^63, and a negative one up to it. -/
theorem kept_iff (isVariable : 1 ≤ literal.var) (small : literal.var ≤ maxWord) :
    literal.Kept ↔ literal.var < 2 ^ 63 ∨ literal = ⟨2 ^ 63, false⟩ := by
  obtain ⟨var, sign⟩ := literal
  simp only [Kept, ofSigned, toSigned, bmod_var small, mk.injEq]
  simp only [maxWord, UInt64.size] at isVariable small
  cases sign with
  | true =>
    simp only [if_true, decide_eq_true_eq, reduceCtorEq, and_false, or_false]
    split <;> omega
  | false =>
    simp only [Bool.false_eq_true, if_false, decide_eq_false_iff_not, and_true, Int.bmod, UInt64.size]
    split <;> split <;> omega

/-- A number that was read is the signed form of its literal. -/
theorem kept_ofSigned {number : Int} (notZero : number ≠ 0) (least : -2 ^ 63 ≤ number)
    (greatest : number < 2 ^ 63) : (ofSigned number).Kept := by
  have isVariable : 1 ≤ (ofSigned number).var := Int.natAbs_pos.2 notZero
  have small : (ofSigned number).var ≤ maxWord := by
    simp only [ofSigned, maxWord, UInt64.size]
    omega
  rw [kept_iff isVariable small]
  simp only [ofSigned, mk.injEq, decide_eq_false_iff_not]
  omega

end Literal

/-! ## Formulas -/

namespace Formula

variable {text : String} {formula : Formula} {reduction : ThreeReduction} {literal : Literal}

/-- The literal occurs in the formula. -/
def Has (formula : Formula) (literal : Literal) : Prop :=
  ∃ clause ∈ formula.clauses, literal ∈ clause

/-- The signed form of some literal overflows. -/
def Overflows (formula : Formula) : Prop :=
  ∃ literal, formula.Has literal ∧ literal.Overflows

theorem overflows_iff (small : ∀ literal, formula.Has literal → literal.var ≤ maxWord) :
    formula.Overflows ↔ formula.Has ⟨2 ^ 63, false⟩ := by
  constructor
  · rintro ⟨literal, has, overflows⟩
    rwa [(Literal.overflows_iff (small literal has)).1 overflows] at has
  · intro has
    exact ⟨_, has, (Literal.overflows_iff (small _ has)).2 rfl⟩

/-- What is read is well-formed, its counts are words, and its literals are kept. -/
structure Legible (formula : Formula) : Prop where
  wellFormed : formula.WellFormed
  variableCount : formula.numVariables ≤ maxWord
  clauseCount : formula.clauses.length ≤ maxWord
  kept : ∀ literal, formula.Has literal → literal.Kept

theorem legible_of_ofDimacs (read : ofDimacs text = .ok formula) : formula.Legible := by
  obtain ⟨spells, hasVariable⟩ := ((ofDimacs_outcome text).eq_ok_iff Dimacs.Spells.unique).1 read
  obtain ⟨variableCount, clauseCount⟩ := counts_of_spells spells
  refine ⟨wellFormed_of_spells spells hasVariable, variableCount, clauseCount, ?_⟩
  rintro literal ⟨clause, inFormula, inClause⟩
  obtain ⟨word, number, spelled, notZero, rfl⟩ := exists_number_of_spells spells inFormula inClause
  exact Literal.kept_ofSigned notZero spelled.1.2.1 spelled.1.2.2

/-- A formula is written, unless a signed form overflows. -/
theorem write_eq_ok_iff : formula.write = .ok formula.toDimacs ↔ ¬ formula.Overflows := by
  have sameCondition : (∃ clause ∈ formula.clauses, ∃ literal ∈ clause, literal.Overflows)
      ↔ formula.Overflows := by
    simp only [Overflows, Has, exists_and_right.symm, and_assoc]
    tauto
  rw [write, sameCondition.symm]
  split
  next overflows => simp [overflows, Checked.stop]
  next fine => simp [fine]

/-- The formulas that are read back are those that are read from any text. -/
theorem ofDimacs_toDimacs_iff : ofDimacs formula.toDimacs = .ok formula ↔ formula.Legible := by
  constructor
  · exact legible_of_ofDimacs
  · rintro ⟨wellFormed, variableCount, clauseCount, kept⟩
    refine ofDimacs_of_spells ?_ wellFormed.hasVariable
    exact spells_toDimacs wellFormed variableCount clauseCount fun clause inFormula literal inClause =>
      kept literal ⟨clause, inFormula, inClause⟩

theorem WellFormed.var_le (wellFormed : formula.WellFormed) (has : formula.Has literal) :
    1 ≤ literal.var ∧ literal.var ≤ formula.numVariables := by
  obtain ⟨clause, inFormula, inClause⟩ := has
  exact wellFormed.within clause inFormula literal inClause

/-! ## Reductions -/

/-- A reduction has the literals of the formula, less those of clauses that are always true, and both
    signs of each auxiliary variable. -/
theorem has_reduceToThree_iff (small : formula.numVariables ≤ maxWord)
    (reduced : formula.reduceToThree = .ok reduction) :
    reduction.formula.toFormula.Has literal
      ↔ (∃ clause ∈ Clause.normalize formula.clauses, literal ∈ clause)
        ∨ Clause.IsFresh formula.numVariables formula.auxiliaryCount literal := by
  obtain ⟨_, _, rfl⟩ := of_reduceToThree_eq_ok small reduced
  rw [auxiliaryCount, ← Clause.mem_literalsOf_blocksFrom]
  generalize (Clause.blocksFrom formula.numVariables (Clause.normalize formula.clauses)).flatten = made
  simp [Has, ThreeFormula.toFormula, Clause.literalsOf]

theorem has_of_mem_normalize {clause : Clause} (normal : clause ∈ Clause.normalize formula.clauses)
    (inClause : literal ∈ clause) : formula.Has literal := by
  obtain ⟨⟨source, inFormula, rfl⟩, _⟩ := Clause.mem_normalize_iff.1 normal
  exact ⟨source, inFormula, Clause.mem_deduplicated.1 inClause⟩

/-- Writing a reduction overflows at a literal of the formula, or at auxiliary variable 2^63. -/
theorem overflows_reduceToThree_iff (small : formula.numVariables ≤ maxWord)
    (reduced : formula.reduceToThree = .ok reduction) :
    reduction.formula.toFormula.Overflows
      ↔ (∃ clause ∈ Clause.normalize formula.clauses, ⟨2 ^ 63, false⟩ ∈ clause)
        ∨ Clause.IsFresh formula.numVariables formula.auxiliaryCount ⟨2 ^ 63, false⟩ := by
  obtain ⟨wellFormed, fits, _⟩ := of_reduceToThree_eq_ok small reduced
  rw [← has_reduceToThree_iff small reduced]
  apply overflows_iff
  intro literal has
  rcases (has_reduceToThree_iff small reduced).1 has with ⟨clause, normal, inClause⟩ | isFresh
  · exact (wellFormed.var_le (has_of_mem_normalize normal inClause)).2.trans small
  · exact (Clause.isFresh_iff.1 isFresh).2.trans fits

/-- A reduction is read back exactly if no auxiliary variable has a number from 2^63 on. -/
theorem legible_reduceToThree_iff (legible : formula.Legible) (reduced : formula.reduceToThree = .ok reduction)
    (clauseCount : reduction.formula.clauses.length ≤ maxWord) :
    reduction.formula.toFormula.Legible
      ↔ formula.auxiliaryCount = 0 ∨ formula.numVariables + formula.auxiliaryCount < 2 ^ 63 := by
  obtain ⟨wellFormed, variableCount, _, kept⟩ := legible
  have isVariable := wellFormed.hasVariable
  have has_iff := fun literal => @has_reduceToThree_iff formula reduction literal variableCount reduced
  obtain ⟨_, fits, rfl⟩ := of_reduceToThree_eq_ok variableCount reduced
  constructor
  · intro readBack
    -- The last auxiliary variable has a positive literal.
    by_contra large
    rw [not_or, not_lt] at large
    have isFresh : Clause.IsFresh formula.numVariables formula.auxiliaryCount
        ⟨formula.numVariables + formula.auxiliaryCount, true⟩ :=
      ⟨formula.auxiliaryCount, by omega, Nat.le_refl _, rfl⟩
    have keptLast := readBack.kept _ ((has_iff _).2 (Or.inr isFresh))
    rw [Literal.kept_iff (by dsimp only; omega) fits] at keptLast
    simp only [Literal.mk.injEq, reduceCtorEq, and_false, or_false] at keptLast
    omega
  · intro small
    have proper := Clause.blocksFrom_proper (Clause.normalize_within wellFormed.within)
      Clause.normalize_distinctVars
    refine ⟨?_, fits, by rwa [ThreeFormula.toFormula, List.length_map], fun literal has => ?_⟩
    · exact ThreeFormula.wellFormed_toFormula (by dsimp only; omega) proper
    · rcases (has_iff literal).1 has with ⟨clause, normal, inClause⟩ | isFresh
      · exact kept literal (has_of_mem_normalize normal inClause)
      · have within := Clause.isFresh_iff.1 isFresh
        exact Literal.ofSigned_toSigned (by omega) (by omega)

end Formula

/-- What was read is read back, though writing it overflows at a literal over the variable 2^63. Its
    reduction is read back exactly if no auxiliary variable has a number from 2^63 on, and writing it
    overflows at such a literal again or at that auxiliary variable. -/
theorem texts_reread (text : String) (formula : Formula) (read : Formula.ofDimacs text = .ok formula) :
    Formula.ofDimacs formula.toDimacs = .ok formula
      ∧ (formula.Overflows ↔ formula.Has ⟨2 ^ 63, false⟩)
      ∧ ∀ reduction, formula.reduceToThree = .ok reduction →
        (reduction.formula.toFormula.Overflows
          ↔ (∃ clause ∈ Clause.normalize formula.clauses, ⟨2 ^ 63, false⟩ ∈ clause)
            ∨ Clause.IsFresh formula.numVariables formula.auxiliaryCount ⟨2 ^ 63, false⟩)
        ∧ (reduction.formula.clauses.length ≤ maxWord →
          (Formula.ofDimacs reduction.formula.toDimacs = .ok reduction.formula.toFormula
            ↔ formula.auxiliaryCount = 0 ∨ formula.numVariables + formula.auxiliaryCount < 2 ^ 63)) := by
  have legible := Formula.legible_of_ofDimacs read
  refine ⟨Formula.ofDimacs_toDimacs_iff.2 legible, ?_, fun reduction reduced => ⟨?_, fun clauseCount => ?_⟩⟩
  · exact Formula.overflows_iff fun literal has =>
      (legible.wellFormed.var_le has).2.trans legible.variableCount
  · exact Formula.overflows_reduceToThree_iff legible.variableCount reduced
  · exact Formula.ofDimacs_toDimacs_iff.trans (Formula.legible_reduceToThree_iff legible reduced clauseCount)

/-- The least signed word is read back, and overflows. The auxiliary variable comes after 2^63. -/
theorem texts_reread_least_word :
    let formula : Formula := ⟨9223372036854775808, [[⟨1, true⟩, ⟨9223372036854775808, false⟩]]⟩
    Formula.ofDimacs "p cnf 9223372036854775808 1\n1 -9223372036854775808 0\n" = .ok formula
      ∧ Formula.ofDimacs formula.toDimacs = .ok formula ∧ formula.Overflows
      ∧ ∃ reduction, formula.reduceToThree = .ok reduction
        ∧ Formula.ofDimacs reduction.formula.toDimacs ≠ .ok reduction.formula.toFormula := by
  intro formula
  have written : formula.toDimacs = "p cnf 9223372036854775808 1\n1 -9223372036854775808 0\n" := by
    decide +kernel
  have kept : ∀ clause ∈ formula.clauses, ∀ literal ∈ clause, Literal.ofSigned literal.toSigned = literal := by
    decide
  have read : Formula.ofDimacs "p cnf 9223372036854775808 1\n1 -9223372036854775808 0\n" = .ok formula := by
    rw [← written]
    exact Formula.ofDimacs_of_spells (Formula.spells_toDimacs (Formula.validate_eq_ok_iff.1 rfl) (by decide)
      (by decide) kept) (by decide)
  obtain ⟨readBack, overflows_iff, reductions⟩ := texts_reread _ formula read
  refine ⟨read, readBack, overflows_iff.2 ⟨_, List.mem_cons_self, by decide⟩, _, rfl, ?_⟩
  exact mt ((reductions _ rfl).2 (by decide)).1 (by decide +kernel)

/-- The literals over the auxiliary variable 2^63 + 1 are written with the other sign, over 2^63 - 1. -/
theorem reduction_above_two_pow_63_not_reread :
    let formula : Formula := ⟨9223372036854775808, [[⟨1, true⟩, ⟨2, true⟩]]⟩
    let three : ThreeFormula := ⟨9223372036854775809,
      [⟨⟨1, true⟩, ⟨2, true⟩, ⟨9223372036854775809, true⟩⟩,
        ⟨⟨1, true⟩, ⟨2, true⟩, ⟨9223372036854775809, false⟩⟩]⟩
    Formula.ofDimacs "p cnf 9223372036854775808 1\n1 2 0\n" = .ok formula
      ∧ formula.reduceToThree = .ok ⟨three, 9223372036854775808, 1⟩
      ∧ three.toDimacs
        = "p cnf 9223372036854775809 2\n1 2 -9223372036854775807 0\n1 2 9223372036854775807 0\n"
      ∧ Formula.ofDimacs three.toDimacs ≠ .ok three.toFormula := by
  intro formula three
  have written : formula.toDimacs = "p cnf 9223372036854775808 1\n1 2 0\n" := by decide +kernel
  have printable : formula.Printable := ⟨rfl, by decide, by decide, by decide⟩
  have read : Formula.ofDimacs "p cnf 9223372036854775808 1\n1 2 0\n" = .ok formula :=
    written ▸ printable.ofDimacs_toDimacs
  have reduced : formula.reduceToThree = .ok ⟨three, 9223372036854775808, 1⟩ := rfl
  refine ⟨read, reduced, by decide +kernel, fun readBack => ?_⟩
  have small := (Formula.legible_reduceToThree_iff (Formula.legible_of_ofDimacs read) reduced (by decide)).1
    (Formula.ofDimacs_toDimacs_iff.1 readBack)
  exact absurd small (by decide +kernel)

end SatSum
