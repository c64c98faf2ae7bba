import SatSum.Proofs.Formula.Dimacs

/-! # Writing a formula and reading it back

What is written for a formula are rows: the problem line, and for every clause its literals as
signed numbers and a zero. The rows spell the formula in the sense of the grammar, so reading gives
it back. Neither the rows depend on the reader nor the reader on the rows; the two meet at the
grammar.

* `spells_toDimacs`: the text of a formula spells it if no literal is lost in its signed form.
* `dimacs_roundTrip`: reading undoes writing, and different formulas have different texts.
-/

namespace SatSum

open Text (IsWord IsRow spaced words first? SpellsCount SpellsSigned)

/-! ## Literals -/

namespace Literal

variable {literal : Literal}

theorem toSigned_range (literal : Literal) :
    -2 ^ 63 ≤ literal.toSigned ∧ literal.toSigned < 2 ^ 63 := by
  have least (number : Int) := Int.le_bmod (x := number) (m := UInt64.size) (by decide)
  have greatest (number : Int) := Int.bmod_lt (x := number) (m := UInt64.size) (by decide)
  unfold toSigned
  split
  next => exact ⟨least _, greatest _⟩
  next => exact ⟨least _, greatest _⟩

/-- The literal as it is written in a clause. -/
def numeral (literal : Literal) : List Char :=
  (toString literal.toSigned).toList

theorem spellsSigned_numeral (literal : Literal) : SpellsSigned literal.numeral literal.toSigned :=
  Text.spellsSigned_toString literal.toSigned_range.1 literal.toSigned_range.2

theorem isWord_numeral (literal : Literal) : IsWord literal.numeral :=
  Text.isWord_of_signed literal.spellsSigned_numeral.1

/-- The signed form determines the literal. -/
def Kept (literal : Literal) : Prop :=
  ofSigned literal.toSigned = literal

theorem Kept.natAbs_eq (kept : literal.Kept) : literal.toSigned.natAbs = literal.var :=
  congrArg Literal.var kept

end Literal

/-! ## Rows -/

namespace Clause

/-- The line that is written for a clause. -/
def row (clause : Clause) : List Char :=
  spaced (clause.map Literal.numeral) ['0']

theorem toList_toDimacs (clause : Clause) : clause.toDimacs.toList = clause.row ++ ['\n'] := by
  rw [toDimacs, String.toList_append, String.toList_join, List.flatMap_map, row, spaced,
    List.flatMap_map, List.append_assoc]
  simp only [String.toList_append]
  rfl

theorem isWord_of_mem {clause : Clause} : ∀ word ∈ clause.map Literal.numeral, IsWord word := by
  intro word member
  obtain ⟨literal, _, rfl⟩ := List.mem_map.1 member
  exact literal.isWord_numeral

theorem isWord_zero : IsWord ['0'] :=
  Text.isWord_toString 0

theorem words_row (clause : Clause) : words clause.row = clause.map Literal.numeral ++ [['0']] :=
  Text.words_spaced isWord_of_mem isWord_zero

theorem first?_row (clause : Clause) : ∃ c, first? clause.row = some c ∧ Text.IsNumeralChar c := by
  have split := clause.words_row
  cases clause with
  | nil => exact Text.first?_of_numerals split (.plain (Text.isDecimal_toString 0))
  | cons literal rest => exact Text.first?_of_numerals split literal.spellsSigned_numeral.1

/-- The numbers of the line. -/
def block (clause : Clause) : List Int :=
  clause.map Literal.toSigned

theorem spells_row {clause : Clause} {numVariables : Nat} (within : clause.Within numVariables)
    (kept : ∀ literal ∈ clause, literal.Kept) :
    List.Forall₂ (Dimacs.SpellsNumber numVariables) (words clause.row) (clause.block ++ [0]) := by
  rw [words_row]
  apply List.rel_append
  · rw [block, List.forall₂_map_left_iff, List.forall₂_map_right_iff, List.forall₂_same]
    intro literal member
    refine ⟨literal.spellsSigned_numeral, ?_⟩
    rw [(kept literal member).natAbs_eq]
    exact (within literal member).2
  · exact .cons ⟨Text.signed?_eq_some_iff.1 rfl, Nat.zero_le _⟩ .nil

theorem zero_not_mem_block {clause : Clause} {numVariables : Nat}
    (within : clause.Within numVariables) (kept : ∀ literal ∈ clause, literal.Kept) :
    0 ∉ clause.block := by
  intro member
  obtain ⟨literal, inClause, zero⟩ := List.mem_map.1 member
  have positive := (within literal inClause).1
  rw [← (kept literal inClause).natAbs_eq, zero] at positive
  cases positive

theorem map_ofSigned_block {clause : Clause} (kept : ∀ literal ∈ clause, literal.Kept) :
    clause.block.map Literal.ofSigned = clause := by
  rw [block, List.map_map]
  exact (List.map_congr_left kept).trans (List.map_id _)

end Clause

namespace Formula

/-- The problem line that is written. -/
def problemRow (formula : Formula) : List Char :=
  spaced [['p'], ['c', 'n', 'f'], (toString formula.numVariables).toList]
    (toString formula.clauses.length).toList

def rows (formula : Formula) : List (List Char) :=
  formula.problemRow :: formula.clauses.map Clause.row

theorem toList_toDimacs (formula : Formula) :
    formula.toDimacs.toList = formula.rows.flatMap (· ++ ['\n']) := by
  have problemLine : s!"p cnf {formula.numVariables} {formula.clauses.length}\n".toList
      = formula.problemRow ++ ['\n'] := by
    simp [problemRow, spaced, toString]
  rw [toDimacs, String.toList_append, problemLine, String.toList_join, List.flatMap_map, rows,
    List.flatMap_cons, List.flatMap_map]
  simp only [Clause.toList_toDimacs]

theorem isWord_of_mem_problemRow {formula : Formula} :
    ∀ word ∈ [['p'], ['c', 'n', 'f'], (toString formula.numVariables).toList], IsWord word := by
  simp only [List.forall_mem_cons]
  exact ⟨Text.isWord_of_all (by decide) (by decide), Text.isWord_of_all (by decide) (by decide),
    Text.isWord_toString _, fun _ member => (nomatch member)⟩

theorem isRow_of_mem_rows (formula : Formula) : ∀ row ∈ formula.rows, IsRow row := by
  rw [rows, List.forall_mem_cons]
  refine ⟨Text.isRow_spaced isWord_of_mem_problemRow (Text.isWord_toString _), ?_⟩
  intro row member
  obtain ⟨clause, _, rfl⟩ := List.mem_map.1 member
  exact Text.isRow_spaced Clause.isWord_of_mem Clause.isWord_zero

theorem isProblemLine_problemRow {formula : Formula}
    (variableCount : formula.numVariables ≤ maxWord)
    (clauseCount : formula.clauses.length ≤ maxWord) :
    Dimacs.IsProblemLine ⟨formula.numVariables, formula.clauses.length⟩ formula.problemRow :=
  ⟨_, _, Text.words_spaced isWord_of_mem_problemRow (Text.isWord_toString _),
    Text.spellsCount_toString variableCount, Text.spellsCount_toString clauseCount⟩

theorem significant_rows {formula : Formula} (variableCount : formula.numVariables ≤ maxWord)
    (clauseCount : formula.clauses.length ≤ maxWord) :
    Dimacs.significant formula.rows = formula.rows := by
  apply Dimacs.significant_eq_self
  rw [rows, List.forall_mem_cons]
  constructor
  · have first := (isProblemLine_problemRow variableCount clauseCount).first?_eq
    exact ⟨'p', first, by decide, by decide⟩
  · intro row member
    obtain ⟨clause, _, rfl⟩ := List.mem_map.1 member
    obtain ⟨c, first, isNumeralChar⟩ := clause.first?_row
    exact ⟨c, first, isNumeralChar.ne (by decide), isNumeralChar.ne (by decide)⟩

/-- The numbers of the lines after the problem line. -/
def numbers (formula : Formula) : List Int :=
  formula.clauses.flatMap (·.block ++ [0])

theorem areNumberLines_clauses {formula : Formula} (wellFormed : formula.WellFormed)
    (kept : ∀ clause ∈ formula.clauses, ∀ literal ∈ clause, literal.Kept) :
    Dimacs.AreNumberLines formula.numVariables formula.numbers
      (formula.clauses.map Clause.row) := by
  constructor
  · intro row member
    obtain ⟨clause, _, rfl⟩ := List.mem_map.1 member
    obtain ⟨c, first, isNumeralChar⟩ := clause.first?_row
    rw [first]
    exact fun same => isNumeralChar.ne (by decide) (Option.some.inj same)
  · rw [List.flatMap_map, numbers]
    have paired : List.Forall₂ (fun clause same => clause = same ∧ clause ∈ formula.clauses)
        formula.clauses formula.clauses :=
      List.forall₂_same.2 fun clause member => ⟨rfl, member⟩
    refine List.rel_flatMap paired ?_
    rintro clause _ ⟨rfl, member⟩
    exact Clause.spells_row (wellFormed.within clause member) (kept clause member)

theorem standsFor_numbers {formula : Formula} (wellFormed : formula.WellFormed)
    (kept : ∀ clause ∈ formula.clauses, ∀ literal ∈ clause, literal.Kept) :
    Dimacs.StandsFor ⟨formula.numVariables, formula.clauses.length⟩ formula.numbers formula := by
  refine ⟨formula.clauses.map Clause.block, ⟨?_, ?_, List.not_mem_nil⟩, List.length_map _, ?_⟩
  · rw [numbers, List.append_nil, List.flatMap_map]
  · intro block member
    obtain ⟨clause, inFormula, rfl⟩ := List.mem_map.1 member
    exact Clause.zero_not_mem_block (wellFormed.within clause inFormula) (kept clause inFormula)
  · have same := List.map_congr_left fun clause member =>
      Clause.map_ofSigned_block (kept clause member)
    rw [List.map_map]
    exact congrArg (Formula.mk formula.numVariables) ((List.map_id _).symm.trans same.symm)

/-! ## The text of a formula -/

/-- The text of a well-formed formula spells it if no literal is lost in its signed form. -/
theorem spells_toDimacs {formula : Formula} (wellFormed : formula.WellFormed)
    (variableCount : formula.numVariables ≤ maxWord)
    (clauseCount : formula.clauses.length ≤ maxWord)
    (kept : ∀ clause ∈ formula.clauses, ∀ literal ∈ clause, literal.Kept) :
    Dimacs.Spells formula.toDimacs formula := by
  refine ⟨⟨formula.numVariables, formula.clauses.length⟩, formula.numbers, ?_,
    standsFor_numbers wellFormed kept⟩
  rw [Text.lines_of_rows formula.isRow_of_mem_rows formula.toList_toDimacs,
    significant_rows variableCount clauseCount]
  exact ⟨_, _, rfl, isProblemLine_problemRow variableCount clauseCount,
    areNumberLines_clauses wellFormed kept⟩

/-- A formula of machine-sized counts that is valid, with no number of a variable above 2^63 - 1. -/
structure Printable (formula : Formula) : Prop where
  valid : formula.validate = .ok ()
  variableCount : formula.numVariables ≤ maxWord
  clauseCount : formula.clauses.length ≤ maxWord
  small : ∀ clause ∈ formula.clauses, ∀ literal ∈ clause, literal.var ≤ 2 ^ 63 - 1

theorem Printable.ofDimacs_toDimacs {formula : Formula} (printable : formula.Printable) :
    ofDimacs formula.toDimacs = .ok formula := by
  have wellFormed := validate_eq_ok_iff.1 printable.valid
  have spells : Dimacs.Spells formula.toDimacs formula := by
    refine spells_toDimacs wellFormed printable.variableCount printable.clauseCount ?_
    intro clause inFormula literal inClause
    have positive := (wellFormed.within clause inFormula literal inClause).1
    have small := printable.small clause inFormula literal inClause
    exact Literal.ofSigned_toSigned positive (by omega)
  exact ofDimacs_of_spells spells wellFormed.hasVariable

/-- Reading undoes writing, so different formulas have different texts, and a text that was written
    is written again for what is read from it. -/
theorem dimacs_roundTrip :
    (∀ formula : Formula, formula.Printable → ofDimacs formula.toDimacs = .ok formula)
    ∧ Set.InjOn toDimacs {formula | formula.Printable}
    ∧ ∀ text ∈ Set.image toDimacs {formula | formula.Printable},
      ∃ formula, ofDimacs text = .ok formula ∧ formula.toDimacs = text := by
  refine ⟨fun _ => Printable.ofDimacs_toDimacs, ?_, ?_⟩
  · intro first firstPrintable second secondPrintable same
    have readBack := Printable.ofDimacs_toDimacs firstPrintable
    rw [same, Printable.ofDimacs_toDimacs secondPrintable] at readBack
    cases readBack
    rfl
  · rintro _ ⟨formula, printable, rfl⟩
    exact ⟨formula, Printable.ofDimacs_toDimacs printable, rfl⟩

/-- A repeated literal, an empty clause and the largest variable are read back, and the formula is
    not written like one without the repetition and the empty clause. -/
theorem dimacs_roundTrip_repeated_and_empty :
    let formula : Formula :=
      ⟨9223372036854775807, [[⟨1, true⟩, ⟨1, true⟩], [], [⟨9223372036854775807, false⟩]]⟩
    let simpler : Formula := ⟨9223372036854775807, [[⟨1, true⟩], [⟨9223372036854775807, false⟩]]⟩
    ofDimacs formula.toDimacs = .ok formula ∧ formula.toDimacs ≠ simpler.toDimacs := by
  intro formula simpler
  have printable : formula.Printable := ⟨rfl, by decide, by decide, by decide⟩
  have simplerPrintable : simpler.Printable := ⟨rfl, by decide, by decide, by decide⟩
  refine ⟨dimacs_roundTrip.1 formula printable, ?_⟩
  intro same
  have equal : formula = simpler := dimacs_roundTrip.2.1 printable simplerPrintable same
  exact absurd equal (by decide)

end Formula

end SatSum
