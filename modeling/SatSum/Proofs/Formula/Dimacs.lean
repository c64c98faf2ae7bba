import SatSum.Proofs.Models
import SatSum.Proofs.Text.Numerals
import SatSum.Proofs.Text.Reading

/-! # The grammar of DIMACS texts

Of a text only the significant lines count: those before the first that starts with `%`, less blank
lines and comments. The first is the problem line, the others are lines of numbers. Across line
ends, the numbers are cut into blocks by zeros, and every block is a clause. `Spells` says this
without following the reader, and the reader takes exactly the texts that spell a formula.

The reader is shown to keep to the grammar step by step: what it has read so far `Holds` the numbers
of the lines behind it, and a step either reads what its token or line spells or refuses the whole
text.

* `Spells.unique`: a text spells at most one formula.
* `reads_readText`: what the reader takes, before the formula is validated.
* `ofDimacs_exact`: reading accepts exactly the grammar.
-/

namespace SatSum.Dimacs

open Text (first? words SpellsCount SpellsSigned Reads reads_misreading)

/-! ## Grammar -/

/-- The lines that count. -/
def significant (lines : List (List Char)) : List (List Char) :=
  (lines.takeWhile fun line => first? line ≠ some '%').filter fun line =>
    first? line ≠ none ∧ first? line ≠ some 'c'

/-- A line with the number of variables and the number of clauses. -/
def IsProblemLine (header : Header) (line : List Char) : Prop :=
  ∃ vars clauses, words line = [['p'], ['c', 'n', 'f'], vars, clauses]
    ∧ SpellsCount vars header.numVariables ∧ SpellsCount clauses header.numClauses

/-- A number that is zero or stands for a literal over a declared variable. -/
def SpellsNumber (numVariables : Nat) (word : List Char) (number : Int) : Prop :=
  SpellsSigned word number ∧ number.natAbs ≤ numVariables

/-- The words of the lines spell the numbers, and no line is a problem line. -/
def AreNumberLines (numVariables : Nat) (numbers : List Int) (lines : List (List Char)) : Prop :=
  (∀ line ∈ lines, first? line ≠ some 'p')
    ∧ List.Forall₂ (SpellsNumber numVariables) (lines.flatMap words) numbers

/-- A problem line followed by lines of numbers. -/
def IsLayout (header : Header) (numbers : List Int) (lines : List (List Char)) : Prop :=
  ∃ problemLine numberLines, lines = problemLine :: numberLines ∧ IsProblemLine header problemLine
    ∧ AreNumberLines header.numVariables numbers numberLines

/-- Blocks of numbers, each ended by a zero, and then numbers without a zero. -/
structure Cut (numbers : List Int) (blocks : List (List Int)) (opened : List Int) : Prop where
  joined : numbers = blocks.flatMap (· ++ [0]) ++ opened
  ended : ∀ block ∈ blocks, 0 ∉ block
  pending : 0 ∉ opened

/-- As many blocks as declared, with nothing after the last, are the clauses of the formula. -/
def StandsFor (header : Header) (numbers : List Int) (formula : Formula) : Prop :=
  ∃ blocks, Cut numbers blocks [] ∧ blocks.length = header.numClauses
    ∧ formula = ⟨header.numVariables, blocks.map (·.map Literal.ofSigned)⟩

/-- The significant lines of the text are those of the formula, which may be without variables. -/
def Spells (text : String) (formula : Formula) : Prop :=
  ∃ header numbers, IsLayout header numbers (significant (Text.lines text))
    ∧ StandsFor header numbers formula

/-! ## Kinds of lines -/

/-- What the first character says about a line, and what the reader makes of it. -/
inductive HasKind (line : List Char) : LineKind → Prop
  | skipped (nothing : first? line = none ∨ first? line = some 'c') : HasKind line .skipped
  | final (stop : first? line = some '%') : HasKind line .final
  | problem (isProblem : first? line = some 'p') : HasKind line .problem
  | literals {c : Char} (first : first? line = some c) (noComment : c ≠ 'c') (noStop : c ≠ '%')
      (noProblem : c ≠ 'p') : HasKind line .literals

theorem hasKind_ofLine (line : List Char) : HasKind line (LineKind.ofLine line) := by
  have first := Text.first?_eq_head?_dropWhile line
  unfold LineKind.ofLine
  split
  next nothing => exact .skipped (Or.inl (by rw [first, nothing]; rfl))
  next rest comment => exact .skipped (Or.inr (by rw [first, comment]; rfl))
  next rest stop => exact .final (by rw [first, stop]; rfl)
  next rest isProblem => exact .problem (by rw [first, isProblem]; rfl)
  next nonempty noComment noStop noProblem =>
    obtain ⟨c, rest, split⟩ := List.exists_cons_of_ne_nil nonempty
    refine .literals (c := c) (by rw [first, split]; rfl) ?_ ?_ ?_
    · rintro rfl
      exact noComment rest split
    · rintro rfl
      exact noStop rest split
    · rintro rfl
      exact noProblem rest split

theorem significant_of_final {line : List Char} (stop : first? line = some '%')
    (lines : List (List Char)) : significant (line :: lines) = [] := by
  simp [significant, stop]

theorem significant_of_skipped {line : List Char}
    (nothing : first? line = none ∨ first? line = some 'c') (lines : List (List Char)) :
    significant (line :: lines) = significant lines := by
  rcases nothing with blank | comment
  · simp [significant, blank]
  · simp [significant, comment]

theorem significant_of_first {line : List Char} {c : Char} (first : first? line = some c)
    (noComment : c ≠ 'c') (noStop : c ≠ '%') (lines : List (List Char)) :
    significant (line :: lines) = line :: significant lines := by
  simp [significant, first, noComment, noStop]

theorem significant_eq_self {lines : List (List Char)}
    (count : ∀ line ∈ lines, ∃ c, first? line = some c ∧ c ≠ 'c' ∧ c ≠ '%') :
    significant lines = lines := by
  induction lines with
  | nil => rfl
  | cons line lines inductionHypothesis =>
    obtain ⟨⟨c, first, noComment, noStop⟩, countLater⟩ := List.forall_mem_cons.1 count
    rw [significant_of_first first noComment noStop, inductionHypothesis countLater]

/-! ## The problem line -/

theorem exists_tokens_of_problemLine {header : Header} {line : List Char}
    (isProblemLine : IsProblemLine header line) :
    ∃ first second third fourth vars clauses,
      Text.tokens line
          = [⟨first, ['p']⟩, ⟨second, ['c', 'n', 'f']⟩, ⟨third, vars⟩, ⟨fourth, clauses⟩]
        ∧ SpellsCount vars header.numVariables ∧ SpellsCount clauses header.numClauses := by
  obtain ⟨vars, clauses, shape, spelled⟩ := isProblemLine
  rw [← Text.map_text_tokens] at shape
  match found : Text.tokens line, shape with
  | [⟨first, _⟩, ⟨second, _⟩, ⟨third, _⟩, ⟨fourth, _⟩], shape =>
    cases shape
    exact ⟨first, second, third, fourth, _, _, rfl, spelled⟩

theorem reads_readHeader (number : Nat) (line : List Char) :
    Reads (readHeader number line) (IsProblemLine · line)
      (∀ header, ¬ IsProblemLine header line) := by
  have sameWords := Text.map_text_tokens line
  unfold readHeader
  split
  next _ _ first second found =>
    rw [found] at sameWords
    split
    next noVars =>
      apply reads_misreading
      rintro header ⟨vars, clauses, shape, spellsVars, _⟩
      obtain ⟨⟩ := sameWords.trans shape
      exact Text.count?_eq_none_iff.1 noVars _ spellsVars
    next numVariables foundVars =>
      split
      next noClauses =>
        apply reads_misreading
        rintro header ⟨vars, clauses, shape, _, spellsClauses⟩
        obtain ⟨⟩ := sameWords.trans shape
        exact Text.count?_eq_none_iff.1 noClauses _ spellsClauses
      next numClauses foundClauses =>
        exact ⟨first.text, second.text, sameWords.symm, Text.count?_eq_some_iff.1 foundVars,
          Text.count?_eq_some_iff.1 foundClauses⟩
  next _ format _ notFour found =>
    have refused : ∀ header, ¬ IsProblemLine header line := by
      intro header isProblemLine
      obtain ⟨_, _, _, _, vars, clauses, same, _⟩ := exists_tokens_of_problemLine isProblemLine
      rw [found] at same
      cases same
      exact notFour _ _ _ rfl rfl
    split
    next => exact reads_misreading _ _ _ refused
    next => exact reads_misreading _ _ _ refused
  next notFour _ =>
    apply reads_misreading
    intro header isProblemLine
    obtain ⟨_, _, _, _, vars, clauses, same, _⟩ := exists_tokens_of_problemLine isProblemLine
    exact notFour _ _ _ _ same

theorem IsProblemLine.unique {first second : Header} {line : List Char}
    (left : IsProblemLine first line) (right : IsProblemLine second line) : first = second := by
  obtain ⟨vars, clauses, shape, spellsVars, spellsClauses⟩ := left
  obtain ⟨_, _, otherShape, otherVars, otherClauses⟩ := right
  rw [shape] at otherShape
  cases otherShape
  obtain ⟨numVariables, numClauses⟩ := first
  obtain rfl : numVariables = _ := Text.rightUnique_spellsCount spellsVars otherVars
  obtain rfl : numClauses = _ := Text.rightUnique_spellsCount spellsClauses otherClauses
  rfl

theorem IsProblemLine.first?_eq {header : Header} {line : List Char}
    (isProblemLine : IsProblemLine header line) : first? line = some 'p' := by
  obtain ⟨vars, clauses, shape, _⟩ := isProblemLine
  rw [Text.first?_eq_head?_words, shape]
  rfl

/-! ## Blocks -/

namespace Cut

variable {numbers : List Int} {blocks : List (List Int)} {opened : List Int}

theorem nil : Cut [] [] [] :=
  ⟨rfl, fun _ member => (nomatch member), List.not_mem_nil⟩

theorem snoc_zero (cut : Cut numbers blocks opened) :
    Cut (numbers ++ [0]) (blocks ++ [opened]) [] where
  joined := by simp [cut.joined]
  ended := by
    intro block member
    rcases List.mem_append.1 member with earlier | last
    · exact cut.ended block earlier
    · rw [List.mem_singleton.1 last]
      exact cut.pending
  pending := List.not_mem_nil

theorem snoc (cut : Cut numbers blocks opened) {number : Int} (notZero : number ≠ 0) :
    Cut (numbers ++ [number]) blocks (opened ++ [number]) where
  joined := by simp [cut.joined]
  ended := cut.ended
  pending := by
    rw [List.mem_append, List.mem_singleton]
    exact fun zero => zero.elim cut.pending notZero.symm

/-- The blocks are what splitting at every zero gives. -/
theorem splitOn_eq (cut : Cut numbers blocks opened) : numbers.splitOn 0 = blocks ++ [opened] := by
  obtain ⟨rfl, ended, pending⟩ := cut
  induction blocks with
  | nil => exact List.splitOn_eq_singleton pending
  | cons block blocks inductionHypothesis =>
    obtain ⟨endedFirst, endedLater⟩ := List.forall_mem_cons.1 ended
    rw [List.flatMap_cons, List.append_assoc, List.append_assoc, List.singleton_append,
      List.splitOn_append_cons_self_of_not_mem endedFirst, inductionHypothesis endedLater,
      List.cons_append]

theorem unique (cut : Cut numbers blocks opened) {others : List (List Int)} {other : List Int}
    (otherCut : Cut numbers others other) : blocks = others ∧ opened = other := by
  have same := cut.splitOn_eq.symm.trans otherCut.splitOn_eq
  obtain ⟨sameBlocks, sameOpened⟩ := List.append_inj' same rfl
  exact ⟨sameBlocks, List.singleton_injective sameOpened⟩

end Cut

/-! ## Lines of numbers -/

/-- What has been read are a problem line and then these numbers. -/
structure Reading.Holds (header : Header) (reading : Reading) (numbers : List Int) : Prop where
  header_eq : reading.header = some header
  cut : ∃ blocks opened, Cut numbers blocks opened
    ∧ reading.finished.reverse = blocks.map (·.map Literal.ofSigned)
    ∧ reading.literals.reverse = opened.map Literal.ofSigned

theorem reads_addToken {header : Header} {reading : Reading} {numbers : List Int}
    (holds : reading.Holds header numbers) (number : Nat) (token : Text.Token) :
    Reads (reading.addToken header.numVariables number token)
      (fun next => ∃ value, SpellsNumber header.numVariables token.text value
        ∧ next.Holds header (numbers ++ [value]))
      (∀ value, ¬ SpellsNumber header.numVariables token.text value) := by
  obtain ⟨header_eq, blocks, opened, cut, finished, literals⟩ := holds
  unfold Reading.addToken
  split
  next unreadable =>
    apply reads_misreading
    rintro value ⟨spelled, _⟩
    exact Text.signed?_eq_none_iff.1 unreadable _ spelled
  next value readable =>
    have spelled := Text.signed?_eq_some_iff.1 readable
    split
    next zero =>
      subst zero
      refine ⟨0, ⟨spelled, Nat.zero_le _⟩, header_eq, _, _, cut.snoc_zero, ?_, rfl⟩
      simp [finished, literals]
    next notZero =>
      split
      next undeclared =>
        apply reads_misreading
        rintro other ⟨otherSpelled, declared⟩
        rw [Text.rightUnique_spellsSigned otherSpelled spelled] at declared
        omega
      next declared =>
        refine ⟨value, ⟨spelled, by omega⟩, header_eq, _, _, cut.snoc notZero, finished, ?_⟩
        simp [literals]

theorem addLine_of_skipped {line : List Char} (kindIs : LineKind.ofLine line = .skipped)
    {number : Nat} {reading : Reading} : reading.addLine number line = .ok reading := by
  rw [Reading.addLine, kindIs]

theorem reads_addLine {header : Header} {reading : Reading} {numbers : List Int}
    (holds : reading.Holds header numbers) {line : List Char}
    (kindIs : LineKind.ofLine line = .literals) (number : Nat) :
    Reads (reading.addLine number line)
      (fun next => ∃ here, List.Forall₂ (SpellsNumber header.numVariables) (words line) here
        ∧ next.Holds header (numbers ++ here))
      (∀ here, ¬ List.Forall₂ (SpellsNumber header.numVariables) (words line) here) := by
  rw [Reading.addLine, kindIs, holds.header_eq, ← Text.map_text_tokens]
  exact Text.reads_foldlM holds (fun held => reads_addToken held number) (Text.tokens line)

theorem areNumberLines_cons {numVariables : Nat} {numbers : List Int} {line : List Char}
    {lines : List (List Char)} :
    AreNumberLines numVariables numbers (line :: lines)
      ↔ first? line ≠ some 'p' ∧ ∃ here later, numbers = here ++ later
        ∧ List.Forall₂ (SpellsNumber numVariables) (words line) here
        ∧ AreNumberLines numVariables later lines := by
  simp only [AreNumberLines, List.forall_mem_cons, List.flatMap_cons]
  constructor
  · rintro ⟨⟨noProblem, noProblems⟩, spelled⟩
    obtain ⟨here, later, rfl, spelledHere, spelledLater⟩ := Text.forall₂_append_iff.1 spelled
    exact ⟨noProblem, here, later, rfl, spelledHere, noProblems, spelledLater⟩
  · rintro ⟨noProblem, here, later, rfl, spelledHere, noProblems, spelledLater⟩
    exact ⟨⟨noProblem, noProblems⟩, List.rel_append spelledHere spelledLater⟩

theorem SpellsNumber.rightUnique (numVariables : Nat) :
    Relator.RightUnique (SpellsNumber numVariables) :=
  fun _ _ _ left right => Text.rightUnique_spellsSigned left.1 right.1

theorem IsLayout.unique {header other : Header} {numbers others : List Int}
    {lines : List (List Char)} (isLayout : IsLayout header numbers lines)
    (otherLayout : IsLayout other others lines) : header = other ∧ numbers = others := by
  obtain ⟨_, _, rfl, isProblemLine, areNumberLines⟩ := isLayout
  obtain ⟨_, _, same, otherProblemLine, otherNumberLines⟩ := otherLayout
  obtain ⟨rfl, rfl⟩ := List.cons.inj same
  obtain rfl := isProblemLine.unique otherProblemLine
  exact ⟨rfl, List.right_unique_forall₂' (SpellsNumber.rightUnique _) areNumberLines.2
    otherNumberLines.2⟩

/-- Behind the problem line, where every significant line adds to what has been read. -/
theorem reads_numberLines {header : Header} {reading : Reading} {numbers : List Int}
    (holds : reading.Holds header numbers) (last : Nat) (lines : List (List Char)) :
    Reads (readLines last reading lines)
      (fun result => ∃ more, AreNumberLines header.numVariables more (significant lines)
        ∧ result.1.Holds header (numbers ++ more))
      (∀ more, ¬ AreNumberLines header.numVariables more (significant lines)) := by
  induction lines generalizing reading numbers last with
  | nil => exact ⟨[], ⟨fun _ member => (nomatch member), .nil⟩, by rwa [List.append_nil]⟩
  | cons line lines inductionHypothesis =>
    have hasKind := hasKind_ofLine line
    unfold readLines
    generalize kindIs : LineKind.ofLine line = kind at hasKind
    cases hasKind with
    | final stop =>
      rw [if_pos rfl, significant_of_final stop]
      exact ⟨[], ⟨fun _ member => (nomatch member), .nil⟩, by rwa [List.append_nil]⟩
    | skipped nothing =>
      rw [if_neg (by decide), addLine_of_skipped kindIs, significant_of_skipped nothing]
      exact inductionHypothesis holds (last + 1)
    | problem isProblem =>
      have refuses : reading.addLine (last + 1) line
          = .error (.unreadable (last + 1) (Text.indent line) .duplicateProblemLine) := by
        rw [Reading.addLine, kindIs, holds.header_eq]
      rw [if_neg (by decide), refuses, significant_of_first isProblem (by decide) (by decide)]
      apply reads_misreading
      intro more areNumberLines
      exact absurd isProblem (areNumberLines.1 line List.mem_cons_self)
    | literals first noComment noStop noProblem =>
      have notProblem : first? line ≠ some 'p' := by
        rw [first]
        exact fun same => noProblem (Option.some.inj same)
      rw [if_neg (by decide), significant_of_first first noComment noStop]
      simp only [areNumberLines_cons]
      refine Reads.bind ((reads_addLine holds kindIs (last + 1)).imp (fun _ => id) ?_) ?_
      · rintro refused _ ⟨_, here, later, rfl, spelled, _⟩
        exact refused here spelled
      · rintro next ⟨here, spelled, held⟩
        apply (inductionHypothesis held (last + 1)).imp
        · rintro result ⟨later, areNumberLines, heldLater⟩
          rw [List.append_assoc] at heldLater
          exact ⟨here ++ later, ⟨notProblem, here, later, rfl, spelled, areNumberLines⟩, heldLater⟩
        · rintro refused _ ⟨_, _, later, rfl, _, areNumberLines⟩
          exact refused later areNumberLines

/-- From the beginning. Up to the problem line nothing is read, so there is nothing yet that a
    reading `Holds`. -/
theorem reads_lines (last : Nat) (lines : List (List Char)) :
    Reads (readLines last .start lines)
      (fun result => significant lines = [] ∧ result.1 = .start
        ∨ ∃ header numbers, IsLayout header numbers (significant lines)
          ∧ result.1.Holds header numbers)
      (∀ header numbers, ¬ IsLayout header numbers (significant lines)) := by
  induction lines generalizing last with
  | nil => exact Or.inl ⟨rfl, rfl⟩
  | cons line lines inductionHypothesis =>
    have hasKind := hasKind_ofLine line
    unfold readLines
    generalize kindIs : LineKind.ofLine line = kind at hasKind
    cases hasKind with
    | final stop =>
      rw [if_pos rfl, significant_of_final stop]
      exact Or.inl ⟨rfl, rfl⟩
    | skipped nothing =>
      rw [if_neg (by decide), addLine_of_skipped kindIs, significant_of_skipped nothing]
      exact inductionHypothesis (last + 1)
    | problem isProblem =>
      have adds : Reading.start.addLine (last + 1) line
          = readHeader (last + 1) line >>= fun header =>
            .ok { Reading.start with header := some header } := by
        rw [Reading.addLine, kindIs]
        rfl
      rw [if_neg (by decide), adds, bind_assoc,
        significant_of_first isProblem (by decide) (by decide)]
      refine Reads.bind ((reads_readHeader (last + 1) line).imp (fun _ => id) ?_) ?_
      · rintro refused header numbers ⟨_, _, same, isProblemLine, _⟩
        obtain ⟨rfl, rfl⟩ := List.cons.inj same
        exact refused header isProblemLine
      · intro header isProblemLine
        have holds : Reading.Holds header { Reading.start with header := some header } [] :=
          ⟨rfl, [], [], .nil, rfl, rfl⟩
        apply (reads_numberLines holds (last + 1) lines).imp
        · rintro result ⟨numbers, areNumberLines, held⟩
          exact Or.inr ⟨header, numbers, ⟨line, _, rfl, isProblemLine, areNumberLines⟩, held⟩
        · rintro refused other numbers ⟨_, _, same, otherProblemLine, areNumberLines⟩
          obtain ⟨rfl, rfl⟩ := List.cons.inj same
          rw [otherProblemLine.unique isProblemLine] at areNumberLines
          exact refused numbers areNumberLines
    | literals first noComment noStop noProblem =>
      have refuses : Reading.start.addLine (last + 1) line
          = .error (.unreadable (last + 1) (Text.indent line) .clauseBeforeProblemLine) := by
        rw [Reading.addLine, kindIs]
        rfl
      rw [if_neg (by decide), refuses, significant_of_first first noComment noStop]
      apply reads_misreading
      rintro header numbers ⟨_, _, same, isProblemLine, _⟩
      obtain ⟨rfl, rfl⟩ := List.cons.inj same
      rw [isProblemLine.first?_eq] at first
      exact noProblem (Option.some.inj first).symm

/-! ## The end of the text -/

theorem reads_finish {header : Header} {reading : Reading} {numbers : List Int}
    (holds : reading.Holds header numbers) (last : Nat) :
    Reads (reading.finish last) (StandsFor header numbers)
      (∀ formula, ¬ StandsFor header numbers formula) := by
  obtain ⟨header_eq, blocks, opened, cut, finished, literals⟩ := holds
  have sameLength : reading.finished.length = blocks.length := by
    rw [← List.length_reverse, finished, List.length_map]
  rw [Reading.finish, header_eq]
  dsimp only
  split
  next isOpen =>
    apply reads_misreading
    rintro formula ⟨others, otherCut, _⟩
    rw [(cut.unique otherCut).2, List.map_nil, List.reverse_eq_nil_iff] at literals
    rw [literals] at isOpen
    cases isOpen
  next isClosed =>
    have noLiterals : reading.literals = [] := by simpa using isClosed
    rw [noLiterals] at literals
    obtain rfl := List.map_eq_nil_iff.1 literals.symm
    split
    next wrongCount =>
      apply reads_misreading
      rintro formula ⟨others, otherCut, declared, _⟩
      rw [← (cut.unique otherCut).1, ← sameLength] at declared
      exact wrongCount declared
    next rightCount =>
      rw [not_not, sameLength] at rightCount
      exact ⟨blocks, cut, rightCount, by rw [finished]⟩

/-- The formula that a text stands for, before it is validated. -/
def readText (text : String) : Except Fault Formula :=
  readLines 0 .start (Text.lines text) >>= fun result => result.1.finish result.2

theorem reads_readText (text : String) :
    Reads (readText text) (Spells text) (∀ formula, ¬ Spells text formula) := by
  refine Reads.bind ((reads_lines 0 (Text.lines text)).imp (fun _ => id) ?_) ?_
  · rintro refused formula ⟨header, numbers, isLayout, _⟩
    exact refused header numbers isLayout
  · rintro ⟨reading, last⟩ (⟨noLines, rfl⟩ | ⟨header, numbers, isLayout, holds⟩)
    · apply reads_misreading
      rintro formula ⟨header, numbers, ⟨_, _, same, _⟩, _⟩
      rw [noLines] at same
      cases same
    · apply (reads_finish holds last).imp
      · intro formula standsFor
        exact ⟨header, numbers, isLayout, standsFor⟩
      · rintro refused formula ⟨other, others, otherLayout, standsFor⟩
        obtain ⟨rfl, rfl⟩ := isLayout.unique otherLayout
        exact refused formula standsFor

theorem StandsFor.unique {header : Header} {numbers : List Int} {formula other : Formula}
    (left : StandsFor header numbers formula) (right : StandsFor header numbers other) :
    formula = other := by
  obtain ⟨blocks, cut, _, rfl⟩ := left
  obtain ⟨others, otherCut, _, rfl⟩ := right
  rw [(cut.unique otherCut).1]

theorem Spells.unique {text : String} {formula other : Formula} (left : Spells text formula)
    (right : Spells text other) : formula = other := by
  obtain ⟨header, numbers, isLayout, standsFor⟩ := left
  obtain ⟨_, _, otherLayout, otherStandsFor⟩ := right
  obtain ⟨rfl, rfl⟩ := isLayout.unique otherLayout
  exact standsFor.unique otherStandsFor

end SatSum.Dimacs

namespace SatSum.Formula

open Dimacs (Spells)

/-! ## Reading a formula -/

/-- Every literal of what is spelled stands in the text, as a number other than zero. -/
theorem exists_number_of_spells {text : String} {formula : Formula} (spells : Spells text formula)
    {clause : Clause} (inFormula : clause ∈ formula.clauses) {literal : Literal} (inClause : literal ∈ clause) :
    ∃ word number, Dimacs.SpellsNumber formula.numVariables word number ∧ number ≠ 0
      ∧ literal = Literal.ofSigned number := by
  obtain ⟨header, numbers, ⟨_, _, _, _, areNumberLines⟩, blocks, cut, _, rfl⟩ := spells
  obtain ⟨block, inBlocks, rfl⟩ := List.mem_map.1 inFormula
  obtain ⟨number, inBlock, rfl⟩ := List.mem_map.1 inClause
  have notZero : number ≠ 0 := by
    rintro rfl
    exact cut.ended block inBlocks inBlock
  have inNumbers : number ∈ numbers := by
    rw [cut.joined, List.append_nil]
    exact List.mem_flatMap.2 ⟨block, inBlocks, List.mem_append_left _ inBlock⟩
  obtain ⟨word, _, spelled⟩ := Text.exists_spelling areNumberLines.2 inNumbers
  exact ⟨word, number, spelled, notZero, rfl⟩

/-- What is spelled is well-formed as soon as there is a variable. -/
theorem wellFormed_of_spells {text : String} {formula : Formula} (spells : Spells text formula)
    (hasVariable : 0 < formula.numVariables) : formula.WellFormed := by
  refine ⟨hasVariable, fun clause inFormula literal inClause => ?_⟩
  obtain ⟨_, number, spelled, notZero, rfl⟩ := exists_number_of_spells spells inFormula inClause
  exact ⟨Int.natAbs_pos.2 notZero, spelled.2⟩

/-- The counts of what is spelled are words. -/
theorem counts_of_spells {text : String} {formula : Formula} (spells : Spells text formula) :
    formula.numVariables ≤ maxWord ∧ formula.clauses.length ≤ maxWord := by
  obtain ⟨header, _, ⟨_, _, _, ⟨_, _, _, vars, clauses⟩, _⟩, blocks, _, sameCount, rfl⟩ := spells
  refine ⟨vars.2, ?_⟩
  rw [List.length_map, sameCount]
  exact clauses.2

theorem ofDimacs_eq (text : String) :
    ofDimacs text
      = Dimacs.readText text >>= fun formula => formula.validate >>= fun _ => .ok formula := by
  rw [Dimacs.readText, bind_assoc]
  rfl

theorem ofDimacs_outcome (text : String) :
    Text.Outcome (Spells text) (1 ≤ ·.numVariables) (ofDimacs text) := by
  rw [ofDimacs_eq]
  apply (Dimacs.reads_readText text).validated
  intro formula spells
  rcases Nat.eq_zero_or_pos formula.numVariables with noVariables | hasVariable
  · refine Or.inr ⟨.noVariables, ?_, by rw [noVariables]; decide⟩
    rw [validate, if_pos noVariables]
  · exact Or.inl ⟨validate_eq_ok_iff.2 (wellFormed_of_spells spells hasVariable), hasVariable⟩

theorem ofDimacs_of_spells {text : String} {formula : Formula} (spells : Spells text formula)
    (hasVariable : 1 ≤ formula.numVariables) : ofDimacs text = .ok formula :=
  ((ofDimacs_outcome text).eq_ok_iff Spells.unique).2 ⟨spells, hasVariable⟩

/-- Reading takes exactly the texts that spell a formula with a variable, as that formula. It finds
    a formula malformed exactly if the text spells one without variables, and reports a misreading
    exactly if the text spells none. -/
theorem ofDimacs_exact (text : String) :
    (∀ formula, ofDimacs text = .ok formula ↔ Spells text formula ∧ 1 ≤ formula.numVariables)
    ∧ ((∃ cause, ofDimacs text = .error (.malformed cause))
      ↔ ∃ formula, Spells text formula ∧ ¬ 1 ≤ formula.numVariables)
    ∧ ((∃ line column cause, ofDimacs text = .error (.unreadable line column cause))
      ↔ ∀ formula, ¬ Spells text formula) := by
  have outcome := ofDimacs_outcome text
  exact ⟨fun _ => outcome.eq_ok_iff Spells.unique, outcome.eq_malformed_iff Spells.unique,
    outcome.eq_unreadable_iff⟩

/-- A clause over two lines, a zero with a sign, and a line that ends the text early. -/
example : ofDimacs "c one\np cnf 2 2\n1\n\n +2 0 -0\n%\n3"
    = .ok ⟨2, [[⟨1, true⟩, ⟨2, true⟩], []]⟩ := by
  cbv

end SatSum.Formula
