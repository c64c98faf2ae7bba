import SatSum.Proofs.Reduction.Faithful
import Mathlib.Data.Nat.Digits.Lemmas

/-! # The digits of a sum show what is selected

The positions of an encoding are those of its positive literals, of its negative ones and of the slack,
each once. Whichever of them are selected, solution or not, the columns of the sum never carry: each
digit counts what is selected in its column, and equal sums have equal counts.

* `getD_digits_ofDigits`: digits below the radix are read back.
* `nodup_positions`, `mem_positions_iff`: the three lists of positions share out the numbers.
* `ofClauses_never_carries`: every digit of every sum.
-/

namespace SatSum.Encoding

open SubsetSum (Selection)

variable {numVariables position radix : Nat} {clauses : List Clause} {encoding : Encoding}
  {selection : Selection}

/-! ## Digits -/

/-- Digits below the radix are those of the number they make. -/
theorem getD_digits_ofDigits (enough : 2 ≤ radix) {digits : List Nat} (small : ∀ digit ∈ digits, digit < radix)
    (place : Nat) : (Nat.digits radix (Nat.ofDigits radix digits)).getD place 0 = digits.getD place 0 := by
  rw [Nat.getD_digits _ _ enough]
  induction digits generalizing place with
  | nil => simp
  | cons digit digits inductionHypothesis =>
    obtain ⟨smallFirst, smallRest⟩ := List.forall_mem_cons.1 small
    rw [Nat.ofDigits_cons]
    cases place with
    | zero => simp [Nat.mod_eq_of_lt smallFirst]
    | succ place =>
      -- A place up, the lowest digit is gone.
      have shifted : (digit + radix * Nat.ofDigits radix digits) / radix = Nat.ofDigits radix digits := by
        rw [Nat.add_mul_div_left _ _ (by omega), Nat.div_eq_of_lt smallFirst, Nat.zero_add]
      rw [Nat.pow_succ', ← Nat.div_div_eq_div_mul, shifted, inductionHypothesis smallRest,
        List.getD_cons_succ]

theorem radixFor_lt (narrow : ∀ clause ∈ clauses, clause.length < 2 ^ 31) : radixFor clauses < 2 ^ 32 := by
  have small : widest clauses < 2 ^ 31 := by
    refine List.foldlRecOn (motive := fun widest => widest < 2 ^ 31) _ _ (by decide) ?_
    intro widest small length member
    apply max_lt small
    obtain ⟨clause, inClauses, rfl⟩ := List.mem_map.1 member
    exact narrow clause inClauses
  rw [radixFor]
  omega

/-! ## Positions -/

theorem flatten_slacksFrom (position : Nat) (clauses : List Clause) :
    (slacksFrom position clauses).flatten = List.range' position (slackLength clauses) := by
  induction clauses generalizing position with
  | nil => rfl
  | cons clause clauses inductionHypothesis =>
    rw [slacksFrom, List.flatten_cons, inductionHypothesis, List.range'_append_1]
    rfl

theorem map_length_slacksFrom (position : Nat) (clauses : List Clause) :
    (slacksFrom position clauses).map List.length = clauses.map fun clause => clause.length - 1 := by
  induction clauses generalizing position with
  | nil => rfl
  | cons clause clauses inductionHypothesis =>
    rw [slacksFrom, List.map_cons, List.map_cons, inductionHypothesis, List.length_range']

/-- A polarity has the positions of one parity: the offset of `truePosition` is zero, that of
    `falsePosition` one. -/
theorem mem_map_vars_iff (offset : Nat) (isParity : offset < 2) :
    position ∈ (encoding.vars.map fun var => 2 * (var - 1) + offset)
      ↔ position % 2 = offset ∧ position < 2 * encoding.numVariables := by
  simp only [vars, List.mem_map, List.mem_range'_1]
  constructor
  · rintro ⟨var, inRange, rfl⟩
    omega
  · rintro ⟨parity, below⟩
    exact ⟨position / 2 + 1, by omega, by omega⟩

theorem nodup_map_vars (encoding : Encoding) (offset : Nat) :
    (encoding.vars.map fun var => 2 * (var - 1) + offset).Nodup := by
  refine (List.nodup_range' ..).map_on fun first firstIn second secondIn same => ?_
  rw [vars, List.mem_range'_1] at firstIn secondIn
  omega

theorem mem_slacks_iff : position ∈ encoding.slacks
    ↔ 2 * encoding.numVariables ≤ position
      ∧ position < 2 * encoding.numVariables + slackLength encoding.clauses := by
  rw [slacks, clauseSlacks, flatten_slacksFrom, List.mem_range'_1]

/-- No position is in two of the lists, or twice in one. -/
theorem nodup_positions (encoding : Encoding) :
    (encoding.positive ++ encoding.negative ++ encoding.slacks).Nodup := by
  have isEven {position : Nat} : position ∈ encoding.positive ↔ _ := mem_map_vars_iff 0 Nat.zero_lt_two
  have isOdd {position : Nat} : position ∈ encoding.negative ↔ _ := mem_map_vars_iff 1 Nat.one_lt_two
  refine List.nodup_append'.2
    ⟨List.nodup_append'.2 ⟨nodup_map_vars encoding 0, nodup_map_vars encoding 1, ?_⟩, ?_, ?_⟩
  · intro position inPositive inNegative
    have even := (isEven.1 inPositive).1
    have odd := (isOdd.1 inNegative).1
    omega
  · rw [slacks, clauseSlacks, flatten_slacksFrom]
    exact List.nodup_range' ..
  · intro position ofLiteral ofSlack
    have above := (mem_slacks_iff.1 ofSlack).1
    rcases List.mem_append.1 ofLiteral with inPositive | inNegative
    · have := (isEven.1 inPositive).2
      omega
    · have := (isOdd.1 inNegative).2
      omega

/-- Every number is at a position in one of the lists. -/
theorem Built.mem_positions_iff (built : encoding.Built) :
    position ∈ encoding.positive ++ encoding.negative ++ encoding.slacks
      ↔ position < encoding.encoded.numbers.length := by
  have isEven : position ∈ encoding.positive ↔ _ := mem_map_vars_iff 0 Nat.zero_lt_two
  have isOdd : position ∈ encoding.negative ↔ _ := mem_map_vars_iff 1 Nat.one_lt_two
  rw [List.mem_append, List.mem_append, isEven, isOdd, mem_slacks_iff, built.length_numbers]
  omega

/-! ## Counts -/

/-- The position of the number of a literal. -/
def position? (encoding : Encoding) (literal : Literal) : Option Nat :=
  (if literal.positive then encoding.positive else encoding.negative)[literal.var - 1]?

/-- How many of the two numbers of a variable are selected. The index of variable 1 is zero. -/
def pairCount (encoding : Encoding) (selection : Selection) (index : Nat) : Nat :=
  (encoding.positive[index]?.toList ++ encoding.negative[index]?.toList).countP selection.contains

/-- How often a clause has a literal whose number is selected, and how many of its slack numbers are. -/
def clauseCount (encoding : Encoding) (selection : Selection) (index : Nat) : Nat :=
  (encoding.clauses[index]?.getD []).countP
      (fun literal => (encoding.position? literal).any selection.contains)
    + (encoding.clauseSlacks[index]?.getD []).countP selection.contains

theorem getElem?_vars {index : Nat} (inRange : index < encoding.numVariables) :
    encoding.vars[index]? = some (index + 1) := by
  rw [vars, List.getElem?_range' inRange, Nat.one_mul, Nat.add_comm]

theorem position?_eq {literal : Literal} (isVariable : 1 ≤ literal.var)
    (declared : literal.var ≤ encoding.numVariables) :
    encoding.position? literal = some (literalPosition literal) := by
  have atVar : encoding.vars[literal.var - 1]? = some literal.var := by
    rw [getElem?_vars (by omega), Nat.sub_add_cancel isVariable]
  rw [position?, literalPosition]
  cases literal.positive with
  | true => simp [positive, atVar]
  | false => simp [negative, atVar]

theorem pairCount_eq {index : Nat} (inRange : index < encoding.numVariables) :
    encoding.pairCount selection index = variableCount selection.contains (index + 1) := by
  have atIndex := getElem?_vars inRange
  simp only [pairCount, positive, negative, List.getElem?_map, atIndex, Option.map_some,
    Option.toList_some, List.singleton_append, List.countP_cons, List.countP_nil, variableCount]
  cases selection.contains (truePosition (index + 1)) <;>
    cases selection.contains (falsePosition (index + 1)) <;> rfl

/-- The counts of the clauses, one after the other. -/
theorem Built.getElem?_clauseCounts (built : encoding.Built) {index : Nat}
    (inRange : index < encoding.clauses.length) :
    (clauseCounts selection.contains (2 * encoding.numVariables) encoding.clauses)[index]?
      = some (encoding.clauseCount selection index) := by
  have hasSlack : index < (slacksFrom (2 * encoding.numVariables) encoding.clauses).length := by
    rwa [length_slacksFrom]
  have literals : (encoding.clauses[index]).countP
        (fun literal => (encoding.position? literal).any selection.contains)
      = literalCount selection.contains encoding.clauses[index] := by
    apply List.countP_congr
    intro literal member
    obtain ⟨isVariable, declared⟩ := built.within _ (List.getElem_mem inRange) literal member
    rw [position?_eq isVariable declared, Option.any_some]
  rw [clauseCounts, List.getElem?_zipWith, List.getElem?_map, List.getElem?_map,
    List.getElem?_eq_getElem inRange, List.getElem?_eq_getElem hasSlack, clauseCount,
    List.getElem?_eq_getElem inRange, clauseSlacks, List.getElem?_eq_getElem hasSlack,
    Option.getD_some, literals]
  rfl

/-! ## Columns -/

/-- The digit of the sum of what is selected in a column, the lowest column being zero. -/
def digitAt (encoding : Encoding) (selection : Selection) (column : Nat) : Nat :=
  (Nat.digits encoding.radix (encoding.encoded.sumOf selection).toNat).getD column 0

/-- The digits of the sum are the counts of what is selected: for each variable, the first one highest,
    and below them for each clause. They are the only digits, and none of the counts reaches the
    radix. -/
structure ShowsCounts (encoding : Encoding) (selection : Selection) : Prop where
  natural : 0 ≤ encoding.encoded.sumOf selection
  ofVariable : ∀ index < encoding.numVariables,
    encoding.digitAt selection (encoding.clauses.length + encoding.numVariables - (index + 1))
        = encoding.pairCount selection index
      ∧ encoding.pairCount selection index < encoding.radix
  ofClause : ∀ index < encoding.clauses.length,
    encoding.digitAt selection (encoding.clauses.length - (index + 1)) = encoding.clauseCount selection index
      ∧ encoding.clauseCount selection index < encoding.radix
  others : ∀ column, encoding.clauses.length + encoding.numVariables ≤ column →
    encoding.digitAt selection column = 0

/-- A digit is the count of its column. -/
theorem Built.digitAt_eq (built : encoding.Built) (distinct : selection.Nodup)
    (inRange : ∀ position ∈ selection, position < encoding.encoded.numbers.length) (column : Nat) :
    encoding.digitAt selection column
      = (columnCounts selection.contains encoding.numVariables encoding.clauses).reverse.getD column 0 := by
  rw [digitAt, SubsetSum.sumOf_eq_sum_keptFrom distinct inRange, built.sum_selected]
  refine getD_digits_ofDigits (le_trans (by decide) ten_le_radixFor) ?_ column
  exact fun count member => columnCounts_lt count (List.mem_reverse.1 member)

theorem Built.showsCounts (built : encoding.Built) (distinct : selection.Nodup)
    (inRange : ∀ position ∈ selection, position < encoding.encoded.numbers.length) :
    encoding.ShowsCounts selection := by
  have digits := built.digitAt_eq distinct inRange
  have small := @columnCounts_lt selection.contains encoding.numVariables encoding.clauses
  -- Counted from the top, a column is found among the counts.
  have counted {index count : Nat}
      (atIndex : (columnCounts selection.contains encoding.numVariables encoding.clauses)[index]? = some count) :
      encoding.digitAt selection (encoding.clauses.length + encoding.numVariables - (index + 1)) = count
        ∧ count < encoding.radix := by
    have below := (List.getElem?_eq_some_iff.1 atIndex).1
    rw [length_columnCounts] at below
    have fromTop : (columnCounts selection.contains encoding.numVariables encoding.clauses).length - 1
        - (encoding.clauses.length + encoding.numVariables - (index + 1)) = index := by
      rw [length_columnCounts]
      omega
    refine ⟨?_, small count (List.mem_of_getElem? atIndex)⟩
    rw [digits, List.getD_eq_getElem?_getD, List.getElem?_reverse (by rw [length_columnCounts]; omega),
      fromTop, atIndex, Option.getD_some]
  constructor
  case natural =>
    rw [SubsetSum.sumOf_eq_sum_keptFrom distinct inRange, built.sum_selected]
    exact Int.natCast_nonneg _
  case ofVariable =>
    intro index isVariable
    apply counted
    rw [columnCounts, List.getElem?_append_left (by simpa using isVariable), pairCount_eq isVariable]
    have atIndex := getElem?_vars isVariable
    rw [vars] at atIndex
    rw [List.getElem?_map, atIndex, Option.map_some]
  case ofClause =>
    intro index isClause
    have atColumn : (columnCounts selection.contains encoding.numVariables
        encoding.clauses)[encoding.numVariables + index]? = some (encoding.clauseCount selection index) := by
      rw [columnCounts, List.getElem?_append_right (by simp)]
      simpa using built.getElem?_clauseCounts isClause
    have sameColumn : encoding.clauses.length - (index + 1)
        = encoding.clauses.length + encoding.numVariables - (encoding.numVariables + index + 1) := by
      omega
    rw [sameColumn]
    exact counted atColumn
  case others =>
    intro column above
    rw [digits, List.getD_eq_getElem?_getD, List.getElem?_eq_none, Option.getD_none]
    simpa [Nat.add_comm] using above

/-- Whatever clauses are encoded, their literals may repeat, the positions are shared out among the
    literals and the slack, and every selection of positions has a sum whose digits count what it selects
    in each column. Below 2^31 literals a clause, the radix is below 2^32. -/
theorem ofClauses_never_carries (within : ∀ clause ∈ clauses, clause.Within numVariables)
    (made : ofClauses numVariables clauses = .ok encoding) :
    (encoding.numVariables = numVariables ∧ encoding.clauses = clauses)
      ∧ ((∀ clause ∈ clauses, clause.length < 2 ^ 31) → encoding.radix < 2 ^ 32)
      ∧ (encoding.positive.length = numVariables ∧ encoding.negative.length = numVariables
        ∧ encoding.clauseSlacks.map List.length = clauses.map fun clause => clause.length - 1)
      ∧ (encoding.positive ++ encoding.negative ++ encoding.slacks).Nodup
      ∧ (∀ position, position ∈ encoding.positive ++ encoding.negative ++ encoding.slacks
          ↔ position < encoding.encoded.numbers.length)
      ∧ ∀ selection : Selection, selection.Nodup →
          (∀ position ∈ selection, position < encoding.encoded.numbers.length) →
          encoding.ShowsCounts selection := by
  obtain ⟨built, rfl, rfl⟩ := ofClauses_eq_ok within made
  refine ⟨⟨rfl, rfl⟩, ?_, ⟨?_, ?_, map_length_slacksFrom _ _⟩, nodup_positions encoding,
    fun position => built.mem_positions_iff, fun selection => built.showsCounts⟩
  · exact radixFor_lt
  · simp [positive, vars]
  · simp [negative, vars]

/-- Both numbers of variable 1 and three slack numbers: the first clause has a literal twice, the second one
    both signs of a variable, and the third one nothing. -/
theorem ofClauses_never_carries_repeated_and_empty :
    (∀ clause ∈ ([[⟨1, true⟩, ⟨1, true⟩, ⟨2, true⟩], [⟨1, false⟩, ⟨1, true⟩], []] : List Clause),
        clause.Within 2 ∧ clause.length < 2 ^ 31)
      ∧ ∃ encoding, ofClauses 2 [[⟨1, true⟩, ⟨1, true⟩, ⟨2, true⟩], [⟨1, false⟩, ⟨1, true⟩], []]
          = .ok encoding
        ∧ encoding.encoded.numbers = [10210, 10010, 1100, 1000, 100, 100, 10] ∧ encoding.radix < 2 ^ 32
        ∧ 6 ∈ encoding.positive ++ encoding.negative ++ encoding.slacks
        ∧ [6, 0, 5, 1, 4].Nodup
        ∧ (∀ position ∈ [6, 0, 5, 1, 4], position < encoding.encoded.numbers.length)
        ∧ encoding.encoded.sumOf [6, 0, 5, 1, 4] = 20430
        ∧ encoding.digitAt [6, 0, 5, 1, 4] 4 = 2 ∧ encoding.digitAt [6, 0, 5, 1, 4] 3 = 0
        ∧ encoding.digitAt [6, 0, 5, 1, 4] 2 = 4 ∧ encoding.digitAt [6, 0, 5, 1, 4] 1 = 3
        ∧ encoding.digitAt [6, 0, 5, 1, 4] 0 = 0 := by
  have within : ∀ clause ∈ ([[⟨1, true⟩, ⟨1, true⟩, ⟨2, true⟩], [⟨1, false⟩, ⟨1, true⟩], []] : List Clause),
      clause.Within 2 ∧ clause.length < 2 ^ 31 := by
    simp [Clause.Within]
  obtain ⟨_, narrow, _, _, shared, shows⟩ := @ofClauses_never_carries 2
    [[⟨1, true⟩, ⟨1, true⟩, ⟨2, true⟩], [⟨1, false⟩, ⟨1, true⟩], []]
    ⟨2, [[⟨1, true⟩, ⟨1, true⟩, ⟨2, true⟩], [⟨1, false⟩, ⟨1, true⟩], []],
      ⟨[10210, 10010, 1100, 1000, 100, 100, 10], 11321⟩⟩ (fun clause member => (within clause member).1) rfl
  obtain ⟨_, ofVariable, ofClause, _⟩ := shows [6, 0, 5, 1, 4] (by decide) (by decide)
  exact ⟨within, _, rfl, rfl, narrow fun clause member => (within clause member).2,
    (shared 6).2 (by decide), by decide, by decide, by decide, (ofVariable 0 (by decide)).1,
    (ofVariable 1 (by decide)).1, (ofClause 0 (by decide)).1, (ofClause 1 (by decide)).1,
    (ofClause 2 (by decide)).1⟩

end SatSum.Encoding
