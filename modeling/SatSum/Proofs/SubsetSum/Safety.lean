import SatSum.Proofs.SubsetSum.Strategies
import Mathlib.Algebra.Order.Floor.Div

/-! # No step of the table search fails

Dynamic programming relies on more than it tests: that no element moves a sum out of the range of the
table, that shifting a row by whole words leaves no bit in the padding of its last word, and that a cell
can be subtracted from when a selection is read back. Rows that mark exactly the sums reached make all
of this true. What remains is space for the table, and the search says so if there is too little.

A read outside the table has a value here. So where rows are made, `extendRowInside` only reads rows and
words that there are and is shown to be the same; for single bits, `Has` says that there is one.

* `extendRow_eq_inside`: a row is made without reading outside the table.
* `clear_tableAfter`: no bit is set past the greatest sum, in any row at any time.
* `exists_goesBack`: going back stays in the table and ends at the empty sum.
* `solve_dynamicProgramming_safe`: too little space is the only failure, and otherwise no step fails.
-/

namespace SatSum.SubsetSum

/-! ## Words of a row -/

namespace BitRow

variable {rowWords : Nat}

/-- `wordUp`, every word that it reads being one of the row. -/
def wordUpInside (row : BitRow rowWords) (words bits : Nat) (position : Fin rowWords) : UInt64 :=
  let source := position.val - words
  have inRow : source < rowWords := Nat.lt_of_le_of_lt (Nat.sub_le _ _) position.isLt
  have belowInRow : source - 1 < rowWords := Nat.lt_of_le_of_lt (Nat.sub_le _ _) inRow
  if position.val < words then 0
  else
    let carry := if 0 < bits ∧ 0 < source then row[source - 1] >>> UInt64.ofNat (64 - bits) else 0
    row[source] <<< UInt64.ofNat bits ||| carry

/-- `wordDown`, every word that it reads being one of the row. -/
def wordDownInside (row : BitRow rowWords) (words bits : Nat) (position : Fin rowWords) : UInt64 :=
  let source := position.val + words
  if inRow : source < rowWords then
    let carry :=
      if carries : 0 < bits ∧ source + 1 < rowWords then
        row[source + 1] <<< UInt64.ofNat (64 - bits)
      else 0
    row[source] >>> UInt64.ofNat bits ||| carry
  else 0

/-- `extend`, every word that it reads being one of the row. -/
def extendInside (row : BitRow rowWords) (distance : Nat) (negative : Bool) : BitRow rowWords :=
  Vector.ofFn fun position =>
    let moved :=
      if negative then wordDownInside row (distance / 64) (distance % 64) position
      else wordUpInside row (distance / 64) (distance % 64) position
    Vector.get row position ||| moved

theorem wordUp_eq_inside (row : BitRow rowWords) (words bits : Nat) (position : Fin rowWords) :
    row.wordUp words bits position = row.wordUpInside words bits position := by
  have inRow : position.val - words < rowWords := Nat.lt_of_le_of_lt (Nat.sub_le _ _) position.isLt
  have belowInRow : position.val - words - 1 < rowWords := Nat.lt_of_le_of_lt (Nat.sub_le _ _) inRow
  simp only [wordUp, wordUpInside, Vector.getElem?_eq_getElem inRow,
    Vector.getElem?_eq_getElem belowInRow, Option.getD_some]

theorem wordDown_eq_inside (row : BitRow rowWords) (words bits : Nat) (position : Fin rowWords) :
    row.wordDown words bits position = row.wordDownInside words bits position := by
  simp only [wordDown, wordDownInside]
  by_cases inRow : position.val + words < rowWords
  · by_cases aboveInRow : position.val + words + 1 < rowWords
    · by_cases shifted : 0 < bits
      · simp [inRow, aboveInRow, shifted]
      · simp [inRow, shifted]
    · simp [inRow, aboveInRow]
  · have aboveOutside : ¬ position.val + words + 1 < rowWords := by omega
    simp [inRow, aboveOutside]

theorem extend_eq_inside (row : BitRow rowWords) (distance : Nat) (negative : Bool) :
    row.extend distance negative = row.extendInside distance negative := by
  simp only [extend, extendInside, wordUp_eq_inside, wordDown_eq_inside]
  rfl

end BitRow

namespace BitTable

/-- `extendRow` where the table has both rows. -/
def extendRowInside (table : BitTable) (row : Nat) (inTable : row + 1 < table.rows.size)
    (distance : Nat) (negative : Bool) : BitTable :=
  have sourceInTable : row < table.rows.size := Nat.lt_of_succ_lt inTable
  { table with
    rows := table.rows.set (row + 1) (BitRow.extendInside table.rows[row] distance negative) inTable }

theorem extendRow_eq_inside (table : BitTable) {row : Nat} (inTable : row + 1 < table.rows.size)
    (distance : Nat) (negative : Bool) :
    table.extendRow row distance negative = table.extendRowInside row inTable distance negative := by
  have source : table.rows[row]? = some table.rows[row] :=
    Array.getElem?_eq_getElem (Nat.lt_of_succ_lt inTable)
  simp only [extendRow, extendRowInside, source, BitRow.extend_eq_inside]
  congr 1
  apply Array.ext
  · rw [Array.size_modify, Array.size_set]
  · intro position _ _
    rw [Array.getElem_modify, Array.getElem_set]

/-- The table has the row, and the row has the bit. -/
structure Has (table : BitTable) (row bit : Nat) : Prop where
  row_lt : row < table.rows.size
  bit_lt : bit < 64 * table.rowWords

end BitTable

variable {low number : Int} {undecided : List Int} {table : BitTable} {selection result : Selection}
  {origin last cell : Nat}

/-! ## Going back -/

/-- Going back from a cell ends at `origin`, with the positions of `result` taken. Every cell looked at
    is in the table and at most `last`, and no distance is subtracted from a smaller cell. The elements
    are given last first. -/
inductive GoesBack (table : BitTable) (origin last : Nat) :
    List Shift → Nat → Selection → Selection → Prop
  | arrives (selection : Selection) (inRange : origin ≤ last) :
      GoesBack table origin last [] origin selection selection
  | leaves {shift : Shift} {rest : List Shift} {cell : Nat} {selection result : Selection}
      (has : table.Has rest.length cell) (inRange : cell ≤ last)
      (marked : table.get rest.length cell = true)
      (later : GoesBack table origin last rest cell selection result) :
      GoesBack table origin last (shift :: rest) cell selection result
  | takesPositive {shift : Shift} {rest : List Shift} {cell : Nat} {selection result : Selection}
      (has : table.Has rest.length cell) (inRange : cell ≤ last)
      (unmarked : table.get rest.length cell = false) (positive : shift.negative = false)
      (enough : shift.distance ≤ cell)
      (later : GoesBack table origin last rest (cell - shift.distance) (rest.length :: selection)
        result) :
      GoesBack table origin last (shift :: rest) cell selection result
  | takesNegative {shift : Shift} {rest : List Shift} {cell : Nat} {selection result : Selection}
      (has : table.Has rest.length cell) (inRange : cell ≤ last)
      (unmarked : table.get rest.length cell = false) (negative : shift.negative = true)
      (later : GoesBack table origin last rest (cell + shift.distance) (rest.length :: selection)
        result) :
      GoesBack table origin last (shift :: rest) cell selection result

theorem GoesBack.traceBack_eq {shifts : List Shift}
    (goesBack : GoesBack table origin last shifts cell selection result) :
    traceBack table shifts cell selection = result := by
  induction goesBack with
  | arrives => rfl
  | leaves _ _ marked _ inductionHypothesis =>
    rw [traceBack, if_pos marked]
    exact inductionHypothesis
  | takesPositive _ _ unmarked positive _ _ inductionHypothesis =>
    rw [traceBack, unmarked, positive]
    exact inductionHypothesis
  | takesNegative _ _ unmarked negative _ inductionHypothesis =>
    rw [traceBack, unmarked, negative]
    exact inductionHypothesis

/-- From a sum that is reached, each row passed still leaves a sum that the elements before it reach. -/
theorem exists_goesBack (marks : Marks low table undecided)
    (inRange : InRange low (low + last) undecided) (rows : undecided.length ≤ table.rows.size)
    (wide : last < 64 * table.rowWords) (isOrigin : low + origin = 0)
    (reaches : Reaches undecided (low + cell)) (selection : Selection) :
    ∃ result, GoesBack table origin last (undecided.map Shift.ofNumber) cell selection result := by
  induction undecided generalizing cell selection with
  | nil =>
    have nothingMissing : low + cell = 0 := reaches
    obtain rfl : cell = origin := by omega
    have := (reaches.inRange inRange).2
    exact ⟨selection, .arrives selection (by omega)⟩
  | cons number rest inductionHypothesis =>
    have restMarks : Marks low table rest := marks.tail
    have here := marks rest (List.suffix_cons number rest) cell
    have cell_le : cell ≤ last := by
      have := (reaches.inRange inRange).2
      omega
    rw [List.length_cons] at rows
    have has : table.Has (rest.map Shift.ofNumber).length cell := by
      rw [List.length_map]
      exact ⟨by omega, by omega⟩
    rw [← List.length_map (f := Shift.ofNumber)] at here
    rw [List.map_cons]
    by_cases without : Reaches rest (low + cell)
    · obtain ⟨result, later⟩ :=
        inductionHypothesis restMarks inRange.tail (by omega) without selection
      exact ⟨result, .leaves has cell_le (here.2 without) later⟩
    · have withElement : Reaches rest (low + cell - number) := reaches.resolve_left without
      have notBelow := (withElement.inRange inRange.tail).1
      have unmarked := Bool.eq_false_iff.2 (mt here.1 without)
      rw [low_add_before notBelow] at withElement
      by_cases negative : number < 0
      · rw [if_pos (decide_eq_true negative)] at withElement
        obtain ⟨result, later⟩ := inductionHypothesis restMarks inRange.tail (by omega) withElement
          ((rest.map Shift.ofNumber).length :: selection)
        exact ⟨result, .takesNegative has cell_le unmarked (decide_eq_true negative) later⟩
      · rw [if_neg (by simpa using negative)] at withElement
        obtain ⟨result, later⟩ := inductionHypothesis restMarks inRange.tail (by omega) withElement
          ((rest.map Shift.ofNumber).length :: selection)
        have enough : number.natAbs ≤ cell := by omega
        exact ⟨result, .takesPositive has cell_le unmarked (decide_eq_false negative) enough later⟩

namespace Instance

variable {problem : Instance}

/-! ## Bits past the greatest sum -/

/-- Whatever rows are made so far, no bit is set past the cell of the greatest sum. -/
theorem clear_tableAfter (problem : Instance) (count row : Nat) {bit : Nat}
    (past : problem.width ≤ bit) : (problem.tableAfter count).get row bit = false := by
  have width := problem.width_eq
  by_cases made : row ≤ (problem.numbers.take count).length
  · -- A row that is made marks sums of the elements before it.
    obtain ⟨first, rest, together, rows⟩ :
        ∃ first rest, (problem.numbers.take count).reverse = first ++ rest ∧ rest.length = row :=
      ⟨_, _, (List.take_append_drop _ _).symm, by
        rw [List.length_drop, List.length_reverse, Nat.sub_sub_self made]⟩
    have inRange := inRange_take_reverse problem.numbers count
    rw [together] at inRange
    rw [Bool.eq_false_iff, ← rows]
    intro marked
    have reaches := (problem.marks_tableAfter count rest ⟨first, together.symm⟩ bit).1 marked
    have := (reaches.inRange (inRange.of_append first)).2
    omega
  · -- The other rows are still empty.
    rw [tableAfter, get_fillRows_of_lt (by rw [List.length_map]; omega), firstTable,
      BitTable.get_set_of_ne (by omega), BitTable.get_zeros]

theorem origin_lt (problem : Instance) : problem.origin < problem.width := by
  have width := problem.width_eq
  have origin := problem.origin_eq
  have emptySum := (reaches_zero problem.numbers).bounds
  omega

theorem TargetInRange.targetCell_lt (inRange : problem.TargetInRange) :
    problem.targetCell < problem.width := by
  have width := problem.width_eq
  have targetCell := inRange.targetCell_eq
  obtain ⟨_, le_high⟩ := inRange
  omega

/-- From a marked target, going back through the full table arrives at the empty sum. -/
theorem goesBack_targetCell
    (marked : (problem.tableAfter problem.numbers.length).get problem.numbers.length problem.targetCell
      = true) :
    GoesBack (problem.tableAfter problem.numbers.length) problem.origin
      (greatestSum problem.numbers - leastSum problem.numbers).toNat
      (problem.numbers.map Shift.ofNumber).reverse problem.targetCell []
      (traceBack (problem.tableAfter problem.numbers.length)
        (problem.numbers.map Shift.ofNumber).reverse problem.targetCell []) := by
  have marks := problem.marks_tableAfter problem.numbers.length
  have sums := inRange_take_reverse problem.numbers problem.numbers.length
  rw [List.take_length] at marks sums
  have emptySum := (reaches_zero problem.numbers).bounds
  have wide := problem.width_le_tableAfter problem.numbers.length
  have range : leastSum problem.numbers
      + ((greatestSum problem.numbers - leastSum problem.numbers).toNat : Int)
      = greatestSum problem.numbers := by omega
  have lastRow := marks _ (List.suffix_refl _) problem.targetCell
  have rows : problem.numbers.reverse.length
      ≤ (problem.tableAfter problem.numbers.length).rows.size := by
    rw [size_tableAfter, List.length_reverse]
    exact Nat.le_succ _
  rw [List.length_reverse] at lastRow
  rw [← range] at sums
  rw [← List.map_reverse]
  obtain ⟨result, goesBack⟩ :=
    exists_goesBack marks sums rows wide problem.origin_eq (lastRow.1 marked) []
  rwa [goesBack.traceBack_eq]

/-! ## The search -/

/-- There are more sums than a word counts, or the table has more words than it may. -/
def TooLarge (problem : Instance) : Prop :=
  2 ^ 64 - 1 < problem.width ∨ 2 ^ 29 < (problem.numbers.length + 1) * (problem.width ⌈/⌉ 64)

instance (problem : Instance) : Decidable problem.TargetInRange :=
  inferInstanceAs (Decidable (_ ∧ _))

instance (problem : Instance) : Decidable problem.TooLarge :=
  inferInstanceAs (Decidable (_ ∨ _))

theorem not_tooLarge_iff (problem : Instance) :
    ¬ problem.TooLarge ↔ problem.shortage? = none := by
  have words : problem.width ⌈/⌉ 64 = BitTable.wordsFor problem.width :=
    Nat.ceilDiv_eq_add_pred_div _ _
  rw [TooLarge, words, Nat.mul_comm, shortage?_eq_none_iff, not_or, not_lt, not_lt]
  rfl

theorem exists_shortage_iff (problem : Instance) :
    (∃ cause, problem.shortage? = some cause) ↔ problem.TooLarge := by
  rw [← Option.isSome_iff_exists, ← Option.ne_none_iff_isSome, ← not_iff_comm.1 problem.not_tooLarge_iff]

/-- What the search relies on without testing it, and how it comes to its answer: numbers that are
    words, rows and bits that the table has, no bit past the greatest sum in any of the tables that
    filling goes through, and cells from that of the least sum to that of the greatest. -/
structure RunsSafely (problem : Instance) (answer : Answer) : Prop where
  elements_are_words : ∀ number ∈ problem.numbers,
    shiftOf problem.width number = .ok (Shift.ofNumber number)
  origin_is_word : wordOf problem.width (0 - leastSum problem.numbers) = .ok problem.origin
  target_is_word : wordOf problem.width (problem.target - leastSum problem.numbers)
    = .ok problem.targetCell
  has_origin : (BitTable.zeros (problem.numbers.length + 1) problem.width).Has 0 problem.origin
  fills : ∀ count ≤ problem.numbers.length, ∀ next,
    (fillFrom problem.width ((problem.numbers.take count).map Shift.ofNumber) 0 problem.firstTable 0
        next).complete
      = (next (problem.tableAfter count) (count * problem.width)).complete
  makes_rows : ∀ row number, problem.numbers[row]? = some number →
    ∃ inTable : row + 1 < (problem.tableAfter row).rows.size,
      problem.tableAfter (row + 1)
        = (problem.tableAfter row).extendRowInside row inTable number.natAbs (number < 0)
  clear : ∀ count row bit, problem.width ≤ bit → (problem.tableAfter count).get row bit = false
  has_target : (problem.tableAfter problem.numbers.length).Has problem.numbers.length
    problem.targetCell
  answered : match answer with
    | .notFound => (problem.tableAfter problem.numbers.length).get problem.numbers.length
        problem.targetCell = false
    | .found selection => GoesBack (problem.tableAfter problem.numbers.length) problem.origin
        (greatestSum problem.numbers - leastSum problem.numbers).toNat
        (problem.numbers.map Shift.ofNumber).reverse problem.targetCell [] selection

theorem TargetInRange.runsSafely (inRange : problem.TargetInRange) (enough : problem.shortage? = none) :
    problem.RunsSafely problem.tableAnswer where
  elements_are_words := by
    intro number member
    exact shiftOf_eq_ok (natAbs_le_maxWord (problem.shortage?_eq_none_iff.1 enough).1 number member)
  origin_is_word := wordOf_origin (problem.shortage?_eq_none_iff.1 enough).1
  target_is_word := inRange.wordOf_targetCell (problem.shortage?_eq_none_iff.1 enough).1
  has_origin := by
    refine ⟨by rw [BitTable.size_zeros]; exact Nat.succ_pos _, ?_⟩
    exact problem.origin_lt.trans_le (BitTable.le_rowWords_zeros _ _)
  fills := fun count notMore next =>
    complete_fillFrom_take (problem.shortage?_eq_none_iff.1 enough).2 notMore next
  makes_rows := by
    intro row number found
    obtain ⟨notLast, _⟩ := List.getElem?_eq_some_iff.1 found
    have inTable : row + 1 < (problem.tableAfter row).rows.size := by
      rw [size_tableAfter]
      exact Nat.succ_lt_succ notLast
    exact ⟨inTable, (tableAfter_succ found).trans (BitTable.extendRow_eq_inside _ inTable _ _)⟩
  clear := fun count row bit past => problem.clear_tableAfter count row past
  has_target := by
    refine ⟨by rw [size_tableAfter]; exact Nat.lt_succ_self _, ?_⟩
    exact inRange.targetCell_lt.trans_le (problem.width_le_tableAfter _)
  answered := by
    rw [tableAnswer]
    by_cases marked : (problem.tableAfter problem.numbers.length).get problem.numbers.length
        problem.targetCell = true
    · rw [if_pos marked]
      exact goesBack_targetCell marked
    · rw [if_neg marked]
      exact Bool.eq_false_iff.2 marked

end Instance

/-- On an instance that validation accepts, dynamic programming is short of space exactly if the target is
    in range and the table too large. Otherwise it answers, and if it needs a table for that, no step of
    it fails. -/
theorem solve_dynamicProgramming_safe (problem : Instance) (accepted : problem.validate = .ok ()) :
    ((∃ cause, problem.solve .dynamicProgramming = .error (.exhausted (.space cause)))
        ↔ problem.TargetInRange ∧ problem.TooLarge)
      ∧ (¬ (problem.TargetInRange ∧ problem.TooLarge) →
        ∃ outcome, problem.solve .dynamicProgramming = .ok outcome
          ∧ (problem.TargetInRange → problem.RunsSafely outcome.answer)) := by
  rw [solve_eq_search _ accepted, search]
  by_cases inRange : problem.TargetInRange
  · rw [complete_dynamicProgramming_of_inRange inRange]
    cases short : problem.shortage? with
    | some cause =>
      have tooLarge : problem.TooLarge := by
        by_contra fits
        rw [problem.not_tooLarge_iff.1 fits] at short
        cases short
      exact ⟨iff_of_true ⟨cause, rfl⟩ ⟨inRange, tooLarge⟩, fun fits => absurd ⟨inRange, tooLarge⟩ fits⟩
    | none =>
      have fits := problem.not_tooLarge_iff.2 short
      refine ⟨iff_of_false ?_ fun tooLarge => fits tooLarge.2, fun _ => ⟨_, rfl, fun _ => ?_⟩⟩
      · rintro ⟨cause, failed⟩
        cases failed
      · exact inRange.runsSafely short
  · rw [complete_dynamicProgramming_of_not_inRange inRange]
    refine ⟨iff_of_false ?_ fun tooLarge => inRange tooLarge.1, fun _ => ⟨_, rfl, fun inside => ?_⟩⟩
    · rintro ⟨cause, failed⟩
      cases failed
    · exact absurd inside inRange

/-- A table for elements of both signs, one with a row that is too wide to count, and one with too many
    words. -/
theorem solve_dynamicProgramming_safe_mixed_and_large :
    (∃ outcome, Instance.solve .dynamicProgramming ⟨[3, -2, 3, 0], 1⟩ = .ok outcome
        ∧ Instance.RunsSafely ⟨[3, -2, 3, 0], 1⟩ outcome.answer)
      ∧ (∃ cause, Instance.solve .dynamicProgramming ⟨[2 ^ 64], 5⟩ = .error (.exhausted (.space cause)))
      ∧ (∃ cause, Instance.solve .dynamicProgramming ⟨[-2 ^ 40], -7⟩
        = .error (.exhausted (.space cause))) := by
  refine ⟨?_, ?_, ?_⟩
  · obtain ⟨outcome, solved, safe⟩ :=
      (solve_dynamicProgramming_safe ⟨[3, -2, 3, 0], 1⟩ rfl).2 (by decide)
    exact ⟨outcome, solved, safe (by decide)⟩
  · exact (solve_dynamicProgramming_safe ⟨[2 ^ 64], 5⟩ rfl).1.2 (by decide)
  · exact (solve_dynamicProgramming_safe ⟨[-2 ^ 40], -7⟩ rfl).1.2 (by decide)

end SatSum.SubsetSum
