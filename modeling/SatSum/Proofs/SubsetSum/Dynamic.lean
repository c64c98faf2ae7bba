import SatSum.Proofs.Activity
import SatSum.Proofs.SubsetSum.BitTable
import SatSum.Proofs.SubsetSum.LeastSelection
import SatSum.SubsetSum.Dynamic

/-! # The table of reachable sums

Row `i` has exactly the bits of the sums that the first `i` elements reach: no sum leaves the range of
the table, so nothing is lost where the row is shifted, and nothing is gained past its end. Going back
through the rows then takes an element only where the sum is not reached without it, which is what the
least selection does.

* `Marks.extendRow`, `marks_fillRows`: every row is exact.
* `complete_fillFrom`: filling goes on with the table that `fillRows` makes.
* `leastSelection?_eq_traceBack`: going back finds the least selection.
* `ends_dynamicProgramming`: what the search answers and counts, if the table is not too large.
-/

namespace SatSum

def Fault.IsShortage (fault : Fault) : Prop :=
  ∃ cause, fault = .exhausted (.space cause)

namespace SubsetSum

variable {low high number sum : Int} {rest undecided numbers : List Int} {table : BitTable}
  {selection : Selection} {span cell : Nat}

/-! ## Reachable sums -/

/-- Some selection among the elements has the sum. -/
def Reaches : List Int → Int → Prop
  | [], sum => sum = 0
  | number :: rest, sum => Reaches rest sum ∨ Reaches rest (sum - number)

theorem leastSelection?_eq_none_iff_not_reaches :
    leastSelection? sum undecided selection = none ↔ ¬ Reaches undecided sum := by
  induction undecided generalizing sum selection with
  | nil => simp [leastSelection?, Reaches]
  | cons number rest inductionHypothesis =>
    rw [leastSelection?, Option.or_eq_none_iff, inductionHypothesis, inductionHypothesis, Reaches, not_or]

theorem leastSum_cons (number : Int) (rest : List Int) :
    leastSum (number :: rest) = min number 0 + leastSum rest := by
  rw [leastSum, total_eq_sum, List.map_cons, List.sum_cons]
  rfl

theorem greatestSum_cons (number : Int) (rest : List Int) :
    greatestSum (number :: rest) = max number 0 + greatestSum rest := by
  rw [greatestSum, total_eq_sum, List.map_cons, List.sum_cons]
  rfl

theorem Reaches.bounds (reaches : Reaches undecided sum) :
    leastSum undecided ≤ sum ∧ sum ≤ greatestSum undecided := by
  induction undecided generalizing sum with
  | nil =>
    have noSum : sum = 0 := reaches
    exact ⟨noSum ▸ Int.le_refl 0, noSum ▸ Int.le_refl 0⟩
  | cons number rest inductionHypothesis =>
    rw [leastSum_cons, greatestSum_cons]
    rcases reaches with without | withElement
    · have := inductionHypothesis without
      omega
    · have := inductionHypothesis withElement
      omega

theorem reaches_zero (undecided : List Int) : Reaches undecided 0 := by
  induction undecided with
  | nil => rfl
  | cons number rest inductionHypothesis => exact Or.inl inductionHypothesis

theorem leastSum_reverse (numbers : List Int) : leastSum numbers.reverse = leastSum numbers := by
  rw [leastSum, leastSum, total_eq_sum, total_eq_sum, List.map_reverse, List.sum_reverse]

theorem greatestSum_reverse (numbers : List Int) :
    greatestSum numbers.reverse = greatestSum numbers := by
  rw [greatestSum, greatestSum, total_eq_sum, total_eq_sum, List.map_reverse, List.sum_reverse]

/-- The sums of the elements lie in the range of the table. -/
structure InRange (low high : Int) (undecided : List Int) : Prop where
  low_le : low ≤ leastSum undecided
  le_high : greatestSum undecided ≤ high

theorem InRange.tail (inRange : InRange low high (number :: rest)) : InRange low high rest := by
  obtain ⟨low_le, le_high⟩ := inRange
  rw [leastSum_cons] at low_le
  rw [greatestSum_cons] at le_high
  exact ⟨by omega, by omega⟩

theorem InRange.of_append (first : List Int) (inRange : InRange low high (first ++ rest)) :
    InRange low high rest := by
  induction first with
  | nil => exact inRange
  | cons number first inductionHypothesis => exact inductionHypothesis inRange.tail

/-- The sums of the first elements, taken last first, lie in the range of all. -/
theorem inRange_take_reverse (numbers : List Int) (count : Nat) :
    InRange (leastSum numbers) (greatestSum numbers) (numbers.take count).reverse := by
  apply InRange.of_append (numbers.drop count).reverse
  rw [← List.reverse_append, List.take_append_drop]
  exact ⟨(leastSum_reverse numbers).ge, (greatestSum_reverse numbers).le⟩

theorem Reaches.inRange (reaches : Reaches undecided sum) (inRange : InRange low high undecided) :
    low ≤ sum ∧ sum ≤ high :=
  ⟨inRange.low_le.trans reaches.bounds.1, reaches.bounds.2.trans inRange.le_high⟩

/-! ## Exact rows -/

def Shift.ofNumber (number : Int) : Shift :=
  ⟨number.natAbs, number < 0⟩

/-- The rows for the elements (last first) and for all but the last ones mark the sums reached. -/
def Marks (low : Int) (table : BitTable) (undecided : List Int) : Prop :=
  ∀ rest, rest <:+ undecided → ∀ bit : Nat,
    table.get rest.length bit = true ↔ Reaches rest (low + bit)

theorem Marks.tail (marks : Marks low table (number :: rest)) : Marks low table rest :=
  fun other suffix => marks other (suffix.trans (List.suffix_cons number rest))

/-- Where the moved bit comes from, the sum without the element is reached. -/
theorem moved_iff (marks : Marks low table rest) (low_le : low ≤ leastSum rest) (bit : Nat) :
    (if decide (number < 0) then table.get rest.length (bit + number.natAbs)
      else decide (number.natAbs ≤ bit) && table.get rest.length (bit - number.natAbs)) = true
      ↔ Reaches rest (low + bit - number) := by
  have here := marks rest (List.suffix_refl rest)
  by_cases negative : number < 0
  · have place : low + bit - number = low + (bit + number.natAbs : Nat) := by omega
    rw [if_pos (decide_eq_true negative), here, place]
  · rw [if_neg (by simpa using negative), Bool.and_eq_true, decide_eq_true_eq, here]
    by_cases enough : number.natAbs ≤ bit
    · have place : low + bit - number = low + (bit - number.natAbs : Nat) := by omega
      rw [place]
      exact and_iff_right enough
    -- Nothing is moved from below the row, and no sum is as low as that.
    · constructor
      · exact fun moved => absurd moved.1 enough
      · intro reaches
        have := reaches.bounds.1
        omega

theorem Marks.extendRow (marks : Marks low table rest) (inRange : InRange low high (number :: rest))
    (next : rest.length + 1 < table.rows.size) (wide : high - low < 64 * table.rowWords) :
    Marks low (table.extendRow rest.length number.natAbs (number < 0)) (number :: rest) := by
  intro other suffix bit
  rcases List.suffix_cons_iff.1 suffix with rfl | earlier
  · rw [List.length_cons]
    by_cases within : bit < 64 * table.rowWords
    · rw [BitTable.get_extendRow next _ _ within, Bool.or_eq_true, moved_iff marks inRange.tail.low_le,
        marks rest (List.suffix_refl rest), Reaches]
    -- Past the end there are no bits, nor sums as high as that.
    · have outside : 64 * (table.extendRow rest.length number.natAbs (number < 0)).rowWords ≤ bit := by
        rw [BitTable.rowWords_extendRow]
        exact Nat.not_lt.1 within
      rw [BitTable.get_eq_false_of_le outside]
      refine iff_of_false Bool.false_ne_true fun reaches => ?_
      have := (reaches.inRange inRange).2
      omega
  · have shorter := earlier.length_le
    rw [BitTable.get_extendRow_of_ne (by omega)]
    exact marks other earlier bit

/-- The table with the rows after `row` made for the remaining elements. -/
def fillRows : List Shift → Nat → BitTable → BitTable
  | [], _, table => table
  | shift :: rest, row, table =>
    fillRows rest (row + 1) (table.extendRow row shift.distance shift.negative)

@[simp] theorem size_fillRows (shifts : List Shift) (row : Nat) (table : BitTable) :
    (fillRows shifts row table).rows.size = table.rows.size := by
  induction shifts generalizing row table with
  | nil => rfl
  | cons shift shifts inductionHypothesis =>
    exact (inductionHypothesis _ _).trans (BitTable.size_extendRow _ _)

@[simp] theorem rowWords_fillRows (shifts : List Shift) (row : Nat) (table : BitTable) :
    (fillRows shifts row table).rowWords = table.rowWords := by
  induction shifts generalizing row table with
  | nil => rfl
  | cons shift shifts inductionHypothesis =>
    exact (inductionHypothesis _ _).trans (BitTable.rowWords_extendRow _ _)

theorem fillRows_concat (shifts : List Shift) (shift : Shift) (row : Nat) (table : BitTable) :
    fillRows (shifts ++ [shift]) row table
      = (fillRows shifts row table).extendRow (row + shifts.length) shift.distance shift.negative := by
  induction shifts generalizing row table with
  | nil => rfl
  | cons other shifts inductionHypothesis =>
    rw [List.cons_append, fillRows, inductionHypothesis, List.length_cons, Nat.add_right_comm]
    rfl

/-- Rows past those made are left alone. -/
theorem get_fillRows_of_lt {shifts : List Shift} {row other : Nat} (past : row + shifts.length < other)
    (table : BitTable) (bit : Nat) :
    (fillRows shifts row table).get other bit = table.get other bit := by
  induction shifts generalizing row table with
  | nil => rfl
  | cons shift shifts inductionHypothesis =>
    rw [List.length_cons] at past
    rw [fillRows, inductionHypothesis (by omega), BitTable.get_extendRow_of_ne (by omega)]

/-- If the rows so far are exact, so are those made. -/
theorem marks_fillRows {remaining : List Int} (marks : Marks low table undecided)
    (inRange : InRange low high (remaining.reverse ++ undecided))
    (rows : remaining.length + undecided.length < table.rows.size)
    (wide : high - low < 64 * table.rowWords) :
    Marks low (fillRows (remaining.map Shift.ofNumber) undecided.length table)
      (remaining.reverse ++ undecided) := by
  induction remaining generalizing undecided table with
  | nil => exact marks
  | cons number remaining inductionHypothesis =>
    rw [List.length_cons] at rows
    rw [List.reverse_cons, List.append_assoc, List.singleton_append] at inRange ⊢
    have extended : Marks low (table.extendRow undecided.length number.natAbs (number < 0))
        (number :: undecided) :=
      marks.extendRow (inRange.of_append _) (by omega) wide
    refine inductionHypothesis extended inRange ?_ ?_
    · rw [BitTable.size_extendRow, List.length_cons]
      omega
    · rw [BitTable.rowWords_extendRow]
      exact wide

/-- Filling goes on with the table made, having counted its cells. -/
theorem complete_fillFrom {width nodes : Nat} (shifts : List Shift) (row : Nat) (table : BitTable)
    (next : BitTable → Nat → Activity (Outcome Answer))
    (counts : nodes + shifts.length * width ≤ maxWord) :
    (fillFrom width shifts row table nodes next).complete
      = (next (fillRows shifts row table) (nodes + shifts.length * width)).complete := by
  induction shifts generalizing row table nodes with
  | nil =>
    rw [List.length_nil, Nat.zero_mul]
    rfl
  | cons shift shifts inductionHypothesis =>
    rw [List.length_cons, Nat.succ_mul, Nat.add_comm (shifts.length * width), ← Nat.add_assoc]
      at counts ⊢
    have counted : addSaturating nodes width = nodes + width := Nat.min_eq_left (by omega)
    rw [fillFrom, Activity.complete_poll, counted]
    exact inductionHypothesis _ _ counts

/-! ## Going back -/

/-- Where an element moved a sum from. A sum left for the others is not below theirs, so the subtraction
    of cells does not stop at zero. -/
theorem low_add_before (notBelow : low ≤ low + cell - number) :
    low + cell - number = low
      + ((if decide (number < 0) then cell + number.natAbs else cell - number.natAbs : Nat) : Int) := by
  by_cases negative : number < 0
  · rw [if_pos (decide_eq_true negative)]
    omega
  · rw [if_neg (by simpa using negative)]
    omega

/-- Where a sum is reached, going back through exact rows gives the least selection for it. -/
theorem leastSelection?_eq_traceBack (marks : Marks low table undecided)
    (low_le : low ≤ leastSum undecided) (reaches : Reaches undecided (low + cell)) :
    leastSelection? (low + cell) undecided selection
      = some (traceBack table (undecided.map Shift.ofNumber) cell selection) := by
  induction undecided generalizing cell selection with
  | nil =>
    have nothingMissing : low + cell = 0 := reaches
    rw [leastSelection?, if_pos nothingMissing]
    rfl
  | cons number rest inductionHypothesis =>
    have restMarks : Marks low table rest := marks.tail
    have restLow : low ≤ leastSum rest := by
      rw [leastSum_cons] at low_le
      omega
    have here := marks rest (List.suffix_cons number rest) cell
    rw [leastSelection?, List.map_cons, traceBack, List.length_map]
    by_cases without : Reaches rest (low + cell)
    · rw [if_pos (here.2 without), inductionHypothesis restMarks restLow without, Option.some_or]
    · have withElement : Reaches rest (low + cell - number) := reaches.resolve_left without
      have before := low_add_before (restLow.trans withElement.bounds.1)
      rw [if_neg (mt here.1 without), leastSelection?_eq_none_iff_not_reaches.2 without,
        Option.none_or, before]
      exact inductionHypothesis restMarks restLow (before ▸ withElement)

/-! ## Words -/

theorem wordOf_eq_ok (nonneg : 0 ≤ number) (small : number ≤ maxWord) :
    wordOf span number = .ok number.toNat := by
  have isWord : ¬ (number < 0 ∨ Int.ofNat maxWord < number) := by
    rw [Int.ofNat_eq_natCast]
    omega
  rw [wordOf, if_neg isWord]

theorem wordOf_eq_error (tooLarge : (maxWord : Int) < number) :
    wordOf span number = .error (.exhausted (.space (.sumRange span))) := by
  rw [wordOf, Int.ofNat_eq_natCast, if_pos (Or.inr tooLarge)]

theorem shiftOf_eq_ok (small : number.natAbs ≤ maxWord) :
    shiftOf span number = .ok (Shift.ofNumber number) := by
  rw [shiftOf, wordOf_eq_ok (Int.natCast_nonneg _) (Int.ofNat_le.2 small)]
  rfl

theorem mapM_shiftOf (small : ∀ number ∈ numbers, number.natAbs ≤ maxWord) :
    numbers.mapM (shiftOf span) = .ok (numbers.map Shift.ofNumber) := by
  induction numbers with
  | nil => rfl
  | cons number numbers inductionHypothesis =>
    obtain ⟨smallFirst, smallRest⟩ := List.forall_mem_cons.1 small
    rw [List.mapM_cons, shiftOf_eq_ok smallFirst, inductionHypothesis smallRest]
    rfl

/-- No element moves a sum further than from the least to the greatest. -/
theorem natAbs_le_of_mem (member : number ∈ numbers) :
    (number.natAbs : Int) ≤ greatestSum numbers - leastSum numbers := by
  induction numbers with
  | nil => cases member
  | cons head tail inductionHypothesis =>
    have emptySum := (reaches_zero tail).bounds
    rw [leastSum_cons, greatestSum_cons]
    rcases List.mem_cons.1 member with rfl | later
    · omega
    · have := inductionHypothesis later
      omega

/-! ## The search -/

namespace Instance

variable {problem : Instance}

/-- The target lies from the least sum to the greatest. -/
def TargetInRange (problem : Instance) : Prop :=
  leastSum problem.numbers ≤ problem.target ∧ problem.target ≤ greatestSum problem.numbers

/-- How many sums there are from the least to the greatest. -/
def width (problem : Instance) : Nat :=
  (greatestSum problem.numbers - leastSum problem.numbers).toNat + 1

/-- The cell of the empty sum. -/
def origin (problem : Instance) : Nat :=
  (0 - leastSum problem.numbers).toNat

/-- The cell of the target. -/
def targetCell (problem : Instance) : Nat :=
  (problem.target - leastSum problem.numbers).toNat

/-- A new table with the empty sum marked in its first row. -/
def firstTable (problem : Instance) : BitTable :=
  (BitTable.zeros (problem.numbers.length + 1) problem.width).set 0 problem.origin

/-- The table once the rows of the first elements are made. -/
def tableAfter (problem : Instance) (count : Nat) : BitTable :=
  fillRows ((problem.numbers.take count).map Shift.ofNumber) 0 problem.firstTable

/-- What the search reads from the full table. -/
def tableAnswer (problem : Instance) : Answer :=
  let full := problem.tableAfter problem.numbers.length
  if full.get problem.numbers.length problem.targetCell then
    .found (traceBack full (problem.numbers.map Shift.ofNumber).reverse problem.targetCell [])
  else .notFound

/-- Why there is too little space for the table, if there is. -/
def shortage? (problem : Instance) : Option Shortage :=
  let rows := problem.numbers.length + 1
  if maxWord < problem.width then some (.sumRange problem.width)
  else if BitTable.maxWords < BitTable.wordsFor problem.width * rows then
    some (.table rows problem.width)
  else none

theorem width_eq (problem : Instance) :
    (problem.width : Int) = greatestSum problem.numbers - leastSum problem.numbers + 1 := by
  have emptySum := (reaches_zero problem.numbers).bounds
  rw [width]
  omega

theorem origin_eq (problem : Instance) : leastSum problem.numbers + problem.origin = 0 := by
  have emptySum := (reaches_zero problem.numbers).bounds
  rw [origin]
  omega

theorem TargetInRange.targetCell_eq (inRange : problem.TargetInRange) :
    leastSum problem.numbers + problem.targetCell = problem.target := by
  have notBelow := inRange.1
  rw [targetCell]
  omega

@[simp] theorem size_tableAfter (problem : Instance) (count : Nat) :
    (problem.tableAfter count).rows.size = problem.numbers.length + 1 := by
  rw [tableAfter, size_fillRows, firstTable, BitTable.size_set, BitTable.size_zeros]

/-- The row for an element is made from the row before it. -/
theorem tableAfter_succ {row : Nat} (found : problem.numbers[row]? = some number) :
    problem.tableAfter (row + 1)
      = (problem.tableAfter row).extendRow row number.natAbs (number < 0) := by
  obtain ⟨inRange, _⟩ := List.getElem?_eq_some_iff.1 found
  have firstRows : ((problem.numbers.take row).map Shift.ofNumber).length = row := by
    rw [List.length_map, List.length_take, Nat.min_eq_left (Nat.le_of_lt inRange)]
  rw [tableAfter, List.take_add_one, found, Option.toList_some, List.map_append, List.map_singleton,
    fillRows_concat, firstRows, Nat.zero_add]
  rfl

theorem width_le_tableAfter (problem : Instance) (count : Nat) :
    problem.width ≤ 64 * (problem.tableAfter count).rowWords := by
  rw [tableAfter, rowWords_fillRows, firstTable, BitTable.rowWords_set]
  exact BitTable.le_rowWords_zeros _ _

/-- Every row made is exact. -/
theorem marks_tableAfter (problem : Instance) (count : Nat) :
    Marks (leastSum problem.numbers) (problem.tableAfter count)
      (problem.numbers.take count).reverse := by
  have width := problem.width_eq
  have origin := problem.origin_eq
  have emptySum := (reaches_zero problem.numbers).bounds
  have enough := BitTable.le_rowWords_zeros (problem.numbers.length + 1) problem.width
  have start : Marks (leastSum problem.numbers) problem.firstTable [] := by
    intro rest suffix bit
    rw [List.suffix_nil.1 suffix, List.length_nil, firstTable, BitTable.get_set (by simp) (by omega),
      BitTable.get_zeros, Bool.false_or, beq_iff_eq, Reaches]
    omega
  have inRange := inRange_take_reverse problem.numbers count
  rw [← List.append_nil (problem.numbers.take count).reverse] at inRange ⊢
  apply marks_fillRows start inRange
  · rw [firstTable, BitTable.size_set, BitTable.size_zeros, List.length_take, List.length_nil]
    omega
  · rw [firstTable, BitTable.rowWords_set]
    omega

/-! ### What there is space for -/

theorem shortage?_eq_none_iff (problem : Instance) :
    problem.shortage? = none ↔ problem.width ≤ maxWord
      ∧ BitTable.wordsFor problem.width * (problem.numbers.length + 1) ≤ BitTable.maxWords := by
  rw [shortage?]
  split
  next many => simp [Nat.not_le.2 many]
  next few =>
    split
    next large => simp [Nat.not_le.2 large]
    next fits => simp [Nat.not_lt.1 few, Nat.not_lt.1 fits]

/-- If the sums can be counted, so can the places that an element moves a sum by. -/
theorem natAbs_le_maxWord (few : problem.width ≤ maxWord) :
    ∀ number ∈ problem.numbers, number.natAbs ≤ maxWord := by
  intro number member
  have width := problem.width_eq
  have := natAbs_le_of_mem member
  omega

theorem wordOf_origin (few : problem.width ≤ maxWord) :
    wordOf problem.width (0 - leastSum problem.numbers) = .ok problem.origin := by
  have width := problem.width_eq
  have emptySum := (reaches_zero problem.numbers).bounds
  rw [wordOf_eq_ok (by omega) (by omega), origin]

theorem TargetInRange.wordOf_targetCell (inRange : problem.TargetInRange)
    (few : problem.width ≤ maxWord) :
    wordOf problem.width (problem.target - leastSum problem.numbers) = .ok problem.targetCell := by
  have width := problem.width_eq
  obtain ⟨low_le, le_high⟩ := inRange
  rw [wordOf_eq_ok (by omega) (by omega), targetCell]

/-- Filling a table that is not too large for the first elements goes on with their rows made. -/
theorem complete_fillFrom_take
    (fits : BitTable.wordsFor problem.width * (problem.numbers.length + 1) ≤ BitTable.maxWords)
    {count : Nat} (notMore : count ≤ problem.numbers.length)
    (next : BitTable → Nat → Activity (Outcome Answer)) :
    (fillFrom problem.width ((problem.numbers.take count).map Shift.ofNumber) 0 problem.firstTable 0
        next).complete
      = (next (problem.tableAfter count) (count * problem.width)).complete := by
  have length : ((problem.numbers.take count).map Shift.ofNumber).length = count := by
    rw [List.length_map, List.length_take_of_le notMore]
  have counts : 0 + count * problem.width ≤ maxWord := by
    rw [Nat.zero_add]
    exact (Nat.mul_le_mul_right _ (Nat.le_succ_of_le notMore)).trans (BitTable.cells_le fits)
  rw [complete_fillFrom _ _ _ _ (length.symm ▸ counts), length, Nat.zero_add, tableAfter]

end Instance

/-- The last row says whether there is a selection, and going back from it finds the least one. -/
theorem answer_eq_traceBack (marks : Marks low table undecided) (low_le : low ≤ leastSum undecided)
    (cell : Nat) :
    ((leastSelection? (low + cell) undecided []).map Answer.found).getD .notFound
      = if table.get undecided.length cell then
          .found (traceBack table (undecided.map Shift.ofNumber) cell [])
        else .notFound := by
  have lastRow := marks undecided (List.suffix_refl undecided) cell
  split
  next marked =>
    rw [leastSelection?_eq_traceBack marks low_le (lastRow.1 marked)]
    rfl
  next unmarked =>
    rw [leastSelection?_eq_none_iff_not_reaches.2 (mt lastRow.2 unmarked)]
    rfl

/-- The cells of the table that are filled: a row for each element, with a cell for each value from the
    least sum to the greatest. A target outside needs none. -/
def Instance.tableCells (problem : Instance) : Nat :=
  if problem.target < leastSum problem.numbers ∨ greatestSum problem.numbers < problem.target then 0
  else problem.numbers.length * (greatestSum problem.numbers - leastSum problem.numbers + 1).toNat

theorem dynamicProgramming_of_not_inRange {problem : Instance} (outside : ¬ problem.TargetInRange) :
    dynamicProgramming problem = .done ⟨.notFound, 0⟩ := by
  have noTable : problem.target < leastSum problem.numbers
      ∨ greatestSum problem.numbers < problem.target := by
    rw [Instance.TargetInRange] at outside
    omega
  rw [dynamicProgramming, if_pos noTable]

/-- For a target in range, the search fills the table and reads the answer from it, unless there is too
    little space for the table. -/
theorem dynamicProgramming_of_inRange {problem : Instance} (inRange : problem.TargetInRange) :
    dynamicProgramming problem =
      match problem.shortage? with
      | some cause => .fail (.exhausted (.space cause))
      | none =>
        fillFrom problem.width (problem.numbers.map Shift.ofNumber) 0 problem.firstTable 0
          fun table nodes =>
            if table.get problem.numbers.length problem.targetCell then
              return ⟨.found (traceBack table (problem.numbers.map Shift.ofNumber).reverse
                problem.targetCell []), nodes⟩
            else return ⟨.notFound, nodes⟩ := by
  have needsTable : ¬ (problem.target < leastSum problem.numbers
      ∨ greatestSum problem.numbers < problem.target) := by
    rw [not_or, not_lt, not_lt]
    exact inRange
  rw [dynamicProgramming, if_neg needsTable, Instance.shortage?, ← Instance.width]
  dsimp only
  by_cases many : maxWord < problem.width
  · rw [if_pos many, wordOf_eq_error (Int.ofNat_lt.2 many), Activity.ofExcept_error_bind]
  · have few := Nat.not_lt.1 many
    rw [if_neg many, wordOf_eq_ok (Int.natCast_nonneg _) (Int.ofNat_le.2 few),
      Activity.ofExcept_ok_bind, Int.toNat_natCast, mapM_shiftOf (Instance.natAbs_le_maxWord few),
      Activity.ofExcept_ok_bind]
    by_cases large : BitTable.maxWords < BitTable.wordsFor problem.width * (problem.numbers.length + 1)
    · rw [if_pos large, BitTable.allocate_eq_error large, Activity.ofExcept_error_bind]
    · rw [if_neg large, BitTable.allocate_eq_ok (Nat.not_lt.1 large), Activity.ofExcept_ok_bind,
        Instance.wordOf_origin few, Activity.ofExcept_ok_bind, ← Instance.firstTable,
        inRange.wordOf_targetCell few]
      rfl

theorem complete_dynamicProgramming_of_not_inRange {problem : Instance}
    (outside : ¬ problem.TargetInRange) :
    (dynamicProgramming problem).complete = .ok ⟨.notFound, 0⟩ := by
  rw [dynamicProgramming_of_not_inRange outside, Activity.complete_done]

/-- For a target in range, the search ends with what the full table says, unless there is too little
    space for the table. -/
theorem complete_dynamicProgramming_of_inRange {problem : Instance}
    (inRange : problem.TargetInRange) :
    (dynamicProgramming problem).complete =
      match problem.shortage? with
      | some cause => .error (.exhausted (.space cause))
      | none => .ok ⟨problem.tableAnswer, problem.numbers.length * problem.width⟩ := by
  rw [dynamicProgramming_of_inRange inRange]
  cases short : problem.shortage? with
  | some cause => rfl
  | none =>
    have filled := Instance.complete_fillFrom_take (problem.shortage?_eq_none_iff.1 short).2
      (Nat.le_refl _)
    rw [List.take_length] at filled
    dsimp only
    rw [filled, Instance.tableAnswer]
    split <;> rfl

/-- The full table gives the least selection. -/
theorem Instance.TargetInRange.tableAnswer_eq {problem : Instance} (inRange : problem.TargetInRange) :
    problem.tableAnswer = problem.leastAnswer := by
  have marks := problem.marks_tableAfter problem.numbers.length
  rw [List.take_length] at marks
  have answer := answer_eq_traceBack marks (leastSum_reverse _).ge problem.targetCell
  rw [inRange.targetCell_eq, List.length_reverse, List.map_reverse] at answer
  exact answer.symm

theorem Instance.TargetInRange.tableCells_eq {problem : Instance} (inRange : problem.TargetInRange) :
    problem.tableCells = problem.numbers.length * problem.width := by
  have width := problem.width_eq
  obtain ⟨low_le, le_high⟩ := inRange
  rw [tableCells, if_neg (by omega), ← width, Int.toNat_natCast]

/-- The search answers with the least selection, having counted the cells filled, unless the table would
    be too large. -/
theorem ends_dynamicProgramming (problem : Instance) :
    Ends (fun outcome => outcome = ⟨problem.leastAnswer, problem.tableCells⟩) Fault.IsShortage
      (dynamicProgramming problem).complete := by
  by_cases inRange : problem.TargetInRange
  · rw [complete_dynamicProgramming_of_inRange inRange]
    split
    next cause short => exact ⟨cause, rfl⟩
    next enough =>
      rw [inRange.tableAnswer_eq, ← inRange.tableCells_eq]
      rfl
  · rw [complete_dynamicProgramming_of_not_inRange inRange]
    have outside := inRange
    rw [Instance.TargetInRange] at outside
    -- The answer given without a table: the target is no sum at all.
    have missed : ¬ Reaches problem.numbers.reverse problem.target := by
      intro reaches
      have := reaches.bounds
      rw [leastSum_reverse, greatestSum_reverse] at this
      exact inRange this
    rw [Instance.leastAnswer, leastSelection?_eq_none_iff_not_reaches.2 missed, Instance.tableCells,
      if_pos (by omega)]
    rfl

theorem dynamicProgramming_answer {problem : Instance} {outcome : Outcome Answer}
    (ended : (dynamicProgramming problem).complete = .ok outcome) :
    outcome.answer = problem.leastAnswer := by
  have ends := ends_dynamicProgramming problem
  rw [ended] at ends
  exact congrArg Outcome.answer ends

end SubsetSum

end SatSum
