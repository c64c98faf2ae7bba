import SatSum.Proofs.Reduction.Numbers
import SatSum.Proofs.SubsetSum.Selections
import Mathlib.Algebra.BigOperators.Ring.Finset
import Mathlib.Algebra.BigOperators.Ring.List
import Mathlib.Data.Nat.Digits.Defs

/-! # Columns of an encoding

Whatever is selected of the numbers of an encoding, the digits of the sum are counts: in the column of a
variable, of its two numbers; in the column of a clause, of its literals whose number is selected and of
its slack. No count reaches the radix, so no column carries and equal sums have equal counts.

* `sum_selected`: the sum has the counts as its digits.
* `columnCounts_lt`: the counts are digits.
* `sum_eq_target_iff`: the target is hit exactly if every column counts what it asks for.
-/

namespace SatSum.Encoding

open SubsetSum (keptFrom)

variable {selects : Nat → Bool} {numVariables position : Nat} {clause : Clause} {clauses : List Clause}
  {weights variableColumns : List Nat}

/-! ## Weighted counts -/

/-- The counts of columns, each times the weight of its column. -/
def weigh (weights counts : List Nat) : Nat :=
  (List.zipWith (· * ·) weights counts).sum

theorem weigh_cons (weight count : Nat) (weights counts : List Nat) :
    weigh (weight :: weights) (count :: counts) = weight * count + weigh weights counts := by
  simp [weigh]

theorem weigh_append {first second counts more : List Nat} (sameLength : first.length = counts.length) :
    weigh (first ++ second) (counts ++ more) = weigh first counts + weigh second more := by
  rw [weigh, List.zipWith_append sameLength, List.sum_append]
  rfl

theorem weigh_append_of_length {columns : Nat} {counts : List Nat} (more : List Nat)
    (covers : counts.length = columns) (enough : columns ≤ weights.length) :
    weigh weights (counts ++ more)
      = weigh (weights.take columns) counts + weigh (weights.drop columns) more := by
  have sameLength : (weights.take columns).length = counts.length := by
    rw [List.length_take_of_le enough, covers]
  rw [← weigh_append sameLength, List.take_append_drop]

theorem weigh_add {counts more : List Nat} (sameLength : counts.length = more.length) :
    weigh weights (List.zipWith (· + ·) counts more) = weigh weights counts + weigh weights more := by
  induction weights generalizing counts more with
  | nil => simp [weigh]
  | cons weight weights inductionHypothesis =>
    cases counts with
    | nil =>
      rw [List.length_eq_zero_iff.1 sameLength.symm]
      simp [weigh]
    | cons count counts =>
      cases more with
      | nil => cases sameLength
      | cons another more =>
        rw [List.zipWith_cons_cons, weigh_cons, weigh_cons, weigh_cons,
          inductionHypothesis (Nat.succ.inj sameLength)]
        ring

theorem sum_map_zip (count : Clause → Nat) (clauses : List Clause) (weights : List Nat) :
    ((clauses.zip weights).map fun entry => count entry.1 * entry.2).sum
      = weigh weights (clauses.map count) := by
  induction clauses generalizing weights with
  | nil => simp [weigh]
  | cons clause clauses inductionHypothesis =>
    cases weights with
    | nil => simp [weigh]
    | cons weight weights =>
      rw [List.zip_cons_cons, List.map_cons, List.sum_cons, List.map_cons, weigh_cons,
        inductionHypothesis, Nat.mul_comm]

/-! ## Powers of the radix -/

theorem weigh_powers (radix weight : Nat) (counts : List Nat) :
    weigh ((List.range counts.length).map fun column => weight * radix ^ column) counts
      = weight * Nat.ofDigits radix counts := by
  induction counts generalizing weight with
  | nil => simp [weigh]
  | cons count counts inductionHypothesis =>
    have shifted : ((List.range counts.length).map Nat.succ).map (fun column => weight * radix ^ column)
        = (List.range counts.length).map fun column => (weight * radix) * radix ^ column := by
      simp only [List.map_map, Function.comp_def, Nat.succ_eq_add_one, Nat.pow_succ', Nat.mul_assoc]
    rw [List.length_cons, List.range_succ_eq_map, List.map_cons, weigh_cons, shifted,
      inductionHypothesis, Nat.ofDigits_cons]
    ring

/-- With the powers of the radix as weights, highest first, counts are digits. -/
theorem weigh_reverse {radix : Nat} {counts : List Nat}
    (found : weightsFrom? radix 1 counts.length = some weights) :
    weigh weights.reverse counts = Nat.ofDigits radix counts.reverse := by
  have powers := (weightsFrom?_eq_some found).1
  -- Lowest first, weights and counts pair up the same.
  have sameLength : weights.length = counts.reverse.length := by simp [powers]
  have reversed : List.zipWith (· * ·) weights.reverse counts
      = (List.zipWith (· * ·) weights counts.reverse).reverse := by
    rw [List.reverse_zipWith sameLength, List.reverse_reverse]
  have value := weigh_powers radix 1 counts.reverse
  rw [Nat.one_mul, List.length_reverse, ← powers] at value
  rw [weigh, reversed, List.sum_reverse]
  exact value

/-! ## Counts -/

/-- The position of the number of a literal. -/
def literalPosition (literal : Literal) : Nat :=
  if literal.positive then truePosition literal.var else falsePosition literal.var

/-- How many of the two numbers of a variable are selected. -/
def variableCount (selects : Nat → Bool) (var : Nat) : Nat :=
  (selects (truePosition var)).toNat + (selects (falsePosition var)).toNat

/-- How many literals of a clause have their number selected. -/
def literalCount (selects : Nat → Bool) (clause : Clause) : Nat :=
  clause.countP fun literal => selects (literalPosition literal)

theorem literalCount_cons (literal : Literal) (clause : Clause) :
    literalCount selects (literal :: clause)
      = literalCount selects clause + (selects (literalPosition literal)).toNat := by
  rw [literalCount, List.countP_cons]
  cases selects (literalPosition literal) <;> rfl

/-- The counts in the columns of the clauses, the first slack being at `position`. -/
def clauseCounts (selects : Nat → Bool) (position : Nat) (clauses : List Clause) : List Nat :=
  List.zipWith (· + ·) (clauses.map (literalCount selects))
    ((slacksFrom position clauses).map (List.countP selects))

/-- The counts in all columns, in the order of the columns. -/
def columnCounts (selects : Nat → Bool) (numVariables : Nat) (clauses : List Clause) : List Nat :=
  (List.range' 1 numVariables).map (variableCount selects)
    ++ clauseCounts selects (2 * numVariables) clauses

@[simp] theorem length_slacksFrom : (slacksFrom position clauses).length = clauses.length := by
  induction clauses generalizing position with
  | nil => rfl
  | cons clause clauses inductionHypothesis => simp [slacksFrom, inductionHypothesis]

@[simp] theorem length_clauseCounts : (clauseCounts selects position clauses).length = clauses.length := by
  simp [clauseCounts]

theorem clauseCounts_cons :
    clauseCounts selects position (clause :: clauses)
      = (literalCount selects clause
          + (List.range' position (clause.length - 1)).countP selects)
        :: clauseCounts selects (position + (clause.length - 1)) clauses := rfl

/-! ## Sums -/

theorem sum_keptFrom_cons (number : Nat) (rest : List Nat) :
    (keptFrom selects position (number :: rest)).sum
      = (selects position).toNat * number + (keptFrom selects (position + 1) rest).sum := by
  rw [keptFrom]
  cases selects position <;> simp

/-- How many literals of a clause are over the variable and have their number selected. -/
def occurrences (selects : Nat → Bool) (clause : Clause) (var : Nat) : Nat :=
  (selects (truePosition var)).toNat * clause.count ⟨var, true⟩
    + (selects (falsePosition var)).toNat * clause.count ⟨var, false⟩

theorem sum_keptFrom_literalNumbers {var : Nat} (positive : 1 ≤ var)
    (columns : List (Clause × Nat)) (variableColumns : List Nat) :
    (keptFrom selects (truePosition var) (literalNumbers columns var variableColumns)).sum
      = weigh variableColumns
          ((List.range' var variableColumns.length).map (variableCount selects))
        + (columns.map fun entry =>
            ((List.range' var variableColumns.length).map (occurrences selects entry.1)).sum
              * entry.2).sum := by
  induction variableColumns generalizing var with
  | nil => simp [literalNumbers, keptFrom, weigh]
  | cons column rest inductionHypothesis =>
    -- A variable has two numbers, so two positions on it is the next variable's turn.
    have nextFalse : truePosition var + 1 = falsePosition var := rfl
    have nextTrue : falsePosition var + 1 = truePosition (var + 1) := by
      rw [falsePosition, truePosition]
      omega
    rw [literalNumbers, sum_keptFrom_cons, sum_keptFrom_cons, nextFalse, nextTrue,
      inductionHypothesis (Nat.le_add_left 1 var)]
    simp only [List.length_cons, List.range'_succ, List.map_cons, List.sum_cons, weigh_cons,
      Nat.add_mul, List.sum_map_add, occurrences, variableCount, literalNumber, total_eq_sum,
      Nat.mul_assoc, List.sum_map_mul_left]
    ring

theorem sum_map_ite_eq (list : List Nat) (place value : Nat) :
    (list.map fun other => if other = place then value else 0).sum = value * list.count place := by
  induction list with
  | nil => rfl
  | cons head tail inductionHypothesis =>
    rw [List.map_cons, List.sum_cons, inductionHypothesis, List.count_cons]
    by_cases here : head = place
    · simp [here, Nat.mul_add, Nat.add_comm]
    · simp [here]

theorem occurrences_cons (literal : Literal) (clause : Clause) (var : Nat) :
    occurrences selects (literal :: clause) var
      = occurrences selects clause var
        + if var = literal.var then (selects (literalPosition literal)).toNat else 0 := by
  obtain ⟨literalVar, sign⟩ := literal
  by_cases here : var = literalVar
  · subst here
    cases sign <;> simp [occurrences, literalPosition, Nat.mul_add] <;> omega
  · have different (positive : Bool) : (⟨literalVar, sign⟩ : Literal) ≠ ⟨var, positive⟩ :=
      fun same => here (congrArg Literal.var same).symm
    simp [occurrences, here, different]

/-- Over all variables, the occurrences of a clause's literals are its literals. -/
theorem sum_occurrences (within : clause.Within numVariables) :
    ((List.range' 1 numVariables).map (occurrences selects clause)).sum
      = literalCount selects clause := by
  induction clause with
  | nil =>
    have none : occurrences selects [] = fun _ => 0 := by
      funext var
      simp [occurrences]
    simp [none, literalCount]
  | cons literal clause inductionHypothesis =>
    obtain ⟨inRange, withinRest⟩ := List.forall_mem_cons.1 within
    have member : literal.var ∈ List.range' 1 numVariables := by
      rw [List.mem_range'_1]
      omega
    have once : (List.range' 1 numVariables).count literal.var = 1 :=
      List.count_eq_one_of_mem (List.nodup_range' ..) member
    rw [funext (occurrences_cons literal clause), List.sum_map_add, inductionHypothesis withinRest,
      sum_map_ite_eq, once, literalCount_cons, Nat.mul_one]

/-- The numbers of literals supply the columns of their variables and of the clauses they are in. -/
theorem sum_keptFrom_literals (selects : Nat → Bool) (clauseWeights : List Nat)
    (within : ∀ clause ∈ clauses, clause.Within variableColumns.length) :
    (keptFrom selects 0 (literalNumbers (clauses.zip clauseWeights) 1 variableColumns)).sum
      = weigh variableColumns ((List.range' 1 variableColumns.length).map (variableCount selects))
        + weigh clauseWeights (clauses.map (literalCount selects)) := by
  have supplied := sum_map_zip
    (fun clause => ((List.range' 1 variableColumns.length).map (occurrences selects clause)).sum)
    clauses clauseWeights
  -- A clause column gets every literal of its clause once, from the variable the literal is over.
  rw [List.map_congr_left fun clause member => sum_occurrences (within clause member)] at supplied
  rw [← supplied]
  exact sum_keptFrom_literalNumbers (Nat.le_refl 1) _ _

theorem sum_keptFrom_slackNumbers (selects : Nat → Bool) (position : Nat) (clauses : List Clause)
    (weights : List Nat) :
    (keptFrom selects position (slackNumbers (clauses.zip weights))).sum
      = weigh weights ((slacksFrom position clauses).map (List.countP selects)) := by
  induction clauses generalizing position weights with
  | nil => simp [slackNumbers, keptFrom, slacksFrom, weigh]
  | cons clause clauses inductionHypothesis =>
    cases weights with
    | nil => simp [slackNumbers, keptFrom, weigh]
    | cons weight weights =>
      rw [List.zip_cons_cons, slackNumbers, List.flatMap_cons, SubsetSum.keptFrom_append,
        List.sum_append, SubsetSum.keptFrom_replicate, List.length_replicate, slacksFrom, List.map_cons,
        weigh_cons, ← inductionHypothesis, List.sum_replicate_nat, Nat.mul_comm]
      rfl

/-- Whatever the weights, each column is weighed by its count. -/
theorem sum_keptFrom_instanceFor (sameLength : weights.length = numVariables + clauses.length)
    (within : ∀ clause ∈ clauses, clause.Within numVariables) :
    (keptFrom selects 0 (instanceFor numVariables clauses weights).numbers).sum
      = Int.ofNat (weigh weights (columnCounts selects numVariables clauses)) := by
  have enough : numVariables ≤ weights.length := sameLength ▸ Nat.le_add_right _ _
  have takenLength := List.length_take_of_le enough
  have literals := sum_keptFrom_literals selects (weights.drop numVariables)
    (takenLength.symm ▸ within)
  have slacks := sum_keptFrom_slackNumbers selects (2 * numVariables) clauses
    (weights.drop numVariables)
  rw [takenLength] at literals
  rw [columnCounts, weigh_append_of_length _ (by simp) enough, clauseCounts, weigh_add (by simp),
    ← slacks, ← Nat.add_assoc, ← literals]
  simp only [instanceFor, SubsetSum.keptFrom_map, SubsetSum.keptFrom_append, length_literalNumbers,
    takenLength, Nat.zero_add, ← List.sum_append]
  exact (Nat.cast_list_sum _).symm

/-- What every column asks for: one of the two numbers of a variable, and the width of a clause, but at
    least one. -/
def askedCounts (numVariables : Nat) (clauses : List Clause) : List Nat :=
  List.replicate numVariables 1 ++ clauses.map fun clause => max clause.length 1

theorem weigh_replicate_one (weights : List Nat) :
    weigh weights (List.replicate weights.length 1) = weights.sum := by
  induction weights with
  | nil => rfl
  | cons weight weights inductionHypothesis =>
    rw [List.length_cons, List.replicate_succ, weigh_cons, inductionHypothesis, Nat.mul_one,
      List.sum_cons]

theorem target_instanceFor (sameLength : weights.length = numVariables + clauses.length) :
    (instanceFor numVariables clauses weights).target
      = Int.ofNat (weigh weights (askedCounts numVariables clauses)) := by
  have enough : numVariables ≤ weights.length := sameLength ▸ Nat.le_add_right _ _
  have ones := weigh_replicate_one (weights.take numVariables)
  have widths := sum_map_zip (fun clause => max clause.length 1) clauses (weights.drop numVariables)
  rw [List.length_take_of_le enough] at ones
  rw [askedCounts, weigh_append_of_length _ (by simp) enough, ones, ← widths]
  simp only [instanceFor, targetFor, total_eq_sum, Nat.mul_comm]

/-! ## Digits -/

theorem le_foldl_max {number : Nat} (numbers : List Nat) (initial : Nat)
    (listed : number ∈ numbers ∨ number ≤ initial) : number ≤ numbers.foldl max initial := by
  induction numbers generalizing initial with
  | nil => exact listed.resolve_left (List.not_mem_nil)
  | cons head tail inductionHypothesis =>
    apply inductionHypothesis
    rcases listed with listed | below
    · rcases List.mem_cons.1 listed with rfl | later
      · exact Or.inr (Nat.le_max_right _ _)
      · exact Or.inl later
    · exact Or.inr (le_max_of_le_left below)

theorem two_mul_length_le_radixFor (member : clause ∈ clauses) :
    2 * clause.length ≤ radixFor clauses := by
  have widest : clause.length ≤ (clauses.map List.length).foldl max 0 :=
    le_foldl_max _ 0 (Or.inl (List.mem_map_of_mem member))
  exact (Nat.mul_le_mul_left 2 widest).trans (Nat.le_max_right _ _)

theorem variableCount_le (selects : Nat → Bool) (var : Nat) : variableCount selects var ≤ 2 :=
  Nat.add_le_add (Bool.toNat_le _) (Bool.toNat_le _)

/-- The literals of a clause and its slack are fewer than twice its width. -/
theorem exists_clause_of_mem_clauseCounts {count : Nat}
    (member : count ∈ clauseCounts selects position clauses) :
    ∃ clause ∈ clauses, count ≤ clause.length + (clause.length - 1) := by
  induction clauses generalizing position with
  | nil => simp [clauseCounts] at member
  | cons clause clauses inductionHypothesis =>
    rw [clauseCounts_cons, List.mem_cons] at member
    rcases member with rfl | later
    · refine ⟨clause, List.mem_cons_self, Nat.add_le_add List.countP_le_length ?_⟩
      exact List.countP_le_length.trans_eq (List.length_range' ..)
    · obtain ⟨other, inRest, bounded⟩ := inductionHypothesis later
      exact ⟨other, List.mem_cons_of_mem _ inRest, bounded⟩

theorem columnCounts_lt :
    ∀ count ∈ columnCounts selects numVariables clauses, count < radixFor clauses := by
  intro count member
  have ten : 10 ≤ radixFor clauses := ten_le_radixFor
  rcases List.mem_append.1 member with ofVariable | ofClause
  · obtain ⟨var, _, rfl⟩ := List.mem_map.1 ofVariable
    have := variableCount_le selects var
    omega
  · obtain ⟨clause, inClauses, bounded⟩ := exists_clause_of_mem_clauseCounts ofClause
    have := two_mul_length_le_radixFor inClauses
    omega

theorem askedCounts_lt : ∀ count ∈ askedCounts numVariables clauses, count < radixFor clauses := by
  intro count member
  have ten : 10 ≤ radixFor clauses := ten_le_radixFor
  rcases List.mem_append.1 member with ofVariable | ofClause
  · rw [List.eq_of_mem_replicate ofVariable]
    omega
  · obtain ⟨clause, inClauses, rfl⟩ := List.mem_map.1 ofClause
    have := two_mul_length_le_radixFor inClauses
    omega

/-! ## Encodings -/

/-- The encoding was made from its clauses, which are over its variables. -/
structure Built (encoding : Encoding) : Prop where
  within : ∀ clause ∈ encoding.clauses, clause.Within encoding.numVariables
  weighted : ∃ weights,
    weightsFrom? encoding.radix 1 (encoding.numVariables + encoding.clauses.length) = some weights
      ∧ encoding.encoded = instanceFor encoding.numVariables encoding.clauses weights.reverse

theorem ofClauses_eq_ok {encoding : Encoding} (within : ∀ clause ∈ clauses, clause.Within numVariables)
    (made : ofClauses numVariables clauses = .ok encoding) :
    encoding.Built ∧ encoding.numVariables = numVariables ∧ encoding.clauses = clauses := by
  cases found : weightsFrom? (radixFor clauses) 1 (numVariables + clauses.length) with
  | none =>
    rw [ofClauses_of_none found] at made
    cases made
  | some weights =>
    rw [ofClauses_of_some within found] at made
    obtain ⟨_, _, later⟩ := bind_eq_ok_iff.1 made
    obtain ⟨_, _, same⟩ := bind_eq_ok_iff.1 later
    cases same
    exact ⟨⟨within, weights, found, rfl⟩, rfl, rfl⟩

variable {encoding : Encoding}

@[simp] theorem length_columnCounts :
    (columnCounts selects numVariables clauses).length = numVariables + clauses.length := by
  simp [columnCounts]

@[simp] theorem length_askedCounts :
    (askedCounts numVariables clauses).length = numVariables + clauses.length := by
  simp [askedCounts]

/-- The columns of an encoding have weights, each a power of its radix. -/
theorem Built.exists_weights (built : encoding.Built) :
    ∃ weights, weights.length = encoding.numVariables + encoding.clauses.length
      ∧ encoding.encoded = instanceFor encoding.numVariables encoding.clauses weights
      ∧ ∀ counts : List Nat, counts.length = encoding.numVariables + encoding.clauses.length →
        weigh weights counts = Nat.ofDigits encoding.radix counts.reverse := by
  obtain ⟨weights, found, made⟩ := built.weighted
  refine ⟨weights.reverse, ?_, made, ?_⟩
  · rw [List.length_reverse, length_of_weightsFrom?_eq_some found]
  · intro counts covers
    exact weigh_reverse (covers ▸ found)

/-- Whatever is selected, the digits of the sum are the counts. -/
theorem Built.sum_selected (built : encoding.Built) (selects : Nat → Bool) :
    (keptFrom selects 0 encoding.encoded.numbers).sum
      = Int.ofNat (Nat.ofDigits encoding.radix
          (columnCounts selects encoding.numVariables encoding.clauses).reverse) := by
  obtain ⟨weights, sameLength, made, weighs⟩ := built.exists_weights
  rw [made, sum_keptFrom_instanceFor sameLength built.within, weighs _ length_columnCounts]

theorem Built.target_eq (built : encoding.Built) :
    encoding.encoded.target = Int.ofNat (Nat.ofDigits encoding.radix
      (askedCounts encoding.numVariables encoding.clauses).reverse) := by
  obtain ⟨weights, sameLength, made, weighs⟩ := built.exists_weights
  rw [made, target_instanceFor sameLength, weighs _ length_askedCounts]

/-- The target is hit exactly if every column counts what it asks for. -/
theorem Built.sum_eq_target_iff (built : encoding.Built) (selects : Nat → Bool) :
    (keptFrom selects 0 encoding.encoded.numbers).sum = encoding.encoded.target
      ↔ columnCounts selects encoding.numVariables encoding.clauses
        = askedCounts encoding.numVariables encoding.clauses := by
  rw [built.sum_selected, built.target_eq]
  constructor
  -- A number has only one list of digits of a given length.
  · intro sameSum
    have radix : 1 < encoding.radix := lt_of_lt_of_le (by decide) ten_le_radixFor
    apply List.reverse_injective
    apply Nat.ofDigits_inj_of_len_eq radix
    · simp
    · intro count member
      exact columnCounts_lt count (List.mem_reverse.1 member)
    · intro count member
      exact askedCounts_lt count (List.mem_reverse.1 member)
    · exact Int.ofNat.inj sameSum
  · intro sameCounts
    rw [sameCounts]

end SatSum.Encoding
