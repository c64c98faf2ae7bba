import SatSum.Proofs.Models
import SatSum.Proofs.Activity
import SatSum.Reduction.Encoding
import Mathlib.Algebra.Group.Action.Defs
import Mathlib.Algebra.Order.BigOperators.Group.List
import Mathlib.Tactic.Ring

/-! # Numbers of an encoding

An encoding looks its columns up by words and adds weights in place. With weights for all columns there
are at most 4096 of them, so no sum of words is too large, no difference is below zero, and no index is
past the end. The numbers put together are those of the literals: the column of the variable, and those
of the clauses as often as they have the literal.

* `columns_le`: there are few columns.
* `foldlM_addClause`: adding the clauses one by one.
* `makeInstance_eq`: the instance, as long as the positions are words.
-/

namespace SatSum.Encoding

variable {numVariables var place radix weight columns : Nat} {weights : List Nat} {clause : Clause}
  {clauses : List Clause} {literal : Literal}

/-! ## The numbers of the literals -/

/-- The number of a literal in variable column `column`, given the clauses with their columns. -/
def literalNumber (columns : List (Clause × Nat)) (column : Nat) (literal : Literal) : Nat :=
  column + total (columns.map fun entry => entry.1.count literal * entry.2)

def literalNumbers (columns : List (Clause × Nat)) (var : Nat) : List Nat → List Nat
  | [] => []
  | column :: rest =>
    literalNumber columns column ⟨var, true⟩ :: literalNumber columns column ⟨var, false⟩
      :: literalNumbers columns (var + 1) rest

/-- The instance for clauses, given the weights of the columns, highest first. -/
def instanceFor (numVariables : Nat) (clauses : List Clause) (weights : List Nat) :
    SubsetSum.Instance :=
  let variableColumns := weights.take numVariables
  let columns := clauses.zip (weights.drop numVariables)
  { numbers := (literalNumbers columns 1 variableColumns ++ slackNumbers columns).map Int.ofNat
    target := Int.ofNat (targetFor columns variableColumns) }

@[simp] theorem length_literalNumbers (columns : List (Clause × Nat)) (var : Nat)
    (variableColumns : List Nat) :
    (literalNumbers columns var variableColumns).length = 2 * variableColumns.length := by
  induction variableColumns generalizing var with
  | nil => rfl
  | cons column rest inductionHypothesis =>
    simp only [literalNumbers, List.length_cons, inductionHypothesis]
    ring

theorem literalNumbers_eq (entries : List (Clause × Nat)) (var : Nat) (columns : List Nat) :
    literalNumbers entries var columns
      = (List.range columns.length).flatMap fun index =>
        [literalNumber entries (columns.getD index 0) ⟨var + index, true⟩,
          literalNumber entries (columns.getD index 0) ⟨var + index, false⟩] := by
  induction columns generalizing var with
  | nil => rfl
  | cons column rest inductionHypothesis =>
    rw [literalNumbers, inductionHypothesis, List.length_cons, List.range_succ_eq_map, List.flatMap_cons,
      List.flatMap_map]
    simp [Nat.add_assoc, Nat.add_comm 1]

/-- How many slack numbers clauses have. -/
def slackLength (clauses : List Clause) : Nat :=
  (clauses.map fun clause => clause.length - 1).sum

theorem length_slackNumbers (sameLength : weights.length = clauses.length) :
    (slackNumbers (clauses.zip weights)).length = slackLength clauses := by
  induction clauses generalizing weights with
  | nil => rfl
  | cons clause clauses inductionHypothesis =>
    cases weights with
    | nil => cases sameLength
    | cons weight weights =>
      rw [List.zip_cons_cons, slackNumbers, List.flatMap_cons, List.length_append,
        List.length_replicate, slackLength, List.map_cons, List.sum_cons]
      exact congrArg _ (inductionHypothesis (Nat.succ.inj sameLength))

/-! ## Weights -/

theorem ten_le_radixFor : 10 ≤ radixFor clauses :=
  Nat.le_max_left _ _

/-- The weights are powers of the radix, and none of them is too large. -/
theorem weightsFrom?_eq_some (found : weightsFrom? radix weight columns = some weights) :
    weights = (List.range columns).map (fun column => weight * radix ^ column)
      ∧ ∀ column < columns, bitLength (weight * radix ^ column) ≤ maxBits := by
  induction columns generalizing weight weights with
  | zero =>
    cases found
    exact ⟨rfl, fun column inRange => absurd inRange (Nat.not_lt_zero column)⟩
  | succ columns inductionHypothesis =>
    rw [weightsFrom?] at found
    split at found
    next tooLarge => cases found
    next small =>
      obtain ⟨more, foundMore, rfl⟩ := Option.map_eq_some_iff.1 found
      obtain ⟨powers, smallPowers⟩ := inductionHypothesis foundMore
      constructor
      · rw [powers, List.range_succ_eq_map, List.map_cons, List.map_map]
        simp only [pow_zero, Nat.mul_one, Function.comp_def, Nat.pow_succ', Nat.mul_assoc]
      · intro column inRange
        cases column with
        | zero => rwa [pow_zero, Nat.mul_one, ← not_lt]
        | succ column =>
          rw [Nat.pow_succ', ← Nat.mul_assoc]
          exact smallPowers column (Nat.lt_of_succ_lt_succ inRange)

theorem length_of_weightsFrom?_eq_some (found : weightsFrom? radix weight columns = some weights) :
    weights.length = columns := by
  rw [(weightsFrom?_eq_some found).1, List.length_map, List.length_range]

/-- The last weight has a bit for each column before it. -/
theorem columns_le (found : weightsFrom? (radixFor clauses) 1 columns = some weights) : columns ≤ maxBits := by
  cases columns with
  | zero => exact Nat.zero_le _
  | succ columns =>
    have small := (weightsFrom?_eq_some found).2 columns (Nat.lt_succ_self columns)
    rw [bitLength_le_iff, Nat.one_mul, Nat.one_shiftLeft] at small
    have radix : 2 ≤ radixFor clauses := le_trans (by decide) ten_le_radixFor
    exact (Nat.pow_lt_pow_iff_right Nat.one_lt_two).1
      ((Nat.pow_le_pow_left radix columns).trans_lt small)

/-! ## Looking columns up -/

/-- Looking up the members of a list one by one gives the list. -/
theorem mapM_range'_eq_ok {ε α : Type} {members : List α} {value : Nat → Except ε α} {start count : Nat}
    (covers : members.length = count)
    (gives : ∀ index member, members[index]? = some member → value (start + index) = .ok member) :
    (List.range' start count).mapM value = .ok members := by
  subst covers
  induction members generalizing start with
  | nil => rfl
  | cons member rest inductionHypothesis =>
    have first : value start = .ok member := gives 0 member rfl
    have later : (List.range' (start + 1) rest.length).mapM value = .ok rest := by
      apply inductionHypothesis
      intro index other atIndex
      rw [Nat.add_assoc, Nat.add_comm 1]
      exact gives (index + 1) other atIndex
    rw [List.length_cons, List.range'_succ, List.mapM_cons, first, later, ok_bind, ok_bind]
    rfl

theorem variableColumn_eq_ok {numClauses column : Nat} (fits : numVariables + numClauses ≤ maxWord)
    (declared : var ≤ numVariables) (atIndex : weights[numClauses + numVariables - var]? = some column) :
    variableColumn weights numVariables numClauses var = .ok column := by
  have noMore : var ≤ numClauses + numVariables := declared.trans (Nat.le_add_left _ _)
  rw [variableColumn, Checked.add_eq_ok (Nat.add_comm numVariables numClauses ▸ fits), ok_bind,
    Checked.sub_eq_ok noMore, ok_bind, Checked.entry_eq_ok atIndex]

theorem clauseColumn_eq_ok {numClauses column : Nat} (inRange : place < numClauses)
    (atIndex : weights[numClauses - 1 - place]? = some column) :
    clauseColumn weights numClauses place = .ok column := by
  rw [clauseColumn, Checked.sub_eq_ok (Nat.one_le_of_lt inRange), ok_bind,
    Checked.sub_eq_ok (Nat.le_sub_one_of_lt inRange), ok_bind, Checked.entry_eq_ok atIndex]

/-- Counted from the top, the columns of the variables come first. -/
theorem mapM_variableColumn (fits : numVariables + clauses.length ≤ maxWord)
    (sameLength : weights.length = numVariables + clauses.length) :
    (List.range' 1 numVariables).mapM (variableColumn weights numVariables clauses.length)
      = .ok (weights.reverse.take numVariables) := by
  have covers : (weights.reverse.take numVariables).length = numVariables := by simp [sameLength]
  apply mapM_range'_eq_ok covers
  intro index column atIndex
  have inRange := (List.getElem?_eq_some_iff.1 atIndex).1
  have sameColumn : clauses.length + numVariables - (1 + index) = weights.length - 1 - index := by omega
  rw [List.getElem?_take_of_lt (by omega), List.getElem?_reverse (by omega)] at atIndex
  exact variableColumn_eq_ok fits (by omega) (sameColumn ▸ atIndex)

/-- The columns of the clauses come after those of the variables. -/
theorem mapM_clauseColumn (sameLength : weights.length = numVariables + clauses.length) :
    (List.range' 0 clauses.length).mapM (clauseColumn weights clauses.length)
      = .ok (weights.reverse.drop numVariables) := by
  have covers : (weights.reverse.drop numVariables).length = clauses.length := by simp [sameLength]
  apply mapM_range'_eq_ok covers
  intro index column atIndex
  have inRange := (List.getElem?_eq_some_iff.1 atIndex).1
  have sameColumn : clauses.length - 1 - (0 + index) = weights.length - 1 - (numVariables + index) := by
    omega
  rw [List.getElem?_drop, List.getElem?_reverse (by omega)] at atIndex
  exact clauseColumn_eq_ok (by omega) (sameColumn ▸ atIndex)

/-! ## Adding clauses -/

/-- The numbers that a function gives the literals. -/
def numbersOf (number : Literal → Nat) (numVariables : Nat) : Numbers where
  positive := (List.range numVariables).map fun index => number ⟨index + 1, true⟩
  negative := (List.range numVariables).map fun index => number ⟨index + 1, false⟩

theorem addAt_map_range {number : Nat → Nat} {index : Nat} (inRange : index < numVariables) (amount : Nat) :
    Checked.addAt ((List.range numVariables).map number) index amount
      = .ok ((List.range numVariables).map fun other =>
        number other + if other = index then amount else 0) := by
  rw [Checked.addAt, List.length_map, List.length_range, if_pos inRange, Except.ok.injEq]
  apply List.ext_getElem
  · simp
  · intro other _ _
    by_cases same : index = other
    · simp [same]
    · simp [same, Ne.symm same]

variable {number : Literal → Nat}

theorem addLiteral_numbersOf (isVariable : 1 ≤ literal.var) (declared : literal.var ≤ numVariables) :
    addLiteral weight (numbersOf number numVariables) literal
      = .ok (numbersOf (fun other => number other + if other = literal then weight else 0) numVariables) := by
  obtain ⟨var, sign⟩ := literal
  obtain ⟨index, rfl⟩ := Nat.exists_eq_add_of_le' isVariable
  have added (number : Nat → Nat) := @addAt_map_range numVariables number index declared weight
  rw [addLiteral, Checked.sub_eq_ok isVariable, ok_bind, Nat.add_sub_cancel]
  cases sign with
  | true => simp [numbersOf, added, ok_bind, pure, Except.pure]
  | false => simp [numbersOf, added, ok_bind, pure, Except.pure]

/-- A clause adds its weight to a literal as often as it has the literal. -/
theorem addClause_numbersOf (within : clause.Within numVariables) :
    addClause (numbersOf number numVariables) (clause, weight)
      = .ok (numbersOf (fun other => number other + clause.count other * weight) numVariables) := by
  induction clause generalizing number with
  | nil =>
    simp only [List.count_nil, Nat.zero_mul, Nat.add_zero]
    rfl
  | cons literal rest inductionHypothesis =>
    obtain ⟨⟨isVariable, declared⟩, withinRest⟩ := List.forall_mem_cons.1 within
    have addedLater := @inductionHypothesis
      (fun other => number other + if other = literal then weight else 0) withinRest
    rw [addClause] at addedLater ⊢
    rw [List.foldlM_cons, addLiteral_numbersOf isVariable declared, ok_bind, addedLater]
    congr 2
    funext other
    by_cases same : other = literal
    · rw [if_pos same, same, List.count_cons_self, Nat.succ_mul]
      omega
    · rw [if_neg same, List.count_cons_of_ne (Ne.symm same), Nat.add_zero]

theorem foldlM_addClause {entries : List (Clause × Nat)}
    (within : ∀ entry ∈ entries, entry.1.Within numVariables) :
    entries.foldlM addClause (numbersOf number numVariables)
      = .ok (numbersOf (fun other => number other + total (entries.map fun entry => entry.1.count other * entry.2))
          numVariables) := by
  induction entries generalizing number with
  | nil =>
    simp only [List.map_nil, total_eq_sum, List.sum_nil, Nat.add_zero]
    rfl
  | cons entry rest inductionHypothesis =>
    obtain ⟨withinFirst, withinRest⟩ := List.forall_mem_cons.1 within
    rw [List.foldlM_cons, addClause_numbersOf withinFirst, ok_bind, inductionHypothesis withinRest]
    congr 2
    funext other
    rw [total_eq_sum, total_eq_sum, List.map_cons, List.sum_cons, Nat.add_assoc]

/-- The numbers of the literals, in the order in which an instance has them. -/
theorem interleaved_numbersOf (number : Literal → Nat) (numVariables : Nat) :
    (numbersOf number numVariables).interleaved
      = (List.range numVariables).flatMap fun index => [number ⟨index + 1, true⟩, number ⟨index + 1, false⟩] := by
  rw [Numbers.interleaved, numbersOf, List.zip_map', List.flatMap_map]

/-- Adding the clauses one by one gives the numbers of an instance. -/
theorem exists_numbers {entries : List (Clause × Nat)} {variableColumns : List Nat}
    (within : ∀ entry ∈ entries, entry.1.Within variableColumns.length) :
    ∃ numbers, entries.foldlM addClause ⟨variableColumns, variableColumns⟩ = .ok numbers
      ∧ numbers.interleaved = literalNumbers entries 1 variableColumns := by
  have start : (⟨variableColumns, variableColumns⟩ : Numbers)
      = numbersOf (fun literal => variableColumns.getD (literal.var - 1) 0) variableColumns.length := by
    have columns : variableColumns
        = (List.range variableColumns.length).map fun index => variableColumns.getD index 0 := by
      apply List.ext_getElem
      · simp
      · intro index inRange _
        simp [inRange]
    rw [numbersOf, Numbers.mk.injEq]
    exact ⟨columns, columns⟩
  rw [start]
  refine ⟨_, foldlM_addClause within, ?_⟩
  rw [interleaved_numbersOf, literalNumbers_eq]
  simp only [Nat.add_sub_cancel, Nat.add_comm 1]
  rfl

/-! ## The instance -/

/-- The only operation that may stop is the last one: the positions have to be words. -/
theorem makeInstance_eq (within : ∀ clause ∈ clauses, clause.Within numVariables)
    (fits : numVariables + clauses.length ≤ maxWord)
    (sameLength : weights.length = numVariables + clauses.length) :
    makeInstance numVariables clauses weights
      = Checked.add (2 * numVariables) (slackLength clauses) >>= fun _ =>
        .ok (instanceFor numVariables clauses weights.reverse) := by
  have takenLength : (weights.reverse.take numVariables).length = numVariables := by simp [sameLength]
  have droppedLength : (weights.reverse.drop numVariables).length = clauses.length := by simp [sameLength]
  have withinEntries : ∀ entry ∈ clauses.zip (weights.reverse.drop numVariables),
      entry.1.Within (weights.reverse.take numVariables).length := by
    rintro ⟨clause, column⟩ member
    rw [takenLength]
    exact within clause (List.of_mem_zip member).1
  obtain ⟨numbers, added, interleaved⟩ := exists_numbers withinEntries
  simp only [makeInstance, mapM_variableColumn fits sameLength, mapM_clauseColumn sameLength, added,
    ok_bind, interleaved, length_literalNumbers, takenLength, length_slackNumbers droppedLength]
  rfl

theorem ofClauses_of_none
    (refused : weightsFrom? (radixFor clauses) 1 (numVariables + clauses.length) = none) :
    ofClauses numVariables clauses = .error (.malformed
      (.encodingTooLarge (numVariables + clauses.length) (radixFor clauses))) := by
  simp only [ofClauses, refused]

theorem ofClauses_of_some (within : ∀ clause ∈ clauses, clause.Within numVariables)
    (found : weightsFrom? (radixFor clauses) 1 (numVariables + clauses.length) = some weights) :
    ofClauses numVariables clauses
      = Checked.add (2 * numVariables) (slackLength clauses) >>= fun _ =>
        (instanceFor numVariables clauses weights.reverse).validate >>= fun _ =>
          .ok ⟨numVariables, clauses, instanceFor numVariables clauses weights.reverse⟩ := by
  have fits : numVariables + clauses.length ≤ maxWord := (columns_le found).trans (by decide)
  simp only [ofClauses, found]
  rw [makeInstance_eq within fits (length_of_weightsFrom?_eq_some found), bind_assoc]
  rfl

/-- Few columns of narrow clauses have positions that are words. -/
theorem positions_fit (narrow : ∀ clause ∈ clauses, clause.length ≤ max 3 numVariables)
    (few : numVariables + clauses.length ≤ maxBits) :
    2 * numVariables + slackLength clauses ≤ maxWord := by
  have slack : slackLength clauses ≤ clauses.length * max 3 numVariables := by
    rw [slackLength, ← List.length_map (fun clause : Clause => clause.length - 1), ← smul_eq_mul]
    apply List.sum_le_card_nsmul
    intro width member
    obtain ⟨clause, inClauses, rfl⟩ := List.mem_map.1 member
    exact (Nat.sub_le _ _).trans (narrow clause inClauses)
  have product : clauses.length * max 3 numVariables ≤ maxBits * maxBits :=
    Nat.mul_le_mul (Nat.le_of_add_left_le few)
      (max_le (by decide) (Nat.le_of_add_right_le few))
  simp only [maxBits, maxWord, UInt64.size] at few product ⊢
  omega

end SatSum.Encoding
