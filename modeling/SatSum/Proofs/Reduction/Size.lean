import Mathlib.Algebra.Order.BigOperators.Group.List
import SatSum.Proofs.Activity
import SatSum.Proofs.Reduction.Faithful
import SatSum.Proofs.SubsetSum.Validation
import SatSum.Proofs.ThreeFormula

/-! # Which formulas have encodings

Numbers are refused in three places: a weight while the columns are made, an element, and the target.
The target has a digit of at least one in every column and, in each column, at least as much as any
number of the instance, so none of them is greater. Together the three limits are one, on the target.

A formula of three different variables a clause has one encoding, whichever way it is encoded.

* `number_le_target`: the target is the greatest number of an instance.
* `ends_ofClauses`: clauses are encoded exactly if the target is small enough.
* `encode_endsBySize`: the same for both ways to encode a formula.
* `encode_toFormula`: the two ways agree on three-literal formulas.
-/

namespace SatSum

namespace Encoding

variable {number column radix weight columns var numVariables : Nat} {weights variableColumns : List Nat}
  {entries : List (Clause × Nat)} {clauses : List Clause} {encoding : Encoding}

/-! ## The target is the greatest number -/

theorem exists_of_mem_literalNumbers (member : number ∈ literalNumbers entries var variableColumns) :
    ∃ column ∈ variableColumns, ∃ literal, number = literalNumber entries column literal := by
  induction variableColumns generalizing var with
  | nil => cases member
  | cons column rest inductionHypothesis =>
    rw [literalNumbers, List.mem_cons, List.mem_cons] at member
    rcases member with here | here | later
    · exact ⟨column, List.mem_cons_self, _, here⟩
    · exact ⟨column, List.mem_cons_self, _, here⟩
    · obtain ⟨other, inRest, literal, here⟩ := inductionHypothesis later
      exact ⟨other, List.mem_cons_of_mem _ inRest, literal, here⟩

theorem exists_of_mem_slackNumbers (member : number ∈ slackNumbers entries) :
    ∃ entry ∈ entries, number = entry.2 := by
  obtain ⟨entry, inEntries, repeated⟩ := List.mem_flatMap.1 member
  exact ⟨entry, inEntries, List.eq_of_mem_replicate repeated⟩

/-- A literal is in a clause at most as often as the clause is wide. -/
theorem literalNumber_le_targetFor (member : column ∈ variableColumns) (literal : Literal) :
    literalNumber entries column literal ≤ targetFor entries variableColumns := by
  rw [literalNumber, targetFor, total_eq_sum, total_eq_sum, total_eq_sum]
  apply Nat.add_le_add
  · exact List.le_sum_of_mem member
  · apply List.sum_le_sum
    intro entry inEntries
    have few : entry.1.count literal ≤ max entry.1.length 1 :=
      List.count_le_length.trans (Nat.le_max_left _ _)
    rw [Nat.mul_comm]
    exact Nat.mul_le_mul_left _ few

theorem slackNumber_le_targetFor {entry : Clause × Nat} (member : entry ∈ entries) :
    entry.2 ≤ targetFor entries variableColumns := by
  rw [targetFor, total_eq_sum, total_eq_sum]
  have atLeastOnce : entry.2 ≤ entry.2 * max entry.1.length 1 :=
    Nat.le_mul_of_pos_right _ (Nat.lt_of_lt_of_le Nat.one_pos (Nat.le_max_right _ _))
  have inTarget := List.le_sum_of_mem
    (List.mem_map_of_mem (f := fun entry : Clause × Nat => entry.2 * max entry.1.length 1) member)
  omega

/-- No number of an instance is greater than its target. -/
theorem number_le_target {number : Int}
    (member : number ∈ (instanceFor numVariables clauses weights).numbers) :
    number.natAbs ≤ (instanceFor numVariables clauses weights).target.natAbs := by
  obtain ⟨natural, inNumbers, rfl⟩ := List.mem_map.1 member
  show natural ≤ targetFor _ _
  rcases List.mem_append.1 inNumbers with ofLiteral | ofSlack
  · obtain ⟨column, inColumns, literal, rfl⟩ := exists_of_mem_literalNumbers ofLiteral
    exact literalNumber_le_targetFor inColumns literal
  · obtain ⟨entry, inEntries, rfl⟩ := exists_of_mem_slackNumbers ofSlack
    exact slackNumber_le_targetFor inEntries

theorem small_instanceFor_iff (numVariables : Nat) (clauses : List Clause) (weights : List Nat) :
    (instanceFor numVariables clauses weights).Small
      ↔ bitLength (instanceFor numVariables clauses weights).target.natAbs ≤ 4096 := by
  constructor
  · exact fun small => small.target
  · intro small
    refine ⟨fun number member => ?_, small⟩
    rw [bitLength_le_iff] at small ⊢
    exact (number_le_target member).trans_lt small

/-! ## Weights -/

/-- Weights are refused only for one of them that is too large. -/
theorem exists_of_weightsFrom?_eq_none (refused : weightsFrom? radix weight columns = none) :
    ∃ column < columns, ¬ bitLength (weight * radix ^ column) ≤ maxBits := by
  induction columns generalizing weight with
  | zero => cases refused
  | succ columns inductionHypothesis =>
    rw [weightsFrom?] at refused
    split at refused
    next tooLarge =>
      refine ⟨0, Nat.succ_pos _, ?_⟩
      rwa [pow_zero, Nat.mul_one, not_le]
    next small =>
      obtain ⟨column, inRange, tooLarge⟩ := inductionHypothesis (Option.map_eq_none_iff.1 refused)
      refine ⟨column + 1, Nat.succ_lt_succ inRange, ?_⟩
      rwa [Nat.pow_succ', ← Nat.mul_assoc]

/-- With a digit in every place, a number is at least the power of each place. -/
theorem pow_le_ofDigits {digits : List Nat} {place : Nat} (positive : ∀ digit ∈ digits, 1 ≤ digit)
    (inRange : place < digits.length) : radix ^ place ≤ Nat.ofDigits radix digits := by
  induction digits generalizing place with
  | nil => cases inRange
  | cons digit digits inductionHypothesis =>
    obtain ⟨positiveFirst, positiveRest⟩ := List.forall_mem_cons.1 positive
    rw [Nat.ofDigits_cons]
    cases place with
    | zero =>
      rw [pow_zero]
      exact positiveFirst.trans (Nat.le_add_right _ _)
    | succ place =>
      have later := inductionHypothesis positiveRest (Nat.lt_of_succ_lt_succ inRange)
      rw [Nat.pow_succ']
      exact (Nat.mul_le_mul_left radix later).trans (Nat.le_add_left _ _)

/-! ## The size of the target -/

/-- The target as its digits give it: in the radix for clauses of the widths, a one for each variable
    above the widths of the clauses, but a one for a width of zero. -/
def soughtTarget (numVariables : Nat) (widths : List Nat) : Nat :=
  Nat.ofDigits (max 10 (2 * widths.max?.getD 0))
    (List.replicate numVariables 1 ++ widths.map (max · 1)).reverse

theorem soughtTarget_map_length (numVariables : Nat) (clauses : List Clause) :
    soughtTarget numVariables (clauses.map List.length)
      = Nat.ofDigits (radixFor clauses) (askedCounts numVariables clauses).reverse := by
  rw [soughtTarget, radixFor, widest, List.foldl_max, Nat.zero_max, askedCounts, List.map_map]
  rfl

theorem one_le_of_mem_askedCounts {count : Nat} (member : count ∈ askedCounts numVariables clauses) :
    1 ≤ count := by
  rcases List.mem_append.1 member with ofVariable | ofClause
  · exact (List.eq_of_mem_replicate ofVariable).ge
  · obtain ⟨clause, _, rfl⟩ := List.mem_map.1 ofClause
    exact Nat.le_max_right _ _

/-- No weight is too large for a target that is small enough. -/
theorem weightsFrom?_ne_none
    (small : bitLength (soughtTarget numVariables (clauses.map List.length)) ≤ maxBits) :
    weightsFrom? (radixFor clauses) 1 (numVariables + clauses.length) ≠ none := by
  intro refused
  obtain ⟨column, inRange, tooLarge⟩ := exists_of_weightsFrom?_eq_none refused
  have weight_le : radixFor clauses ^ column
      ≤ soughtTarget numVariables (clauses.map List.length) := by
    rw [soughtTarget_map_length]
    apply pow_le_ofDigits
    · intro count member
      exact one_le_of_mem_askedCounts (List.mem_reverse.1 member)
    · rwa [List.length_reverse, length_askedCounts]
  rw [Nat.one_mul, bitLength_le_iff] at tooLarge
  rw [bitLength_le_iff] at small
  exact tooLarge (weight_le.trans_lt small)

/-- Clauses are encoded if the target is small enough, and refused as malformed if it is not. -/
theorem ends_ofClauses (within : ∀ clause ∈ clauses, clause.Within numVariables)
    (narrow : ∀ clause ∈ clauses, clause.length ≤ max 3 numVariables) :
    Ends (fun encoding => bitLength (soughtTarget numVariables (clauses.map List.length)) ≤ maxBits
        ∧ encoding.encoded.validate = .ok ())
      (fun fault => ¬ bitLength (soughtTarget numVariables (clauses.map List.length)) ≤ maxBits
        ∧ ∃ cause, fault = .malformed cause)
      (ofClauses numVariables clauses) := by
  cases found : weightsFrom? (radixFor clauses) 1 (numVariables + clauses.length) with
  | none =>
    rw [ofClauses_of_none found]
    exact ⟨fun small => weightsFrom?_ne_none small found, _, rfl⟩
  | some weights =>
    have built : Encoding.Built
        ⟨numVariables, clauses, instanceFor numVariables clauses weights.reverse⟩ :=
      ⟨within, weights, found, rfl⟩
    have target : (instanceFor numVariables clauses weights.reverse).target
        = Int.ofNat (soughtTarget numVariables (clauses.map List.length)) :=
      built.target_eq.trans (congrArg Int.ofNat (soughtTarget_map_length numVariables clauses).symm)
    have small_iff := small_instanceFor_iff numVariables clauses weights.reverse
    rw [target] at small_iff
    rw [ofClauses_of_some within found, Checked.add_eq_ok (positions_fit narrow (columns_le found)), ok_bind]
    rcases (instanceFor numVariables clauses weights.reverse).validate_cases with
      ⟨accepted, small⟩ | ⟨cause, refused, large⟩
    · rw [accepted, ok_bind]
      exact ⟨small_iff.1 small, accepted⟩
    · rw [refused, error_bind]
      exact ⟨mt small_iff.2 large, cause, rfl⟩

/-- How clauses of the widths are encoded: there is one limit, on the target. -/
structure EndsBySize (numVariables : Nat) (widths : List Nat) (result : Except Fault Encoding) :
    Prop where
  encoded_iff : (∃ encoding, result = .ok encoding) ↔ soughtTarget numVariables widths < 2 ^ 4096
  refused : ∀ fault, result = .error fault → ∃ cause, fault = .malformed cause
  target : ∀ encoding, result = .ok encoding →
    encoding.encoded.target = soughtTarget numVariables widths
  length_numbers : ∀ encoding, result = .ok encoding →
    encoding.encoded.numbers.length = 2 * numVariables + (widths.map (· - 1)).sum
  accepted : ∀ encoding, result = .ok encoding → encoding.encoded.validate = .ok ()

theorem endsBySize_ofClauses (within : ∀ clause ∈ clauses, clause.Within numVariables)
    (narrow : ∀ clause ∈ clauses, clause.length ≤ max 3 numVariables) :
    EndsBySize numVariables (clauses.map List.length) (ofClauses numVariables clauses) := by
  have small_iff : bitLength (soughtTarget numVariables (clauses.map List.length)) ≤ maxBits
      ↔ soughtTarget numVariables (clauses.map List.length) < 2 ^ 4096 := by
    rw [← Nat.one_shiftLeft]
    exact bitLength_le_iff
  have ends := ends_ofClauses within narrow
  constructor
  case encoded_iff =>
    rw [← small_iff]
    constructor
    · rintro ⟨encoding, made⟩
      rw [made] at ends
      exact ends.1
    · intro small
      cases made : ofClauses numVariables clauses with
      | ok encoding => exact ⟨encoding, rfl⟩
      | error fault =>
        rw [made] at ends
        exact absurd small ends.1
  case refused =>
    intro fault made
    rw [made] at ends
    exact ends.2
  case target =>
    intro encoding made
    obtain ⟨built, rfl, rfl⟩ := ofClauses_eq_ok within made
    rw [built.target_eq, soughtTarget_map_length]
    rfl
  case length_numbers =>
    intro encoding made
    obtain ⟨built, rfl, rfl⟩ := ofClauses_eq_ok within made
    rw [built.length_numbers, slackLength, List.map_map]
    rfl
  case accepted =>
    intro encoding made
    rw [made] at ends
    exact ends.2

end Encoding

/-! ## Encoded formulas -/

theorem ThreeFormula.narrow_toFormula (three : ThreeFormula) :
    ∀ clause ∈ three.toFormula.clauses, clause.length ≤ max 3 three.numVariables :=
  List.forall_mem_map.2 fun _ _ => Nat.le_max_left 3 _

theorem Formula.narrow_normalize {formula : Formula} (wellFormed : formula.WellFormed) :
    ∀ clause ∈ Clause.normalize formula.clauses, clause.length ≤ max 3 formula.numVariables := by
  intro clause normal
  have within := Clause.normalize_within wellFormed.within clause normal
  exact ((Clause.normalize_distinctVars clause normal).length_le within).trans (Nat.le_max_right 3 _)

/-- A formula is encoded exactly if its target is below the limit, whichever way it is encoded. -/
theorem encode_endsBySize :
    (∀ three : ThreeFormula, three.validate = .ok () →
      Encoding.EndsBySize three.numVariables
        (three.clauses.map fun clause => clause.toClause.length) three.encode)
    ∧ ∀ formula : Formula, formula.validate = .ok () →
      Encoding.EndsBySize formula.numVariables
        ((Clause.normalize formula.clauses).map List.length) formula.encode := by
  constructor
  · intro three accepted
    have wellFormed : three.toFormula.WellFormed := Formula.validate_eq_ok_iff.1 accepted
    have ends := Encoding.endsBySize_ofClauses wellFormed.within three.narrow_toFormula
    rw [ThreeFormula.toFormula, List.map_map] at ends
    rw [ThreeFormula.encode, accepted]
    exact ends
  · intro formula accepted
    have wellFormed : formula.WellFormed := Formula.validate_eq_ok_iff.1 accepted
    have within := Clause.normalize_within wellFormed.within
    rw [Formula.encode, accepted]
    exact Encoding.endsBySize_ofClauses within (Formula.narrow_normalize wellFormed)

/-- The most variables that have an encoding without clauses, and one more. A clause that repeats a
    variable is as wide as it is long. -/
theorem encode_endsBySize_at_the_limit :
    (∃ encoding, (Formula.mk 1233 []).encode = .ok encoding)
    ∧ (∃ cause, (Formula.mk 1234 []).encode = .error (.malformed cause))
    ∧ (Encoding.EndsBySize 1 [3] (ThreeFormula.mk 1 [⟨⟨1, true⟩, ⟨1, true⟩, ⟨1, false⟩⟩]).encode) := by
  refine ⟨?_, ?_, encode_endsBySize.1 ⟨1, [⟨⟨1, true⟩, ⟨1, true⟩, ⟨1, false⟩⟩]⟩ rfl⟩
  · have ends := encode_endsBySize.2 ⟨1233, []⟩ rfl
    exact ends.encoded_iff.2 (by decide +kernel)
  · have ends := encode_endsBySize.2 ⟨1234, []⟩ rfl
    cases made : (Formula.mk 1234 []).encode with
    | ok encoding => exact absurd (ends.encoded_iff.1 ⟨encoding, made⟩) (by decide +kernel)
    | error fault =>
      obtain ⟨cause, rfl⟩ := ends.refused fault made
      exact ⟨cause, rfl⟩

/-- A formula over three different variables a clause has one encoding, and one refusal. -/
theorem encode_toFormula (three : ThreeFormula)
    (distinct : ∀ clause ∈ three.clauses, clause.DistinctVars) :
    three.toFormula.encode = three.encode := by
  rw [Formula.encode, ThreeFormula.normalize_toFormula distinct, ThreeFormula.encode]
  rfl

/-- A formula that is encoded, and one that is refused for a variable that it does not declare. -/
theorem encode_toFormula_encoded_and_refused :
    (ThreeFormula.mk 3 [⟨⟨1, true⟩, ⟨2, false⟩, ⟨3, true⟩⟩]).toFormula.encode
        = .ok ⟨3, [[⟨1, true⟩, ⟨2, false⟩, ⟨3, true⟩]],
          ⟨[1001, 1000, 100, 101, 11, 10, 1, 1], 1113⟩⟩
    ∧ (ThreeFormula.mk 2 [⟨⟨1, true⟩, ⟨2, false⟩, ⟨3, true⟩⟩]).toFormula.encode
        = .error (.malformed (.variableOutside 1 3 2)) := by
  constructor
  · apply (encode_toFormula ⟨3, [⟨⟨1, true⟩, ⟨2, false⟩, ⟨3, true⟩⟩]⟩ _).trans rfl
    exact List.forall_mem_singleton.2 (ThreeClause.distinctVars_iff.2 (by decide))
  · apply (encode_toFormula ⟨2, [⟨⟨1, true⟩, ⟨2, false⟩, ⟨3, true⟩⟩]⟩ _).trans rfl
    exact List.forall_mem_singleton.2 (ThreeClause.distinctVars_iff.2 (by decide))

/-- A clause that repeats a variable is encoded as it is or left out. -/
example : (ThreeFormula.mk 1 [⟨⟨1, true⟩, ⟨1, true⟩, ⟨1, false⟩⟩]).encode
      = .ok ⟨1, [[⟨1, true⟩, ⟨1, true⟩, ⟨1, false⟩]], ⟨[12, 11, 1, 1], 13⟩⟩
    ∧ (ThreeFormula.mk 1 [⟨⟨1, true⟩, ⟨1, true⟩, ⟨1, false⟩⟩]).toFormula.encode
      = .ok ⟨1, [], ⟨[1, 1], 1⟩⟩ :=
  ⟨rfl, rfl⟩

end SatSum
