import SatSum.Proofs.Normalize
import SatSum.Proofs.Reduction.Witness

/-! # The encoding is faithful

Solutions of the instance and models of the formula correspond: a solution restores to a model, a model
has a witness that is a solution and restores to it, and from a solution one comes back to a witness that
selects the same numbers, though perhaps at other slack positions.

* `Built.isSolution_iff`: solutions are the balanced selections.
* `Built.faithful`: the correspondence for the encoded clauses.
* `encode_faithful`: the correspondence for the formulas that are encoded.
-/

namespace SatSum

open SubsetSum (Selection keptFrom)

/-- What an encoding owes its formula. -/
structure Encoding.Faithful (formula : Formula) (encoding : Encoding) : Prop where
  restores : ∀ selection, encoding.encoded.verify selection = .ok () →
    ∃ valuation, encoding.restore selection = .ok valuation ∧ formula.IsModel valuation
  witness_isSome_iff : ∀ valuation : Valuation, valuation.length = formula.numVariables →
    ((encoding.witness? valuation).isSome = true ↔ formula.satisfied valuation = true)
  witness_length : ∀ valuation : Valuation, valuation.length ≠ formula.numVariables →
    encoding.witness? valuation = none
  witness_accepted : ∀ valuation selection, encoding.witness? valuation = some selection →
    selection.Pairwise (· < ·) ∧ encoding.encoded.verify selection = .ok ()
      ∧ encoding.restore selection = .ok valuation
  same_numbers : ∀ selection, encoding.encoded.verify selection = .ok () →
    ∃ valuation witness, encoding.restore selection = .ok valuation
      ∧ encoding.witness? valuation = some witness
      ∧ (encoding.encoded.selected witness).Perm (encoding.encoded.selected selection)
  solvable_iff : (∃ selection, encoding.encoded.verify selection = .ok ())
    ↔ ∃ valuation, formula.IsModel valuation

namespace Encoding

variable {selects other : Nat → Bool} {position : Nat} {clauses : List Clause} {weights : List Nat}
  {valuation : Valuation} {selection : Selection} {encoding : Encoding}

/-! ## Solutions -/

/-- The instance has two numbers for each variable, and the slack. -/
theorem Built.exists_numbers (built : encoding.Built) :
    ∃ literals weights : List Nat, literals.length = 2 * encoding.numVariables
      ∧ weights.length = encoding.clauses.length
      ∧ encoding.encoded.numbers
        = (literals ++ slackNumbers (encoding.clauses.zip weights)).map Int.ofNat := by
  obtain ⟨weights, sameLength, made, _⟩ := built.exists_weights
  refine ⟨_, weights.drop encoding.numVariables, ?_, ?_, congrArg _ made⟩
  · rw [length_literalNumbers, List.length_take]
    omega
  · rw [List.length_drop]
    omega

theorem Built.length_numbers (built : encoding.Built) :
    encoding.encoded.numbers.length = 2 * encoding.numVariables + slackLength encoding.clauses := by
  obtain ⟨literals, weights, literalsLength, weightsLength, numbers⟩ := built.exists_numbers
  rw [numbers, List.length_map, List.length_append, literalsLength, length_slackNumbers weightsLength]

/-- Solutions are the balanced selections of different positions. -/
theorem Built.isSolution_iff (built : encoding.Built) (distinct : selection.Nodup)
    (inRange : ∀ position ∈ selection, position < encoding.encoded.numbers.length) :
    encoding.encoded.IsSolution selection
      ↔ Balanced selection.contains encoding.numVariables encoding.clauses := by
  rw [balanced_iff, ← built.sum_eq_target_iff, ← SubsetSum.sumOf_eq_sum_keptFrom distinct inRange]
  exact ⟨fun solution => solution.hits, fun hits => ⟨distinct, inRange, hits⟩⟩

theorem Built.balanced (built : encoding.Built) (solution : encoding.encoded.IsSolution selection) :
    Balanced selection.contains encoding.numVariables encoding.clauses :=
  (built.isSolution_iff solution.distinct solution.inRange).1 solution

/-! ## From a solution and back -/

/-- What balanced selections select of the slack depends on the literals alone. -/
theorem keptFrom_slackNumbers_congr
    (sameCounts : clauseCounts selects position clauses = clauseCounts other position clauses)
    (sameLiterals : ∀ clause ∈ clauses, literalCount selects clause = literalCount other clause)
    (weights : List Nat) :
    keptFrom selects position (slackNumbers (clauses.zip weights))
      = keptFrom other position (slackNumbers (clauses.zip weights)) := by
  induction clauses generalizing position weights with
  | nil => rfl
  | cons clause clauses inductionHypothesis =>
    cases weights with
    | nil => rfl
    | cons weight weights =>
      rw [clauseCounts_cons, clauseCounts_cons] at sameCounts
      obtain ⟨sameFirst, sameRest⟩ := List.cons.inj sameCounts
      obtain ⟨sameLiteralsFirst, sameLiteralsRest⟩ := List.forall_mem_cons.1 sameLiterals
      rw [sameLiteralsFirst] at sameFirst
      have later := inductionHypothesis sameRest sameLiteralsRest weights
      rw [List.zip_cons_cons, slackNumbers, List.flatMap_cons, SubsetSum.keptFrom_append,
        SubsetSum.keptFrom_append, SubsetSum.keptFrom_replicate, SubsetSum.keptFrom_replicate,
        Nat.add_left_cancel sameFirst, List.length_replicate]
      exact congrArg _ later

/-- Two solutions that read as one valuation select the same numbers. -/
theorem Built.keptFrom_congr (built : encoding.Built) (covers : valuation.length = encoding.numVariables)
    (balanced : Balanced selects encoding.numVariables encoding.clauses)
    (otherBalanced : Balanced other encoding.numVariables encoding.clauses)
    (reads : Reads selects valuation) (otherReads : Reads other valuation) :
    keptFrom selects 0 encoding.encoded.numbers = keptFrom other 0 encoding.encoded.numbers := by
  obtain ⟨literals, weights, literalsLength, _, numbers⟩ := built.exists_numbers
  have sameLiterals : keptFrom selects 0 literals = keptFrom other 0 literals := by
    apply SubsetSum.keptFrom_congr
    intro index _ below
    rw [Nat.zero_add, literalsLength, ← covers] at below
    obtain ⟨literal, positive, covered, rfl⟩ := exists_literalPosition below
    rw [reads literal positive covered, otherReads literal positive covered]
  have sameSlack : keptFrom selects (2 * encoding.numVariables)
        (slackNumbers (encoding.clauses.zip weights))
      = keptFrom other (2 * encoding.numVariables) (slackNumbers (encoding.clauses.zip weights)) := by
    apply keptFrom_slackNumbers_congr (balanced.filled.trans otherBalanced.filled.symm)
    intro clause member
    have within := covers ▸ built.within clause member
    rw [reads.literalCount_eq within, otherReads.literalCount_eq within]
  rw [numbers, SubsetSum.keptFrom_map, SubsetSum.keptFrom_map, SubsetSum.keptFrom_append,
    SubsetSum.keptFrom_append, Nat.zero_add, literalsLength, sameLiterals, sameSlack]

/-- The witness of a valuation that satisfies the clauses is a solution that reads as it. -/
theorem Built.isSolution_chosen (built : encoding.Built)
    (covers : valuation.length = encoding.numVariables)
    (allSatisfied : encoding.clauses.all (Clause.satisfied valuation) = true) :
    encoding.encoded.IsSolution (chosen valuation encoding.clauses) := by
  have ascending := pairwise_chosen allSatisfied
  rw [built.isSolution_iff (ascending.imp fun less => Nat.ne_of_lt less)]
  · have balanced := balanced_chosen (covers.symm ▸ built.within) allSatisfied
    rwa [covers] at balanced
  · intro position member
    rw [built.length_numbers, ← covers]
    exact mem_chosen_lt allSatisfied member

/-- A solution restores to a valuation that satisfies the clauses and that it reads as. -/
theorem Built.exists_restored (built : encoding.Built)
    (solution : encoding.encoded.IsSolution selection) :
    ∃ valuation : Valuation, valuation.length = encoding.numVariables
      ∧ Reads selection.contains valuation ∧ encoding.restore selection = .ok valuation
      ∧ encoding.clauses.all (Clause.satisfied valuation) = true := by
  have balanced := built.balanced solution
  obtain ⟨valuation, covers, reads⟩ := balanced.exists_reads
  exact ⟨valuation, covers, reads, restore_eq_ok covers solution.inRange reads,
    balanced.satisfied built.within covers reads⟩

/-- Two solutions that read as one valuation select the same numbers, up to order. -/
theorem Built.selected_perm (built : encoding.Built) {second : Selection}
    (covers : valuation.length = encoding.numVariables)
    (solution : encoding.encoded.IsSolution selection) (reads : Reads selection.contains valuation)
    (secondSolution : encoding.encoded.IsSolution second)
    (secondReads : Reads second.contains valuation) :
    (encoding.encoded.selected second).Perm (encoding.encoded.selected selection) := by
  -- They may use different slack of a clause, but as much of it, and its numbers are equal.
  have sameKept := built.keptFrom_congr covers (built.balanced secondSolution)
    (built.balanced solution) secondReads reads
  have fromFirst := SubsetSum.selected_perm_keptFrom solution.distinct solution.inRange
  have fromSecond := SubsetSum.selected_perm_keptFrom secondSolution.distinct secondSolution.inRange
  rw [sameKept] at fromSecond
  exact fromSecond.trans fromFirst.symm

/-- A formula with the models of the encoded clauses corresponds to the instance. -/
theorem Built.faithful (built : encoding.Built) {formula : Formula}
    (sameVariables : encoding.numVariables = formula.numVariables)
    (sameModels : ∀ valuation : Valuation, valuation.length = formula.numVariables →
      encoding.clauses.all (Clause.satisfied valuation) = formula.satisfied valuation) :
    encoding.Faithful formula where
  restores := by
    intro selection accepted
    obtain ⟨valuation, covers, _, restored, allSatisfied⟩ :=
      built.exists_restored (SubsetSum.Instance.verify_eq_ok_iff.1 accepted)
    rw [sameVariables] at covers
    exact ⟨valuation, restored, covers, sameModels valuation covers ▸ allSatisfied⟩
  witness_isSome_iff := by
    intro valuation covers
    rw [Option.isSome_iff_exists, ← sameModels valuation covers]
    simp only [witness?_eq_some_iff, covers, sameVariables, true_and, exists_and_left, exists_eq',
      and_true]
  witness_length := by
    intro valuation different
    rw [Option.eq_none_iff_forall_ne_some]
    intro selection found
    exact different ((witness?_eq_some_iff.1 found).1.trans sameVariables)
  witness_accepted := by
    intro valuation selection found
    obtain ⟨covers, allSatisfied, rfl⟩ := witness?_eq_some_iff.1 found
    have solution := built.isSolution_chosen covers allSatisfied
    exact ⟨pairwise_chosen allSatisfied, SubsetSum.Instance.verify_eq_ok_iff.2 solution,
      restore_eq_ok covers solution.inRange (reads_chosen allSatisfied)⟩
  same_numbers := by
    intro selection accepted
    have solution := SubsetSum.Instance.verify_eq_ok_iff.1 accepted
    obtain ⟨valuation, covers, reads, restored, allSatisfied⟩ := built.exists_restored solution
    have chosenSolution := built.isSolution_chosen covers allSatisfied
    exact ⟨valuation, chosen valuation encoding.clauses, restored,
      witness?_eq_some_iff.2 ⟨covers, allSatisfied, rfl⟩,
      built.selected_perm covers solution reads chosenSolution (reads_chosen allSatisfied)⟩
  solvable_iff := by
    constructor
    · rintro ⟨selection, accepted⟩
      obtain ⟨valuation, covers, _, _, allSatisfied⟩ :=
        built.exists_restored (SubsetSum.Instance.verify_eq_ok_iff.1 accepted)
      rw [sameVariables] at covers
      exact ⟨valuation, covers, sameModels valuation covers ▸ allSatisfied⟩
    · rintro ⟨valuation, covers, satisfies⟩
      rw [← sameModels valuation covers] at satisfies
      exact ⟨_, SubsetSum.Instance.verify_eq_ok_iff.2
        (built.isSolution_chosen (covers.trans sameVariables.symm) satisfies)⟩

theorem faithful_ofClauses {formula : Formula}
    (within : ∀ clause ∈ clauses, clause.Within formula.numVariables)
    (made : ofClauses formula.numVariables clauses = .ok encoding)
    (sameModels : ∀ valuation : Valuation, valuation.length = formula.numVariables →
      clauses.all (Clause.satisfied valuation) = formula.satisfied valuation) :
    encoding.Faithful formula := by
  obtain ⟨built, sameVariables, sameClauses⟩ := ofClauses_eq_ok within made
  exact built.faithful sameVariables (sameClauses.symm ▸ sameModels)

end Encoding

/-! ## Encoded formulas -/

/-- Whatever is encoded, a three-literal formula or one with clauses of any width, the instance
    corresponds to the formula. -/
theorem encode_faithful :
    (∀ (three : ThreeFormula) (encoding : Encoding), three.encode = .ok encoding →
      encoding.Faithful three.toFormula)
    ∧ ∀ (formula : Formula) (encoding : Encoding), formula.encode = .ok encoding →
      encoding.Faithful formula := by
  constructor
  · intro three encoding encoded
    cases accepted : three.validate with
    | error fault =>
      rw [ThreeFormula.encode, accepted] at encoded
      cases encoded
    | ok =>
      rw [ThreeFormula.encode, accepted] at encoded
      have wellFormed : three.toFormula.WellFormed := Formula.validate_eq_ok_iff.1 accepted
      exact Encoding.faithful_ofClauses wellFormed.within encoded fun _ _ => rfl
  · intro formula encoding encoded
    cases accepted : formula.validate with
    | error fault =>
      rw [Formula.encode, accepted] at encoded
      cases encoded
    | ok =>
      rw [Formula.encode, accepted] at encoded
      have wellFormed := Formula.validate_eq_ok_iff.1 accepted
      apply Encoding.faithful_ofClauses (Clause.normalize_within wellFormed.within) encoded
      intro valuation covers
      exact Clause.all_satisfied_normalize (covers.symm ▸ wellFormed.within)

/-- A clause that repeats a literal, and an empty one next to one that is always true. -/
theorem encode_faithful_repeated_and_empty :
    (Encoding.mk 1 [[⟨1, true⟩, ⟨1, true⟩, ⟨1, true⟩]] ⟨[13, 10, 1, 1], 13⟩).Faithful
        ⟨1, [[⟨1, true⟩, ⟨1, true⟩, ⟨1, true⟩]]⟩
      ∧ (Encoding.mk 1 [[]] ⟨[10, 10], 11⟩).Faithful ⟨1, [[], [⟨1, true⟩, ⟨1, false⟩]]⟩ := by
  constructor
  · exact encode_faithful.1 ⟨1, [⟨⟨1, true⟩, ⟨1, true⟩, ⟨1, true⟩⟩]⟩ _ rfl
  · exact encode_faithful.2 ⟨1, [[], [⟨1, true⟩, ⟨1, false⟩]]⟩ _ rfl

end SatSum
