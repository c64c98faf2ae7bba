import Mathlib.Algebra.Order.Ring.Int
import SatSum.SubsetSum.Instance

/-! # What validation accepts

An instance is accepted exactly if its numbers are small, and refused as malformed otherwise.

* `validate_cases`: both at once.
-/

namespace SatSum.SubsetSum.Instance

/-- Neither an element nor the target has more than 4096 bits. -/
structure Small (problem : Instance) : Prop where
  numbers : ∀ number ∈ problem.numbers, bitLength number.natAbs ≤ 4096
  target : bitLength problem.target.natAbs ≤ 4096

theorem exceedsMaxBits_iff {number : Int} :
    exceedsMaxBits number = true ↔ ¬ bitLength number.natAbs ≤ 4096 := by
  rw [exceedsMaxBits, maxBits, decide_eq_true_iff, not_le]

theorem validate_cases (problem : Instance) :
    problem.validate = .ok () ∧ problem.Small
      ∨ ∃ cause, problem.validate = .error (.malformed cause) ∧ ¬ problem.Small := by
  unfold validate
  split
  next number position found =>
    refine Or.inr ⟨_, rfl, fun small => ?_⟩
    have tooLarge : exceedsMaxBits number = true :=
      List.find?_some (p := fun entry : Int × Nat => exceedsMaxBits entry.1) found
    have member := List.fst_mem_of_mem_zipIdx (List.mem_of_find?_eq_some found)
    exact exceedsMaxBits_iff.1 tooLarge (small.numbers number member)
  next noneFound =>
    have numbers : ∀ number ∈ problem.numbers, bitLength number.natAbs ≤ 4096 := by
      intro number member
      obtain ⟨position, found⟩ := List.mem_iff_getElem?.1 member
      have notTooLarge : ¬ exceedsMaxBits number = true :=
        List.find?_eq_none.1 noneFound _ (List.mk_mem_zipIdx_iff_getElem?.2 found)
      exact not_not.1 (mt exceedsMaxBits_iff.2 notTooLarge)
    split
    next tooLarge => exact Or.inr ⟨_, rfl, fun small => exceedsMaxBits_iff.1 tooLarge small.target⟩
    next notTooLarge => exact Or.inl ⟨rfl, numbers, not_not.1 (mt exceedsMaxBits_iff.2 notTooLarge)⟩

theorem small_of_validate {problem : Instance} (accepted : problem.validate = .ok ()) :
    problem.Small := by
  rcases problem.validate_cases with ⟨_, small⟩ | ⟨cause, refused, _⟩
  · exact small
  · rw [accepted] at refused
    cases refused

end SatSum.SubsetSum.Instance
