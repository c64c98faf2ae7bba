import SatSum.Proofs.SubsetSum.Selections

/-! # Verdicts on lists of positions

Verification goes through the positions in order and stops at the first one without an element or that
has come before: the last of the shortest beginning that cannot be part of a solution. Elements are added
up only after that, and by then each position has one, so no position is passed over in the sum.

* `Judged`: the verdict that a list of positions deserves, said without going through it.
* `Judged.verify_eq`, `exists_judged`: verification gives that verdict, and there always is one.
* `verify_judges`: both together, and acceptance does not depend on the order.
-/

namespace SatSum.SubsetSum

variable {problem : Instance} {before rest selection : Selection} {index length : Nat} {seen : List Nat}
  {elements : List Int} {verdict : Verdict}

/-! ## Positions without a defect -/

/-- Different positions that have elements. -/
structure Instance.Usable (problem : Instance) (selection : Selection) : Prop where
  distinct : selection.Nodup
  inRange : ∀ position ∈ selection, position < problem.numbers.length

theorem Instance.Usable.concat (usable : problem.Usable before) (inside : index < problem.numbers.length)
    (new : index ∉ before) : problem.Usable (before ++ [index]) where
  distinct := by
    rw [← List.concat_eq_append]
    exact usable.distinct.concat new
  inRange := by
    rw [List.forall_mem_append, List.forall_mem_singleton]
    exact ⟨usable.inRange, inside⟩

/-- Either there is no defect, or there is a first one: a position that has no element or has come before,
    after positions without a defect. -/
theorem Instance.usable_or_defect (problem : Instance) (selection : Selection) :
    problem.Usable selection
      ∨ ∃ before index after, selection = before ++ index :: after ∧ problem.Usable before
        ∧ (problem.numbers.length ≤ index ∨ index ∈ before) := by
  induction selection using List.reverseRecOn with
  | nil => exact Or.inl ⟨List.nodup_nil, fun _ member => nomatch member⟩
  | append_singleton earlier last inductionHypothesis =>
    rcases inductionHypothesis with usable | ⟨before, index, after, rfl, usable, defect⟩
    · by_cases defect : problem.numbers.length ≤ last ∨ last ∈ earlier
      · exact Or.inr ⟨earlier, last, [], rfl, usable, defect⟩
      · rw [not_or, not_le] at defect
        exact Or.inl (usable.concat defect.1 defect.2)
    · exact Or.inr ⟨before, index, after ++ [last], by simp, usable, defect⟩

/-- Positions without a defect are passed, and then count as seen. -/
theorem verifyPositions_append (distinct : before.Nodup) (inRange : ∀ position ∈ before, position < length)
    (new : ∀ position ∈ before, position ∉ seen) :
    verifyPositions length seen (before ++ rest)
      = verifyPositions length (before.reverse ++ seen) rest := by
  induction before generalizing seen with
  | nil => rfl
  | cons index before inductionHypothesis =>
    obtain ⟨notLater, distinctLater⟩ := List.nodup_cons.1 distinct
    obtain ⟨inside, inRangeLater⟩ := List.forall_mem_cons.1 inRange
    obtain ⟨newFirst, newLater⟩ := List.forall_mem_cons.1 new
    have newAfter : ∀ position ∈ before, position ∉ index :: seen := by
      intro position member
      rw [List.mem_cons, not_or]
      exact ⟨ne_of_mem_of_not_mem member notLater, newLater position member⟩
    have passed : seen.contains index = false := by simpa using newFirst
    rw [List.cons_append, verifyPositions, if_neg (Nat.not_le.2 inside), passed, if_neg Bool.false_ne_true,
      inductionHypothesis distinctLater inRangeLater newAfter]
    simp

theorem Instance.Usable.verifyPositions_append (usable : problem.Usable before) (rest : Selection) :
    verifyPositions problem.numbers.length [] (before ++ rest)
      = verifyPositions problem.numbers.length before.reverse rest := by
  rw [SubsetSum.verifyPositions_append usable.distinct usable.inRange fun _ _ => List.not_mem_nil,
    List.append_nil]

/-! ## Their elements -/

/-- The elements at the positions, one for each of them. -/
def Instance.ElementsAt (problem : Instance) (selection : Selection) (elements : List Int) : Prop :=
  List.Forall₂ (fun position element => problem.numbers[position]? = some element) selection elements

theorem Instance.ElementsAt.sumOf_eq (elementsAt : problem.ElementsAt selection elements) :
    problem.sumOf selection = elements.sum := by
  have selected : problem.selected selection = elements := by
    rw [selected]
    induction elementsAt with
    | nil => rfl
    | cons found _ inductionHypothesis => rw [List.filterMap_cons, found, inductionHypothesis]
  rw [sumOf, selected, total_eq_sum]

theorem Instance.Usable.exists_elementsAt (usable : problem.Usable selection) :
    ∃ elements, problem.ElementsAt selection elements := by
  refine ⟨selection.map fun position => problem.numbers.getD position 0, ?_⟩
  rw [ElementsAt, List.forall₂_map_right_iff, List.forall₂_same]
  intro position member
  have inside := usable.inRange position member
  simp [inside]

theorem Instance.Usable.verify_eq (usable : problem.Usable selection)
    (elementsAt : problem.ElementsAt selection elements) :
    problem.verify selection
      = if elements.sum ≠ problem.target then .error (.wrongSum elements.sum problem.target)
        else .ok () := by
  have passed := usable.verifyPositions_append []
  rw [List.append_nil] at passed
  rw [verify, passed, elementsAt.sumOf_eq]
  rfl

/-! ## Verdicts -/

/-- The verdict that a list of positions deserves. A defect is that of the first position after which the
    list is no longer usable; a wrong sum is found only in a list without a defect. -/
inductive Judged (problem : Instance) (selection : Selection) : Verdict → Prop
  | accepted (elements : List Int) (usable : problem.Usable selection)
      (elementsAt : problem.ElementsAt selection elements) (hits : elements.sum = problem.target) :
      Judged problem selection (.ok ())
  | outOfRange (before : Selection) (index : Nat) (after : Selection)
      (split : selection = before ++ index :: after) (usable : problem.Usable before)
      (outside : problem.numbers.length ≤ index) :
      Judged problem selection (.error (.indexOutOfRange index problem.numbers.length))
  | repeated (before : Selection) (index : Nat) (after : Selection)
      (split : selection = before ++ index :: after) (usable : problem.Usable before)
      (again : index ∈ before) :
      Judged problem selection (.error (.repeatedIndex index))
  | wrongSum (elements : List Int) (usable : problem.Usable selection)
      (elementsAt : problem.ElementsAt selection elements) (misses : elements.sum ≠ problem.target) :
      Judged problem selection (.error (.wrongSum elements.sum problem.target))

theorem Judged.verify_eq (judged : Judged problem selection verdict) :
    problem.verify selection = verdict := by
  cases judged with
  | accepted elements usable elementsAt hits => rw [usable.verify_eq elementsAt, if_neg (not_not.2 hits)]
  | wrongSum elements usable elementsAt misses => rw [usable.verify_eq elementsAt, if_pos misses]
  | outOfRange before index after split usable outside =>
    rw [Instance.verify, split, usable.verifyPositions_append, verifyPositions, if_pos outside]
    rfl
  | repeated before index after split usable again =>
    have inside := usable.inRange index again
    have found : before.reverse.contains index = true := by simpa using again
    rw [Instance.verify, split, usable.verifyPositions_append, verifyPositions,
      if_neg (Nat.not_le.2 inside), if_pos found]
    rfl

theorem exists_judged (problem : Instance) (selection : Selection) :
    ∃ verdict, Judged problem selection verdict := by
  rcases problem.usable_or_defect selection with usable | ⟨before, index, after, split, usable, defect⟩
  · obtain ⟨elements, elementsAt⟩ := usable.exists_elementsAt
    by_cases hits : elements.sum = problem.target
    · exact ⟨_, .accepted elements usable elementsAt hits⟩
    · exact ⟨_, .wrongSum elements usable elementsAt hits⟩
  · rcases defect with outside | again
    · exact ⟨_, .outOfRange before index after split usable outside⟩
    · exact ⟨_, .repeated before index after split usable again⟩

theorem Instance.IsSolution.perm {other : Selection} (solution : problem.IsSolution selection)
    (samePositions : selection.Perm other) : problem.IsSolution other where
  distinct := samePositions.nodup_iff.1 solution.distinct
  inRange := fun position member => solution.inRange position (samePositions.mem_iff.2 member)
  hits := by rw [← sumOf_perm samePositions, solution.hits]

/-- Verification gives every list of positions the verdict it deserves and no other. In any order, the
    same positions are accepted. -/
theorem verify_judges (problem : Instance) (selection : Selection) :
    (∀ verdict, problem.verify selection = verdict ↔ Judged problem selection verdict)
      ∧ ∀ other, selection.Perm other →
        (problem.verify selection = .ok () ↔ problem.verify other = .ok ()) := by
  constructor
  · intro verdict
    constructor
    · rintro rfl
      obtain ⟨verdict, judged⟩ := exists_judged problem selection
      rwa [judged.verify_eq]
    · exact Judged.verify_eq
  · intro other samePositions
    rw [Instance.verify_eq_ok_iff, Instance.verify_eq_ok_iff]
    exact ⟨fun solution => solution.perm samePositions, fun solution => solution.perm samePositions.symm⟩

/-- Two orders of the same positions, and a repeated position before one that is out of range. -/
theorem verify_judges_orders_and_first_defect :
    [2, 0, 1].Perm [1, 2, 0]
      ∧ (Instance.verify ⟨[3, -2, 3], 4⟩ [2, 0, 1] = .ok ()
        ↔ Instance.verify ⟨[3, -2, 3], 4⟩ [1, 2, 0] = .ok ())
      ∧ Judged ⟨[3, -2, 3], 4⟩ [2, 0, 2, 3] (.error (.repeatedIndex 2)) := by
  have samePositions : [2, 0, 1].Perm [1, 2, 0] := by decide
  exact ⟨samePositions, (verify_judges ⟨[3, -2, 3], 4⟩ [2, 0, 1]).2 _ samePositions,
    ((verify_judges ⟨[3, -2, 3], 4⟩ [2, 0, 2, 3]).1 _).1 rfl⟩

end SatSum.SubsetSum
