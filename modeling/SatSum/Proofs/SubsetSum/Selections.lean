import SatSum.Verify
import Mathlib.Algebra.BigOperators.Group.List.Basic
import Mathlib.Algebra.Order.Ring.Int
import Mathlib.Data.List.Nodup
import Mathlib.Data.List.Range

/-! # Solutions of instances

Verification accepts the selections of different positions whose elements hit the target. The order of
the positions does not matter: what is selected is, up to order, what remains of the elements if those
at other positions are left out.

* `verify_eq_ok_iff`: verification accepts exactly the solutions.
* `selected_perm_keptFrom`: the elements selected, in the order of the instance.
-/

namespace SatSum.SubsetSum

/-! ## Verification -/

/-- Different positions of the instance whose elements add up to the target. -/
structure Instance.IsSolution (problem : Instance) (selection : Selection) : Prop where
  distinct : selection.Nodup
  inRange : ∀ position ∈ selection, position < problem.numbers.length
  hits : problem.sumOf selection = problem.target

theorem verifyPositions_eq_ok_iff {length : Nat} {seen : List Nat} {selection : Selection} :
    verifyPositions length seen selection = .ok ()
      ↔ selection.Nodup ∧ (∀ position ∈ selection, position < length)
        ∧ ∀ position ∈ selection, position ∉ seen := by
  induction selection generalizing seen with
  | nil => simp [verifyPositions]
  | cons index rest inductionHypothesis =>
    rw [verifyPositions]
    by_cases outside : length ≤ index
    · rw [if_pos outside]
      constructor
      · intro accepted
        cases accepted
      · rintro ⟨_, inRange, _⟩
        exact absurd (inRange index List.mem_cons_self) (Nat.not_lt.2 outside)
    · by_cases repeated : seen.contains index = true
      · rw [if_neg outside, if_pos repeated]
        constructor
        · intro accepted
          cases accepted
        · rintro ⟨_, _, fresh⟩
          exact absurd (List.contains_iff_mem.1 repeated) (fresh index List.mem_cons_self)
      · rw [if_neg outside, if_neg repeated, inductionHypothesis]
        rw [List.contains_iff_mem] at repeated
        rw [List.nodup_cons, List.forall_mem_cons, List.forall_mem_cons]
        constructor
        · rintro ⟨distinct, inRange, fresh⟩
          refine ⟨⟨?_, distinct⟩, ⟨Nat.not_le.1 outside, inRange⟩, repeated, ?_⟩
          · exact fun member => fresh index member List.mem_cons_self
          · exact fun position member seen => fresh position member (List.mem_cons_of_mem _ seen)
        · rintro ⟨⟨notLater, distinct⟩, ⟨_, inRange⟩, _, fresh⟩
          refine ⟨distinct, inRange, fun position member => ?_⟩
          rw [List.mem_cons, not_or]
          refine ⟨?_, fresh position member⟩
          rintro rfl
          exact notLater member

theorem Instance.verify_eq_ok_iff {problem : Instance} {selection : Selection} :
    problem.verify selection = .ok () ↔ problem.IsSolution selection := by
  have positions : verifyPositions problem.numbers.length [] selection = .ok () ↔ _ :=
    verifyPositions_eq_ok_iff
  simp only [List.not_mem_nil, not_false_eq_true, implies_true, and_true] at positions
  unfold verify
  cases checked : verifyPositions problem.numbers.length [] selection with
  | error rejection =>
    constructor
    · intro accepted
      cases accepted
    · intro solution
      rw [positions.2 ⟨solution.distinct, solution.inRange⟩] at checked
      cases checked
  | ok =>
    obtain ⟨distinct, inRange⟩ := positions.1 checked
    by_cases hits : problem.sumOf selection = problem.target
    · simp only [bind, Except.bind, hits, ne_eq, not_true_eq_false, if_false, true_iff]
      exact ⟨distinct, inRange, hits⟩
    · simp only [bind, Except.bind, ne_eq, hits, not_false_eq_true, if_true]
      constructor
      · intro accepted
        cases accepted
      · intro solution
        exact absurd solution.hits hits

theorem Instance.sumOf_perm {problem : Instance} {first second : Selection}
    (samePositions : first.Perm second) : problem.sumOf first = problem.sumOf second :=
  (samePositions.filterMap _).sum_eq

/-! ## Selected elements in order -/

variable {α β : Type} {selects : Nat → Bool} {position : Nat}

/-- The elements at the selected positions, the first being at `position`. -/
def keptFrom (selects : Nat → Bool) (position : Nat) : List α → List α
  | [] => []
  | element :: rest =>
    if selects position then element :: keptFrom selects (position + 1) rest
    else keptFrom selects (position + 1) rest

theorem keptFrom_append (first second : List α) :
    keptFrom selects position (first ++ second)
      = keptFrom selects position first ++ keptFrom selects (position + first.length) second := by
  induction first generalizing position with
  | nil => rfl
  | cons element rest inductionHypothesis =>
    have sameEnd : position + (rest.length + 1) = position + 1 + rest.length := by omega
    simp only [List.cons_append, keptFrom, inductionHypothesis, List.length_cons, sameEnd]
    split <;> rfl

theorem keptFrom_sublist (elements : List α) : (keptFrom selects position elements).Sublist elements := by
  induction elements generalizing position with
  | nil => exact .slnil
  | cons element rest inductionHypothesis =>
    rw [keptFrom]
    split
    next selected => exact inductionHypothesis.cons_cons element
    next omitted => exact inductionHypothesis.cons element

theorem keptFrom_map (convert : α → β) (elements : List α) :
    keptFrom selects position (elements.map convert) = (keptFrom selects position elements).map convert := by
  induction elements generalizing position with
  | nil => rfl
  | cons element rest inductionHypothesis =>
    simp only [List.map_cons, keptFrom, inductionHypothesis]
    split <;> rfl

theorem keptFrom_replicate (element : α) (length : Nat) :
    keptFrom selects position (List.replicate length element)
      = List.replicate ((List.range' position length).countP selects) element := by
  induction length generalizing position with
  | zero => rfl
  | succ length inductionHypothesis =>
    simp only [List.replicate_succ, keptFrom, inductionHypothesis, List.range'_succ, List.countP_cons]
    split
    next selected => rfl
    next omitted => rfl

theorem keptFrom_congr {other : Nat → Bool} {elements : List α}
    (agree : ∀ index, position ≤ index → index < position + elements.length →
      selects index = other index) :
    keptFrom selects position elements = keptFrom other position elements := by
  induction elements generalizing position with
  | nil => rfl
  | cons element rest inductionHypothesis =>
    rw [List.length_cons] at agree
    have agreeRest : keptFrom selects (position + 1) rest = keptFrom other (position + 1) rest :=
      inductionHypothesis fun index after before => agree index (by omega) (by omega)
    rw [keptFrom, keptFrom, agree position (Nat.le_refl _) (by omega), agreeRest]

theorem filterMap_filter_range' (elements : List α) :
    ((List.range' position elements.length).filter selects).filterMap
        (fun index => elements[index - position]?) = keptFrom selects position elements := by
  induction elements generalizing position with
  | nil => rfl
  | cons element rest inductionHypothesis =>
    have later : ((List.range' (position + 1) rest.length).filter selects).filterMap
        (fun index => (element :: rest)[index - position]?)
        = keptFrom selects (position + 1) rest := by
      rw [← inductionHypothesis]
      apply List.filterMap_congr
      intro index member
      have inRange := (List.mem_range'_1.1 (List.mem_filter.1 member).1).1
      have oneMore : index - position = index - (position + 1) + 1 := by omega
      rw [oneMore, List.getElem?_cons_succ]
    rw [List.length_cons, List.range'_succ, keptFrom]
    by_cases selected : selects position = true
    · rw [List.filter_cons_of_pos selected, List.filterMap_cons, later, if_pos selected]
      simp
    · rw [List.filter_cons_of_neg selected, later, if_neg selected]

/-- What different positions select is what is left if the others are taken out. -/
theorem selected_perm_keptFrom {problem : Instance} {selection : Selection}
    (distinct : selection.Nodup) (inRange : ∀ position ∈ selection, position < problem.numbers.length) :
    (problem.selected selection).Perm (keptFrom selection.contains 0 problem.numbers) := by
  rw [← filterMap_filter_range']
  -- Both sides look up the same positions, each of them once.
  apply List.Perm.filterMap
  rw [List.perm_ext_iff_of_nodup distinct ((List.nodup_range' ..).filter _)]
  intro index
  rw [List.mem_filter, List.mem_range'_1, List.contains_iff_mem]
  constructor
  · intro member
    have below := inRange index member
    exact ⟨⟨Nat.zero_le _, by omega⟩, member⟩
  · intro member
    exact member.2

theorem sumOf_eq_sum_keptFrom {problem : Instance} {selection : Selection}
    (distinct : selection.Nodup) (inRange : ∀ position ∈ selection, position < problem.numbers.length) :
    problem.sumOf selection = (keptFrom selection.contains 0 problem.numbers).sum :=
  (selected_perm_keptFrom distinct inRange).sum_eq

end SatSum.SubsetSum
