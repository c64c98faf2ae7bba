import SatSum.Proofs.Sat.Backtracking
import SatSum.Proofs.Sat.BruteForce
import SatSum.Sat.Solve

/-! # The prefixes that backtracking visits

Which prefixes the search comes to is told without the search: no prefix before them falsifies a clause,
and they are not after the prefix, as long, of the model that the search ends with. For each candidate
of enumeration there is at most one prefix of each length that is not visited for an earlier one, and
enumeration pays for one more variable than there are, so backtracking always counts less.

* `mem_visited_iff`: the prefixes visited.
* `length_visited_le`: how many there are, by the candidates of enumeration.
* `backtracking_visits`: backtracking compared with enumeration.
-/

namespace SatSum.Sat

open Clause (NoneFalsified)

variable {clauses : List Clause} {initial visit : Valuation} {value : Bool} {more : List Bool}
  {free : Nat}

/-! ## Which prefixes -/

theorem prefix_of_mem_visited (member : visit ∈ visited clauses initial free) : initial <+: visit := by
  induction free generalizing initial with
  | zero => rw [List.mem_singleton.1 member]
  | succ free inductionHypothesis =>
    have deeper (value : Bool) (isDeeper : visit ∈ visited clauses (initial ++ [value]) free) :
        initial <+: visit :=
      (List.prefix_append initial [value]).trans (inductionHypothesis isDeeper)
    rw [visited, List.mem_cons] at member
    rcases member with rfl | later
    · exact List.prefix_refl _
    · split at later
      next someFalse => cases later
      next noneFalse =>
        rcases List.mem_append.1 later with afterFalse | afterTrue
        · exact deeper false afterFalse
        · split at afterTrue
          next found => cases afterTrue
          next notFound => exact deeper true afterTrue

/-- Values that go on differently are not visited. -/
theorem not_mem_visited {other : Bool} (differ : value ≠ other) :
    initial ++ value :: more ∉ visited clauses (initial ++ [other]) free := by
  intro member
  have begins := prefix_of_mem_visited member
  rw [List.prefix_append_right_inj, List.cons_prefix_cons] at begins
  exact differ begins.1.symm

theorem append_cons_mem_visited_iff :
    initial ++ value :: more ∈ visited clauses initial (free + 1)
      ↔ NoneFalsified clauses initial
        ∧ initial ++ [value] ++ more ∈ visited clauses (initial ++ [value]) free
        ∧ (value = true → leastCompletion? (allSatisfied clauses) (initial ++ [false]) free = none) := by
  have longer : initial ++ value :: more ≠ initial := by simp
  rw [visited, List.mem_cons, or_iff_right longer, ← any_falsified_eq_false_iff, List.append_assoc,
    List.singleton_append]
  cases clauses.any (Clause.falsified initial) with
  | true => simp
  | false =>
    rw [if_neg Bool.false_ne_true, List.mem_append]
    cases leastCompletion? (allSatisfied clauses) (initial ++ [false]) free <;> cases value <;>
      simp [not_mem_visited]

theorem take_append_cons {other : Bool} {rest : List Bool} :
    (initial ++ other :: rest).take (initial ++ value :: more).length
      = initial ++ other :: rest.take more.length := by
  rw [List.length_append, List.length_cons, List.take_length_add_append, List.take_succ_cons]

theorem append_false_lt {rest : List Bool} : initial ++ false :: more < initial ++ true :: rest :=
  List.append_left_lt (List.Lex.rel (by decide))

/-- Not being after the least completion is told by the next value: with `false` it only matters what
    the completion with `false` is, and with `true` there must be none. -/
theorem forall_leastCompletion?_succ {accepts : Valuation → Bool} :
    (∀ valuation, leastCompletion? accepts initial (free + 1) = some valuation →
        initial ++ value :: more ≤ valuation.take (initial ++ value :: more).length)
      ↔ (∀ valuation, leastCompletion? accepts (initial ++ [value]) free = some valuation →
          initial ++ value :: more ≤ valuation.take (initial ++ value :: more).length)
        ∧ (value = true → leastCompletion? accepts (initial ++ [false]) free = none) := by
  rw [leastCompletion?]
  cases foundFalse : leastCompletion? accepts (initial ++ [false]) free with
  | none =>
    cases value with
    | true => simp
    | false =>
      simp only [Option.none_or, foundFalse, reduceCtorEq, false_implies, implies_true, true_and, iff_true]
      intro valuation foundTrue
      obtain ⟨⟨rest, _, rfl⟩, _⟩ := leastCompletion?_eq_some foundTrue
      rw [List.append_assoc, List.singleton_append, take_append_cons]
      exact le_of_lt append_false_lt
  | some first =>
    cases value with
    | false => simp [foundFalse]
    | true =>
      obtain ⟨⟨rest, _, rfl⟩, _⟩ := leastCompletion?_eq_some foundFalse
      refine iff_of_false (fun notAfter => ?_) fun noneFalse => Option.some_ne_none _ (noneFalse.2 rfl)
      have le := notAfter _ (Option.some_or)
      rw [List.append_assoc, List.singleton_append, take_append_cons] at le
      exact not_lt.2 le append_false_lt

/-- Values that the search chooses after `initial`: none of them follows a clause that is false, and
    they are not after the values of the least completion. -/
structure IsVisit (clauses : List Clause) (initial : Valuation) (free : Nat) (more : List Bool) :
    Prop where
  length_le : more.length ≤ free
  noneFalsified : ∀ earlier, earlier <+: more → earlier ≠ more →
    NoneFalsified clauses (initial ++ earlier)
  notAfter : ∀ valuation, leastCompletion? (allSatisfied clauses) initial free = some valuation →
    initial ++ more ≤ valuation.take (initial ++ more).length

theorem isVisit_nil : IsVisit clauses initial free [] where
  length_le := Nat.zero_le _
  noneFalsified := fun _ begins differ => absurd (List.prefix_nil.1 begins) differ
  notAfter := by
    intro valuation found
    obtain ⟨⟨rest, _, rfl⟩, _⟩ := leastCompletion?_eq_some found
    rw [List.append_nil, List.take_left]

theorem isVisit_cons_iff : IsVisit clauses initial (free + 1) (value :: more)
    ↔ NoneFalsified clauses initial ∧ IsVisit clauses (initial ++ [value]) free more
      ∧ (value = true → leastCompletion? (allSatisfied clauses) (initial ++ [false]) free = none) := by
  constructor
  · rintro ⟨length_le, noneFalsified, notAfter⟩
    rw [forall_prefix_cons, List.append_nil] at noneFalsified
    rw [forall_leastCompletion?_succ] at notAfter
    refine ⟨noneFalsified.1, ⟨Nat.le_of_succ_le_succ length_le, ?_, ?_⟩, notAfter.2⟩
    · simpa using noneFalsified.2
    · simpa using notAfter.1
  · rintro ⟨noneFalse, ⟨length_le, noneFalsified, notAfter⟩, noneBefore⟩
    simp only [List.append_assoc, List.singleton_append] at noneFalsified notAfter
    refine ⟨Nat.succ_le_succ length_le, ?_, ?_⟩
    · rw [forall_prefix_cons, List.append_nil]
      exact ⟨noneFalse, noneFalsified⟩
    · rw [forall_leastCompletion?_succ]
      exact ⟨notAfter, noneBefore⟩

theorem mem_visited_iff :
    initial ++ more ∈ visited clauses initial free ↔ IsVisit clauses initial free more := by
  induction free generalizing initial more with
  | zero =>
    cases more with
    | nil => exact iff_of_true (by simp [visited]) isVisit_nil
    | cons value more =>
      exact iff_of_false (by simp [visited]) fun visit => Nat.not_succ_le_zero _ visit.length_le
  | succ free inductionHypothesis =>
    cases more with
    | nil => exact iff_of_true (by simp [visited]) isVisit_nil
    | cons value more => rw [append_cons_mem_visited_iff, isVisit_cons_iff, inductionHypothesis]

/-! ## How many -/

theorem nodup_visited (clauses : List Clause) (initial : Valuation) (free : Nat) :
    (visited clauses initial free).Nodup := by
  induction free generalizing initial with
  | zero => exact List.nodup_singleton _
  | succ free inductionHypothesis =>
    have longer (value : Bool) : initial ∉ visited clauses (initial ++ [value]) free := by
      intro member
      have length_le := (prefix_of_mem_visited member).length_le
      rw [List.length_append] at length_le
      exact Nat.not_succ_le_self _ length_le
    have disjoint : (visited clauses (initial ++ [false]) free).Disjoint
        (visited clauses (initial ++ [true]) free) := by
      intro visit afterFalse afterTrue
      obtain ⟨more, rfl⟩ := prefix_of_mem_visited afterFalse
      rw [List.append_assoc] at afterTrue
      exact not_mem_visited Bool.false_ne_true afterTrue
    rw [visited]
    split
    next someFalse => exact List.nodup_singleton _
    next noneFalse =>
      split
      next found =>
        rw [List.append_nil]
        exact List.nodup_cons.2 ⟨longer false, inductionHypothesis _⟩
      next notFound =>
        refine List.nodup_cons.2 ⟨?_, (inductionHypothesis _).append (inductionHypothesis _) disjoint⟩
        rw [List.mem_append, not_or]
        exact ⟨longer false, longer true⟩

theorem length_visited_succ_le (clauses : List Clause) (initial : Valuation) (free : Nat) :
    (visited clauses initial (free + 1)).length ≤ 1 + ((visited clauses (initial ++ [false]) free).length
      + if (leastCompletion? (allSatisfied clauses) (initial ++ [false]) free).isSome then 0
        else (visited clauses (initial ++ [true]) free).length) := by
  rw [visited, List.length_cons, Nat.add_comm 1]
  apply Nat.succ_le_succ
  split
  next someFalse => exact Nat.zero_le _
  next noneFalse =>
    rw [List.length_append]
    split <;> exact Nat.le_refl _

/-- Each candidate is the last of at most as many prefixes as there are variables after `initial`. -/
theorem length_visited_le (clauses : List Clause) (initial : Valuation) (free : Nat) :
    (visited clauses initial free).length
      ≤ 1 + free * candidates (allSatisfied clauses) initial free := by
  induction free generalizing initial with
  | zero => simp [visited]
  | succ free inductionHypothesis =>
    have shorter := length_visited_succ_le clauses initial free
    have afterFalse := inductionHypothesis (initial ++ [false])
    have afterTrue := inductionHypothesis (initial ++ [true])
    -- Each side has a candidate of its own, which pays for where the side begins.
    have oneFalse := candidates_pos (allSatisfied clauses) (initial ++ [false]) free
    have oneTrue := candidates_pos (allSatisfied clauses) (initial ++ [true]) free
    rw [candidates, Nat.succ_mul, Nat.mul_add]
    split at shorter
    next found =>
      rw [if_pos found]
      omega
    next notFound =>
      rw [if_neg notFound]
      omega

theorem length_visited_lt (clauses : List Clause) (initial : Valuation) (free : Nat) :
    (visited clauses initial free).length < 2 ^ (free + 1) := by
  induction free generalizing initial with
  | zero => exact Nat.one_lt_two
  | succ free inductionHypothesis =>
    have shorter := length_visited_succ_le clauses initial free
    have afterFalse := inductionHypothesis (initial ++ [false])
    have afterTrue := inductionHypothesis (initial ++ [true])
    rw [Nat.pow_succ 2 (free + 1)]
    split at shorter <;> omega

/-! ## Backtracking and enumeration -/

/-- The values for the first variables, at least one, that follow no values under which a clause is
    false, and are not after those of the model that is the answer. -/
def visits (numVariables : Nat) (clauses : List Clause) (answer : Answer) : Set (List Bool) :=
  {values | values ≠ [] ∧ values.length ≤ numVariables
    ∧ (∀ earlier, earlier <+: values → earlier ≠ values → NoneFalsified clauses earlier)
    ∧ ∀ valuation, answer = .satisfiable valuation → values ≤ valuation.take values.length}

theorem leastAnswer_eq_satisfiable_iff {formula : Formula} {valuation : Valuation} :
    leastAnswer formula = .satisfiable valuation
      ↔ leastCompletion? (Formula.satisfied · formula) [] formula.numVariables = some valuation := by
  rw [leastAnswer]
  cases leastCompletion? (Formula.satisfied · formula) [] formula.numVariables with
  | none => simp
  | some first => simp

theorem encard_visits (numVariables : Nat) (clauses : List Clause) :
    (visits numVariables clauses (leastAnswer ⟨numVariables, clauses⟩)).encard
      = (visited clauses [] numVariables).tail.length := by
  have first : visited clauses [] numVariables = [] :: (visited clauses [] numVariables).tail := by
    cases numVariables <;> rfl
  have distinct := nodup_visited clauses [] numVariables
  rw [first, List.nodup_cons] at distinct
  apply encard_eq_length distinct.2
  intro values
  have visit_iff : [] ++ values ∈ visited clauses [] numVariables ↔ _ := mem_visited_iff
  rw [List.nil_append, first, List.mem_cons] at visit_iff
  constructor
  · intro member
    obtain ⟨length_le, noneFalsified, notAfter⟩ := visit_iff.1 (Or.inr member)
    refine ⟨ne_of_mem_of_not_mem member distinct.1, length_le, noneFalsified, ?_⟩
    intro valuation isAnswer
    exact notAfter valuation (leastAnswer_eq_satisfiable_iff.1 isAnswer)
  · rintro ⟨someValue, length_le, noneFalsified, notAfter⟩
    refine (visit_iff.2 ⟨length_le, noneFalsified, ?_⟩).resolve_left someValue
    intro valuation found
    exact notAfter valuation (leastAnswer_eq_satisfiable_iff.2 found)

/-- Backtracking ends with the answer of enumeration, and visits each of the prefixes that the answer
    leaves to it once. Enumeration pays for every variable, and once more, at each candidate up to the
    answer, which is always more. -/
theorem backtracking_visits (numVariables : Nat) (clauses : List Clause)
    (hasVariable : 0 < numVariables) (within : ∀ clause ∈ clauses, clause.Within numVariables) :
    ∃ answer nodes paid, answer.Decides ⟨numVariables, clauses⟩
      ∧ (search .backtracking numVariables clauses).complete = .ok ⟨answer, nodes⟩
      ∧ (visits numVariables clauses answer).encard = nodes
      ∧ (search .bruteForce numVariables clauses).complete = .ok ⟨answer, paid⟩
      ∧ paid = min maxWord ((numVariables + 1) * answer.candidates numVariables)
      ∧ (numVariables ≤ 63 → nodes < paid) := by
  have total := length_visited_lt clauses [] numVariables
  have perCandidate := length_visited_le clauses [] numVariables
  have someCandidate := candidates_pos (Formula.satisfied · ⟨numVariables, clauses⟩) [] numVariables
  refine ⟨leastAnswer ⟨numVariables, clauses⟩, _, _, leastAnswer_decides _,
    complete_backtracking hasVariable within, encard_visits numVariables clauses,
    complete_bruteForce numVariables clauses, ?_, ?_⟩
  · rw [addSaturating, Nat.zero_add, Nat.mul_comm, Nat.min_comm]
  · rw [← candidates_leastAnswer ⟨numVariables, clauses⟩, List.length_tail]
    apply lt_nodes_bruteForce someCandidate
    · exact Nat.sub_le_iff_le_add'.2 perCandidate
    · omega

/-- Two of the prefixes make a clause false, so what follows them is not visited. -/
theorem backtracking_visits_two_clauses :
    (search .backtracking 3 [[⟨1, true⟩, ⟨2, true⟩], [⟨1, true⟩, ⟨3, true⟩]]).complete
        = .ok ⟨.satisfiable [false, true, true], 5⟩
      ∧ (visits 3 [[⟨1, true⟩, ⟨2, true⟩], [⟨1, true⟩, ⟨3, true⟩]]
        (.satisfiable [false, true, true])).encard = 5
      ∧ (search .bruteForce 3 [[⟨1, true⟩, ⟨2, true⟩], [⟨1, true⟩, ⟨3, true⟩]]).complete
        = .ok ⟨.satisfiable [false, true, true], 16⟩
      ∧ 5 < 16 := by
  obtain ⟨answer, nodes, paid, decides, searched, counted, enumerated, isPaid, less⟩ :=
    backtracking_visits 3 [[⟨1, true⟩, ⟨2, true⟩], [⟨1, true⟩, ⟨3, true⟩]] (by decide)
      (by simp [Clause.Within])
  obtain rfl := decides.unique (leastAnswer_decides _)
  have five : nodes = 5 := by
    rw [encard_visits] at counted
    exact (Nat.cast_inj.1 counted).symm
  have sixteen : paid = 16 := isPaid
  subst five sixteen
  exact ⟨searched, counted, enumerated, less (by decide)⟩

end SatSum.Sat
