import SatSum.Proofs.Reduction.Restore

/-! # Selections for valuations

The witness of a valuation has the numbers of the literals that hold and, for each clause, as much slack
as it lacks literals that hold. Put together in this order, the positions already ascend.

* `witness?_eq_some_iff`: which valuations have a witness, and what it is.
* `pairwise_chosen`, `reads_chosen`, `balanced_chosen`: it ascends, reads as the valuation and is
  balanced.
-/

namespace SatSum.Encoding

variable {selects : Nat → Bool} {numVariables position var : Nat} {clause : Clause}
  {clauses : List Clause} {valuation : Valuation} {encoding : Encoding}

/-! ## Slack -/

/-- The slack that fills up each clause, the first slack position being `position`. -/
def fillFrom (valuation : Valuation) (position : Nat) : List Clause → List (List Nat)
  | [] => []
  | clause :: rest =>
    List.range' position (clause.length - clause.countP (Literal.holds valuation))
      :: fillFrom valuation (position + (clause.length - 1)) rest

theorem countP_holds_pos (satisfied : clause.satisfied valuation = true) :
    0 < clause.countP (Literal.holds valuation) :=
  List.countP_pos_iff.2 (Clause.satisfied_iff.1 satisfied)

theorem fillClause?_eq (valuation : Valuation) (position : Nat) (clause : Clause) :
    fillClause? valuation clause (List.range' position (clause.length - 1))
      = if clause.satisfied valuation then
          some (List.range' position (clause.length - clause.countP (Literal.holds valuation)))
        else none := by
  rw [fillClause?]
  by_cases satisfied : clause.satisfied valuation = true
  · rw [if_pos satisfied]
    have counted := countP_holds_pos satisfied
    split
    next noneHolds => omega
    next holding =>
      rw [List.take_range'_of_length_ge (by omega)]
  · rw [if_neg satisfied]
    have noneHolds : clause.countP (Literal.holds valuation) = 0 := by
      rw [List.countP_eq_zero]
      exact fun literal member holds => satisfied (Clause.satisfied_iff.2 ⟨literal, member, holds⟩)
    rw [noneHolds]
    rfl

theorem mapM_fillClause? (valuation : Valuation) (position : Nat) (clauses : List Clause) :
    ((clauses.zip (slacksFrom position clauses)).mapM fun entry =>
        fillClause? valuation entry.1 entry.2)
      = if clauses.all (Clause.satisfied valuation) then some (fillFrom valuation position clauses)
        else none := by
  induction clauses generalizing position with
  | nil => rfl
  | cons clause clauses inductionHypothesis =>
    rw [slacksFrom, List.zip_cons_cons, List.mapM_cons, fillClause?_eq, inductionHypothesis,
      List.all_cons]
    cases clause.satisfied valuation with
    | false => rfl
    | true => cases clauses.all (Clause.satisfied valuation) <;> rfl

theorem mem_fillFrom (allSatisfied : clauses.all (Clause.satisfied valuation) = true) {index : Nat}
    (member : index ∈ (fillFrom valuation position clauses).flatten) :
    position ≤ index ∧ index < position + slackLength clauses := by
  induction clauses generalizing position with
  | nil => cases member
  | cons clause clauses inductionHypothesis =>
    rw [List.all_cons, Bool.and_eq_true] at allSatisfied
    have counted := countP_holds_pos allSatisfied.1
    rw [fillFrom, List.flatten_cons, List.mem_append, List.mem_range'_1] at member
    simp only [slackLength, List.map_cons, List.sum_cons]
    rcases member with first | later
    · omega
    · have := inductionHypothesis allSatisfied.2 later
      rw [slackLength] at this
      omega

theorem pairwise_fillFrom (allSatisfied : clauses.all (Clause.satisfied valuation) = true) :
    (fillFrom valuation position clauses).flatten.Pairwise (· < ·) := by
  induction clauses generalizing position with
  | nil => exact List.Pairwise.nil
  | cons clause clauses inductionHypothesis =>
    rw [List.all_cons, Bool.and_eq_true] at allSatisfied
    have counted := countP_holds_pos allSatisfied.1
    rw [fillFrom, List.flatten_cons, List.pairwise_append]
    refine ⟨List.pairwise_lt_range' .., inductionHypothesis allSatisfied.2, ?_⟩
    intro first inFirst later inLater
    rw [List.mem_range'_1] at inFirst
    have := mem_fillFrom allSatisfied.2 inLater
    omega

theorem countP_range' {taken length : Nat} (shorter : taken ≤ length)
    (selected : ∀ index, position ≤ index → index < position + length →
      (selects index = true ↔ index < position + taken)) :
    (List.range' position length).countP selects = taken := by
  obtain ⟨rest, rfl⟩ := Nat.exists_eq_add_of_le shorter
  have all : (List.range' position taken).countP selects = taken := by
    have counted : (List.range' position taken).countP selects = (List.range' position taken).length := by
      rw [List.countP_eq_length]
      intro index member
      rw [List.mem_range'_1] at member
      exact (selected index member.1 (by omega)).2 member.2
    rw [counted, List.length_range']
  have others : (List.range' (position + taken) rest).countP selects = 0 := by
    rw [List.countP_eq_zero]
    intro index member isSelected
    rw [List.mem_range'_1] at member
    have := (selected index (by omega) (by omega)).1 isSelected
    omega
  rw [← List.range'_append_1, List.countP_append, all, others, Nat.add_zero]

/-- Each clause gets as much slack as it lacks literals that hold. -/
theorem map_countP_fillFrom (allSatisfied : clauses.all (Clause.satisfied valuation) = true)
    (selected : ∀ index, position ≤ index →
      (selects index = true ↔ index ∈ (fillFrom valuation position clauses).flatten)) :
    (slacksFrom position clauses).map (List.countP selects)
      = clauses.map fun clause => clause.length - clause.countP (Literal.holds valuation) := by
  induction clauses generalizing position with
  | nil => rfl
  | cons clause clauses inductionHypothesis =>
    rw [List.all_cons, Bool.and_eq_true] at allSatisfied
    have counted := countP_holds_pos allSatisfied.1
    -- The slack of this clause is selected below that of the later ones and apart from it.
    have split : ∀ index, position ≤ index → (selects index = true
        ↔ index < position + (clause.length - clause.countP (Literal.holds valuation))
          ∨ index ∈ (fillFrom valuation (position + (clause.length - 1)) clauses).flatten) := by
      intro index from_
      rw [selected index from_, fillFrom, List.flatten_cons, List.mem_append, List.mem_range'_1,
        and_iff_right from_]
    rw [slacksFrom, List.map_cons, List.map_cons]
    congr 1
    · apply countP_range' (by omega)
      intro index from_ below
      rw [split index from_]
      apply or_iff_left
      intro later
      have := mem_fillFrom allSatisfied.2 later
      omega
    · apply inductionHypothesis allSatisfied.2
      intro index from_
      rw [split index (by omega)]
      apply or_iff_right
      omega

/-! ## Literals -/

theorem literalPosition_eq (literal : Literal) :
    literalPosition literal = 2 * (literal.var - 1) + (!literal.positive).toNat := by
  rw [literalPosition]
  cases literal.positive <;> rfl

theorem literalPosition_inj {first second : Literal} (firstPositive : 1 ≤ first.var)
    (secondPositive : 1 ≤ second.var) (same : literalPosition first = literalPosition second) :
    first = second := by
  obtain ⟨var, sign⟩ := first
  obtain ⟨other, otherSign⟩ := second
  simp only [literalPosition_eq] at same firstPositive secondPositive
  cases sign <;> cases otherSign <;> simp at same ⊢ <;> omega

theorem exists_literalPosition {index : Nat} (below : index < 2 * numVariables) :
    ∃ literal : Literal, 1 ≤ literal.var ∧ literal.var ≤ numVariables
      ∧ literalPosition literal = index := by
  rcases Nat.mod_two_eq_zero_or_one index with even | odd
  · refine ⟨⟨index / 2 + 1, true⟩, Nat.le_add_left 1 _, ?_, ?_⟩
    · show index / 2 + 1 ≤ numVariables
      omega
    · show 2 * (index / 2 + 1 - 1) = index
      omega
  · refine ⟨⟨index / 2 + 1, false⟩, Nat.le_add_left 1 _, ?_, ?_⟩
    · show index / 2 + 1 ≤ numVariables
      omega
    · show 2 * (index / 2 + 1 - 1) + 1 = index
      omega

theorem literalPositions_cons (value : Bool) (rest : Valuation) :
    literalPositions var (value :: rest)
      = literalPosition ⟨var, value⟩ :: literalPositions (var + 1) rest := rfl

theorem mem_literalPositions {index : Nat} :
    index ∈ literalPositions var valuation
      ↔ ∃ place value, valuation[place]? = some value ∧ literalPosition ⟨var + place, value⟩ = index := by
  induction valuation generalizing var with
  | nil => simp [literalPositions]
  | cons value rest inductionHypothesis =>
    rw [literalPositions_cons, List.mem_cons, inductionHypothesis]
    constructor
    · rintro (rfl | ⟨place, other, atPlace, rfl⟩)
      · exact ⟨0, value, rfl, rfl⟩
      · exact ⟨place + 1, other, atPlace, by rw [Nat.add_assoc, Nat.add_comm 1]⟩
    · rintro ⟨place, other, atPlace, rfl⟩
      cases place with
      | zero =>
        cases atPlace
        exact Or.inl rfl
      | succ place => exact Or.inr ⟨place, other, atPlace, by rw [Nat.add_assoc, Nat.add_comm 1]⟩

theorem literalPosition_mem_iff {literal : Literal} (positive : 1 ≤ literal.var) :
    literalPosition literal ∈ literalPositions 1 valuation ↔ literal.holds valuation = true := by
  rw [mem_literalPositions, Literal.holds_iff positive]
  constructor
  · rintro ⟨place, value, atPlace, same⟩
    have placePositive : 1 ≤ (⟨1 + place, value⟩ : Literal).var := Nat.le_add_right 1 place
    obtain rfl := literalPosition_inj placePositive positive same
    rw [Nat.add_sub_cancel_left]
    exact atPlace
  · intro value
    refine ⟨literal.var - 1, literal.positive, value, ?_⟩
    rw [Nat.add_sub_cancel' positive]

theorem mem_literalPositions_lt {index : Nat} (positive : 1 ≤ var)
    (member : index ∈ literalPositions var valuation) :
    2 * (var - 1) ≤ index ∧ index < 2 * (var - 1) + 2 * valuation.length := by
  obtain ⟨place, value, atPlace, rfl⟩ := mem_literalPositions.1 member
  have below : place < valuation.length := (List.getElem?_eq_some_iff.1 atPlace).1
  have bit : (!value).toNat ≤ 1 := Bool.toNat_le _
  rw [literalPosition_eq]
  simp only
  omega

theorem pairwise_literalPositions (positive : 1 ≤ var) :
    (literalPositions var valuation).Pairwise (· < ·) := by
  induction valuation generalizing var with
  | nil => exact List.Pairwise.nil
  | cons value rest inductionHypothesis =>
    rw [literalPositions_cons, List.pairwise_cons]
    refine ⟨?_, inductionHypothesis (Nat.le_succ_of_le positive)⟩
    intro index member
    have := (mem_literalPositions_lt (Nat.le_succ_of_le positive) member).1
    have bit : (!value).toNat ≤ 1 := Bool.toNat_le _
    rw [literalPosition_eq]
    simp only
    omega

/-! ## Witnesses -/

/-- What is selected for a valuation. -/
def chosen (valuation : Valuation) (clauses : List Clause) : SubsetSum.Selection :=
  literalPositions 1 valuation ++ (fillFrom valuation (2 * valuation.length) clauses).flatten

theorem pairwise_chosen (allSatisfied : clauses.all (Clause.satisfied valuation) = true) :
    (chosen valuation clauses).Pairwise (· < ·) := by
  rw [chosen, List.pairwise_append]
  refine ⟨pairwise_literalPositions (Nat.le_refl 1), pairwise_fillFrom allSatisfied, ?_⟩
  intro first inLiterals later inSlack
  have := mem_literalPositions_lt (Nat.le_refl 1) inLiterals
  have := mem_fillFrom allSatisfied inSlack
  omega

theorem mem_chosen_lt (allSatisfied : clauses.all (Clause.satisfied valuation) = true) {index : Nat}
    (member : index ∈ chosen valuation clauses) :
    index < 2 * valuation.length + slackLength clauses := by
  rcases List.mem_append.1 member with inLiterals | inSlack
  · have := mem_literalPositions_lt (Nat.le_refl 1) inLiterals
    omega
  · exact (mem_fillFrom allSatisfied inSlack).2

theorem reads_chosen (allSatisfied : clauses.all (Clause.satisfied valuation) = true) :
    Reads (chosen valuation clauses).contains valuation := by
  intro literal positive covered
  have bit : (!literal.positive).toNat ≤ 1 := Bool.toNat_le _
  have beforeSlack : literalPosition literal < 2 * valuation.length := by
    rw [literalPosition_eq]
    omega
  have noSlack : literalPosition literal
      ∉ (fillFrom valuation (2 * valuation.length) clauses).flatten := by
    intro member
    have := mem_fillFrom allSatisfied member
    omega
  rw [Bool.eq_iff_iff, List.contains_iff_mem, chosen, List.mem_append, or_iff_left noSlack]
  exact literalPosition_mem_iff positive

/-- The selection is balanced: literals that hold and slack add up to the width of each clause. -/
theorem balanced_chosen (within : ∀ clause ∈ clauses, clause.Within valuation.length)
    (allSatisfied : clauses.all (Clause.satisfied valuation) = true) :
    Balanced (chosen valuation clauses).contains valuation.length clauses where
  oneEach := fun _ positive covered => (reads_chosen allSatisfied).variableCount_eq positive covered
  filled := by
    have slack : (slacksFrom (2 * valuation.length) clauses).map
          (List.countP (chosen valuation clauses).contains)
        = clauses.map fun clause => clause.length - clause.countP (Literal.holds valuation) := by
      apply map_countP_fillFrom allSatisfied
      intro index afterLiterals
      -- Positions of literals all come before the slack.
      rw [List.contains_iff_mem, chosen, List.mem_append]
      apply or_iff_right
      intro inLiterals
      have := mem_literalPositions_lt (Nat.le_refl 1) inLiterals
      omega
    rw [clauseCounts, slack, List.zipWith_map, List.zipWith_self]
    apply List.map_congr_left
    intro clause member
    have counted := countP_holds_pos (List.all_eq_true.1 allSatisfied clause member)
    have atMost : clause.countP (Literal.holds valuation) ≤ clause.length := List.countP_le_length
    rw [(reads_chosen allSatisfied).literalCount_eq (within clause member)]
    omega

theorem witness?_eq_ite (covers : valuation.length = encoding.numVariables) :
    encoding.witness? valuation
      = if encoding.clauses.all (Clause.satisfied valuation) then
          some (chosen valuation encoding.clauses)
        else none := by
  rw [witness?, if_neg (not_not.2 covers), clauseSlacks, mapM_fillClause?]
  cases allSatisfied : encoding.clauses.all (Clause.satisfied valuation) with
  | false => rfl
  | true =>
    -- Sorting changes nothing about what ascends already.
    have ascending : (chosen valuation encoding.clauses).mergeSort
        = chosen valuation encoding.clauses := by
      apply List.mergeSort_of_pairwise
      exact (pairwise_chosen allSatisfied).imp fun less => decide_eq_true (Nat.le_of_lt less)
    rw [← covers]
    exact congrArg some ascending

/-- A valuation has a witness exactly if it covers the variables and satisfies the clauses. -/
theorem witness?_eq_some_iff {selection : SubsetSum.Selection} :
    encoding.witness? valuation = some selection
      ↔ valuation.length = encoding.numVariables
        ∧ encoding.clauses.all (Clause.satisfied valuation) = true
        ∧ chosen valuation encoding.clauses = selection := by
  by_cases covers : valuation.length = encoding.numVariables
  · rw [witness?_eq_ite covers, Option.ite_none_right_eq_some, Option.some.injEq, and_iff_right covers]
  · rw [witness?, if_pos covers]
    constructor
    · intro found
      cases found
    · rintro ⟨same, _⟩
      exact absurd same covers

end SatSum.Encoding
