import SatSum.Proofs.SubsetSum.Dynamic

/-! # The first selection

A reference for the search that takes elements before leaving them out: it goes through all prefixes of
decisions, without giving any of them up, and stops at the first that makes up what is missing.
Selections are compared as lists of ascending positions, a proper prefix coming before the longer list.

* `MakesUp.first_le`: the reference computes the first of the selections that make up what is missing.
* `Instance.firstAnswer_spec`: the reference decides the instance.
-/

namespace SatSum.SubsetSum

variable {position : Nat} {number missing : Int} {rest undecided : List Int} {selection : Selection}

/-! ## Solutions in order -/

/-- The solution that comes before every other one, where solutions list their positions in order. -/
structure Instance.IsFirstSolution (problem : Instance) (selection : Selection) : Prop where
  isSolution : problem.IsSolution selection
  ascending : selection.Pairwise (· < ·)
  first : ∀ other, problem.IsSolution other → other.Pairwise (· < ·) → selection ≤ other

theorem Instance.IsFirstSolution.unique {problem : Instance} {first second : Selection}
    (left : problem.IsFirstSolution first) (right : problem.IsFirstSolution second) :
    first = second :=
  le_antisymm (left.first second right.isSolution right.ascending)
    (right.first first left.isSolution left.ascending)

/-- The ascending positions make up what is missing, with elements of which the first is at
    `position`. -/
inductive MakesUp : Nat → List Int → Int → Selection → Prop
  | nothing {position : Nat} : MakesUp position [] 0 []
  | leave {position : Nat} {number missing : Int} {rest : List Int} {selection : Selection}
      (later : MakesUp (position + 1) rest missing selection) :
      MakesUp position (number :: rest) missing selection
  | take {position : Nat} {number missing : Int} {rest : List Int} {selection : Selection}
      (later : MakesUp (position + 1) rest (missing - number) selection) :
      MakesUp position (number :: rest) missing (position :: selection)

theorem makesUp_zero (position : Nat) (undecided : List Int) : MakesUp position undecided 0 [] := by
  induction undecided generalizing position with
  | nil => exact .nothing
  | cons number rest inductionHypothesis => exact .leave (inductionHypothesis (position + 1))

theorem MakesUp.le_of_mem (makesUp : MakesUp position undecided missing selection) :
    ∀ index ∈ selection, position ≤ index := by
  induction makesUp with
  | nothing => exact fun index member => nomatch member
  | leave later inductionHypothesis =>
    exact fun index member => Nat.le_of_succ_le (inductionHypothesis index member)
  | take later inductionHypothesis =>
    refine List.forall_mem_cons.2 ⟨Nat.le_refl _, ?_⟩
    exact fun index member => Nat.le_of_succ_le (inductionHypothesis index member)

theorem MakesUp.reaches (makesUp : MakesUp position undecided missing selection) :
    Reaches undecided missing := by
  induction makesUp with
  | nothing => rfl
  | leave later inductionHypothesis => exact Or.inl inductionHypothesis
  | take later inductionHypothesis => exact Or.inr inductionHypothesis

/-- Past its first element, a list is looked up one place further down. -/
theorem filterMap_getElem?_cons (after : ∀ index ∈ selection, position + 1 ≤ index) :
    (selection.filterMap fun index => (number :: rest)[index - position]?)
      = selection.filterMap fun index => rest[index - (position + 1)]? := by
  apply List.filterMap_congr
  intro index member
  have oneMore : index - position = index - (position + 1) + 1 := by
    have := after index member
    omega
  rw [oneMore, List.getElem?_cons_succ]

theorem filterMap_getElem?_self (after : ∀ index ∈ selection, position + 1 ≤ index) :
    ((position :: selection).filterMap fun index => (number :: rest)[index - position]?)
      = number :: selection.filterMap fun index => rest[index - (position + 1)]? := by
  rw [← filterMap_getElem?_cons after, List.filterMap_cons, Nat.sub_self, List.getElem?_cons_zero]

theorem makesUp_iff :
    MakesUp position undecided missing selection
      ↔ selection.Pairwise (· < ·)
        ∧ (∀ index ∈ selection, position ≤ index ∧ index < position + undecided.length)
        ∧ (selection.filterMap fun index => undecided[index - position]?).sum = missing := by
  constructor
  · intro makesUp
    induction makesUp with
    | nothing => simp
    | leave later inductionHypothesis =>
      obtain ⟨ascending, inRange, sums⟩ := inductionHypothesis
      refine ⟨ascending, ?_, ?_⟩
      · intro index member
        have := inRange index member
        rw [List.length_cons]
        omega
      · rw [filterMap_getElem?_cons later.le_of_mem, sums]
    | take later inductionHypothesis =>
      obtain ⟨ascending, inRange, sums⟩ := inductionHypothesis
      refine ⟨List.pairwise_cons.2 ⟨later.le_of_mem, ascending⟩, ?_, ?_⟩
      · refine List.forall_mem_cons.2 ⟨by simp, ?_⟩
        intro index member
        have := inRange index member
        rw [List.length_cons]
        omega
      · rw [filterMap_getElem?_self later.le_of_mem, List.sum_cons, sums, Int.add_comm,
          Int.sub_add_cancel]
  · rintro ⟨ascending, inRange, sums⟩
    induction undecided generalizing position missing selection with
    | nil =>
      have empty : selection = [] := by
        rw [List.eq_nil_iff_forall_not_mem]
        intro index member
        have := inRange index member
        exact Nat.not_lt.2 this.1 this.2
      subst empty
      rw [← sums]
      exact .nothing
    | cons number rest inductionHypothesis =>
      -- Positions after the first one are those of a selection among the rest.
      have laterInRange {later : Selection} (after : ∀ index ∈ later, position + 1 ≤ index)
          (members : later ⊆ selection) :
          ∀ index ∈ later, position + 1 ≤ index ∧ index < position + 1 + rest.length := by
        intro index member
        have := inRange index (members member)
        rw [List.length_cons] at this
        exact ⟨after index member, by omega⟩
      cases selection with
      | nil => exact .leave (inductionHypothesis .nil (fun _ member => nomatch member) sums)
      | cons index others =>
        obtain ⟨before, ascendingOthers⟩ := List.pairwise_cons.1 ascending
        rcases Nat.eq_or_lt_of_le (inRange index List.mem_cons_self).1 with rfl | after
        · rw [filterMap_getElem?_self before, List.sum_cons] at sums
          exact .take (inductionHypothesis ascendingOthers
            (laterInRange before (List.subset_cons_self _ _)) (by omega))
        · have allAfter : ∀ other ∈ index :: others, position + 1 ≤ other :=
            List.forall_mem_cons.2 ⟨after, fun other member => Nat.lt_trans after (before other member)⟩
          rw [filterMap_getElem?_cons allAfter] at sums
          exact .leave (inductionHypothesis ascending (laterInRange allAfter (List.Subset.refl _)) sums)

/-! ## The reference -/

/-- The first prefix of decisions that makes up what is missing, taking an element before leaving it
    out; the first element is at `position`. -/
def firstSelection? (position : Nat) (missing : Int) (undecided : List Int) : Option Selection :=
  if missing = 0 then some []
  else
    match undecided with
    | [] => none
    | number :: rest =>
      ((firstSelection? (position + 1) (missing - number) rest).map (position :: ·)).or
        (firstSelection? (position + 1) missing rest)

theorem firstSelection?_zero (position : Nat) (undecided : List Int) :
    firstSelection? position 0 undecided = some [] := by
  rw [firstSelection?.eq_def, if_pos rfl]

theorem firstSelection?_nil (someMissing : missing ≠ 0) :
    firstSelection? position missing [] = none := by
  rw [firstSelection?, if_neg someMissing]

theorem firstSelection?_cons (someMissing : missing ≠ 0) :
    firstSelection? position missing (number :: rest)
      = ((firstSelection? (position + 1) (missing - number) rest).map (position :: ·)).or
        (firstSelection? (position + 1) missing rest) := by
  rw [firstSelection?, if_neg someMissing]

/-- Where the selection found comes from: nothing is missing, or the first element is taken, or it is
    left out because nothing is found with it. -/
theorem firstSelection?_cons_eq_some {found : Selection}
    (isFound : firstSelection? position missing (number :: rest) = some found) :
    missing = 0 ∧ found = []
      ∨ (missing ≠ 0 ∧ ∃ taken, firstSelection? (position + 1) (missing - number) rest = some taken
        ∧ found = position :: taken)
      ∨ missing ≠ 0 ∧ firstSelection? (position + 1) (missing - number) rest = none
        ∧ firstSelection? (position + 1) missing rest = some found := by
  by_cases nothingMissing : missing = 0
  · subst nothingMissing
    cases (firstSelection?_zero _ _).symm.trans isFound
    exact Or.inl ⟨rfl, rfl⟩
  · rw [firstSelection?_cons nothingMissing, Option.or_eq_some_iff, Option.map_eq_some_iff,
      Option.map_eq_none_iff] at isFound
    rcases isFound with ⟨taken, isTaken, same⟩ | without
    · exact Or.inr (Or.inl ⟨nothingMissing, taken, isTaken, same.symm⟩)
    · exact Or.inr (Or.inr ⟨nothingMissing, without⟩)

theorem firstSelection?_eq_none_iff :
    firstSelection? position missing undecided = none ↔ ¬ Reaches undecided missing := by
  induction undecided generalizing position missing with
  | nil => simp [firstSelection?, Reaches]
  | cons number rest inductionHypothesis =>
    by_cases nothingMissing : missing = 0
    · subst nothingMissing
      rw [firstSelection?_zero]
      exact iff_of_false (Option.some_ne_none []) (not_not.2 (reaches_zero _))
    · rw [firstSelection?_cons nothingMissing, Option.or_eq_none_iff, Option.map_eq_none_iff,
        inductionHypothesis, inductionHypothesis, Reaches, not_or, and_comm]

/-- Of the selections that make up what is missing, the one found comes first. -/
theorem MakesUp.first_le {found other : Selection}
    (isFound : firstSelection? position missing undecided = some found)
    (makesUp : MakesUp position undecided missing other) : found ≤ other := by
  induction makesUp generalizing found with
  | nothing =>
    cases (firstSelection?_zero _ _).symm.trans isFound
    exact le_refl _
  | @leave position number missing rest selection later inductionHypothesis =>
    obtain ⟨_, rfl⟩ | ⟨someMissing, taken, _, rfl⟩ | ⟨_, _, without⟩ :=
      firstSelection?_cons_eq_some isFound
    · exact not_lt.1 (List.not_lt_nil _)
    -- Something is missing, so the other selection has a position, and it is a later one.
    · cases selection with
      | nil => exact absurd (makesUp_iff.1 later).2.2.symm someMissing
      | cons index others =>
        exact le_of_lt (α := List Nat) (List.Lex.rel (later.le_of_mem index List.mem_cons_self))
    · exact inductionHypothesis without
  | @take position number missing rest selection later inductionHypothesis =>
    obtain ⟨_, rfl⟩ | ⟨_, taken, isTaken, rfl⟩ | ⟨_, noneTaken, _⟩ :=
      firstSelection?_cons_eq_some isFound
    · exact not_lt.1 (List.not_lt_nil _)
    · exact List.cons_le_cons position (inductionHypothesis isTaken)
    · exact absurd later.reaches (firstSelection?_eq_none_iff.1 noneTaken)

theorem makesUp_of_firstSelection? {found : Selection}
    (isFound : firstSelection? position missing undecided = some found) :
    MakesUp position undecided missing found := by
  induction undecided generalizing position missing found with
  | nil =>
    by_cases nothingMissing : missing = 0
    · subst nothingMissing
      cases (firstSelection?_zero _ _).symm.trans isFound
      exact .nothing
    · cases (firstSelection?_nil nothingMissing).symm.trans isFound
  | cons number rest inductionHypothesis =>
    obtain ⟨rfl, rfl⟩ | ⟨_, taken, isTaken, rfl⟩ | ⟨_, _, without⟩ :=
      firstSelection?_cons_eq_some isFound
    · exact makesUp_zero position _
    · exact .take (inductionHypothesis isTaken)
    · exact .leave (inductionHypothesis without)

/-! ## Answers -/

/-- The answer without giving up any prefix of decisions before its end. -/
def Instance.firstAnswer (problem : Instance) : Answer :=
  ((firstSelection? 0 problem.target problem.numbers).map Answer.found).getD .notFound

theorem Instance.isSolution_iff_makesUp {problem : Instance} (ascending : selection.Pairwise (· < ·)) :
    problem.IsSolution selection ↔ MakesUp 0 problem.numbers problem.target selection := by
  rw [makesUp_iff]
  simp only [Nat.zero_le, true_and, Nat.zero_add, Nat.sub_zero]
  constructor
  · exact fun solution => ⟨ascending, solution.inRange, solution.hits⟩
  · rintro ⟨_, inRange, hits⟩
    exact ⟨ascending.imp fun less => Nat.ne_of_lt less, inRange, hits⟩

/-- A solution exists if an ascending one does. -/
theorem Instance.IsSolution.reaches {problem : Instance} (solution : problem.IsSolution selection) :
    Reaches problem.numbers problem.target := by
  obtain ⟨choices, covers, _, hits⟩ := solution.exists_choices
  exact ((isSolution_iff_makesUp pairwise_positions).1 (isSolution_positions covers hits)).reaches

/-- The answer of the reference: the first solution, or that there is none. -/
theorem Instance.firstAnswer_spec (problem : Instance) :
    (problem.firstAnswer = .notFound ↔ ∀ selection, ¬ problem.IsSolution selection)
      ∧ ∀ selection, problem.firstAnswer = .found selection ↔ problem.IsFirstSolution selection := by
  cases found : firstSelection? 0 problem.target problem.numbers with
  | none =>
    have noSolution (selection : Selection) (solution : problem.IsSolution selection) : False :=
      firstSelection?_eq_none_iff.1 found solution.reaches
    simp only [firstAnswer, found, Option.map_none, Option.getD_none, reduceCtorEq, false_iff, true_iff]
    exact ⟨noSolution, fun selection first => noSolution selection first.isSolution⟩
  | some first =>
    have makesUp := makesUp_of_firstSelection? found
    have ascending := (makesUp_iff.1 makesUp).1
    have isFirst : problem.IsFirstSolution first := by
      refine ⟨(isSolution_iff_makesUp ascending).2 makesUp, ascending, ?_⟩
      intro other solution otherAscending
      exact ((isSolution_iff_makesUp otherAscending).1 solution).first_le found
    simp only [firstAnswer, found, Option.map_some, Option.getD_some, reduceCtorEq, false_iff,
      Answer.found.injEq]
    refine ⟨fun noSolution => noSolution first isFirst.isSolution, fun selection => ?_⟩
    constructor
    · rintro rfl
      exact isFirst
    · exact isFirst.unique

end SatSum.SubsetSum
