import SatSum.Proofs.SubsetSum.Decisions

/-! # Backtracking finds the first selection

Once a branch is searched, the search goes back from its end as it would from its beginning: the
elements decided below it are undecided again. So a branch either ends with the first selection that
makes up what is missing in it, or the search goes on behind it. The bounds are those of all sums that
the elements left can have, so a branch that is given up has no selection to lose.

* `findsAt_chooseFrom`: the search of a branch.
* `complete_backtracking`: backtracking computes the first selection, and how many branches it counts.
-/

namespace SatSum.SubsetSum

variable {target sum : Int} {decided : List Decision} {undecided : List Bounded}

/-! ## Branches -/

/-- The positions of the elements taken by decisions, the latest first. -/
def takenPositions (decided : List Decision) : Selection :=
  (Branch.mk decided [] 0).selection

theorem takenPositions_cons (latest : Decision) :
    takenPositions (latest :: decided)
      = takenPositions decided ++ if latest.taken then [decided.length] else [] := by
  cases taken : latest.taken <;> simp [takenPositions, Branch.selection, List.zipIdx_append, taken]

/-- What is searched after a branch that has nothing to find. -/
def goBack (target : Int) (decided : List Decision) (undecided : List Bounded) (nodes : Nat) :
    Activity (Outcome Answer) :=
  match Branch.back? decided undecided with
  | none => .done ⟨.notFound, nodes⟩
  | some next => chooseFrom target next nodes

theorem goBack_taken {latest : Decision} (taken : latest.taken = true) :
    goBack target (latest :: decided) undecided
      = chooseFrom target ⟨{ latest with taken := false } :: decided, undecided, latest.before⟩ := by
  funext nodes
  rw [goBack, Branch.back?, if_pos taken]

theorem goBack_left {latest : Decision} (left : latest.taken = false) :
    goBack target (latest :: decided) undecided
      = goBack target decided (latest.element :: undecided) := by
  funext nodes
  rw [goBack, goBack, Branch.back?, if_neg (Bool.eq_false_iff.1 left)]

theorem chooseFrom_eq (target : Int) (branch : Branch) (nodes : Nat) :
    chooseFrom target branch nodes = .poll (nodes + 1) fun _ =>
      if target - branch.sum = 0 then .done ⟨.found branch.selection, nodes + 1⟩
      else
        match branch.deeper? target with
        | some next => chooseFrom target next (nodes + 1)
        | none =>
          .note (.pruned branch.decided.length branch.sum) fun _ =>
            goBack target branch.decided branch.undecided (nodes + 1) := by
  rw [chooseFrom]
  congr 1
  funext _
  split
  next hit => rfl
  next miss =>
    split
    next next isDeeper => rw [isDeeper]
    next notDeeper =>
      rw [notDeeper]
      simp only [goBack]
      split
      next atRoot => rw [atRoot]
      next next isBack => rw [isBack]

/-! ## Searching a branch -/

/-- Outside the bounds there is nothing to find. -/
theorem firstSelection?_eq_none_of_outside {position : Nat} {missing : Int} {numbers : List Int}
    (outside : ¬ (leastSum numbers ≤ missing ∧ missing ≤ greatestSum numbers)) :
    firstSelection? position missing numbers = none :=
  firstSelection?_eq_none_iff.2 fun reaches => outside reaches.bounds

/-- A branch is left with the first selection in it, or the search goes back from where it began. A node
    is counted for each branch on the way. -/
theorem findsAt_chooseFrom (target : Int) (numbers : List Int) (decided : List Decision) (sum : Int)
    (nodes : Nat) :
    (chooseFrom target ⟨decided, bounded numbers, sum⟩ nodes).FindsAt
      ((firstSelection? decided.length (target - sum) numbers).map fun later =>
        .found (takenPositions decided ++ later))
      (nodes + (branches (target - sum) numbers).length)
      (goBack target decided (bounded numbers)) := by
  induction numbers generalizing decided sum nodes with
  | nil =>
    rw [chooseFrom_eq]
    apply Activity.FindsAt.poll
    split
    next nothingMissing =>
      rw [nothingMissing, firstSelection?_zero, Option.map_some, List.append_nil]
      exact Activity.findsAt_done _ _
    next someMissing =>
      rw [firstSelection?_nil someMissing]
      exact Activity.FindsAt.note (Activity.findsAt_otherwise _)
  | cons number rest inductionHypothesis =>
    rw [chooseFrom_eq]
    apply Activity.FindsAt.poll
    split
    next nothingMissing =>
      rw [nothingMissing, firstSelection?_zero, Option.map_some, List.append_nil,
        branches_of_not_isOpen fun isOpen => isOpen.1 rfl]
      exact Activity.findsAt_done _ _
    next someMissing =>
      simp only [bounded_cons, Branch.deeper?]
      by_cases inside : leastSum (number :: rest) ≤ target - sum
          ∧ target - sum ≤ greatestSum (number :: rest)
      · -- The branch with the element comes first; going back from it leads to the one without.
        have taking := inductionHypothesis
          (⟨⟨number, leastSum (number :: rest), greatestSum (number :: rest)⟩, true, sum⟩ :: decided)
          (sum + number) (nodes + 1)
        have leaving (between : Nat) := inductionHypothesis
          (⟨⟨number, leastSum (number :: rest), greatestSum (number :: rest)⟩, false, sum⟩ :: decided) sum
          between
        rw [goBack_taken rfl, takenPositions_cons, if_pos rfl, List.length_cons, ← Int.sub_sub] at taking
        simp only [goBack_left, takenPositions_cons, Bool.false_eq_true, if_false, List.append_nil,
          List.length_cons] at leaving
        simp only [List.append_assoc, List.singleton_append] at taking
        have both := taking.orElse (leaving _)
        rw [Option.isSome_map, isSome_firstSelection?] at both
        rw [if_pos inside, firstSelection?_cons someMissing, Option.map_or, Option.map_map,
          length_branches_of_isOpen ⟨someMissing, inside⟩, ← Nat.add_assoc, ← Nat.add_assoc]
        split at both
        next found =>
          rw [if_pos found]
          exact both
        next notFound =>
          rw [if_neg notFound]
          exact both
      · rw [if_neg inside, firstSelection?_eq_none_of_outside inside,
          branches_of_not_isOpen fun isOpen => inside isOpen.2]
        exact Activity.FindsAt.note (Activity.findsAt_otherwise _)

/-! ## The search -/

theorem complete_backtracking (problem : Instance) :
    (backtracking problem).complete
      = .ok ⟨problem.firstAnswer, (branches problem.target problem.numbers).length⟩ := by
  have finds := findsAt_chooseFrom problem.target problem.numbers [] 0 0
  rw [Int.sub_zero, Nat.zero_add] at finds
  exact finds.complete_eq

theorem backtracking_eq (problem : Instance) :
    ∃ nodes, (backtracking problem).complete = .ok ⟨problem.firstAnswer, nodes⟩ :=
  ⟨_, complete_backtracking problem⟩

end SatSum.SubsetSum
