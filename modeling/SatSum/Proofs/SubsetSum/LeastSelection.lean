import SatSum.Proofs.Models
import SatSum.Proofs.SubsetSum.Selections
import Mathlib.Data.Nat.BitIndices

/-! # The least selection

A reference for the searches that decide the last element first: the least of the selections that make
up what is missing, where leaving an element out comes before taking it. Selections are compared by
their masks, binary numbers whose lowest digit stands for element 0.

* `leastSelection?_eq_none_iff`, `leastSelection?_eq_some`: what the reference computes.
* `leastSelection?_decides`: the reference decides the instance.
* `candidates_leastAnswer`: how many masks come up to the answer.
-/

namespace SatSum.SubsetSum

/-! ## Masks -/

/-- The binary number with a one for each position. -/
def mask (selection : Selection) : Nat :=
  (selection.map (2 ^ ·)).sum

/-- The solution with the least mask, its positions in order. -/
structure Instance.IsLeastSolution (problem : Instance) (selection : Selection) : Prop where
  isSolution : problem.IsSolution selection
  ascending : selection.Pairwise (· < ·)
  least : ∀ other, problem.IsSolution other → mask selection ≤ mask other

/-- Positions in order are the digits of their mask. -/
theorem Instance.IsLeastSolution.unique {problem : Instance} {first second : Selection}
    (left : problem.IsLeastSolution first) (right : problem.IsLeastSolution second) :
    first = second := by
  have sameMask : mask first = mask second :=
    Nat.le_antisymm (left.least second right.isSolution) (right.least first left.isSolution)
  have digits {selection : Selection} (ascending : selection.Pairwise (· < ·)) :
      (mask selection).bitIndices = selection :=
    Nat.bitIndices_sum_map_two_pow (List.sortedLT_iff_pairwise.2 ascending)
  rw [← digits left.ascending, ← digits right.ascending, sameMask]

/-! ## Choices -/

/-- The sum of the elements that are taken, by a choice for each. -/
def sumTaken : List Int → List Bool → Int
  | number :: rest, taken :: choices => (if taken then number else 0) + sumTaken rest choices
  | _, _ => 0

@[simp] theorem sumTaken_nil (numbers : List Int) : sumTaken numbers [] = 0 := by
  cases numbers <;> rfl

/-- The positions of the elements that are taken, by a choice for each, the last element first. -/
def positions : List Bool → Selection
  | [] => []
  | taken :: choices => positions choices ++ if taken then [choices.length] else []

variable {choices : List Bool} {undecided numbers : List Int} {selection : Selection} {target : Int}

theorem positions_lt : ∀ position ∈ positions choices, position < choices.length := by
  induction choices with
  | nil => exact fun position member => nomatch member
  | cons taken choices inductionHypothesis =>
    intro position member
    rw [positions, List.mem_append] at member
    rw [List.length_cons]
    rcases member with earlier | last
    · exact Nat.lt_succ_of_lt (inductionHypothesis position earlier)
    · cases taken with
      | false => cases last
      | true =>
        rw [List.mem_singleton.1 last]
        exact Nat.lt_succ_self _

theorem pairwise_positions : (positions choices).Pairwise (· < ·) := by
  induction choices with
  | nil => exact List.Pairwise.nil
  | cons taken choices inductionHypothesis =>
    rw [positions]
    cases taken with
    | false => simpa using inductionHypothesis
    | true =>
      rw [if_pos rfl, List.pairwise_append]
      refine ⟨inductionHypothesis, List.pairwise_singleton _ _, ?_⟩
      intro earlier member last isLast
      rw [List.mem_singleton.1 isLast]
      exact positions_lt earlier member

theorem mask_append (first second : Selection) : mask (first ++ second) = mask first + mask second := by
  rw [mask, List.map_append, List.sum_append]
  rfl

theorem mask_positions_cons (taken : Bool) (choices : List Bool) :
    mask (positions (taken :: choices))
      = mask (positions choices) + if taken then 2 ^ choices.length else 0 := by
  rw [positions, mask_append]
  cases taken <;> simp [mask]

theorem mask_positions_lt (choices : List Bool) : mask (positions choices) < 2 ^ choices.length := by
  induction choices with
  | nil => exact Nat.one_pos
  | cons taken choices inductionHypothesis =>
    rw [mask_positions_cons, List.length_cons, Nat.pow_succ]
    split <;> omega

theorem sum_filterMap_positions (covers : choices.length = undecided.length) :
    ((positions choices).filterMap fun position => undecided.reverse[position]?).sum
      = sumTaken undecided choices := by
  induction choices generalizing undecided with
  | nil =>
    rw [List.length_eq_zero_iff.1 covers.symm]
    rfl
  | cons taken choices inductionHypothesis =>
    cases undecided with
    | nil => cases covers
    | cons number rest =>
      have restCovers : choices.length = rest.length := Nat.succ.inj covers
      have earlier : (positions choices).filterMap (fun position => (number :: rest).reverse[position]?)
          = (positions choices).filterMap fun position => rest.reverse[position]? := by
        apply List.filterMap_congr
        intro position member
        have below := positions_lt position member
        rw [List.reverse_cons, List.getElem?_append_left (by rwa [List.length_reverse, ← restCovers])]
      rw [positions, List.filterMap_append, List.sum_append, earlier, inductionHypothesis restCovers,
        sumTaken, Int.add_comm]
      congr 1
      cases taken with
      | false => rfl
      | true => simp [restCovers]

/-- Different positions are taken by some choices. -/
theorem exists_choices (length : Nat) (distinct : selection.Nodup)
    (inRange : ∀ position ∈ selection, position < length) :
    ∃ choices : List Bool, choices.length = length ∧ (positions choices).Perm selection := by
  have chosen (count : Nat) : positions ((List.range count).reverse.map selection.contains)
      = (List.range count).filter selection.contains := by
    induction count with
    | zero => rfl
    | succ count inductionHypothesis =>
      simp only [List.range_succ, List.reverse_append, List.reverse_singleton, List.singleton_append,
        List.map_cons, positions, inductionHypothesis, List.filter_append, List.length_map,
        List.length_reverse, List.length_range, List.filter_cons, List.filter_nil]
  -- The last position decides first, so the choices run through the positions backwards.
  refine ⟨(List.range length).reverse.map selection.contains, by simp, ?_⟩
  rw [chosen, List.perm_ext_iff_of_nodup (List.nodup_range.filter _) distinct]
  intro position
  rw [List.mem_filter, List.mem_range, List.contains_iff_mem]
  exact ⟨fun member => member.2, fun member => ⟨inRange position member, member⟩⟩

/-! ## The reference -/

/-- The least selection that makes up `missing` with elements of `undecided` (last first), before those
    selected. -/
def leastSelection? (missing : Int) : List Int → Selection → Option Selection
  | [], selection => if missing = 0 then some selection else none
  | number :: rest, selection =>
    (leastSelection? missing rest selection).or
      (leastSelection? (missing - number) rest (rest.length :: selection))

theorem leastSelection?_eq_none_iff {missing : Int} :
    leastSelection? missing undecided selection = none
      ↔ ∀ choices : List Bool, choices.length = undecided.length → sumTaken undecided choices ≠ missing := by
  induction undecided generalizing missing selection with
  | nil =>
    simp only [leastSelection?, ite_eq_right_iff, reduceCtorEq, imp_false, List.length_nil,
      List.length_eq_zero_iff, forall_eq, sumTaken, ne_eq]
    exact not_congr eq_comm
  | cons number rest inductionHypothesis =>
    have moved (sum : Int) : number + sum ≠ missing ↔ sum ≠ missing - number := by omega
    simp only [leastSelection?, Option.or_eq_none_iff, inductionHypothesis, List.length_cons,
      forall_length_succ, sumTaken, Bool.false_eq_true, if_false, if_true, Int.zero_add, moved]

theorem leastSelection?_eq_some {missing : Int} {found : Selection}
    (isFound : leastSelection? missing undecided selection = some found) :
    ∃ choices : List Bool, choices.length = undecided.length ∧ found = positions choices ++ selection
      ∧ sumTaken undecided choices = missing
      ∧ ∀ other : List Bool, other.length = undecided.length → sumTaken undecided other = missing →
        mask (positions choices) ≤ mask (positions other) := by
  induction undecided generalizing missing selection with
  | nil =>
    rw [leastSelection?] at isFound
    split at isFound
    next nothingMissing =>
      cases isFound
      exact ⟨[], rfl, rfl, nothingMissing.symm, fun other _ _ => Nat.zero_le _⟩
    next someMissing => cases isFound
  | cons number rest inductionHypothesis =>
    have moved (sum : Int) : number + sum = missing ↔ sum = missing - number := by omega
    simp only [leastSelection?, Option.or_eq_some_iff] at isFound
    simp only [List.length_cons, forall_length_succ]
    rcases isFound with without | ⟨noneWithout, withElement⟩
    · obtain ⟨choices, covers, rfl, sums, least⟩ := inductionHypothesis without
      refine ⟨false :: choices, congrArg Nat.succ covers, ?_, ?_, ?_, ?_⟩
      · simp [positions]
      · simpa [sumTaken] using sums
      · intro other otherCovers otherSums
        rw [mask_positions_cons, mask_positions_cons]
        exact Nat.add_le_add_right (least other otherCovers (by simpa [sumTaken] using otherSums)) _
      -- The element alone weighs more than all before it.
      · intro other otherCovers _
        have below := mask_positions_lt choices
        rw [mask_positions_cons, mask_positions_cons, if_pos rfl, otherCovers, ← covers]
        simp only [Bool.false_eq_true, if_false]
        omega
    · obtain ⟨choices, covers, rfl, sums, least⟩ := inductionHypothesis withElement
      refine ⟨true :: choices, congrArg Nat.succ covers, ?_, ?_, ?_, ?_⟩
      · simp [positions, covers]
      · simpa [sumTaken, moved] using sums
      -- Nothing hits without the element, so the least selection with it is the least of all.
      · intro other otherCovers otherSums
        have none := leastSelection?_eq_none_iff.1 noneWithout other otherCovers
        exact absurd (by simpa [sumTaken] using otherSums) none
      · intro other otherCovers otherSums
        have fewer := least other otherCovers (by simpa [sumTaken, moved] using otherSums)
        rw [mask_positions_cons, mask_positions_cons, covers, otherCovers]
        exact Nat.add_le_add_right fewer _

/-! ## Candidates -/

/-- How many selections are looked at in order, up to the first that makes up what is missing. -/
def candidates (missing : Int) : List Int → Selection → Nat
  | [], _ => 1
  | number :: rest, selection =>
    candidates missing rest selection
      + if (leastSelection? missing rest selection).isSome then 0
        else candidates (missing - number) rest (rest.length :: selection)

theorem candidates_eq_of_none {missing : Int}
    (noneFound : leastSelection? missing undecided selection = none) :
    candidates missing undecided selection = 2 ^ undecided.length := by
  induction undecided generalizing missing selection with
  | nil => rfl
  | cons number rest inductionHypothesis =>
    rw [leastSelection?, Option.or_eq_none_iff] at noneFound
    rw [candidates, noneFound.1, inductionHypothesis noneFound.1, inductionHypothesis noneFound.2,
      List.length_cons, Nat.pow_succ]
    simp only [Option.isSome_none, Bool.false_eq_true, if_false]
    omega

/-- Where a selection is found, those looked at are the ones with a lower mask and itself. -/
theorem candidates_eq_of_some {missing : Int} {found : Selection}
    (isFound : leastSelection? missing undecided selection = some found) :
    ∃ choices : List Bool, choices.length = undecided.length ∧ found = positions choices ++ selection
      ∧ candidates missing undecided selection = mask (positions choices) + 1 := by
  induction undecided generalizing missing selection with
  | nil =>
    rw [leastSelection?] at isFound
    split at isFound
    next nothingMissing =>
      cases isFound
      exact ⟨[], rfl, rfl, rfl⟩
    next someMissing => cases isFound
  | cons number rest inductionHypothesis =>
    rw [leastSelection?, Option.or_eq_some_iff] at isFound
    rcases isFound with without | ⟨noneWithout, withElement⟩
    · obtain ⟨choices, covers, rfl, counted⟩ := inductionHypothesis without
      refine ⟨false :: choices, congrArg Nat.succ covers, ?_, ?_⟩
      · simp [positions]
      · rw [candidates, without, counted, mask_positions_cons]
        simp
    · obtain ⟨choices, covers, rfl, counted⟩ := inductionHypothesis withElement
      refine ⟨true :: choices, congrArg Nat.succ covers, ?_, ?_⟩
      · simp [positions, covers]
      · rw [candidates, noneWithout, counted, candidates_eq_of_none noneWithout, mask_positions_cons,
          covers]
        simp only [Option.isSome_none, Bool.false_eq_true, if_false, if_true]
        omega

/-! ## Answers -/

/-- The answer an instance has: its least solution, or that it has none. -/
def Answer.Decides (problem : Instance) : Answer → Prop
  | .found selection => problem.IsLeastSolution selection
  | .notFound => ∀ selection, ¬ problem.IsSolution selection

theorem mask_perm {first second : Selection} (samePositions : first.Perm second) :
    mask first = mask second :=
  (samePositions.map _).sum_nat

theorem Instance.sumOf_positions {problem : Instance} (covers : choices.length = problem.numbers.length) :
    problem.sumOf (positions choices) = sumTaken problem.numbers.reverse choices := by
  have sums := sum_filterMap_positions (covers.trans List.length_reverse.symm)
  rw [List.reverse_reverse] at sums
  exact sums

theorem Instance.isSolution_positions {problem : Instance}
    (covers : choices.length = problem.numbers.length)
    (hits : sumTaken problem.numbers.reverse choices = problem.target) :
    problem.IsSolution (positions choices) where
  distinct := pairwise_positions.imp fun less => Nat.ne_of_lt less
  inRange := fun position member => covers ▸ positions_lt position member
  hits := (sumOf_positions covers).trans hits

/-- Every solution is made by choices that hit the target, up to order. -/
theorem Instance.IsSolution.exists_choices {problem : Instance} (solution : problem.IsSolution selection) :
    ∃ choices : List Bool, choices.length = problem.numbers.length
      ∧ (positions choices).Perm selection
      ∧ sumTaken problem.numbers.reverse choices = problem.target := by
  obtain ⟨choices, covers, samePositions⟩ :=
    SubsetSum.exists_choices problem.numbers.length solution.distinct solution.inRange
  refine ⟨choices, covers, samePositions, ?_⟩
  rw [← sumOf_positions covers, sumOf_perm samePositions]
  exact solution.hits

/-- The answer of the reference. -/
def Instance.leastAnswer (problem : Instance) : Answer :=
  ((leastSelection? problem.target problem.numbers.reverse []).map Answer.found).getD .notFound

theorem leastSelection?_decides (problem : Instance) : problem.leastAnswer.Decides problem := by
  rw [Instance.leastAnswer]
  cases found : leastSelection? problem.target problem.numbers.reverse [] with
  | none =>
    intro selection solution
    obtain ⟨choices, covers, _, hits⟩ := solution.exists_choices
    exact leastSelection?_eq_none_iff.1 found choices (covers.trans List.length_reverse.symm) hits
  | some selection =>
    obtain ⟨choices, covers, rfl, hits, least⟩ := leastSelection?_eq_some found
    rw [List.length_reverse] at covers
    rw [List.append_nil]
    refine ⟨problem.isSolution_positions covers hits, pairwise_positions, ?_⟩
    intro other solution
    obtain ⟨otherChoices, otherCovers, samePositions, otherHits⟩ := solution.exists_choices
    rw [← mask_perm samePositions]
    exact least otherChoices (otherCovers.trans List.length_reverse.symm) otherHits

/-- How many of the masks of the elements come up to the one that is the answer, and how many there
    are if none is. -/
def Answer.candidates (numElements : Nat) : Answer → Nat
  | .found selection => mask selection + 1
  | .notFound => 2 ^ numElements

theorem candidates_leastAnswer (problem : Instance) :
    SubsetSum.candidates problem.target problem.numbers.reverse []
      = problem.leastAnswer.candidates problem.numbers.length := by
  rw [Instance.leastAnswer, ← List.length_reverse]
  cases found : leastSelection? problem.target problem.numbers.reverse [] with
  | none => exact candidates_eq_of_none found
  | some selection =>
    obtain ⟨choices, _, rfl, counted⟩ := candidates_eq_of_some found
    rw [List.append_nil]
    exact counted

end SatSum.SubsetSum
