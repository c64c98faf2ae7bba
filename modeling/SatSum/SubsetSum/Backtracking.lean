import SatSum.Activity
import SatSum.Digits
import SatSum.SubsetSum.Instance

/-! # Backtracking over selections

Elements are decided in order, taking an element before leaving it out. A branch ends when the
elements that are left, taken at best, cannot make up what is missing; the search then goes back to the
latest element taken and leaves it out. The decisions and the sums before them are kept on a stack. A
node is counted for each branch.
-/

namespace SatSum.SubsetSum

/-- The least sum that a selection of the numbers has. -/
def leastSum (numbers : List Int) : Int :=
  total (numbers.map (min · 0))

/-- The greatest sum that a selection of the numbers has. -/
def greatestSum (numbers : List Int) : Int :=
  total (numbers.map (max · 0))

/-- An element with the least and the greatest sum of it and the elements after it. -/
structure Bounded where
  number : Int
  least : Int
  greatest : Int
deriving DecidableEq, Repr

/-- Adds the bounds to every element, in one pass from the end. -/
def bounded : List Int → List Bounded
  | [] => []
  | number :: rest =>
    match bounded rest with
    | [] => [⟨number, min number 0, max number 0⟩]
    | next :: others =>
      ⟨number, min number 0 + next.least, max number 0 + next.greatest⟩ :: next :: others

/-- The bounds at the head are those of the whole list. -/
theorem bounded_cons (number : Int) (rest : List Int) :
    bounded (number :: rest) =
      ⟨number, leastSum (number :: rest), greatestSum (number :: rest)⟩ :: bounded rest := by
  induction rest generalizing number with
  | nil => simp [bounded, leastSum, greatestSum, total]
  | cons next rest ih => rw [bounded, ih next]; simp [leastSum, greatestSum, total]

/-- The decision to take or leave an element, with the sum before it. -/
structure Decision where
  element : Bounded
  taken : Bool
  before : Int
deriving DecidableEq, Repr

/-- The decisions made (latest first) and the sum they make, with the elements not decided yet. -/
structure Branch where
  decided : List Decision
  undecided : List Bounded
  sum : Int
deriving DecidableEq, Repr

namespace Branch

def selection (branch : Branch) : Selection :=
  (branch.decided.reverse.zipIdx.filter (·.1.taken)).map Prod.snd

/-- Takes the next element, if it and the elements after it can make up what is missing. -/
def deeper? (target : Int) (branch : Branch) : Option Branch :=
  match branch.undecided with
  | [] => none
  | next :: rest =>
    let missing := target - branch.sum
    if next.least ≤ missing ∧ missing ≤ next.greatest then
      some ⟨⟨next, true, branch.sum⟩ :: branch.decided, rest, branch.sum + next.number⟩
    else none

/-- Leaves the latest element out that was taken, undoing the decisions after it. -/
def back? : List Decision → List Bounded → Option Branch
  | [], _ => none
  | latest :: decided, undecided =>
    if latest.taken then some ⟨{ latest with taken := false } :: decided, undecided, latest.before⟩
    else back? decided (latest.element :: undecided)

theorem back?_eq_some {decided : List Decision} {undecided : List Bounded} {next : Branch}
    (isBack : back? decided undecided = some next) :
    ∃ left latest earlier, decided = left ++ latest :: earlier
      ∧ (∀ decision ∈ left, decision.taken = false) ∧ latest.taken = true
      ∧ next = ⟨{ latest with taken := false } :: earlier,
          left.reverse.map Decision.element ++ undecided, latest.before⟩ := by
  induction decided generalizing undecided with
  | nil => cases isBack
  | cons latest earlier inductionHypothesis =>
    rw [back?] at isBack
    split at isBack
    next taken =>
      cases isBack
      exact ⟨[], latest, earlier, rfl, fun _ member => (List.not_mem_nil member).elim, taken, rfl⟩
    next leftOut =>
      obtain ⟨left, last, rest, rfl, allLeft, taken, rfl⟩ := inductionHypothesis isBack
      refine ⟨latest :: left, last, rest, rfl, ?_, taken, by simp⟩
      exact List.forall_mem_cons.2 ⟨Bool.eq_false_iff.2 leftOut, allLeft⟩

/-- How many selections come after the first one of the branch. -/
def selectionsLeft (branch : Branch) : Nat :=
  Digits.remaining
    (List.replicate branch.undecided.length false ++ branch.decided.map (!·.taken))

theorem selectionsLeft_deeper? {target : Int} {branch next : Branch}
    (isDeeper : branch.deeper? target = some next) :
    next.selectionsLeft = branch.selectionsLeft
      ∧ next.undecided.length < branch.undecided.length := by
  obtain ⟨decided, undecided, sum⟩ := branch
  cases undecided with
  | nil => cases isDeeper
  | cons element rest =>
    simp only [deeper?, Option.ite_none_right_eq_some, Option.some.injEq] at isDeeper
    obtain ⟨_, rfl⟩ := isDeeper
    refine ⟨?_, Nat.lt_succ_self _⟩
    simp only [selectionsLeft, List.length_cons, List.replicate_succ', List.append_assoc,
      List.singleton_append, List.map_cons, Bool.not_true]

theorem selectionsLeft_back? {branch next : Branch}
    (isBack : back? branch.decided branch.undecided = some next) :
    next.selectionsLeft < branch.selectionsLeft := by
  obtain ⟨left, latest, earlier, decided, _, taken, rfl⟩ := back?_eq_some isBack
  simp only [selectionsLeft, decided, List.map_append, List.map_cons, taken, Bool.not_false,
    Bool.not_true, ← List.append_assoc]
  apply Digits.remaining_one_lt_zero
  simp [Nat.add_comm]

end Branch

/-- Searches the branch, taking the next element before leaving it out, and all that come after it. -/
def chooseFrom (target : Int) (branch : Branch) (nodes : Nat) : Activity (Outcome Answer) :=
  .poll (nodes + 1) fun _ =>
    -- A hit counts wherever it is, also before the bounds are looked at.
    if target - branch.sum = 0 then .done ⟨.found branch.selection, nodes + 1⟩
    else
      match _isDeeper : branch.deeper? target with
      | some next => chooseFrom target next (nodes + 1)
      | none =>
        .note (.pruned branch.decided.length branch.sum) fun _ =>
          match _isBack : Branch.back? branch.decided branch.undecided with
          | none => .done ⟨.notFound, nodes + 1⟩
          | some next => chooseFrom target next (nodes + 1)
termination_by (branch.selectionsLeft, branch.undecided.length)
decreasing_by
  · obtain ⟨same, fewer⟩ := Branch.selectionsLeft_deeper? _isDeeper
    rw [same]
    exact Prod.Lex.right _ fewer
  · exact Prod.Lex.left _ _ (Branch.selectionsLeft_back? _isBack)

def backtracking (problem : Instance) : Activity (Outcome Answer) :=
  chooseFrom problem.target ⟨[], bounded problem.numbers, 0⟩ 0

end SatSum.SubsetSum
