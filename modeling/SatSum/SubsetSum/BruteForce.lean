import SatSum.Activity
import SatSum.Digits
import SatSum.SubsetSum.Instance

/-! # Enumeration of selections

The selections are the binary numbers whose lowest digit tells whether element 0 is included. They are
counted up from none included, and the sum follows each element that comes in or goes out. A node is
counted for each selection.
-/

namespace SatSum.SubsetSum

/-- The next inclusion mask with its sum, from one with the sum given. -/
def nextMask? : List Bool → List Int → Int → Option (List Bool × Int)
  | true :: included, number :: numbers, sum =>
    (nextMask? included numbers (sum - number)).map fun next => (false :: next.1, next.2)
  | false :: included, number :: _, sum => some (true :: included, sum + number)
  | _, _, _ => none

def includedPositions (included : List Bool) : Selection :=
  (included.zipIdx.filter (·.1)).map Prod.snd

/-- The masks are counted as numbers. -/
theorem next?_of_nextMask? {included : List Bool} {numbers : List Int} {sum : Int}
    {next : List Bool × Int} (isNext : nextMask? included numbers sum = some next) :
    Digits.next? included = some next.1 := by
  induction included generalizing numbers sum next with
  | nil =>
    rw [nextMask?.eq_def] at isNext
    cases isNext
  | cons taken included inductionHypothesis =>
    cases numbers with
    | nil =>
      rw [nextMask?.eq_def] at isNext
      cases taken <;> cases isNext
    | cons number numbers =>
      cases taken with
      | false =>
        cases isNext
        rfl
      | true =>
        obtain ⟨later, isLater, rfl⟩ := Option.map_eq_some_iff.1 isNext
        rw [Digits.next?, inductionHypothesis isLater]
        rfl

theorem remaining_nextMask? {included : List Bool} {numbers : List Int} {sum : Int}
    {next : List Bool × Int} (isNext : nextMask? included numbers sum = some next) :
    Digits.remaining next.1 < Digits.remaining included := by
  rw [Digits.remaining_next? (next?_of_nextMask? isNext)]
  exact Nat.lt_succ_self _

/-- Tries the mask, whose elements sum to `sum`, and all that come after it. -/
def tryFrom (target : Int) (numbers : List Int) (included : List Bool) (sum : Int) (nodes : Nat) :
    Activity (Outcome Answer) :=
  let counted := addSaturating nodes 1
  .poll counted fun _ =>
    if sum = target then .done ⟨.found (includedPositions included), counted⟩
    else
      match _isNext : nextMask? included numbers sum with
      | none => .done ⟨.notFound, counted⟩
      | some next => tryFrom target numbers next.1 next.2 counted
termination_by Digits.remaining included
decreasing_by exact remaining_nextMask? _isNext

def bruteForce (problem : Instance) : Activity (Outcome Answer) :=
  tryFrom problem.target problem.numbers (List.replicate problem.numbers.length false) 0 0

end SatSum.SubsetSum
