import SatSum.Proofs.Activity
import SatSum.Proofs.SubsetSum.LeastSelection
import SatSum.SubsetSum.BruteForce

/-! # Enumeration finds the least selection

While the elements at the low end are counted through, those above stay as they are. So a mask that ends
with zeros at the low end begins a count through all choices for these elements, which ends with ones;
the first choice that hits is the least selection among them, and if none does, the mask after them
begins the next count.

* `findsAt_tryFrom`: the count through the low elements.
* `complete_bruteForce`: enumeration computes the least selection, and how many masks it counts.
-/

namespace SatSum.SubsetSum

/-- Elements included at the low end go out, and the ones above are counted on. -/
theorem nextMask?_ones_append (low numbers : List Int) (included : List Bool) (sum : Int) :
    nextMask? (List.replicate low.length true ++ included) (low ++ numbers) (low.sum + sum)
      = (nextMask? included numbers sum).map fun next =>
          (List.replicate low.length false ++ next.1, next.2) := by
  induction low with
  | nil =>
    rw [List.sum_nil, Int.zero_add]
    exact Option.map_id'.symm
  | cons number low inductionHypothesis =>
    have withoutNumber : number + low.sum + sum - number = low.sum + sum := by omega
    rw [List.length_cons, List.replicate_succ, List.cons_append, List.cons_append, List.sum_cons,
      nextMask?, withoutNumber, inductionHypothesis, Option.map_map]
    rfl

theorem filter_zipIdx_zeros (count : Nat) :
    (List.replicate count false).zipIdx.filter (·.1) = [] := by
  rw [List.filter_eq_nil_iff]
  rintro ⟨taken, position⟩ member
  rw [(List.mem_replicate.1 (List.fst_mem_of_mem_zipIdx member)).2]
  exact Bool.false_ne_true

theorem includedPositions_zeros (count : Nat) : includedPositions (List.replicate count false) = [] := by
  rw [includedPositions, filter_zipIdx_zeros, List.map_nil]

theorem includedPositions_zeros_append (count : Nat) (included : List Bool) :
    includedPositions (List.replicate count false ++ true :: included)
      = count :: includedPositions (List.replicate count false ++ false :: included) := by
  simp [includedPositions, List.zipIdx_append, filter_zipIdx_zeros]

/-- What is done after a mask that misses the target. -/
def tryAfter (target : Int) (numbers : List Int) (included : List Bool) (sum : Int) (nodes : Nat) :
    Activity (Outcome Answer) :=
  match nextMask? included numbers sum with
  | none => .done ⟨.notFound, nodes⟩
  | some next => tryFrom target numbers next.1 next.2 nodes

theorem tryFrom_eq (target : Int) (numbers : List Int) (included : List Bool) (sum : Int)
    (nodes : Nat) :
    tryFrom target numbers included sum nodes = .poll (addSaturating nodes 1) fun _ =>
      if sum = target then .done ⟨.found (includedPositions included), addSaturating nodes 1⟩
      else tryAfter target numbers included sum (addSaturating nodes 1) := by
  rw [tryFrom]
  congr 1
  funext _
  split
  next hit => rfl
  next miss =>
    rw [tryAfter]
    split
    next isLast => rw [isLast]
    next following isNext => rw [isNext]

theorem tryAfter_eq_tryFrom (target number : Int) (low numbers : List Int) (included : List Bool)
    (sum : Int) :
    tryAfter target (low ++ number :: numbers) (List.replicate low.length true ++ false :: included)
        (low.sum + sum)
      = tryFrom target (low ++ number :: numbers) (List.replicate low.length false ++ true :: included)
        (sum + number) := by
  funext nodes
  rw [tryAfter, nextMask?_ones_append]
  rfl

/-- Counting through the masks that are alike above the low elements finds the least selection among
    these, and counts a node for each candidate. -/
theorem findsAt_tryFrom (target : Int) (low numbers : List Int) (included : List Bool) (sum : Int)
    (nodes : Nat) :
    (tryFrom target (low ++ numbers) (List.replicate low.length false ++ included) sum nodes).FindsAt
      ((leastSelection? (target - sum) low.reverse
        (includedPositions (List.replicate low.length false ++ included))).map Answer.found)
      (addSaturating nodes (candidates (target - sum) low.reverse
        (includedPositions (List.replicate low.length false ++ included))))
      (tryAfter target (low ++ numbers) (List.replicate low.length true ++ included)
        (low.sum + sum)) := by
  induction low using List.reverseRecOn generalizing numbers included sum nodes with
  | nil =>
    have hits : target - sum = 0 ↔ sum = target := by omega
    simp only [List.length_nil, List.replicate_zero, List.nil_append, List.sum_nil, Int.zero_add,
      List.reverse_nil, leastSelection?, candidates, hits]
    rw [tryFrom_eq]
    apply Activity.FindsAt.poll
    split
    next hit => exact Activity.findsAt_done _ _
    next miss => exact Activity.findsAt_otherwise _
  | append_singleton low number inductionHypothesis =>
    have split (value : Bool) : List.replicate (low ++ [number]).length value ++ included
        = List.replicate low.length value ++ value :: included := by
      rw [List.length_append, List.length_singleton, List.replicate_succ', List.append_assoc,
        List.singleton_append]
    have sums : (low ++ [number]).sum + sum = low.sum + (sum + number) := by
      rw [List.sum_append, List.sum_singleton]
      omega
    -- The masks without the last of the low elements come first. The carry after them is the mask with
    -- this element alone, from which those with it are counted.
    have second (between : Nat) :=
      inductionHypothesis (number :: numbers) (true :: included) (sum + number) between
    rw [← tryAfter_eq_tryFrom, includedPositions_zeros_append] at second
    have both := (inductionHypothesis (number :: numbers) (false :: included) sum nodes).orElse
      (second _)
    rw [← Option.map_or, Option.isSome_map, addSaturating_addSaturating] at both
    rw [split, split, sums, List.reverse_concat, leastSelection?, candidates, List.append_assoc,
      List.singleton_append, Int.sub_sub, List.length_reverse]
    split at both
    next found => rwa [if_pos found]
    next notFound => rwa [if_neg notFound]

theorem complete_bruteForce (problem : Instance) :
    (bruteForce problem).complete = .ok ⟨problem.leastAnswer,
      addSaturating 0 (problem.leastAnswer.candidates problem.numbers.length)⟩ := by
  have finds := findsAt_tryFrom problem.target problem.numbers [] [] 0 0
  have last : tryAfter problem.target (problem.numbers ++ [])
      (List.replicate problem.numbers.length true ++ []) (problem.numbers.sum + 0)
      = fun nodes => .done ⟨.notFound, nodes⟩ := by
    funext nodes
    rw [tryAfter, nextMask?_ones_append]
    rfl
  rw [last, List.append_nil, List.append_nil, includedPositions_zeros, Int.sub_zero] at finds
  rw [← candidates_leastAnswer]
  exact finds.complete_eq

theorem bruteForce_eq (problem : Instance) :
    ∃ nodes, (bruteForce problem).complete = .ok ⟨problem.leastAnswer, nodes⟩ :=
  ⟨_, complete_bruteForce problem⟩

end SatSum.SubsetSum
