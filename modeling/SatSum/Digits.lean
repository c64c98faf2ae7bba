/-! # Counting in binary

Searches go through all choices between two values in the order of binary numbers of a fixed length,
or cut such a search short. Digits are listed lowest first. `remaining` says how many numbers are still
to come, which is why the searches end.
-/

namespace SatSum.Digits

/-- The next number of the same length, if there is one: the ones at the low end become zeros and the
    zero after them a one. -/
def next? : List Bool → Option (List Bool)
  | [] => none
  | true :: rest => (next? rest).map (false :: ·)
  | false :: rest => some (true :: rest)

/-- How many numbers of the same length are greater. -/
def remaining : List Bool → Nat
  | [] => 0
  | digit :: rest => (if digit then 0 else 1) + 2 * remaining rest

/-- Ones at the low end carry over to the digits above. -/
theorem next?_ones_append (count : Nat) (high : List Bool) :
    next? (List.replicate count true ++ high)
      = (next? high).map (List.replicate count false ++ ·) := by
  induction count with
  | zero => exact Option.map_id'.symm
  | succ count inductionHypothesis =>
    rw [List.replicate_succ, List.cons_append, next?, inductionHypothesis, Option.map_map]
    rfl

theorem remaining_next? {digits next : List Bool} (isNext : next? digits = some next) :
    remaining digits = remaining next + 1 := by
  induction digits generalizing next with
  | nil => cases isNext
  | cons digit rest inductionHypothesis =>
    cases digit with
    | false =>
      cases isNext
      simp only [remaining, Bool.false_eq_true, if_false, if_true]
      omega
    | true =>
      obtain ⟨later, isLater, rfl⟩ := Option.map_eq_some_iff.1 isNext
      simp only [remaining, Bool.false_eq_true, if_false, if_true, inductionHypothesis isLater]
      omega

/-- Fewer numbers remain after a one than after a zero under the same digits. -/
theorem remaining_one_lt_zero {low other : List Bool} (high : List Bool)
    (noLonger : low.length ≤ other.length) :
    remaining (low ++ true :: high) < remaining (other ++ false :: high) := by
  induction other generalizing low with
  | nil =>
    rw [List.length_eq_zero_iff.1 (Nat.le_zero.1 noLonger)]
    simp only [List.nil_append, remaining, Bool.false_eq_true, if_false, if_true]
    omega
  | cons digit other inductionHypothesis =>
    cases low with
    | nil =>
      have less := @inductionHypothesis [] (Nat.zero_le other.length)
      rw [List.nil_append] at less ⊢
      rw [List.cons_append, remaining.eq_2 digit]
      omega
    | cons lowest low =>
      have less := inductionHypothesis (Nat.le_of_succ_le_succ noLonger)
      rw [List.cons_append, List.cons_append, remaining, remaining]
      split <;> omega

end SatSum.Digits
