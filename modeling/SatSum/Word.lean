/-! # Machine words and sums

Counts are kept in 64-bit words: the largest one bounds what can be read, and sums of counts stay at
it once they would pass it. Numbers without a limit are measured in binary digits.
-/

namespace SatSum

/-- The largest 64-bit count. -/
def maxWord : Nat := UInt64.size - 1

/-- Addition that stays at the largest word. -/
def addSaturating (a b : Nat) : Nat :=
  min (a + b) maxWord

theorem addSaturating_addSaturating (a b c : Nat) :
    addSaturating (addSaturating a b) c = addSaturating a (b + c) := by
  simp only [addSaturating]
  omega

/-- Number of binary digits; zero has none. -/
def bitLength (n : Nat) : Nat :=
  if n = 0 then 0 else n.log2 + 1

theorem bitLength_le_iff {n k : Nat} : bitLength n ≤ k ↔ n < 1 <<< k := by
  rw [Nat.one_shiftLeft]
  by_cases zero : n = 0
  · subst zero
    exact ⟨fun _ => Nat.two_pow_pos k, fun _ => Nat.zero_le k⟩
  · rw [bitLength, if_neg zero]
    exact Nat.succ_le_iff.trans (Nat.log2_lt zero)

/-- The numbers added up. -/
def total {α : Type} [Add α] [OfNat α 0] (numbers : List α) : α :=
  numbers.foldr (· + ·) 0

theorem total_eq_sum {α : Type} [Add α] [Zero α] (numbers : List α) : total numbers = numbers.sum := rfl

end SatSum
