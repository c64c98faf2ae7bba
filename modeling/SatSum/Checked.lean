import SatSum.Fault
import SatSum.Word

/-! # Checked operations

Counts and positions are machine words. Where an operation on them has no result, or a list is read past
its end, the program stops; each operation here has either a result or the stop.
-/

namespace SatSum.Checked

variable {α : Type}

def stop (cause : Stop) : Except Fault α :=
  .error (.exhausted (.machine cause))

/-- The sum, unless it passes the largest word. -/
def add (a b : Nat) : Except Fault Nat :=
  if a + b ≤ maxWord then .ok (a + b) else stop .sum

/-- The difference, unless it goes below zero. -/
def sub (a b : Nat) : Except Fault Nat :=
  if b ≤ a then .ok (a - b) else stop .difference

/-- The entry at an index, unless the list ends before it. -/
def entry (list : List α) (index : Nat) : Except Fault α :=
  match list[index]? with
  | some found => .ok found
  | none => stop (.index list.length index)

/-- Adds an amount to the number at an index. -/
def addAt (numbers : List Nat) (index amount : Nat) : Except Fault (List Nat) :=
  if index < numbers.length then .ok (numbers.modify index (· + amount))
  else stop (.index numbers.length index)

section

variable {a b index : Nat} {list : List α} {found : α}

theorem add_eq_ok (fits : a + b ≤ maxWord) : add a b = .ok (a + b) :=
  if_pos fits

theorem add_eq_stop (tooLarge : maxWord < a + b) : add a b = stop .sum :=
  if_neg (Nat.not_le.2 tooLarge)

theorem sub_eq_ok (noMore : b ≤ a) : sub a b = .ok (a - b) :=
  if_pos noMore

theorem entry_eq_ok (atIndex : list[index]? = some found) : entry list index = .ok found := by
  rw [entry, atIndex]

end

end SatSum.Checked
