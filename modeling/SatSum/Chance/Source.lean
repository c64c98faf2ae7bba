import SatSum.Word

/-! # Drawing from a source of words

A source hands out 32-bit words. Everything random is drawn from one: coins, numbers below a bound,
and samples of different positions. These are the `Choices` that the rest of the library makes, and it
does not depend on how they are drawn. A draw is a state monad over the source.

* `belowWithin_lt`: a number drawn below a bound is below it, whatever the source hands out.
-/

namespace SatSum.Chance

class WordSource (σ : Type) where
  next : σ → UInt32 × σ

/-- A random choice made with words from a source. -/
abbrev Draw (σ : Type) (α : Type) := StateM σ α

section

variable {σ : Type} [WordSource σ]

/-! ## Numbers -/

def word : Draw σ UInt32 :=
  WordSource.next

/-- The next `words` words as one number, the first lowest. -/
def joined (words : Nat) : Draw σ Nat :=
  match words with
  | 0 => pure 0
  | words + 1 => do
    let low ← word
    let high ← joined words
    return low.toNat + high <<< 32

def coin : Draw σ Bool := do
  return 1 <<< 31 ≤ (← word).toNat

/-- How often a number may be rejected. The chance of a rejection is below one half. -/
def maxAttempts : Nat := 1000

/-- Draws `words` words and takes the high half of their product with `bound`, unless the low half is
    so large that this would favour some numbers; then draws again. -/
def belowWithin (words bound attempts : Nat) : Draw σ Nat :=
  match attempts with
  | 0 => pure 0
  | attempts + 1 => do
    let size := 1 <<< (32 * words)
    -- The low halves that pass are those below a multiple of the bound.
    let product := (← joined words) * bound
    if product % size < bound <<< (32 * words - bitLength bound) then return product / size
    else belowWithin words bound attempts

/-- A number below a positive bound, all equally likely, drawn from `words` words at a time. -/
def below (words bound : Nat) : Draw σ Nat :=
  belowWithin words bound maxAttempts

def repeated {α : Type} (count : Nat) (draw : Draw σ α) : Draw σ (List α) :=
  match count with
  | 0 => pure []
  | count + 1 => do
    let first ← draw
    let others ← repeated count draw
    return first :: others

/-! ## Samples -/

/-- Exchanges the member at `position` with one drawn from it and those after it, for `count`
    positions. -/
def shuffleFrom (members : Array Nat) (position count : Nat) : Draw σ (Array Nat) :=
  match count with
  | 0 => pure members
  | count + 1 => do
    let offset ← below 1 (members.size - position)
    shuffleFrom (members.swapIfInBounds position (position + offset)) (position + 1) count

def sampleShuffled (length amount : Nat) : Draw σ (List Nat) := do
  let members ← shuffleFrom (Array.range length) 0 amount
  return members.toList.take amount

/-- Up to this amount a sample keeps a random order while it grows. -/
def orderedAmount : Nat := 50

/-- Adds one of the positions up to `top` to a sample of positions below `top`: a drawn one, or `top`
    if that is taken already. A sample of a small amount gets `top` before the one that was drawn. -/
def addPosition (amount top drawn : Nat) (sample : List Nat) : List Nat :=
  match sample.idxOf? drawn with
  | none => sample ++ [drawn]
  | some taken => if amount < orderedAmount then sample.insertIdx taken top else sample ++ [top]

/-- Adds `count` positions, the first up to `top`. -/
def growFrom (amount top count : Nat) (sample : List Nat) : Draw σ (List Nat) :=
  match count with
  | 0 => pure sample
  | count + 1 => do
    let drawn ← below 1 (top + 1)
    growFrom amount (top + 1) count (addPosition amount top drawn sample)

/-- Exchanges each of the first `count + 1` members, last first, with one drawn from it and those
    before it. -/
def shuffleDown (members : Array Nat) (count : Nat) : Draw σ (Array Nat) :=
  match count with
  | 0 => pure members
  | count + 1 => do
    let other ← below 1 (count + 2)
    shuffleDown (members.swapIfInBounds (count + 1) other) count

/-- Sampling by growth, with a shuffle at the end for larger amounts. -/
def sampleGrown (length amount : Nat) : Draw σ (List Nat) := do
  let grown ← growFrom amount (length - amount) amount []
  if amount < orderedAmount then return grown
  else return (← shuffleDown grown.toArray (amount - 1)).toList

def prefersShuffle (length amount : Nat) : Bool :=
  length < 500000 &&
    if amount < 163 then 11 < amount && 5 * length < (50 + 8 * amount) * amount
    else length < 270 * amount

/-- `amount` different positions below `length` in random order. -/
def sample (length amount : Nat) : Draw σ (List Nat) :=
  if prefersShuffle length amount then sampleShuffled length amount
  else sampleGrown length amount

/-! ## Choices -/

/-- What every random choice comes down to. -/
class Choices (σ : Type) where
  coin : Draw σ Bool
  below (words bound : Nat) : Draw σ Nat
  sample (length amount : Nat) : Draw σ (List Nat)

instance choicesOfWords : Choices σ where
  coin := coin
  below := below
  sample := sample

/-! ## Ranges -/

theorem joined_lt (words : Nat) (source : σ) : (joined words source).1 < 1 <<< (32 * words) := by
  induction words generalizing source with
  | zero => exact Nat.one_pos
  | succ words ih =>
    have low := (word source).1.toNat_lt
    have high := ih (word source).2
    have power : 1 <<< (32 * (words + 1)) = 1 <<< (32 * words) * 4294967296 := by
      rw [Nat.mul_succ, Nat.shiftLeft_add, Nat.shiftLeft_eq _ 32]
    show (word source).1.toNat + (joined words (word source).2).1 <<< 32 < _
    rw [power, Nat.shiftLeft_eq]
    omega

theorem belowWithin_succ (words bound attempts : Nat) (source : σ) :
    belowWithin words bound (attempts + 1) source =
      let product := (joined words source).1 * bound
      let source := (joined words source).2
      if product % 1 <<< (32 * words) < bound <<< (32 * words - bitLength bound) then
        (product / 1 <<< (32 * words), source)
      else belowWithin words bound attempts source := by
  simp only [belowWithin, bind, StateT.bind]
  split
  rename_i value rest drawn
  simp only [drawn]
  split <;> rfl

theorem belowWithin_lt (words attempts : Nat) {bound : Nat} (positive : 0 < bound) (source : σ) :
    (belowWithin words bound attempts source).1 < bound := by
  induction attempts generalizing source with
  | zero => exact positive
  | succ attempts ih =>
    rw [belowWithin_succ]
    dsimp only
    split
    · exact Nat.div_lt_of_lt_mul (Nat.mul_lt_mul_of_pos_right (joined_lt words source) positive)
    · exact ih _

end

end SatSum.Chance
