import SatSum.Proofs.SubsetSum.BitTable
import Mathlib.Data.Nat.Digits.Defs

/-! # Making a row is shifting a number

The words of a row, lowest first, are the digits of a number in base 2^64, and the bits of the row are
the bits of that number. A row is extended word by word, but what comes out is the number or-ed with
itself shifted, cut off at the end of the row.

* `testBit_value`: a row has the bits of its number.
* `extendRow_shifts`: every bit of the new row, the number it stands for, and the rows left alone.
-/

namespace SatSum.SubsetSum.BitTable

variable {table : BitTable} {row : Nat}

/-- The words of a row of the table. -/
def words? (table : BitTable) (row : Nat) : Option (List UInt64) :=
  table.rows[row]?.map Vector.toList

/-- The number that a row stands for. -/
def value (table : BitTable) (row : Nat) : Nat :=
  Nat.ofDigits (2 ^ 64) (((table.words? row).getD []).map UInt64.toNat)

/-! ## Rows as numbers -/

theorem testBit_ofDigits (words : List UInt64) (bit : Nat) :
    (Nat.ofDigits (2 ^ 64) (words.map UInt64.toNat)).testBit bit
      = (words[bit / 64]?.getD 0).toNat.testBit (bit % 64) := by
  induction words generalizing bit with
  | nil => simp
  | cons word words inductionHypothesis =>
    rw [List.map_cons, Nat.ofDigits_cons, Nat.add_comm, Nat.testBit_two_pow_mul_add _ word.toNat_lt]
    by_cases inFirst : bit < 64
    · rw [if_pos inFirst, Nat.div_eq_of_lt inFirst, Nat.mod_eq_of_lt inFirst]
      rfl
    · have later : bit / 64 = (bit - 64) / 64 + 1 := by omega
      have samePlace : bit % 64 = (bit - 64) % 64 := by omega
      rw [if_neg inFirst, inductionHypothesis, later, samePlace, List.getElem?_cons_succ]

/-- The bits of a row are those of the number it stands for. -/
theorem testBit_value (table : BitTable) (row bit : Nat) :
    (table.value row).testBit bit = table.get row bit := by
  rw [value, testBit_ofDigits, words?, get]
  cases table.rows[row]? with
  | none => simp
  | some words =>
    show _ = BitRow.get words bit
    rw [BitRow.get]
    simp only [Option.map_some, Option.getD_some, Vector.getElem?_toList]
    cases words[bit / 64]? <;> simp

/-! ## The new row -/

theorem words?_extendRow_of_ne {other : Nat} (different : other ≠ row + 1) (distance : Nat)
    (negative : Bool) : (table.extendRow row distance negative).words? other = table.words? other := by
  rw [extendRow]
  split
  next bits here =>
    have unchanged : (table.rows.modify (row + 1) fun _ => BitRow.extend bits distance negative)[other]?
        = table.rows[other]? := by
      rw [Array.getElem?_modify, if_neg different.symm]
    rw [words?, unchanged, words?]
  next missing => rfl

/-- A row is made by shifting the row before: bit by bit, and as a number. No bit comes from outside the
    row, and none is shifted out of it. No other row changes. -/
theorem extendRow_shifts (table : BitTable) {row : Nat} (next : row + 1 < table.rows.size)
    (distance : Nat) (negative : Bool) :
    (∀ bit < 64 * table.rowWords,
        (table.extendRow row distance negative).get (row + 1) bit
          = (table.get row bit
            || if negative then
                decide (bit + distance < 64 * table.rowWords) && table.get row (bit + distance)
              else decide (distance ≤ bit) && table.get row (bit - distance)))
      ∧ (table.extendRow row distance negative).value (row + 1)
        = table.value row ||| (if negative then table.value row >>> distance
            else (table.value row <<< distance) % 2 ^ (64 * table.rowWords))
      ∧ (table.extendRow row distance negative).rowWords = table.rowWords
      ∧ (table.extendRow row distance negative).rows.size = table.rows.size
      ∧ ∀ other, other ≠ row + 1 →
        (table.extendRow row distance negative).words? other = table.words? other := by
  have sameWidth := @rowWords_extendRow table row distance negative
  have bits (bit : Nat) (within : bit < 64 * table.rowWords) :=
    get_extendRow next distance negative within
  refine ⟨?_, ?_, sameWidth, size_extendRow distance negative,
    fun other different => words?_extendRow_of_ne different distance negative⟩
  · intro bit within
    rw [bits bit within]
    cases negative with
    | false => rfl
    | true =>
      by_cases inRow : bit + distance < 64 * table.rowWords
      · simp [inRow]
      · simp [get_eq_false_of_le (Nat.not_lt.1 inRow)]
  · apply Nat.eq_of_testBit_eq
    intro bit
    rw [testBit_value, Nat.testBit_or, testBit_value]
    by_cases within : bit < 64 * table.rowWords
    · rw [bits bit within]
      congr 1
      cases negative with
      | false => simp [Nat.testBit_mod_two_pow, Nat.testBit_shiftLeft, testBit_value, within]
      | true => simp [Nat.testBit_shiftRight, testBit_value, Nat.add_comm]
    -- Past the end neither row has bits, and none are moved there.
    · have outside : 64 * table.rowWords ≤ bit := Nat.not_lt.1 within
      rw [get_eq_false_of_le (sameWidth ▸ outside), get_eq_false_of_le outside]
      cases negative with
      | false => simp [Nat.testBit_mod_two_pow, within]
      | true =>
        have farOutside : 64 * table.rowWords ≤ distance + bit := Nat.le_add_left_of_le outside
        simp [Nat.testBit_shiftRight, testBit_value, get_eq_false_of_le farOutside]

/-- Upwards the lower two bits cross into the second word and the highest one is cut off; downwards, by
    almost the whole row, the highest one comes to the bottom. -/
theorem extendRow_shifts_across_words :
    0 + 1 < (⟨2, #[#v[6, 9223372036854775808], #v[5, 5], #v[7, 7]]⟩ : BitTable).rows.size
      ∧ (extendRow ⟨2, #[#v[6, 9223372036854775808], #v[5, 5], #v[7, 7]]⟩ 0 63 false).value 1
        = 2 ^ 127 + 2 ^ 65 + 2 ^ 64 + 6
      ∧ (extendRow ⟨2, #[#v[6, 9223372036854775808], #v[5, 5], #v[7, 7]]⟩ 0 127 true).get 1 0 = true
      ∧ (extendRow ⟨2, #[#v[6, 9223372036854775808], #v[5, 5], #v[7, 7]]⟩ 0 63 false).words? 2
        = some [7, 7] := by
  obtain ⟨_, upwards, _, _, kept⟩ :=
    @extendRow_shifts ⟨2, #[#v[6, 9223372036854775808], #v[5, 5], #v[7, 7]]⟩ 0 (by decide) 63 false
  obtain ⟨downwards, _⟩ :=
    @extendRow_shifts ⟨2, #[#v[6, 9223372036854775808], #v[5, 5], #v[7, 7]]⟩ 0 (by decide) 127 true
  refine ⟨by decide, ?_, ?_, ?_⟩
  · rw [upwards]
    decide +kernel
  · rw [downwards 0 (by decide)]
    decide +kernel
  · exact kept 2 (by decide)

end SatSum.SubsetSum.BitTable
