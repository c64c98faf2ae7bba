import SatSum.Proofs.Activity
import SatSum.SubsetSum.BitTable

/-! # What bits a row has

A bit of a shifted row is the bit at the shifted place, wherever word boundaries are: the part of a word
that is shifted out comes back as the carry of its neighbour, and past the end there are no bits.

* `BitRow.get_set`, `BitRow.get_extend`: the bits of a row that has been changed.
* `BitTable.get_extendRow`: the bits of a table with one more row.
* `BitTable.get_zeros`, `BitTable.cells_le`: a new table has no bits, and its cells can be counted.
-/

namespace SatSum

namespace SubsetSum

/-! ## Words -/

theorem testBit_shiftLeft_ofNat (word : UInt64) {count bit : Nat} (small : count < 64)
    (inWord : bit < 64) :
    (word <<< UInt64.ofNat count).toNat.testBit bit
      = (decide (count ≤ bit) && word.toNat.testBit (bit - count)) := by
  have sameCount : (UInt64.ofNat count).toNat % 64 = count := by
    rw [UInt64.toNat_ofNat']
    omega
  rw [UInt64.toNat_shiftLeft, sameCount, Nat.testBit_mod_two_pow, Nat.testBit_shiftLeft]
  simp [inWord]

theorem testBit_shiftRight_ofNat (word : UInt64) {count : Nat} (small : count < 64) (bit : Nat) :
    (word >>> UInt64.ofNat count).toNat.testBit bit = word.toNat.testBit (count + bit) := by
  have sameCount : (UInt64.ofNat count).toNat % 64 = count := by
    rw [UInt64.toNat_ofNat']
    omega
  rw [UInt64.toNat_shiftRight, sameCount, Nat.testBit_shiftRight]

theorem testBit_eq_false_of_le (word : UInt64) {bit : Nat} (outside : 64 ≤ bit) :
    word.toNat.testBit bit = false := by
  apply Nat.testBit_lt_two_pow
  exact Nat.lt_of_lt_of_le word.toNat_lt (Nat.pow_le_pow_right (by decide) outside)

namespace BitRow

variable {rowWords : Nat}

/-! ## Rows -/

/-- A word of the row; zero past the end. -/
def word (row : BitRow rowWords) (position : Nat) : UInt64 :=
  row[position]?.getD 0

theorem get_eq_testBit (row : BitRow rowWords) (position : Nat) {bit : Nat} (inWord : bit < 64) :
    row.get (64 * position + bit) = (row.word position).toNat.testBit bit := by
  have quotient : (64 * position + bit) / 64 = position := by omega
  have remainder : (64 * position + bit) % 64 = bit := by omega
  rw [get, quotient, remainder, word]
  cases row[position]? with
  | none => simp
  | some word => rfl

theorem get_eq_false_of_le (row : BitRow rowWords) {bit : Nat} (outside : 64 * rowWords ≤ bit) :
    row.get bit = false := by
  have pastEnd : row[bit / 64]? = none := by
    rw [Vector.getElem?_eq_none_iff]
    omega
  rw [get, pastEnd]

theorem get_zeros (bit : Nat) : get (Vector.replicate rowWords 0) bit = false := by
  rw [get, Vector.getElem?_replicate]
  by_cases within : bit / 64 < rowWords
  · simp [within]
  · simp [within]

theorem word_ofFn (words : Fin rowWords → UInt64) {position : Nat} (within : position < rowWords) :
    word (Vector.ofFn words) position = words ⟨position, within⟩ := by
  simp [word, within]

theorem word_eq_getElem (row : BitRow rowWords) {position : Nat} (within : position < rowWords) :
    row.word position = row[position] := by
  simp [word, within]

/-- Shifting up: a bit comes from as many places below. -/
theorem testBit_wordUp (row : BitRow rowWords) (words : Nat) {bits position bit : Nat}
    (small : bits < 64) (inWord : bit < 64) :
    (row.wordUp words bits position).toNat.testBit bit
      = (decide (64 * words + bits ≤ 64 * position + bit)
          && row.get (64 * position + bit - (64 * words + bits))) := by
  rw [wordUp]
  by_cases below : position < words
  · have tooFar : ¬ 64 * words + bits ≤ 64 * position + bit := by omega
    simp [below, tooFar]
  · obtain ⟨source, rfl⟩ := Nat.exists_eq_add_of_le (Nat.not_lt.1 below)
    rw [if_neg below]
    simp only [Nat.add_sub_cancel_left, UInt64.toNat_or, Nat.testBit_or]
    rw [testBit_shiftLeft_ofNat _ small inWord]
    -- The bits below `bits` come out of the word below, as the carry; the others out of the word itself.
    by_cases sameWord : bits ≤ bit
    · have place : 64 * (words + source) + bit - (64 * words + bits) = 64 * source + (bit - bits) := by
        omega
      have inRange : 64 * words + bits ≤ 64 * (words + source) + bit := by omega
      have noCarry : (if 0 < bits ∧ 0 < source then
          row[source - 1]?.getD 0 >>> UInt64.ofNat (64 - bits) else 0).toNat.testBit bit = false := by
        split
        next carries =>
          rw [testBit_shiftRight_ofNat _ (by omega)]
          exact testBit_eq_false_of_le _ (by omega)
        next none => simp
      rw [noCarry, place, get_eq_testBit row source (by omega)]
      simp [sameWord, inRange, word]
    · by_cases first : source = 0
      -- Below the lowest word there is nothing to carry.
      · simp [sameWord, first]
      · have place : 64 * (words + source) + bit - (64 * words + bits)
            = 64 * (source - 1) + (64 - bits + bit) := by omega
        have inRange : 64 * words + bits ≤ 64 * (words + source) + bit := by omega
        have carries : 0 < bits ∧ 0 < source := by omega
        rw [if_pos carries, testBit_shiftRight_ofNat _ (by omega), place,
          get_eq_testBit row (source - 1) (by omega)]
        simp [sameWord, inRange, word]

/-- Shifting down: a bit comes from as many places above. -/
theorem testBit_wordDown (row : BitRow rowWords) (words : Nat) {bits position bit : Nat}
    (small : bits < 64) (inWord : bit < 64) :
    (row.wordDown words bits position).toNat.testBit bit
      = row.get (64 * position + bit + (64 * words + bits)) := by
  rw [wordDown]
  simp only [UInt64.toNat_or, Nat.testBit_or]
  rw [testBit_shiftRight_ofNat _ small]
  by_cases sameWord : bits + bit < 64
  · have place : 64 * position + bit + (64 * words + bits)
        = 64 * (position + words) + (bits + bit) := by omega
    have noCarry : (if 0 < bits then
        row[position + words + 1]?.getD 0 <<< UInt64.ofNat (64 - bits) else 0).toNat.testBit bit
          = false := by
      split
      next carries =>
        rw [testBit_shiftLeft_ofNat _ (by omega) inWord]
        have before : ¬ 64 - bits ≤ bit := by omega
        simp [before]
      next none => simp
    rw [noCarry, place, get_eq_testBit row _ sameWord, Bool.or_false]
    rfl
  · have place : 64 * position + bit + (64 * words + bits)
        = 64 * (position + words + 1) + (bit - (64 - bits)) := by omega
    have carries : 0 < bits := by omega
    have after : 64 - bits ≤ bit := by omega
    rw [if_pos carries, testBit_shiftLeft_ofNat _ (by omega) inWord,
      testBit_eq_false_of_le _ (Nat.not_lt.1 sameWord), place, get_eq_testBit row _ (by omega)]
    simp [after, word]

/-- Each bit of the extended row is that of the row or the one moved to its place. -/
theorem get_extend (row : BitRow rowWords) (distance : Nat) (negative : Bool) {bit : Nat}
    (within : bit < 64 * rowWords) :
    (row.extend distance negative).get bit
      = (row.get bit
        || if negative then row.get (bit + distance)
          else decide (distance ≤ bit) && row.get (bit - distance)) := by
  obtain ⟨position, place, inWord, rfl⟩ : ∃ position place, place < 64 ∧ bit = 64 * position + place :=
    ⟨bit / 64, bit % 64, Nat.mod_lt _ (by decide), by omega⟩
  have inRow : position < rowWords := by omega
  have small : distance % 64 < 64 := Nat.mod_lt _ (by decide)
  have sameDistance : 64 * (distance / 64) + distance % 64 = distance := by omega
  rw [get_eq_testBit _ _ inWord, get_eq_testBit _ _ inWord, extend, word_ofFn _ inRow,
    word_eq_getElem _ inRow]
  simp only [UInt64.toNat_or, Nat.testBit_or]
  congr 1
  cases negative with
  | true =>
    simp only [if_true]
    rw [testBit_wordDown row _ small inWord, sameDistance]
  | false =>
    simp only [Bool.false_eq_true, if_false]
    rw [testBit_wordUp row _ small inWord, sameDistance]

theorem get_set (row : BitRow rowWords) {target : Nat} (within : target < 64 * rowWords) (bit : Nat) :
    (row.set target).get bit = (row.get bit || bit == target) := by
  by_cases inside : bit < 64 * rowWords
  · obtain ⟨position, place, inWord, rfl⟩ : ∃ position place, place < 64
        ∧ bit = 64 * position + place := ⟨bit / 64, bit % 64, Nat.mod_lt _ (by decide), by omega⟩
    have inRow : position < rowWords := by omega
    rw [get_eq_testBit _ _ inWord, get_eq_testBit _ _ inWord, set, word_ofFn _ inRow,
      word_eq_getElem _ inRow]
    by_cases here : position = target / 64
    · have small : target % 64 < 64 := Nat.mod_lt _ (by decide)
      rw [if_pos here, UInt64.toNat_or, Nat.testBit_or, testBit_shiftLeft_ofNat _ small inWord]
      congr 1
      rw [UInt64.toNat_one, Bool.eq_iff_iff, Bool.and_eq_true, decide_eq_true_eq,
        Nat.testBit_one_eq_true_iff_self_eq_zero, beq_iff_eq]
      omega
    · have different : (64 * position + place == target) = false := by
        rw [beq_eq_false_iff_ne]
        omega
      rw [if_neg here, different, Bool.or_false]
      rfl
  · have different : (bit == target) = false := by
      rw [beq_eq_false_iff_ne]
      omega
    rw [get_eq_false_of_le _ (Nat.not_lt.1 inside), get_eq_false_of_le _ (Nat.not_lt.1 inside),
      different]
    rfl

end BitRow

namespace BitTable

variable {table : BitTable} {row other : Nat}

/-! ## Tables -/

theorem size_extendRow (distance : Nat) (negative : Bool) :
    (table.extendRow row distance negative).rows.size = table.rows.size := by
  rw [extendRow]
  split <;> simp

theorem rowWords_extendRow (distance : Nat) (negative : Bool) :
    (table.extendRow row distance negative).rowWords = table.rowWords := by
  rw [extendRow]
  split <;> rfl

/-- The new row has the bits of the row before and those moved. -/
theorem get_extendRow (next : row + 1 < table.rows.size) (distance : Nat) (negative : Bool) {bit : Nat}
    (within : bit < 64 * table.rowWords) :
    (table.extendRow row distance negative).get (row + 1) bit
      = (table.get row bit
        || if negative then table.get row (bit + distance)
          else decide (distance ≤ bit) && table.get row (bit - distance)) := by
  have here : table.rows[row]? = some table.rows[row] :=
    Array.getElem?_eq_getElem (Nat.lt_of_succ_lt next)
  have extended : table.extendRow row distance negative
      = { table with rows := table.rows.modify (row + 1) fun _ =>
            BitRow.extend table.rows[row] distance negative } := by
    rw [extendRow, here]
  have newRow : (table.rows.modify (row + 1) fun _ =>
      BitRow.extend table.rows[row] distance negative)[row + 1]?
      = some (BitRow.extend table.rows[row] distance negative) := by
    rw [Array.getElem?_modify]
    simp [next]
  have oldRow (bit : Nat) : table.get row bit = BitRow.get table.rows[row] bit := by
    rw [get, here]
  simp only [oldRow]
  rw [extended, get, newRow]
  exact BitRow.get_extend _ distance negative within

theorem get_extendRow_of_ne (different : other ≠ row + 1) (distance : Nat) (negative : Bool)
    (bit : Nat) : (table.extendRow row distance negative).get other bit = table.get other bit := by
  rw [extendRow]
  split
  next bits here =>
    simp only [get, Array.getElem?_modify, Ne.symm different, if_false]
    cases table.rows[other]? <;> rfl
  next missing => rfl

/-- The table without bits that is allocated. -/
def zeros (rows width : Nat) : BitTable :=
  ⟨wordsFor width, Array.replicate rows (Vector.replicate (wordsFor width) 0)⟩

@[simp] theorem size_zeros (rows width : Nat) : (zeros rows width).rows.size = rows :=
  Array.size_replicate

theorem le_rowWords_zeros (rows width : Nat) : width ≤ 64 * (zeros rows width).rowWords := by
  show width ≤ 64 * ((width + 63) / 64)
  omega

@[simp] theorem get_zeros (rows width row bit : Nat) : (zeros rows width).get row bit = false := by
  rw [get, zeros, Array.getElem?_replicate]
  by_cases inTable : row < rows
  · rw [if_pos inTable]
    exact BitRow.get_zeros bit
  · rw [if_neg inTable]

theorem allocate_eq_ok {rows width : Nat} (fits : wordsFor width * rows ≤ maxWords) :
    allocate rows width = .ok (zeros rows width) := by
  rw [allocate, if_neg (Nat.not_lt.2 fits)]
  rfl

theorem allocate_eq_error {rows width : Nat} (tooLarge : maxWords < wordsFor width * rows) :
    allocate rows width = .error (.exhausted (.space (.table rows width))) := by
  rw [allocate, if_pos tooLarge]

/-- The cells of a table that is not too large can be counted. -/
theorem cells_le {rows width : Nat} (fits : wordsFor width * rows ≤ maxWords) :
    rows * width ≤ maxWord :=
  calc rows * width ≤ rows * (64 * wordsFor width) :=
        Nat.mul_le_mul_left rows (le_rowWords_zeros rows width)
    _ = 64 * (wordsFor width * rows) := by rw [Nat.mul_left_comm, Nat.mul_comm rows]
    _ ≤ 64 * maxWords := Nat.mul_le_mul_left 64 fits
    _ ≤ maxWord := by decide

theorem size_set {target : Nat} : (table.set row target).rows.size = table.rows.size :=
  Array.size_modify

theorem rowWords_set {target : Nat} : (table.set row target).rowWords = table.rowWords :=
  rfl

theorem get_set (inTable : row < table.rows.size) {target : Nat} (within : target < 64 * table.rowWords)
    (bit : Nat) : (table.set row target).get row bit = (table.get row bit || bit == target) := by
  have here : table.rows[row]? = some table.rows[row] := Array.getElem?_eq_getElem inTable
  have changed : (table.rows.modify row (BitRow.set · target))[row]?
      = some (BitRow.set table.rows[row] target) := by
    rw [Array.getElem?_modify, if_pos rfl, here]
    rfl
  have oldRow : table.get row bit = BitRow.get table.rows[row] bit := by
    rw [get, here]
  rw [oldRow, set, get, changed]
  exact BitRow.get_set _ within bit

theorem get_set_of_ne (different : other ≠ row) (target bit : Nat) :
    (table.set row target).get other bit = table.get other bit := by
  have unchanged : (table.rows.modify row (BitRow.set · target))[other]? = table.rows[other]? := by
    rw [Array.getElem?_modify, if_neg different.symm]
  rw [set, get, unchanged, get]
  cases table.rows[other]? <;> rfl

theorem get_eq_false_of_le {bit : Nat} (outside : 64 * table.rowWords ≤ bit) :
    table.get row bit = false := by
  rw [get]
  split
  next bits here => exact BitRow.get_eq_false_of_le bits outside
  next missing => rfl

end BitTable

end SubsetSum

end SatSum
