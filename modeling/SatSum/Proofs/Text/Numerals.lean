import Mathlib.Algebra.Order.Ring.Int
import SatSum.Proofs.Text.Words
import SatSum.Text.Numeral

/-! # Spellings of numbers

A number is spelled by a run of decimal digits after a sign, which may be left out. Machine integers
have to be in range, integers of any size may have underscores after the first digit. Each reader of
numerals takes exactly the spellings of its kind, and what is written for a number is one of them.

* `count?_eq_some_iff`, `signed?_eq_some_iff`, `integer?_eq_some_iff`: what the readers take.
* `spellsCount_toString`, `spellsSigned_toString`, `spellsInteger_toString`: what is written reads
  back.
-/

namespace SatSum.Text

/-! ## Runs of digits -/

/-- Decimal digits, at least one, with their value. -/
structure IsDecimal (digits : List Char) (value : Nat) : Prop where
  nonempty : digits ≠ []
  allDigits : ∀ c ∈ digits, c.isDigit = true
  value_eq : Nat.ofDigitChars 10 digits 0 = value

/-- Decimal digits with underscores that count for nothing, a digit first. -/
structure IsSpacedDecimal (chars : List Char) (value : Nat) : Prop where
  digitFirst : chars.head? ≠ some '_'
  isDecimal : IsDecimal (chars.filter (· ≠ '_')) value

theorem digitsFrom_eq (digits : List Char) :
    digitsFrom 0 digits = Nat.ofDigitChars 10 digits 0 := by
  rw [digitsFrom, Nat.ofDigitChars_eq_foldl]
  simp only [Nat.mul_comm]

theorem natural?_eq_some_iff {chars : List Char} {value : Nat} :
    natural? chars = some value ↔ IsDecimal chars value := by
  rw [natural?, digitsFrom_eq]
  split
  next isRun =>
    rw [Bool.and_eq_true, List.all_eq_true] at isRun
    have nonempty : chars ≠ [] := by simpa using isRun.1
    constructor
    · intro read
      exact ⟨nonempty, isRun.2, Option.some.inj read⟩
    · intro isDecimal
      rw [isDecimal.value_eq]
  next noRun =>
    constructor
    · intro read
      cases read
    · intro isDecimal
      refine absurd ?_ noRun
      rw [Bool.and_eq_true, List.all_eq_true]
      exact ⟨by simpa using isDecimal.nonempty, isDecimal.allDigits⟩

theorem spacedNatural?_eq_some_iff {chars : List Char} {value : Nat} :
    spacedNatural? chars = some value ↔ IsSpacedDecimal chars value := by
  unfold spacedNatural?
  split
  next rest =>
    constructor
    · intro read
      cases read
    · intro isSpaced
      exact absurd rfl isSpaced.digitFirst
  next notFirst =>
    rw [natural?_eq_some_iff]
    constructor
    · intro isDecimal
      refine ⟨?_, isDecimal⟩
      intro first
      obtain ⟨rest, rfl⟩ := List.head?_eq_some_iff.1 first
      exact notFirst rest rfl
    · exact IsSpacedDecimal.isDecimal

/-! ## Signs -/

/-- A run of digits without a sign, or with one in front. -/
inductive Signed (run : List Char → Nat → Prop) : List Char → Int → Prop
  | plain {chars : List Char} {value : Nat} : run chars value → Signed run chars value
  | plus {chars : List Char} {value : Nat} : run chars value → Signed run ('+' :: chars) value
  | minus {chars : List Char} {value : Nat} : run chars value → Signed run ('-' :: chars) (-value)

/-- A count: at most the largest word, with no sign but a plus. -/
def SpellsCount (word : List Char) (count : Nat) : Prop :=
  (IsDecimal word count ∨ ∃ digits, word = '+' :: digits ∧ IsDecimal digits count)
    ∧ count ≤ maxWord

/-- A signed machine integer. -/
def SpellsSigned (word : List Char) (number : Int) : Prop :=
  Signed IsDecimal word number ∧ -2 ^ 63 ≤ number ∧ number < 2 ^ 63

/-- An integer of any size. -/
def SpellsInteger (word : List Char) (number : Int) : Prop :=
  Signed IsSpacedDecimal word number

/-- No run starts with a sign. -/
def Unsigned (run : List Char → Nat → Prop) : Prop :=
  ∀ (sign : Char) (chars : List Char) (value : Nat), sign = '+' ∨ sign = '-' →
    ¬ run (sign :: chars) value

theorem unsigned_isDecimal : Unsigned IsDecimal := by
  intro sign chars value isSign isDecimal
  have isDigit := isDecimal.allDigits sign List.mem_cons_self
  rcases isSign with rfl | rfl <;> cases isDigit

theorem unsigned_isSpacedDecimal : Unsigned IsSpacedDecimal := by
  intro sign chars value isSign isSpaced
  have kept : sign ≠ '_' := by
    rcases isSign with rfl | rfl <;> decide
  have isDecimal := isSpaced.isDecimal
  rw [List.filter_cons_of_pos (by simpa using kept)] at isDecimal
  exact unsigned_isDecimal sign _ value isSign isDecimal

section Signs

variable {run : List Char → Nat → Prop} (unsigned : Unsigned run) {chars : List Char} {number : Int}

include unsigned

theorem run_dropPlus_iff {value : Nat} :
    run (dropPlus chars) value
      ↔ run chars value ∨ ∃ digits, chars = '+' :: digits ∧ run digits value := by
  unfold dropPlus
  split
  next rest =>
    constructor
    · exact fun isRun => Or.inr ⟨rest, rfl, isRun⟩
    · rintro (isRun | ⟨digits, same, isRun⟩)
      · exact absurd isRun (unsigned '+' rest value (Or.inl rfl))
      · cases same
        exact isRun
  next noPlus =>
    constructor
    · exact Or.inl
    · rintro (isRun | ⟨digits, same, _⟩)
      · exact isRun
      · exact absurd same (noPlus digits)

theorem signed_minus_iff :
    Signed run ('-' :: chars) number
      ↔ ∃ value : Nat, run chars value ∧ -(value : Int) = number := by
  constructor
  · intro signed
    cases signed with
    | plain isRun => exact absurd isRun (unsigned '-' chars _ (Or.inr rfl))
    | minus isRun => exact ⟨_, isRun, rfl⟩
  · rintro ⟨value, isRun, rfl⟩
    exact .minus isRun

theorem signed_dropPlus_iff (noMinus : ∀ rest, chars ≠ '-' :: rest) :
    Signed run chars number
      ↔ ∃ value : Nat, run (dropPlus chars) value ∧ (value : Int) = number := by
  constructor
  · intro signed
    cases signed with
    | plain isRun => exact ⟨_, (run_dropPlus_iff unsigned).2 (Or.inl isRun), rfl⟩
    | plus isRun => exact ⟨_, (run_dropPlus_iff unsigned).2 (Or.inr ⟨_, rfl, isRun⟩), rfl⟩
    | minus isRun => exact absurd rfl (noMinus _)
  · rintro ⟨value, isRun, rfl⟩
    rcases (run_dropPlus_iff unsigned).1 isRun with plain | ⟨digits, rfl, plus⟩
    · exact .plain plain
    · exact .plus plus

end Signs

/-! ## Readers -/

theorem count?_eq_some_iff {word : List Char} {count : Nat} :
    count? word = some count ↔ SpellsCount word count := by
  rw [count?, Option.filter_eq_some_iff, natural?_eq_some_iff, run_dropPlus_iff unsigned_isDecimal,
    decide_eq_true_iff]
  rfl

theorem map_neg_eq_some_iff {magnitude : Option Nat} {number : Int} :
    (magnitude >>= fun value => pure (value : Int)).map (fun value => -value) = some number
      ↔ ∃ value, magnitude = some value ∧ -(value : Int) = number := by
  cases magnitude <;> simp

theorem signed?_eq_some_iff {word : List Char} {number : Int} :
    signed? word = some number ↔ SpellsSigned word number := by
  have limit : (1 <<< 63 : Nat) = 2 ^ 63 := by decide
  unfold signed?
  rw [SpellsSigned]
  split
  next digits =>
    rw [map_neg_eq_some_iff, signed_minus_iff unsigned_isDecimal]
    simp only [Option.filter_eq_some_iff, natural?_eq_some_iff, decide_eq_true_iff, limit]
    constructor
    · rintro ⟨value, ⟨isDecimal, small⟩, rfl⟩
      exact ⟨⟨value, isDecimal, rfl⟩, by omega, by omega⟩
    · rintro ⟨⟨value, isDecimal, rfl⟩, least, _⟩
      exact ⟨value, ⟨isDecimal, by omega⟩, rfl⟩
  next noMinus =>
    rw [signed_dropPlus_iff unsigned_isDecimal noMinus]
    simp only [Option.map_eq_some_iff, Option.filter_eq_some_iff, natural?_eq_some_iff,
      decide_eq_true_iff, limit, Int.ofNat_eq_natCast]
    constructor
    · rintro ⟨value, ⟨isDecimal, small⟩, rfl⟩
      exact ⟨⟨value, isDecimal, rfl⟩, by omega, by omega⟩
    · rintro ⟨⟨value, isDecimal, rfl⟩, _, greatest⟩
      exact ⟨value, ⟨isDecimal, by omega⟩, rfl⟩

theorem integer?_eq_some_iff {word : List Char} {number : Int} :
    integer? word = some number ↔ SpellsInteger word number := by
  unfold integer?
  rw [SpellsInteger]
  split
  next digits =>
    rw [map_neg_eq_some_iff, signed_minus_iff unsigned_isSpacedDecimal]
    simp only [spacedNatural?_eq_some_iff]
  next noMinus =>
    rw [signed_dropPlus_iff unsigned_isSpacedDecimal noMinus]
    simp only [Option.map_eq_some_iff, spacedNatural?_eq_some_iff, Int.ofNat_eq_natCast]

section Reads

variable {α : Type} {read : List Char → Option α} {spells : List Char → α → Prop}
  (reads : ∀ word number, read word = some number ↔ spells word number)

include reads

/-- A reader gives nothing where nothing is spelled. -/
theorem eq_none_iff_of_reads (word : List Char) :
    read word = none ↔ ∀ number, ¬ spells word number := by
  simp only [Option.eq_none_iff_forall_ne_some, ne_eq, reads]

/-- A word that is read spells one number only. -/
theorem rightUnique_of_reads : Relator.RightUnique spells :=
  fun _ _ _ left right => Option.some.inj (((reads _ _).2 left).symm.trans ((reads _ _).2 right))

end Reads

theorem count?_eq_none_iff {word : List Char} :
    count? word = none ↔ ∀ count, ¬ SpellsCount word count :=
  eq_none_iff_of_reads (fun _ _ => count?_eq_some_iff) word

theorem signed?_eq_none_iff {word : List Char} :
    signed? word = none ↔ ∀ number, ¬ SpellsSigned word number :=
  eq_none_iff_of_reads (fun _ _ => signed?_eq_some_iff) word

theorem integer?_eq_none_iff {word : List Char} :
    integer? word = none ↔ ∀ number, ¬ SpellsInteger word number :=
  eq_none_iff_of_reads (fun _ _ => integer?_eq_some_iff) word

theorem rightUnique_spellsCount : Relator.RightUnique SpellsCount :=
  rightUnique_of_reads fun _ _ => count?_eq_some_iff

theorem rightUnique_spellsSigned : Relator.RightUnique SpellsSigned :=
  rightUnique_of_reads fun _ _ => signed?_eq_some_iff

theorem rightUnique_spellsInteger : Relator.RightUnique SpellsInteger :=
  rightUnique_of_reads fun _ _ => integer?_eq_some_iff

/-! ## What is written -/

theorem isDecimal_toString (number : Nat) : IsDecimal (toString number).toList number := by
  rw [Nat.toString_eq_ofList_toDigits, String.toList_ofList]
  exact ⟨Nat.toDigits_ne_nil,
    fun c member => Nat.isDigit_of_mem_toDigits (by decide) (by decide) member,
    Nat.ofDigitChars_ten_toDigits⟩

theorem signed_toString (number : Int) : Signed IsDecimal (toString number).toList number := by
  show Signed IsDecimal number.repr.toList number
  rw [Int.repr_eq_if]
  split
  next notNegative =>
    have written := Signed.plain (isDecimal_toString number.toNat)
    rwa [Int.toNat_of_nonneg notNegative] at written
  next negative =>
    have written := Signed.minus (isDecimal_toString (-number).toNat)
    rw [Int.toNat_of_nonneg (by omega), Int.neg_neg] at written
    rw [String.toList_append]
    exact written

theorem IsDecimal.isSpacedDecimal {digits : List Char} {value : Nat}
    (isDecimal : IsDecimal digits value) : IsSpacedDecimal digits value := by
  have noUnderscore : ∀ c ∈ digits, c ≠ '_' := by
    rintro c member rfl
    cases isDecimal.allDigits '_' member
  constructor
  · intro first
    exact noUnderscore '_' (List.mem_of_mem_head? first) rfl
  · rwa [List.filter_eq_self.2 (by simpa using noUnderscore)]

theorem spellsCount_toString {count : Nat} (fits : count ≤ maxWord) :
    SpellsCount (toString count).toList count :=
  ⟨Or.inl (isDecimal_toString count), fits⟩

theorem spellsSigned_toString {number : Int} (least : -2 ^ 63 ≤ number)
    (greatest : number < 2 ^ 63) : SpellsSigned (toString number).toList number :=
  ⟨signed_toString number, least, greatest⟩

theorem spellsInteger_of_signed {word : List Char} {number : Int}
    (signed : Signed IsDecimal word number) : SpellsInteger word number := by
  cases signed with
  | plain isDecimal => exact .plain isDecimal.isSpacedDecimal
  | plus isDecimal => exact .plus isDecimal.isSpacedDecimal
  | minus isDecimal => exact .minus isDecimal.isSpacedDecimal

theorem spellsInteger_toString (number : Int) : SpellsInteger (toString number).toList number :=
  spellsInteger_of_signed (signed_toString number)

/-! ## Numerals are words -/

/-- What a written numeral consists of. -/
def IsNumeralChar (c : Char) : Prop :=
  c.isDigit = true ∨ c = '+' ∨ c = '-'

instance : DecidablePred IsNumeralChar :=
  fun c => inferInstanceAs (Decidable (c.isDigit = true ∨ c = '+' ∨ c = '-'))

theorem IsNumeralChar.ne {c other : Char} (isNumeralChar : IsNumeralChar c)
    (isOther : ¬ IsNumeralChar other) : c ≠ other := by
  rintro rfl
  exact isOther isNumeralChar

theorem isBlank_of_isDigit {c : Char} (isDigit : c.isDigit = true) : isBlank c = false := by
  simp only [Char.isDigit, Bool.and_eq_true, decide_eq_true_eq, ge_iff_le,
    UInt32.le_iff_toNat_le] at isDigit
  have least : 48 ≤ c.toNat := isDigit.1
  have greatest : c.toNat ≤ 57 := isDigit.2
  simp only [isBlank, blankRanges, List.any_cons, List.any_nil, Bool.or_false,
    Bool.or_eq_false_iff, Bool.and_eq_false_iff, decide_eq_false_iff_not]
  omega

theorem IsNumeralChar.isBlank_eq_false {c : Char} (isNumeralChar : IsNumeralChar c) :
    isBlank c = false := by
  rcases isNumeralChar with isDigit | rfl | rfl
  · exact isBlank_of_isDigit isDigit
  · decide
  · decide

theorem isNumeralChar_of_signed {word : List Char} {number : Int}
    (signed : Signed IsDecimal word number) : ∀ c ∈ word, IsNumeralChar c := by
  cases signed with
  | plain isDecimal => exact fun c member => Or.inl (isDecimal.allDigits c member)
  | plus isDecimal =>
    exact List.forall_mem_cons.2
      ⟨Or.inr (Or.inl rfl), fun c member => Or.inl (isDecimal.allDigits c member)⟩
  | minus isDecimal =>
    exact List.forall_mem_cons.2
      ⟨Or.inr (Or.inr rfl), fun c member => Or.inl (isDecimal.allDigits c member)⟩

theorem isWord_of_signed {word : List Char} {number : Int} (signed : Signed IsDecimal word number) :
    IsWord word where
  nonempty := by
    cases signed with
    | plain isDecimal => exact isDecimal.nonempty
    | plus => exact List.cons_ne_nil _ _
    | minus => exact List.cons_ne_nil _ _
  solid := fun c member => (isNumeralChar_of_signed signed c member).isBlank_eq_false

theorem isWord_toString (number : Nat) : IsWord (toString number).toList :=
  isWord_of_signed (.plain (isDecimal_toString number))

/-- A line of numerals does not start like a comment or a key. -/
theorem first?_of_numerals {line word : List Char} {more : List (List Char)}
    (split : words line = word :: more) {number : Int} (signed : Signed IsDecimal word number) :
    ∃ c, first? line = some c ∧ IsNumeralChar c := by
  obtain ⟨c, rest, rfl⟩ := List.exists_cons_of_ne_nil (isWord_of_signed signed).nonempty
  exact ⟨c, first?_of_words split, isNumeralChar_of_signed signed c List.mem_cons_self⟩

end SatSum.Text
