import SatSum.Proofs.Reduction.Size
import SatSum.Proofs.Reduction.ThreeLiterals

/-! # Reductions in words

Numbers of variables, columns and positions are words, so a reduction may stop at one that is too large.
For three-literal clauses that is the number of an auxiliary variable. For an encoding it can only be
what comes before the weights: twice the width of a clause, the number of columns, or the room for as
many weights. Once there are weights no operation has a stop, and what is refused is refused for its
size.

* `ends_ofClauses_bitBound`: with its weights, an encoding never stops.
* `Formula.complete_encoding`: room is made for an encoding before it is made.
* `reductions_in_words`: both reductions of a formula.
-/

namespace SatSum

/-- The fault says that a number would have too many bits. -/
def Fault.IsBitBound : Fault → Prop
  | .malformed (.elementTooLarge _ _) => True
  | .malformed (.targetTooLarge _) => True
  | .malformed (.encodingTooLarge _ _) => True
  | _ => False

namespace Encoding

variable {numVariables : Nat} {clauses : List Clause}

/-- An instance is refused for an element or a target that is too large. -/
theorem ends_validate (problem : SubsetSum.Instance) :
    Ends (fun _ => True) Fault.IsBitBound problem.validate := by
  unfold SubsetSum.Instance.validate
  split
  next found => trivial
  next noneFound => split <;> trivial

/-- Every sum, difference and index of an encoding has a result. -/
theorem ends_ofClauses_bitBound (within : ∀ clause ∈ clauses, clause.Within numVariables)
    (narrow : ∀ clause ∈ clauses, clause.length ≤ max 3 numVariables) :
    Ends (fun _ => True) Fault.IsBitBound (ofClauses numVariables clauses) := by
  cases found : weightsFrom? (radixFor clauses) 1 (numVariables + clauses.length) with
  | none =>
    rw [ofClauses_of_none found]
    trivial
  | some weights =>
    rw [ofClauses_of_some within found, Checked.add_eq_ok (positions_fit narrow (columns_le found)), ok_bind]
    exact (ends_validate _).bind fun _ _ => trivial

/-! ## Making room -/

/-- Twice the width of the widest clause, both as 32-bit words, is one again. -/
def RadixFits (clauses : List Clause) : Prop :=
  2 * (widest clauses % UInt32.size) < UInt32.size

instance (clauses : List Clause) : Decidable (RadixFits clauses) :=
  inferInstanceAs (Decidable (_ < _))

theorem reserve_of_not_radixFits (tooWide : ¬ RadixFits clauses) :
    reserve numVariables clauses = Checked.stop .product := by
  rw [reserve, if_pos (Nat.not_lt.1 tooWide)]
  rfl

theorem reserve_of_radixFits (fits : RadixFits clauses) :
    reserve numVariables clauses = Checked.add numVariables clauses.length >>= fun columns =>
      if maxColumns < columns then Checked.stop .capacity else .ok () := by
  rw [reserve, if_neg (Nat.not_le.2 fits)]
  rfl

/-- How far the first steps of an encoding come. -/
structure ReservesInWords (numVariables : Nat) (clauses : List Clause) (result : Except Fault Unit) :
    Prop where
  product : ¬ RadixFits clauses → result = Checked.stop .product
  sum : RadixFits clauses → maxWord < numVariables + clauses.length → result = Checked.stop .sum
  capacity : RadixFits clauses → maxColumns < numVariables + clauses.length →
    numVariables + clauses.length ≤ maxWord → result = Checked.stop .capacity
  room : RadixFits clauses → numVariables + clauses.length ≤ maxColumns → result = .ok ()

theorem reservesInWords (numVariables : Nat) (clauses : List Clause) :
    ReservesInWords numVariables clauses (reserve numVariables clauses) where
  product := reserve_of_not_radixFits
  sum fits tooLarge := by
    rw [reserve_of_radixFits fits, Checked.add_eq_stop tooLarge]
    rfl
  capacity fits tooMany isWord := by
    rw [reserve_of_radixFits fits, Checked.add_eq_ok isWord, ok_bind, if_pos tooMany]
  room fits few := by
    have isWord : numVariables + clauses.length ≤ maxWord := few.trans (by decide)
    rw [reserve_of_radixFits fits, Checked.add_eq_ok isWord, ok_bind, if_neg (Nat.not_lt.2 few)]

end Encoding

/-! ## Formulas -/

namespace Formula

variable {formula : Formula} {fault : Fault}

theorem complete_encoding (formula : Formula) :
    formula.encoding.complete = formula.reserve >>= fun _ => formula.encode := by
  simp only [encoding, Activity.complete_bind, Activity.complete_ofExcept, Activity.complete_report,
    Activity.complete_pure]
  cases formula.encode <;> rfl

theorem encode_refused (wellFormed : formula.WellFormed) (refused : formula.encode = .error fault) :
    fault.IsBitBound := by
  have ends := Encoding.ends_ofClauses_bitBound (Clause.normalize_within wellFormed.within)
    (narrow_normalize wellFormed)
  rw [encode, validate_eq_ok_iff.2 wellFormed, ok_bind] at refused
  rwa [refused] at ends

end Formula

/-- How a formula is encoded by the arithmetic of words. Only what comes before the weights may stop. -/
structure Formula.EncodesInWords (formula : Formula) : Prop where
  reserves : Encoding.ReservesInWords formula.numVariables (Clause.normalize formula.clauses) formula.reserve
  refused : ∀ fault, formula.encode = .error fault → fault.IsBitBound
  encoded : formula.encoding.complete = formula.reserve >>= fun _ => formula.encode

/-- The reductions of a formula that validation accepts, its number of variables being a word. The one to
    three literals gives a well-formed formula as long as the numbers of the auxiliary variables are words,
    and otherwise the program stops at a sum; no clause is refused. The encoding stops at twice the width
    of a clause, at the number of columns, or if there is no room for their weights. After that it is
    refused for its size or for nothing. -/
theorem reductions_in_words (formula : Formula) (accepted : formula.validate = .ok ())
    (small : formula.numVariables ≤ maxWord) :
    (formula.numVariables + formula.auxiliaryCount ≤ maxWord →
      ∃ reduction, formula.reduceToThree = .ok reduction
        ∧ reduction.formula.numVariables = formula.numVariables + formula.auxiliaryCount
        ∧ reduction.formula.validate = .ok ())
    ∧ (maxWord < formula.numVariables + formula.auxiliaryCount →
      formula.reduceToThree = Checked.stop .sum)
    ∧ formula.EncodesInWords := by
  have wellFormed := Formula.validate_eq_ok_iff.1 accepted
  refine ⟨?_, ?_, ?_, ?_, ?_⟩
  · intro fits
    have hasVariable := wellFormed.hasVariable
    refine ⟨_, Formula.reduceToThree_eq_ok wellFormed fits, rfl, Formula.validate_eq_ok_iff.2 ?_⟩
    exact ThreeFormula.wellFormed_toFormula (by dsimp only; omega)
      (Clause.blocksFrom_proper (Clause.normalize_within wellFormed.within) Clause.normalize_distinctVars)
  · intro tooLarge
    rw [Formula.reduceToThree_eq wellFormed small, if_neg (Nat.not_le.2 tooLarge)]
  · rw [Formula.reserve, accepted, ok_bind]
    exact Encoding.reservesInWords _ _
  · exact fun fault => Formula.encode_refused wellFormed
  · exact formula.complete_encoding

/-- The last numbers that are words, and the first that is none; a number of columns that is a word and
    leaves no room; and an encoding. -/
theorem reductions_in_words_at_the_top :
    (∃ reduction, (⟨18446744073709551612, [[]]⟩ : Formula).reduceToThree = .ok reduction
        ∧ reduction.formula.numVariables = maxWord ∧ reduction.formula.validate = .ok ())
      ∧ (⟨18446744073709551613, [[]]⟩ : Formula).reduceToThree = Checked.stop .sum
      ∧ (⟨maxWord, [[⟨1, true⟩]]⟩ : Formula).encoding.complete = Checked.stop .sum
      ∧ (⟨2 ^ 58, []⟩ : Formula).encoding.complete = Checked.stop .capacity
      ∧ (⟨2, [[⟨1, true⟩, ⟨2, true⟩]]⟩ : Formula).encoding.complete
        = .ok ⟨2, [[⟨1, true⟩, ⟨2, true⟩]], ⟨[101, 100, 11, 10, 1], 112⟩⟩ := by
  obtain ⟨reduction, reduced, sameCount, accepted⟩ :=
    (reductions_in_words ⟨18446744073709551612, [[]]⟩ rfl (by decide)).1 (by decide +kernel)
  obtain ⟨_, stopped, _⟩ := reductions_in_words ⟨18446744073709551613, [[]]⟩ rfl (by decide)
  obtain ⟨_, _, unaddable⟩ := reductions_in_words ⟨maxWord, [[⟨1, true⟩]]⟩ rfl (by decide)
  obtain ⟨_, _, tooMany⟩ := reductions_in_words ⟨2 ^ 58, []⟩ rfl (by decide)
  obtain ⟨_, _, inWords⟩ := reductions_in_words ⟨2, [[⟨1, true⟩, ⟨2, true⟩]]⟩ rfl (by decide)
  refine ⟨⟨reduction, reduced, sameCount, accepted⟩, stopped (by decide +kernel), ?_, ?_, ?_⟩
  · rw [unaddable.encoded, unaddable.reserves.sum (by decide +kernel) (by decide +kernel)]
    rfl
  · rw [tooMany.encoded, tooMany.reserves.capacity (by decide +kernel) (by decide +kernel) (by decide +kernel)]
    rfl
  · rw [inWords.encoded, inWords.reserves.room (by decide +kernel) (by decide +kernel)]
    rfl

/-- The auxiliary variable after the largest word has no number. -/
theorem reduction_of_last_word_stops :
    (⟨18446744073709551615, [[⟨1, true⟩]]⟩ : Formula).validate = .ok ()
      ∧ (⟨18446744073709551615, [[⟨1, true⟩]]⟩ : Formula).reduceToThree = Checked.stop .sum :=
  ⟨rfl, rfl⟩

end SatSum
