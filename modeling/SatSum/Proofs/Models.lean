import SatSum.Verify
import Mathlib.Algebra.Order.Ring.Int
import Mathlib.Data.Bool.Basic
import Mathlib.Data.List.Lex
import Mathlib.Data.Set.Card

/-! # Models of formulas

`Formula.validate` accepts exactly the well-formed formulas: at least one variable, and every literal
over a declared one. A model is a valuation of exactly the declared variables that satisfies the
formula. Valuations are ordered as lists, `false` before `true`, so variable 1 counts most.

* `validate_eq_ok_iff`: what validation asks for.
* `verify_eq_ok_iff`: verification accepts exactly the models.
* `IsLeastModel.unique`: there is at most one least model.
* `holds_append`: a longer valuation gives the covered literals the same values.
-/

namespace SatSum

/-! ## Well-formed formulas -/

/-- Every literal of the clause is over a variable from 1 to `numVariables`. -/
def Clause.Within (numVariables : Nat) (clause : Clause) : Prop :=
  ∀ literal ∈ clause, 1 ≤ literal.var ∧ literal.var ≤ numVariables

theorem Clause.outside?_eq_none_iff {numVariables : Nat} {clause : Clause} :
    clause.outside? numVariables = none ↔ clause.Within numVariables := by
  simp only [outside?, List.find?_eq_none, Within, Bool.or_eq_true, beq_iff_eq, decide_eq_true_eq]
  constructor
  · intro inside literal member
    have := inside literal member
    omega
  · intro within literal member
    have := within literal member
    omega

theorem Clause.firstOutside?_eq_none_iff {numVariables position : Nat} {clauses : List Clause} :
    firstOutside? numVariables position clauses = none
      ↔ ∀ clause ∈ clauses, clause.Within numVariables := by
  induction clauses generalizing position with
  | nil => simp [firstOutside?]
  | cons clause rest inductionHypothesis =>
    simp only [firstOutside?, List.forall_mem_cons]
    cases found : clause.outside? numVariables with
    | none =>
      rw [outside?_eq_none_iff] at found
      simp [found, inductionHypothesis]
    | some literal =>
      have outside : ¬ clause.Within numVariables := by
        rw [← outside?_eq_none_iff, found]
        simp
      simp [outside]

theorem Clause.satisfied_iff {valuation : Valuation} {clause : Clause} :
    clause.satisfied valuation = true ↔ ∃ literal ∈ clause, literal.holds valuation = true := by
  simp only [satisfied, List.any_eq_true]

namespace Formula

/-- What searches and reductions ask of a formula. -/
structure WellFormed (formula : Formula) : Prop where
  hasVariable : 0 < formula.numVariables
  within : ∀ clause ∈ formula.clauses, clause.Within formula.numVariables

theorem validate_eq_ok_iff {formula : Formula} : formula.validate = .ok () ↔ formula.WellFormed := by
  simp only [validate]
  split
  next noVariable =>
    constructor
    · intro accepted
      cases accepted
    · intro wellFormed
      exact absurd noVariable (Nat.ne_of_gt wellFormed.hasVariable)
  next someVariable =>
    split
    next found =>
      constructor
      · intro accepted
        cases accepted
      · intro wellFormed
        rw [Clause.firstOutside?_eq_none_iff.2 wellFormed.within] at found
        cases found
    next found =>
      have within := Clause.firstOutside?_eq_none_iff.1 found
      exact ⟨fun _ => ⟨Nat.pos_of_ne_zero someVariable, within⟩, fun _ => rfl⟩

/-! ## Models -/

/-- The valuation gives a value to exactly the declared variables and satisfies every clause. -/
structure IsModel (formula : Formula) (valuation : Valuation) : Prop where
  covers : valuation.length = formula.numVariables
  satisfies : formula.satisfied valuation = true

/-- The model that comes before every other one. -/
structure IsLeastModel (formula : Formula) (valuation : Valuation) : Prop where
  isModel : formula.IsModel valuation
  least : ∀ other, formula.IsModel other → valuation ≤ other

theorem IsLeastModel.unique {formula : Formula} {first second : Valuation}
    (left : formula.IsLeastModel first) (right : formula.IsLeastModel second) : first = second :=
  le_antisymm (left.least second right.isModel) (right.least first left.isModel)

theorem verify_eq_ok_iff {formula : Formula} {valuation : Valuation} :
    formula.verify valuation = .ok () ↔ formula.IsModel valuation := by
  rw [verify]
  split
  next wrongLength =>
    constructor
    · intro accepted
      cases accepted
    · intro model
      exact absurd model.covers wrongLength
  next rightLength =>
    have covers : valuation.length = formula.numVariables := not_not.1 rightLength
    split
    next index found =>
      obtain ⟨inRange, violated, _⟩ := List.findIdx?_eq_some_iff_getElem.1 found
      constructor
      · intro accepted
        cases accepted
      · intro model
        have holds := List.all_eq_true.1 model.satisfies _ (List.getElem_mem inRange)
        rw [holds] at violated
        cases violated
    next noneFound =>
      rw [List.findIdx?_eq_none_iff] at noneFound
      refine iff_of_true rfl ⟨covers, List.all_eq_true.2 fun clause member => ?_⟩
      simpa using noneFound clause member

theorem IsModel.clause {formula : Formula} {valuation : Valuation} (model : formula.IsModel valuation)
    {clause : Clause} (member : clause ∈ formula.clauses) :
    ∃ literal ∈ clause, literal.holds valuation = true :=
  Clause.satisfied_iff.1 (List.all_eq_true.1 model.satisfies clause member)

end Formula

/-! ## Lists of values -/

/-- What holds of all valuations of a length is told apart by the first value. -/
theorem forall_length_succ {length : Nat} {property : Valuation → Prop} :
    (∀ more : Valuation, more.length = length + 1 → property more)
      ↔ (∀ more : Valuation, more.length = length → property (false :: more))
        ∧ ∀ more : Valuation, more.length = length → property (true :: more) := by
  constructor
  · intro holds
    exact ⟨fun more covers => holds (false :: more) (congrArg Nat.succ covers),
      fun more covers => holds (true :: more) (congrArg Nat.succ covers)⟩
  · rintro ⟨holdsFalse, holdsTrue⟩ more covers
    match more, covers with
    | false :: more, covers => exact holdsFalse more (Nat.succ.inj covers)
    | true :: more, covers => exact holdsTrue more (Nat.succ.inj covers)

theorem forall_prefix_cons {value : Bool} {more : List Bool} {property : List Bool → Prop} :
    (∀ earlier, earlier <+: value :: more → earlier ≠ value :: more → property earlier)
      ↔ property [] ∧ ∀ earlier, earlier <+: more → earlier ≠ more → property (value :: earlier) := by
  constructor
  · intro holds
    refine ⟨holds [] List.nil_prefix (List.cons_ne_nil _ _).symm, fun earlier begins differ => ?_⟩
    exact holds _ (List.cons_prefix_cons.2 ⟨rfl, begins⟩) fun same => differ (List.cons.inj same).2
  · rintro ⟨holdsNil, holdsCons⟩ earlier begins differ
    rcases List.prefix_cons_iff.1 begins with rfl | ⟨later, rfl, beginsLater⟩
    · exact holdsNil
    · exact holdsCons later beginsLater fun same => differ (congrArg _ same)

/-! ## Sets with a list of their members -/

theorem encard_eq_length {α : Type} {members : Set α} {list : List α} (distinct : list.Nodup)
    (lists : ∀ entry, entry ∈ list ↔ entry ∈ members) : members.encard = list.length := by
  classical
  have sameSet : (list.toFinset : Set α) = members := by
    rw [List.coe_toFinset]
    exact Set.ext lists
  rw [← sameSet, Set.encard_coe_eq_coe_finsetCard, List.toFinset_card_of_nodup distinct]

/-! ## Values of literals -/

namespace Literal

theorem negate_ne (literal : Literal) : literal.negate ≠ literal := by
  obtain ⟨var, sign⟩ := literal
  cases sign <;> simp [negate]

theorem var_eq_iff {first second : Literal} :
    first.var = second.var ↔ first = second ∨ first = second.negate := by
  obtain ⟨var, sign⟩ := first
  obtain ⟨other, otherSign⟩ := second
  cases sign <;> cases otherSign <;> simp [negate]

theorem holds_iff {valuation : Valuation} {literal : Literal} (positive : 1 ≤ literal.var) :
    literal.holds valuation = true ↔ valuation[literal.var - 1]? = some literal.positive := by
  obtain ⟨var, sign⟩ := literal
  cases var with
  | zero => cases positive
  | succ index => simp [holds, Valuation.value?]

theorem covered_of_holds {valuation : Valuation} {literal : Literal}
    (holds : literal.holds valuation = true) :
    1 ≤ literal.var ∧ literal.var ≤ valuation.length := by
  obtain ⟨var, sign⟩ := literal
  cases var with
  | zero => simp [Literal.holds, Valuation.value?] at holds
  | succ index =>
    simp only [Literal.holds, Valuation.value?, beq_iff_eq] at holds
    have := (List.getElem?_eq_some_iff.1 holds).1
    exact ⟨by simp, this⟩

theorem holds_negate_iff {valuation : Valuation} {literal : Literal}
    (positive : 1 ≤ literal.var) (covered : literal.var ≤ valuation.length) :
    literal.negate.holds valuation = true ↔ literal.holds valuation = false := by
  obtain ⟨var, sign⟩ := literal
  cases var with
  | zero => cases positive
  | succ index =>
    have bound : index < valuation.length := covered
    have value : valuation.value? (index + 1) = some valuation[index] := by
      simp [Valuation.value?, bound]
    rw [holds_negate value]
    simp

theorem not_holds_negate {valuation : Valuation} {literal : Literal}
    (holds : literal.holds valuation = true) : literal.negate.holds valuation = false := by
  obtain ⟨positive, covered⟩ := covered_of_holds holds
  rw [Bool.eq_false_iff, ne_eq, holds_negate_iff positive covered, holds]
  simp

theorem holds_append {valuation : Valuation} {literal : Literal}
    (covered : literal.var ≤ valuation.length) (more : Valuation) :
    literal.holds (valuation ++ more) = literal.holds valuation := by
  obtain ⟨var, sign⟩ := literal
  cases var with
  | zero => rfl
  | succ index =>
    have bound : index < valuation.length := covered
    simp [holds, Valuation.value?, List.getElem?_append_left bound]

end Literal

namespace Clause

variable {valuation : Valuation} {clause : Clause}

theorem Within.mono {numVariables more : Nat} (within : clause.Within numVariables)
    (fewer : numVariables ≤ more) : clause.Within more :=
  fun literal member => ⟨(within literal member).1, (within literal member).2.trans fewer⟩

theorem satisfied_append (covered : clause.Within valuation.length) (more : Valuation) :
    clause.satisfied (valuation ++ more) = clause.satisfied valuation := by
  rw [Bool.eq_iff_iff, satisfied_iff, satisfied_iff]
  apply exists_congr
  intro literal
  apply and_congr_right
  intro member
  rw [Literal.holds_append (covered literal member).2]

theorem all_satisfied_append {clauses : List Clause}
    (covered : ∀ clause ∈ clauses, clause.Within valuation.length) (more : Valuation) :
    clauses.all (satisfied (valuation ++ more)) = clauses.all (satisfied valuation) := by
  rw [Bool.eq_iff_iff, List.all_eq_true, List.all_eq_true]
  apply forall_congr'
  intro clause
  apply imp_congr_right
  intro member
  rw [satisfied_append (covered clause member)]

end Clause

end SatSum
