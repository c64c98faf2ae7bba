import SatSum.Proofs.Activity
import SatSum.Proofs.ThreeFormula
import SatSum.Verify

/-! # Shapes of clauses

Whether every clause has three literals over three different variables is asked twice: when a formula is
taken as a three-literal one, and when a valuation is checked against a formula that has to be one. Both
go through the clauses in order and stop at the first of the wrong shape.

* `shapeCheck`: both checks at once, by induction over the clauses.
* `shapes_agree`: they refuse the same clause for the same reason, and where they do not refuse, checking
  a valuation asks no more than it does of any formula.
-/

namespace SatSum

/-! ## One clause -/

/-- Three literals over three different variables. -/
structure Clause.IsThree (clause : Clause) : Prop where
  length : clause.length = 3
  distinct : clause.DistinctVars

/-- Why the clause at a position has the wrong shape, as a cause to refuse the formula and as a rejection
    of a valuation. -/
inductive Misshapen (position : Nat) (clause : Clause) : Malformation → Rejection → Prop
  | width (wrong : clause.length ≠ 3) :
      Misshapen position clause (.clauseWidth position clause.length)
        (.clauseWidth position clause.length)
  | repetition (length : clause.length = 3) (repeats : ¬ clause.DistinctVars) :
      Misshapen position clause (.repeatedVariable position) (.repeatedVariable position)

/-- The rejection is about the shape of a clause. -/
def Rejection.IsShape : Rejection → Prop
  | clauseWidth _ _ => True
  | repeatedVariable _ => True
  | _ => False

namespace Misshapen

variable {position : Nat} {clause : Clause} {cause : Malformation} {rejection : Rejection}

theorem message_eq (misshapen : Misshapen position clause cause rejection) :
    rejection.message = cause.message := by
  cases misshapen with
  | width wrong => rfl
  | repetition length repeats => rfl

theorem isShape (misshapen : Misshapen position clause cause rejection) : rejection.IsShape := by
  cases misshapen with
  | width wrong => trivial
  | repetition length repeats => trivial

end Misshapen

/-- What both checks make of a clause. -/
inductive ClauseCheck (position : Nat) (clause : Clause) : Except Fault ThreeClause → Prop
  | taken (three : ThreeClause) (same : three.toClause = clause) (isThree : clause.IsThree)
      (goesOn : ∀ rest, verifyShape position (clause :: rest) = verifyShape (position + 1) rest) :
      ClauseCheck position clause (.ok three)
  | refused (cause : Malformation) (rejection : Rejection)
      (misshapen : Misshapen position clause cause rejection)
      (stops : ∀ rest, verifyShape position (clause :: rest) = .error rejection) :
      ClauseCheck position clause (.error (.malformed cause))

theorem clauseCheck (position : Nat) (clause : Clause) :
    ClauseCheck position clause (ThreeFormula.clauseAt position clause) := by
  unfold ThreeFormula.clauseAt
  split
  next a b c =>
    split
    next three found =>
      obtain ⟨rfl, distinct⟩ := ThreeClause.ofLiterals_eq_ok_iff.1 found
      refine .taken _ rfl ⟨rfl, distinct⟩ fun rest => ?_
      rw [verifyShape, found]
    next fault refused =>
      have repeats : ¬ (ThreeClause.mk a b c).DistinctVars := by
        intro distinct
        rw [ThreeClause.ofLiterals_eq_ok_iff.2 ⟨rfl, distinct⟩] at refused
        cases refused
      refine .refused _ _ (.repetition rfl repeats) fun rest => ?_
      rw [verifyShape, refused]
  next otherWidth =>
    have wrong : clause.length ≠ 3 := by
      intro three
      obtain ⟨a, b, c, rfl⟩ := List.length_eq_three.1 three
      exact otherWidth a b c rfl
    refine .refused _ _ (.width wrong) fun rest => ?_
    rw [verifyShape]
    exact otherWidth

/-! ## All clauses -/

/-- What both checks make of clauses, the first at the given position. -/
inductive ShapeCheck (position : Nat) (clauses : List Clause) :
    Except Fault (List ThreeClause) → Verdict → Prop
  | taken (threes : List ThreeClause) (same : threes.map ThreeClause.toClause = clauses)
      (areThree : ∀ clause ∈ clauses, clause.IsThree) :
      ShapeCheck position clauses (.ok threes) (.ok ())
  | refused (before : List Clause) (clause : Clause) (after : List Clause) (cause : Malformation)
      (rejection : Rejection) (split : clauses = before ++ clause :: after)
      (areThree : ∀ earlier ∈ before, earlier.IsThree)
      (misshapen : Misshapen (position + before.length) clause cause rejection) :
      ShapeCheck position clauses (.error (.malformed cause)) (.error rejection)

theorem shapeCheck (position : Nat) (clauses : List Clause) :
    ShapeCheck position clauses (ThreeFormula.clausesFrom position clauses)
      (verifyShape position clauses) := by
  induction clauses generalizing position with
  | nil => exact .taken [] rfl nofun
  | cons clause rest inductionHypothesis =>
    have first := clauseCheck position clause
    have later := inductionHypothesis (position + 1)
    rw [ThreeFormula.clausesFrom]
    generalize ThreeFormula.clauseAt position clause = taken at first
    cases first with
    | refused cause rejection misshapen stops =>
      -- Whatever comes after this clause, neither check looks at it.
      rw [stops rest]
      exact .refused [] clause rest cause rejection rfl nofun misshapen
    | taken three same isThree goesOn =>
      rw [goesOn rest, ok_bind]
      generalize ThreeFormula.clausesFrom (position + 1) rest = takenRest at later
      generalize verifyShape (position + 1) rest = verdict at later
      cases later with
      | taken threes sameRest areThree =>
        refine .taken (three :: threes) ?_ (List.forall_mem_cons.2 ⟨isThree, areThree⟩)
        rw [List.map_cons, same, sameRest]
      | refused before other after cause rejection split areThree misshapen =>
        refine .refused (clause :: before) other after cause rejection ?_
          (List.forall_mem_cons.2 ⟨isThree, areThree⟩) ?_
        · rw [split, List.cons_append]
        · rwa [List.length_cons, Nat.add_comm before.length 1, ← Nat.add_assoc]

/-! ## Formulas and valuations -/

theorem Formula.verify_of_length_ne {formula : Formula} {valuation : Valuation}
    (wrong : valuation.length ≠ formula.numVariables) :
    formula.verify valuation
      = .error (.assignmentLength valuation.length formula.numVariables) := by
  rw [verify, if_pos wrong]

/-- A valuation of the right length that violates clauses is rejected for the first of them. -/
theorem Formula.verify_of_violated {formula : Formula} {valuation : Valuation}
    (covers : valuation.length = formula.numVariables) {before : List Clause} {clause : Clause}
    {after : List Clause} (split : formula.clauses = before ++ clause :: after)
    (satisfied : ∀ earlier ∈ before, earlier.satisfied valuation = true)
    (violated : clause.satisfied valuation = false) :
    formula.verify valuation = .error (.unsatisfiedClause (before.length + 1)) := by
  have noneBefore : before.findIdx? (fun clause => !clause.satisfied valuation) = none := by
    rw [List.findIdx?_eq_none_iff]
    intro earlier member
    rw [satisfied earlier member, Bool.not_true]
  have first : formula.clauses.findIdx? (fun clause => !clause.satisfied valuation)
      = some before.length := by
    rw [split, List.findIdx?_append, noneBefore, List.findIdx?_cons, violated]
    simp
  rw [verify, if_neg (not_not.2 covers), first]

/-- Checking a valuation finds no fault with shapes. -/
theorem Formula.not_isShape_of_verify {formula : Formula} {valuation : Valuation} {rejection : Rejection}
    (rejected : formula.verify valuation = .error rejection) : ¬ rejection.IsShape := by
  rw [verify] at rejected
  split at rejected
  · cases rejected
    exact id
  · split at rejected
    · cases rejected
      exact id
    · cases rejected

/-- What both checks make of a formula. -/
inductive FormulaCheck (formula : Formula) (valuation : Valuation) :
    Except Fault ThreeFormula → Verdict → Prop
  | taken (three : ThreeFormula) (same : three.toFormula = formula) :
      FormulaCheck formula valuation (.ok three) (formula.verify valuation)
  | refused (before : List Clause) (clause : Clause) (after : List Clause) (cause : Malformation)
      (rejection : Rejection) (split : formula.clauses = before ++ clause :: after)
      (areThree : ∀ earlier ∈ before, earlier.IsThree)
      (misshapen : Misshapen (before.length + 1) clause cause rejection) :
      FormulaCheck formula valuation (.error (.malformed cause)) (.error rejection)

theorem formulaCheck (formula : Formula) (valuation : Valuation) :
    FormulaCheck formula valuation (ThreeFormula.ofFormula formula)
      (formula.verifyThree valuation) := by
  have check := shapeCheck 1 formula.clauses
  rw [ThreeFormula.ofFormula, Formula.verifyThree]
  generalize ThreeFormula.clausesFrom 1 formula.clauses = taken at check
  generalize verifyShape 1 formula.clauses = verdict at check
  cases check with
  | taken threes same areThree =>
    exact .taken ⟨formula.numVariables, threes⟩ (by rw [ThreeFormula.toFormula, same])
  | refused before clause after cause rejection split areThree misshapen =>
    rw [Nat.add_comm] at misshapen
    exact .refused before clause after cause rejection split areThree misshapen

/-- For a formula that is taken, nothing more is asked of a valuation. -/
theorem Formula.verifyThree_of_taken {formula : Formula} {three : ThreeFormula}
    (taken : ThreeFormula.ofFormula formula = .ok three) (valuation : Valuation) :
    three.toFormula = formula ∧ formula.verifyThree valuation = formula.verify valuation := by
  have check := formulaCheck formula valuation
  rw [taken] at check
  generalize formula.verifyThree valuation = verdict at check ⊢
  cases check with
  | taken _ same => exact ⟨same, rfl⟩

/-- The two shape checks on a formula and a valuation of any length. -/
structure ShapesAgree (formula : Formula) (valuation : Valuation) : Prop where
  /-- The formula is refused exactly if the valuation is rejected for a shape, in the same words. -/
  refused_iff : ∀ message, (∃ cause, ThreeFormula.ofFormula formula = .error (.malformed cause)
      ∧ cause.message = message)
    ↔ ∃ rejection, formula.verifyThree valuation = .error rejection ∧ rejection.IsShape
      ∧ rejection.message = message
  /-- Nothing but a clause of the wrong shape is refused, and both name the first one. -/
  first_refused : ∀ fault, ThreeFormula.ofFormula formula = .error fault →
    ∃ before clause after cause rejection, formula.clauses = before ++ clause :: after
      ∧ (∀ earlier ∈ before, earlier.IsThree) ∧ Misshapen (before.length + 1) clause cause rejection
      ∧ fault = .malformed cause ∧ formula.verifyThree valuation = .error rejection
  taken : ∀ three, ThreeFormula.ofFormula formula = .ok three →
    three.toFormula = formula ∧ formula.verifyThree valuation = formula.verify valuation
  accepted_iff : formula.verify valuation = .ok () ↔ valuation.length = formula.numVariables
    ∧ ∀ clause ∈ formula.clauses, ∃ literal ∈ clause, literal.holds valuation = true
  wrong_length : valuation.length ≠ formula.numVariables →
    formula.verify valuation = .error (.assignmentLength valuation.length formula.numVariables)
  first_violated : valuation.length = formula.numVariables →
    ∀ before clause after, formula.clauses = before ++ clause :: after →
      (∀ earlier ∈ before, ∃ literal ∈ earlier, literal.holds valuation = true) →
      (∀ literal ∈ clause, literal.holds valuation = false) →
      formula.verify valuation = .error (.unsatisfiedClause (before.length + 1))

/-- A formula with a clause that has not three literals over three different variables is refused for
    the first such clause, in the words in which every valuation is rejected for it. Every other formula
    is taken as it is, and a valuation is then accepted exactly if it is one of the variables that
    satisfies every clause; if its length is right, it is rejected for the first clause it violates. -/
theorem shapes_agree (formula : Formula) (valuation : Valuation) : ShapesAgree formula valuation where
  refused_iff := by
    intro message
    have check := formulaCheck formula valuation
    generalize ThreeFormula.ofFormula formula = taken at check
    generalize verdict : formula.verifyThree valuation = threeVerdict at check
    cases check with
    | taken three same =>
      refine iff_of_false ?_ ?_
      · rintro ⟨cause, refused, _⟩
        cases refused
      · rintro ⟨rejection, rejected, isShape, _⟩
        exact Formula.not_isShape_of_verify rejected isShape
    | refused before clause after cause rejection split areThree misshapen =>
      constructor
      · rintro ⟨_, ⟨⟩, rfl⟩
        exact ⟨rejection, rfl, misshapen.isShape, misshapen.message_eq⟩
      · rintro ⟨_, ⟨⟩, _, rfl⟩
        exact ⟨cause, rfl, misshapen.message_eq.symm⟩
  first_refused := by
    intro fault refused
    have check := formulaCheck formula valuation
    rw [refused] at check
    generalize formula.verifyThree valuation = verdict at check ⊢
    cases check with
    | refused before clause after cause rejection split areThree misshapen =>
      exact ⟨before, clause, after, cause, rejection, split, areThree, misshapen, rfl, rfl⟩
  taken := fun _ taken => Formula.verifyThree_of_taken taken valuation
  accepted_iff := by
    rw [Formula.verify_eq_ok_iff]
    simp only [← Clause.satisfied_iff]
    exact ⟨fun model => ⟨model.covers, List.all_eq_true.1 model.satisfies⟩,
      fun covered => ⟨covered.1, List.all_eq_true.2 covered.2⟩⟩
  wrong_length := Formula.verify_of_length_ne
  first_violated := by
    intro covers before clause after split satisfied violated
    apply Formula.verify_of_violated covers split
    · exact fun earlier member => Clause.satisfied_iff.2 (satisfied earlier member)
    · rw [Bool.eq_false_iff, Ne, Clause.satisfied_iff]
      rintro ⟨literal, member, holds⟩
      rw [violated literal member] at holds
      cases holds

/-- Of two clauses of the wrong shape the first is named, also to a valuation that is too short. -/
theorem shapes_agree_on_repetition_before_width :
    ∃ before clause after cause rejection,
      [[⟨1, true⟩, ⟨2, true⟩, ⟨3, true⟩], [⟨1, true⟩, ⟨1, false⟩, ⟨3, true⟩], [⟨2, true⟩]]
          = before ++ clause :: after
        ∧ (∀ earlier ∈ before, Clause.IsThree earlier)
        ∧ Misshapen (before.length + 1) clause cause rejection
        ∧ Fault.malformed (.repeatedVariable 2) = .malformed cause
        ∧ Formula.verifyThree ⟨3, [[⟨1, true⟩, ⟨2, true⟩, ⟨3, true⟩],
            [⟨1, true⟩, ⟨1, false⟩, ⟨3, true⟩], [⟨2, true⟩]]⟩ [true]
          = .error rejection :=
  (shapes_agree ⟨3, [[⟨1, true⟩, ⟨2, true⟩, ⟨3, true⟩],
    [⟨1, true⟩, ⟨1, false⟩, ⟨3, true⟩], [⟨2, true⟩]]⟩ [true]).first_refused _ rfl

/-- A valuation that is too short is rejected for its length, although it leaves a clause without a true
    literal. -/
theorem not_forall_names_violated :
    ThreeFormula.ofFormula ⟨3, [[⟨1, true⟩, ⟨2, true⟩, ⟨3, true⟩]]⟩
        = .ok ⟨3, [⟨⟨1, true⟩, ⟨2, true⟩, ⟨3, true⟩⟩]⟩
      ∧ Clause.satisfied [] [⟨1, true⟩, ⟨2, true⟩, ⟨3, true⟩] = false
      ∧ Formula.verifyThree ⟨3, [[⟨1, true⟩, ⟨2, true⟩, ⟨3, true⟩]]⟩ []
        = .error (.assignmentLength 0 3) := by
  decide

end SatSum
