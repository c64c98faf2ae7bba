import Mathlib.Algebra.Order.BigOperators.Group.List
import Mathlib.Algebra.Order.Ring.Int
import SatSum.Chance.ChaCha
import SatSum.Generate
import SatSum.Proofs.Chance
import SatSum.Proofs.SubsetSum.Strategies
import SatSum.Proofs.SubsetSum.Validation
import SatSum.Proofs.SubsetSum.Verdicts
import SatSum.Proofs.ThreeFormula

/-! # What is promised of random data

Whatever the source hands out, what is drawn has the shape that was asked for and is accepted by
validation. The variables of a clause are a sample, so they are different and a clause of three literals
is never refused. The target of an instance that is to have a solution is hit by the sample it was
computed from, and no sum of elements comes near the limits of the arithmetic.

* `Formula.IsRandom`, `SubsetSum.Instance.IsRandom`: what is promised.
* `ThreeClause.mapM_ofSampled`: sampled clauses of three literals are taken.
* `random_keeps_promises`: formulas, three-literal formulas and instances.
-/

namespace SatSum

open Chance (Choices LawfulChoices Yields IsSample yields_pure yields_repeated yields_mapM)

/-- What is generated from a source. -/
def Generated.result {σ α : Type} (generated : Generated σ α) (source : σ) : Except Fault α :=
  (generated.run.run source).1

/-- What follows a draw goes on from its result. -/
theorem Generated.result_bind {σ α β : Type} (draw : StateM σ α) (next : α → Generated σ β) (source : σ) :
    Generated.result (liftM draw >>= next) source = Generated.result (next (draw source).1) (draw source).2 :=
  rfl

section

variable {σ : Type} [Choices σ] {numVariables least greatest : Nat}

/-- A formula is refused before anything is drawn, or drawn clause by clause. -/
theorem Formula.result_random (numVariables numClauses least greatest : Nat) (source : σ) :
    (Formula.random numVariables numClauses least greatest).result source
      = if numVariables = 0 then .error (.malformed .noVariables)
        else if greatest < least ∨ numVariables < greatest then
          .error (.malformed (.impossibleWidths least greatest numVariables))
        else .ok ⟨numVariables, ((Chance.repeated numClauses do
          Clause.random numVariables (← drawBetween least greatest) : StateM σ (List Clause)) source).1⟩ := by
  by_cases noVariable : numVariables = 0
  · rw [Formula.random, if_pos noVariable, if_pos noVariable]
    rfl
  · by_cases impossible : greatest < least ∨ numVariables < greatest
    · rw [Formula.random, if_neg noVariable, if_neg noVariable, if_pos impossible, if_pos impossible]
      rfl
    · rw [Formula.random, if_neg noVariable, if_neg noVariable, if_neg impossible, if_neg impossible]
      rfl

theorem Formula.result_random_eq_ok_iff (numVariables numClauses least greatest : Nat) (source : σ) :
    (∃ formula, (Formula.random numVariables numClauses least greatest).result source = .ok formula)
      ↔ 1 ≤ numVariables ∧ least ≤ greatest ∧ greatest ≤ numVariables := by
  rw [Formula.result_random]
  split
  next noVariable => simp [noVariable]
  next someVariable =>
    split
    next impossible =>
      simp only [reduceCtorEq, exists_false, false_iff]
      omega
    next possible =>
      simp only [Except.ok.injEq, exists_eq', true_iff]
      omega

/-- A positive maximum is never refused. -/
theorem SubsetSum.Instance.result_random (length : Nat) {maximum : Int} (positive : 1 ≤ maximum)
    (feasibility : Feasibility) (source : σ) :
    (Instance.random length maximum feasibility).result source
      = .ok ((do
          let numbers ← Chance.repeated length (Int.ofNat <$> drawBetween 1 maximum.toNat)
          return ⟨numbers, ← drawTarget numbers feasibility⟩ : StateM σ Instance) source).1 := by
  rw [Instance.random, if_neg (not_lt.2 positive)]
  rfl

/-! ## Formulas -/

variable [LawfulChoices σ]

theorem yields_drawBetween (ordered : least ≤ greatest) (small : greatest ≤ maxWord) :
    Yields (fun number => least ≤ number ∧ number ≤ greatest) (drawBetween least greatest : StateM σ Nat) := by
  have fits : greatest - least + 1 ≤ 2 ^ (32 * 2) := by
    simp only [maxWord, UInt64.size] at small
    omega
  refine (LawfulChoices.below_lt (Nat.succ_pos _) fits).bind fun offset below => yields_pure ?_
  omega

/-- Different declared variables, and a number of literals from `least` to `greatest`. -/
structure Clause.IsRandom (numVariables least greatest : Nat) (clause : Clause) : Prop where
  within : clause.Within numVariables
  distinct : clause.DistinctVars
  least_le : least ≤ clause.length
  le_greatest : clause.length ≤ greatest

theorem Clause.vars_eq_of_sample {indices : List Nat} {clause : Clause}
    (sampled : List.Forall₂ (fun index literal => literal.var = index + 1) indices clause) :
    clause.map Literal.var = indices.map (· + 1) := by
  induction sampled with
  | nil => rfl
  | cons sameVar _ inductionHypothesis => simp [sameVar, inductionHypothesis]

theorem Clause.yields_random {width : Nat} (enough : width ≤ numVariables) :
    Yields (Clause.IsRandom numVariables width width) (Clause.random numVariables width : StateM σ Clause) := by
  refine (LawfulChoices.isSample enough).bind fun indices isSample => ?_
  have signs : ∀ index, Yields (fun literal => literal.var = index + 1)
      (do return ⟨index + 1, ← Choices.coin⟩ : StateM σ Literal) := fun _ _ => rfl
  refine (yields_mapM signs indices).mono fun clause sampled => ?_
  have sameVars := Clause.vars_eq_of_sample sampled
  have sameLength := sampled.length_eq.symm.trans isSample.length_eq
  refine ⟨fun literal member => ?_, ?_, sameLength.ge, sameLength.le⟩
  · have inVars : literal.var ∈ indices.map (· + 1) := sameVars ▸ List.mem_map_of_mem member
    obtain ⟨index, inIndices, sameVar⟩ := List.mem_map.1 inVars
    have below := isSample.inRange index inIndices
    omega
  · have distinctVars : (clause.map Literal.var).Nodup :=
      sameVars ▸ isSample.distinct.map (add_left_injective 1)
    exact List.pairwise_map.1 distinctVars

/-- What is promised of a random formula. -/
structure Formula.IsRandom (numVariables numClauses least greatest : Nat) (formula : Formula) : Prop where
  numVariables_eq : formula.numVariables = numVariables
  length_eq : formula.clauses.length = numClauses
  clauses : ∀ clause ∈ formula.clauses, clause.IsRandom numVariables least greatest
  accepted : formula.validate = .ok ()

theorem Formula.isRandom_of_clauses {numClauses : Nat} {clauses : List Clause} (someVariable : 1 ≤ numVariables)
    (drawn : clauses.length = numClauses ∧ ∀ clause ∈ clauses, clause.IsRandom numVariables least greatest) :
    Formula.IsRandom numVariables numClauses least greatest ⟨numVariables, clauses⟩ where
  numVariables_eq := rfl
  length_eq := drawn.1
  clauses := drawn.2
  accepted := Formula.validate_eq_ok_iff.2 ⟨someVariable, fun clause member => (drawn.2 clause member).within⟩

theorem Formula.isRandom_of_result {numClauses : Nat} {source : σ} {formula : Formula}
    (small : numVariables ≤ maxWord)
    (drawn : (Formula.random numVariables numClauses least greatest).result source = .ok formula) :
    formula.IsRandom numVariables numClauses least greatest := by
  obtain ⟨someVariable, ordered, enough⟩ :=
    (Formula.result_random_eq_ok_iff numVariables numClauses least greatest source).1 ⟨formula, drawn⟩
  rw [Formula.result_random, if_neg (by omega), if_neg (by omega)] at drawn
  cases drawn
  refine Formula.isRandom_of_clauses someVariable (yields_repeated ?_ numClauses source)
  refine (yields_drawBetween ordered (enough.trans small)).bind fun width between => ?_
  refine (Clause.yields_random (between.2.trans enough)).mono fun clause isRandom => ?_
  exact ⟨isRandom.within, isRandom.distinct, between.1.trans isRandom.least_le,
    isRandom.le_greatest.trans between.2⟩

/-! ## Three-literal formulas -/

theorem ThreeClause.mapM_ofSampled {clauses : List Clause}
    (threeEach : ∀ clause ∈ clauses, clause.IsRandom numVariables 3 3) :
    ∃ threes, clauses.mapM ThreeClause.ofSampled = .ok threes ∧ threes.map ThreeClause.toClause = clauses := by
  induction clauses with
  | nil => exact ⟨[], rfl, rfl⟩
  | cons clause clauses inductionHypothesis =>
    obtain ⟨isRandom, laterRandom⟩ := List.forall_mem_cons.1 threeEach
    obtain ⟨threes, taken, sameClauses⟩ := inductionHypothesis laterRandom
    obtain ⟨a, b, c, rfl⟩ := List.length_eq_three.1 (isRandom.le_greatest.antisymm isRandom.least_le)
    have takenFirst : ThreeClause.ofSampled [a, b, c] = .ok ⟨a, b, c⟩ :=
      ThreeClause.ofLiterals_eq_ok_iff.2 ⟨rfl, isRandom.distinct⟩
    refine ⟨⟨a, b, c⟩ :: threes, ?_, by rw [List.map_cons, sameClauses]; rfl⟩
    rw [List.mapM_cons, takenFirst, taken]
    rfl

/-- A three-literal formula is refused only for having too few variables. -/
theorem ThreeFormula.exists_random (numClauses : Nat) (source : σ) (enough : 3 ≤ numVariables) :
    ∃ three, (ThreeFormula.random numVariables numClauses).result source = .ok three
      ∧ three.toFormula.IsRandom numVariables numClauses 3 3
      ∧ ThreeFormula.ofFormula three.toFormula = .ok three := by
  have clauseDrawn : Yields _ (Clause.random numVariables 3 : StateM σ Clause) := Clause.yields_random enough
  have drawn := yields_repeated clauseDrawn numClauses source
  obtain ⟨threes, taken, sameClauses⟩ := ThreeClause.mapM_ofSampled drawn.2
  refine ⟨⟨numVariables, threes⟩, ?_, ?_, ?_⟩
  · have enoughVariables : ¬ numVariables < 3 := Nat.not_lt.2 enough
    rw [ThreeFormula.random, if_neg enoughVariables]
    refine (Generated.result_bind _ _ source).trans ?_
    rw [taken]
    rfl
  · rw [ThreeFormula.toFormula, sameClauses]
    exact Formula.isRandom_of_clauses (by omega) drawn
  · refine ThreeFormula.ofFormula_eq_ok_iff.2 ⟨rfl, fun three member => ?_⟩
    exact (drawn.2 _ (sameClauses ▸ List.mem_map_of_mem member)).distinct

/-! ## Instances -/

namespace SubsetSum

variable {numbers : List Int} {maximum target : Int} {length : Nat} {feasibility : Feasibility}

/-- The arithmetic has room for as many elements as there can be, of any size they can have. -/
theorem total_lt (few : numbers.length ≤ maxWord) (nonneg : 0 ≤ maximum) (representable : maximum < 2 ^ 63)
    (bounded : ∀ number ∈ numbers, number ≤ maximum) : total numbers < 2 ^ 127 := by
  have fewer : (numbers.length : Int) ≤ 2 ^ 64 := by
    simp only [maxWord, UInt64.size] at few
    omega
  calc total numbers ≤ numbers.length * maximum := by
        rw [total_eq_sum, ← nsmul_eq_mul]
        exact List.sum_le_card_nsmul numbers maximum bounded
    _ ≤ 2 ^ 64 * maximum := Int.mul_le_mul_of_nonneg_right fewer nonneg
    _ < 2 ^ 127 := by omega

/-- Positive elements at different positions add up to no more than all of them. -/
theorem Instance.Usable.sumOf_bounds {problem : Instance} {selection : Selection}
    (usable : problem.Usable selection) (positive : ∀ number ∈ problem.numbers, 0 ≤ number) :
    0 ≤ problem.sumOf selection ∧ problem.sumOf selection ≤ total problem.numbers := by
  have kept : (keptFrom selection.contains 0 problem.numbers).Sublist problem.numbers := keptFrom_sublist _
  rw [sumOf_eq_sum_keptFrom usable.distinct usable.inRange, total_eq_sum]
  exact ⟨List.sum_nonneg fun number member => positive number (kept.subset member),
    kept.sum_le_sum positive⟩

/-- The target is not out of reach, and it is hit if that is guaranteed. -/
structure IsTarget (numbers : List Int) (feasibility : Feasibility) (target : Int) : Prop where
  nonneg : 0 ≤ target
  le_total : target ≤ total numbers
  hit : feasibility = .guaranteed → ∃ selection, Instance.IsSolution ⟨numbers, target⟩ selection

/-- The sum of a sample is hit by the sample. -/
theorem isTarget_sumOf {selection : Selection} {amount : Nat} (positive : ∀ number ∈ numbers, 0 ≤ number)
    (isSample : IsSample numbers.length amount selection) :
    IsTarget numbers feasibility (Instance.sumOf ⟨numbers, 0⟩ selection) := by
  have usable : Instance.Usable ⟨numbers, 0⟩ selection := ⟨isSample.distinct, isSample.inRange⟩
  obtain ⟨nonneg, le_total⟩ := usable.sumOf_bounds positive
  exact ⟨nonneg, le_total, fun _ => ⟨selection, isSample.distinct, isSample.inRange, rfl⟩⟩

theorem yields_drawTarget (few : numbers.length ≤ maxWord) (positive : ∀ number ∈ numbers, 0 ≤ number)
    (small : total numbers < 2 ^ 127) :
    Yields (IsTarget numbers feasibility) (drawTarget numbers feasibility : StateM σ Int) := by
  cases feasibility with
  | random =>
    have fits : (total numbers).toNat + 1 ≤ 2 ^ (32 * 4) := by omega
    have nonneg : 0 ≤ total numbers := List.sum_nonneg positive
    refine (LawfulChoices.below_lt (Nat.succ_pos _) fits).bind fun drawn below => yields_pure ?_
    have le_total : (drawn : Int) ≤ total numbers := by omega
    exact ⟨Int.natCast_nonneg drawn, le_total, fun guaranteed => nomatch guaranteed⟩
  | guaranteed =>
    rw [drawTarget]
    split
    next isEmpty =>
      obtain rfl := List.isEmpty_iff.1 isEmpty
      exact yields_pure (isTarget_sumOf positive (Chance.isSample_nil 0))
    next notEmpty =>
      have someElement : 1 ≤ numbers.length := List.length_pos_iff.2 (mt List.isEmpty_iff.2 notEmpty)
      refine (yields_drawBetween someElement few).bind fun amount between => ?_
      refine (LawfulChoices.isSample between.2).bind fun selection isSample => ?_
      exact yields_pure (isTarget_sumOf positive isSample)

/-- What is promised of a random instance. Sums of elements stay below 2^127, so 128 bits hold them; of a
    list of positions this says the same for all its beginnings. -/
structure Instance.IsRandom (length : Nat) (maximum : Int) (feasibility : Feasibility)
    (problem : Instance) : Prop where
  length_eq : problem.numbers.length = length
  inRange : ∀ number ∈ problem.numbers, 1 ≤ number ∧ number ≤ maximum
  sums : ∀ selection, problem.Usable selection →
    0 ≤ problem.sumOf selection ∧ problem.sumOf selection < 2 ^ 127
  isTarget : IsTarget problem.numbers feasibility problem.target
  accepted : problem.validate = .ok ()
  isFound : feasibility = .guaranteed →
    ∀ strategy outcome, problem.solve strategy = .ok outcome → outcome.answer.isFound = true

theorem Instance.validate_of_natAbs_lt {problem : Instance}
    (numbers : ∀ number ∈ problem.numbers, number.natAbs < 2 ^ 127) (target : problem.target.natAbs < 2 ^ 127) :
    problem.validate = .ok () := by
  have fewBits {number : Nat} (small : number < 2 ^ 127) : bitLength number ≤ 4096 := by
    rw [← Nat.one_shiftLeft] at small
    exact (bitLength_le_iff.2 small).trans (by decide)
  rcases problem.validate_cases with ⟨accepted, _⟩ | ⟨_, _, notSmall⟩
  · exact accepted
  · exact absurd ⟨fun number member => fewBits (numbers number member), fewBits target⟩ notSmall

theorem Answer.IsCorrect.isFound {problem : Instance} {answer : Answer} (correct : answer.IsCorrect problem)
    (solvable : ∃ selection, problem.IsSolution selection) : answer.isFound = true := by
  cases answer with
  | found selection => rfl
  | notFound =>
    obtain ⟨selection, solution⟩ := solvable
    exact absurd solution (correct selection)

theorem Instance.isRandom_of_isTarget (inRange : ∀ number ∈ numbers, 1 ≤ number ∧ number ≤ maximum)
    (nonneg : ∀ number ∈ numbers, 0 ≤ number) (room : total numbers < 2 ^ 127)
    (isTarget : IsTarget numbers feasibility target) :
    Instance.IsRandom numbers.length maximum feasibility ⟨numbers, target⟩ := by
  refine ⟨rfl, inRange, fun selection usable => ?_, isTarget, ?_, fun guaranteed strategy outcome ended => ?_⟩
  · obtain ⟨sum_nonneg, sum_le⟩ := usable.sumOf_bounds nonneg
    exact ⟨sum_nonneg, sum_le.trans_lt room⟩
  · refine Instance.validate_of_natAbs_lt (fun number member => ?_) ?_
    · have positive := nonneg number member
      have le_total := List.single_le_sum nonneg number member
      rw [← total_eq_sum] at le_total
      omega
    · obtain ⟨target_nonneg, target_le, _⟩ := isTarget
      show target.natAbs < 2 ^ 127
      omega
  · exact (isCorrect_of_solve ended).isFound (isTarget.hit guaranteed)

theorem Instance.exists_random (few : length ≤ maxWord) (positive : 1 ≤ maximum)
    (representable : maximum < 2 ^ 63) (feasibility : Feasibility) (source : σ) :
    ∃ problem, (Instance.random length maximum feasibility).result source = .ok problem
      ∧ problem.IsRandom length maximum feasibility := by
  have small : maximum.toNat ≤ maxWord := by
    simp only [maxWord, UInt64.size]
    omega
  have element : Yields (fun number => 1 ≤ number ∧ number ≤ maximum)
      (Int.ofNat <$> drawBetween 1 maximum.toNat : StateM σ Int) := by
    refine ((yields_drawBetween (by omega) small).mono fun number between => ?_).map
    simp only [Int.ofNat_eq_natCast]
    omega
  refine ⟨_, Instance.result_random length positive feasibility source, ?_⟩
  refine ((yields_repeated element length).bind fun numbers drawn => ?_) source
  obtain ⟨rfl, inRange⟩ := drawn
  have nonneg : ∀ number ∈ numbers, 0 ≤ number := fun number member =>
    Int.le_of_lt (inRange number member).1
  have room := total_lt few (by omega) representable fun number member => (inRange number member).2
  refine (yields_drawTarget few nonneg room).bind fun target isTarget => ?_
  exact yields_pure (isRandom_of_isTarget inRange nonneg room isTarget)

end SubsetSum

/-! ## Promises -/

/-- Whatever the source hands out, random data is generated for all parameters that make sense, and then it
    is what was asked for: formulas, three-literal formulas and instances. -/
theorem random_keeps_promises (source : σ) :
    (∀ numVariables numClauses least greatest, numVariables ≤ maxWord →
      ((∃ formula, (Formula.random numVariables numClauses least greatest).result source = .ok formula)
        ↔ 1 ≤ numVariables ∧ least ≤ greatest ∧ greatest ≤ numVariables)
      ∧ ∀ formula, (Formula.random numVariables numClauses least greatest).result source = .ok formula →
        formula.IsRandom numVariables numClauses least greatest)
    ∧ (∀ numVariables numClauses, 3 ≤ numVariables →
      ∃ three, (ThreeFormula.random numVariables numClauses).result source = .ok three
        ∧ three.toFormula.IsRandom numVariables numClauses 3 3
        ∧ ThreeFormula.ofFormula three.toFormula = .ok three)
    ∧ ∀ length maximum feasibility, length ≤ maxWord → 1 ≤ maximum → maximum < 2 ^ 63 →
      ∃ problem, (SubsetSum.Instance.random length maximum feasibility).result source = .ok problem
        ∧ problem.IsRandom length maximum feasibility := by
  refine ⟨fun numVariables numClauses least greatest small => ⟨?_, ?_⟩, ?_, ?_⟩
  · exact Formula.result_random_eq_ok_iff numVariables numClauses least greatest source
  · exact fun formula drawn => Formula.isRandom_of_result small drawn
  · exact fun numVariables numClauses enough => ThreeFormula.exists_random numClauses source enough
  · exact fun length maximum feasibility few positive representable =>
      SubsetSum.Instance.exists_random few positive representable feasibility source

end

/-- A seeded stream, and parameters at the ends of their ranges. -/
theorem random_keeps_promises_seeded :
    (∃ formula, (Formula.random 2 0 0 2).result (Chance.ChaCha.Stream.ofSeed 42) = .ok formula
        ∧ formula.IsRandom 2 0 0 2)
      ∧ (¬ ∃ formula, (Formula.random 2 1 2 1).result (Chance.ChaCha.Stream.ofSeed 42) = .ok formula)
      ∧ (∃ three, (ThreeFormula.random 3 1).result (Chance.ChaCha.Stream.ofSeed 42) = .ok three
        ∧ ThreeFormula.ofFormula three.toFormula = .ok three)
      ∧ ∃ problem, (SubsetSum.Instance.random 3 (2 ^ 63 - 1) .guaranteed).result
          (Chance.ChaCha.Stream.ofSeed 42) = .ok problem
        ∧ problem.IsRandom 3 (2 ^ 63 - 1) .guaranteed := by
  obtain ⟨formulas, threeFormulas, instances⟩ := random_keeps_promises (Chance.ChaCha.Stream.ofSeed 42)
  obtain ⟨exists_iff, isRandom⟩ := formulas 2 0 0 2 (by decide)
  obtain ⟨formula, drawn⟩ := exists_iff.2 (by decide)
  obtain ⟨three, threeDrawn, _, taken⟩ := threeFormulas 3 1 (by decide)
  refine ⟨⟨formula, drawn, isRandom formula drawn⟩, ?_, ⟨three, threeDrawn, taken⟩, ?_⟩
  · exact mt (formulas 2 1 2 1 (by decide)).1.1 (by decide)
  · exact instances 3 (2 ^ 63 - 1) .guaranteed (by decide) (by decide) (by decide)

end SatSum
