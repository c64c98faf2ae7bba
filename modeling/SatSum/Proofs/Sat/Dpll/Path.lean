import SatSum.Proofs.Normalize
import SatSum.Sat.Dpll
import Mathlib.Data.List.Perm.Subperm

/-! # Paths of the propagation search

Where the search is, is a path: the literals it made true, latest first, each with its reason. The path
determines values, counters and trail, and `Path.state` gives them; only the queue and the node count
are apart. Binding a literal lengthens the path by a step and undoing the latest binding shortens it,
so whatever the search does, its state is the state of a path.

* `length_le`: a path is no longer than there are variables.
* `getElem?_values_eq_none_iff`, `getElem?_values_eq_some_iff`: what the values of a path say.
-/

namespace SatSum.Sat.Dpll

/-- A literal made true, and how it came to be. -/
structure Step where
  literal : Literal
  origin : Origin
deriving DecidableEq, Repr

/-- What the trail keeps of a step. -/
def Step.binding (step : Step) : Binding :=
  ⟨step.literal.var, step.origin⟩

/-- The steps from the start of the search, latest first. -/
abbrev Path := List Step

namespace Path

def literals (path : Path) : List Literal :=
  path.map Step.literal

def vars (path : Path) : List Nat :=
  path.map fun step => step.literal.var

def values (numVariables : Nat) : Path → List (Option Bool)
  | [] => List.replicate numVariables none
  | step :: rest => (values numVariables rest).set (step.literal.var - 1) (some step.literal.positive)

def counter (path : Path) (clause : Clause) : Counter where
  literals := clause.deduplicated
  trueCount := clause.deduplicated.countP fun literal => path.literals.contains literal
  freeCount := clause.deduplicated.countP fun literal => !path.vars.contains literal.var

/-- The state at the end of the path. -/
def state (formula : Formula) (path : Path) (queue : List Nat) (nodes : Nat) : State where
  values := path.values formula.numVariables
  counters := formula.clauses.map path.counter
  trail := path.map Step.binding
  queue
  unsatisfied := formula.clauses.countP fun clause => (path.counter clause).isUnsatisfied
  nodes

/-- Every variable is a declared one and is bound once. -/
structure WellFormed (numVariables : Nat) (path : Path) : Prop where
  within : ∀ step ∈ path, 1 ≤ step.literal.var ∧ step.literal.var ≤ numVariables
  distinct : path.vars.Nodup

/-! ## Literals on a path -/

variable {numVariables : Nat} {path : Path} {step : Step} {literal : Literal}

@[simp] theorem literals_cons : literals (step :: path) = step.literal :: path.literals := rfl

@[simp] theorem vars_cons : vars (step :: path) = step.literal.var :: path.vars := rfl

theorem mem_vars_of_mem_literals (member : literal ∈ path.literals) : literal.var ∈ path.vars := by
  obtain ⟨step, onPath, rfl⟩ := List.mem_map.1 member
  exact List.mem_map_of_mem onPath

theorem exists_literal_of_mem_vars {var : Nat} (member : var ∈ path.vars) :
    ∃ positive, ⟨var, positive⟩ ∈ path.literals := by
  obtain ⟨step, onPath, rfl⟩ := List.mem_map.1 member
  exact ⟨step.literal.positive, List.mem_map_of_mem onPath⟩

theorem mem_literals_or_negate (bound : literal.var ∈ path.vars) :
    literal ∈ path.literals ∨ literal.negate ∈ path.literals := by
  obtain ⟨positive, member⟩ := exists_literal_of_mem_vars bound
  have sameVar : (⟨literal.var, positive⟩ : Literal).var = literal.var := rfl
  rcases Literal.var_eq_iff.1 sameVar with equal | negated
  · exact Or.inl (equal ▸ member)
  · exact Or.inr (negated ▸ member)

namespace WellFormed

theorem tail (wellFormed : WellFormed numVariables (step :: path)) : WellFormed numVariables path :=
  ⟨fun other member => wellFormed.within other (List.mem_cons_of_mem _ member),
    (List.nodup_cons.1 wellFormed.distinct).2⟩

theorem head_free (wellFormed : WellFormed numVariables (step :: path)) :
    step.literal.var ∉ path.vars :=
  (List.nodup_cons.1 wellFormed.distinct).1

theorem cons (wellFormed : WellFormed numVariables path)
    (within : 1 ≤ step.literal.var ∧ step.literal.var ≤ numVariables)
    (free : step.literal.var ∉ path.vars) : WellFormed numVariables (step :: path) :=
  ⟨List.forall_mem_cons.2 ⟨within, wellFormed.within⟩,
    List.nodup_cons.2 ⟨free, wellFormed.distinct⟩⟩

/-- Every variable is bound once, so there are no more steps than variables. -/
theorem length_le (wellFormed : WellFormed numVariables path) : path.length ≤ numVariables := by
  -- Different members of a range are no more than the range has.
  have within : path.vars ⊆ List.range' 1 numVariables := by
    intro var member
    obtain ⟨step, onPath, rfl⟩ := List.mem_map.1 member
    have := wellFormed.within step onPath
    rw [List.mem_range'_1]
    omega
  have shorter := (List.subperm_of_subset wellFormed.distinct within).length_le
  rwa [List.length_range', vars, List.length_map] at shorter

theorem of_append {newer : Path} (wellFormed : WellFormed numVariables (newer ++ path)) :
    WellFormed numVariables path := by
  induction newer with
  | nil => exact wellFormed
  | cons step newer inductionHypothesis => exact inductionHypothesis wellFormed.tail

theorem length_le_of_append {newer : Path} (wellFormed : WellFormed numVariables (newer ++ path)) :
    newer.length + path.length ≤ numVariables := by
  rw [← List.length_append]
  exact wellFormed.length_le

theorem length_lt {var : Nat} (wellFormed : WellFormed numVariables path)
    (within : 1 ≤ var ∧ var ≤ numVariables) (free : var ∉ path.vars) :
    path.length < numVariables := by
  -- The path with a step for the free variable is well-formed as well.
  have longer : WellFormed numVariables (⟨⟨var, true⟩, .forced⟩ :: path) :=
    wellFormed.cons within free
  exact longer.length_le

end WellFormed

/-! ## Values -/

@[simp] theorem length_values (path : Path) : (path.values numVariables).length = numVariables := by
  induction path with
  | nil => simp [values]
  | cons step path inductionHypothesis => simp [values, inductionHypothesis]

theorem getElem?_values_cons {var : Nat} (positive : 1 ≤ var)
    (within : 1 ≤ step.literal.var ∧ step.literal.var ≤ numVariables) :
    (values numVariables (step :: path))[var - 1]?
      = if step.literal.var = var then some (some step.literal.positive)
        else (values numVariables path)[var - 1]? := by
  have inRange : step.literal.var - 1 < (path.values numVariables).length := by
    rw [length_values]
    omega
  rw [values, List.getElem?_set, if_pos inRange]
  -- Variables start at one and places at zero.
  congr 1
  rw [eq_iff_iff]
  omega

/-- A variable without a step is free. -/
theorem getElem?_values_eq_none_iff {var : Nat} (wellFormed : WellFormed numVariables path)
    (positive : 1 ≤ var) (within : var ≤ numVariables) :
    (path.values numVariables)[var - 1]? = some none ↔ var ∉ path.vars := by
  induction path with
  | nil =>
    have inRange : var - 1 < numVariables := by omega
    simp [values, vars, inRange]
  | cons step path inductionHypothesis =>
    rw [getElem?_values_cons positive (wellFormed.within step List.mem_cons_self), vars_cons,
      List.mem_cons, not_or]
    split
    next same => simp [same]
    next other =>
      rw [inductionHypothesis wellFormed.tail]
      exact ⟨fun free => ⟨Ne.symm other, free⟩, And.right⟩

theorem set_values_cons (wellFormed : WellFormed numVariables (step :: path)) :
    (values numVariables (step :: path)).set (step.literal.var - 1) none = path.values numVariables := by
  obtain ⟨positive, within⟩ := wellFormed.within step List.mem_cons_self
  have free := (getElem?_values_eq_none_iff wellFormed.tail positive within).2 wellFormed.head_free
  rw [values, List.set_set]
  -- Only the place of the step differs, and there the earlier values have nothing.
  apply List.ext_getElem?
  intro index
  rw [List.getElem?_set]
  split
  next here =>
    have inRange : step.literal.var - 1 < (values numVariables path).length :=
      (List.getElem?_eq_some_iff.1 free).1
    rw [if_pos inRange, ← here, free]
  next elsewhere => rfl

theorem getElem?_values_eq_some_iff (wellFormed : WellFormed numVariables path)
    (positive : 1 ≤ literal.var) :
    (path.values numVariables)[literal.var - 1]? = some (some literal.positive)
      ↔ literal ∈ path.literals := by
  induction path with
  | nil => simp [values, literals, List.getElem?_replicate]
  | cons step path inductionHypothesis =>
    rw [getElem?_values_cons positive (wellFormed.within step List.mem_cons_self), literals_cons,
      List.mem_cons]
    split
    next same =>
      -- The variable is bound once, so no earlier step decides about it.
      have notLater : literal ∉ literals path := fun member =>
        wellFormed.head_free (same ▸ mem_vars_of_mem_literals member)
      obtain ⟨var, sign⟩ := literal
      obtain ⟨⟨stepVar, stepSign⟩, origin⟩ := step
      cases same
      simp [notLater, eq_comm]
    next other =>
      rw [inductionHypothesis wellFormed.tail]
      have different : literal ≠ step.literal := fun same => other (congrArg Literal.var same).symm
      simp [different]

end Path

end SatSum.Sat.Dpll
