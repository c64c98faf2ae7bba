import SatSum.Proofs.Sat.Dpll.Binding

/-! # What a path means

Every step is justified by the ones before it. A decision takes the first free variable and tries
`false`; any other literal holds in every model that the earlier steps hold in, either because a clause
forces it or because the first value of a decision is used up. So a conflict, that is a path that holds
in no model, takes the search back to the latest decision and no model is lost; and a path that
satisfies every clause gives the least model, because a model that leaves it does so at a decision.

The queue misses no unit: a clause becomes one at a binding, which queues it. Once the queue is empty
the path is saturated, and a decision or its second value makes no clause false then.

* `Reached`, `Conflict`: the invariant where the search goes on, and where it goes back.
* `QueueUnits.cons`: the queue after a binding.
* `noneFalsified_of_saturated`: binding on a saturated path.
* `bind_spec`: what binding a free literal does, and what its flag tells.
-/

namespace SatSum.Sat.Dpll.Path

def HoldsIn (valuation : Valuation) (path : Path) : Prop :=
  ∀ literal ∈ path.literals, literal.holds valuation = true

/-- Every clause without a true literal has two free ones at least. -/
def Saturated (formula : Formula) (path : Path) : Prop :=
  ∀ clause ∈ formula.clauses, (path.counter clause).isUnsatisfied = true →
    2 ≤ (path.counter clause).freeCount

/-- Why a step may follow the earlier ones. -/
def Justifies (formula : Formula) (rest : Path) (step : Step) : Prop :=
  match step.origin with
  | .branching =>
    step.literal.positive = false ∧ (∀ var, 1 ≤ var → var < step.literal.var → var ∈ rest.vars)
      ∧ Saturated formula rest
  | .forced | .flipped =>
    ∀ valuation, formula.IsModel valuation → rest.HoldsIn valuation →
      step.literal.holds valuation = true

def Justified (formula : Formula) : Path → Prop
  | [] => True
  | step :: rest => Justifies formula rest step ∧ Justified formula rest

def Falsifies (path : Path) (clause : Clause) : Prop :=
  ∀ literal ∈ clause, literal.negate ∈ path.literals

def NoneFalsified (formula : Formula) (path : Path) : Prop :=
  ∀ clause ∈ formula.clauses, ¬ path.Falsifies clause

/-- Where the search goes on from. -/
structure Reached (formula : Formula) (path : Path) : Prop where
  wellFormed : WellFormed formula.numVariables path
  justified : Justified formula path
  noneFalsified : NoneFalsified formula path

/-- Where the search goes back from: the path holds in no model, and no clause was false before the
    latest step. -/
structure Conflict (formula : Formula) (path : Path) : Prop where
  wellFormed : WellFormed formula.numVariables path
  justified : Justified formula path
  excluded : ∀ valuation, formula.IsModel valuation → ¬ path.HoldsIn valuation
  noneFalsified : NoneFalsified formula path.tail

/-- Of the clauses without a true literal, those with at most one free literal are queued. -/
def QueueUnits (formula : Formula) (path : Path) (queue : List Nat) : Prop :=
  ∀ position clause, formula.clauses[position]? = some clause →
    (path.counter clause).isUnsatisfied = true →
      (position ∈ queue ↔ (path.counter clause).freeCount ≤ 1)

variable {formula : Formula} {path : Path} {step : Step} {literal : Literal} {clause : Clause}
  {valuation : Valuation} {numVariables : Nat}

/-! ## False clauses -/

theorem holdsIn_cons :
    HoldsIn valuation (step :: path) ↔ step.literal.holds valuation = true ∧ path.HoldsIn valuation := by
  simp [HoldsIn]

theorem not_mem_negate (wellFormed : WellFormed numVariables path) (member : literal ∈ path.literals) :
    literal.negate ∉ path.literals := by
  intro negated
  -- The values of the path would have to give the variable both signs.
  obtain ⟨step, onPath, rfl⟩ := List.mem_map.1 member
  have positive := (wellFormed.within step onPath).1
  have value := (getElem?_values_eq_some_iff wellFormed positive).2 member
  have opposite : (path.values numVariables)[step.literal.var - 1]?
      = some (some !step.literal.positive) :=
    (getElem?_values_eq_some_iff wellFormed (by exact positive)).2 negated
  rw [value] at opposite
  simp at opposite

theorem falsifies_iff (wellFormed : WellFormed numVariables path) :
    path.Falsifies clause
      ↔ (path.counter clause).isUnsatisfied = true ∧ (path.counter clause).freeCount = 0 := by
  rw [isUnsatisfied_iff, freeCount_eq_zero_iff]
  constructor
  · intro falsified
    constructor
    · intro literal member onPath
      exact not_mem_negate wellFormed onPath (falsified literal member)
    · intro literal member
      -- The negation is over the same variable.
      have bound : literal.negate.var ∈ path.vars :=
        mem_vars_of_mem_literals (falsified literal member)
      exact bound
  · rintro ⟨noneTrue, noneFree⟩ literal member
    exact (mem_literals_or_negate (noneFree literal member)).resolve_left (noneTrue literal member)

theorem NoneFalsified.tail (noneFalsified : NoneFalsified formula path) :
    NoneFalsified formula path.tail := by
  intro clause member falsified
  apply noneFalsified clause member
  intro literal inClause
  cases path with
  | nil => exact falsified literal inClause
  | cons step path => exact List.mem_cons_of_mem _ (falsified literal inClause)

theorem not_holdsIn_of_falsifies (falsified : path.Falsifies clause)
    (member : clause ∈ formula.clauses) (model : formula.IsModel valuation) :
    ¬ path.HoldsIn valuation := by
  intro holdsIn
  obtain ⟨literal, inClause, holds⟩ := model.clause member
  have negated := holdsIn _ (falsified literal inClause)
  rw [Literal.not_holds_negate holds] at negated
  cases negated

/-! ## Binding -/

theorem mem_weakenedBy {counter : Counter} {position : Nat} :
    (counter, position) ∈ weakenedBy formula step path
      ↔ ∃ clause, formula.clauses[position]? = some clause
        ∧ Path.counter (step :: path) clause = counter
        ∧ step.literal.negate ∈ clause ∧ counter.isUnsatisfied = true := by
  rw [weakenedBy, State.weakened, List.mem_filter, List.mem_zipIdx_iff_getElem?, List.getElem?_map,
    Option.map_eq_some_iff, Bool.and_eq_true]
  constructor
  · rintro ⟨⟨clause, atPosition, rfl⟩, weakened, unsatisfied⟩
    exact ⟨clause, atPosition, rfl, by simpa [Path.counter] using weakened, unsatisfied⟩
  · rintro ⟨clause, atPosition, rfl, weakened, unsatisfied⟩
    exact ⟨⟨clause, atPosition, rfl⟩, by simpa [Path.counter] using weakened, unsatisfied⟩

/-- If no clause was false, the flag tells whether that is still so. -/
theorem all_weakenedBy_iff (wellFormed : WellFormed formula.numVariables (step :: path))
    (noneFalsified : NoneFalsified formula path) :
    (weakenedBy formula step path).all (·.1.freeCount != 0) = true
      ↔ NoneFalsified formula (step :: path) := by
  simp only [List.all_eq_true, Prod.forall, mem_weakenedBy]
  constructor
  · intro passed clause member falsified
    obtain ⟨position, atPosition⟩ := List.getElem?_of_mem member
    obtain ⟨unsatisfied, noneFree⟩ := (falsifies_iff wellFormed).1 falsified
    by_cases weakened : step.literal.negate ∈ clause
    · have free := passed _ _ ⟨clause, atPosition, rfl, weakened, unsatisfied⟩
      simp [noneFree] at free
    -- Without the negation of the literal the clause was false already.
    · apply noneFalsified clause member
      intro literal inClause
      have negated := falsified literal inClause
      rw [literals_cons, List.mem_cons] at negated
      refine negated.resolve_left fun equal => weakened ?_
      rw [← equal, Literal.negate_negate]
      exact inClause
  · rintro noneFalsified counter position ⟨clause, atPosition, rfl, _, unsatisfied⟩
    simp only [bne_iff_ne, ne_eq]
    intro noneFree
    exact noneFalsified clause (List.mem_of_getElem? atPosition)
      ((falsifies_iff wellFormed).2 ⟨unsatisfied, noneFree⟩)

/-! ## The queue -/

theorem queueUnits_nil_iff : QueueUnits formula path [] ↔ Saturated formula path := by
  constructor
  · intro queued clause member unsatisfied
    obtain ⟨position, atPosition⟩ := List.getElem?_of_mem member
    have notQueued := mt (queued position clause atPosition unsatisfied).2 List.not_mem_nil
    omega
  · intro saturated position clause atPosition unsatisfied
    have twoFree := saturated clause (List.mem_of_getElem? atPosition) unsatisfied
    exact iff_of_false List.not_mem_nil (by omega)

/-- The clause that is taken off the queue may be missing if it has a true literal. -/
theorem QueueUnits.pop {position : Nat} {queue : List Nat}
    (queued : QueueUnits formula path (position :: queue))
    (satisfied : ∀ clause, formula.clauses[position]? = some clause →
      (path.counter clause).isUnsatisfied = false) : QueueUnits formula path queue := by
  intro other clause atOther unsatisfied
  have different : other ≠ position := by
    rintro rfl
    rw [satisfied clause atOther] at unsatisfied
    cases unsatisfied
  rw [← queued other clause atOther unsatisfied, List.mem_cons, or_iff_right different]

theorem isUnsatisfied_of_cons (unsatisfied : (counter (step :: path) clause).isUnsatisfied = true) :
    (path.counter clause).isUnsatisfied = true := by
  rw [isUnsatisfied_iff] at unsatisfied ⊢
  exact fun literal inClause onPath =>
    unsatisfied literal inClause (List.mem_cons_of_mem _ onPath)

/-- A clause without a true literal can only have lost the negation of the step. -/
theorem freeCount_of_cons (free : step.literal.var ∉ path.vars)
    (unsatisfied : (counter (step :: path) clause).isUnsatisfied = true) :
    (path.counter clause).freeCount = (counter (step :: path) clause).freeCount
      + if clause.deduplicated.contains step.literal.negate then 1 else 0 := by
  have absent : clause.deduplicated.contains step.literal = false := by
    rw [Bool.eq_false_iff, ne_eq, List.contains_iff_mem, Clause.mem_deduplicated]
    exact fun inClause => isUnsatisfied_iff.1 unsatisfied _ inClause List.mem_cons_self
  rw [freeCount_cons clause free, absent]
  rfl

/-- The queue after a step. -/
def queueAfter (formula : Formula) (step : Step) (path : Path) (queue : List Nat) : List Nat :=
  queue ++ ((weakenedBy formula step path).filter (·.1.freeCount == 1)).map Prod.snd

/-- Queued clauses stay queued, and those that become units are added. -/
theorem QueueUnits.cons {queue : List Nat} (free : step.literal.var ∉ path.vars)
    (queued : QueueUnits formula path queue) :
    QueueUnits formula (step :: path) (queueAfter formula step path queue) := by
  intro position clause atPosition unsatisfied
  have lost := freeCount_of_cons free unsatisfied
  have before := queued position clause atPosition (isUnsatisfied_of_cons unsatisfied)
  rw [queueAfter, List.mem_append]
  constructor
  · rintro (old | new)
    · have := before.1 old
      omega
    · obtain ⟨⟨counter, _⟩, inUnits, rfl⟩ := List.mem_map.1 new
      rw [List.mem_filter, mem_weakenedBy, beq_iff_eq] at inUnits
      obtain ⟨⟨other, otherAt, sameCounter, _, _⟩, unit⟩ := inUnits
      rw [otherAt] at atPosition
      cases atPosition
      rw [sameCounter]
      exact Nat.le_of_eq unit
  -- A clause that was no unit before has two free literals then, so it lost one of them now.
  · intro unit
    by_cases wasUnit : (path.counter clause).freeCount ≤ 1
    · exact Or.inl (before.2 wasUnit)
    · split at lost
      next weakened =>
        rw [List.contains_iff_mem, Clause.mem_deduplicated] at weakened
        refine Or.inr (List.mem_map.2 ⟨(counter (step :: path) clause, position), ?_, rfl⟩)
        rw [List.mem_filter, mem_weakenedBy, beq_iff_eq]
        exact ⟨⟨clause, atPosition, rfl, weakened, unsatisfied⟩, by simp only; omega⟩
      next kept => omega

/-- On a saturated path every clause without a true literal has a free literal to lose. -/
theorem noneFalsified_of_saturated (wellFormed : WellFormed formula.numVariables (step :: path))
    (saturated : Saturated formula path) : NoneFalsified formula (step :: path) := by
  intro clause member falsified
  obtain ⟨unsatisfied, noneFree⟩ := (falsifies_iff wellFormed).1 falsified
  have lost := freeCount_of_cons wellFormed.head_free unsatisfied
  have twoFree := saturated clause member (isUnsatisfied_of_cons unsatisfied)
  split at lost <;> omega

/-! ## The flag -/

/-- Binding a free literal leads to the path with the literal in front. The flag tells whether no
    clause is false there. -/
theorem bind_spec (queue : List Nat) (nodes : Nat)
    (wellFormed : WellFormed formula.numVariables (step :: path))
    (noneFalsified : NoneFalsified formula path) :
    ∃ flag, (path.state formula queue nodes).bind step.literal step.origin
        = (state formula (step :: path) (queueAfter formula step path queue) (nodes + 1), flag)
      ∧ (flag = true ↔ NoneFalsified formula (step :: path)) :=
  ⟨_, bind_state queue nodes wellFormed.head_free, all_weakenedBy_iff wellFormed noneFalsified⟩

end SatSum.Sat.Dpll.Path
