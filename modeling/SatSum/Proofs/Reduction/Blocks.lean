import Mathlib.Algebra.Order.BigOperators.Group.List
import SatSum.Proofs.Reduction.Fresh

/-! # Blocks of three-literal clauses

Each clause becomes a block of clauses. Besides the variables of the clause, those of a block are the
next auxiliary ones in order, and how many clauses and auxiliary variables it has depends on the width of
the clause alone. So no two blocks share an auxiliary variable, and none is left out.

* `length_toThree`, `mem_varsOf_toThree`: the block for a clause.
* `getElem?_blocksFrom`, `mem_varsOf_blocksFrom`: the blocks for clauses in order.
* `reduceToThree_inBlocks`: the reduction of a formula, which another reduction leaves as it is.
-/

namespace SatSum

namespace Clause

variable {top link var : Nat} {c d : Literal} {rest clause : Clause} {clauses : List Clause}
  {threes : List ThreeClause}

/-! ## Widths -/

/-- How many three-literal clauses a clause of a width becomes. -/
def threesFor : Nat → Nat
  | 0 => 8
  | 1 => 4
  | 2 => 2
  | 3 => 1
  | width => width - 2

/-- How many auxiliary variables a clause of a width needs. -/
def auxiliariesFor : Nat → Nat
  | 0 => 3
  | 1 => 2
  | 2 => 1
  | 3 => 0
  | width => width - 3

theorem auxiliaries_eq (clause : Clause) : clause.auxiliaries = auxiliariesFor clause.length := by
  match clause with
  | [] => rfl
  | [_] => rfl
  | [_, _] => rfl
  | [_, _, _] => rfl
  | _ :: _ :: _ :: _ :: _ => rfl

theorem length_chainFrom : (chainFrom link c d rest).length = rest.length + 1 := by
  induction rest generalizing link c d with
  | nil => rfl
  | cons e rest inductionHypothesis =>
    rw [chainFrom, List.length_cons, inductionHypothesis, List.length_cons]

theorem length_toThree : (toThree top clause).length = threesFor clause.length := by
  match clause with
  | [] => rfl
  | [_] => rfl
  | [_, _] => rfl
  | [_, _, _] => rfl
  | _ :: _ :: _ :: _ :: rest => exact congrArg Nat.succ length_chainFrom

/-! ## Variables -/

/-- The variables that occur in clauses. -/
def varsOf (threes : List ThreeClause) : List Nat :=
  threes.flatMap fun three => three.toClause.map Literal.var

@[simp] theorem varsOf_nil : varsOf [] = [] := rfl

theorem mem_varsOf_iff : var ∈ varsOf threes ↔ ∃ literal ∈ literalsOf threes, literal.var = var := by
  rw [varsOf, literalsOf, ← List.map_flatMap, List.mem_map]

theorem varsOf_append (first second : List ThreeClause) :
    varsOf (first ++ second) = varsOf first ++ varsOf second :=
  List.flatMap_append

/-- A block is over the variables of its clause and the next auxiliary ones. -/
theorem mem_varsOf_toThree :
    var ∈ varsOf (toThree top clause)
      ↔ var ∈ clause.map Literal.var ∨ top < var ∧ var ≤ top + clause.auxiliaries := by
  simp only [mem_varsOf_iff, mem_literalsOf_toThree, List.mem_map, isFresh_iff]
  constructor
  · rintro ⟨literal, inClause | isFresh, rfl⟩
    · exact Or.inl ⟨literal, inClause, rfl⟩
    · exact Or.inr isFresh
  · rintro (⟨literal, inClause, rfl⟩ | isFresh)
    · exact ⟨literal, Or.inl inClause, rfl⟩
    · exact ⟨⟨var, true⟩, Or.inr isFresh, rfl⟩

/-! ## Blocks -/

theorem length_blocksFrom : (blocksFrom top clauses).length = clauses.length := by
  induction clauses generalizing top with
  | nil => rfl
  | cons clause clauses inductionHypothesis => exact congrArg Nat.succ inductionHypothesis

/-- The last variable in use before the block of the clause at a place. -/
def lastBefore (top : Nat) (clauses : List Clause) (place : Nat) : Nat :=
  top + ((clauses.take place).map fun clause => auxiliariesFor clause.length).sum

theorem lastBefore_succ_cons (top : Nat) (clause : Clause) (clauses : List Clause) (place : Nat) :
    lastBefore top (clause :: clauses) (place + 1)
      = lastBefore (top + clause.auxiliaries) clauses place := by
  rw [lastBefore, lastBefore, List.take_succ_cons, List.map_cons, List.sum_cons, auxiliaries_eq,
    Nat.add_assoc]

theorem lastBefore_length (top : Nat) (clauses : List Clause) :
    lastBefore top clauses clauses.length = top + auxiliaryCount clauses := by
  rw [lastBefore, List.take_length, auxiliaryCount, funext auxiliaries_eq]

theorem getElem?_blocksFrom (place : Nat) :
    (blocksFrom top clauses)[place]? = clauses[place]?.map (toThree (lastBefore top clauses place)) := by
  induction clauses generalizing top place with
  | nil => rfl
  | cons clause clauses inductionHypothesis =>
    cases place with
    | zero => rfl
    | succ place =>
      rw [blocksFrom, List.getElem?_cons_succ, List.getElem?_cons_succ, lastBefore_succ_cons]
      exact inductionHypothesis place

/-- Auxiliary variables of a clause come before those of the clauses after it. -/
theorem lastBefore_add_le (top : Nat) {place later : Nat} (found : clauses[place]? = some clause)
    (before : place < later) :
    lastBefore top clauses place + auxiliariesFor clause.length ≤ lastBefore top clauses later := by
  have next : lastBefore top clauses place + auxiliariesFor clause.length
      = lastBefore top clauses (place + 1) := by
    rw [lastBefore, lastBefore, List.take_add_one, found]
    simp [Nat.add_assoc]
  rw [next, lastBefore, lastBefore, List.map_take, List.map_take]
  exact Nat.add_le_add_left (List.monotone_sum_take _ before) top

/-- Blocks are over the variables of the clauses and the next auxiliary ones. -/
theorem mem_varsOf_blocksFrom :
    var ∈ varsOf (blocksFrom top clauses).flatten
      ↔ (∃ clause ∈ clauses, var ∈ clause.map Literal.var)
        ∨ top < var ∧ var ≤ top + auxiliaryCount clauses := by
  induction clauses generalizing top with
  | nil =>
    have none : ¬ (top < var ∧ var ≤ top) := by omega
    simp [blocksFrom, auxiliaryCount, none]
  | cons clause clauses inductionHypothesis =>
    rw [auxiliaryCount_cons, ← Nat.add_assoc]
    have together : top < var ∧ var ≤ top + clause.auxiliaries + auxiliaryCount clauses
        ↔ (top < var ∧ var ≤ top + clause.auxiliaries)
          ∨ top + clause.auxiliaries < var
            ∧ var ≤ top + clause.auxiliaries + auxiliaryCount clauses := by omega
    rw [blocksFrom, List.flatten_cons, varsOf_append, List.mem_append, inductionHypothesis,
      mem_varsOf_toThree, List.exists_mem_cons_iff, together]
    exact or_or_or_comm

/-! ## The block at a place -/

section

variable {place later : Nat}

/-- A variable above those of the clauses is in a block only as one of its own. -/
theorem auxiliary_of_mem_block (within : ∀ clause ∈ clauses, clause.Within top)
    (found : clauses[place]? = some clause)
    (member : var ∈ varsOf (toThree (lastBefore top clauses place) clause))
    (isAuxiliary : top < var) :
    lastBefore top clauses place < var
      ∧ var ≤ lastBefore top clauses place + auxiliariesFor clause.length := by
  rw [mem_varsOf_toThree, auxiliaries_eq] at member
  rcases member with ofClause | own
  · obtain ⟨literal, inClause, rfl⟩ := List.mem_map.1 ofClause
    have := within clause (List.mem_of_getElem? found) literal inClause
    omega
  · exact own

end

/-- Three-literal clauses in blocks, one for each source clause. A block has the length that the width
    of its clause says, and besides the variables of the clause as many auxiliary ones as it says, the
    next after those of the blocks before. -/
structure InBlocks (numVariables : Nat) (sources : List Clause) (blocks : List (List ThreeClause))
    (made : ThreeFormula) : Prop where
  clauses_eq : made.clauses = blocks.flatten
  length_blocks : blocks.length = sources.length
  length_block : ∀ (place : Nat) (source : Clause) (block : List ThreeClause),
    sources[place]? = some source → blocks[place]? = some block →
    block.length = threesFor source.length
  vars_block : ∀ (place : Nat) (source : Clause) (block : List ThreeClause),
    sources[place]? = some source → blocks[place]? = some block →
    ∀ var, var ∈ varsOf block
      ↔ var ∈ source.map Literal.var
        ∨ lastBefore numVariables sources place < var
          ∧ var ≤ lastBefore numVariables sources place + auxiliariesFor source.length
  numVariables_eq : made.numVariables = lastBefore numVariables sources sources.length
  used : ∀ var, numVariables < var → (var ∈ varsOf made.clauses ↔ var ≤ made.numVariables)
  own : ∀ (place other : Nat) (block otherBlock : List ThreeClause),
    blocks[place]? = some block → blocks[other]? = some otherBlock →
    ∀ var, numVariables < var → var ∈ varsOf block → var ∈ varsOf otherBlock → place = other
  ascending : ∀ (place later : Nat) (block laterBlock : List ThreeClause),
    blocks[place]? = some block → blocks[later]? = some laterBlock → place < later →
    ∀ var ∈ varsOf block, ∀ laterVar ∈ varsOf laterBlock,
      numVariables < var → numVariables < laterVar → var < laterVar

/-- Auxiliary variables of a block are before those of the blocks after it. -/
theorem ascending_blocksFrom (within : ∀ clause ∈ clauses, clause.Within top)
    {place later laterVar : Nat}
    {block laterBlock : List ThreeClause} (found : (blocksFrom top clauses)[place]? = some block)
    (foundLater : (blocksFrom top clauses)[later]? = some laterBlock) (before : place < later)
    (member : var ∈ varsOf block) (laterMember : laterVar ∈ varsOf laterBlock)
    (isAuxiliary : top < var) (laterIsAuxiliary : top < laterVar) : var < laterVar := by
  rw [getElem?_blocksFrom, Option.map_eq_some_iff] at found foundLater
  obtain ⟨source, found, rfl⟩ := found
  obtain ⟨laterSource, foundLater, rfl⟩ := foundLater
  have upper := auxiliary_of_mem_block within found member isAuxiliary
  have lower := auxiliary_of_mem_block within foundLater laterMember laterIsAuxiliary
  have between := lastBefore_add_le top found before
  omega

theorem inBlocks_blocksFrom (within : ∀ clause ∈ clauses, clause.Within top) :
    InBlocks top clauses (blocksFrom top clauses)
      ⟨top + auxiliaryCount clauses, (blocksFrom top clauses).flatten⟩ where
  clauses_eq := rfl
  length_blocks := length_blocksFrom
  length_block := by
    intro place source block found foundBlock
    rw [getElem?_blocksFrom, found] at foundBlock
    cases foundBlock
    exact length_toThree
  vars_block := by
    intro place source block found foundBlock var
    rw [getElem?_blocksFrom, found] at foundBlock
    cases foundBlock
    rw [mem_varsOf_toThree, auxiliaries_eq]
  numVariables_eq := (lastBefore_length top clauses).symm
  used := by
    intro var isAuxiliary
    have ofSource : ¬ ∃ clause ∈ clauses, var ∈ clause.map Literal.var := by
      rintro ⟨clause, inClauses, member⟩
      obtain ⟨literal, inClause, rfl⟩ := List.mem_map.1 member
      exact Nat.not_lt_of_le (within clause inClauses literal inClause).2 isAuxiliary
    rw [mem_varsOf_blocksFrom, or_iff_right ofSource,
      and_iff_right isAuxiliary]
  own := by
    intro place other block otherBlock found foundOther var isAuxiliary member otherMember
    rcases Nat.lt_trichotomy place other with before | same | after
    · exact absurd (ascending_blocksFrom within found foundOther before member otherMember
        isAuxiliary isAuxiliary) (Nat.lt_irrefl var)
    · exact same
    · exact absurd (ascending_blocksFrom within foundOther found after otherMember member
        isAuxiliary isAuxiliary) (Nat.lt_irrefl var)
  ascending := by
    intro place later block laterBlock found foundLater before var member laterVar laterMember
    exact ascending_blocksFrom within found foundLater before member laterMember

/-! ## Clauses that are three-literal clauses already -/

/-- A three-literal clause is its own block. -/
theorem flatten_blocksFrom_map_toClause (top : Nat) (threes : List ThreeClause) :
    (blocksFrom top (threes.map ThreeClause.toClause)).flatten = threes := by
  induction threes with
  | nil => rfl
  | cons three threes inductionHypothesis => exact congrArg (List.cons three) inductionHypothesis

theorem auxiliaryCount_map_toClause (threes : List ThreeClause) :
    auxiliaryCount (threes.map ThreeClause.toClause) = 0 := by
  induction threes with
  | nil => rfl
  | cons three threes inductionHypothesis =>
    rw [List.map_cons, auxiliaryCount_cons, inductionHypothesis]
    rfl

end Clause

/-- A three-literal formula over different variables is reduced to itself. -/
theorem ThreeFormula.reduceToThree_toFormula {three : ThreeFormula} (hasVariable : 0 < three.numVariables)
    (isWord : three.numVariables ≤ maxWord)
    (proper : ∀ clause ∈ three.clauses, clause.Proper three.numVariables) :
    three.toFormula.reduceToThree
      = .ok ⟨three, three.numVariables, three.toFormula.clauses.length⟩ := by
  have normal : Clause.normalize three.toFormula.clauses = three.clauses.map ThreeClause.toClause :=
    normalize_toFormula fun clause member => (proper clause member).distinct
  have noneNeeded : three.toFormula.auxiliaryCount = 0 := by
    rw [Formula.auxiliaryCount, normal, Clause.auxiliaryCount_map_toClause]
  have reduced := Formula.reduceToThree_eq_ok (wellFormed_toFormula hasVariable proper)
    (noneNeeded.symm ▸ isWord)
  rwa [noneNeeded, normal, Clause.flatten_blocksFrom_map_toClause] at reduced

/-! ## The reduction of a formula -/

/-- The reduction of a formula is a block for each of its clauses, repeated literals and clauses that are
    always true left out, and reducing it again changes nothing. -/
theorem reduceToThree_inBlocks (formula : Formula) (accepted : formula.validate = .ok ())
    (fits : formula.numVariables + formula.auxiliaryCount ≤ maxWord) :
    ∃ reduction blocks, formula.reduceToThree = .ok reduction
      ∧ Clause.InBlocks formula.numVariables (Clause.normalize formula.clauses) blocks
        reduction.formula
      ∧ ∃ again, reduction.formula.toFormula.reduceToThree = .ok again
        ∧ again.formula = reduction.formula := by
  have wellFormed := Formula.validate_eq_ok_iff.1 accepted
  have within := Clause.normalize_within wellFormed.within
  have proper := Clause.blocksFrom_proper within Clause.normalize_distinctVars
  have hasVariable : 0 < formula.numVariables + formula.auxiliaryCount :=
    Nat.lt_of_lt_of_le wellFormed.hasVariable (Nat.le_add_right _ _)
  exact ⟨_, _, Formula.reduceToThree_eq_ok wellFormed fits, Clause.inBlocks_blocksFrom within,
    _, ThreeFormula.reduceToThree_toFormula hasVariable fits proper, rfl⟩

/-- Clauses of every width, and one that is always true. -/
theorem reduceToThree_inBlocks_every_width :
    ∃ reduction blocks,
      (⟨5, [[], [⟨1, true⟩], [⟨1, true⟩, ⟨1, false⟩], [⟨2, false⟩, ⟨1, true⟩, ⟨2, false⟩],
          [⟨1, true⟩, ⟨2, true⟩, ⟨3, true⟩],
          [⟨1, true⟩, ⟨2, true⟩, ⟨3, false⟩, ⟨4, true⟩, ⟨5, true⟩]]⟩ : Formula).reduceToThree
        = .ok reduction
      ∧ Clause.InBlocks 5 [[], [⟨1, true⟩], [⟨2, false⟩, ⟨1, true⟩],
          [⟨1, true⟩, ⟨2, true⟩, ⟨3, true⟩],
          [⟨1, true⟩, ⟨2, true⟩, ⟨3, false⟩, ⟨4, true⟩, ⟨5, true⟩]] blocks reduction.formula
      ∧ ∃ again, reduction.formula.toFormula.reduceToThree = .ok again
        ∧ again.formula = reduction.formula :=
  reduceToThree_inBlocks _ rfl (by decide +kernel)

end SatSum
