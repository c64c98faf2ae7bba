import SatSum.Proofs.Sat.Dpll.Moves
import Mathlib.Data.Nat.PSub

/-! # Counting by occurrences

When a variable is bound, only the clauses with its literals are looked at: those that the new literal
makes true, then those that lose its negation. Each counter is raised or lowered by one at a time, and
so is the number of clauses without a true literal. `bindStepwise?` and `undoStepwise?` do this and give
nothing if a count below zero were needed. In every state that moves lead to they give what `bind` and
`undo` do, although a clause may have both literals of a variable.

* `foldlM_changeAt?`: going through the occurrences changes the clauses that have the literal.
* `bindStepwise?_state`, `undoStepwise?_state`: no count goes below zero.
* `moves_keep_counts`: what holds in every state of a search.
-/

namespace SatSum.Sat.Dpll

/-! ## Going through occurrences -/

/-- The positions of the clauses with a literal, noted clause by clause and literal by literal. -/
def occurrences (clauses : List Clause) (literal : Literal) : List Nat :=
  clauses.zipIdx.flatMap fun entry =>
    (entry.1.deduplicated.filter (· == literal)).map fun _ => entry.2

section Changes

variable {α : Type}

/-- Changes the counter at a position, and what is kept besides. -/
def changeAt? (change : Counter → Nat → α → Option (Counter × α)) (current : List Counter × α)
    (position : Nat) : Option (List Counter × α) := do
  let counter ← current.1[position]?
  let (changed, kept) ← change counter position current.2
  return (current.1.set position changed, kept)

/-- Changes the counters with a literal, the first counter being at `position`. -/
def changeFrom? (change : Counter → Nat → α → Option (Counter × α)) (literal : Literal)
    (position : Nat) (kept : α) : List Counter → Option (List Counter × α)
  | [] => some ([], kept)
  | counter :: rest =>
    if literal ∈ counter.literals then do
      let (changed, kept) ← change counter position kept
      let (others, kept) ← changeFrom? change literal (position + 1) kept rest
      return (changed :: others, kept)
    else do
      let (others, kept) ← changeFrom? change literal (position + 1) kept rest
      return (counter :: others, kept)

end Changes

/-- A literal of the clause becomes true; the number of clauses without a true literal is kept. -/
def gain? (counter : Counter) (_ : Nat) (unsatisfied : Nat) : Option (Counter × Nat) := do
  let freeCount ← Nat.ppred counter.freeCount
  let gained := { counter with trueCount := counter.trueCount + 1, freeCount }
  if gained.trueCount = 1 then return (gained, ← Nat.ppred unsatisfied) else return (gained, unsatisfied)

/-- A literal of the clause becomes false; the queue is kept, and whether no clause became false. -/
def lose? (counter : Counter) (position : Nat) (kept : List Nat × Bool) :
    Option (Counter × List Nat × Bool) := do
  let freeCount ← Nat.ppred counter.freeCount
  let lost := { counter with freeCount }
  if lost.trueCount = 0 then
    match freeCount with
    | 0 => return (lost, kept.1, false)
    | 1 => return (lost, kept.1 ++ [position], kept.2)
    | _ => return (lost, kept)
  else return (lost, kept)

/-- A true literal of the clause becomes free. -/
def ungain? (counter : Counter) (_ : Nat) (unsatisfied : Nat) : Option (Counter × Nat) := do
  let trueCount ← Nat.ppred counter.trueCount
  let ungained := { counter with trueCount, freeCount := counter.freeCount + 1 }
  return (ungained, if trueCount = 0 then unsatisfied + 1 else unsatisfied)

/-- A false literal of the clause becomes free. -/
def unlose? (counter : Counter) (_ : Nat) (_ : Unit) : Option (Counter × Unit) :=
  some ({ counter with freeCount := counter.freeCount + 1 }, ())

namespace State

/-- `bind`, a counter at a time. -/
def bindStepwise? (clauses : List Clause) (literal : Literal) (origin : Origin) (state : State) :
    Option (State × Bool) := do
  let (gained, unsatisfied) ←
    (occurrences clauses literal).foldlM (changeAt? gain?) (state.counters, state.unsatisfied)
  let (counters, queue, consistent) ←
    (occurrences clauses literal.negate).foldlM (changeAt? lose?) (gained, state.queue, true)
  return ({ values := state.values.set (literal.var - 1) (some literal.positive)
            counters
            trail := ⟨literal.var, origin⟩ :: state.trail
            queue
            unsatisfied
            nodes := state.nodes + 1 }, consistent)

/-- `unbind`, a counter at a time. -/
def unbindStepwise? (clauses : List Clause) (literal : Literal) (state : State) : Option State := do
  let (ungained, unsatisfied) ←
    (occurrences clauses literal).foldlM (changeAt? ungain?) (state.counters, state.unsatisfied)
  let (counters, _) ← (occurrences clauses literal.negate).foldlM (changeAt? unlose?) (ungained, ())
  return { state with values := state.values.set (literal.var - 1) none, counters, unsatisfied }

/-- `undo`, a counter at a time. -/
def undoStepwise? (clauses : List Clause) (state : State) : Option State :=
  match state.trail with
  | [] => some state
  | last :: rest =>
    unbindStepwise? clauses ⟨last.var, state.valueOf last.var⟩ { state with trail := rest }

end State

/-! ## Occurrences and counters -/

/-- The positions of the counters with a literal, the first counter being at `position`. -/
def positionsFrom (literal : Literal) (position : Nat) (counters : List Counter) : List Nat :=
  ((counters.zipIdx position).filter (·.1.literals.contains literal)).map Prod.snd

variable {α : Type} {literal : Literal} {position unsatisfied : Nat} {counter : Counter}
  {counters : List Counter} {clauses : List Clause}

/-- Without repetitions a clause is noted once at most. -/
theorem filter_beq_deduplicated (clause : Clause) (literal : Literal) :
    clause.deduplicated.filter (· == literal)
      = if clause.deduplicated.contains literal then [literal] else [] := by
  rw [List.filter_beq]
  split
  next occurs =>
    rw [List.count_eq_one_of_mem clause.deduplicated_nodup (List.contains_iff_mem.1 occurs)]
    rfl
  next absent =>
    rw [List.count_eq_zero.2 (mt List.contains_iff_mem.2 absent)]
    rfl

theorem occurrences_eq (sameLiterals : counters.map Counter.literals = clauses.map Clause.deduplicated)
    (literal : Literal) : occurrences clauses literal = positionsFrom literal 0 counters := by
  rw [occurrences, positionsFrom]
  generalize 0 = position
  induction clauses generalizing counters position with
  | nil =>
    obtain rfl : counters = [] := List.map_eq_nil_iff.1 sameLiterals
    rfl
  | cons clause clauses inductionHypothesis =>
    obtain ⟨counter, counters, rfl, sameHere, sameLater⟩ := List.map_eq_cons_iff.1 sameLiterals
    rw [List.zipIdx_cons, List.zipIdx_cons, List.flatMap_cons, inductionHypothesis sameLater,
      List.filter_cons, filter_beq_deduplicated, sameHere]
    split <;> rfl

theorem positionsFrom_cons (literal : Literal) (position : Nat) (counter : Counter)
    (counters : List Counter) :
    positionsFrom literal position (counter :: counters)
      = if literal ∈ counter.literals then position :: positionsFrom literal (position + 1) counters
        else positionsFrom literal (position + 1) counters := by
  simp only [positionsFrom, List.zipIdx_cons, List.filter_cons, List.contains_iff_mem]
  split <;> rfl

/-- Changing counters where the literal occurs is changing those that have it. -/
theorem foldlM_changeAt? (change : Counter → Nat → α → Option (Counter × α)) (literal : Literal)
    (done todo : List Counter) (kept : α) :
    (positionsFrom literal done.length todo).foldlM (changeAt? change) (done ++ todo, kept)
      = (changeFrom? change literal done.length kept todo).map fun result =>
          (done ++ result.1, result.2) := by
  induction todo generalizing done kept with
  | nil => rfl
  | cons counter todo inductionHypothesis =>
    have oneMore (changed : Counter) : (done ++ [changed]).length = done.length + 1 := List.length_append
    have later (changed : Counter) := inductionHypothesis (done ++ [changed])
    simp only [oneMore] at later
    rw [positionsFrom_cons, changeFrom?]
    split
    next affected =>
      have here : (done ++ counter :: todo)[done.length]? = some counter := by simp
      have replaced (changed : Counter) :
          (done ++ counter :: todo).set done.length changed = done ++ [changed] ++ todo := by simp
      rw [List.foldlM_cons, changeAt?]
      simp only [here, Option.bind_eq_bind, Option.bind_some]
      cases change counter done.length kept with
      | none => rfl
      | some result =>
        obtain ⟨changed, kept⟩ := result
        simp only [Option.bind_some, replaced, Option.pure_def, later]
        cases changeFrom? change literal (done.length + 1) kept todo <;> simp
    next unaffected =>
      rw [List.append_cons, later]
      cases changeFrom? change literal (done.length + 1) kept todo <;> simp

/-! ## Single changes -/

namespace Counter

/-- One more literal is true, if the clause has it. -/
def gain (literal : Literal) (counter : Counter) : Counter :=
  if literal ∈ counter.literals then
    { counter with trueCount := counter.trueCount + 1, freeCount := counter.freeCount - 1 }
  else counter

/-- One more literal is false, if the clause has it. -/
def lose (literal : Literal) (counter : Counter) : Counter :=
  if literal ∈ counter.literals then { counter with freeCount := counter.freeCount - 1 } else counter

/-- One literal less is true, if the clause has it. -/
def ungain (literal : Literal) (counter : Counter) : Counter :=
  if literal ∈ counter.literals then
    { counter with trueCount := counter.trueCount - 1, freeCount := counter.freeCount + 1 }
  else counter

/-- One literal less is false, if the clause has it. -/
def unlose (literal : Literal) (counter : Counter) : Counter :=
  if literal ∈ counter.literals then { counter with freeCount := counter.freeCount + 1 } else counter

theorem literals_gain (literal : Literal) (counter : Counter) :
    (counter.gain literal).literals = counter.literals := by
  rw [gain]
  split <;> rfl

theorem literals_ungain (literal : Literal) (counter : Counter) :
    (counter.ungain literal).literals = counter.literals := by
  rw [ungain]
  split <;> rfl

theorem lose_gain (literal : Literal) (counter : Counter) :
    (counter.gain literal).lose literal.negate = counter.bind literal := by
  simp only [gain, lose, Counter.bind, List.contains_iff_mem]
  by_cases occurs : literal ∈ counter.literals <;>
    by_cases negated : literal.negate ∈ counter.literals <;> simp [occurs, negated]

theorem unlose_ungain (literal : Literal) (counter : Counter) :
    (counter.ungain literal).unlose literal.negate = counter.unbind literal := by
  simp only [ungain, unlose, Counter.unbind, List.contains_iff_mem]
  by_cases occurs : literal ∈ counter.literals <;>
    by_cases negated : literal.negate ∈ counter.literals <;> simp [occurs, negated]

end Counter

/-- What one change after the other makes of every counter. -/
theorem map_map_of_forall {β : Type} {first : Counter → Counter} {second whole : Counter → β}
    (equal : ∀ counter, second (first counter) = whole counter) (counters : List Counter) :
    (counters.map first).map second = counters.map whole := by
  rw [List.map_map]
  exact List.map_congr_left fun counter _ => equal counter

theorem ppred_eq {count : Nat} (positive : 0 < count) : Nat.ppred count = some (count - 1) := by
  obtain ⟨less, rfl⟩ := Nat.exists_eq_succ_of_ne_zero (Nat.ne_of_gt positive)
  rfl

theorem gain?_eq (occurs : literal ∈ counter.literals) (free : 0 < counter.freeCount)
    (enough : counter.isUnsatisfied = true → 0 < unsatisfied) :
    gain? counter position unsatisfied
      = some (counter.gain literal, unsatisfied - if counter.isUnsatisfied then 1 else 0) := by
  simp only [gain?, ppred_eq free, Counter.gain, if_pos occurs, Option.bind_eq_bind, Option.bind_some]
  by_cases open_ : counter.trueCount = 0
  · have isUnsatisfied : counter.isUnsatisfied = true := beq_iff_eq.2 open_
    simp [open_, isUnsatisfied, ppred_eq (enough isUnsatisfied)]
  · have isSatisfied : counter.isUnsatisfied = false := beq_eq_false_iff_ne.2 open_
    simp [open_, isSatisfied]

theorem lose?_eq (occurs : literal ∈ counter.literals) (free : 0 < counter.freeCount) (queue : List Nat)
    (consistent : Bool) :
    lose? counter position (queue, consistent)
      = some (counter.lose literal,
          if (counter.lose literal).isUnsatisfied && (counter.lose literal).freeCount == 1 then
            queue ++ [position]
          else queue,
          consistent && !((counter.lose literal).isUnsatisfied && (counter.lose literal).freeCount == 0)) := by
  simp only [lose?, ppred_eq free, Counter.lose, if_pos occurs, Option.bind_eq_bind, Option.bind_some]
  by_cases open_ : counter.trueCount = 0
  · rcases counter.freeCount - 1 with _ | _ | _ <;> simp [Counter.isUnsatisfied, open_]
  · simp [Counter.isUnsatisfied, open_]

theorem ungain?_eq (occurs : literal ∈ counter.literals) (gained : 0 < counter.trueCount) :
    ungain? counter position unsatisfied
      = some (counter.ungain literal,
          unsatisfied + if (counter.ungain literal).isUnsatisfied then 1 else 0) := by
  simp only [ungain?, ppred_eq gained, Counter.ungain, if_pos occurs, Option.bind_eq_bind, Option.bind_some]
  by_cases open_ : counter.trueCount - 1 = 0 <;> simp [Counter.isUnsatisfied, open_]

/-! ## All changes -/

/-- The clause has the literal and no true one. -/
def Counter.isOpenFor (literal : Literal) (counter : Counter) : Bool :=
  counter.literals.contains literal && counter.isUnsatisfied

theorem isOpenFor_of_mem (occurs : literal ∈ counter.literals) :
    counter.isOpenFor literal = counter.isUnsatisfied := by
  rw [Counter.isOpenFor, List.contains_iff_mem.2 occurs, Bool.true_and]

theorem isOpenFor_of_not_mem (absent : literal ∉ counter.literals) :
    counter.isOpenFor literal = false := by
  rw [Counter.isOpenFor, Bool.eq_false_iff.2 (mt List.contains_iff_mem.1 absent), Bool.false_and]

/-- A literal that is free again makes no clause true. -/
theorem countP_isOpenFor_map_unlose (literal lost : Literal) (counters : List Counter) :
    (counters.map (Counter.unlose lost)).countP (Counter.isOpenFor literal)
      = counters.countP (Counter.isOpenFor literal) := by
  rw [List.countP_map]
  refine List.countP_congr fun counter _ => ?_
  rw [Function.comp_apply, Counter.unlose]
  split <;> rfl

theorem changeFrom?_gain (free : ∀ counter ∈ counters, literal ∈ counter.literals → 0 < counter.freeCount)
    (enough : counters.countP (Counter.isOpenFor literal) ≤ unsatisfied) :
    changeFrom? gain? literal position unsatisfied counters
      = some (counters.map (Counter.gain literal),
          unsatisfied - counters.countP (Counter.isOpenFor literal)) := by
  induction counters generalizing position unsatisfied with
  | nil => rfl
  | cons counter counters inductionHypothesis =>
    obtain ⟨freeHere, freeLater⟩ := List.forall_mem_cons.1 free
    have later (position unsatisfied : Nat) := @inductionHypothesis position unsatisfied freeLater
    rw [List.countP_cons] at enough ⊢
    rw [changeFrom?, List.map_cons]
    split
    next occurs =>
      rw [isOpenFor_of_mem occurs] at enough ⊢
      have some_ : counter.isUnsatisfied = true → 0 < unsatisfied := by
        intro isUnsatisfied
        rw [if_pos isUnsatisfied] at enough
        omega
      simp only [gain?_eq occurs (freeHere occurs) some_, Option.bind_eq_bind, Option.bind_some,
        later _ (unsatisfied - if counter.isUnsatisfied then 1 else 0) (by omega), Nat.sub_sub,
        Nat.add_comm]
      rfl
    next absent =>
      rw [isOpenFor_of_not_mem absent] at enough ⊢
      have unchanged : counter.gain literal = counter := if_neg absent
      simp only [later _ unsatisfied enough, unchanged, Option.bind_eq_bind, Option.bind_some]
      rfl

/-- The counters that have lost a literal and have no true one, the first counter being at `position`. -/
def weakenedFrom (literal : Literal) (position : Nat) (counters : List Counter) : List (Counter × Nat) :=
  (counters.zipIdx position).filter fun entry => entry.1.isOpenFor literal

theorem weakenedFrom_cons (literal : Literal) (position : Nat) (counter : Counter) (counters : List Counter) :
    weakenedFrom literal position (counter :: counters)
      = if counter.isOpenFor literal then (counter, position) :: weakenedFrom literal (position + 1) counters
        else weakenedFrom literal (position + 1) counters := by
  rw [weakenedFrom, List.zipIdx_cons, List.filter_cons]
  rfl

theorem changeFrom?_lose (free : ∀ counter ∈ counters, literal ∈ counter.literals → 0 < counter.freeCount)
    (queue : List Nat) (consistent : Bool) :
    changeFrom? lose? literal position (queue, consistent) counters
      = some (counters.map (Counter.lose literal),
          queue ++ ((weakenedFrom literal position (counters.map (Counter.lose literal))).filter
            (·.1.freeCount == 1)).map Prod.snd,
          consistent && (weakenedFrom literal position (counters.map (Counter.lose literal))).all
            (·.1.freeCount != 0)) := by
  induction counters generalizing position queue consistent with
  | nil => simp [changeFrom?, weakenedFrom]
  | cons counter counters inductionHypothesis =>
    obtain ⟨freeHere, freeLater⟩ := List.forall_mem_cons.1 free
    have later (position : Nat) := @inductionHypothesis position freeLater
    rw [changeFrom?, List.map_cons, weakenedFrom_cons]
    split
    next occurs =>
      have stillOccurs : literal ∈ (counter.lose literal).literals := by
        rwa [Counter.lose, if_pos occurs]
      simp only [lose?_eq occurs (freeHere occurs), later, isOpenFor_of_mem stillOccurs,
        Option.bind_eq_bind, Option.bind_some]
      generalize counter.lose literal = lost
      -- The clause is queued or makes the flag false only if it is among those weakened.
      cases lost.isUnsatisfied with
      | false => simp
      | true => rcases count : lost.freeCount with _ | _ | more <;> simp [count]
    next absent =>
      have unchanged : counter.lose literal = counter := if_neg absent
      simp only [later, unchanged, isOpenFor_of_not_mem absent, Option.bind_eq_bind, Option.bind_some]
      rfl

theorem changeFrom?_ungain (gained : ∀ counter ∈ counters, literal ∈ counter.literals → 0 < counter.trueCount) :
    changeFrom? ungain? literal position unsatisfied counters
      = some (counters.map (Counter.ungain literal),
          unsatisfied + (counters.map (Counter.ungain literal)).countP (Counter.isOpenFor literal)) := by
  induction counters generalizing position unsatisfied with
  | nil => rfl
  | cons counter counters inductionHypothesis =>
    obtain ⟨gainedHere, gainedLater⟩ := List.forall_mem_cons.1 gained
    have later (position unsatisfied : Nat) := @inductionHypothesis position unsatisfied gainedLater
    rw [changeFrom?, List.map_cons, List.countP_cons]
    split
    next occurs =>
      have stillOccurs : literal ∈ (counter.ungain literal).literals := by
        rwa [Counter.ungain, if_pos occurs]
      simp only [ungain?_eq occurs (gainedHere occurs), later, isOpenFor_of_mem stillOccurs,
        Option.bind_eq_bind, Option.bind_some]
      rw [← Nat.add_assoc, Nat.add_right_comm]
      rfl
    next absent =>
      have unchanged : counter.ungain literal = counter := if_neg absent
      simp only [later, unchanged, isOpenFor_of_not_mem absent, Option.bind_eq_bind, Option.bind_some]
      rfl

theorem changeFrom?_unlose (literal : Literal) (position : Nat) (counters : List Counter) :
    changeFrom? unlose? literal position () counters = some (counters.map (Counter.unlose literal), ()) := by
  induction counters generalizing position with
  | nil => rfl
  | cons counter counters inductionHypothesis =>
    rw [changeFrom?, List.map_cons, Counter.unlose]
    split <;> simp [unlose?, inductionHypothesis]

theorem foldlM_occurrences (change : Counter → Nat → α → Option (Counter × α)) (literal : Literal)
    (kept : α) (sameLiterals : counters.map Counter.literals = clauses.map Clause.deduplicated) :
    (occurrences clauses literal).foldlM (changeAt? change) (counters, kept)
      = changeFrom? change literal 0 kept counters := by
  have changed := foldlM_changeAt? change literal [] counters kept
  rw [occurrences_eq sameLiterals]
  simpa using changed

/-! ## States -/

theorem State.bindStepwise?_eq {state : State} (origin : Origin)
    (sameLiterals : state.counters.map Counter.literals = clauses.map Clause.deduplicated)
    (free : ∀ counter ∈ state.counters, literal ∈ counter.literals → 0 < counter.freeCount)
    (stillFree : ∀ counter ∈ state.counters.map (Counter.gain literal),
      literal.negate ∈ counter.literals → 0 < counter.freeCount)
    (enough : state.counters.countP (Counter.isOpenFor literal) ≤ state.unsatisfied) :
    state.bindStepwise? clauses literal origin = some (state.bind literal origin) := by
  have gaining := (foldlM_occurrences gain? literal state.unsatisfied sameLiterals).trans
    (changeFrom?_gain free enough)
  have losing := (foldlM_occurrences lose? literal.negate (state.queue, true)
    ((map_map_of_forall (Counter.literals_gain literal) _).trans sameLiterals)).trans
    (changeFrom?_lose stillFree state.queue true)
  rw [map_map_of_forall (Counter.lose_gain literal)] at losing
  simp only [bindStepwise?, gaining, losing, Option.bind_eq_bind, Option.bind_some]
  rfl

theorem State.unbindStepwise?_eq {state : State}
    (sameLiterals : state.counters.map Counter.literals = clauses.map Clause.deduplicated)
    (gained : ∀ counter ∈ state.counters, literal ∈ counter.literals → 0 < counter.trueCount) :
    state.unbindStepwise? clauses literal = some (state.unbind literal) := by
  have ungaining := (foldlM_occurrences ungain? literal state.unsatisfied sameLiterals).trans
    (changeFrom?_ungain gained)
  have unlosing := (foldlM_occurrences unlose? literal.negate ()
    ((map_map_of_forall (Counter.literals_ungain literal) _).trans sameLiterals)).trans
    (changeFrom?_unlose literal.negate 0 _)
  rw [map_map_of_forall (Counter.unlose_ungain literal)] at unlosing
  -- Whether a clause has a true literal does not depend on the false ones.
  rw [← countP_isOpenFor_map_unlose _ literal.negate,
    map_map_of_forall (Counter.unlose_ungain literal)] at ungaining
  simp only [unbindStepwise?, ungaining, unlosing, Option.bind_eq_bind, Option.bind_some]
  rfl

namespace Path

variable {formula : Formula} {path : Path} {step : Step}

theorem map_literals_counters (queue : List Nat) (nodes : Nat) (path : Path) :
    (path.state formula queue nodes).counters.map Counter.literals
      = formula.clauses.map Clause.deduplicated :=
  List.map_map

theorem freeCount_gain_pos (free : step.literal.var ∉ path.vars) {clause : Clause}
    (negated : step.literal.negate ∈ clause.deduplicated) :
    0 < ((path.counter clause).gain step.literal).freeCount := by
  have total := freeCount_cons clause free
  rw [if_pos (List.contains_iff_mem.2 negated)] at total
  rw [Counter.gain]
  split
  -- With both literals, two of them were free.
  next both =>
    have inClause : clause.deduplicated.contains step.literal = true := List.contains_iff_mem.2 both
    rw [if_pos inClause] at total
    show 0 < (path.counter clause).freeCount - 1
    omega
  next => omega

/-- Going through the occurrences of a free literal, no count goes below zero. -/
theorem bindStepwise?_state (queue : List Nat) (nodes : Nat) (free : step.literal.var ∉ path.vars) :
    (path.state formula queue nodes).bindStepwise? formula.clauses step.literal step.origin
      = some ((path.state formula queue nodes).bind step.literal step.origin) := by
  refine State.bindStepwise?_eq step.origin (map_literals_counters queue nodes path) ?free ?stillFree ?enough
  case free =>
    intro counter member occurs
    obtain ⟨clause, _, rfl⟩ := List.mem_map.1 member
    have inClause : clause.deduplicated.contains step.literal = true := List.contains_iff_mem.2 occurs
    rw [freeCount_cons clause free, if_pos inClause]
    omega
  case stillFree =>
    intro counter member negated
    obtain ⟨_, gained, rfl⟩ := List.mem_map.1 member
    obtain ⟨clause, _, rfl⟩ := List.mem_map.1 gained
    rw [Counter.literals_gain] at negated
    exact freeCount_gain_pos free negated
  case enough =>
    have unsatisfied : (path.state formula queue nodes).unsatisfied
        = (path.state formula queue nodes).counters.countP Counter.isUnsatisfied := by
      show _ = (formula.clauses.map path.counter).countP _
      rw [List.countP_map]
      rfl
    rw [unsatisfied]
    exact List.countP_mono_left fun counter _ isOpen => (Bool.and_eq_true_iff.1 isOpen).2

/-- Going through the occurrences of the latest literal, no count goes below zero. -/
theorem undoStepwise?_state (queue : List Nat) (nodes : Nat)
    (wellFormed : WellFormed formula.numVariables path) :
    (path.state formula queue nodes).undoStepwise? formula.clauses
      = some (path.state formula queue nodes).undo := by
  cases path with
  | nil => rfl
  | cons step path =>
    have value := valueOf_state queue nodes wellFormed
    refine State.unbindStepwise?_eq (map_literals_counters queue nodes (step :: path)) ?_
    intro counter member occurs
    obtain ⟨clause, _, rfl⟩ := List.mem_map.1 member
    have latest : step.literal ∈ clause.deduplicated := by
      have occurs : ⟨step.literal.var, State.valueOf _ step.literal.var⟩ ∈ clause.deduplicated := occurs
      rwa [value] at occurs
    rw [trueCount_cons clause wellFormed.head_free, if_pos (List.contains_iff_mem.2 latest)]
    exact Nat.succ_pos _

end Path

/-! ## Searches -/

namespace State

/-- What a search does at a time is made of moves. -/
structure SearchesByMoves (state : State) : Prop where
  start : ∀ queued, state.queueUnits? = some queued → Moves state queued
  propagate : Moves state state.propagate.1
  decide : ∀ var, state.firstFree? = some var → Moves state (state.bind ⟨var, false⟩ .branching).1
  backtrack : Moves state state.backtrack.state

/-- Binding a free literal and taking the latest binding back a counter at a time, no count goes below
    zero. -/
structure CountsStepwise (clauses : List Clause) (state : State) : Prop where
  bind : ∀ literal origin, 1 ≤ literal.var → state.isFree literal = true →
    state.bindStepwise? clauses literal origin = some (state.bind literal origin)
  undo : state.undoStepwise? clauses = some state.undo

end State

open Point (Leads Follows)
open State (Moves MovesAbove)

section Reached

variable {numVariables : Nat} {state queued : State}

theorem moves_queueUnits? (found : state.queueUnits? = some queued) : Moves state queued := by
  rw [State.queueUnits?] at found
  split at found
  · cases found
  · cases found
    exact .single (.queue state _)

theorem searchesByMoves (within : ∀ clause ∈ clauses, clause.Within numVariables)
    (reached : Moves (.ofClauses numVariables clauses) state) : state.SearchesByMoves where
  start := fun _ found => moves_queueUnits? found
  propagate := @moves_of_leads _ _ within ⟨.propagating, state⟩ _ reached trivial (leads_propagate state)
  decide := fun _ found => .single (move_decide found)
  backtrack := @moves_of_leads _ _ within ⟨.retreating, state⟩ _ reached trivial (leads_backtrack state)

theorem countsStepwise (reached : Moves (.ofClauses numVariables clauses) state) :
    state.CountsStepwise clauses := by
  obtain ⟨path, queue, nodes, rfl, wellFormed⟩ := exists_path_of_moves reached
  constructor
  case bind =>
    intro literal origin isVariable free
    have inRange := Path.within_of_isFree isVariable free
    have notOnPath := (Path.isFree_iff queue nodes wellFormed inRange).1 free
    exact @Path.bindStepwise?_state ⟨numVariables, clauses⟩ path ⟨literal, origin⟩ queue nodes notOnPath
  case undo => exact @Path.undoStepwise?_state ⟨numVariables, clauses⟩ path queue nodes wellFormed

/-- The states of a search are reached by moves. In every such state trail and counters agree with the
    values, no count goes below zero, and taking a binding back gives what was there before it, whether
    or not it made a clause false. -/
theorem moves_keep_counts (numVariables : Nat) (clauses : List Clause)
    (within : ∀ clause ∈ clauses, clause.Within numVariables) :
    (∀ queued, (State.ofClauses numVariables clauses).queueUnits? = some queued →
      Follows ⟨.propagating, queued⟩ (dpll numVariables clauses)
        ∧ ∀ point, Leads ⟨.propagating, queued⟩ point →
          Moves (.ofClauses numVariables clauses) point.state)
      ∧ ∀ state, Moves (.ofClauses numVariables clauses) state →
        state.Counted numVariables clauses ∧ state.SearchesByMoves ∧ state.CountsStepwise clauses
          ∧ ∀ literal origin, 1 ≤ literal.var → state.isFree literal = true →
            ∀ after, MovesAbove (state.trail.length + 1) (state.bind literal origin).1 after →
              after.trail.length = state.trail.length + 1 → state.Restores after.undo := by
  constructor
  · intro queued started
    have first := moves_queueUnits? started
    refine ⟨follows_dpll within started, fun point leads => ?_⟩
    exact first.trans (@moves_of_leads _ _ within ⟨.propagating, queued⟩ _ first trivial leads)
  · intro state reached
    refine ⟨counted_of_moves within reached, searchesByMoves within reached, countsStepwise reached, ?_⟩
    intro literal origin isVariable free after between sameDepth
    exact restores_of_movesAbove reached isVariable free origin between sameDepth

/-- A clause with both literals of a variable and one with its positive literal twice: the negative value
    makes the second one false, and is taken back. -/
theorem moves_keep_counts_at_conflict :
    let clauses : List Clause := [[⟨1, true⟩, ⟨1, false⟩, ⟨2, true⟩], [⟨1, true⟩, ⟨2, true⟩, ⟨1, true⟩]]
    let state := ((State.ofClauses 2 clauses).bind ⟨2, false⟩ .branching).1
    let after := state.bind ⟨1, false⟩ .forced
    (∀ clause ∈ clauses, clause.Within 2) ∧ Moves (.ofClauses 2 clauses) state
      ∧ state.counters = [⟨[⟨1, true⟩, ⟨1, false⟩, ⟨2, true⟩], 0, 2⟩, ⟨[⟨1, true⟩, ⟨2, true⟩], 0, 1⟩]
      ∧ after.2 = false ∧ state.bindStepwise? clauses ⟨1, false⟩ .forced = some after
      ∧ state.Restores after.1.undo := by
  intro clauses state after
  have within : ∀ clause ∈ clauses, clause.Within 2 := by simp [clauses, Clause.Within]
  have reached : Moves (.ofClauses 2 clauses) state :=
    .single (.bind _ ⟨2, false⟩ .branching (by decide) (by decide))
  obtain ⟨_, _, stepwise, restores⟩ := (moves_keep_counts 2 clauses within).2 state reached
  refine ⟨within, reached, by decide, by decide,
    stepwise.bind ⟨1, false⟩ .forced (by decide) (by decide), ?_⟩
  exact restores ⟨1, false⟩ .forced (by decide) (by decide) after.1 .refl rfl

end Reached

end SatSum.Sat.Dpll
