import SatSum.Checked
import SatSum.Proofs.Activity
import SatSum.Proofs.Models
import SatSum.Sat.Backtracking
import Mathlib.Logic.Function.Basic

/-! # Backtracking by occurrences

Before the search the places of the clauses with each variable are noted, so that after a binding only
these clauses are looked at. Their literals are read off a table with the value of each variable, which
is changed together with the stack. `backtrackingStepwise` does this, and stops where a table has no
entry at an index. On a well-formed formula it does not stop, and goes the steps that `backtracking`
goes.

* `occurrenceLists_eq`: the places noted, each once.
* `Board.bind_ofStack`, `Board.isFalse_ofStack`, `Board.retreat_ofStack`: a table that belongs to the
  stack goes on belonging to it.
* `backtrackingStepwise_eq`: the whole search.
-/

namespace SatSum

/-! ## Tables -/

namespace Checked

variable {α : Type} {size index : Nat}

/-- The entry of a table at an index. -/
def look (table : Vector α size) (index : Nat) : Except Fault α :=
  if _inTable : index < size then .ok table[index] else stop (.index size index)

/-- Changes the entry of a table at an index. -/
def change (table : Vector α size) (index : Nat) (update : α → α) : Except Fault (Vector α size) :=
  if _inTable : index < size then .ok (table.set index (update table[index]))
  else stop (.index size index)

/-- The table of a function. -/
def tableOf (size : Nat) (entry : Nat → α) : Vector α size :=
  Vector.ofFn fun index => entry index

theorem look_tableOf (inTable : index < size) (entry : Nat → α) :
    look (tableOf size entry) index = .ok (entry index) := by
  rw [look, dif_pos inTable, tableOf, Vector.getElem_ofFn]

theorem change_tableOf (inTable : index < size) (entry : Nat → α) (update : α → α) :
    change (tableOf size entry) index update
      = .ok (tableOf size (Function.update entry index (update (entry index)))) := by
  rw [change, dif_pos inTable, Except.ok.injEq]
  apply Vector.ext
  intro other _
  rw [Vector.getElem_set, tableOf, tableOf, Vector.getElem_ofFn, Vector.getElem_ofFn,
    Vector.getElem_ofFn]
  by_cases same : index = other
  · subst same
    rw [if_pos rfl, Function.update_self]
  · rw [if_neg same, Function.update_of_ne (Ne.symm same)]

end Checked

namespace Sat

open Checked (look change tableOf look_tableOf change_tableOf)

/-! ## The search -/

section Stepwise

variable {numVariables : Nat}

/-- Notes a place, unless it is the latest one noted. -/
def notePlace (place : Nat) (places : List Nat) : List Nat :=
  if places.getLast? = some place then places else places ++ [place]

/-- Notes the place of a clause at the variable of each of its literals. -/
def noteClause (lists : Vector (List Nat) numVariables) (entry : Clause × Nat) :
    Except Fault (Vector (List Nat) numVariables) :=
  entry.1.foldlM (fun lists literal => do
    let index ← Checked.sub literal.var 1
    change lists index (notePlace entry.2)) lists

/-- The places of the clauses with each variable. -/
def occurrenceLists (numVariables : Nat) (clauses : List Clause) :
    Except Fault (Vector (List Nat) numVariables) :=
  clauses.zipIdx.foldlM noteClause (.replicate numVariables [])

/-- The value of each variable, and the values chosen, the latest first. -/
structure Board (numVariables : Nat) where
  values : Vector (Option Bool) numVariables
  stack : List Bool

namespace Board

/-- Binds the next variable. -/
def bind (board : Board numVariables) (value : Bool) : Except Fault (Board numVariables) := do
  let values ← change board.values board.stack.length fun _ => some value
  return ⟨values, value :: board.stack⟩

/-- The literal has a value, and it is false. -/
def isFalse (board : Board numVariables) (literal : Literal) : Except Fault Bool := do
  let index ← Checked.sub literal.var 1
  let value ← look board.values index
  return value == some !literal.positive

/-- A clause with the variable at `index` is false. -/
def someFalse (board : Board numVariables) (clauses : List Clause)
    (lists : Vector (List Nat) numVariables) (index : Nat) : Except Fault Bool := do
  let places ← look lists index
  places.anyM fun place => do
    let clause ← Checked.entry clauses place
    clause.allM board.isFalse

/-- Takes back the values of a stack, down to the latest `false`. -/
def retreatFrom (values : Vector (Option Bool) numVariables) :
    List Bool → Except Fault (Option (Board numVariables))
  | [] => .ok none
  | value :: rest => do
    let values ← change values rest.length fun _ => none
    if value then retreatFrom values rest else return some ⟨values, rest⟩

def retreat (board : Board numVariables) : Except Fault (Option (Board numVariables)) :=
  retreatFrom board.values board.stack

theorem stack_of_bind {board bound : Board numVariables} {value : Bool}
    (isBound : board.bind value = .ok bound) :
    board.stack.length < numVariables ∧ bound.stack = value :: board.stack := by
  obtain ⟨values, changed, isBoard⟩ := bind_eq_ok_iff.1 isBound
  cases isBoard
  rw [change] at changed
  split at changed
  next inTable => exact ⟨inTable, rfl⟩
  next => cases changed

theorem below?_of_retreat {board below : Board numVariables}
    (isBelow : board.retreat = .ok (some below)) : below? board.stack = some below.stack := by
  obtain ⟨values, stack⟩ := board
  rw [retreat] at isBelow
  induction stack generalizing values with
  | nil => cases isBelow
  | cons value rest inductionHypothesis =>
    obtain ⟨freed, _, goesOn⟩ := bind_eq_ok_iff.1 isBelow
    cases value with
    | true => exact inductionHypothesis freed goesOn
    | false =>
      cases goesOn
      rfl

end Board

/-- Binds the next variable to `value`, and goes on with the one after it or back. -/
def bindStepwise (clauses : List Clause) (lists : Vector (List Nat) numVariables)
    (board : Board numVariables) (value : Bool) (nodes : Nat) : Activity (Outcome Answer) :=
  match _isBound : board.bind value with
  | .error fault => .fail fault
  | .ok bound =>
    .poll (nodes + 1) fun _ =>
      match bound.someFalse clauses lists board.stack.length with
      | .error fault => .fail fault
      | .ok true =>
        .note (.falsified (board.stack.length + 1) value) fun _ =>
          match _isBelow : bound.retreat with
          | .error fault => .fail fault
          | .ok none => .done ⟨.unsatisfiable, nodes + 1⟩
          | .ok (some below) => bindStepwise clauses lists below true (nodes + 1)
      | .ok false =>
        if _full : bound.stack.length = numVariables then
          .done ⟨.satisfiable bound.stack.reverse, nodes + 1⟩
        else bindStepwise clauses lists bound false (nodes + 1)
termination_by (valuationsLeft numVariables (value :: board.stack), numVariables - board.stack.length)
decreasing_by
  · rw [← (Board.stack_of_bind _isBound).2]
    exact Prod.Lex.left _ _ (valuationsLeft_back (Board.below?_of_retreat _isBelow))
  · obtain ⟨room, stack⟩ := Board.stack_of_bind _isBound
    rw [stack] at _full ⊢
    have notFull : (value :: board.stack).length < numVariables := Nat.lt_of_le_of_ne room _full
    rw [valuationsLeft_deeper notFull]
    apply Prod.Lex.right
    rw [List.length_cons]
    omega

/-- `backtracking`, with its tables. -/
def backtrackingStepwise (numVariables : Nat) (clauses : List Clause) : Activity (Outcome Answer) :=
  if clauses.any List.isEmpty then .done ⟨.unsatisfiable, 0⟩
  else
    match occurrenceLists numVariables clauses with
    | .error fault => .fail fault
    | .ok lists => bindStepwise clauses lists ⟨.replicate numVariables none, []⟩ false 0

end Stepwise

/-! ## Places of clauses -/

variable {numVariables place : Nat} {clause : Clause} {clauses : List Clause} {chosen : List Bool}
  {value : Bool}

/-- The places of the clauses with a variable, the first clause being at `place`. -/
def placesFrom (var place : Nat) (clauses : List Clause) : List Nat :=
  ((clauses.zipIdx place).filter (·.1.any (·.var == var))).map Prod.snd

theorem placesFrom_cons (var place : Nat) (clause : Clause) (clauses : List Clause) :
    placesFrom var place (clause :: clauses)
      = (if clause.any (·.var == var) then [place] else []) ++ placesFrom var (place + 1) clauses := by
  simp only [placesFrom, List.zipIdx_cons, List.filter_cons]
  split <;> rfl

theorem notePlace_notePlace (place : Nat) (places : List Nat) :
    notePlace place (notePlace place places) = notePlace place places := by
  by_cases latest : places.getLast? = some place
  · simp [notePlace, latest]
  · simp [notePlace, latest]

theorem notePlace_of_later {places : List Nat} (earlier : ∀ other ∈ places, other < place) :
    notePlace place places = places ++ [place] := by
  refine if_neg fun latest => ?_
  exact Nat.lt_irrefl place (earlier place (List.mem_of_getLast? latest))

/-- However often a clause has a variable, its place is noted there once. -/
theorem noteClause_eq (within : clause.Within numVariables) (row : Nat → List Nat) :
    noteClause (tableOf numVariables row) (clause, place)
      = .ok (tableOf numVariables fun index =>
          if clause.any (·.var == index + 1) then notePlace place (row index) else row index) := by
  induction clause generalizing row with
  | nil => rfl
  | cons literal rest inductionHypothesis =>
    obtain ⟨⟨isVariable, declared⟩, withinRest⟩ := List.forall_mem_cons.1 within
    have inTable : literal.var - 1 < numVariables := by omega
    have noted := inductionHypothesis withinRest
      (Function.update row (literal.var - 1) (notePlace place (row (literal.var - 1))))
    rw [noteClause] at noted ⊢
    rw [List.foldlM_cons, Checked.sub_eq_ok isVariable, ok_bind, change_tableOf inTable, ok_bind, noted]
    congr 2
    funext index
    by_cases here : index = literal.var - 1
    · subst here
      have sameVar : (literal.var == literal.var - 1 + 1) = true := beq_iff_eq.2 (by omega)
      rw [Function.update_self, notePlace_notePlace, ite_self, List.any_cons, sameVar, Bool.true_or,
        if_pos rfl]
    · have otherVar : (literal.var == index + 1) = false := beq_eq_false_iff_ne.2 (by omega)
      rw [Function.update_of_ne here, List.any_cons, otherVar, Bool.false_or]

theorem foldlM_noteClause (within : ∀ clause ∈ clauses, clause.Within numVariables)
    {row : Nat → List Nat} (earlier : ∀ index, ∀ other ∈ row index, other < place) :
    (clauses.zipIdx place).foldlM noteClause (tableOf numVariables row)
      = .ok (tableOf numVariables fun index => row index ++ placesFrom (index + 1) place clauses) := by
  induction clauses generalizing place row with
  | nil =>
    simp only [placesFrom, List.zipIdx_nil, List.filter_nil, List.map_nil, List.append_nil]
    rfl
  | cons clause rest inductionHypothesis =>
    obtain ⟨withinFirst, withinRest⟩ := List.forall_mem_cons.1 within
    have noted (index : Nat) :
        (if clause.any (·.var == index + 1) then notePlace place (row index) else row index)
          = row index ++ if clause.any (·.var == index + 1) then [place] else [] := by
      rw [notePlace_of_later (earlier index)]
      split
      next => rfl
      next => rw [List.append_nil]
    rw [List.zipIdx_cons, List.foldlM_cons, noteClause_eq withinFirst, ok_bind]
    simp only [noted]
    rw [inductionHypothesis withinRest]
    · simp only [placesFrom_cons, List.append_assoc]
    · intro index other member
      rcases List.mem_append.1 member with before | isPlace
      · exact Nat.lt_succ_of_lt (earlier index other before)
      · split at isPlace
        next => exact List.mem_singleton.1 isPlace ▸ Nat.lt_succ_self place
        next => cases isPlace

/-- For each variable the places of the clauses with it. -/
def placesOf (numVariables : Nat) (clauses : List Clause) : Vector (List Nat) numVariables :=
  tableOf numVariables fun index => placesFrom (index + 1) 0 clauses

/-- For each variable the places of the clauses with it are noted in order, each once. -/
theorem occurrenceLists_eq (within : ∀ clause ∈ clauses, clause.Within numVariables) :
    occurrenceLists numVariables clauses = .ok (placesOf numVariables clauses) := by
  have start : Vector.replicate numVariables [] = tableOf numVariables fun _ => ([] : List Nat) := by
    apply Vector.ext
    intro index _
    rw [Vector.getElem_replicate, tableOf, Vector.getElem_ofFn]
  have noneEarlier : ∀ (index : Nat), ∀ other ∈ ([] : List Nat), other < 0 := by
    intro _ _ absent
    cases absent
  rw [occurrenceLists, start, foldlM_noteClause within noneEarlier]
  rfl

example : occurrenceLists 2 [[⟨1, true⟩, ⟨1, false⟩], [⟨2, true⟩, ⟨1, true⟩]]
    = .ok ⟨#[[0, 1], [1]], rfl⟩ := rfl

/-! ## Boards -/

namespace Board

/-- The board of a stack. -/
def ofStack (numVariables : Nat) (chosen : List Bool) : Board numVariables :=
  ⟨tableOf numVariables fun index => chosen.reverse[index]?, chosen⟩

theorem ofStack_nil (numVariables : Nat) :
    ofStack numVariables [] = ⟨.replicate numVariables none, []⟩ := by
  rw [ofStack, mk.injEq]
  refine ⟨Vector.ext fun index _ => ?_, rfl⟩
  rw [tableOf, Vector.getElem_ofFn, Vector.getElem_replicate, List.reverse_nil, List.getElem?_nil]

theorem getElem?_reverse_cons (value : Bool) (chosen : List Bool) :
    (fun index => (value :: chosen).reverse[index]?)
      = Function.update (fun index => chosen.reverse[index]?) chosen.length (some value) := by
  funext index
  by_cases latest : index = chosen.length
  · subst latest
    rw [Function.update_self, List.reverse_cons, List.getElem?_append_right (by simp)]
    simp
  · rw [Function.update_of_ne latest]
    by_cases earlier : index < chosen.length
    · rw [List.reverse_cons, List.getElem?_append_left (by simpa using earlier)]
    · rw [List.getElem?_eq_none (by simp; omega), List.getElem?_eq_none (by simp; omega)]

theorem bind_ofStack (room : chosen.length < numVariables) (value : Bool) :
    (ofStack numVariables chosen).bind value = .ok (ofStack numVariables (value :: chosen)) := by
  rw [bind, ofStack, change_tableOf room, ok_bind, ofStack, getElem?_reverse_cons]
  rfl

theorem isFalse_ofStack {literal : Literal} (isVariable : 1 ≤ literal.var)
    (declared : literal.var ≤ numVariables) (chosen : List Bool) :
    (ofStack numVariables chosen).isFalse literal = .ok (literal.negate.holds chosen.reverse) := by
  obtain ⟨var, sign⟩ := literal
  obtain ⟨index, rfl⟩ := Nat.exists_eq_add_of_le' isVariable
  rw [isFalse, Checked.sub_eq_ok isVariable, ok_bind, Nat.add_sub_cancel, ofStack, look_tableOf declared,
    ok_bind]
  rfl

theorem allM_isFalse (within : clause.Within numVariables) (chosen : List Bool) :
    clause.allM (ofStack numVariables chosen).isFalse = .ok (clause.falsified chosen.reverse) := by
  induction clause with
  | nil => rfl
  | cons literal rest inductionHypothesis =>
    obtain ⟨⟨isVariable, declared⟩, withinRest⟩ := List.forall_mem_cons.1 within
    have apart : Clause.falsified chosen.reverse (literal :: rest)
        = (literal.negate.holds chosen.reverse && Clause.falsified chosen.reverse rest) := rfl
    rw [List.allM, isFalse_ofStack isVariable declared, ok_bind, inductionHypothesis withinRest, apart]
    cases literal.negate.holds chosen.reverse <;> rfl

/-- Looking at the clauses with a variable is looking at all that have it. -/
theorem anyM_placesFrom {var : Nat} {test : Nat → Except Fault Bool} {holds : Clause → Bool}
    (tests : ∀ position clause, clauses[position]? = some clause →
      test (place + position) = .ok (holds clause)) :
    (placesFrom var place clauses).anyM test
      = .ok (clauses.any fun clause => clause.any (·.var == var) && holds clause) := by
  induction clauses generalizing place with
  | nil => rfl
  | cons clause rest inductionHypothesis =>
    have later := @inductionHypothesis (place + 1) fun position clause atPosition => by
      rw [Nat.add_assoc, Nat.add_comm 1]
      exact tests (position + 1) clause atPosition
    rw [placesFrom_cons, List.any_cons]
    split
    next occurs =>
      have here : test place = .ok (holds clause) := tests 0 clause rfl
      rw [occurs, List.singleton_append, List.anyM, here, ok_bind, later]
      cases holds clause <;> rfl
    next absent =>
      rw [Bool.eq_false_iff.2 absent, List.nil_append, later, Bool.false_and, Bool.false_or]

theorem someFalse_ofStack (within : ∀ clause ∈ clauses, clause.Within numVariables)
    (room : chosen.length < numVariables) (value : Bool) :
    (ofStack numVariables (value :: chosen)).someFalse clauses (placesOf numVariables clauses)
        chosen.length
      = .ok (falsifiesClause clauses chosen value) := by
  rw [someFalse, placesOf, look_tableOf room, ok_bind, falsifiesClause]
  apply anyM_placesFrom
  intro position clause atPosition
  rw [Nat.zero_add, Checked.entry_eq_ok atPosition, ok_bind]
  exact allM_isFalse (within clause (List.mem_of_getElem? atPosition)) (value :: chosen)

theorem retreat_ofStack {stack : List Bool} (fits : stack.length ≤ numVariables) :
    (ofStack numVariables stack).retreat = .ok ((below? stack).map (ofStack numVariables)) := by
  induction stack with
  | nil => rfl
  | cons value rest inductionHypothesis =>
    have freed : Function.update (fun index => (value :: rest).reverse[index]?) rest.length none
        = fun index => rest.reverse[index]? := by
      have unbound : rest.reverse[rest.length]? = none := List.getElem?_eq_none (by simp)
      rw [getElem?_reverse_cons, Function.update_idem, ← unbound, Function.update_eq_self]
    rw [retreat, ofStack, retreatFrom, change_tableOf fits, ok_bind, freed]
    cases value with
    | true => exact inductionHypothesis (Nat.le_of_succ_le fits)
    | false => rfl

end Board

/-! ## The same search -/

/-- What a binding does, with the places of all clauses noted. -/
theorem bindStepwise_ofStack (within : ∀ clause ∈ clauses, clause.Within numVariables)
    (room : chosen.length < numVariables) (value : Bool) (nodes : Nat) :
    bindStepwise clauses (placesOf numVariables clauses) (.ofStack numVariables chosen) value nodes
      = .poll (nodes + 1) fun _ =>
        if falsifiesClause clauses chosen value then
          .note (.falsified (chosen.length + 1) value) fun _ =>
            match below? (value :: chosen) with
            | none => .done ⟨.unsatisfiable, nodes + 1⟩
            | some below =>
              bindStepwise clauses (placesOf numVariables clauses) (.ofStack numVariables below) true
                (nodes + 1)
        else if numVariables ≤ chosen.length + 1 then
          .done ⟨.satisfiable (value :: chosen).reverse, nodes + 1⟩
        else
          bindStepwise clauses (placesOf numVariables clauses) (.ofStack numVariables (value :: chosen))
            false (nodes + 1) := by
  rw [bindStepwise]
  split
  next fault failed =>
    rw [Board.bind_ofStack room] at failed
    cases failed
  next bound isBound =>
    rw [Board.bind_ofStack room] at isBound
    cases isBound
    have tested : Board.someFalse _ clauses _ (Board.ofStack numVariables chosen).stack.length = _ :=
      Board.someFalse_ofStack within room value
    have retreated : (Board.ofStack numVariables (value :: chosen)).retreat = _ :=
      Board.retreat_ofStack room
    congr 1
    funext _
    rw [tested]
    cases falsifiesClause clauses chosen value with
    | true =>
      rw [if_pos rfl]
      dsimp only
      congr 1
      funext _
      split
      next fault failed =>
        rw [retreated] at failed
        cases failed
      next isBottom =>
        rw [retreated] at isBottom
        rw [Option.map_eq_none_iff.1 (Except.ok.inj isBottom)]
      next board isBelow =>
        rw [retreated] at isBelow
        obtain ⟨below, found, isBoard⟩ := Option.map_eq_some_iff.1 (Except.ok.inj isBelow)
        rw [found, ← isBoard]
    | false =>
      rw [if_neg Bool.false_ne_true]
      dsimp only
      -- There are no more values than variables, so the test for equality is one for "at least".
      split
      next full =>
        have atLeast : numVariables ≤ chosen.length + 1 := Nat.le_of_eq full.symm
        rw [if_pos atLeast]
        rfl
      next notFull =>
        have fewer : ¬ numVariables ≤ chosen.length + 1 := fun atLeast =>
          notFull (Nat.le_antisymm room atLeast)
        rw [if_neg fewer]

theorem length_lt_of_below? {stack below : List Bool} (isBelow : below? stack = some below) :
    below.length < stack.length := by
  obtain ⟨count, rfl⟩ := below?_eq_some isBelow
  rw [List.length_append, List.length_cons]
  omega

/-- The stack is never full before a binding, so the tables have every entry that is looked at. -/
theorem bindStepwise_eq (within : ∀ clause ∈ clauses, clause.Within numVariables)
    (chosen : List Bool) (value : Bool) (nodes : Nat) (room : chosen.length < numVariables) :
    bindStepwise clauses (placesOf numVariables clauses) (.ofStack numVariables chosen) value nodes
      = bindFrom clauses numVariables chosen value nodes := by
  fun_induction bindFrom clauses numVariables chosen value nodes with
  | case1 chosen value nodes goesBack goesOn =>
    rw [bindStepwise_ofStack within room]
    congr 1
    funext _
    split
    next =>
      congr 1
      funext _
      split
      next isBottom => rw [isBottom]
      next below isBelow =>
        rw [isBelow]
        exact goesBack below isBelow ((length_lt_of_below? isBelow).trans_le room)
    next =>
      split
      next => rfl
      next notFull => exact goesOn notFull (Nat.not_le.1 notFull)

/-- On a well-formed formula no table is read or changed past its end, and the search is the same. -/
theorem backtrackingStepwise_eq {formula : Formula} (wellFormed : formula.WellFormed) :
    backtrackingStepwise formula.numVariables formula.clauses
      = backtracking formula.numVariables formula.clauses := by
  rw [backtrackingStepwise, backtracking, occurrenceLists_eq wellFormed.within, ← Board.ofStack_nil]
  split
  next => rfl
  next => exact bindStepwise_eq wellFormed.within [] false 0 wellFormed.hasVariable

end Sat

end SatSum
