import SatSum.Proofs.Activity
import SatSum.Proofs.ThreeFormula
import SatSum.Reduction.ThreeLiterals

/-! # Models of three-literal clauses

A clause holds if the clauses made from it do, whatever their auxiliary variables are called: a padding
variable fails in one of its signs, and in a chain a link that holds hands the duty on. Conversely, if
the auxiliary variables are new, a valuation that satisfies the clause can be extended by their values:
links hold up to the first literal that does, and fail after it.

The clauses made are over three different variables, so none of them is refused: a formula that is
accepted is reduced exactly if its auxiliary variables are words, and the program stops if they are not.

* `satisfied_of_toThree`, `exists_extension_toThree`: the two directions for a clause.
* `toThree_proper`: the clauses made are over three different variables.
* `Formula.reduceToThree_eq`: the reduction is the blocks for the clauses, or a stop.
* `reduceToThree_models`: the models of a formula are the restored models of the reduction.
-/

namespace SatSum

namespace Clause

variable {valuation : Valuation} {top link bound : Nat} {c d : Literal} {rest clause : Clause}
  {clauses : List Clause}

def AllSatisfied (valuation : Valuation) (threes : List ThreeClause) : Prop :=
  ∀ three ∈ threes, three.toClause.satisfied valuation = true

theorem allSatisfied_cons {three : ThreeClause} {threes : List ThreeClause} :
    AllSatisfied valuation (three :: threes)
      ↔ three.toClause.satisfied valuation = true ∧ AllSatisfied valuation threes :=
  List.forall_mem_cons

theorem allSatisfied_append {first second : List ThreeClause} :
    AllSatisfied valuation (first ++ second)
      ↔ AllSatisfied valuation first ∧ AllSatisfied valuation second :=
  List.forall_mem_append

theorem satisfied_toClause_iff {three : ThreeClause} :
    three.toClause.satisfied valuation = true
      ↔ three.first.holds valuation = true ∨ three.second.holds valuation = true
        ∨ three.third.holds valuation = true := by
  simp [satisfied_iff, ThreeClause.toClause]

/-! ## Back from the clauses made -/

/-- Whatever holds together with either sign of a variable holds without it. -/
theorem of_forall_bothSigns (valuation : Valuation) (var : Nat) {claim : Prop}
    (either : ∀ literal ∈ bothSigns var, claim ∨ literal.holds valuation = true) : claim := by
  cases holds : (⟨var, true⟩ : Literal).holds valuation with
  | false =>
    have := either ⟨var, true⟩ (by simp [bothSigns])
    rwa [holds, or_iff_left Bool.false_ne_true] at this
  | true =>
    have fails : (⟨var, false⟩ : Literal).holds valuation = false := Literal.not_holds_negate holds
    have := either ⟨var, false⟩ (by simp [bothSigns])
    rwa [fails, or_iff_left Bool.false_ne_true] at this

/-- A link that holds hands the duty on to the rest of the chain. -/
theorem satisfied_of_chainFrom (handed : (⟨link, true⟩ : Literal).holds valuation = true)
    (all : AllSatisfied valuation (chainFrom link c d rest)) :
    satisfied valuation (c :: d :: rest) = true := by
  have linkFails : (⟨link, false⟩ : Literal).holds valuation = false :=
    Literal.not_holds_negate handed
  induction rest generalizing link c d with
  | nil =>
    have last := satisfied_toClause_iff.1 (all _ List.mem_cons_self)
    simp only [linkFails, Bool.false_eq_true, false_or] at last
    simpa [satisfied] using last
  | cons e rest inductionHypothesis =>
    obtain ⟨first, later⟩ := allSatisfied_cons.1 all
    rw [satisfied_toClause_iff] at first
    simp only [linkFails, Bool.false_eq_true, false_or] at first
    -- Without its first literal, the clause of the link holds by `c` or hands on to the next link.
    rcases first with here | next
    · simp [satisfied, here]
    · have satisfiedLater := inductionHypothesis next later (Literal.not_holds_negate next)
      rw [satisfied, List.any_cons, Bool.or_eq_true]
      exact Or.inr satisfiedLater

theorem satisfied_of_toThree (all : AllSatisfied valuation (toThree top clause)) :
    clause.satisfied valuation = true := by
  match clause with
  | [] =>
    have impossible : False := by
      refine of_forall_bothSigns valuation (top + 1) fun y inY => ?_
      refine of_forall_bothSigns valuation (top + 2) fun z inZ => ?_
      refine of_forall_bothSigns valuation (top + 3) fun w inW => ?_
      have made : (⟨y, z, w⟩ : ThreeClause) ∈ toThree top [] :=
        List.mem_flatMap.2 ⟨y, inY, List.mem_flatMap.2 ⟨z, inZ, List.mem_map_of_mem inW⟩⟩
      rw [false_or, or_assoc]
      exact satisfied_toClause_iff.1 (all _ made)
    exact impossible.elim
  | [a] =>
    have holds : a.holds valuation = true := by
      refine of_forall_bothSigns valuation (top + 1) fun y inY => ?_
      refine of_forall_bothSigns valuation (top + 2) fun z inZ => ?_
      have made : (⟨a, y, z⟩ : ThreeClause) ∈ toThree top [a] :=
        List.mem_flatMap.2 ⟨y, inY, List.mem_map_of_mem inZ⟩
      rw [or_assoc]
      exact satisfied_toClause_iff.1 (all _ made)
    simpa [satisfied] using holds
  | [a, b] =>
    have either : a.holds valuation = true ∨ b.holds valuation = true := by
      refine of_forall_bothSigns valuation (top + 1) fun y inY => ?_
      have made : (⟨a, b, y⟩ : ThreeClause) ∈ toThree top [a, b] := List.mem_map_of_mem inY
      rw [or_assoc]
      exact satisfied_toClause_iff.1 (all _ made)
    simpa [satisfied] using either
  | [a, b, c] => exact all _ List.mem_cons_self
  | a :: b :: c :: d :: rest =>
    obtain ⟨first, later⟩ := allSatisfied_cons.1 all
    rw [satisfied_iff]
    rcases satisfied_toClause_iff.1 first with here | here | handed
    · exact ⟨a, List.mem_cons_self, here⟩
    · exact ⟨b, List.mem_cons_of_mem _ List.mem_cons_self, here⟩
    · obtain ⟨literal, member, holds⟩ := satisfied_iff.1 (satisfied_of_chainFrom handed later)
      exact ⟨literal, List.mem_cons_of_mem _ (List.mem_cons_of_mem _ member), holds⟩

/-! ## The shape of the clauses made -/

theorem mem_bothSigns_iff {var : Nat} {literal : Literal} : literal ∈ bothSigns var ↔ literal.var = var := by
  obtain ⟨number, sign⟩ := literal
  cases sign <;> simp [bothSigns]

/-- Links are newer than the literals, so every clause of a chain is over three different variables. -/
theorem chainFrom_proper (earlier : ∀ literal ∈ c :: d :: rest, 1 ≤ literal.var ∧ literal.var < link)
    (distinct : DistinctVars (c :: d :: rest)) :
    ∀ three ∈ chainFrom link c d rest, three.Proper (link + rest.length) := by
  induction rest generalizing link c d with
  | nil =>
    intro three member
    obtain rfl := List.mem_singleton.1 member
    have cEarlier := earlier c List.mem_cons_self
    have dEarlier := earlier d (List.mem_cons_of_mem _ List.mem_cons_self)
    have different : c.var ≠ d.var := (List.pairwise_cons.1 distinct).1 d List.mem_cons_self
    have newer : link ≠ c.var ∧ link ≠ d.var := by omega
    apply ThreeClause.proper_of_ne
    · show 1 ≤ link ∧ link ≤ link
      omega
    · exact ⟨cEarlier.1, by omega⟩
    · exact ⟨dEarlier.1, by omega⟩
    · exact ⟨newer.1, newer.2, different⟩
  | cons e rest inductionHypothesis =>
    obtain ⟨cEarlier, laterEarlier⟩ := List.forall_mem_cons.1 earlier
    have sameEnd : link + (rest.length + 1) = link + 1 + rest.length := by omega
    rw [List.length_cons, chainFrom, List.forall_mem_cons, sameEnd]
    constructor
    · have linkPositive : 1 ≤ link := cEarlier.1.trans (Nat.le_of_lt cEarlier.2)
      exact ThreeClause.proper_of_next ⟨linkPositive, Nat.le_refl link⟩
        ⟨cEarlier.1, Nat.le_of_lt cEarlier.2⟩ (Nat.ne_of_gt cEarlier.2) rfl (Nat.le_add_right _ _)
    · apply inductionHypothesis _ (List.pairwise_cons.1 distinct).2
      intro literal member
      have := laterEarlier literal member
      omega

/-- The clauses made are over three different variables, none of them beyond the auxiliary ones. -/
theorem toThree_proper (within : clause.Within top) (distinct : clause.DistinctVars) :
    ∀ three ∈ toThree top clause, three.Proper (top + clause.auxiliaries) := by
  match clause with
  | [] =>
    intro three member
    obtain ⟨y, inY, member⟩ := List.mem_flatMap.1 member
    obtain ⟨z, inZ, member⟩ := List.mem_flatMap.1 member
    obtain ⟨w, inW, rfl⟩ := List.mem_map.1 member
    have yVar : y.var = top + 1 := mem_bothSigns_iff.1 inY
    have zVar : z.var = top + 2 := mem_bothSigns_iff.1 inZ
    have wVar : w.var = top + 3 := mem_bothSigns_iff.1 inW
    show ThreeClause.Proper (top + 3) _
    apply ThreeClause.proper_of_ne <;> omega
  | [a] =>
    have aWithin := within a List.mem_cons_self
    intro three member
    obtain ⟨y, inY, member⟩ := List.mem_flatMap.1 member
    obtain ⟨z, inZ, rfl⟩ := List.mem_map.1 member
    have yVar : y.var = top + 1 := mem_bothSigns_iff.1 inY
    have zVar : z.var = top + 2 := mem_bothSigns_iff.1 inZ
    show ThreeClause.Proper (top + 2) _
    apply ThreeClause.proper_of_ne <;> omega
  | [a, b] =>
    have aWithin := within a List.mem_cons_self
    have bWithin := within b (List.mem_cons_of_mem _ List.mem_cons_self)
    have different : a.var ≠ b.var := (List.pairwise_cons.1 distinct).1 b List.mem_cons_self
    intro three member
    obtain ⟨y, inY, rfl⟩ := List.mem_map.1 member
    have yVar : y.var = top + 1 := mem_bothSigns_iff.1 inY
    exact ThreeClause.proper_of_next aWithin bWithin different yVar (Nat.le_refl _)
  | [a, b, c] =>
    intro three member
    obtain rfl := List.mem_singleton.1 member
    exact ⟨within, distinct⟩
  | a :: b :: c :: d :: rest =>
    have needs : auxiliaries (a :: b :: c :: d :: rest) = rest.length + 1 := rfl
    obtain ⟨aDifferent, laterDistinct⟩ := List.pairwise_cons.1 distinct
    have sameEnd : top + (rest.length + 1) = top + 1 + rest.length := by omega
    have aWithin := within a List.mem_cons_self
    have bWithin := within b (List.mem_cons_of_mem _ List.mem_cons_self)
    have different : a.var ≠ b.var := aDifferent b List.mem_cons_self
    rw [needs, toThree, List.forall_mem_cons, sameEnd]
    constructor
    · exact ThreeClause.proper_of_next aWithin bWithin different rfl (Nat.le_add_right _ _)
    · apply chainFrom_proper _ (List.pairwise_cons.1 laterDistinct).2
      intro literal member
      have := within literal (List.mem_cons_of_mem _ (List.mem_cons_of_mem _ member))
      omega

/-! ## On to the clauses made -/

theorem holds_next (valuation : Valuation) (bit : Bool) (more : Valuation) :
    (⟨valuation.length + 1, bit⟩ : Literal).holds (valuation ++ bit :: more) = true := by
  rw [Literal.holds_iff (Nat.le_add_left 1 _)]
  simp

/-- A link gets the value that says whether the duty is still open: with it the clause before the link
    is satisfied, and the rest of the chain may use that the link fails or go on without it. -/
theorem exists_link {a b : Literal} (aCovered : a.var ≤ valuation.length)
    (bCovered : b.var ≤ valuation.length) (later : clause.Within valuation.length)
    (either : a.holds valuation = true ∨ b.holds valuation = true
      ∨ clause.satisfied valuation = true) :
    ∃ bit : Bool,
      (∀ more, satisfied (valuation ++ bit :: more)
        (ThreeClause.toClause ⟨a, b, ⟨valuation.length + 1, true⟩⟩) = true)
      ∧ ((⟨valuation.length + 1, false⟩ : Literal).holds (valuation ++ [bit]) = true
        ∨ clause.satisfied (valuation ++ [bit]) = true) := by
  simp only [satisfied_toClause_iff, Literal.holds_append aCovered, Literal.holds_append bCovered,
    satisfied_append later]
  -- The link holds exactly if the duty is still open.
  by_cases settled : a.holds valuation = true ∨ b.holds valuation = true
  · exact ⟨false, fun more => or_assoc.1 (Or.inl settled), Or.inl (holds_next valuation false [])⟩
  · have handed := (or_assoc.2 either).resolve_left settled
    exact ⟨true, fun more => Or.inr (Or.inr (holds_next valuation true more)), Or.inr handed⟩

/-- A chain can be satisfied if its first link fails or a literal holds. -/
theorem exists_extension_chainFrom (covers : valuation.length = link)
    (within : Within valuation.length (c :: d :: rest))
    (either : (⟨link, false⟩ : Literal).holds valuation = true
      ∨ satisfied valuation (c :: d :: rest) = true) :
    ∃ more : Valuation, more.length = rest.length
      ∧ AllSatisfied (valuation ++ more) (chainFrom link c d rest) := by
  induction rest generalizing valuation link c d with
  | nil =>
    refine ⟨[], rfl, ?_⟩
    intro three member
    obtain rfl := List.mem_singleton.1 member
    rw [List.append_nil, satisfied_toClause_iff]
    simpa [satisfied] using either
  | cons e rest inductionHypothesis =>
    obtain ⟨cWithin, laterWithin⟩ := List.forall_mem_cons.1 within
    rw [satisfied, List.any_cons, Bool.or_eq_true] at either
    have linkCovered : (⟨link, false⟩ : Literal).var ≤ valuation.length := Nat.le_of_eq covers.symm
    obtain ⟨bit, first, later⟩ := exists_link linkCovered cWithin.2 laterWithin either
    rw [covers] at first later
    have extendedLength : (valuation ++ [bit]).length = link + 1 := by
      rw [List.length_append, covers, List.length_singleton]
    have extendedWithin : Within (valuation ++ [bit]).length (d :: e :: rest) :=
      Within.mono laterWithin (by omega)
    obtain ⟨more, moreLength, all⟩ :=
      inductionHypothesis extendedLength extendedWithin later
    refine ⟨bit :: more, congrArg Nat.succ moreLength, ?_⟩
    rw [chainFrom, allSatisfied_cons, List.append_cons]
    exact ⟨List.append_cons valuation bit more ▸ first more, all⟩

/-- The clauses made from a satisfied one can be satisfied by values for the auxiliary variables. -/
theorem exists_extension_toThree (within : clause.Within valuation.length)
    (satisfies : clause.satisfied valuation = true) :
    ∃ more : Valuation, more.length = clause.auxiliaries
      ∧ AllSatisfied (valuation ++ more) (toThree valuation.length clause) := by
  match clause with
  | [] => cases satisfies
  | [a] =>
    refine ⟨[false, false], rfl, ?_⟩
    intro three member
    obtain ⟨y, _, member⟩ := List.mem_flatMap.1 member
    obtain ⟨z, _, rfl⟩ := List.mem_map.1 member
    rw [satisfied_toClause_iff, Literal.holds_append (within a List.mem_cons_self).2]
    exact Or.inl (by simpa [satisfied] using satisfies)
  | [a, b] =>
    obtain ⟨aWithin, bWithin⟩ := List.forall_mem_cons.1 within
    have either : a.holds valuation = true ∨ b.holds valuation = true := by
      simpa [satisfied] using satisfies
    refine ⟨[false], rfl, ?_⟩
    intro three member
    obtain ⟨y, _, rfl⟩ := List.mem_map.1 member
    rw [satisfied_toClause_iff, Literal.holds_append aWithin.2,
      Literal.holds_append (bWithin b List.mem_cons_self).2]
    exact or_assoc.1 (Or.inl either)
  | [a, b, c] =>
    refine ⟨[], rfl, ?_⟩
    intro three member
    obtain rfl := List.mem_singleton.1 member
    rw [List.append_nil]
    exact satisfies
  | a :: b :: c :: d :: rest =>
    obtain ⟨aWithin, laterWithin⟩ := List.forall_mem_cons.1 within
    obtain ⟨bWithin, chainWithin⟩ := List.forall_mem_cons.1 laterWithin
    have either : a.holds valuation = true ∨ b.holds valuation = true
        ∨ satisfied valuation (c :: d :: rest) = true := by
      simpa [satisfied] using satisfies
    obtain ⟨bit, first, later⟩ := exists_link aWithin.2 bWithin.2 chainWithin either
    have extendedLength : (valuation ++ [bit]).length = valuation.length + 1 := List.length_append
    have extendedWithin : Within (valuation ++ [bit]).length (c :: d :: rest) :=
      Within.mono chainWithin (by omega)
    obtain ⟨more, moreLength, all⟩ :=
      exists_extension_chainFrom extendedLength extendedWithin later
    refine ⟨bit :: more, congrArg Nat.succ moreLength, ?_⟩
    rw [toThree, allSatisfied_cons, List.append_cons]
    exact ⟨List.append_cons valuation bit more ▸ first more, all⟩

/-! ## All clauses of a formula -/

/-- How many auxiliary variables clauses need. -/
def auxiliaryCount (clauses : List Clause) : Nat :=
  (clauses.map auxiliaries).sum

theorem auxiliaryCount_cons (clause : Clause) (clauses : List Clause) :
    auxiliaryCount (clause :: clauses) = clause.auxiliaries + auxiliaryCount clauses := by
  simp [auxiliaryCount]

/-- The blocks of three-literal clauses for clauses in order, with auxiliary variables from `top + 1`
    on. -/
def blocksFrom (top : Nat) : List Clause → List (List ThreeClause)
  | [] => []
  | clause :: rest => toThree top clause :: blocksFrom (top + clause.auxiliaries) rest

/-- The clauses made from all clauses are over three different variables. -/
theorem blocksFrom_proper (within : ∀ clause ∈ clauses, clause.Within top)
    (distinct : ∀ clause ∈ clauses, clause.DistinctVars) :
    ∀ three ∈ (blocksFrom top clauses).flatten, three.Proper (top + auxiliaryCount clauses) := by
  induction clauses generalizing top with
  | nil => exact fun three member => nomatch member
  | cons clause clauses inductionHypothesis =>
    obtain ⟨withinFirst, withinRest⟩ := List.forall_mem_cons.1 within
    obtain ⟨distinctFirst, distinctRest⟩ := List.forall_mem_cons.1 distinct
    rw [blocksFrom, List.flatten_cons, auxiliaryCount_cons, ← Nat.add_assoc]
    intro three member
    rcases List.mem_append.1 member with first | later
    · exact (toThree_proper withinFirst distinctFirst three first).mono (Nat.le_add_right _ _)
    · have withinMore : ∀ other ∈ clauses, Within (top + clause.auxiliaries) other :=
        fun other inRest => (withinRest other inRest).mono (Nat.le_add_right _ _)
      exact inductionHypothesis withinMore distinctRest three later

theorem satisfied_of_blocksFrom (all : AllSatisfied valuation (blocksFrom top clauses).flatten) :
    clauses.all (satisfied valuation) = true := by
  induction clauses generalizing top with
  | nil => rfl
  | cons clause clauses inductionHypothesis =>
    rw [blocksFrom, List.flatten_cons] at all
    obtain ⟨first, later⟩ := allSatisfied_append.1 all
    rw [List.all_cons, Bool.and_eq_true]
    exact ⟨satisfied_of_toThree first, inductionHypothesis later⟩

/-- What satisfies all clauses extends to what satisfies all clauses made from them. -/
theorem exists_extension_blocksFrom (within : ∀ clause ∈ clauses, clause.Within valuation.length)
    (distinct : ∀ clause ∈ clauses, clause.DistinctVars)
    (satisfies : clauses.all (satisfied valuation) = true) :
    ∃ more : Valuation, more.length = auxiliaryCount clauses
      ∧ AllSatisfied (valuation ++ more) (blocksFrom valuation.length clauses).flatten := by
  induction clauses generalizing valuation with
  | nil => exact ⟨[], rfl, fun three member => nomatch member⟩
  | cons clause clauses inductionHypothesis =>
    obtain ⟨withinFirst, withinRest⟩ := List.forall_mem_cons.1 within
    obtain ⟨distinctFirst, distinctRest⟩ := List.forall_mem_cons.1 distinct
    rw [List.all_cons, Bool.and_eq_true] at satisfies
    rw [blocksFrom, List.flatten_cons, auxiliaryCount_cons]
    obtain ⟨first, firstLength, allFirst⟩ := exists_extension_toThree withinFirst satisfies.1
    -- The auxiliary variables of the first clause are covered now; the next ones come after them.
    have extendedLength : (valuation ++ first).length = valuation.length + clause.auxiliaries := by
      rw [List.length_append, firstLength]
    have withinExtended : ∀ clause ∈ clauses, clause.Within (valuation ++ first).length :=
      fun clause member => (withinRest clause member).mono (by rw [List.length_append]; omega)
    have satisfiesExtended : clauses.all (satisfied (valuation ++ first)) = true := by
      rw [all_satisfied_append withinRest]
      exact satisfies.2
    obtain ⟨more, moreLength, allRest⟩ :=
      inductionHypothesis withinExtended distinctRest satisfiesExtended
    rw [extendedLength] at allRest
    refine ⟨first ++ more, by rw [List.length_append, firstLength, moreLength], ?_⟩
    rw [← List.append_assoc]
    refine allSatisfied_append.2 ⟨?_, allRest⟩
    intro three member
    -- No clause made from the first one reaches the values added for the others.
    have proper := toThree_proper withinFirst distinctFirst three member
    rw [satisfied_append (extendedLength ▸ proper.within)]
    exact allFirst three member

/-! ## Handing out auxiliary variables -/

/-- A number one after the other is handed out, unless one of them is no word. -/
theorem handOut_eq {count : Nat} (isWord : top ≤ maxWord) :
    handOut top count = if top + count ≤ maxWord then .ok (top + count) else Checked.stop .sum := by
  induction count generalizing top with
  | zero => rw [handOut, Nat.add_zero, if_pos isWord]
  | succ count inductionHypothesis =>
    have sameEnd : top + 1 + count = top + (count + 1) := by omega
    by_cases next : top + 1 ≤ maxWord
    · rw [handOut, Checked.add, if_pos next, ok_bind, inductionHypothesis next, sameEnd]
    · rw [handOut, Checked.add, if_neg next, if_neg (by omega)]
      rfl

theorem mapM_checked {threes : List ThreeClause} (distinct : ∀ three ∈ threes, three.DistinctVars) :
    threes.mapM ThreeClause.checked = .ok threes := by
  induction threes with
  | nil => rfl
  | cons three threes inductionHypothesis =>
    obtain ⟨distinctFirst, distinctRest⟩ := List.forall_mem_cons.1 distinct
    have checkedFirst : three.checked = .ok three :=
      ThreeClause.ofLiterals_eq_ok_iff.2 ⟨rfl, distinctFirst⟩
    rw [List.mapM_cons, checkedFirst, inductionHypothesis distinctRest]
    rfl

/-- No clause is refused: either every auxiliary variable is a word, or the program stops. -/
theorem allToThree_eq (isWord : top ≤ maxWord) (within : ∀ clause ∈ clauses, clause.Within top)
    (distinct : ∀ clause ∈ clauses, clause.DistinctVars) :
    allToThree top clauses
      = if top + auxiliaryCount clauses ≤ maxWord then
          .ok ((blocksFrom top clauses).flatten, top + auxiliaryCount clauses)
        else Checked.stop .sum := by
  induction clauses generalizing top with
  | nil => exact (if_pos isWord).symm
  | cons clause clauses inductionHypothesis =>
    obtain ⟨withinFirst, withinRest⟩ := List.forall_mem_cons.1 within
    obtain ⟨distinctFirst, distinctRest⟩ := List.forall_mem_cons.1 distinct
    rw [allToThree, handOut_eq isWord, auxiliaryCount_cons, ← Nat.add_assoc]
    by_cases fits : top + clause.auxiliaries ≤ maxWord
    · have checked := mapM_checked fun three member =>
        (toThree_proper withinFirst distinctFirst three member).distinct
      have later := inductionHypothesis fits
        (fun other inRest => (withinRest other inRest).mono (Nat.le_add_right _ _)) distinctRest
      rw [if_pos fits, ok_bind, checked, ok_bind, later]
      split <;> rfl
    · rw [if_neg fits, if_neg (by omega)]
      rfl

end Clause

theorem ThreeFormula.satisfied_toFormula_iff {three : ThreeFormula} {valuation : Valuation} :
    three.toFormula.satisfied valuation = true ↔ Clause.AllSatisfied valuation three.clauses := by
  simp [Formula.satisfied, toFormula, Clause.AllSatisfied]

/-! ## The reduction -/

/-- How many auxiliary variables the reduction of a formula needs. -/
def Formula.auxiliaryCount (formula : Formula) : Nat :=
  Clause.auxiliaryCount (Clause.normalize formula.clauses)

/-- The reduction of a formula is what its clauses are made into; the program stops exactly if the
    auxiliary variables are too many for their numbers to be words. -/
theorem Formula.reduceToThree_eq {formula : Formula} (wellFormed : formula.WellFormed)
    (isWord : formula.numVariables ≤ maxWord) :
    formula.reduceToThree
      = if formula.numVariables + formula.auxiliaryCount ≤ maxWord then
          .ok ⟨⟨formula.numVariables + formula.auxiliaryCount,
              (Clause.blocksFrom formula.numVariables (Clause.normalize formula.clauses)).flatten⟩,
            formula.numVariables, formula.clauses.length⟩
        else Checked.stop .sum := by
  rw [reduceToThree, validate_eq_ok_iff.2 wellFormed, ok_bind,
    Clause.allToThree_eq isWord (Clause.normalize_within wellFormed.within) Clause.normalize_distinctVars,
    auxiliaryCount]
  split <;> rfl

theorem Formula.reduceToThree_eq_ok {formula : Formula} (wellFormed : formula.WellFormed)
    (fits : formula.numVariables + formula.auxiliaryCount ≤ maxWord) :
    formula.reduceToThree = .ok
      ⟨⟨formula.numVariables + formula.auxiliaryCount,
          (Clause.blocksFrom formula.numVariables (Clause.normalize formula.clauses)).flatten⟩,
        formula.numVariables, formula.clauses.length⟩ := by
  rw [reduceToThree_eq wellFormed (Nat.le_of_add_right_le fits), if_pos fits]

/-- The auxiliary variables of a reduction are words, and it has the clauses made. -/
theorem Formula.of_reduceToThree_eq_ok {formula : Formula} {reduction : ThreeReduction}
    (isWord : formula.numVariables ≤ maxWord) (reduced : formula.reduceToThree = .ok reduction) :
    formula.WellFormed ∧ formula.numVariables + formula.auxiliaryCount ≤ maxWord
      ∧ reduction = ⟨⟨formula.numVariables + formula.auxiliaryCount,
          (Clause.blocksFrom formula.numVariables (Clause.normalize formula.clauses)).flatten⟩,
        formula.numVariables, formula.clauses.length⟩ := by
  obtain ⟨_, accepted, _⟩ := bind_eq_ok_iff.1 reduced
  have wellFormed := validate_eq_ok_iff.1 accepted
  rw [reduceToThree_eq wellFormed isWord] at reduced
  split at reduced
  next fits => exact ⟨wellFormed, fits, (Except.ok.inj reduced).symm⟩
  next stops => cases reduced

/-- A model extends to what satisfies all clauses made. -/
theorem Formula.exists_extension {formula : Formula} {valuation : Valuation}
    (wellFormed : formula.WellFormed) (model : formula.IsModel valuation) :
    ∃ more : Valuation, more.length = formula.auxiliaryCount
      ∧ Clause.AllSatisfied (valuation ++ more)
        (Clause.blocksFrom formula.numVariables (Clause.normalize formula.clauses)).flatten := by
  have within := Clause.normalize_within wellFormed.within
  have normalSatisfied :
      (Clause.normalize formula.clauses).all (Clause.satisfied valuation) = true := by
    rw [Clause.all_satisfied_normalize (model.covers.symm ▸ wellFormed.within)]
    exact model.satisfies
  have extended := Clause.exists_extension_blocksFrom (model.covers.symm ▸ within)
    Clause.normalize_distinctVars normalSatisfied
  rwa [model.covers] at extended

/-- What satisfies all clauses made begins with a model, whatever the auxiliary variables are. -/
theorem Formula.isModel_of_extension {formula : Formula} {valuation more : Valuation} {top : Nat}
    (wellFormed : formula.WellFormed) (covers : valuation.length = formula.numVariables)
    (all : Clause.AllSatisfied (valuation ++ more)
      (Clause.blocksFrom top (Clause.normalize formula.clauses)).flatten) : formula.IsModel valuation where
  covers := covers
  satisfies := by
    have within := Clause.normalize_within wellFormed.within
    have normalSatisfied := Clause.satisfied_of_blocksFrom all
    rw [Clause.all_satisfied_append (covers.symm ▸ within),
      Clause.all_satisfied_normalize (covers.symm ▸ wellFormed.within)] at normalSatisfied
    exact normalSatisfied

/-- The reduction of a formula that validation accepts, as long as the auxiliary variables can be
    numbered: it is a three-literal formula over different variables, and its models restore to exactly
    the models of the formula. -/
theorem reduceToThree_models (formula : Formula) (accepted : formula.validate = .ok ())
    (fits : formula.numVariables + formula.auxiliaryCount ≤ maxWord) :
    ∃ reduction, formula.reduceToThree = .ok reduction
      ∧ reduction.formula.validate = .ok ()
      ∧ (∀ clause ∈ reduction.formula.clauses, clause.DistinctVars)
      ∧ ∀ valuation : Valuation, valuation.length = formula.numVariables →
        (formula.satisfied valuation = true
          ↔ ∃ extended : Valuation, extended.length = reduction.formula.numVariables
            ∧ reduction.formula.toFormula.satisfied extended = true
            ∧ reduction.restore extended = valuation) := by
  have wellFormed := Formula.validate_eq_ok_iff.1 accepted
  have proper := Clause.blocksFrom_proper (Clause.normalize_within wellFormed.within)
    Clause.normalize_distinctVars
  refine ⟨_, Formula.reduceToThree_eq_ok wellFormed fits, ?_, ?_, ?_⟩
  · apply Formula.validate_eq_ok_iff.2
    constructor
    · exact Nat.lt_of_lt_of_le wellFormed.hasVariable (Nat.le_add_right _ _)
    · intro clause member
      obtain ⟨three, made, rfl⟩ := List.mem_map.1 member
      exact (proper three made).within
  · exact fun three member => (proper three member).distinct
  · intro valuation covers
    constructor
    · intro satisfies
      obtain ⟨more, moreLength, all⟩ :=
        Formula.exists_extension wellFormed ⟨covers, satisfies⟩
      refine ⟨valuation ++ more, ?_, ThreeFormula.satisfied_toFormula_iff.2 all,
        List.take_left' covers⟩
      rw [List.length_append, covers, moreLength]
    · rintro ⟨extended, _, satisfies, restored⟩
      have isExtension : valuation ++ extended.drop formula.numVariables = extended := by
        rw [← restored]
        exact List.take_append_drop _ _
      have all := ThreeFormula.satisfied_toFormula_iff.1 satisfies
      rw [← isExtension] at all
      exact (Formula.isModel_of_extension wellFormed covers all).satisfies

/-- A clause of four literals, one of them repeated, and a unit clause. -/
theorem reduceToThree_models_chain_and_unit :
    ∃ reduction, (⟨4, [[⟨1, true⟩, ⟨2, true⟩, ⟨1, true⟩, ⟨3, false⟩, ⟨4, true⟩], [⟨2, false⟩]]⟩
        : Formula).reduceToThree = .ok reduction
      ∧ reduction.formula.validate = .ok ()
      ∧ (∀ clause ∈ reduction.formula.clauses, clause.DistinctVars)
      ∧ ∀ valuation : Valuation, valuation.length = 4 →
        ((⟨4, [[⟨1, true⟩, ⟨2, true⟩, ⟨1, true⟩, ⟨3, false⟩, ⟨4, true⟩], [⟨2, false⟩]]⟩
            : Formula).satisfied valuation = true
          ↔ ∃ extended : Valuation, extended.length = reduction.formula.numVariables
            ∧ reduction.formula.toFormula.satisfied extended = true
            ∧ reduction.restore extended = valuation) :=
  reduceToThree_models _ rfl (by decide +kernel)

end SatSum
