import SatSum.Proofs.SubsetSum.FirstSelection

/-! # Prefixes of decisions

The branches of the search that takes elements before leaving them out are prefixes of decisions: `true`
takes an element. Going deeper is worth while where something is missing and the elements left can
make it up, as far as their bounds tell. Branches are searched in preorder: one before those it begins,
and those that take an element before those that leave it out.

* `firstDecisions?_eq_some_iff`: the decisions that the search ends with.
* `mem_branches_iff`: the branches that are searched.
-/

namespace SatSum.SubsetSum

variable {number missing : Int} {rest numbers : List Int} {decision : Bool}
  {decisions hit other : List Bool}

/-! ## Branches -/

/-- The decisions leave something missing, and it is within the bounds of the elements after them. -/
structure IsOpen (numbers : List Int) (target : Int) (decisions : List Bool) : Prop where
  missing_ne : target - sumTaken numbers decisions ≠ 0
  least_le : leastSum (numbers.drop decisions.length) ≤ target - sumTaken numbers decisions
  le_greatest : target - sumTaken numbers decisions ≤ greatestSum (numbers.drop decisions.length)

/-- Decisions on the first elements that only go on from open ones. -/
structure IsBranch (numbers : List Int) (target : Int) (decisions : List Bool) : Prop where
  length_le : decisions.length ≤ numbers.length
  isOpen : ∀ earlier, earlier <+: decisions → earlier ≠ decisions → IsOpen numbers target earlier

theorem isOpen_nil_iff : IsOpen numbers missing []
    ↔ missing ≠ 0 ∧ leastSum numbers ≤ missing ∧ missing ≤ greatestSum numbers := by
  have nothingTaken : missing - sumTaken numbers [] = missing := by
    rw [sumTaken_nil, Int.sub_zero]
  constructor
  · rintro ⟨missing_ne, least_le, le_greatest⟩
    rw [nothingTaken] at missing_ne least_le le_greatest
    exact ⟨missing_ne, least_le, le_greatest⟩
  · rintro ⟨missing_ne, least_le, le_greatest⟩
    rw [← nothingTaken] at missing_ne least_le le_greatest
    exact ⟨missing_ne, least_le, le_greatest⟩

/-- What is missing among the elements after the first one. -/
def missingAfter (missing number : Int) (decision : Bool) : Int :=
  if decision then missing - number else missing

theorem sub_sumTaken_cons : missing - sumTaken (number :: rest) (decision :: decisions)
    = missingAfter missing number decision - sumTaken rest decisions := by
  rw [sumTaken, missingAfter]
  split <;> omega

theorem isOpen_cons_iff : IsOpen (number :: rest) missing (decision :: decisions)
    ↔ IsOpen rest (missingAfter missing number decision) decisions := by
  constructor
  · rintro ⟨missing_ne, least_le, le_greatest⟩
    rw [sub_sumTaken_cons] at missing_ne least_le le_greatest
    exact ⟨missing_ne, least_le, le_greatest⟩
  · rintro ⟨missing_ne, least_le, le_greatest⟩
    rw [← sub_sumTaken_cons] at missing_ne least_le le_greatest
    exact ⟨missing_ne, least_le, le_greatest⟩

theorem isBranch_nil : IsBranch numbers missing [] where
  length_le := Nat.zero_le _
  isOpen := fun _ begins differ => absurd (List.prefix_nil.1 begins) differ

theorem isBranch_cons_iff : IsBranch (number :: rest) missing (decision :: decisions)
    ↔ IsOpen (number :: rest) missing []
      ∧ IsBranch rest (missingAfter missing number decision) decisions := by
  constructor
  · rintro ⟨length_le, isOpen⟩
    simp only [forall_prefix_cons, isOpen_cons_iff] at isOpen
    exact ⟨isOpen.1, Nat.le_of_succ_le_succ length_le, isOpen.2⟩
  · rintro ⟨openFirst, length_le, isOpen⟩
    refine ⟨Nat.succ_le_succ length_le, ?_⟩
    simp only [forall_prefix_cons, isOpen_cons_iff]
    exact ⟨openFirst, isOpen⟩

/-! ## Preorder -/

/-- The first decisions are searched before the second ones. -/
def Precedes : List Bool → List Bool → Prop :=
  List.Lex (· > ·)

theorem not_precedes_nil : ¬ Precedes decisions [] :=
  List.not_lex_nil

theorem precedes_cons_iff {first second : Bool} :
    Precedes (first :: decisions) (second :: other)
      ↔ first > second ∨ first = second ∧ Precedes decisions other :=
  List.cons_lex_cons_iff

/-! ## The first hit -/

/-- The branch that hits the target, before all others that do. -/
structure IsFirstHit (numbers : List Int) (target : Int) (decisions : List Bool) : Prop where
  isBranch : IsBranch numbers target decisions
  hits : sumTaken numbers decisions = target
  first : ∀ other, IsBranch numbers target other → sumTaken numbers other = target →
    ¬ Precedes other decisions

theorem IsFirstHit.unique (left : IsFirstHit numbers missing hit)
    (right : IsFirstHit numbers missing other) : hit = other :=
  Std.Trichotomous.trichotomous (r := List.Lex (· > ·)) hit other
    (right.first hit left.isBranch left.hits) (left.first other right.isBranch right.hits)

theorem reaches_of_sumTaken (sums : sumTaken numbers decisions = missing) :
    Reaches numbers missing := by
  induction numbers generalizing missing decisions with
  | nil => exact sums.symm
  | cons number rest inductionHypothesis =>
    cases decisions with
    | nil =>
      rw [← sums, sumTaken_nil]
      exact reaches_zero _
    | cons decision decisions =>
      have later : Reaches rest (sumTaken rest decisions) := inductionHypothesis rfl
      rw [sumTaken] at sums
      cases decision with
      | false =>
        simp only [Bool.false_eq_true, if_false, Int.zero_add] at sums
        exact Or.inl (sums ▸ later)
      | true =>
        have rest : sumTaken rest decisions = missing - number := by
          rw [if_pos rfl] at sums
          omega
        exact Or.inr (rest ▸ later)

theorem isFirstHit_nil : IsFirstHit numbers 0 [] where
  isBranch := isBranch_nil
  hits := sumTaken_nil numbers
  first := fun _ _ _ => not_precedes_nil

/-- A first hit among the later elements is one of all, if the first element is taken or taking it
    leaves nothing to hit. -/
theorem IsFirstHit.cons (someMissing : missing ≠ 0)
    (later : IsFirstHit rest (missingAfter missing number decision) decisions)
    (noneBefore : decision = false → ¬ Reaches rest (missing - number)) :
    IsFirstHit (number :: rest) missing (decision :: decisions) := by
  have hits_iff (first : Bool) (others : List Bool) :
      sumTaken (number :: rest) (first :: others) = missing
        ↔ sumTaken rest others = missingAfter missing number first := by
    have : missing - sumTaken (number :: rest) (first :: others) = _ := sub_sumTaken_cons
    omega
  have hits := (hits_iff decision decisions).2 later.hits
  refine ⟨isBranch_cons_iff.2 ⟨isOpen_nil_iff.2 ⟨someMissing, (reaches_of_sumTaken hits).bounds⟩,
    later.isBranch⟩, hits, ?_⟩
  intro other branch otherHits precedes
  cases other with
  | nil =>
    rw [sumTaken_nil] at otherHits
    exact someMissing otherHits.symm
  | cons first others =>
    rw [hits_iff] at otherHits
    rcases precedes_cons_iff.1 precedes with before | ⟨rfl, precedesLater⟩
    · obtain ⟨rfl, rfl⟩ := Bool.lt_iff.1 before
      exact noneBefore rfl (reaches_of_sumTaken otherHits)
    · exact later.first others (isBranch_cons_iff.1 branch).2 otherHits precedesLater

/-- The first prefix of decisions that makes up what is missing, taking an element before leaving it
    out. -/
def firstDecisions? (missing : Int) (undecided : List Int) : Option (List Bool) :=
  if missing = 0 then some []
  else
    match undecided with
    | [] => none
    | number :: rest =>
      ((firstDecisions? (missing - number) rest).map (true :: ·)).or
        ((firstDecisions? missing rest).map (false :: ·))

theorem firstDecisions?_zero (undecided : List Int) : firstDecisions? 0 undecided = some [] := by
  rw [firstDecisions?.eq_def, if_pos rfl]

theorem firstDecisions?_nil (someMissing : missing ≠ 0) : firstDecisions? missing [] = none := by
  rw [firstDecisions?, if_neg someMissing]

theorem firstDecisions?_cons (someMissing : missing ≠ 0) :
    firstDecisions? missing (number :: rest)
      = ((firstDecisions? (missing - number) rest).map (true :: ·)).or
        ((firstDecisions? missing rest).map (false :: ·)) := by
  rw [firstDecisions?, if_neg someMissing]

/-- The positions of the elements taken, the first element being at `position`. -/
def takenFrom (position : Nat) (decisions : List Bool) : Selection :=
  ((decisions.zipIdx position).filter (·.1)).map Prod.snd

/-- The first decisions take the first selection. -/
theorem firstSelection?_eq (position : Nat) (missing : Int) (numbers : List Int) :
    firstSelection? position missing numbers
      = (firstDecisions? missing numbers).map (takenFrom position) := by
  induction numbers generalizing position missing with
  | nil =>
    rw [firstSelection?, firstDecisions?]
    split <;> rfl
  | cons number rest inductionHypothesis =>
    by_cases nothingMissing : missing = 0
    · rw [nothingMissing, firstSelection?_zero, firstDecisions?_zero]
      rfl
    · have taking (decisions : List Bool) : takenFrom position (true :: decisions)
          = position :: takenFrom (position + 1) decisions := rfl
      have leaving (decisions : List Bool) : takenFrom position (false :: decisions)
          = takenFrom (position + 1) decisions := rfl
      rw [firstSelection?_cons nothingMissing, firstDecisions?_cons nothingMissing, Option.map_or,
        Option.map_map, Option.map_map, inductionHypothesis, inductionHypothesis, Option.map_map]
      simp only [Function.comp_def, taking, leaving]

theorem isSome_firstSelection? (position : Nat) (missing : Int) (numbers : List Int) :
    (firstSelection? position missing numbers).isSome = (firstDecisions? missing numbers).isSome := by
  rw [firstSelection?_eq, Option.isSome_map]

theorem firstDecisions?_eq_none_iff :
    firstDecisions? missing numbers = none ↔ ¬ Reaches numbers missing := by
  have noSelection : firstSelection? 0 missing numbers = none ↔ _ := firstSelection?_eq_none_iff
  rwa [firstSelection?_eq, Option.map_eq_none_iff] at noSelection

theorem isFirstHit_of_firstDecisions? (found : firstDecisions? missing numbers = some hit) :
    IsFirstHit numbers missing hit := by
  induction numbers generalizing missing hit with
  | nil =>
    by_cases nothingMissing : missing = 0
    · subst nothingMissing
      cases (firstDecisions?_zero _).symm.trans found
      exact isFirstHit_nil
    · cases (firstDecisions?_nil nothingMissing).symm.trans found
  | cons number rest inductionHypothesis =>
    by_cases nothingMissing : missing = 0
    · subst nothingMissing
      cases (firstDecisions?_zero _).symm.trans found
      exact isFirstHit_nil
    · rw [firstDecisions?_cons nothingMissing, Option.or_eq_some_iff, Option.map_eq_some_iff,
        Option.map_eq_none_iff, Option.map_eq_some_iff] at found
      rcases found with ⟨taken, isTaken, rfl⟩ | ⟨noneTaken, left, isLeft, rfl⟩
      · exact .cons nothingMissing (inductionHypothesis isTaken) nofun
      · exact .cons nothingMissing (inductionHypothesis isLeft) fun _ =>
          firstDecisions?_eq_none_iff.1 noneTaken

theorem firstDecisions?_eq_some_iff :
    firstDecisions? missing numbers = some hit ↔ IsFirstHit numbers missing hit := by
  constructor
  · exact isFirstHit_of_firstDecisions?
  · intro isFirst
    cases found : firstDecisions? missing numbers with
    | none => exact absurd (reaches_of_sumTaken isFirst.hits) (firstDecisions?_eq_none_iff.1 found)
    | some other => rw [isFirst.unique (isFirstHit_of_firstDecisions? found)]

/-! ## The branches searched -/

/-- The branches in preorder, up to the first hit. -/
def branches (missing : Int) : List Int → List (List Bool)
  | [] => [[]]
  | number :: rest =>
    [] :: if missing ≠ 0 ∧ leastSum (number :: rest) ≤ missing
        ∧ missing ≤ greatestSum (number :: rest) then
      (branches (missing - number) rest).map (true :: ·)
        ++ if (firstDecisions? (missing - number) rest).isSome then []
          else (branches missing rest).map (false :: ·)
    else []

theorem cons_mem_branches_iff : decision :: decisions ∈ branches missing (number :: rest)
    ↔ IsOpen (number :: rest) missing []
      ∧ decisions ∈ branches (missingAfter missing number decision) rest
      ∧ (decision = false → firstDecisions? (missing - number) rest = none) := by
  rw [branches, isOpen_nil_iff]
  by_cases isOpen : missing ≠ 0 ∧ leastSum (number :: rest) ≤ missing
      ∧ missing ≤ greatestSum (number :: rest)
  · rw [if_pos isOpen, and_iff_right isOpen]
    cases found : firstDecisions? (missing - number) rest <;> cases decision <;> simp [missingAfter]
  · simp [isOpen]

theorem nil_mem_branches : [] ∈ branches missing numbers := by
  cases numbers <;> exact List.mem_cons_self

/-- The first hit of the elements after the first one precedes what it precedes with that element. -/
theorem forall_firstDecisions?_cons (someMissing : missing ≠ 0) :
    (∀ hit, firstDecisions? missing (number :: rest) = some hit → ¬ Precedes hit (decision :: decisions))
      ↔ (∀ hit, firstDecisions? (missingAfter missing number decision) rest = some hit →
          ¬ Precedes hit decisions)
        ∧ (decision = false → firstDecisions? (missing - number) rest = none) := by
  rw [firstDecisions?_cons someMissing]
  cases decision with
  | false =>
    cases firstDecisions? (missing - number) rest with
    | none => simp [missingAfter, precedes_cons_iff]
    | some taken => simp [precedes_cons_iff]
  | true =>
    cases found : firstDecisions? (missing - number) rest with
    | none => simp [missingAfter, found, precedes_cons_iff]
    | some taken => simp [missingAfter, found, precedes_cons_iff]

theorem mem_branches_iff : decisions ∈ branches missing numbers
    ↔ IsBranch numbers missing decisions
      ∧ ∀ hit, firstDecisions? missing numbers = some hit → ¬ Precedes hit decisions := by
  induction numbers generalizing missing decisions with
  | nil =>
    cases decisions with
    | nil => exact iff_of_true nil_mem_branches ⟨isBranch_nil, fun _ _ => not_precedes_nil⟩
    | cons decision decisions =>
      refine iff_of_false (by simp [branches]) ?_
      rintro ⟨branch, _⟩
      exact Nat.not_succ_le_zero _ branch.length_le
  | cons number rest inductionHypothesis =>
    cases decisions with
    | nil => exact iff_of_true nil_mem_branches ⟨isBranch_nil, fun _ _ => not_precedes_nil⟩
    | cons decision decisions =>
      rw [cons_mem_branches_iff, inductionHypothesis, isBranch_cons_iff, and_assoc, and_assoc]
      refine and_congr_right fun openFirst => ?_
      rw [forall_firstDecisions?_cons (isOpen_nil_iff.1 openFirst).1]

theorem nodup_branches (missing : Int) (numbers : List Int) : (branches missing numbers).Nodup := by
  induction numbers generalizing missing with
  | nil => exact List.nodup_singleton _
  | cons number rest inductionHypothesis =>
    have each (decision : Bool) (missing : Int) :
        ((branches missing rest).map (decision :: ·)).Nodup :=
      (inductionHypothesis missing).map List.cons_injective
    rw [branches]
    split
    next isOpen =>
      split
      next found => simpa using each true (missing - number)
      next notFound =>
        refine List.nodup_cons.2 ⟨by simp, List.nodup_append.2 ⟨each _ _, each _ _, ?_⟩⟩
        simp
    next notOpen => exact List.nodup_singleton _

theorem branches_of_not_isOpen (notOpen : ¬ (missing ≠ 0 ∧ leastSum numbers ≤ missing
    ∧ missing ≤ greatestSum numbers)) : branches missing numbers = [[]] := by
  cases numbers with
  | nil => rfl
  | cons number rest => rw [branches, if_neg notOpen]

theorem length_branches_of_isOpen (isOpen : missing ≠ 0 ∧ leastSum (number :: rest) ≤ missing
    ∧ missing ≤ greatestSum (number :: rest)) :
    (branches missing (number :: rest)).length = 1 + (branches (missing - number) rest).length
      + if (firstDecisions? (missing - number) rest).isSome then 0
        else (branches missing rest).length := by
  rw [branches, if_pos isOpen, List.length_cons, List.length_append, List.length_map, Nat.add_comm _ 1,
    Nat.add_assoc]
  split
  next found => rfl
  next notFound => rw [List.length_map]

theorem length_branches_lt (missing : Int) (numbers : List Int) :
    (branches missing numbers).length < 2 ^ (numbers.length + 1) := by
  induction numbers generalizing missing with
  | nil => exact Nat.one_lt_two
  | cons number rest inductionHypothesis =>
    have taking := inductionHypothesis (missing - number)
    have leaving := inductionHypothesis missing
    rw [List.length_cons, Nat.pow_succ 2 (rest.length + 1)]
    by_cases isOpen : missing ≠ 0 ∧ leastSum (number :: rest) ≤ missing
        ∧ missing ≤ greatestSum (number :: rest)
    · rw [length_branches_of_isOpen isOpen]
      split <;> omega
    · rw [branches_of_not_isOpen isOpen, List.length_singleton]
      omega

/-- The branches that do not come after the first hit. -/
def searched (numbers : List Int) (target : Int) : Set (List Bool) :=
  {decisions | IsBranch numbers target decisions
    ∧ ∀ hit, IsFirstHit numbers target hit → ¬ Precedes hit decisions}

theorem encard_searched (numbers : List Int) (missing : Int) :
    (searched numbers missing).encard = (branches missing numbers).length := by
  apply encard_eq_length (nodup_branches missing numbers)
  intro decisions
  simp only [mem_branches_iff, firstDecisions?_eq_some_iff]
  rfl

end SatSum.SubsetSum
