import Mathlib.Algebra.Order.Ring.Int
import Mathlib.Data.List.InsertIdx
import Mathlib.Data.List.Nodup
import Mathlib.Data.List.Range
import SatSum.Chance.Source

/-! # What can be relied on in a draw

Random data is drawn from a state that may do anything, so what is known of a draw is what holds of its
result whatever the state: `Yields`. Of the choices themselves only their ranges are known, `LawfulChoices`.

Choices made of words are lawful. A shuffle rearranges all positions, so those it puts first are different.
A sample that grows gets one new position in each step: the drawn one or, if that is taken already, the
one that has just become possible.

* `Yields.bind`, `yields_repeated`, `yields_mapM`: draws put together.
* `yields_shuffleFrom`, `yields_growFrom`: both ways to take a sample.
* `lawfulChoices_ofWords`: the choices made of words.
-/

namespace SatSum.Chance

variable {σ α β : Type}

/-! ## Draws -/

/-- Whatever the source hands out, the draw has such a result. -/
def Yields (good : α → Prop) (draw : Draw σ α) : Prop :=
  ∀ source, good (draw source).1

section

variable {good between : α → Prop} {result : β → Prop}

theorem yields_pure {value : α} (holds : good value) : Yields good (pure value : Draw σ α) :=
  fun _ => holds

theorem Yields.bind {first : Draw σ α} {next : α → Draw σ β} (yields : Yields between first)
    (goesOn : ∀ value, between value → Yields result (next value)) : Yields result (first >>= next) :=
  fun source => goesOn (first source).1 (yields source) (first source).2

theorem Yields.mono {better : α → Prop} {draw : Draw σ α} (yields : Yields good draw)
    (improves : ∀ value, good value → better value) : Yields better draw :=
  fun source => improves _ (yields source)

theorem Yields.map {draw : Draw σ α} {convert : α → β} (yields : Yields (fun value => result (convert value)) draw) :
    Yields result (convert <$> draw) :=
  yields

theorem yields_repeated {draw : Draw σ α} (yields : Yields good draw) (count : Nat) :
    Yields (fun values => values.length = count ∧ ∀ value ∈ values, good value)
      (repeated count draw) := by
  induction count with
  | zero => exact yields_pure ⟨rfl, fun _ member => nomatch member⟩
  | succ count inductionHypothesis =>
    refine yields.bind fun first goodFirst => inductionHypothesis.bind fun others goodOthers => ?_
    refine yields_pure ⟨congrArg Nat.succ goodOthers.1, ?_⟩
    exact List.forall_mem_cons.2 ⟨goodFirst, goodOthers.2⟩

theorem yields_mapM {draw : α → Draw σ β} {fits : α → β → Prop}
    (yields : ∀ value, Yields (fits value) (draw value)) (values : List α) :
    Yields (List.Forall₂ fits values) (values.mapM draw) := by
  induction values with
  | nil => exact yields_pure .nil
  | cons value values inductionHypothesis =>
    rw [List.mapM_cons]
    refine (yields value).bind fun first fit => inductionHypothesis.bind fun others allFit => ?_
    exact yields_pure (.cons fit allFit)

end

/-! ## Lawful choices -/

/-- Different positions below `length`, as many as asked for. -/
structure IsSample (length amount : Nat) (positions : List Nat) : Prop where
  distinct : positions.Nodup
  inRange : ∀ position ∈ positions, position < length
  length_eq : positions.length = amount

/-- A number drawn below a bound is below it, if the words can hold it at all. A sample consists of
    different positions, if there are enough. -/
class LawfulChoices (σ : Type) [Choices σ] : Prop where
  below_lt {words bound : Nat} (positive : 0 < bound) (fits : bound ≤ 2 ^ (32 * words)) :
    Yields (· < bound) (Choices.below words bound : Draw σ Nat)
  isSample {length amount : Nat} (enough : amount ≤ length) :
    Yields (IsSample length amount) (Choices.sample length amount : Draw σ (List Nat))

theorem IsSample.perm {length amount : Nat} {positions others : List Nat}
    (isSample : IsSample length amount positions) (same : others.Perm positions) :
    IsSample length amount others where
  distinct := same.nodup_iff.2 isSample.distinct
  inRange := fun position member => isSample.inRange position (same.mem_iff.1 member)
  length_eq := same.length_eq.trans isSample.length_eq

theorem isSample_nil (length : Nat) : IsSample length 0 [] :=
  ⟨List.nodup_nil, fun _ member => (nomatch member), rfl⟩

/-- A new position, and one more that is possible. -/
theorem IsSample.cons {top amount position : Nat} {positions : List Nat}
    (isSample : IsSample top amount positions) (possible : position ≤ top)
    (new : position ∉ positions) : IsSample (top + 1) (amount + 1) (position :: positions) where
  distinct := List.nodup_cons.2 ⟨new, isSample.distinct⟩
  inRange := by
    rw [List.forall_mem_cons]
    exact ⟨by omega, fun other member => (isSample.inRange other member).trans (Nat.lt_succ_self top)⟩
  length_eq := congrArg Nat.succ isSample.length_eq

/-- The first members of a rearrangement of all positions. -/
theorem isSample_take {length amount : Nat} {members : List Nat}
    (rearranged : members.Perm (List.range length)) (enough : amount ≤ length) :
    IsSample length amount (members.take amount) where
  distinct := (rearranged.nodup_iff.2 List.nodup_range).sublist (List.take_sublist amount members)
  inRange := by
    intro position member
    exact List.mem_range.1 (rearranged.mem_iff.1 (List.mem_of_mem_take member))
  length_eq := by rw [List.length_take, rearranged.length_eq, List.length_range, Nat.min_eq_left enough]

/-! ## Choices made of words -/

section

variable [WordSource σ]

theorem yields_below (words : Nat) {bound : Nat} (positive : 0 < bound) :
    Yields (· < bound) (below words bound : Draw σ Nat) :=
  belowWithin_lt words maxAttempts positive

theorem swapIfInBounds_perm (members : Array Nat) (first second : Nat) :
    (members.swapIfInBounds first second).toList.Perm members.toList := by
  rw [Array.swapIfInBounds_def]
  split
  next inside =>
    split
    next insideToo => exact (Array.swap_perm inside insideToo).toList
    next => exact .refl _
  next => exact .refl _

theorem yields_shuffleFrom (members : Array Nat) (position count : Nat) :
    Yields (·.toList.Perm members.toList) (shuffleFrom members position count : Draw σ (Array Nat)) := by
  induction count generalizing members position with
  | zero => exact yields_pure (.refl _)
  | succ count inductionHypothesis =>
    have anything : Yields (fun _ => True) (below 1 (members.size - position) : Draw σ Nat) :=
      fun _ => trivial
    refine anything.bind fun offset _ => (inductionHypothesis _ _).mono fun shuffled rearranged => ?_
    exact rearranged.trans (swapIfInBounds_perm members position (position + offset))

theorem yields_shuffleDown (members : Array Nat) (count : Nat) :
    Yields (·.toList.Perm members.toList) (shuffleDown members count : Draw σ (Array Nat)) := by
  induction count generalizing members with
  | zero => exact yields_pure (.refl _)
  | succ count inductionHypothesis =>
    have anything : Yields (fun _ => True) (below 1 (count + 2) : Draw σ Nat) := fun _ => trivial
    refine anything.bind fun other _ => (inductionHypothesis _).mono fun shuffled rearranged => ?_
    exact rearranged.trans (swapIfInBounds_perm members (count + 1) other)

/-- Of a taken position and the one that has just become possible, the second is new. -/
theorem isSample_addPosition {amount top drawn size : Nat} {sample : List Nat}
    (isSample : IsSample top size sample) (possible : drawn ≤ top) :
    IsSample (top + 1) (size + 1) (addPosition amount top drawn sample) := by
  have topNew : top ∉ sample := fun member => Nat.lt_irrefl top (isSample.inRange top member)
  unfold addPosition
  split
  next noneFound =>
    have new : drawn ∉ sample := List.idxOf?_eq_none_iff.1 noneFound
    exact (isSample.cons possible new).perm (List.perm_append_singleton drawn sample)
  next taken found =>
    have withTop := isSample.cons (Nat.le_refl top) topNew
    obtain ⟨inside, _⟩ := List.idxOf?_eq_some_iff.1 found
    split
    next => exact withTop.perm (List.perm_insertIdx top sample inside.le)
    next => exact withTop.perm (List.perm_append_singleton top sample)

theorem yields_growFrom (amount : Nat) {top size : Nat} (count : Nat) {sample : List Nat}
    (isSample : IsSample top size sample) :
    Yields (IsSample (top + count) (size + count))
      (growFrom amount top count sample : Draw σ (List Nat)) := by
  induction count generalizing top size sample with
  | zero => exact yields_pure isSample
  | succ count inductionHypothesis =>
    refine (yields_below 1 (Nat.succ_pos top)).bind fun drawn possible => ?_
    have grown := inductionHypothesis
      (@isSample_addPosition amount top drawn size sample isSample (Nat.le_of_lt_succ possible))
    rwa [Nat.add_right_comm top, Nat.add_right_comm size] at grown

theorem yields_sampleShuffled {length amount : Nat} (enough : amount ≤ length) :
    Yields (IsSample length amount) (sampleShuffled length amount : Draw σ (List Nat)) := by
  refine (yields_shuffleFrom (Array.range length) 0 amount).bind fun members rearranged => ?_
  rw [Array.toList_range] at rearranged
  exact yields_pure (isSample_take rearranged enough)

theorem yields_sampleGrown {length amount : Nat} (enough : amount ≤ length) :
    Yields (IsSample length amount) (sampleGrown length amount : Draw σ (List Nat)) := by
  have grows := @yields_growFrom σ _ amount _ _ amount _ (isSample_nil (length - amount))
  rw [Nat.sub_add_cancel enough, Nat.zero_add] at grows
  refine grows.bind fun grown isSample => ?_
  split
  next => exact yields_pure isSample
  next =>
    refine (yields_shuffleDown grown.toArray (amount - 1)).bind fun shuffled rearranged => ?_
    exact yields_pure (isSample.perm rearranged)

/-- Whatever words the source hands out, the choices made of them are in their ranges. -/
instance lawfulChoices_ofWords : LawfulChoices σ where
  below_lt := fun positive _ => yields_below _ positive
  isSample := by
    intro length amount enough
    show Yields _ (sample length amount)
    rw [sample]
    split
    next => exact yields_sampleShuffled enough
    next => exact yields_sampleGrown enough

end

end SatSum.Chance
