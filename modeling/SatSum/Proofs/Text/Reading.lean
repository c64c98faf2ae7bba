import Mathlib.Data.List.Forall2
import SatSum.Fault
import SatSum.Text.Line

/-! # What readers accept and refuse

A reader either ends with a result or reports the place where the text cannot be read. `Reads` says
of both ends what they mean for the text: results are `accepted`, a report entails that the text is
`refused`. If `refused` excludes everything that may be accepted, the reader takes exactly the texts
of its grammar.

* `Reads.bind`: readers in a row.
* `reads_foldlM`: a reader goes through tokens one by one, and takes what is spelled by all of them.
* `Reads.validated`: how a reader ends that validates what it has read.
-/

namespace SatSum

/-- The fault points at a place of a text. -/
def Fault.IsMisreading (fault : Fault) : Prop :=
  ∃ line column cause, fault = .unreadable line column cause

namespace Text

variable {α β : Type}

/-- Results are accepted; where the reader reports a misreading, the text is refused. -/
def Reads (read : Except Fault α) (accepted : α → Prop) (refused : Prop) : Prop :=
  match read with
  | .ok result => accepted result
  | .error fault => fault.IsMisreading ∧ refused

theorem reads_misreading (line column : Nat) (cause : Misreading) {accepted : α → Prop}
    {refused : Prop} (isRefused : refused) :
    Reads (.error (.unreadable line column cause)) accepted refused :=
  ⟨⟨line, column, cause, rfl⟩, isRefused⟩

theorem Reads.imp {read : Except Fault α} {accepted more : α → Prop} {refused stillRefused : Prop}
    (reads : Reads read accepted refused) (accepts : ∀ result, accepted result → more result)
    (refuses : refused → stillRefused) : Reads read more stillRefused := by
  cases read with
  | ok result => exact accepts result reads
  | error fault => exact ⟨reads.1, refuses reads.2⟩

theorem Reads.bind {first : Except Fault α} {next : α → Except Fault β} {between : α → Prop}
    {accepted : β → Prop} {refused : Prop} (reads : Reads first between refused)
    (later : ∀ result, between result → Reads (next result) accepted refused) :
    Reads (first >>= next) accepted refused := by
  cases first with
  | ok result => exact later result reads
  | error fault => exact reads

/-- Two runs of words spell a run of values each. -/
theorem forall₂_append_iff {spells : α → β → Prop} {first second : List α} {values : List β} :
    List.Forall₂ spells (first ++ second) values ↔ ∃ here later, values = here ++ later
      ∧ List.Forall₂ spells first here ∧ List.Forall₂ spells second later := by
  constructor
  · intro spelled
    induction first generalizing values with
    | nil => exact ⟨[], values, rfl, .nil, spelled⟩
    | cons word first inductionHypothesis =>
      cases spelled with
      | cons spelledWord spelledLater =>
        obtain ⟨here, later, rfl, spelledHere, spelledSecond⟩ := inductionHypothesis spelledLater
        exact ⟨_ :: here, later, rfl, .cons spelledWord spelledHere, spelledSecond⟩
  · rintro ⟨here, later, rfl, spelledHere, spelledLater⟩
    exact List.rel_append spelledHere spelledLater

theorem exists_spelling {spells : α → β → Prop} {words : List α} {values : List β}
    (spelled : List.Forall₂ spells words values) {value : β} (member : value ∈ values) :
    ∃ word ∈ words, spells word value := by
  induction spelled with
  | nil => cases member
  | cons spelledFirst _ inductionHypothesis =>
    cases member with
    | head => exact ⟨_, List.mem_cons_self, spelledFirst⟩
    | tail _ member =>
      obtain ⟨word, inWords, spells⟩ := inductionHypothesis member
      exact ⟨word, List.mem_cons_of_mem _ inWords, spells⟩

/-- A reader that takes, token by token, values that the tokens spell, and keeps what it has taken
    in its state. -/
theorem reads_foldlM {State Value : Type} {step : State → Token → Except Fault State}
    {spells : List Char → Value → Prop} {holds : State → List Value → Prop}
    {state : State} {values : List Value} (start : holds state values)
    (reads : ∀ {state values}, holds state values → ∀ token,
      Reads (step state token)
        (fun next => ∃ value, spells token.text value ∧ holds next (values ++ [value]))
        (∀ value, ¬ spells token.text value))
    (tokens : List Token) :
    Reads (tokens.foldlM step state)
      (fun last => ∃ more, List.Forall₂ spells (tokens.map Token.text) more
        ∧ holds last (values ++ more))
      (∀ more, ¬ List.Forall₂ spells (tokens.map Token.text) more) := by
  induction tokens generalizing state values with
  | nil => exact ⟨[], .nil, by rwa [List.append_nil]⟩
  | cons token tokens inductionHypothesis =>
    rw [List.foldlM_cons]
    refine Reads.bind ((reads start token).imp (fun _ => id) ?_) ?_
    · intro refused more spelled
      cases spelled with
      | cons spelledFirst _ => exact refused _ spelledFirst
    · rintro next ⟨value, spelled, held⟩
      apply (inductionHypothesis held).imp
      · rintro last ⟨more, spelledLater, heldLast⟩
        rw [List.append_assoc] at heldLast
        exact ⟨value :: more, .cons spelled spelledLater, heldLast⟩
      · intro refused more spelled
        cases spelled with
        | cons _ spelledLater => exact refused _ spelledLater

/-! ## Validated results -/

/-- How a reader ends that takes what is spelled if it is valid. -/
inductive Outcome (spells valid : α → Prop) : Except Fault α → Prop
  | accepted {result : α} (spelled : spells result) (isValid : valid result) :
      Outcome spells valid (.ok result)
  | malformed {result : α} (spelled : spells result) (invalid : ¬ valid result)
      (cause : Malformation) : Outcome spells valid (.error (.malformed cause))
  | misread (refused : ∀ result, ¬ spells result) (line column : Nat) (cause : Misreading) :
      Outcome spells valid (.error (.unreadable line column cause))

theorem Reads.validated {read : Except Fault α} {validate : α → Except Fault Unit}
    {spells valid : α → Prop} (reads : Reads read spells (∀ result, ¬ spells result))
    (validates : ∀ result, spells result → validate result = .ok () ∧ valid result
      ∨ ∃ cause, validate result = .error (.malformed cause) ∧ ¬ valid result) :
    Outcome spells valid (read >>= fun result => validate result >>= fun _ => .ok result) := by
  cases read with
  | ok result =>
    have spelled : spells result := reads
    show Outcome spells valid (validate result >>= fun _ => .ok result)
    rcases validates result spelled with ⟨accepted, isValid⟩ | ⟨cause, refused, invalid⟩
    · rw [accepted]
      exact .accepted spelled isValid
    · rw [refused]
      exact .malformed spelled invalid cause
  | error fault =>
    obtain ⟨⟨line, column, cause, rfl⟩, refused⟩ := reads
    exact .misread refused line column cause

namespace Outcome

variable {spells valid : α → Prop} {read : Except Fault α}
  (unique : ∀ {first second : α}, spells first → spells second → first = second)
  (outcome : Outcome spells valid read)

include unique outcome

theorem eq_ok_iff {result : α} : read = .ok result ↔ spells result ∧ valid result := by
  cases outcome with
  | accepted spelled isValid =>
    constructor
    · intro same
      cases same
      exact ⟨spelled, isValid⟩
    · rintro ⟨otherSpelled, _⟩
      rw [unique spelled otherSpelled]
  | malformed spelled invalid cause =>
    constructor
    · intro same
      cases same
    · rintro ⟨otherSpelled, otherValid⟩
      rw [unique otherSpelled spelled] at otherValid
      exact absurd otherValid invalid
  | misread refused line column cause =>
    constructor
    · intro same
      cases same
    · rintro ⟨otherSpelled, _⟩
      exact absurd otherSpelled (refused result)

theorem eq_malformed_iff :
    (∃ cause, read = .error (.malformed cause)) ↔ ∃ result, spells result ∧ ¬ valid result := by
  cases outcome with
  | accepted spelled isValid =>
    constructor
    · rintro ⟨cause, same⟩
      cases same
    · rintro ⟨other, otherSpelled, invalid⟩
      rw [unique otherSpelled spelled] at invalid
      exact absurd isValid invalid
  | malformed spelled invalid cause => exact ⟨fun _ => ⟨_, spelled, invalid⟩, fun _ => ⟨cause, rfl⟩⟩
  | misread refused line column cause =>
    constructor
    · rintro ⟨cause, same⟩
      cases same
    · rintro ⟨other, otherSpelled, _⟩
      exact absurd otherSpelled (refused other)

omit unique in
theorem eq_unreadable_iff :
    (∃ line column cause, read = .error (.unreadable line column cause))
      ↔ ∀ result, ¬ spells result := by
  cases outcome with
  | accepted spelled isValid =>
    constructor
    · rintro ⟨line, column, cause, same⟩
      cases same
    · exact fun refused => absurd spelled (refused _)
  | malformed spelled invalid cause =>
    constructor
    · rintro ⟨line, column, cause, same⟩
      cases same
    · exact fun refused => absurd spelled (refused _)
  | misread refused line column cause => exact ⟨fun _ => refused, fun _ => ⟨_, _, _, rfl⟩⟩

end Outcome

end Text

end SatSum
