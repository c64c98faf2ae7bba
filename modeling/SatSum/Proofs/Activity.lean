import SatSum.Activity

/-! # Uninterrupted activities

`Ends` says how a computation that may fail can end. `complete` lets every poll pass, so it sees neither
polls nor events: it goes through composition, and what remains of an activity is the result it ends
with.

Searches are written with a continuation for the case that nothing is found. `FindsAt` says which of the
two happens and how many nodes are counted until then; `FindsAt.orElse` composes two searches of which
the second follows the first.
-/

namespace SatSum

variable {α β : Type}

theorem ok_bind {ε : Type} (between : α) (next : α → Except ε β) :
    (Except.ok between >>= next) = next between := rfl

theorem error_bind {ε : Type} (failure : ε) (next : α → Except ε β) :
    (Except.error failure >>= next) = .error failure := rfl

theorem bind_eq_ok_iff {ε : Type} {first : Except ε α} {next : α → Except ε β} {result : β} :
    first >>= next = .ok result ↔ ∃ between, first = .ok between ∧ next between = .ok result := by
  cases first with
  | error fault =>
    constructor
    · intro ended
      cases ended
    · rintro ⟨between, isOk, _⟩
      cases isOk
  | ok between =>
    constructor
    · exact fun ended => ⟨between, rfl, ended⟩
    · rintro ⟨between, isOk, ended⟩
      cases isOk
      exact ended

instance decidableEqExcept {ε : Type} [DecidableEq ε] [DecidableEq α] : DecidableEq (Except ε α)
  | .ok first, .ok second => decidable_of_iff (first = second) ⟨congrArg _, Except.ok.inj⟩
  | .error first, .error second => decidable_of_iff (first = second) ⟨congrArg _, Except.error.inj⟩
  | .ok _, .error _ => isFalse fun same => by cases same
  | .error _, .ok _ => isFalse fun same => by cases same

/-- A result of one kind, or a failure of another. -/
def Ends {ε : Type} (good : α → Prop) (bad : ε → Prop) : Except ε α → Prop
  | .ok result => good result
  | .error failure => bad failure

theorem Ends.bind {ε : Type} {between : α → Prop} {good : β → Prop} {bad : ε → Prop}
    {first : Except ε α} {next : α → Except ε β} (ends : Ends between bad first)
    (goesOn : ∀ result, between result → Ends good bad (next result)) :
    Ends good bad (first >>= next) := by
  cases first with
  | error failure => exact ends
  | ok result => exact goesOn result ends

/-- Steps that each keep what holds, or have the fault. -/
theorem Ends.foldlM {ε : Type} {holds : β → Prop} {bad : ε → Prop} {step : β → α → Except ε β} {state : β}
    (held : holds state) {inputs : List α}
    (steps : ∀ {state}, holds state → ∀ input ∈ inputs, Ends holds bad (step state input)) :
    Ends holds bad (inputs.foldlM step state) := by
  induction inputs generalizing state with
  | nil => exact held
  | cons input inputs inductionHypothesis =>
    rw [List.foldlM_cons]
    refine (steps held input List.mem_cons_self).bind fun next heldNext => ?_
    exact inductionHypothesis heldNext fun held other member =>
      steps held other (List.mem_cons_of_mem _ member)

namespace Activity

@[simp] theorem complete_done (result : α) : (done result).complete = .ok result := rfl

@[simp] theorem complete_pure (result : α) : (pure result : Activity α).complete = .ok result := rfl

@[simp] theorem complete_fail (fault : Fault) : (fail fault : Activity α).complete = .error fault :=
  rfl

@[simp] theorem complete_note (event : Event) (next : Unit → Activity α) :
    (note event next).complete = (next ()).complete := rfl

@[simp] theorem complete_poll (nodes : Nat) (next : Unit → Activity α) :
    (poll nodes next).complete = (next ()).complete := rfl

@[simp] theorem complete_report (event : Event) : (report event).complete = .ok () := rfl

@[simp] theorem complete_ofExcept (known : Except Fault α) : (ofExcept known).complete = known := by
  cases known <;> rfl

theorem ofExcept_ok_bind (known : α) (next : α → Activity β) :
    (ofExcept (.ok known) >>= next) = next known := rfl

theorem ofExcept_error_bind (fault : Fault) (next : α → Activity β) :
    (ofExcept (.error fault) >>= next) = fail fault := rfl

@[simp] theorem complete_bind (activity : Activity α) (next : α → Activity β) :
    (activity >>= next).complete = activity.complete >>= fun result => (next result).complete := by
  induction activity with
  | done result => rfl
  | fail fault => rfl
  | note event rest inductionHypothesis => exact inductionHypothesis ()
  | poll nodes rest inductionHypothesis => exact inductionHypothesis ()

@[simp] theorem complete_map (change : α → β) (activity : Activity α) :
    (change <$> activity).complete = change <$> activity.complete := by
  show (activity >>= fun result => pure (change result)).complete = _
  rw [complete_bind]
  cases activity.complete <;> rfl

/-- Events around an activity do not change how it ends. -/
theorem complete_reported (before : Event) (after : α → Event) (activity : Activity α) :
    (do
      report before
      let result ← activity
      report (after result)
      return result).complete = activity.complete := by
  simp only [complete_bind, complete_report, complete_pure]
  cases activity.complete <;> rfl

/-! ## Searches with a continuation -/

/-- Uninterrupted, the activity ends with the answer found, or goes on with `otherwise` if there is
    none. Either way it has counted `nodes` nodes by then. -/
def FindsAt (activity : Activity (Outcome α)) (found : Option α) (nodes : Nat)
    (otherwise : Nat → Activity (Outcome α)) : Prop :=
  match found with
  | some answer => activity.complete = .ok ⟨answer, nodes⟩
  | none => activity.complete = (otherwise nodes).complete

variable {activity : Activity (Outcome α)} {otherwise : Nat → Activity (Outcome α)} {nodes : Nat}

theorem FindsAt.poll {polled : Nat} {next : Unit → Activity (Outcome α)} {found : Option α}
    (finds : (next ()).FindsAt found nodes otherwise) :
    (Activity.poll polled next).FindsAt found nodes otherwise := by
  cases found <;> exact finds

theorem FindsAt.note {event : Event} {next : Unit → Activity (Outcome α)} {found : Option α}
    (finds : (next ()).FindsAt found nodes otherwise) :
    (Activity.note event next).FindsAt found nodes otherwise := by
  cases found <;> exact finds

theorem findsAt_done (answer : α) (nodes : Nat) :
    (done ⟨answer, nodes⟩ : Activity (Outcome α)).FindsAt (some answer) nodes otherwise :=
  rfl

theorem findsAt_otherwise (nodes : Nat) : (otherwise nodes).FindsAt none nodes otherwise :=
  rfl

/-- Of two searches in a row, the second counts only if the first finds nothing. -/
theorem FindsAt.orElse {second : Nat → Activity (Outcome α)} {foundFirst foundSecond : Option α}
    {between after : Nat} (first : activity.FindsAt foundFirst between second)
    (next : (second between).FindsAt foundSecond after otherwise) :
    activity.FindsAt (foundFirst.or foundSecond) (if foundFirst.isSome then between else after)
      otherwise := by
  cases foundFirst with
  | some answer => exact first
  | none =>
    cases foundSecond with
    | some answer => exact first.trans next
    | none => exact first.trans next

theorem FindsAt.complete_eq {found : Option α} {missing : α}
    (finds : activity.FindsAt found nodes fun nodes => done ⟨missing, nodes⟩) :
    activity.complete = .ok ⟨found.getD missing, nodes⟩ := by
  cases found <;> exact finds

end Activity

end SatSum
