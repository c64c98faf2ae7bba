import SatSum.Formula.Dimacs
import SatSum.Proofs.SubsetSum.Validation
import SatSum.Proofs.Text.Places
import SatSum.SubsetSum.Text

/-! # Misreadings of formulas and instances

Formulas and instances are read line by line. So a report about a text points at its first fault, and
unless something is missing when the text ends, it depends on nothing after the line of the fault.

* `Dimacs.careful_reader`, `SubsetSum.careful_reader`: what the two readers have to show.
* `misreadings_pinpoint`: what their reports say.
-/

namespace SatSum

open Text (InLine LineReader Pinpoints)

/-- What validation refuses is malformed, whatever the text is like. -/
def Fault.IsMalformed (fault : Fault) : Prop :=
  ∃ cause, fault = .malformed cause

theorem Formula.ends_validate (formula : Formula) :
    Ends (fun _ => True) Fault.IsMalformed formula.validate := by
  rw [validate]
  split
  · exact ⟨_, rfl⟩
  · split
    · exact ⟨_, rfl⟩
    · trivial

theorem SubsetSum.Instance.ends_validate (problem : Instance) :
    Ends (fun _ => True) Fault.IsMalformed problem.validate := by
  rcases problem.validate_cases with ⟨accepted, _⟩ | ⟨cause, refused, _⟩
  · rw [accepted]
    trivial
  · rw [refused]
    exact ⟨cause, rfl⟩

/-- A misreading is not found by validating what has been read. -/
theorem unreadable_of_validated {α : Type} {read : Except Fault α} {validate : α → Except Fault Unit}
    (validates : ∀ result, Ends (fun _ => True) Fault.IsMalformed (validate result))
    {line column : Nat} {cause : Misreading}
    (failed : (read >>= fun result => validate result >>= fun _ => .ok result)
      = .error (.unreadable line column cause)) :
    read = .error (.unreadable line column cause) := by
  cases read with
  | error fault => exact failed
  | ok result =>
    have ends := validates result
    rw [ok_bind] at failed
    cases validated : validate result with
    | ok =>
      rw [validated] at failed
      cases failed
    | error fault =>
      rw [validated] at ends failed
      obtain ⟨malformed, rfl⟩ := ends
      cases failed

/-! ## Formulas -/

namespace Dimacs

def reader : LineReader Reading Formula where
  stops line := LineKind.ofLine line = .final
  start := .start
  step number reading line := reading.addLine number line
  finish last reading := do
    let formula ← reading.finish last
    formula.validate
    return formula

theorem goThrough_reader (last : Nat) (reading : Reading) (lines : List (List Char)) :
    reader.goThrough last reading lines = readLines last reading lines := by
  induction lines generalizing last reading with
  | nil => rfl
  | cons line rest inductionHypothesis =>
    rw [LineReader.goThrough, readLines]
    simp only [reader, decide_eq_true_eq] at inductionHypothesis ⊢
    simp only [inductionHypothesis]

theorem read_reader : reader.read = Formula.ofDimacs := by
  funext text
  rw [LineReader.read, Formula.ofDimacs, goThrough_reader]
  rfl

theorem ends_readHeader (number : Nat) (line : List Char) :
    Ends (fun _ => True) (InLine number line) (readHeader number line) := by
  rw [readHeader]
  split
  next _ _ first second split =>
    have inTokens : first ∈ Text.tokens line ∧ second ∈ Text.tokens line := by simp [split]
    split
    · exact Text.inLine_of_token inTokens.1 rfl (by simp [Misreading.token?])
    · split
      · exact Text.inLine_of_token inTokens.2 rfl (by simp [Misreading.token?])
      · trivial
  next _ format more _ split =>
    have inTokens : format ∈ Text.tokens line := by simp [split]
    split
    · exact Text.inLine_of_indent rfl rfl
    · exact Text.inLine_of_token inTokens rfl (by simp [Misreading.token?])
  next => exact Text.inLine_of_indent rfl rfl

/-- The first literal of the open clause stands in a line that has been read. -/
def Reading.OpenedWithin (last : Nat) (reading : Reading) : Prop :=
  reading.literals ≠ [] →
    (1 ≤ reading.openedAt.1 ∧ reading.openedAt.1 ≤ last) ∧ 1 ≤ reading.openedAt.2

theorem Reading.OpenedWithin.succ {last : Nat} {reading : Reading}
    (opened : reading.OpenedWithin last) : reading.OpenedWithin (last + 1) := by
  intro someLiteral
  obtain ⟨⟨positive, inText⟩, columnPositive⟩ := opened someLiteral
  exact ⟨⟨positive, Nat.le_succ_of_le inText⟩, columnPositive⟩

theorem ends_addToken {last numVariables : Nat} {line : List Char} {reading : Reading}
    (opened : reading.OpenedWithin (last + 1)) {token : Text.Token} (member : token ∈ Text.tokens line) :
    Ends (Reading.OpenedWithin (last + 1)) (InLine (last + 1) line)
      (reading.addToken numVariables (last + 1) token) := by
  rw [Reading.addToken]
  split
  · exact Text.inLine_of_token member rfl (by simp [Misreading.token?])
  · split
    · exact fun someLiteral => absurd rfl someLiteral
    · split
      · exact Text.inLine_of_token member rfl (by simp [Misreading.token?])
      · intro _
        dsimp only
        split
        · exact ⟨⟨Nat.le_add_left 1 last, Nat.le_refl _⟩,
            (Text.standsAt_of_mem_tokens member).column_positive⟩
        next someLiteral => exact opened (by simpa using someLiteral)

theorem careful_reader : reader.Careful Reading.OpenedWithin where
  start := fun someLiteral => absurd rfl someLiteral
  later := Reading.OpenedWithin.succ
  step := by
    intro last reading opened line
    have stillOpened := opened.succ
    show Ends _ _ (reading.addLine (last + 1) line)
    rw [Reading.addLine]
    split
    · exact Text.inLine_of_indent rfl rfl
    · exact (ends_readHeader (last + 1) line).bind fun header _ => stillOpened
    · exact Text.inLine_of_indent rfl rfl
    · exact Ends.foldlM stillOpened fun opened token member => ends_addToken opened member
    · exact stillOpened
  finish := by
    intro last reading opened line column cause failed
    have failed := unreadable_of_validated Formula.ends_validate failed
    rw [Reading.finish] at failed
    split at failed
    · cases failed
      exact ⟨LineReader.exists_lastLine last, Nat.le_refl 1, rfl⟩
    · split at failed
      next someLiteral =>
        -- A clause without its zero is reported where it was opened.
        cases failed
        have opened := opened (by simpa using someLiteral)
        exact ⟨⟨opened.1.1, Nat.le_trans opened.1.2 (Nat.le_max_right 1 last)⟩, opened.2, rfl⟩
      next =>
        split at failed
        · cases failed
          exact ⟨LineReader.exists_lastLine last, Nat.le_refl 1, rfl⟩
        · cases failed

end Dimacs

/-! ## Instances -/

namespace SubsetSum

def reader : LineReader Reading Instance where
  stops _ := false
  start := .start
  step number reading line := reading.addLine number line
  finish last reading := do
    let problem ← reading.finish last
    problem.validate
    return problem

theorem goThrough_reader (last : Nat) (reading : Reading) (lines : List (List Char)) :
    reader.goThrough last reading lines = readLines last reading lines := by
  induction lines generalizing last reading with
  | nil => rfl
  | cons line rest inductionHypothesis =>
    rw [LineReader.goThrough, readLines]
    simp only [reader, Bool.false_eq_true, if_false] at inductionHypothesis ⊢
    simp only [inductionHypothesis]

theorem read_reader : reader.read = Instance.ofText := by
  funext text
  rw [LineReader.read, Instance.ofText, goThrough_reader]
  rfl

/-- The line that declares the number of elements has been read. -/
def Reading.DeclaredWithin (last : Nat) (reading : Reading) : Prop :=
  ∀ declared ∈ reading.declared, 1 ≤ declared.2 ∧ declared.2 ≤ last

theorem Reading.DeclaredWithin.succ {last : Nat} {reading : Reading}
    (within : reading.DeclaredWithin last) : reading.DeclaredWithin (last + 1) :=
  fun declared isDeclared =>
    ⟨(within declared isDeclared).1, Nat.le_succ_of_le (within declared isDeclared).2⟩

section Lines

variable {last : Nat} {line : List Char} {reading : Reading}
  (within : reading.DeclaredWithin (last + 1))

include within

theorem ends_addElement {token : Text.Token} (member : token ∈ Text.tokens line) :
    Ends (Reading.DeclaredWithin (last + 1)) (InLine (last + 1) line)
      (reading.addElement (last + 1) token) := by
  rw [Reading.addElement]
  split
  · exact Text.inLine_of_token member rfl (by simp [Misreading.token?])
  · exact within

omit within in
theorem ends_addCount {key value : Text.Token} (split : Text.tokens line = [key, value])
    (isKey : key.text = ['n']) :
    Ends (Reading.DeclaredWithin (last + 1)) (InLine (last + 1) line)
      (reading.addCount (last + 1) line value) := by
  have inTokens : key ∈ Text.tokens line ∧ value ∈ Text.tokens line := by simp [split]
  rw [Reading.addCount]
  split
  · -- The second line is refused at its key, which is the first token.
    rw [← Text.column_of_tokens split]
    exact Text.inLine_of_token inTokens.1 rfl (by simp [Misreading.token?, Text.Token.written, isKey])
  · split
    · exact Text.inLine_of_token inTokens.2 rfl (by simp [Misreading.token?])
    · rintro declared ⟨⟩
      exact ⟨Nat.le_add_left 1 last, Nat.le_refl _⟩

theorem ends_addTarget {key value : Text.Token} (split : Text.tokens line = [key, value])
    (isKey : key.text = ['t']) :
    Ends (Reading.DeclaredWithin (last + 1)) (InLine (last + 1) line)
      (reading.addTarget (last + 1) line value) := by
  have inTokens : key ∈ Text.tokens line ∧ value ∈ Text.tokens line := by simp [split]
  rw [Reading.addTarget]
  split
  · rw [← Text.column_of_tokens split]
    exact Text.inLine_of_token inTokens.1 rfl (by simp [Misreading.token?, Text.Token.written, isKey])
  · split
    · exact Text.inLine_of_token inTokens.2 rfl (by simp [Misreading.token?])
    · exact within

theorem ends_addLine :
    Ends (Reading.DeclaredWithin (last + 1)) (InLine (last + 1) line)
      (reading.addLine (last + 1) line) := by
  rw [Reading.addLine]
  split
  · exact within
  · split
    next _ value split => exact ends_addCount split rfl
    next _ value split => exact ends_addTarget within split rfl
    next column more _ split =>
      have member : (⟨column, ['n']⟩ : Text.Token) ∈ Text.tokens line := by simp [split]
      exact Text.inLine_of_token member rfl (by simp [Misreading.token?])
    next column more _ split =>
      have member : (⟨column, ['t']⟩ : Text.Token) ∈ Text.tokens line := by simp [split]
      exact Text.inLine_of_token member rfl (by simp [Misreading.token?])
    next => exact Ends.foldlM within fun within token member => ends_addElement within member

end Lines

theorem careful_reader : reader.Careful Reading.DeclaredWithin where
  start := nofun
  later := Reading.DeclaredWithin.succ
  step := fun within _ => ends_addLine within.succ
  finish := by
    intro last reading within line column cause failed
    have failed := unreadable_of_validated Instance.ends_validate failed
    rw [Reading.finish] at failed
    split at failed
    · cases failed
      exact ⟨LineReader.exists_lastLine last, Nat.le_refl 1, rfl⟩
    · dsimp only at failed
      split at failed
      · cases failed
      next count number declared =>
        -- A wrong number of elements is reported at the line that declares it.
        obtain ⟨positive, inText⟩ := within (count, number) declared
        split at failed
        · cases failed
          exact ⟨⟨positive, Nat.le_trans inText (Nat.le_max_right 1 last)⟩, Nat.le_refl 1, rfl⟩
        · cases failed

end SubsetSum

/-! ## Both -/

/-- Every misreading of a formula or an instance is reported at a line of the text and a column, a token
    that the message quotes stands there, and unless the fault shows only in the end, every text with the
    same lines up to that one has the same report. -/
theorem misreadings_pinpoint (text : String) (line column : Nat) (cause : Misreading) :
    (Formula.ofDimacs text = .error (.unreadable line column cause) →
      Pinpoints Formula.ofDimacs text line column cause)
      ∧ (SubsetSum.Instance.ofText text = .error (.unreadable line column cause) →
        Pinpoints SubsetSum.Instance.ofText text line column cause) := by
  rw [← Dimacs.read_reader, ← SubsetSum.read_reader]
  exact ⟨Dimacs.careful_reader.pinpoints, SubsetSum.careful_reader.pinpoints⟩

/-- A word after a blank of two bytes, whatever comes after its line; and a second count line. -/
theorem misreadings_pinpoint_word_and_count :
    Pinpoints Formula.ofDimacs "p cnf 2 1\n\u00a01 x 0\n" 2 5 (.invalidLiteral "x")
      ∧ Formula.ofDimacs "p cnf 2 1\n\u00a01 x 0\n-2 0" = .error (.unreadable 2 5 (.invalidLiteral "x"))
      ∧ Pinpoints SubsetSum.Instance.ofText "n 1\n5\n n 2\n" 3 2 .duplicateCountLine := by
  have pinpoints :=
    (misreadings_pinpoint "p cnf 2 1\n\u00a01 x 0\n" 2 5 (.invalidLiteral "x")).1 (by decide +kernel)
  refine ⟨pinpoints, pinpoints.determined rfl _ (by decide +kernel), ?_⟩
  exact (misreadings_pinpoint "n 1\n5\n n 2\n" 3 2 .duplicateCountLine).2 (by decide +kernel)

end SatSum
