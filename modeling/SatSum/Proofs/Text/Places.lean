import SatSum.Fault
import SatSum.Proofs.Activity
import SatSum.Proofs.Text.Words

/-! # Places of misreadings

Readers go through a text line by line. A fault is either seen in a line, and then it is reported before
the lines after it are looked at, or it is seen when the text has ended. Columns are counted in bytes
from one, so a report about a token points at its first byte.

* `Text.standsAt_of_mem_tokens`: where a token says that it starts, there it stands.
* `Text.LineReader`: readers of this kind, with what each has to show for a single line.
* `Text.LineReader.Careful.pinpoints`: so all that they report is at the place of the fault.
-/

namespace SatSum

/-! ## Kinds of misreadings -/

namespace Misreading

/-- The token that the message quotes. Other quotes show what was expected. -/
def token? : Misreading → Option String
  | invalidVariableCount token => some token
  | invalidClauseCount token => some token
  | unsupportedFormat token => some token
  | invalidLiteral token => some token
  | invalidElementCount token => some token
  | invalidTarget token => some token
  | invalidElement token => some token
  | duplicateCountLine => some "n"
  | duplicateTargetLine => some "t"
  | _ => none

/-- The misreading shows only when the text has ended. -/
def isFinal : Misreading → Bool
  | missingProblemLine => true
  | unterminatedClause => true
  | clauseCount _ _ => true
  | missingTargetLine => true
  | elementCount _ _ => true
  | _ => false

theorem message_of_token? {cause : Misreading} {token : String} (quoted : cause.token? = some token) :
    ∃ before after, cause.message = before ++ quoteToken token ++ after := by
  cases cause with
  | invalidVariableCount | invalidClauseCount | unsupportedFormat | invalidLiteral
  | invalidElementCount | invalidTarget | invalidElement =>
    cases quoted
    exact ⟨_, "", (String.append_empty).symm⟩
  | duplicateCountLine | duplicateTargetLine =>
    cases quoted
    exact ⟨_, _, rfl⟩
  | _ => cases quoted

theorem token?_of_isFinal {cause : Misreading} (isFinal : cause.isFinal = true) :
    cause.token? = none := by
  cases cause with
  | missingProblemLine | unterminatedClause | clauseCount | missingTargetLine | elementCount => rfl
  | _ => cases isFinal

end Misreading

namespace Text

/-! ## Places of tokens -/

/-- The word stands in the line between blanks or the ends of the line, its first byte in the column. -/
def StandsAt (line : List Char) (column : Nat) (word : List Char) : Prop :=
  ∃ before after, line = before ++ word ++ after ∧ column = 1 + byteLength before ∧ IsWord word
    ∧ (∀ c ∈ before.getLast?, isBlank c = true) ∧ ∀ c ∈ after.head?, isBlank c = true

@[simp] theorem byteLength_nil : byteLength [] = 0 := rfl

@[simp] theorem byteLength_cons (c : Char) (chars : List Char) :
    byteLength (c :: chars) = c.utf8Size + byteLength chars := rfl

@[simp] theorem byteLength_append (first second : List Char) :
    byteLength (first ++ second) = byteLength first + byteLength second := by
  induction first with
  | nil => simp
  | cons c first inductionHypothesis => simp [inductionHypothesis, Nat.add_assoc]

/-- Between `before` and `rest` a token may start or has just ended. -/
theorem standsAt_of_mem_tokensFrom {before rest : List Char} {column : Nat} {token : Token}
    (isColumn : column = 1 + byteLength before)
    (between : (∀ c ∈ before.getLast?, isBlank c = true) ∨ ∀ c ∈ rest.head?, isBlank c = true)
    (member : token ∈ tokensFrom column rest) :
    StandsAt (before ++ rest) token.column token.text := by
  fun_induction tokensFrom column rest generalizing before with
  | case1 => cases member
  | case2 column c rest blank inductionHypothesis =>
    have moved : column + c.utf8Size = 1 + byteLength (before ++ [c]) := by
      simp [isColumn, Nat.add_assoc]
    have stands := inductionHypothesis moved (.inl (by simpa using blank)) member
    rwa [List.append_assoc, List.singleton_append] at stands
  | @case3 column c rest solid tail inductionHypothesis =>
    have isWord : IsWord (c :: tail) := isWord_takeWhile solid rest
    have split : c :: rest = (c :: tail) ++ rest.dropWhile (!isBlank ·) := by
      rw [List.cons_append, List.takeWhile_append_dropWhile]
    rw [split, ← List.append_assoc]
    rcases List.mem_cons.1 member with rfl | later
    · refine ⟨before, _, rfl, isColumn, isWord, between.resolve_right fun blank => ?_,
        isBlank_of_mem_head?_dropWhile⟩
      exact solid (blank c rfl)
    · have moved : column + c.utf8Size + byteLength tail = 1 + byteLength (before ++ c :: tail) := by
        simp [isColumn, Nat.add_assoc]
      exact inductionHypothesis moved (.inr isBlank_of_mem_head?_dropWhile) later

theorem standsAt_of_mem_tokens {line : List Char} {token : Token} (member : token ∈ tokens line) :
    StandsAt line token.column token.text := by
  have atStart : 1 = 1 + byteLength [] := rfl
  exact standsAt_of_mem_tokensFrom atStart (.inl nofun) member

theorem StandsAt.column_positive {line word : List Char} {column : Nat}
    (stands : StandsAt line column word) : 1 ≤ column := by
  obtain ⟨before, _, _, rfl, _⟩ := stands
  exact Nat.le_add_right 1 _

/-- The first token stands where the blanks at the beginning of the line end. -/
theorem column_of_tokens {line : List Char} {first : Token} {more : List Token}
    (split : tokens line = first :: more) : first.column = indent line := by
  rw [tokens] at split
  rw [indent]
  generalize 1 = column at split
  fun_induction tokensFrom column line with
  | case1 => cases split
  | case2 column c rest blank inductionHypothesis =>
    rw [inductionHypothesis split, List.takeWhile_cons_of_pos blank, byteLength_cons, Nat.add_assoc]
  | case3 column c rest solid tail =>
    cases split
    rw [List.takeWhile_cons_of_neg solid]
    rfl

/-! ## Faults in lines -/

/-- The fault is seen when the line is read, and points into it. A token that the message quotes is one of
    the line. -/
def InLine (number : Nat) (line : List Char) (fault : Fault) : Prop :=
  ∃ column cause, fault = .unreadable number column cause ∧ 1 ≤ column ∧ cause.isFinal = false
    ∧ ∀ token ∈ cause.token?, StandsAt line column token.toList

theorem inLine_of_token {number : Nat} {line : List Char} {token : Token} {cause : Misreading}
    (member : token ∈ tokens line) (notFinal : cause.isFinal = false)
    (quotes : ∀ quoted ∈ cause.token?, quoted = token.written) :
    InLine number line (.unreadable number token.column cause) := by
  have stands := standsAt_of_mem_tokens member
  refine ⟨_, _, rfl, stands.column_positive, notFinal, ?_⟩
  intro quoted isQuoted
  rw [quotes quoted isQuoted, Token.written, String.toList_ofList]
  exact stands

theorem inLine_of_indent {number : Nat} {line : List Char} {cause : Misreading}
    (notFinal : cause.isFinal = false) (unquoted : cause.token? = none) :
    InLine number line (.unreadable number (indent line) cause) :=
  ⟨_, _, rfl, Nat.le_add_right 1 _, notFinal, by simp [unquoted]⟩

/-! ## Readers -/

/-- A reader that goes through lines one by one, up to one that ends the text, and then makes something
    of what it has read. It knows the number of each line. -/
structure LineReader (State α : Type) where
  stops (line : List Char) : Bool
  start : State
  step (number : Nat) (state : State) (line : List Char) : Except Fault State
  finish (last : Nat) (state : State) : Except Fault α

namespace LineReader

variable {State α : Type}

/-- Reads lines, the first of which follows line `last`. -/
def goThrough (reader : LineReader State α) (last : Nat) (state : State) :
    List (List Char) → Except Fault (State × Nat)
  | [] => .ok (state, last)
  | line :: rest =>
    if reader.stops line then .ok (state, last + 1)
    else do
      let next ← reader.step (last + 1) state line
      goThrough reader (last + 1) next rest

def read (reader : LineReader State α) (text : String) : Except Fault α := do
  let (state, last) ← reader.goThrough 0 reader.start (lines text)
  reader.finish last state

/-- What a reader has to show. A line is read or has the fault, and what is kept in the state goes on
    to hold; what is wrong in the end is reported at a line of the text. -/
structure Careful (reader : LineReader State α) (holds : Nat → State → Prop) : Prop where
  start : holds 0 reader.start
  later {last : Nat} {state : State} (held : holds last state) : holds (last + 1) state
  step {last : Nat} {state : State} (held : holds last state) (line : List Char) :
    Ends (holds (last + 1)) (InLine (last + 1) line) (reader.step (last + 1) state line)
  finish {last : Nat} {state : State} (held : holds last state) {line column : Nat}
    {cause : Misreading} (failed : reader.finish last state = .error (.unreadable line column cause)) :
    (1 ≤ line ∧ line ≤ max 1 last) ∧ 1 ≤ column ∧ cause.isFinal = true

variable {reader : LineReader State α} {holds : Nat → State → Prop}

/-- What is missing in the end is reported at the last line, or at the first one of an empty text. -/
theorem exists_lastLine (last : Nat) : 1 ≤ max last 1 ∧ max last 1 ≤ max 1 last :=
  ⟨Nat.le_max_right last 1, Nat.le_of_eq (Nat.max_comm last 1)⟩

theorem exists_cons_of_take {line : List Char} {rest other : List (List Char)} {index : Nat}
    (same : other.take (index + 1) = (line :: rest).take (index + 1)) :
    ∃ more, other = line :: more ∧ more.take index = rest.take index := by
  cases other with
  | nil => cases same
  | cons first more =>
    rw [List.take_succ_cons, List.take_succ_cons, List.cons.injEq] at same
    obtain ⟨rfl, sameMore⟩ := same
    exact ⟨more, rfl, sameMore⟩

/-- Lines after the one with the fault are not looked at. -/
theorem Careful.goThrough (careful : reader.Careful holds) {last : Nat} {state : State}
    (held : holds last state) (lines : List (List Char)) :
    Ends (fun result => holds result.2 result.1 ∧ result.2 ≤ last + lines.length)
      (fun fault => ∃ index line, lines[index]? = some line ∧ InLine (last + index + 1) line fault
        ∧ ∀ other : List (List Char), other.take (index + 1) = lines.take (index + 1) →
          reader.goThrough last state other = .error fault)
      (reader.goThrough last state lines) := by
  induction lines generalizing last state with
  | nil => exact ⟨held, Nat.le_refl last⟩
  | cons line rest inductionHypothesis =>
    rw [LineReader.goThrough]
    by_cases stops : reader.stops line = true
    · rw [if_pos stops]
      exact ⟨careful.later held, by simp⟩
    · rw [if_neg stops]
      have ends := careful.step held line
      cases stepped : reader.step (last + 1) state line with
      | error fault =>
        rw [stepped] at ends
        refine ⟨0, line, rfl, ends, ?_⟩
        intro other same
        obtain ⟨more, rfl, _⟩ := exists_cons_of_take same
        rw [LineReader.goThrough, if_neg stops, stepped]
        rfl
      | ok next =>
        rw [stepped] at ends
        have later := inductionHypothesis ends
        rw [ok_bind]
        cases read : reader.goThrough (last + 1) next rest with
        | ok result =>
          rw [read] at later
          exact ⟨later.1, by have := later.2; rw [List.length_cons]; omega⟩
        | error fault =>
          rw [read] at later
          obtain ⟨index, written, atIndex, inLine, determined⟩ := later
          refine ⟨index + 1, written, atIndex, ?_, ?_⟩
          · rwa [← Nat.add_assoc, Nat.add_right_comm last index 1]
          · intro other same
            obtain ⟨more, rfl, sameMore⟩ := exists_cons_of_take same
            rw [LineReader.goThrough, if_neg stops, stepped, ok_bind]
            exact determined more sameMore

end LineReader

/-! ## Reports -/

/-- A report of `read` about the text: it names a line of the text and a column, a token that it quotes
    stands there, and unless the fault shows only in the end, whatever follows the line does not matter. -/
structure Pinpoints {α : Type} (read : String → Except Fault α) (text : String) (line column : Nat)
    (cause : Misreading) : Prop where
  line_exists : 1 ≤ line ∧ line ≤ max 1 (lines text).length
  column_positive : 1 ≤ column
  quotes : ∀ token ∈ cause.token?,
    (∃ before after, cause.message = before ++ quoteToken token ++ after)
      ∧ ∃ written ∈ (lines text)[line - 1]?, StandsAt written column token.toList
  determined : cause.isFinal = false →
    ∀ other : String, (lines other).take line = (lines text).take line →
      read other = .error (.unreadable line column cause)

theorem LineReader.Careful.pinpoints {State α : Type} {reader : LineReader State α}
    {holds : Nat → State → Prop} (careful : reader.Careful holds) {text : String} {line column : Nat}
    {cause : Misreading} (failed : reader.read text = .error (.unreadable line column cause)) :
    Pinpoints reader.read text line column cause := by
  have ends := careful.goThrough careful.start (lines text)
  rw [read] at failed
  cases gone : reader.goThrough 0 reader.start (lines text) with
  | ok result =>
    -- The whole text has been read, so the report is one of the end and quotes nothing.
    rw [gone] at ends failed
    obtain ⟨⟨positive, inText⟩, columnPositive, isFinal⟩ := careful.finish ends.1 failed
    have few := ends.2
    refine ⟨⟨positive, by omega⟩, columnPositive, ?_, ?_⟩
    · intro token quoted
      rw [Misreading.token?_of_isFinal isFinal] at quoted
      cases quoted
    · intro notFinal
      rw [isFinal] at notFinal
      cases notFinal
  | error fault =>
    rw [gone] at ends failed
    cases failed
    obtain ⟨index, written, atIndex, ⟨_, _, same, columnPositive, notFinal, stands⟩, determined⟩ := ends
    cases same
    obtain ⟨inRange, _⟩ := List.getElem?_eq_some_iff.1 atIndex
    refine ⟨⟨Nat.le_add_left 1 _, by omega⟩, columnPositive, ?_, ?_⟩
    · intro token quoted
      refine ⟨Misreading.message_of_token? quoted, written, ?_, stands token quoted⟩
      rwa [Nat.add_sub_cancel, Nat.zero_add]
    · intro _ other same
      rw [Nat.zero_add] at same
      rw [read, determined _ same]
      rfl

end Text

end SatSum
