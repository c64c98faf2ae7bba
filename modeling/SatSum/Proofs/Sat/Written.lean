import SatSum.Proofs.Text.Numerals
import SatSum.Sat.Answer

/-! # Written answers

An answer is written in rows: a status, and for a valuation its literals, eight to a row, and a zero. The
rows of literals start with a letter of their own, so they are found in a report whatever comments stand
before the answer. Cutting the literals into rows loses none and keeps their order.

* `Answer.toList_toDimacs`: the rows of an answer.
* `words_literalsIn`: the words that a report with a valuation states.
-/

namespace SatSum

open Text (IsWord IsRow Signed IsDecimal words afterSpaces)

/-! ## Literals -/

namespace Literal

/-- The variable, negative if the literal is. -/
def number (literal : Literal) : Int :=
  if literal.positive then literal.var else -literal.var

/-- The literal as it is written in an answer. -/
def written (literal : Literal) : List Char :=
  if literal.positive then (toString literal.var).toList else '-' :: (toString literal.var).toList

theorem signed_written (literal : Literal) : Signed IsDecimal literal.written literal.number := by
  rw [written, number]
  split
  · exact .plain (Text.isDecimal_toString literal.var)
  · exact .minus (Text.isDecimal_toString literal.var)

end Literal

namespace Sat

open Answer (literalLines literalsFrom pieces valueLine)

/-- The words of a row of literals. -/
def literalWords (literals : List Literal) : List (List Char) :=
  literals.map Literal.written

theorem signed_of_mem_literalWords {literals : List Literal} :
    ∀ word ∈ literalWords literals, ∃ number, Signed IsDecimal word number := by
  intro word member
  obtain ⟨literal, _, rfl⟩ := List.mem_map.1 member
  exact ⟨_, literal.signed_written⟩

theorem toList_valueLine (literals : List Literal) :
    (valueLine literals).toList = 'v' :: afterSpaces (literalWords literals) ++ ['\n'] := by
  -- A sign is written together with the space before it.
  have word (literal : Literal) :
      ((if literal.positive then " " else " -") ++ toString literal.var).toList
        = ' ' :: literal.written := by
    rw [Literal.written, String.toList_append]
    split <;> rfl
  rw [valueLine, String.toList_append, String.toList_append, String.toList_join, List.flatMap_map,
    afterSpaces, literalWords, List.flatMap_map]
  simp only [word]
  rfl

/-- Cutting a list into pieces loses nothing. -/
theorem flatten_pieces {α : Type} (size : Nat) (list : List α) : (pieces size list).flatten = list := by
  fun_induction pieces size list with
  | case1 => rfl
  | case2 a rest inductionHypothesis =>
    rw [List.flatten_cons, inductionHypothesis, List.cons_append, List.take_append_drop]

/-! ## Answers -/

/-- The words of the rows of a valuation: its literals, and a zero in a row of its own. -/
def valuationWords (valuation : Valuation) : List (List (List Char)) :=
  (literalLines valuation).map literalWords ++ [[['0']]]

theorem flatten_valuationWords (valuation : Valuation) :
    (valuationWords valuation).flatten = (literalsFrom 1 valuation).map Literal.written ++ [['0']] := by
  have joined : ((literalLines valuation).map literalWords).flatten
      = (literalLines valuation).flatten.map Literal.written :=
    List.map_flatten.symm
  rw [valuationWords, List.flatten_append, joined, literalLines, flatten_pieces]
  rfl

theorem signed_of_mem_valuationWords {valuation : Valuation} :
    ∀ row ∈ valuationWords valuation, ∀ word ∈ row, ∃ number, Signed IsDecimal word number := by
  intro row member
  rcases List.mem_append.1 member with inLiterals | isZero
  · obtain ⟨literals, _, rfl⟩ := List.mem_map.1 inLiterals
    exact signed_of_mem_literalWords
  · obtain rfl := List.mem_singleton.1 isZero
    intro word isWord
    obtain rfl := List.mem_singleton.1 isWord
    exact ⟨0, .plain (Text.isDecimal_toString 0)⟩

theorem isWord_of_mem_valuationWords {valuation : Valuation} :
    ∀ row ∈ valuationWords valuation, ∀ word ∈ row, IsWord word := by
  intro row inRows word inRow
  obtain ⟨_, signed⟩ := signed_of_mem_valuationWords row inRows word inRow
  exact Text.isWord_of_signed signed

def satisfiableRow : List Char := "s SATISFIABLE".toList

def unsatisfiableRow : List Char := "s UNSATISFIABLE".toList

namespace Answer

def rows : Answer → List (List Char)
  | unsatisfiable => [unsatisfiableRow]
  | satisfiable valuation =>
    satisfiableRow :: (valuationWords valuation).map fun row => 'v' :: afterSpaces row

theorem toList_toDimacs (answer : Answer) :
    answer.toDimacs.toList = answer.rows.flatMap (· ++ ['\n']) := by
  cases answer with
  | unsatisfiable => rfl
  | satisfiable valuation =>
    rw [toDimacs, String.toList_append, String.toList_append, String.toList_join, List.flatMap_map,
      rows, List.flatMap_cons, List.flatMap_map, valuationWords, List.flatMap_append, List.flatMap_map]
    simp only [toList_valueLine]
    rw [List.append_assoc]
    rfl

theorem isRow_of_mem_rows (answer : Answer) : ∀ row ∈ answer.rows, IsRow row := by
  have letter : IsRow ['v'] := Text.isRow_of_all rfl
  cases answer with
  | unsatisfiable =>
    rw [rows, List.forall_mem_singleton]
    exact Text.isRow_of_all rfl
  | satisfiable valuation =>
    rw [rows, List.forall_mem_cons]
    constructor
    · exact Text.isRow_of_all rfl
    · intro row member
      obtain ⟨literals, inRows, rfl⟩ := List.mem_map.1 member
      exact letter.append (Text.isRow_afterSpaces (isWord_of_mem_valuationWords literals inRows))

end Answer

/-! ## Literals in reports -/

/-- The rest of a line that starts with the letter of literals. -/
def valueText? : List Char → Option String
  | 'v' :: rest => some (String.ofList rest)
  | _ => none

/-- The literals that a report states: its lines that start with their letter, without it, joined with
    blanks. -/
def literalsIn (report : String) : String :=
  " ".intercalate ((Text.lines report).filterMap valueText?)

variable {report : String} {comments : List (List Char)} {valuation : Valuation}

theorem words_literalsIn (split : Text.lines report = comments ++ (Answer.satisfiable valuation).rows)
    (areComments : ∀ row ∈ comments, valueText? row = none) :
    words (literalsIn report).toList
      = (literalsFrom 1 valuation).map Literal.written ++ [['0']] := by
  -- Neither the comments nor the status start with the letter of literals.
  have noneBefore : comments.filterMap valueText? = [] := List.filterMap_eq_nil_iff.2 areComments
  have status : valueText? satisfiableRow = none := rfl
  have literalRows : (Text.lines report).filterMap valueText?
      = ((valuationWords valuation).map afterSpaces).map String.ofList := by
    rw [split, List.filterMap_append, noneBefore, List.nil_append, Answer.rows,
      List.filterMap_cons_none status, List.filterMap_map, ← List.filterMap_eq_map, List.filterMap_map]
    rfl
  have ofLists (rows : List (List Char)) : (rows.map String.ofList).map String.toList = rows := by
    simp
  rw [literalsIn, literalRows, String.toList_intercalate, ofLists, ← flatten_valuationWords]
  exact Text.words_intercalate_afterSpaces isWord_of_mem_valuationWords

/-- A report states that there is a model only if one is the answer. -/
theorem exists_valuation_of_mem_lines {answer : Answer}
    (split : Text.lines report = comments ++ answer.rows)
    (areComments : ∀ row ∈ comments, row ≠ satisfiableRow)
    (states : satisfiableRow ∈ Text.lines report) : ∃ valuation, answer = .satisfiable valuation := by
  rw [split, List.mem_append] at states
  have inAnswer := states.resolve_left fun inComments => areComments _ inComments rfl
  cases answer with
  | satisfiable valuation => exact ⟨valuation, rfl⟩
  | unsatisfiable =>
    rw [Answer.rows, List.mem_singleton] at inAnswer
    exact absurd inAnswer (by decide)

end Sat

end SatSum
