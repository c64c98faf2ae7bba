import Mathlib.Data.List.TakeWhile
import SatSum.Text.Line

/-! # Words and lines

Without their columns, the tokens of a line are its words: what is left between blanks where a line
is split at every blank. So words can be told from the characters alone, and a row of words set
apart by spaces has just these words. Rows are set apart by line feeds in the same way.

* `map_text_tokens`: the tokens of a line are its words.
* `first?_eq_head?_words`: a line starts with the first character of its first word.
* `words_spaced`, `lines_of_rows`: a row gives its words back, a text its rows.
-/

namespace SatSum.Text

/-! ## Words -/

/-- What is left between blanks. -/
def words (line : List Char) : List (List Char) :=
  (line.splitOnP isBlank).filter (!·.isEmpty)

/-- The first character of a line that is not blank. -/
def first? (line : List Char) : Option Char :=
  line.find? (!isBlank ·)

/-- A run of characters that are not blank. -/
structure IsWord (word : List Char) : Prop where
  nonempty : word ≠ []
  solid : ∀ c ∈ word, isBlank c = false

theorem isWord_of_all {word : List Char} (nonempty : word ≠ [])
    (solid : word.all (!isBlank ·) = true) : IsWord word :=
  ⟨nonempty, by simpa using solid⟩

theorem words_nil : words [] = [] := rfl

theorem words_cons_blank {c : Char} (blank : isBlank c = true) (line : List Char) :
    words (c :: line) = words line := by
  rw [words, List.splitOnP_cons_eq_if_modifyHead, if_pos blank]
  rfl

theorem words_singleton {word : List Char} (isWord : IsWord word) : words word = [word] := by
  rw [words, List.splitOnP_eq_singleton isWord.solid]
  simp [isWord.nonempty]

theorem words_append_blank {word : List Char} (isWord : IsWord word) {c : Char}
    (blank : isBlank c = true) (line : List Char) :
    words (word ++ c :: line) = word :: words line := by
  rw [words, List.splitOnP_append_cons_of_forall_mem isWord.solid c blank]
  simp [words, isWord.nonempty]

/-- A token is a word. -/
theorem isWord_takeWhile {c : Char} (solid : ¬ isBlank c = true) (rest : List Char) :
    IsWord (c :: rest.takeWhile (!isBlank ·)) := by
  refine ⟨List.cons_ne_nil c _, List.forall_mem_cons.2 ⟨Bool.eq_false_iff.2 solid, ?_⟩⟩
  simpa using List.all_eq_true.1 (List.all_takeWhile (p := (!isBlank ·)) (l := rest))

/-- After a token comes a blank, or the line ends. -/
theorem isBlank_of_mem_head?_dropWhile {chars : List Char} :
    ∀ c ∈ (chars.dropWhile (!isBlank ·)).head?, isBlank c = true := by
  intro c member
  have stopped := List.head?_dropWhile_not (!isBlank ·) chars
  rw [Option.mem_def] at member
  rw [member] at stopped
  simpa using stopped

theorem map_text_tokensFrom (column : Nat) (line : List Char) :
    (tokensFrom column line).map Token.text = words line := by
  fun_induction tokensFrom column line with
  | case1 => rfl
  | case2 column c rest blank inductionHypothesis =>
    rw [words_cons_blank blank, inductionHypothesis]
  | case3 column c rest solid tail inductionHypothesis =>
    have isWord : IsWord (c :: tail) := isWord_takeWhile solid rest
    have split : c :: rest = (c :: tail) ++ rest.dropWhile (!isBlank ·) := by
      rw [List.cons_append, List.takeWhile_append_dropWhile]
    rw [List.map_cons, inductionHypothesis, split]
    cases after : rest.dropWhile (!isBlank ·) with
    | nil => rw [List.append_nil, words_singleton isWord, words_nil]
    | cons next more =>
      have blank : isBlank next = true := isBlank_of_mem_head?_dropWhile next (by rw [after]; rfl)
      rw [words_append_blank isWord blank, words_cons_blank blank]

theorem map_text_tokens (line : List Char) : (tokens line).map Token.text = words line :=
  map_text_tokensFrom 1 line

theorem first?_eq_head?_words (line : List Char) : first? line = (words line).flatten.head? := by
  rw [first?, ← List.head?_filter, ← tokens_text, ← map_text_tokens, List.flatMap_def]

theorem first?_of_words {line word : List Char} {c : Char} {more : List (List Char)}
    (split : words line = (c :: word) :: more) : first? line = some c := by
  rw [first?_eq_head?_words, split]
  rfl

theorem first?_eq_head?_dropWhile (line : List Char) :
    first? line = (line.dropWhile isBlank).head? :=
  List.find?_not_eq_head?_dropWhile isBlank line

/-! ## Rows of words -/

/-- Words with a space after each but the last. -/
def spaced (before : List (List Char)) (last : List Char) : List Char :=
  before.flatMap (· ++ [' ']) ++ last

theorem words_spaced {before : List (List Char)} {last : List Char}
    (areWords : ∀ word ∈ before, IsWord word) (isWord : IsWord last) :
    words (spaced before last) = before ++ [last] := by
  induction before with
  | nil => exact words_singleton isWord
  | cons word before inductionHypothesis =>
    obtain ⟨wordFirst, wordsLater⟩ := List.forall_mem_cons.1 areWords
    rw [spaced, List.flatMap_cons, List.append_assoc, List.append_assoc, List.singleton_append,
      words_append_blank wordFirst (by decide)]
    rw [← spaced, inductionHypothesis wordsLater, List.cons_append]

/-- Words with a space before each. -/
def afterSpaces (row : List (List Char)) : List Char :=
  row.flatMap (' ' :: ·)

theorem words_afterSpaces {row : List (List Char)} (areWords : ∀ word ∈ row, IsWord word)
    {rest : List Char} (apart : ∀ c ∈ rest.head?, isBlank c = true) :
    words (afterSpaces row ++ rest) = row ++ words rest := by
  induction row with
  | nil => rfl
  | cons word row inductionHypothesis =>
    obtain ⟨isWord, areWordsLater⟩ := List.forall_mem_cons.1 areWords
    have later := inductionHypothesis areWordsLater
    rw [afterSpaces, List.flatMap_cons, List.append_assoc, List.cons_append,
      words_cons_blank (by decide), ← afterSpaces, List.cons_append, ← later]
    -- The word ends where the next one, the rest or the end of the line comes.
    cases after : afterSpaces row ++ rest with
    | nil => rw [List.append_nil, words_singleton isWord, words_nil]
    | cons c more =>
      have blank : isBlank c = true := by
        cases row with
        | nil =>
          rw [afterSpaces, List.flatMap_nil, List.nil_append] at after
          exact apart c (by rw [after]; rfl)
        | cons other row =>
          rw [afterSpaces, List.flatMap_cons, List.cons_append, List.cons_append] at after
          rw [← (List.cons.inj after).1]
          decide
      rw [words_append_blank isWord blank, words_cons_blank blank]

/-- Rows joined with spaces have the words of all rows. -/
theorem words_intercalate_afterSpaces {rows : List (List (List Char))}
    (areWords : ∀ row ∈ rows, ∀ word ∈ row, IsWord word) :
    words ([' '].intercalate (rows.map afterSpaces)) = rows.flatten := by
  induction rows with
  | nil => rfl
  | cons row rows inductionHypothesis =>
    obtain ⟨areWordsFirst, areWordsLater⟩ := List.forall_mem_cons.1 areWords
    have later := inductionHypothesis areWordsLater
    cases rows with
    | nil =>
      have alone : words (afterSpaces row ++ []) = row ++ words [] :=
        words_afterSpaces areWordsFirst nofun
      simpa [words_nil] using alone
    | cons next rows =>
      rw [List.map_cons, List.map_cons, List.intercalate_cons_cons, List.append_assoc,
        words_afterSpaces areWordsFirst (by simp; decide), List.singleton_append,
        words_cons_blank (by decide), ← List.map_cons, later]
      exact List.flatten_cons.symm

/-- What is not blank belongs to a word. -/
theorem exists_word_of_mem {line : List Char} {c : Char} (member : c ∈ line)
    (solid : isBlank c = false) : ∃ word ∈ words line, c ∈ word := by
  have kept : c ∈ line.filter (!isBlank ·) := List.mem_filter.2 ⟨member, by rw [solid]; rfl⟩
  rw [← tokens_text, List.mem_flatMap] at kept
  obtain ⟨token, inTokens, inToken⟩ := kept
  refine ⟨token.text, ?_, inToken⟩
  rw [← map_text_tokens]
  exact List.mem_map_of_mem inTokens

/-! ## Lines -/

/-- No character of the row ends a line. -/
def IsRow (row : List Char) : Prop :=
  ∀ c ∈ row, c ≠ '\n' ∧ c ≠ '\r'

theorem isRow_of_all {row : List Char} (plain : row.all (fun c => c != '\n' && c != '\r') = true) :
    IsRow row := by
  simpa [IsRow] using plain

theorem IsWord.isRow {word : List Char} (isWord : IsWord word) : IsRow word := by
  intro c member
  have solid := isWord.solid c member
  constructor
  · rintro rfl
    cases solid
  · rintro rfl
    cases solid

theorem isRow_spaced {before : List (List Char)} {last : List Char}
    (areWords : ∀ word ∈ before, IsWord word) (isWord : IsWord last) :
    IsRow (spaced before last) := by
  intro c member
  rcases List.mem_append.1 member with inBefore | inLast
  · obtain ⟨word, inWords, member⟩ := List.mem_flatMap.1 inBefore
    rcases List.mem_append.1 member with inWord | isSpace
    · exact (areWords word inWords).isRow c inWord
    · obtain rfl := List.mem_singleton.1 isSpace
      decide
  · exact isWord.isRow c inLast

theorem IsRow.append {first second : List Char} (isRow : IsRow first) (isRowLater : IsRow second) :
    IsRow (first ++ second) :=
  fun c member => (List.mem_append.1 member).elim (isRow c) (isRowLater c)

theorem isRow_afterSpaces {row : List (List Char)} (areWords : ∀ word ∈ row, IsWord word) :
    IsRow (afterSpaces row) := by
  intro c member
  obtain ⟨word, inRow, member⟩ := List.mem_flatMap.1 member
  rcases List.mem_cons.1 member with rfl | inWord
  · decide
  · exact (areWords word inRow).isRow c inWord

theorem linesFrom_row {row : List Char} (isRow : IsRow row) (current rest : List Char) :
    linesFrom current (row ++ '\n' :: rest)
      = finishLine (row.reverse ++ current) :: linesFrom [] rest := by
  induction row generalizing current with
  | nil => rfl
  | cons c row inductionHypothesis =>
    obtain ⟨notEnd, isRowLater⟩ := List.forall_mem_cons.1 isRow
    rw [List.cons_append, linesFrom, if_neg notEnd.1, inductionHypothesis isRowLater,
      List.reverse_cons, List.append_assoc, List.singleton_append]

theorem finishLine_reverse {row : List Char} (isRow : IsRow row) :
    finishLine row.reverse = row := by
  unfold finishLine
  split
  next rest backwards =>
    have member : '\r' ∈ row := by
      rw [← List.mem_reverse, backwards]
      exact List.mem_cons_self
    exact absurd rfl (isRow '\r' member).2
  next => exact List.reverse_reverse row

theorem linesFrom_rows {rows : List (List Char)} (areRows : ∀ row ∈ rows, IsRow row) :
    linesFrom [] (rows.flatMap (· ++ ['\n'])) = rows := by
  induction rows with
  | nil => rfl
  | cons row rows inductionHypothesis =>
    obtain ⟨isRow, areRowsLater⟩ := List.forall_mem_cons.1 areRows
    rw [List.flatMap_cons, List.append_assoc, List.singleton_append, linesFrom_row isRow,
      List.append_nil, finishLine_reverse isRow, inductionHypothesis areRowsLater]

/-- A text of rows, each ended by a line feed, has them as its lines. -/
theorem lines_of_rows {text : String} {rows : List (List Char)} (areRows : ∀ row ∈ rows, IsRow row)
    (written : text.toList = rows.flatMap (· ++ ['\n'])) : lines text = rows := by
  rw [lines, written, linesFrom_rows areRows]

end SatSum.Text
