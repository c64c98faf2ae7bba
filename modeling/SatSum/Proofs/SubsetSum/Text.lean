import SatSum.Proofs.SubsetSum.Validation
import SatSum.Proofs.Text.Numerals
import SatSum.Proofs.Text.Reading
import SatSum.SubsetSum.Text

/-! # The grammar of Subset-Sum texts

Of a text only the lines count that are neither blank nor comments. As rows of words they are told
apart by their first word: rows with the key `t` or `n` declare the target and the number of
elements, wherever they stand, and all words of all other rows are elements.

A row that is refused spoils every text it stands in, whatever follows. So the reader may stop at
the first one, and has taken what `Holds` of the rows before it.

* `StandFor.unique`: rows stand for at most one instance.
* `reads_readText`: what the reader takes, before the instance is validated.
* `ofText_exact`: reading undoes writing, and accepts exactly the grammar.
-/

namespace SatSum.SubsetSum

open Text (IsWord spaced first? words SpellsCount SpellsInteger Reads reads_misreading)

/-! ## Grammar -/

/-- The lines that count. -/
def significant (lines : List (List Char)) : List (List Char) :=
  lines.filter fun line => first? line ≠ none ∧ first? line ≠ some '#'

/-- A line as its words. -/
abbrev Row := List (List Char)

def HasKey (key : Char) (row : Row) : Prop :=
  row.head? = some [key]

instance (key : Char) : DecidablePred (HasKey key) :=
  fun row => inferInstanceAs (Decidable (row.head? = some [key]))

theorem hasKey_cons (key : Char) (more : List (List Char)) : HasKey key ([key] :: more) := rfl

def keyed (key : Char) (rows : List Row) : List Row :=
  rows.filter (HasKey key ·)

/-- The words of the rows without a key. -/
def elementWords (rows : List Row) : List (List Char) :=
  (rows.filter fun row => ¬ HasKey 'n' row ∧ ¬ HasKey 't' row).flatten

/-- No row with the key declares nothing; a single one declares the value that is spelled by its
    only other word. -/
inductive Declares {α : Type} (key : Char) (spells : List Char → α → Prop) (rows : List Row) :
    Option α → Prop
  | nothing (absent : keyed key rows = []) : Declares key spells rows none
  | value {word : List Char} {value : α} (only : keyed key rows = [[[key], word]])
      (spelled : spells word value) : Declares key spells rows (some value)

/-- The rows declare the target and, if anything, the number of the elements. -/
structure StandFor (rows : List Row) (problem : Instance) : Prop where
  target : Declares 't' SpellsInteger rows (some problem.target)
  count : ∃ declared, Declares 'n' SpellsCount rows declared
    ∧ ∀ count ∈ declared, count = problem.numbers.length
  elements : List.Forall₂ SpellsInteger (elementWords rows) problem.numbers

def Spells (text : String) (problem : Instance) : Prop :=
  StandFor ((significant (Text.lines text)).map words) problem

/-! ## Rows by their key -/

section Keys

variable {key : Char} {row : Row}

theorem keyed_append (rows more : List Row) :
    keyed key (rows ++ more) = keyed key rows ++ keyed key more :=
  List.filter_append rows more

theorem keyed_cons_of_hasKey (hasKey : HasKey key row) (rows : List Row) :
    keyed key (row :: rows) = row :: keyed key rows :=
  List.filter_cons_of_pos (decide_eq_true hasKey)

theorem keyed_cons_of_noKey (noKey : ¬ HasKey key row) (rows : List Row) :
    keyed key (row :: rows) = keyed key rows :=
  List.filter_cons_of_neg (by simpa using noKey)

theorem elementWords_append (rows more : List Row) :
    elementWords (rows ++ more) = elementWords rows ++ elementWords more := by
  rw [elementWords, List.filter_append, List.flatten_append, ← elementWords, ← elementWords]

theorem elementWords_cons_of_hasKey (hasKey : HasKey 'n' row ∨ HasKey 't' row) (rows : List Row) :
    elementWords (row :: rows) = elementWords rows := by
  rw [elementWords, List.filter_cons_of_neg, ← elementWords]
  rw [decide_eq_true_iff, ← not_or, not_not]
  exact hasKey

theorem elementWords_cons (noCount : ¬ HasKey 'n' row) (noTarget : ¬ HasKey 't' row)
    (rows : List Row) : elementWords (row :: rows) = row ++ elementWords rows := by
  rw [elementWords, List.filter_cons_of_pos (by simpa using And.intro noCount noTarget),
    List.flatten_cons, ← elementWords]

theorem elementWords_snoc_of_hasKey (hasKey : HasKey 'n' row ∨ HasKey 't' row) (rows : List Row) :
    elementWords (rows ++ [row]) = elementWords rows := by
  rw [elementWords_append, elementWords_cons_of_hasKey hasKey]
  exact List.append_nil _

theorem elementWords_snoc (noCount : ¬ HasKey 'n' row) (noTarget : ¬ HasKey 't' row)
    (rows : List Row) : elementWords (rows ++ [row]) = elementWords rows ++ row := by
  rw [elementWords_append, elementWords_cons noCount noTarget]
  exact congrArg _ (List.append_nil row)

end Keys

/-! ## Declarations -/

namespace Declares

variable {α : Type} {key : Char} {spells : List Char → α → Prop} {rows later : List Row} {row : Row}
  {declared : Option α}

theorem skip (declares : Declares key spells rows declared) (noKey : ¬ HasKey key row) :
    Declares key spells (rows ++ [row]) declared := by
  have same : keyed key (rows ++ [row]) = keyed key rows := by
    rw [keyed_append, keyed_cons_of_noKey noKey]
    exact List.append_nil _
  cases declares with
  | nothing absent => exact .nothing (same.trans absent)
  | value only spelled => exact .value (same.trans only) spelled

theorem declare (declares : Declares key spells rows none) {word : List Char} {value : α}
    (spelled : spells word value) : Declares key spells (rows ++ [[[key], word]]) (some value) := by
  cases declares with
  | nothing absent =>
    refine .value ?_ spelled
    rw [keyed_append, absent, keyed_cons_of_hasKey (hasKey_cons key [word])]
    rfl

/-- A row with the key is the only one, and declares a value. -/
theorem of_append (declares : Declares key spells (rows ++ [row] ++ later) declared)
    (hasKey : HasKey key row) :
    keyed key rows = [] ∧ ∃ word value, row = [[key], word] ∧ spells word value := by
  have split : keyed key (rows ++ [row] ++ later) = keyed key rows ++ row :: keyed key later := by
    rw [List.append_assoc, List.singleton_append, keyed_append, keyed_cons_of_hasKey hasKey]
  cases declares with
  | nothing absent =>
    rw [split] at absent
    cases (List.append_eq_nil_iff.1 absent).2
  | value only spelled =>
    rw [split] at only
    rcases List.append_eq_singleton_iff.1 only with ⟨absent, same⟩ | ⟨_, same⟩
    · exact ⟨absent, _, _, (List.cons.inj same).1, spelled⟩
    · cases same

theorem unique (rightUnique : Relator.RightUnique spells) {other : Option α}
    (declares : Declares key spells rows declared)
    (declaresOther : Declares key spells rows other) : declared = other := by
  cases declares with
  | nothing absent =>
    cases declaresOther with
    | nothing => rfl
    | value only =>
      rw [absent] at only
      cases only
  | value only spelled =>
    cases declaresOther with
    | nothing absent =>
      rw [absent] at only
      cases only
    | value otherOnly otherSpelled =>
      rw [otherOnly] at only
      cases only
      rw [rightUnique spelled otherSpelled]

end Declares

theorem StandFor.unique {rows : List Row} {problem other : Instance} (left : StandFor rows problem)
    (right : StandFor rows other) : problem = other := by
  obtain ⟨numbers, target⟩ := problem
  have sameTarget := Option.some.inj (left.target.unique Text.rightUnique_spellsInteger right.target)
  have sameNumbers :=
    List.right_unique_forall₂' Text.rightUnique_spellsInteger left.elements right.elements
  simp only at sameTarget sameNumbers
  rw [sameTarget, sameNumbers]

/-! ## Lines -/

theorem isSkipped_iff {line : List Char} :
    isSkipped line = true ↔ first? line = none ∨ first? line = some '#' := by
  rw [Text.first?_eq_head?_dropWhile, isSkipped]
  split
  next blank => simp [blank]
  next c rest split => simp [split]

theorem significant_eq (lines : List (List Char)) :
    significant lines = lines.filter (!isSkipped ·) := by
  apply List.filter_congr
  intro line _
  rw [Bool.eq_iff_iff, decide_eq_true_iff, ← not_or, ← isSkipped_iff]
  simp

/-- Whatever follows, the rows stand for no instance. -/
def Refused (rows : List Row) : Prop :=
  ∀ later problem, ¬ StandFor (rows ++ later) problem

theorem Refused.append {rows : List Row} (refused : Refused rows) (more : List Row) :
    Refused (rows ++ more) := by
  intro later problem
  rw [List.append_assoc]
  exact refused (more ++ later) problem

/-- What has been read are these rows. -/
structure Reading.Holds (reading : Reading) (rows : List Row) : Prop where
  target : Declares 't' SpellsInteger rows reading.target
  count : Declares 'n' SpellsCount rows (reading.declared.map Prod.fst)
  elements : List.Forall₂ SpellsInteger (elementWords rows) reading.elements.reverse

section Lines

variable {reading : Reading} {rows : List Row}

/-- In rows that stand for an instance, rows with the key declare something or are missing. -/
def Governs {α : Type} (key : Char) (spells : List Char → α → Prop) : Prop :=
  ∀ {rows : List Row} {problem : Instance}, StandFor rows problem →
    ∃ declared, Declares key spells rows declared

theorem governs_count : Governs 'n' SpellsCount := by
  intro rows problem standFor
  obtain ⟨declared, declares, _⟩ := standFor.count
  exact ⟨declared, declares⟩

theorem governs_target : Governs 't' SpellsInteger :=
  fun standFor => ⟨_, standFor.target⟩

namespace Governs

variable {α : Type} {key : Char} {spells : List Char → α → Prop} (governs : Governs key spells)
  {row : Row}

include governs

theorem refused_again (hasKey : HasKey key row) {value : α}
    (declares : Declares key spells rows (some value)) : Refused (rows ++ [row]) := by
  intro later problem standFor
  obtain ⟨declared, declaresAll⟩ := governs standFor
  have absent := (declaresAll.of_append hasKey).1
  cases declares with
  | value only _ =>
    rw [only] at absent
    cases absent

theorem refused_improper (hasKey : HasKey key row)
    (improper : ∀ word value, row = [[key], word] → ¬ spells word value) :
    Refused (rows ++ [row]) := by
  intro later problem standFor
  obtain ⟨declared, declares⟩ := governs standFor
  obtain ⟨_, word, value, shape, spelled⟩ := declares.of_append hasKey
  exact improper word value shape spelled

end Governs

theorem refused_of_elements {row : Row} (noCount : ¬ HasKey 'n' row) (noTarget : ¬ HasKey 't' row)
    (improper : ∀ numbers, ¬ List.Forall₂ SpellsInteger row numbers) : Refused (rows ++ [row]) := by
  intro later problem standFor
  have spelled := standFor.elements
  rw [List.append_assoc, elementWords_append, List.singleton_append,
    elementWords_cons noCount noTarget] at spelled
  obtain ⟨_, _, _, _, spelledLater⟩ := Text.forall₂_append_iff.1 spelled
  obtain ⟨numbers, _, _, spelledRow, _⟩ := Text.forall₂_append_iff.1 spelledLater
  exact improper numbers spelledRow

theorem reads_addCount (holds : reading.Holds rows) (number : Nat) (line : List Char)
    (value : Text.Token) :
    Reads (reading.addCount number line value) (·.Holds (rows ++ [[['n'], value.text]]))
      (Refused (rows ++ [[['n'], value.text]])) := by
  obtain ⟨target, count, elements⟩ := holds
  unfold Reading.addCount
  split
  next duplicate =>
    apply reads_misreading
    obtain ⟨earlier, found⟩ := Option.isSome_iff_exists.1 duplicate
    rw [found] at count
    exact governs_count.refused_again (hasKey_cons _ _) count
  next fresh =>
    rw [Bool.not_eq_true, Option.isSome_eq_false_iff, Option.isNone_iff_eq_none] at fresh
    rw [fresh, Option.map_none] at count
    split
    next unreadable =>
      apply reads_misreading
      refine governs_count.refused_improper (hasKey_cons _ _) ?_
      rintro _ _ ⟨⟩ spelled
      exact Text.count?_eq_none_iff.1 unreadable _ spelled
    next found readable =>
      refine ⟨target.skip (by simp [HasKey]), count.declare ?_, ?_⟩
      · exact Text.count?_eq_some_iff.1 readable
      · rwa [elementWords_snoc_of_hasKey (Or.inl (hasKey_cons _ _))]

theorem reads_addTarget (holds : reading.Holds rows) (number : Nat) (line : List Char)
    (value : Text.Token) :
    Reads (reading.addTarget number line value) (·.Holds (rows ++ [[['t'], value.text]]))
      (Refused (rows ++ [[['t'], value.text]])) := by
  obtain ⟨target, count, elements⟩ := holds
  unfold Reading.addTarget
  split
  next duplicate =>
    apply reads_misreading
    obtain ⟨earlier, found⟩ := Option.isSome_iff_exists.1 duplicate
    rw [found] at target
    exact governs_target.refused_again (hasKey_cons _ _) target
  next fresh =>
    rw [Bool.not_eq_true, Option.isSome_eq_false_iff, Option.isNone_iff_eq_none] at fresh
    rw [fresh] at target
    split
    next unreadable =>
      apply reads_misreading
      refine governs_target.refused_improper (hasKey_cons _ _) ?_
      rintro _ _ ⟨⟩ spelled
      exact Text.integer?_eq_none_iff.1 unreadable _ spelled
    next found readable =>
      refine ⟨target.declare ?_, count.skip (by simp [HasKey]), ?_⟩
      · exact Text.integer?_eq_some_iff.1 readable
      · rwa [elementWords_snoc_of_hasKey (Or.inr (hasKey_cons _ _))]

/-- What has been read are these elements after what was there before. -/
def Reading.Added (before reading : Reading) (elements : List Int) : Prop :=
  reading = { before with elements := elements.reverse ++ before.elements }

theorem reads_addElement {before : Reading} {elements : List Int}
    (added : before.Added reading elements) (number : Nat) (token : Text.Token) :
    Reads (reading.addElement number token)
      (fun next => ∃ value, SpellsInteger token.text value
        ∧ before.Added next (elements ++ [value]))
      (∀ value, ¬ SpellsInteger token.text value) := by
  unfold Reading.addElement
  split
  next unreadable =>
    exact reads_misreading _ _ _ (Text.integer?_eq_none_iff.1 unreadable)
  next value readable =>
    refine ⟨value, Text.integer?_eq_some_iff.1 readable, ?_⟩
    rw [added, Reading.Added]
    simp

theorem reads_addElements (holds : reading.Holds rows) (number : Nat) {line : List Char}
    (noCount : ¬ HasKey 'n' (words line)) (noTarget : ¬ HasKey 't' (words line)) :
    Reads ((Text.tokens line).foldlM (Reading.addElement number) reading)
      (·.Holds (rows ++ [words line])) (Refused (rows ++ [words line])) := by
  have start : reading.Added reading [] := rfl
  have readsTokens := Text.reads_foldlM start (fun added => reads_addElement added number)
    (Text.tokens line)
  rw [Text.map_text_tokens] at readsTokens
  refine readsTokens.imp ?_ (refused_of_elements noCount noTarget)
  rintro next ⟨more, spelled, rfl⟩
  refine ⟨holds.target.skip noTarget, holds.count.skip noCount, ?_⟩
  rw [elementWords_snoc noCount noTarget, List.nil_append, List.reverse_append,
    List.reverse_reverse]
  exact List.rel_append holds.elements spelled

theorem exists_token_of_hasKey {key : Char} {line : List Char} (hasKey : HasKey key (words line)) :
    ∃ column rest, Text.tokens line = ⟨column, [key]⟩ :: rest := by
  rw [← Text.map_text_tokens, HasKey] at hasKey
  match found : Text.tokens line, hasKey with
  | ⟨column, _⟩ :: rest, hasKey =>
    cases hasKey
    exact ⟨column, rest, rfl⟩

theorem reads_addLine (holds : reading.Holds rows) (number : Nat) {line : List Char}
    (counts : ¬ isSkipped line = true) :
    Reads (reading.addLine number line) (·.Holds (rows ++ [words line]))
      (Refused (rows ++ [words line])) := by
  have sameWords := Text.map_text_tokens line
  rw [Reading.addLine, if_neg counts]
  split
  next column value found =>
    rw [found] at sameWords
    rw [← sameWords]
    exact reads_addCount holds number line value
  next column value found =>
    rw [found] at sameWords
    rw [← sameWords]
    exact reads_addTarget holds number line value
  next column rest notSingle found =>
    rw [found] at sameWords
    rw [← sameWords]
    apply reads_misreading
    refine governs_count.refused_improper (hasKey_cons _ _) ?_
    intro word count shape _
    obtain ⟨value, single, _⟩ := List.map_eq_singleton_iff.1 (List.cons.inj shape).2
    exact notSingle value single
  next column rest notSingle found =>
    rw [found] at sameWords
    rw [← sameWords]
    apply reads_misreading
    refine governs_target.refused_improper (hasKey_cons _ _) ?_
    intro word target shape _
    obtain ⟨value, single, _⟩ := List.map_eq_singleton_iff.1 (List.cons.inj shape).2
    exact notSingle value single
  next _ _ noCount noTarget =>
    apply reads_addElements holds number
    · intro hasKey
      obtain ⟨column, rest, found⟩ := exists_token_of_hasKey hasKey
      exact noCount column rest found
    · intro hasKey
      obtain ⟨column, rest, found⟩ := exists_token_of_hasKey hasKey
      exact noTarget column rest found

theorem reads_lines (holds : reading.Holds rows) (last : Nat) (lines : List (List Char)) :
    Reads (readLines last reading lines)
      (·.1.Holds (rows ++ (significant lines).map words))
      (Refused (rows ++ (significant lines).map words)) := by
  induction lines generalizing reading rows last with
  | nil =>
    show reading.Holds (rows ++ [])
    rwa [List.append_nil]
  | cons line lines inductionHypothesis =>
    rw [readLines]
    by_cases skipped : isSkipped line = true
    · -- A skipped line is no row.
      have skips : reading.addLine (last + 1) line = .ok reading := by
        rw [Reading.addLine, if_pos skipped]
      have same : significant (line :: lines) = significant lines := by
        rw [significant_eq, List.filter_cons_of_neg (by simp [skipped]), significant_eq]
      rw [skips, same]
      exact inductionHypothesis holds (last + 1)
    · have more : significant (line :: lines) = line :: significant lines := by
        rw [significant_eq, List.filter_cons_of_pos (by simp [skipped]), significant_eq]
      -- The line is one more row behind those that have been read.
      rw [more, List.map_cons, List.append_cons]
      refine Reads.bind ((reads_addLine holds (last + 1) skipped).imp (fun _ => id) ?_) ?_
      · exact fun refused => refused.append _
      · exact fun next held => inductionHypothesis held (last + 1)

theorem reads_finish (holds : reading.Holds rows) (last : Nat) :
    Reads (reading.finish last) (StandFor rows) (∀ problem, ¬ StandFor rows problem) := by
  obtain ⟨target, count, elements⟩ := holds
  have sameNumbers {problem : Instance} (standFor : StandFor rows problem) :
      problem.numbers = reading.elements.reverse :=
    List.right_unique_forall₂' Text.rightUnique_spellsInteger standFor.elements elements
  unfold Reading.finish
  split
  next noTarget =>
    apply reads_misreading
    intro problem standFor
    have same := target.unique Text.rightUnique_spellsInteger standFor.target
    rw [noTarget] at same
    cases same
  next found isTarget =>
    rw [isTarget] at target
    dsimp only
    split
    next noCount =>
      rw [noCount] at count
      exact ⟨target, ⟨none, count, fun _ member => (nomatch member)⟩, elements⟩
    next declared number isDeclared =>
      rw [isDeclared] at count
      split
      next wrongCount =>
        apply reads_misreading
        intro problem standFor
        obtain ⟨other, declares, counts⟩ := standFor.count
        have same := counts declared (count.unique Text.rightUnique_spellsCount declares ▸ rfl)
        rw [sameNumbers standFor, List.length_reverse] at same
        exact wrongCount same
      next rightCount =>
        refine ⟨target, ⟨some declared, count, ?_⟩, elements⟩
        intro other isOther
        rw [← Option.mem_some_iff.1 isOther, List.length_reverse]
        exact not_not.1 rightCount

end Lines

/-- The instance that a text stands for, before it is validated. -/
def readText (text : String) : Except Fault Instance :=
  readLines 0 .start (Text.lines text) >>= fun result => result.1.finish result.2

theorem holds_start : Reading.Holds .start [] :=
  ⟨.nothing rfl, .nothing rfl, .nil⟩

theorem reads_readText (text : String) :
    Reads (readText text) (Spells text) (∀ problem, ¬ Spells text problem) := by
  refine Reads.bind ((reads_lines holds_start 0 (Text.lines text)).imp (fun _ => id) ?_) ?_
  · intro refused problem spells
    have refusedHere := refused [] problem
    rw [List.append_nil] at refusedHere
    exact refusedHere spells
  · exact fun result holds => reads_finish holds result.2

namespace Instance

/-! ## The reader -/

theorem ofText_eq (text : String) :
    ofText text = readText text >>= fun problem => problem.validate >>= fun _ => .ok problem := by
  rw [readText, bind_assoc]
  rfl

theorem ofText_outcome (text : String) : Text.Outcome (Spells text) Small (ofText text) := by
  rw [ofText_eq]
  exact (reads_readText text).validated fun problem _ => problem.validate_cases

/-! ## Writing -/

/-- An element as it is written. -/
def numeral (number : Int) : List Char :=
  (toString number).toList

theorem isWord_numeral (number : Int) : IsWord (numeral number) :=
  Text.isWord_of_signed (Text.signed_toString number)

/-- The lines that are written. -/
def written (problem : Instance) : List (List Char) :=
  spaced [['n']] (toString problem.numbers.length).toList
    :: spaced [['t']] (numeral problem.target) :: problem.numbers.map numeral

def writtenRows (problem : Instance) : List Row :=
  [['n'], (toString problem.numbers.length).toList]
    :: [['t'], numeral problem.target] :: problem.numbers.map fun number => [numeral number]

theorem toList_toText (problem : Instance) :
    problem.toText.toList = problem.written.flatMap (· ++ ['\n']) := by
  simp [toText, written, spaced, numeral, toString, String.toList_join, List.flatMap_map]

theorem isWord_key {key : Char} (solid : Text.isBlank key = false) :
    ∀ word ∈ [[key]], IsWord word := by
  intro word member
  rw [List.mem_singleton.1 member]
  exact ⟨List.cons_ne_nil _ _, List.forall_mem_singleton.2 solid⟩

theorem isRow_of_mem_written (problem : Instance) : ∀ row ∈ problem.written, Text.IsRow row := by
  simp only [written, List.forall_mem_cons, List.forall_mem_map]
  exact ⟨Text.isRow_spaced (isWord_key (by decide)) (Text.isWord_toString _),
    Text.isRow_spaced (isWord_key (by decide)) (isWord_numeral _),
    fun number _ => (isWord_numeral number).isRow⟩

theorem map_words_written (problem : Instance) :
    problem.written.map words = problem.writtenRows := by
  rw [written, List.map_cons, List.map_cons, List.map_map, writtenRows,
    Text.words_spaced (isWord_key (by decide)) (Text.isWord_toString _),
    Text.words_spaced (isWord_key (by decide)) (isWord_numeral _)]
  have elements := List.map_congr_left fun number (_ : number ∈ problem.numbers) =>
    Text.words_singleton (isWord_numeral number)
  exact congrArg (_ :: _ :: ·) elements

theorem significant_written (problem : Instance) :
    significant problem.written = problem.written := by
  have rows := problem.map_words_written
  rw [significant, List.filter_eq_self]
  intro line member
  have inRows : words line ∈ problem.writtenRows := rows ▸ List.mem_map_of_mem member
  have counts : ∃ c, first? line = some c ∧ c ≠ '#' := by
    simp only [writtenRows, List.mem_cons, List.mem_map] at inRows
    rcases inRows with isCount | isTarget | ⟨number, _, isElement⟩
    · exact ⟨'n', Text.first?_of_words isCount, by decide⟩
    · exact ⟨'t', Text.first?_of_words isTarget, by decide⟩
    · obtain ⟨c, first, isNumeralChar⟩ :=
        Text.first?_of_numerals isElement.symm (Text.signed_toString number)
      exact ⟨c, first, isNumeralChar.ne (by decide)⟩
  obtain ⟨c, first, noComment⟩ := counts
  simp [first, noComment]

theorem noKey_element {key : Char} (noNumeral : ¬ Text.IsNumeralChar key) (number : Int) :
    ¬ HasKey key [numeral number] := by
  intro hasKey
  have same : numeral number = [key] := Option.some.inj hasKey
  have chars := Text.isNumeralChar_of_signed (Text.signed_toString number)
  rw [← numeral, same] at chars
  exact noNumeral (chars key List.mem_cons_self)

theorem keyed_elements {key : Char} (noNumeral : ¬ Text.IsNumeralChar key) (numbers : List Int) :
    keyed key (numbers.map fun number => [numeral number]) = [] := by
  rw [keyed, List.filter_eq_nil_iff]
  intro row member
  obtain ⟨number, _, rfl⟩ := List.mem_map.1 member
  rw [decide_eq_true_iff]
  exact noKey_element noNumeral number

theorem elementWords_elements (numbers : List Int) :
    elementWords (numbers.map fun number => [numeral number]) = numbers.map numeral := by
  induction numbers with
  | nil => rfl
  | cons number numbers inductionHypothesis =>
    rw [List.map_cons, elementWords_cons (noKey_element (by decide) number)
      (noKey_element (by decide) number), inductionHypothesis]
    rfl

theorem standFor_written {problem : Instance} (fits : problem.numbers.length ≤ maxWord) :
    StandFor problem.writtenRows problem where
  target := by
    refine .value ?_ (Text.spellsInteger_toString problem.target)
    rw [writtenRows, keyed_cons_of_noKey (by simp [HasKey]), keyed_cons_of_hasKey (hasKey_cons _ _),
      keyed_elements (by decide)]
    rfl
  count := by
    refine ⟨some problem.numbers.length, .value ?_ (Text.spellsCount_toString fits), by simp⟩
    rw [writtenRows, keyed_cons_of_hasKey (hasKey_cons _ _), keyed_cons_of_noKey (by simp [HasKey]),
      keyed_elements (by decide)]
  elements := by
    rw [writtenRows, elementWords_cons_of_hasKey (Or.inl (hasKey_cons _ _)),
      elementWords_cons_of_hasKey (Or.inr (hasKey_cons _ _)), elementWords_elements,
      List.forall₂_map_left_iff, List.forall₂_same]
    exact fun number _ => Text.spellsInteger_toString number

/-- The text of an instance spells it. -/
theorem spells_toText {problem : Instance} (fits : problem.numbers.length ≤ maxWord) :
    Spells problem.toText problem := by
  rw [Spells, Text.lines_of_rows problem.isRow_of_mem_written problem.toList_toText,
    significant_written, map_words_written]
  exact standFor_written fits

/-! ## Reading an instance -/

/-- A valid instance, whose elements are as many as a word can count, reads back from its text. Of
    all texts, reading takes exactly those that spell a small instance, as that instance. It finds
    an instance malformed exactly if the text spells one that is not small, and reports a misreading
    exactly if the text spells none. -/
theorem ofText_exact :
    (∀ problem : Instance, problem.validate = .ok () → problem.numbers.length ≤ maxWord →
      ofText problem.toText = .ok problem)
    ∧ ∀ text,
      (∀ problem, ofText text = .ok problem ↔ Spells text problem ∧ problem.Small)
      ∧ ((∃ cause, ofText text = .error (.malformed cause))
        ↔ ∃ problem, Spells text problem ∧ ¬ problem.Small)
      ∧ ((∃ line column cause, ofText text = .error (.unreadable line column cause))
        ↔ ∀ problem, ¬ Spells text problem) := by
  constructor
  · intro problem accepted fits
    exact ((ofText_outcome problem.toText).eq_ok_iff StandFor.unique).2
      ⟨spells_toText fits, small_of_validate accepted⟩
  · intro text
    have outcome := ofText_outcome text
    exact ⟨fun _ => outcome.eq_ok_iff StandFor.unique, outcome.eq_malformed_iff StandFor.unique,
      outcome.eq_unreadable_iff⟩

/-- Repeated and negative elements, the least of them with as many bits as are allowed. -/
theorem ofText_exact_repeated_and_negative :
    let problem : Instance := ⟨[3, -7, 3, -(2 ^ 4096 - 1)], -4⟩
    ofText problem.toText = .ok problem ∧ Spells problem.toText problem ∧ problem.Small := by
  intro problem
  have accepted : problem.validate = .ok () := by decide +kernel
  have readBack : ofText problem.toText = .ok problem := ofText_exact.1 problem accepted (by decide)
  exact ⟨readBack, ((ofText_exact.2 problem.toText).1 problem).1 readBack⟩

/-- Keyed lines between and after the elements. -/
example : ofText "5 -1_0\n\tt +3\n# note\n0\nn 3" = .ok ⟨[5, -10, 0], 3⟩ := by
  cbv

end Instance

end SatSum.SubsetSum
