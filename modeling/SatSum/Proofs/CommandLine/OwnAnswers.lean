import SatSum.CommandLine.Scene
import SatSum.Proofs.Sat.Strategies
import SatSum.Proofs.Sat.Written
import SatSum.Proofs.Shapes

/-! # Answers and their own check

The literals of an answer, given as an assignment, are read back as the valuation that they were written
for. So a program that has found a formula satisfiable accepts its own answer when it is asked to verify
it.

* `readAssignment_literalsIn`: an assignment of the literals that a report states.
* `own_answers_verified`: what is solved on a text is verified on the same text.
-/

namespace SatSum

open Text (words Signed IsDecimal)
open SatSum.Sat (literalsIn)
open SatSum.Sat.Answer (literalsFrom)

namespace CommandLine

/-! ## Assignments -/

/-- Takes a literal into a valuation, wherever it stands. -/
def assignWord (numVariables : Nat) (valuation : Valuation) (word : List Char) :
    Except Failure Valuation :=
  assign numVariables valuation ⟨0, word⟩

theorem readAssignment_eq_foldlM {numVariables : Nat} {text : String}
    (noComma : ∀ c ∈ text.toList, c ≠ ',') :
    readAssignment numVariables text
      = (words text.toList).foldlM (assignWord numVariables) (List.replicate numVariables false) := by
  have same : (text.toList.map fun c => if c = ',' then ' ' else c) = text.toList := by
    refine (List.map_congr_left fun c member => ?_).trans (List.map_id _)
    exact if_neg (noComma c member)
  rw [readAssignment, assignmentTokens, same, ← Text.map_text_tokens, List.foldlM_map]
  rfl

theorem assignWord_zero (numVariables : Nat) (valuation : Valuation) :
    assignWord numVariables valuation ['0'] = .ok valuation := by
  rfl

theorem assignWord_written {numVariables : Nat} {valuation : Valuation} {literal : Literal}
    (positive : 1 ≤ literal.var) (within : literal.var ≤ numVariables) (small : literal.var < 2 ^ 63) :
    assignWord numVariables valuation literal.written
      = .ok (valuation.set (literal.var - 1) literal.positive) := by
  have magnitude : literal.number.natAbs = literal.var := by
    rw [Literal.number]
    split <;> omega
  have sign : decide (0 < literal.number) = literal.positive := by
    rw [Literal.number]
    cases literal.positive with
    | true =>
      refine decide_eq_true ?_
      rw [if_pos rfl]
      omega
    | false => simp
  have spelled : Text.signed? literal.written = some literal.number := by
    refine Text.signed?_eq_some_iff.2 ⟨literal.signed_written, ?_, ?_⟩ <;> omega
  rw [assignWord, assign, spelled]
  dsimp only
  rw [if_neg (by omega), if_neg (by omega), magnitude, sign]

/-- Each literal replaces the value of its variable; `done` are the values already read. -/
theorem foldlM_assignWord (done rest : Valuation) (small : done.length + rest.length < 2 ^ 63) :
    ((literalsFrom (done.length + 1) rest).map Literal.written).foldlM
        (assignWord (done.length + rest.length)) (done ++ List.replicate rest.length false)
      = .ok (done ++ rest) := by
  induction rest generalizing done with
  | nil => rfl
  | cons value rest inductionHypothesis =>
    have later := inductionHypothesis (done ++ [value])
    simp only [List.length_append, List.length_cons, List.length_nil, Nat.zero_add,
      List.append_assoc, List.singleton_append] at later
    have first : assignWord (done.length + (rest.length + 1))
          (done ++ List.replicate (rest.length + 1) false) (Literal.mk (done.length + 1) value).written
        = .ok (done ++ value :: List.replicate rest.length false) := by
      rw [List.length_cons] at small
      rw [assignWord_written (Nat.le_add_left 1 _) (by simp) (by simp; omega)]
      simp [List.replicate_succ]
    rw [literalsFrom, List.map_cons, List.foldlM_cons, List.length_cons, first, ok_bind,
      Nat.add_comm rest.length 1, ← Nat.add_assoc]
    exact later (by rw [List.length_cons] at small; omega)

/-- Reading the literals that a report states gives the valuation that they were written for. -/
theorem readAssignment_literalsIn {report : String} {comments : List (List Char)} {valuation : Valuation}
    (small : valuation.length < 2 ^ 63)
    (split : Text.lines report = comments ++ (Sat.Answer.satisfiable valuation).rows)
    (areComments : ∀ row ∈ comments, Sat.valueText? row = none) :
    readAssignment valuation.length (literalsIn report) = .ok valuation := by
  have stated := Sat.words_literalsIn split areComments
  -- A comma would set words apart, but between spaces there is nothing but numerals.
  have noComma : ∀ c ∈ (literalsIn report).toList, c ≠ ',' := by
    rintro _ member rfl
    obtain ⟨word, inWords, inWord⟩ := Text.exists_word_of_mem member (by decide)
    obtain ⟨number, signed⟩ : ∃ number, Signed IsDecimal word number := by
      rw [stated, List.mem_append] at inWords
      rcases inWords with inLiterals | isZero
      · exact Sat.signed_of_mem_literalWords word inLiterals
      · obtain rfl := List.mem_singleton.1 isZero
        exact ⟨0, .plain (Text.isDecimal_toString 0)⟩
    exact absurd (Text.isNumeralChar_of_signed signed ',' inWord) (by decide)
  have assigned := foldlM_assignWord [] valuation (by simpa using small)
  simp only [List.length_nil, Nat.zero_add, List.nil_append] at assigned
  rw [readAssignment_eq_foldlM noComma, stated, List.foldlM_append, assigned, ok_bind,
    List.foldlM_cons, assignWord_zero]
  rfl

/-! ## Reports -/

/-- The rows of the comments on the work of a search. -/
def commentRows (nodes : Nat) (time : Option Nat) : List (List Char) :=
  ("c nodes " ++ toString nodes).toList
    :: time.toList.map fun time => ("c seconds " ++ Text.renderSeconds time).toList

theorem toList_comments (nodes : Nat) (time : Option Nat) :
    (Report.comments "c" nodes time).toList = (commentRows nodes time).flatMap (· ++ ['\n']) := by
  cases time with
  | none => simp [Report.comments, commentRows, toString]
  | some time => simp [Report.comments, commentRows, toString]

theorem isRow_toString (number : Nat) : Text.IsRow (toString number).toList :=
  (Text.isWord_toString number).isRow

theorem isRow_renderSeconds (time : Nat) : Text.IsRow (Text.renderSeconds time).toList := by
  have point : Text.IsRow ".".toList := Text.isRow_of_all rfl
  have zeros (count : Nat) : Text.IsRow (String.ofList (List.replicate count '0')).toList := by
    rw [String.toList_ofList]
    intro c member
    rw [List.eq_of_mem_replicate member]
    decide
  rw [Text.renderSeconds, String.toList_append, String.toList_append, String.toList_append]
  exact (((isRow_toString _).append point).append (zeros _)).append (isRow_toString _)

theorem isRow_of_mem_commentRows (nodes : Nat) (time : Option Nat) :
    ∀ row ∈ commentRows nodes time, Text.IsRow row := by
  have nodesMark : Text.IsRow "c nodes ".toList := Text.isRow_of_all rfl
  have secondsMark : Text.IsRow "c seconds ".toList := Text.isRow_of_all rfl
  intro row member
  rw [commentRows, List.mem_cons] at member
  rcases member with rfl | inTimes
  · rw [String.toList_append]
    exact nodesMark.append (isRow_toString nodes)
  · obtain ⟨time, _, rfl⟩ := List.mem_map.1 inTimes
    rw [String.toList_append]
    exact secondsMark.append (isRow_renderSeconds time)

/-- Comments start with a letter of their own. -/
theorem exists_of_mem_commentRows (nodes : Nat) (time : Option Nat) :
    ∀ row ∈ commentRows nodes time, ∃ rest, row = 'c' :: rest := by
  intro row member
  rw [commentRows, List.mem_cons] at member
  rcases member with rfl | inTimes
  · exact ⟨_, String.toList_append⟩
  · obtain ⟨time, _, rfl⟩ := List.mem_map.1 inTimes
    exact ⟨_, String.toList_append⟩

theorem lines_render (timed : Bool) (outcome : Outcome Sat.Answer) (time : Option Nat) :
    Text.lines ((Report.sat outcome time).render timed)
      = commentRows outcome.nodes time ++ outcome.answer.rows := by
  apply Text.lines_of_rows
  · intro row member
    rcases List.mem_append.1 member with inComments | inAnswer
    · exact isRow_of_mem_commentRows _ _ row inComments
    · exact outcome.answer.isRow_of_mem_rows row inAnswer
  · rw [Report.render, String.toList_append, toList_comments, outcome.answer.toList_toDimacs,
      List.flatMap_append]

/-! ## Attempts -/

section Attempts

variable {State α β : Type}

/-- How an attempt ends that starts in a state, and the state it leaves. -/
def Attempt.ending (attempt : Attempt (StateM State) α) (state : State) : Except Failure α × State :=
  (attempt.run).run state

theorem Attempt.ending_bind (first : Attempt (StateM State) α) (next : α → Attempt (StateM State) β)
    (state : State) :
    Attempt.ending (first >>= next) state =
      match Attempt.ending first state with
      | (.ok result, after) => Attempt.ending (next result) after
      | (.error failure, after) => (.error failure, after) := by
  cases started : Attempt.ending first state with
  | mk result after =>
    rw [ending] at started
    rw [ending, ExceptT.run_bind, StateT.run_bind, started]
    cases result with
    | ok result => rfl
    | error failure => rfl

theorem Attempt.ending_lift (action : StateM State α) (state : State) :
    Attempt.ending (action : Attempt (StateM State) α) state
      = (.ok (action.run state).1, (action.run state).2) := by
  rfl

end Attempts

/-! ## Tasks -/

section Tasks

variable {State : Type} {host : Host (StateM State)} {state : State} {input : Input}
  {text : String} {formula : Formula}

/-- Without limits the host runs every activity to its end. -/
def Host.RunsToEnd (host : Host (StateM State)) : Prop :=
  ∀ {α : Type} (activity : Activity α) (state : State),
    ((host.perform .none activity).run state).1.result = activity.complete

/-- What the host finds as input in the state. -/
def Host.Finds (host : Host (StateM State)) (input : Input) (state : State) (text : String) : Prop :=
  ∃ bytes, ((host.read input).run state).1 = .ok bytes ∧ String.fromUTF8? bytes = some text

theorem Host.RunsToEnd.ending_measure (runs : host.RunsToEnd) {α : Type} (activity : Activity α)
    (state : State) :
    ∃ time after, (host.measure activity).ending state
      = ((activity.complete.map (·, time)).mapError Failure.fault, after) := by
  have complete := runs activity state
  rw [Host.measure, Attempt.ending_bind, Attempt.ending_lift]
  generalize (host.perform .none activity).run state = measured at complete ⊢
  obtain ⟨⟨result, time⟩, after⟩ := measured
  refine ⟨time, after, ?_⟩
  rw [← complete]
  cases result with
  | ok result => rfl
  | error cause => rfl

theorem Host.RunsToEnd.ending_run (runs : host.RunsToEnd) {α : Type} (activity : Activity α)
    (state : State) :
    ∃ after, (host.run activity).ending state = (activity.complete.mapError Failure.fault, after) := by
  obtain ⟨time, after, measured⟩ := runs.ending_measure activity state
  refine ⟨after, ?_⟩
  rw [Host.run, Attempt.ending_bind, measured]
  cases activity.complete with
  | ok result => rfl
  | error cause => rfl

theorem Host.Finds.ending_readText (finds : host.Finds input state text) :
    ∃ after, (host.readText input).ending state = (.ok text, after) := by
  obtain ⟨bytes, isRead, isText⟩ := finds
  refine ⟨((host.read input).run state).2, ?_⟩
  rw [Host.readText, Attempt.ending_bind, Attempt.ending_lift, isRead]
  dsimp only
  rw [isText]
  rfl

theorem Host.Finds.ending_readFormula (finds : host.Finds input state text) (runs : host.RunsToEnd) :
    ∃ after, (host.readFormula input).ending state
      = ((Formula.ofDimacs text).mapError Failure.fault, after) := by
  obtain ⟨between, isRead⟩ := finds.ending_readText
  obtain ⟨after, decoded⟩ := runs.ending_run (Formula.decoding text) between
  have complete : (Formula.decoding text).complete = Formula.ofDimacs text := by
    simp only [Formula.decoding, Activity.complete_bind, Activity.complete_ofExcept,
      Activity.complete_report, Activity.complete_pure]
    cases Formula.ofDimacs text <;> rfl
  refine ⟨after, ?_⟩
  rw [Host.readFormula, Attempt.ending_bind, isRead]
  dsimp only
  rw [decoded, complete]

/-- What a formula is decided with. -/
def solved (strategy : Sat.Strategy) (three : Bool) (formula : Formula) :
    Except Fault (Outcome Sat.Answer) :=
  if three then formula.solveThree strategy else formula.solve strategy

theorem Host.Finds.ending_solveSat (finds : host.Finds input state text) (runs : host.RunsToEnd)
    (isFormula : Formula.ofDimacs text = .ok formula) (strategy : Sat.Strategy) (three : Bool) :
    ∃ time after, ((Task.solveSat input strategy three).perform host).ending state
      = (((solved strategy three formula).map (Report.sat · time)).mapError Failure.fault, after) := by
  obtain ⟨between, isRead⟩ := finds.ending_readFormula runs
  rw [isFormula] at isRead
  have complete : (if three then formula.solvingThree strategy else formula.solving strategy).complete
      = solved strategy three formula := by
    cases three <;> rfl
  obtain ⟨time, after, measured⟩ := runs.ending_measure
    (if three then formula.solvingThree strategy else formula.solving strategy) between
  refine ⟨time, after, ?_⟩
  rw [Task.perform, Attempt.ending_bind, isRead]
  dsimp only [Except.mapError]
  rw [Attempt.ending_bind, measured, complete]
  cases solved strategy three formula with
  | ok outcome => rfl
  | error fault => rfl

/-- The verdict on a valuation. -/
def verified (three : Bool) (formula : Formula) (valuation : Valuation) : Verdict :=
  if three then formula.verifyThree valuation else formula.verify valuation

theorem Host.Finds.ending_verifySat (finds : host.Finds input state text) (runs : host.RunsToEnd)
    (isFormula : Formula.ofDimacs text = .ok formula) {assignment : String} {valuation : Valuation}
    (assigned : readAssignment formula.numVariables assignment = .ok valuation) (three : Bool) :
    ∃ after, ((Task.verifySat input assignment three).perform host).ending state
      = (.ok (.verdict (verified three formula valuation)), after) := by
  obtain ⟨after, isRead⟩ := finds.ending_readFormula runs
  rw [isFormula] at isRead
  refine ⟨after, ?_⟩
  rw [Task.perform, Attempt.ending_bind, isRead]
  dsimp only [Except.mapError]
  rw [assigned]
  rfl

/-- The report on a task as it is printed. -/
def Task.report {m : Type → Type} [Monad m] (host : Host m) (task : Task) : Attempt m String := do
  let report ← task.perform host
  return report.render host.timed

theorem Attempt.ending_report {task : Task} {ended : Except Failure Report} {after : State}
    (performed : (task.perform host).ending state = (ended, after)) :
    (task.report host).ending state = (ended.map (Report.render host.timed), after) := by
  rw [Task.report, Attempt.ending_bind, performed]
  cases ended with
  | ok report => rfl
  | error failure => rfl

end Tasks

/-! ## Scenes -/

theorem Scene.runsToEnd (clock : Activity.Clock) : (Scene.host clock).RunsToEnd :=
  fun activity scene => Activity.runFrom_unlimited_result clock (scene.polls + 1) [] activity

/-- A text on standard input and nothing else. -/
def Scene.given (text : String) : Scene :=
  ⟨⟨[], [], [], []⟩, text.toUTF8, "", 0⟩

theorem Scene.finds_given (clock : Activity.Clock) (text : String) :
    (Scene.host clock).Finds .standard (given text) text :=
  ⟨text.toUTF8, rfl, dif_pos text.isValidUTF8⟩

/-! ## Own answers -/

/-- A valuation that decides the formula is accepted, also where three-literal clauses are asked for. -/
theorem verified_of_solved {strategy : Sat.Strategy} {three : Bool} {formula : Formula}
    {outcome : Outcome Sat.Answer} {valuation : Valuation}
    (ended : solved strategy three formula = .ok outcome)
    (isAnswer : outcome.answer = .satisfiable valuation) :
    valuation.length = formula.numVariables ∧ verified three formula valuation = .ok () := by
  cases three with
  | false =>
    have decides : outcome.answer.Decides formula := Sat.decides_of_solve ended
    rw [isAnswer] at decides
    have isModel : formula.IsModel valuation := decides.isModel
    exact ⟨isModel.covers, Formula.verify_eq_ok_iff.2 isModel⟩
  | true =>
    have decides : outcome.answer.Decides formula := Sat.decides_of_solveThree ended
    rw [isAnswer] at decides
    have isModel : formula.IsModel valuation := decides.isModel
    obtain ⟨three, _, taken⟩ := Sat.exists_three_of_solveThree ended
    refine ⟨isModel.covers, ?_⟩
    rw [verified, if_pos rfl, (Formula.verifyThree_of_taken taken valuation).2]
    exact Formula.verify_eq_ok_iff.2 isModel

/-- Reading the literals of a written valuation gives it back; so whenever a formula is reported to be
    satisfiable, by whatever strategy, verifying the literals of the report on the same text reports that
    they are valid. The lengths are those that lists in memory can have. -/
theorem own_answers_verified :
    (∀ valuation : Valuation, valuation.length < 2 ^ 63 →
      readAssignment valuation.length (literalsIn (Sat.Answer.satisfiable valuation).toDimacs)
        = .ok valuation)
      ∧ ∀ {State : Type} (host : Host (StateM State)), host.RunsToEnd →
        ∀ text formula, Formula.ofDimacs text = .ok formula → formula.numVariables < 2 ^ 63 →
        ∀ strategy three input state, host.Finds input state text →
        ∀ report, (((Task.solveSat input strategy three).report host).ending state).1 = .ok report →
          Sat.satisfiableRow ∈ Text.lines report →
        ∀ again later, host.Finds again later text →
          (((Task.verifySat again (literalsIn report) three).report host).ending later).1
            = .ok "VALID\n" := by
  constructor
  · intro valuation small
    have split : Text.lines (Sat.Answer.satisfiable valuation).toDimacs
        = [] ++ (Sat.Answer.satisfiable valuation).rows := by
      rw [List.nil_append]
      exact Text.lines_of_rows (Sat.Answer.isRow_of_mem_rows _) (Sat.Answer.toList_toDimacs _)
    exact readAssignment_literalsIn small split (List.forall_mem_nil _)
  · intro State host runs text formula isFormula small strategy three input state finds report reported
      satisfiable again later findsAgain
    obtain ⟨time, after, performed⟩ := finds.ending_solveSat runs isFormula strategy three
    rw [Attempt.ending_report performed] at reported
    cases ended : solved strategy three formula with
    | error fault =>
      rw [ended] at reported
      cases reported
    | ok outcome =>
      rw [ended] at reported
      cases reported
      -- The comments have a letter of their own, so they are taken neither for a status nor for literals.
      have split := lines_render host.timed outcome time
      have areComments := exists_of_mem_commentRows outcome.nodes time
      have noStatus : ∀ row ∈ commentRows outcome.nodes time, row ≠ Sat.satisfiableRow := by
        intro row member
        obtain ⟨rest, rfl⟩ := areComments row member
        exact fun same => absurd (List.cons.inj same).1 (by decide)
      have noLiterals : ∀ row ∈ commentRows outcome.nodes time, Sat.valueText? row = none := by
        intro row member
        obtain ⟨rest, rfl⟩ := areComments row member
        rfl
      obtain ⟨valuation, isAnswer⟩ := Sat.exists_valuation_of_mem_lines split noStatus satisfiable
      obtain ⟨covers, accepted⟩ := verified_of_solved ended isAnswer
      rw [isAnswer] at split
      have assigned := readAssignment_literalsIn (covers ▸ small) split noLiterals
      rw [covers] at assigned
      obtain ⟨_, performedAgain⟩ := findsAgain.ending_verifySat runs isFormula assigned three
      rw [Attempt.ending_report performedAgain, accepted]
      rfl

/-- The literals of a model, on two rows, are read back, and the model is verified. -/
theorem own_answers_verified_nine_variables :
    readAssignment 9 " -1 -2 -3 -4 -5 -6 -7 -8  9  0"
        = .ok [false, false, false, false, false, false, false, false, true]
      ∧ (((Task.verifySat .standard " -1 -2 -3 -4 -5 -6 -7 -8  9  0" true).report
          (Scene.host fun _ => 0)).ending (.given "p cnf 9 3\n1 -2 3 0\n4 5 -6 0\n7 8 9 0\n")).1
        = .ok "VALID\n" := by
  have written : literalsIn (Sat.Answer.satisfiable
      [false, false, false, false, false, false, false, false, true]).toDimacs
        = " -1 -2 -3 -4 -5 -6 -7 -8  9  0" := by
    decide +kernel
  have reported : (((Task.solveSat .standard .bruteForce true).report (Scene.host fun _ => 0)).ending
      (.given "p cnf 9 3\n1 -2 3 0\n4 5 -6 0\n7 8 9 0\n")).1
        = .ok "c nodes 20\ns SATISFIABLE\nv -1 -2 -3 -4 -5 -6 -7 -8\nv 9\nv 0\n" := by
    decide +kernel
  constructor
  · have readBack := own_answers_verified.1
      [false, false, false, false, false, false, false, false, true] (by decide)
    rw [written] at readBack
    exact readBack
  · exact own_answers_verified.2 (Scene.host fun _ => 0) (Scene.runsToEnd _) _
      ⟨9, [[⟨1, true⟩, ⟨2, false⟩, ⟨3, true⟩], [⟨4, true⟩, ⟨5, true⟩, ⟨6, false⟩],
        [⟨7, true⟩, ⟨8, true⟩, ⟨9, true⟩]]⟩ (by decide +kernel) (by decide) _ _ _ _ (Scene.finds_given _ _) _
      reported (by decide) _ _ (Scene.finds_given _ _)

end CommandLine

end SatSum
