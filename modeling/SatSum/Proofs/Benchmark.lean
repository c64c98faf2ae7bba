import SatSum.CommandLine.Scene
import SatSum.Proofs.Interruption
import SatSum.Proofs.Sat.Strategies
import SatSum.Proofs.SubsetSum.Strategies

/-! # Strategies never disagree

Strategies are compared on one instance, so each of them that comes to an end says the same about it:
whether there is a solution. A budget may keep a strategy from its end, but not change what it says
there. So a comparison gives the records of all its solves, unless a solve has a fault of its own, and
the records agree.

* `Round.tells`: what the solves of a round have in common.
* `Plan.compare_spec`: the records of a comparison.
* `measure_never_disagrees`: a comparison on any instance, and on those drawn for a plan.
-/

namespace SatSum.Benchmark

open CommandLine (Scene)

/-! ## Actions that may fail -/

section

variable {σ ε α β : Type} {good between : α → Prop} {result : β → Prop} {bad : ε → Prop}

/-- From every state the action ends so. -/
def Always (good : α → Prop) (bad : ε → Prop) (action : ExceptT ε (StateM σ) α) : Prop :=
  ∀ state, Ends good bad (action.run.run state).1

theorem Always.bind {first : ExceptT ε (StateM σ) α} {next : α → ExceptT ε (StateM σ) β}
    (ends : Always between bad first) (goesOn : ∀ a, between a → Always result bad (next a)) :
    Always result bad (first >>= next) := by
  intro state
  have ended := ends state
  rw [ExceptT.run_bind, StateT.run_bind]
  cases done : first.run.run state with
  | mk outcome later =>
    rw [done] at ended
    cases outcome with
    | ok a => exact goesOn a ended later
    | error failure => exact ended

theorem always_known {known : Except ε α} (ends : Ends good bad known) :
    Always good bad (ExceptT.mk (pure known) : ExceptT ε (StateM σ) α) :=
  fun _ => ends

theorem Always.mono {action : ExceptT ε (StateM σ) α} {better : α → Prop} {worse : ε → Prop}
    (always : Always good bad action) (improves : ∀ a, good a → better a)
    (worsens : ∀ failure, bad failure → worse failure) : Always better worse action := by
  intro state
  have ended := always state
  cases done : (action.run.run state).1 with
  | ok result =>
    rw [done] at ended
    exact improves result ended
  | error failure =>
    rw [done] at ended
    exact worsens failure ended

/-- Actions in a row give a good result each, or stop at a failure of one of them. -/
theorem always_mapM {step : α → ExceptT ε (StateM σ) β} {fits : α → β → Prop} {fails : α → ε → Prop}
    (members : List α) (each : ∀ member ∈ members, Always (fits member) (fails member) (step member)) :
    Always (List.Forall₂ fits members) (fun failure => ∃ member ∈ members, fails member failure)
      (members.mapM step) := by
  induction members with
  | nil => exact always_known .nil
  | cons member members inductionHypothesis =>
    obtain ⟨first, others⟩ := List.forall_mem_cons.1 each
    rw [List.mapM_cons]
    have here : Always (fits member) (fun failure => ∃ other ∈ member :: members, fails other failure)
        (step member) :=
      first.mono (fun _ fit => fit) fun _ failed => ⟨member, List.mem_cons_self, failed⟩
    have later : Always (List.Forall₂ fits members)
        (fun failure => ∃ other ∈ member :: members, fails other failure) (members.mapM step) :=
      (inductionHypothesis others).mono (fun _ fit => fit) fun _ ⟨other, isLater, failed⟩ =>
        ⟨other, List.mem_cons_of_mem member isLater, failed⟩
    exact here.bind fun result fit => later.bind fun results allFit => always_known (.cons fit allFit)

end

/-! ## Rounds -/

/-- The strategies of a contest, with the instance that they are compared on. -/
inductive Round
  | sat (strategies : List Sat.Strategy) (formula : Formula)
  | threeSat (strategies : List Sat.Strategy) (three : ThreeFormula)
  | subsetSum (strategies : List SubsetSum.Strategy) (problem : SubsetSum.Instance)
deriving DecidableEq, Repr

namespace Round

def contest : Round → Contest
  | sat strategies _ => .sat strategies
  | threeSat strategies _ => .threeSat strategies
  | subsetSum strategies _ => .subsetSum strategies

def entries : Round → List Entry
  | sat strategies formula =>
    strategies.map fun strategy => .ofSat strategy (formula.solving strategy)
  | threeSat strategies three =>
    strategies.map fun strategy => .ofSat strategy (three.toFormula.solvingThree strategy)
  | subsetSum strategies problem =>
    strategies.map fun strategy => .ofSubsetSum strategy (problem.solving strategy)

end Round

/-- Whatever the source hands out, the solves laid out for a contest are those of a round. -/
theorem Contest.exists_round {σ : Type} [Chance.WordSource σ] {contest : Contest} {size : Nat}
    {source : σ} {entries : List Entry}
    (drawn : ((contest.entries size).run.run source).1 = .ok entries) :
    ∃ round : Round, round.contest = contest ∧ round.entries = entries := by
  -- The instance is drawn first, and the solves are laid out for what was drawn.
  have ok_of_bind {α : Type} {draw : Generated σ α} {layOut : α → List Entry}
      (drawn : ((draw >>= fun result => pure (layOut result)).run.run source).1 = .ok entries) :
      ∃ result, layOut result = entries := by
    rw [ExceptT.run_bind] at drawn
    simp only [StateT.run_bind] at drawn
    cases first : (draw.run.run source) with
    | mk result rest =>
      rw [first] at drawn
      cases result with
      | error fault => cases drawn
      | ok result =>
        cases drawn
        exact ⟨result, rfl⟩
  cases contest with
  | sat strategies =>
    obtain ⟨formula, laidOut⟩ := ok_of_bind drawn
    exact ⟨.sat strategies formula, rfl, laidOut⟩
  | threeSat strategies =>
    obtain ⟨three, laidOut⟩ := ok_of_bind drawn
    exact ⟨.threeSat strategies three, rfl, laidOut⟩
  | subsetSum strategies =>
    obtain ⟨problem, laidOut⟩ := ok_of_bind drawn
    exact ⟨.subsetSum strategies problem, rfl, laidOut⟩

/-! ## What solves say -/

/-- There is what the strategies of the round search for. -/
def Round.HasSolution : Round → Prop
  | sat _ formula => ∃ valuation, formula.IsModel valuation
  | threeSat _ three => ∃ valuation, three.toFormula.IsModel valuation
  | subsetSum _ problem => ∃ selection, problem.IsSolution selection

/-- If the solve comes to an end, it says whether that is so. -/
def Entry.Tells (solvable : Prop) (entry : Entry) : Prop :=
  ∀ outcome, entry.solving.complete = .ok outcome → (outcome.answer = true ↔ solvable)

theorem tells_ofSat {formula : Formula} {strategy : Sat.Strategy}
    {solving : Activity (Outcome Sat.Answer)}
    (decides : ∀ outcome, solving.complete = .ok outcome → outcome.answer.Decides formula) :
    (Entry.ofSat strategy solving).Tells (∃ valuation, formula.IsModel valuation) := by
  intro outcome ended
  simp only [Entry.ofSat, Activity.complete_map] at ended
  obtain ⟨searched, isSearched, same⟩ := bind_eq_ok_iff.1 ended
  cases same
  have decided := decides searched isSearched
  show searched.answer.isSatisfiable = true ↔ _
  cases answer : searched.answer with
  | satisfiable valuation =>
    rw [answer] at decided
    exact iff_of_true rfl ⟨valuation, decided.isModel⟩
  | unsatisfiable =>
    rw [answer] at decided
    exact iff_of_false Bool.false_ne_true fun ⟨valuation, model⟩ => decided valuation model

theorem tells_ofSubsetSum {problem : SubsetSum.Instance} (strategy : SubsetSum.Strategy) :
    (Entry.ofSubsetSum strategy (problem.solving strategy)).Tells
      (∃ selection, problem.IsSolution selection) := by
  intro outcome ended
  simp only [Entry.ofSubsetSum, Activity.complete_map] at ended
  obtain ⟨searched, isSearched, same⟩ := bind_eq_ok_iff.1 ended
  cases same
  have correct := SubsetSum.isCorrect_of_solve isSearched
  show searched.answer.isFound = true ↔ _
  cases answer : searched.answer with
  | found selection =>
    rw [answer] at correct
    exact iff_of_true rfl ⟨selection, correct⟩
  | notFound =>
    rw [answer] at correct
    exact iff_of_false Bool.false_ne_true fun ⟨selection, solution⟩ => correct selection solution

/-- All solves of a round tell the same: whether its instance has a solution. -/
theorem Round.tells (round : Round) : ∀ entry ∈ round.entries, entry.Tells round.HasSolution := by
  cases round with
  | sat strategies formula =>
    refine List.forall_mem_map.2 fun strategy _ => tells_ofSat fun outcome ended => ?_
    exact Sat.decides_of_solve ended
  | threeSat strategies three =>
    refine List.forall_mem_map.2 fun strategy _ => tells_ofSat fun outcome ended => ?_
    exact Sat.decides_of_solveThree ended
  | subsetSum strategies problem =>
    exact List.forall_mem_map.2 fun strategy _ => tells_ofSubsetSum strategy

/-! ## Records -/

/-- What a record owes the solve that it is about: its name, and what the solve comes to without
    limits, unless it timed out. -/
structure Record.Reports (job : Job) (entry : Entry) (record : Record) : Prop where
  strategy : record.strategy = entry.strategy
  size : record.size = job.size
  index : record.index = job.index
  feasible : ∀ feasible, record.feasible = some feasible →
    entry.solving.complete = .ok ⟨feasible, record.nodes⟩
  timedOut_iff : record.timedOut = true ↔ record.feasible = none

/-- What is made of a solve that limits may have interrupted: a record of it, or its own fault. -/
theorem reports_ofMeasured {entry : Entry} {measured : Measured (Outcome Bool)} (job : Job)
    (ends : measured.result = entry.solving.complete
      ∨ ∃ nodes, measured.result = .error (.interrupted nodes)) :
    Ends (fun record => record.Reports job entry)
      (fun failure => ∃ cause, entry.solving.complete = .error cause ∧ failure = .fault cause)
      (Record.ofMeasured job entry.strategy measured) := by
  obtain ⟨result, time⟩ := measured
  cases result with
  | ok outcome =>
    have complete : .ok outcome = entry.solving.complete := ends.resolve_right (by simp)
    refine ⟨rfl, rfl, rfl, ?_, by simp⟩
    rintro feasible ⟨rfl⟩
    exact complete.symm
  | error fault =>
    cases fault with
    | interrupted nodes => exact ⟨rfl, rfl, rfl, by simp, by simp⟩
    | malformed cause | unreadable line column cause | exhausted cause =>
      exact ⟨_, (ends.resolve_right (by simp)).symm, rfl⟩

theorem perform_result_eq_or (clock : Activity.Clock) (limits : Limits)
    (solving : Activity (Outcome Bool)) (scene : Scene) :
    (Scene.perform clock limits solving scene).1.result = solving.complete
      ∨ ∃ nodes, (Scene.perform clock limits solving scene).1.result = .error (.interrupted nodes) :=
  (Activity.runFrom_result_eq_or clock ⟨limits.budget (clock scene.polls), scene.polls + 1⟩ []
    solving).imp_right fun ⟨nodes, interrupted, _⟩ => ⟨nodes, interrupted⟩

/-! ## Comparisons -/

/-- The records of a round: one for each strategy in order, all that are known to have come to an end
    saying the same, and rightly so. -/
structure Agreed (job : Job) (round : Round) (records : List Record) : Prop where
  reports : List.Forall₂ (fun entry record => record.Reports job entry) round.entries records
  agree : ∀ first ∈ records, ∀ second ∈ records, ∀ feasible ∈ first.feasible,
    ∀ other ∈ second.feasible, feasible = other
  truthful : ∀ record ∈ records, ∀ feasible ∈ record.feasible, (feasible = true ↔ round.HasSolution)
  timedOut_iff : ∀ record ∈ records, (record.timedOut = true ↔ record.feasible = none)

/-- The failure is a fault of one of the solves, which it has without limits too. -/
def IsFaultOf (entries : List Entry) (failure : Failure) : Prop :=
  ∃ entry ∈ entries, ∃ cause, entry.solving.complete = .error cause ∧ failure = .fault cause

theorem agree_of_forall {records : List Record} {solvable : Prop}
    (truthful : ∀ record ∈ records, ∀ feasible ∈ record.feasible, (feasible = true ↔ solvable)) :
    agree records = true := by
  have all : ∀ feasible ∈ records.filterMap (·.feasible), (feasible = true ↔ solvable) := by
    intro feasible member
    obtain ⟨record, isRecord, known⟩ := List.mem_filterMap.1 member
    exact truthful record isRecord feasible known
  rw [agree]
  split
  next => rfl
  next first others listed =>
    rw [listed] at all
    refine List.all_eq_true.2 fun other member => beq_iff_eq.2 (Bool.eq_iff_iff.2 ?_)
    exact (all other (List.mem_cons_of_mem first member)).trans (all first List.mem_cons_self).symm

theorem agreed_of_reports {job : Job} {round : Round} {records : List Record}
    (reports : List.Forall₂ (fun entry record => record.Reports job entry) round.entries records) :
    Agreed job round records := by
  have each : ∀ record ∈ records, ∃ entry ∈ round.entries, record.Reports job entry := by
    intro record member
    obtain ⟨index, inRange, rfl⟩ := List.mem_iff_getElem.1 member
    have inEntries : index < round.entries.length := reports.length_eq ▸ inRange
    exact ⟨_, List.getElem_mem inEntries, reports.get inEntries inRange⟩
  have truthful : ∀ record ∈ records, ∀ feasible ∈ record.feasible,
      (feasible = true ↔ round.HasSolution) := by
    intro record member feasible known
    obtain ⟨entry, isEntry, report⟩ := each record member
    exact round.tells entry isEntry _ (report.feasible feasible known)
  refine ⟨reports, ?_, truthful, ?_⟩
  · intro first isFirst second isSecond feasible known other otherKnown
    rw [Bool.eq_iff_iff, truthful first isFirst feasible known,
      truthful second isSecond other otherKnown]
  · intro record member
    obtain ⟨entry, _, report⟩ := each record member
    exact report.timedOut_iff

section

variable {m : Type → Type} [Monad m]

/-- The part of a measurement after its instance is drawn: each solve in turn, and then the check. -/
def Plan.compare (plan : Plan)
    (perform : Limits → Activity (Outcome Bool) → m (Measured (Outcome Bool))) (job : Job)
    (entries : List Entry) : ExceptT Failure m (List Record) := do
  let records ← entries.mapM fun entry => do
    let measured ← perform plan.limits entry.solving
    ExceptT.mk (pure (Record.ofMeasured job entry.strategy measured))
  ExceptT.mk (pure (checked plan job records))

theorem Plan.measure_eq (plan : Plan)
    (perform : Limits → Activity (Outcome Bool) → m (Measured (Outcome Bool))) (job : Job) :
    plan.measure perform job =
      match ((plan.contest.entries job.size).run.run (Chance.ChaCha.Stream.ofSeed (job.seed plan.seed))).1
        with
      | .error fault => throw (.fault fault)
      | .ok entries => plan.compare perform job entries :=
  rfl

end

/-- Comparing strategies on any instance gives records that agree, if no solve has a fault. -/
theorem Plan.compare_spec (plan : Plan) (clock : Activity.Clock) (job : Job) (round : Round) :
    Always (Agreed job round) (IsFaultOf round.entries)
      (plan.compare (Scene.perform clock) job round.entries) := by
  have solves (entry : Entry) :
      Always (fun record => record.Reports job entry)
        (fun failure => ∃ cause, entry.solving.complete = .error cause ∧ failure = .fault cause)
        (do
          let measured ← Scene.perform clock plan.limits entry.solving
          ExceptT.mk (pure (Record.ofMeasured job entry.strategy measured)) :
            ExceptT Failure (StateM Scene) Record) :=
    fun scene => reports_ofMeasured job (perform_result_eq_or clock plan.limits entry.solving scene)
  have solvesAll := (always_mapM round.entries fun entry _ => solves entry).mono
    (fun _ => agreed_of_reports) fun _ failed => failed
  refine solvesAll.bind fun records agreed => always_known ?_
  rw [checked, if_pos (agree_of_forall agreed.truthful)]
  exact agreed

/-- Strategies never disagree, within any limits and whatever the clock shows: neither on any instance
    at all, nor on the instances of a plan, where a failure is a fault of the draw or of a solve. -/
theorem measure_never_disagrees (plan : Plan) (clock : Activity.Clock) (job : Job) :
    (∀ round : Round, Always (Agreed job round) (IsFaultOf round.entries)
      (plan.compare (Scene.perform clock) job round.entries))
    ∧ Always (fun records => ∃ round : Round, round.contest = plan.contest ∧ Agreed job round records)
      (fun failure => ∃ cause, failure = .fault cause) (plan.measure (Scene.perform clock) job)
    ∧ Always (fun _ => True) (fun failure => ∃ cause, failure = .fault cause)
      (plan.run (Scene.perform clock)) := by
  have measures (job : Job) : Always
      (fun records => ∃ round : Round, round.contest = plan.contest ∧ Agreed job round records)
      (fun failure => ∃ cause, failure = .fault cause) (plan.measure (Scene.perform clock) job) := by
    rw [Plan.measure_eq]
    split
    next fault _ => exact always_known ⟨fault, rfl⟩
    next entries drawn =>
      obtain ⟨round, sameContest, rfl⟩ := Contest.exists_round drawn
      exact (plan.compare_spec clock job round).mono (fun _ agreed => ⟨round, sameContest, agreed⟩)
        fun _ ⟨_, _, cause, _, same⟩ => ⟨cause, same⟩
  refine ⟨plan.compare_spec clock job, measures job, ?_⟩
  have measuresAll := (always_mapM plan.jobs fun job _ => measures job).mono (fun _ _ => trivial)
    fun _ ⟨_, _, failed⟩ => failed
  exact measuresAll.bind fun _ _ => always_known trivial

end SatSum.Benchmark
