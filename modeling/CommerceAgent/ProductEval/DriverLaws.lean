import CommerceAgent.Lib.Session
import CommerceAgent.ProductEval.Driver

/-!
# What the scenario driver does

Whatever its ports answer, and wherever it is stopped: nothing runs between a reset that failed and its end; the graph
is asked three times at most, each time with the answers to all slots that it asked for; decisions are about the
proposals of its last report, by the actors of the steps; and an execution comes right behind the approval that grants it.
-/

open CommerceAgent.Lib CommerceAgent.Lib.Flow
open CommerceAgent.Operations (ProposalRef DecisionRequest DecisionReceipt ExecuteRequest ExecutionReceipt)
open CommerceAgent.Orchestration (ClarificationSlot RetailRunOutcome QueryResult)

namespace CommerceAgent.ProductEval

/-! ## What a log tells -/

abbrev PortLog := Log PortOp PortAns

/-- The execution that a decision allows its actor. -/
def grant_of (r : DecisionRequest) (decision : DecisionReceipt) : Option ExecuteRequest :=
  if r.decision = .approve then decision.grant.map (⟨r.actor, ·⟩) else none

namespace PortLog

def outcomes (log : PortLog) : List RetailRunOutcome := log.filterMap fun
  | ⟨.graph _, .ok outcome⟩ => some outcome
  | _ => none

def decisions (log : PortLog) : List DecisionReceipt := log.filterMap fun
  | ⟨.decide _, .ok decision⟩ => some decision
  | _ => none

def receipts (log : PortLog) : List ExecutionReceipt := log.filterMap fun
  | ⟨.execute _, .ok receipt⟩ => some receipt
  | _ => none

/-- The executions that the decisions allow. -/
def granted (log : PortLog) : List ExecuteRequest := log.filterMap fun
  | ⟨.decide r, .ok decision⟩ => grant_of r decision
  | _ => none

def executed (log : PortLog) : List ExecuteRequest := log.filterMap fun
  | ⟨.execute r, .ok _⟩ => some r
  | _ => none

def results (log : PortLog) : List QueryResult := log.filterMap fun
  | ⟨.query _, .ok result⟩ => some result
  | _ => none

def asked (log : PortLog) : List ClarificationSlot := log.outcomes.flatMap fun outcome => (asked_of outcome).getD []

/-- The proposals of the last outcome. -/
def refs (log : PortLog) : List ProposalRef := log.outcomes.getLast?.elim [] proposal_refs

theorem decisions_append (front back : PortLog) : decisions (front ++ back) = front.decisions ++ back.decisions :=
  List.filterMap_append

theorem receipts_append (front back : PortLog) : receipts (front ++ back) = front.receipts ++ back.receipts :=
  List.filterMap_append

theorem granted_append (front back : PortLog) : granted (front ++ back) = front.granted ++ back.granted :=
  List.filterMap_append

theorem executed_append (front back : PortLog) : executed (front ++ back) = front.executed ++ back.executed :=
  List.filterMap_append

theorem results_append (front back : PortLog) : results (front ++ back) = front.results ++ back.results :=
  List.filterMap_append

end PortLog

def PortOp.isReset : PortOp → Bool
  | .reset .. => true
  | _ => false

def PortOp.isGraph : PortOp → Bool
  | .graph _ => true
  | _ => false

section Laws

variable (library : DriverLibrary) (scenario : ProductScenario)

def reset_op : PortOp := .reset scenario.scenario_id scenario.reset_manifest_revision

/-- The scenario was reset, and not again since. -/
def Opened (log : PortLog) : Prop :=
  ∃ middle, log = ⟨reset_op scenario, .ok ()⟩ :: middle ∧ ∀ e ∈ middle, e.op.isReset = false

/-- What the driver may ask for next, behind all that it did. -/
def Allowed (log : PortLog) : PortOp → Prop
  | .reset scenario_id manifest_revision =>
    (scenario_id, manifest_revision) = (scenario.scenario_id, scenario.reset_manifest_revision) ∧
      (log = [] ∨ Opened scenario log)
  | .graph r =>
    -- behind the reset only the graph was asked, and each time it answered
    Opened scenario log ∧ (∀ e ∈ log.tail, ∃ r outcome, e = ⟨.graph r, .ok outcome⟩) ∧ log.tail.length < 3 ∧
      (∀ outcome ∈ log.outcomes, (asked_of outcome).isSome) ∧
      request library scenario log.outcomes.length (log.asked.map (answer library scenario)) = .ok r
  | .resolve actor_ref =>
    Opened scenario log ∧ ∃ step ∈ scenario.actor_steps, actor_ref = step.actor_ref ∧
      (log.refs[step.proposal_index]?).isSome
  | .decide r =>
    ∃ front, ∃ step ∈ scenario.actor_steps, log = front ++ [⟨.resolve step.actor_ref, .ok r.actor⟩] ∧
      Opened scenario log ∧ r.decision = step.action.decision ∧ log.refs[step.proposal_index]? = some r.proposal_ref
  | .execute r =>
    ∃ front proposal_ref decision,
      log = front ++ [⟨.decide ⟨r.actor, proposal_ref, .approve, reviewed⟩, .ok decision⟩] ∧ Opened scenario log ∧
        decision.grant = some r.grant
  | .query sql => Opened scenario log ∧ ∃ item ∈ scenario.readback_expectations, sql = item.sql

/-- The result of a scenario that ran to its end, from what was answered: all that was granted was executed. -/
def Reports (log : PortLog) (result : ProductScenarioResult) : Prop :=
  log.executed = log.granted ∧ ∃ outcome checks, log.outcomes.getLast? = some outcome ∧
    validate scenario outcome log.asked ⟨log.decisions, log.receipts⟩ log.results = .ok checks ∧
    result = scenario_result scenario outcome log.asked ⟨log.decisions, log.receipts⟩ log.results checks

/-- How a run ends: the scenario is reset behind whatever ran, unless that was cancelled. -/
inductive Closes : Except PortError ProductScenarioResult → PortLog → Prop where
  | unopened (name : String) :
    Closes (.ok (failed_result scenario ⟨"pre_reset_failed", by decide⟩))
      [⟨reset_op scenario, .error (.exception name)⟩]
  | cancelled_reset : Closes (.error .cancelled) [⟨reset_op scenario, .error .cancelled⟩]
  | cancelled {log : PortLog} : Opened scenario log → Closes (.error .cancelled) log
  | raised {log : PortLog} (name : String) : Opened scenario log →
    Closes (.error (.exception name)) (log ++ [⟨reset_op scenario, .ok ()⟩])
  | raised_again {log : PortLog} (e : PortError) : Opened scenario log →
    Closes (.error e) (log ++ [⟨reset_op scenario, .error e⟩])
  | returned {log : PortLog} (result : ProductScenarioResult) : Opened scenario log → Reports scenario log result →
    Closes (.ok result) (log ++ [⟨reset_op scenario, .ok ()⟩])
  | uncleaned {log : PortLog} (result : ProductScenarioResult) (name : String) : Opened scenario log →
    Reports scenario log result → Closes (.ok result.uncleaned) (log ++ [⟨reset_op scenario, .error (.exception name)⟩])

variable {library scenario} {log : PortLog}

/-! ## One more event -/

theorem Opened.concat (h : Opened scenario log) {op : PortOp} {a : PortAns op} (hop : op.isReset = false) :
    Opened scenario (log ++ [⟨op, a⟩]) := by
  obtain ⟨middle, rfl, hmiddle⟩ := h
  refine ⟨middle ++ [⟨op, a⟩], rfl, fun e he => ?_⟩
  rcases List.mem_append.mp he with he | he
  · exact hmiddle e he
  · rw [List.mem_singleton.mp he]
    exact hop

theorem outcomes_concat {op : PortOp} {a : PortAns op} (hop : op.isGraph = false) :
    PortLog.outcomes (log ++ [⟨op, a⟩]) = log.outcomes := by
  unfold PortLog.outcomes
  rw [List.filterMap_append]
  cases op <;> first | exact List.append_nil _ | exact Bool.noConfusion hop

abbrev protocol (library : DriverLibrary) (scenario : ProductScenario) : Protocol PortOp PortAns PortLog :=
  .logged (Allowed library scenario)

/-! ## The conversation -/

/-- Only the graph was asked so far, and it answered. -/
structure Talking (scenario : ProductScenario) (log : PortLog) : Prop where
  opened : Opened scenario log
  graphs : ∀ e ∈ log.tail, ∃ r outcome, e = ⟨.graph r, .ok outcome⟩

theorem Talking.length (h : Talking scenario log) : log.tail.length = log.outcomes.length := by
  obtain ⟨middle, rfl, -⟩ := h.opened
  have hgraphs : ∀ e ∈ middle, ∃ r outcome, e = ⟨.graph r, .ok outcome⟩ := h.graphs
  change middle.length = (PortLog.outcomes middle).length
  clear h
  induction middle with
  | nil => rfl
  | cons e middle ih =>
    rw [List.forall_mem_cons] at hgraphs
    obtain ⟨⟨r, outcome, rfl⟩, hgraphs⟩ := hgraphs
    exact congrArg (· + 1) (ih hgraphs)

theorem Talking.concat (h : Talking scenario log) {r : Orchestration.RetailRunRequest} {outcome : RetailRunOutcome} :
    Talking scenario (log ++ [⟨.graph r, .ok outcome⟩]) := by
  refine ⟨h.opened.concat rfl, ?_⟩
  obtain ⟨middle, rfl, -⟩ := h.opened
  intro e he
  rcases List.mem_append.mp he with he | he
  · exact h.graphs e he
  · exact ⟨r, outcome, List.mem_singleton.mp he⟩

theorem outcomes_graph {r : Orchestration.RetailRunRequest} {outcome : RetailRunOutcome} :
    PortLog.outcomes (log ++ [⟨.graph r, .ok outcome⟩]) = log.outcomes ++ [outcome] := by
  unfold PortLog.outcomes
  rw [List.filterMap_append]
  rfl

theorem asked_graph {r : Orchestration.RetailRunRequest} {outcome : RetailRunOutcome} :
    PortLog.asked (log ++ [⟨.graph r, .ok outcome⟩]) = log.asked ++ (asked_of outcome).getD [] := by
  unfold PortLog.asked
  rw [outcomes_graph, List.flatMap_append, List.flatMap_singleton]

/-- The end of the conversation. -/
structure Talked (scenario : ProductScenario) (outcome : RetailRunOutcome) (asked : List ClarificationSlot)
    (log : PortLog) : Prop where
  talking : Talking scenario log
  last : log.outcomes.getLast? = some outcome
  asked : log.asked = asked

theorem converse_conducts (attempts : ℕ) {log : PortLog} (htalking : Talking scenario log)
    (hthree : log.outcomes.length + attempts = 3) (hasked : ∀ outcome ∈ log.outcomes, (asked_of outcome).isSome) :
    (converse library scenario (List.range' log.outcomes.length attempts) log.outcomes.getLast? log.asked).Conducts
      (protocol library scenario)
      (fun result log' => Opened scenario log' ∧
        ∀ outcome asked, result = .ok (outcome, asked) → Talked scenario outcome asked log') log := by
  induction attempts generalizing log with
  | zero =>
    obtain ⟨outcome, hlast⟩ : ∃ outcome, log.outcomes.getLast? = some outcome := by
      rw [← Option.isSome_iff_exists, List.getLast?_isSome]
      exact List.ne_nil_of_length_pos (by omega)
    rw [hlast]
    refine Conducts.done ⟨htalking.opened, fun _ _ h => ?_⟩
    obtain ⟨rfl, rfl⟩ := Prod.mk.inj (Except.ok.inj h)
    exact ⟨htalking, hlast, rfl⟩
  | succ attempts ih =>
    rw [List.range'_succ]
    unfold converse
    cases hrequest : request library scenario log.outcomes.length (log.asked.map (answer library scenario)) with
    | error e => exact Conducts.done ⟨htalking.opened, fun _ _ h => nomatch h⟩
    | ok r =>
      have hallowed : Allowed library scenario log (.graph r) :=
        ⟨htalking.opened, htalking.graphs, by rw [htalking.length]; omega, hasked, hrequest⟩
      refine Conducts.ask hallowed fun reply _ => ?_
      cases reply with
      | error e => exact Conducts.done ⟨htalking.opened.concat rfl, fun _ _ h => nomatch h⟩
      | ok outcome =>
        change Conducts _ _ (Option.elim _ _ _) (log ++ [⟨.graph r, .ok outcome⟩])
        have hlast : (PortLog.outcomes (log ++ [⟨.graph r, .ok outcome⟩])).getLast? = some outcome := by
          rw [outcomes_graph, List.getLast?_concat]
        have hslots : PortLog.asked (log ++ [⟨.graph r, .ok outcome⟩]) = log.asked ++ (asked_of outcome).getD [] :=
          asked_graph
        cases hasks : asked_of outcome with
        | none =>
          rw [hasks] at hslots
          refine Conducts.done ⟨htalking.opened.concat rfl, fun _ _ h => ?_⟩
          obtain ⟨rfl, rfl⟩ := Prod.mk.inj (Except.ok.inj h)
          exact ⟨htalking.concat, hlast, hslots.trans (List.append_nil _)⟩
        | some slots =>
          rw [hasks] at hslots
          have hlength : (PortLog.outcomes (log ++ [⟨.graph r, .ok outcome⟩])).length = log.outcomes.length + 1 := by
            rw [outcomes_graph, List.length_append, List.length_singleton]
          have hall : ∀ other ∈ PortLog.outcomes (log ++ [⟨.graph r, .ok outcome⟩]), (asked_of other).isSome := by
            intro other hother
            rw [outcomes_graph] at hother
            rcases List.mem_append.mp hother with hother | hother
            · exact hasked other hother
            · rw [List.mem_singleton.mp hother, hasks]
              rfl
          have htalking' : Talking scenario (log ++ [⟨.graph r, .ok outcome⟩]) := htalking.concat
          have hnext := ih htalking' (by omega) hall
          rw [hlength, hlast, hslots] at hnext
          exact hnext

/-! ## The steps of the actors -/

/-- What was answered so far behind the conversation. -/
structure Told (scenario : ProductScenario) (outcome : RetailRunOutcome) (asked : List ClarificationSlot)
    (acted : Acted) (results : List QueryResult) (log : PortLog) : Prop where
  opened : Opened scenario log
  last : log.outcomes.getLast? = some outcome
  asked : log.asked = asked
  decisions : log.decisions = acted.decisions
  receipts : log.receipts = acted.receipts
  results : log.results = results

section Acting

variable {outcome : RetailRunOutcome} {asked : List ClarificationSlot} {acted : Acted} {results : List QueryResult}

theorem Told.refs (h : Told scenario outcome asked acted results log) : log.refs = proposal_refs outcome := by
  unfold PortLog.refs
  rw [h.last]
  rfl

theorem Told.concat (h : Told scenario outcome asked acted results log) (e : Event PortOp PortAns)
    (hreset : e.op.isReset = false) (hgraph : e.op.isGraph = false) :
    Told scenario outcome asked ⟨acted.decisions ++ PortLog.decisions [e], acted.receipts ++ PortLog.receipts [e]⟩
      (results ++ PortLog.results [e]) (log ++ [e]) where
  opened := h.opened.concat hreset
  last := by rw [outcomes_concat hgraph, h.last]
  asked := by
    unfold PortLog.asked
    rw [outcomes_concat hgraph]
    exact h.asked
  decisions := by rw [PortLog.decisions_append, h.decisions]
  receipts := by rw [PortLog.receipts_append, h.receipts]
  results := by rw [PortLog.results_append, h.results]

theorem Told.resolved (h : Told scenario outcome asked acted results log) (actor_ref : String)
    (a : PortAns (.resolve actor_ref)) :
      Told scenario outcome asked acted results (log ++ [⟨.resolve actor_ref, a⟩]) := by
  have hnext : Told scenario outcome asked ⟨acted.decisions ++ [], acted.receipts ++ []⟩ (results ++ []) _ :=
    h.concat ⟨.resolve actor_ref, a⟩ rfl rfl
  rw [List.append_nil, List.append_nil, List.append_nil] at hnext
  exact hnext

theorem Told.decided (h : Told scenario outcome asked acted results log) (r : DecisionRequest)
    (decision : DecisionReceipt) :
    Told scenario outcome asked { acted with decisions := acted.decisions ++ [decision] } results
      (log ++ [⟨.decide r, .ok decision⟩]) := by
  have hnext : Told scenario outcome asked ⟨acted.decisions ++ [decision], acted.receipts ++ []⟩ (results ++ []) _ :=
    h.concat ⟨.decide r, .ok decision⟩ rfl rfl
  rw [List.append_nil, List.append_nil] at hnext
  exact hnext

theorem Told.executed (h : Told scenario outcome asked acted results log) (r : ExecuteRequest)
    (receipt : ExecutionReceipt) :
    Told scenario outcome asked { acted with receipts := acted.receipts ++ [receipt] } results
      (log ++ [⟨.execute r, .ok receipt⟩]) := by
  have hnext : Told scenario outcome asked ⟨acted.decisions ++ [], acted.receipts ++ [receipt]⟩ (results ++ []) _ :=
    h.concat ⟨.execute r, .ok receipt⟩ rfl rfl
  rw [List.append_nil, List.append_nil] at hnext
  exact hnext

theorem Told.queried (h : Told scenario outcome asked acted results log) (sql : String) (result : QueryResult) :
    Told scenario outcome asked acted (results ++ [result]) (log ++ [⟨.query sql, .ok result⟩]) := by
  have hnext : Told scenario outcome asked ⟨acted.decisions ++ [], acted.receipts ++ []⟩ (results ++ [result]) _ :=
    h.concat ⟨.query sql, .ok result⟩ rfl rfl
  rw [List.append_nil, List.append_nil] at hnext
  exact hnext

/-- Nothing but the graph was asked in the conversation. -/
theorem Talking.none_of (h : Talking scenario log) {β : Type} {f : Event PortOp PortAns → Option β}
    (hreset : ∀ e, e.op.isReset = true → f e = none) (hgraph : ∀ e, e.op.isGraph = true → f e = none) :
    log.filterMap f = [] := by
  obtain ⟨middle, rfl, -⟩ := h.opened
  refine List.filterMap_eq_nil_iff.mpr fun e he => ?_
  rcases List.mem_cons.mp he with rfl | he
  · exact hreset _ rfl
  · obtain ⟨r, outcome, rfl⟩ := h.graphs e he
    exact hgraph _ rfl

theorem Talked.told (h : Talked scenario outcome asked log) : Told scenario outcome asked ⟨[], []⟩ [] log := by
  refine ⟨h.talking.opened, h.last, h.asked, h.talking.none_of ?_ ?_, h.talking.none_of ?_ ?_, h.talking.none_of ?_ ?_⟩
  all_goals
    rintro ⟨op, a⟩ hop
    cases op <;> first | rfl | exact Bool.noConfusion hop

theorem Talked.ungranted (h : Talked scenario outcome asked log) : log.executed = log.granted := by
  have hexecuted : log.executed = [] := by
    refine h.talking.none_of ?_ ?_
    all_goals
      rintro ⟨op, a⟩ hop
      cases op <;> first | rfl | exact Bool.noConfusion hop
  have hgranted : log.granted = [] := by
    refine h.talking.none_of ?_ ?_
    all_goals
      rintro ⟨op, a⟩ hop
      cases op <;> first | rfl | exact Bool.noConfusion hop
  rw [hexecuted, hgranted]

/-- How the loop over the steps ends. -/
def ActsOn (scenario : ProductScenario) (outcome : RetailRunOutcome) (asked : List ClarificationSlot)
    (result : Except PortError Acted) (log : PortLog) : Prop :=
  Opened scenario log ∧
    ∀ acted, result = .ok acted → Told scenario outcome asked acted [] log ∧ log.executed = log.granted

theorem ActsOn.error (h : Opened scenario log) (e : PortError) : ActsOn scenario outcome asked (.error e) log :=
  ⟨h, fun _ heq => nomatch heq⟩

theorem granted_decide {r : DecisionRequest} {decision : DecisionReceipt} :
    PortLog.granted [⟨.decide r, .ok decision⟩] = (grant_of r decision).toList := by
  change List.filterMap _ [_] = _
  cases hgrant : grant_of r decision with
  | none => exact List.filterMap_cons_none hgrant
  | some x => exact List.filterMap_cons_some hgrant

theorem settled_decided (h : log.executed = log.granted) (actor_ref : String) (actor : Operations.ActorContext)
    {r : DecisionRequest} {decision : DecisionReceipt} (hnone : grant_of r decision = none) :
    PortLog.executed (log ++ [⟨.resolve actor_ref, .ok actor⟩] ++ [⟨.decide r, .ok decision⟩]) =
      PortLog.granted (log ++ [⟨.resolve actor_ref, .ok actor⟩] ++ [⟨.decide r, .ok decision⟩]) := by
  rw [PortLog.executed_append, PortLog.granted_append, PortLog.executed_append, PortLog.granted_append, h,
    granted_decide, hnone]
  rfl

theorem settled_executed (h : log.executed = log.granted) (actor_ref : String) (actor : Operations.ActorContext)
    {r : DecisionRequest} {decision : DecisionReceipt} {x : ExecuteRequest} (hsome : grant_of r decision = some x)
    (receipt : ExecutionReceipt) :
    PortLog.executed (log ++ [⟨.resolve actor_ref, .ok actor⟩] ++ [⟨.decide r, .ok decision⟩] ++
        [⟨.execute x, .ok receipt⟩]) =
      PortLog.granted (log ++ [⟨.resolve actor_ref, .ok actor⟩] ++ [⟨.decide r, .ok decision⟩] ++
        [⟨.execute x, .ok receipt⟩]) := by
  rw [PortLog.executed_append, PortLog.granted_append, PortLog.executed_append, PortLog.granted_append,
    PortLog.executed_append, PortLog.granted_append, h, granted_decide, hsome]
  have hresolve : PortLog.executed [⟨.resolve actor_ref, .ok actor⟩] = [] := rfl
  have hdecide : PortLog.executed [⟨.decide r, .ok decision⟩] = [] := rfl
  have hgranted : PortLog.granted [⟨.resolve actor_ref, .ok actor⟩] = [] := rfl
  have hexecute : PortLog.granted [⟨.execute x, .ok receipt⟩] = [] := rfl
  rw [hresolve, hdecide, hgranted, hexecute, List.append_nil, List.append_nil, List.append_nil]
  rfl

theorem grant_of_approve {r : DecisionRequest} {decision : DecisionReceipt} {grant : Operations.ExecutionGrant}
    (happrove : r.decision = .approve) (hgrant : decision.grant = some grant) :
    grant_of r decision = some ⟨r.actor, grant⟩ := by
  unfold grant_of
  rw [if_pos happrove, hgrant]
  rfl

theorem grant_of_none {r : DecisionRequest} {decision : DecisionReceipt}
    (h : ∀ grant, r.decision = .approve → decision.grant ≠ some grant) : grant_of r decision = none := by
  unfold grant_of
  split_ifs with happrove
  · rw [Option.eq_none_iff_forall_ne_some.mpr fun grant => h grant happrove]
    rfl
  · rfl

theorem action_approve {action : StepAction} (h : action.decision = .approve) : action = .approve_execute := by
  cases action with
  | approve_execute => rfl
  | reject => cases h

theorem act_steps_conducts {steps : List ScenarioActorStep} (hsteps : steps ⊆ scenario.actor_steps)
    (h : Told scenario outcome asked acted [] log) (hgranted : log.executed = log.granted) :
    (act_steps (proposal_refs outcome) steps acted).Conducts (protocol library scenario)
      (ActsOn scenario outcome asked) log := by
  induction steps generalizing log acted with
  | nil => exact Conducts.done ⟨h.opened, fun _ heq => Except.ok.inj heq ▸ ⟨h, hgranted⟩⟩
  | cons step steps ih =>
    have hstep : step ∈ scenario.actor_steps := hsteps List.mem_cons_self
    have hrest : steps ⊆ scenario.actor_steps := fun _ hmem => hsteps (List.mem_cons_of_mem _ hmem)
    unfold act_steps
    cases href : (proposal_refs outcome)[step.proposal_index]? with
    | none => exact ih hrest h hgranted
    | some proposal_ref =>
      have hfound : (log.refs[step.proposal_index]?).isSome := by rw [h.refs, href]; rfl
      refine Conducts.ask ⟨h.opened, step, hstep, rfl, hfound⟩ fun reply _ => ?_
      have hresolved := h.resolved step.actor_ref reply
      cases reply with
      | error e => exact Conducts.done (.error hresolved.opened e)
      | ok actor =>
        have hallowed : Allowed library scenario (log ++ [⟨.resolve step.actor_ref, .ok actor⟩])
            (.decide ⟨actor, proposal_ref, step.action.decision, reviewed⟩) :=
          ⟨log, step, hstep, rfl, hresolved.opened, rfl, hresolved.refs ▸ href⟩
        refine Conducts.ask hallowed fun reply _ => ?_
        cases reply with
        | error e => exact Conducts.done (.error (hresolved.opened.concat rfl) e)
        | ok decision =>
          have hdecided := hresolved.decided ⟨actor, proposal_ref, step.action.decision, reviewed⟩ decision
          dsimp only [awaited]
          split
          · rename_i grant happrove hgrant
            have hexecute : Allowed library scenario (log ++ [⟨.resolve step.actor_ref, .ok actor⟩] ++
                [⟨.decide ⟨actor, proposal_ref, step.action.decision, reviewed⟩, .ok decision⟩])
                  (.execute ⟨actor, grant⟩) := by
              refine ⟨log ++ [⟨.resolve step.actor_ref, .ok actor⟩], proposal_ref, decision, ?_, hdecided.opened,
                hgrant⟩
              rw [happrove]
              rfl
            refine Conducts.ask hexecute fun reply _ => ?_
            cases reply with
            | error e => exact Conducts.done (.error (hdecided.opened.concat rfl) e)
            | ok receipt =>
              have happroved : step.action.decision = .approve := happrove ▸ rfl
              exact ih hrest (hdecided.executed ⟨actor, grant⟩ receipt)
                (settled_executed hgranted _ _ (grant_of_approve happroved hgrant) receipt)
          · rename_i hother
            refine ih hrest hdecided (settled_decided hgranted _ _ (grant_of_none fun grant happrove => ?_))
            exact hother grant (action_approve happrove)

/-! ## The readback -/

theorem read_back_conducts {items : List ReadbackExpectation} (hitems : items ⊆ scenario.readback_expectations)
    (h : Told scenario outcome asked acted results log) (hgranted : log.executed = log.granted) :
    (read_back items results).Conducts (protocol library scenario)
      (fun result log => Opened scenario log ∧ ∀ results, result = .ok results →
        Told scenario outcome asked acted results log ∧ log.executed = log.granted) log := by
  induction items generalizing log results with
  | nil => exact Conducts.done ⟨h.opened, fun _ heq => Except.ok.inj heq ▸ ⟨h, hgranted⟩⟩
  | cons item items ih =>
    have hitem : item ∈ scenario.readback_expectations := hitems List.mem_cons_self
    refine Conducts.ask ⟨h.opened, item, hitem, rfl⟩ fun reply _ => ?_
    cases reply with
    | error e => exact Conducts.done ⟨h.opened.concat rfl, fun _ heq => nomatch heq⟩
    | ok result =>
      refine ih (fun _ hmem => hitems (List.mem_cons_of_mem _ hmem)) (h.queried item.sql result) ?_
      have hsettled : PortLog.executed (log ++ [⟨.query item.sql, .ok result⟩]) =
          PortLog.granted (log ++ [⟨.query item.sql, .ok result⟩]) := by
        rw [PortLog.executed_append, PortLog.granted_append, hgranted]
        rfl
      exact hsettled

end Acting

/-! ## The run -/

/-- How the part between the resets ends. -/
def RunsOn (scenario : ProductScenario) (result : Except PortError ProductScenarioResult) (log : PortLog) : Prop :=
  Opened scenario log ∧ ∀ r, result = .ok r → Reports scenario log r

theorem RunsOn.error (h : Opened scenario log) (e : PortError) : RunsOn scenario (.error e) log :=
  ⟨h, fun _ heq => nomatch heq⟩

theorem run_after_reset_conducts (h : Opened scenario log) (hlog : log.tail = []) :
    (run_after_reset library scenario).Conducts (protocol library scenario) (RunsOn scenario) log := by
  have hlog : log = [⟨reset_op scenario, .ok ()⟩] := by
    obtain ⟨middle, rfl, -⟩ := h
    rw [show middle = [] from hlog]
  subst hlog
  have htalking : Talking scenario [⟨reset_op scenario, .ok ()⟩] := ⟨h, fun _ he => absurd he List.not_mem_nil⟩
  unfold run_after_reset
  refine Conducts.bind ((converse_conducts 3 htalking rfl fun _ he => absurd he List.not_mem_nil).mono ?_)
  rintro (e | ⟨outcome, asked⟩) log ⟨hopen, htalked⟩
  · exact Conducts.done (.error hopen e)
  have htalked := htalked outcome asked rfl
  refine Conducts.bind ((act_steps_conducts (List.Subset.refl _) htalked.told htalked.ungranted).mono ?_)
  rintro (e | acted) log ⟨hopen, hacted⟩
  · exact Conducts.done (.error hopen e)
  obtain ⟨htold, hgranted⟩ := hacted acted rfl
  refine Conducts.bind ((read_back_conducts (List.Subset.refl _) htold hgranted).mono ?_)
  rintro (e | results) log ⟨hopen, hread⟩
  · exact Conducts.done (.error hopen e)
  obtain ⟨htold, hgranted⟩ := hread results rfl
  change Conducts _ _ (awaited _ (validate scenario outcome asked acted results)) log
  cases hchecks : validate scenario outcome asked acted results with
  | error e => exact Conducts.done (.error hopen e)
  | ok checks =>
    refine Conducts.done ⟨hopen, fun r heq => ⟨hgranted, outcome, checks, htold.last, ?_⟩⟩
    obtain rfl := Except.ok.inj heq
    rw [htold.asked, htold.decisions, htold.receipts, htold.results]
    exact ⟨hchecks, rfl⟩

theorem cleaned_conducts {result : Except PortError ProductScenarioResult} (h : RunsOn scenario result log) :
    (cleaned scenario result).Conducts (protocol library scenario) (Closes scenario) log := by
  have hallowed : Allowed library scenario log (reset_op scenario) := ⟨rfl, .inr h.1⟩
  match result with
  | .error .cancelled => exact Conducts.done (.cancelled h.1)
  | .error (.exception name) =>
    refine Conducts.ask hallowed fun reply _ => ?_
    cases reply with
    | error e => exact Conducts.done (.raised_again e h.1)
    | ok => exact Conducts.done (.raised name h.1)
  | .ok r =>
    refine Conducts.ask hallowed fun reply _ => ?_
    match reply with
    | .error (.exception name) => exact Conducts.done (.uncleaned r name h.1 (h.2 r rfl))
    | .error .cancelled => exact Conducts.done (.raised_again .cancelled h.1)
    | .ok () => exact Conducts.done (.returned r h.1 (h.2 r rfl))

theorem run_conducts :
    (run library scenario).Conducts (protocol library scenario) (Closes scenario) [] := by
  have hallowed : Allowed library scenario [] (reset_op scenario) := ⟨rfl, .inl rfl⟩
  refine Conducts.ask hallowed fun reply _ => ?_
  match reply with
  | .error (.exception name) => exact Conducts.done (.unopened name)
  | .error .cancelled => exact Conducts.done .cancelled_reset
  | .ok () =>
    have hopen : Opened scenario [⟨reset_op scenario, .ok ()⟩] := ⟨[], rfl, fun _ he => absurd he List.not_mem_nil⟩
    refine Conducts.bind ((run_after_reset_conducts hopen rfl).mono ?_)
    exact fun result log h => cleaned_conducts h

end Laws

/-- **Whatever the ports answer, and wherever the driver is stopped**, each operation is allowed behind what it did
before, and a run that ends is closed. -/
theorem driver_conducts (library : DriverLibrary) (scenario : ProductScenario) (env : Env PortOp PortAns) (n : ℕ) :
    (∀ front e back, ((run library scenario).cut env n []).2 = front ++ e :: back →
      Allowed library scenario front e.op) ∧
    ∀ result, ((run library scenario).cut env n []).1 = some result →
      Closes scenario result ((run library scenario).cut env n []).2 :=
  run_conducts.allowed env n

end CommerceAgent.ProductEval
