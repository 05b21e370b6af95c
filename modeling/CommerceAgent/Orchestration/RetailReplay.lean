import CommerceAgent.Lib.Session
import CommerceAgent.Orchestration.RetailBudget

/-!
# Replays of a retail run

A run whose outcome is decided saves it before it cleans up. What later runs make of the saved
outcome, wherever the runs crash.
-/

open CommerceAgent.Lib
open CommerceAgent.Lib.Flow (Obeys onOk Protocol Conducts)
open CommerceAgent.Operations (UUID Text Code Name HexDigest ProposalRef)

namespace CommerceAgent.Orchestration

/-! ## A saved outcome -/

/-- The checkpoint holds a terminal or a stop. -/
def RetailGraphState.decided (state : RetailGraphState) : Prop :=
  state.terminal_json.isSome ∨ state.stop_reason_json.isSome

instance (state : RetailGraphState) : Decidable state.decided := by
  unfold RetailGraphState.decided
  infer_instance

def RetailRunOutcome.retryable (outcome : RetailRunOutcome) : Bool := outcome.stop.any StopOutcome.retryable

namespace RetailGraph

theorem request_type (request : ClarificationRequest) :
    (Json.toJson request).sortKeys.get? "type" = some (.str "clarification_request") := by
  change (Json.obj _).sortKeys.get? "type" = _
  rw [Json.get?_sortKeys (by simp)]
  rfl

theorem report_type (report : InvestigationReport) :
    (Json.toJson report).sortKeys.get? "type" = some (.str "investigation_report") := by
  change (Json.obj _).sortKeys.get? "type" = _
  rw [Json.get?_sortKeys (by simp)]
  rfl

theorem load_terminal_json (terminal : RetailTerminal) : load_terminal (terminal_json terminal) = some terminal := by
  cases terminal with
  | clarification request =>
    unfold load_terminal terminal_json model_dump_json
    rw [Json.loads_dumps, Option.bind_eq_bind, Option.bind_some, request_type, if_pos rfl, Json.Codec.ofJson_toJson]
    rfl
  | report report =>
    have hother : some (Json.str "investigation_report") ≠ some (.str "clarification_request") := by decide
    unfold load_terminal terminal_json model_dump_json
    rw [Json.loads_dumps, Option.bind_eq_bind, Option.bind_some, report_type, if_neg hother, Json.Codec.ofJson_toJson]
    rfl

theorem load_optional_map {α : Type} {load : String → Option α} {dump : α → String}
    (h : ∀ value, load (dump value) = some value) (value : Option α) :
    load_optional load (value.map dump) = .ok value := by
  cases value with
  | none => rfl
  | some value =>
    unfold load_optional
    rw [Option.map_some]
    dsimp only
    rw [h value]

theorem status_of_value {status : RetailRunStatus} {terminal : Option RetailTerminal} {stop : Option StopOutcome}
    (h : TerminalValue status terminal stop) : status_of terminal stop = status := by
  cases status <;> rcases terminal with _ | (_ | _) <;> cases stop <;> first | rfl | exact h.elim

/-- **The round trip.** A decided outcome is restored from its checkpoint. -/
theorem restore_finalized {request : RetailRunRequest} {desired : RetailRunOutcome} (state : RetailGraphState)
    (hattempt : desired.attempt_id = request.attempt_id) :
    restore_day4_outcome request (finalized desired state) = .ok desired := by
  obtain ⟨status, terminal, stop, model_calls, tool_calls, hashes, attempt_id, value⟩ := desired
  obtain rfl : attempt_id = request.attempt_id := hattempt
  have hterminal : load_optional load_terminal (terminal.map terminal_json) = .ok terminal :=
    load_optional_map load_terminal_json terminal
  have hstop : load_optional model_validate_json (stop.map model_dump_json) = .ok stop :=
    load_optional_map model_validate_dump stop
  obtain rfl := status_of_value value
  unfold restore_day4_outcome finalized
  dsimp only
  rw [hterminal, hstop]
  exact dif_pos value

theorem finalized_decided (desired : RetailRunOutcome) (state : RetailGraphState) :
    (finalized desired state).decided := by
  obtain ⟨status, terminal, stop, model_calls, tool_calls, hashes, attempt_id, value⟩ := desired
  cases status <;> rcases terminal with _ | (_ | _) <;> cases stop <;>
    first | exact Or.inl rfl | exact Or.inr rfl | exact value.elim

/-- What a checkpoint that the run may go on from says about the run. -/
structure Compatible (request : RetailRunRequest) (state : RetailGraphState) : Prop where
  schema : state.state_schema_revision = RETAIL_STATE_SCHEMA_REVISION
  node : state.node_revision = RETAIL_NODE_REVISION
  config : state.hashes.config_hash = request.run_scope.config_hash
  scope : state.run_scope = request.run_scope
  attempt : state.attempt_id = request.attempt_id
  request : state.request = request

variable {graph : RetailGraph} {request : RetailRunRequest} {state : RetailGraphState} {desired : RetailRunOutcome}

theorem assert_compatible : assert_checkpoint_compatible request state = .ok () ↔ Compatible request state := by
  unfold assert_checkpoint_compatible
  constructor
  · intro h
    split_ifs at h with hschema hnode hconfig hscope hattempt hrequest
    exact ⟨not_not.mp hschema, not_not.mp hnode, not_not.mp hconfig, not_not.mp hscope, not_not.mp hattempt,
      not_not.mp hrequest⟩
  · intro h
    rw [if_neg (not_not.mpr h.schema), if_neg (not_not.mpr h.node), if_neg (not_not.mpr h.config),
      if_neg (not_not.mpr h.scope), if_neg (not_not.mpr h.attempt), if_neg (not_not.mpr h.request)]

/-- A checkpoint from which a run goes on. -/
structure Undecided (request : RetailRunRequest) (state : RetailGraphState) :
    Prop extends Compatible request state where
  undecided : ¬ state.decided

theorem Undecided.with_hashes (h : Undecided request state) {other : RetailGraphState}
    (hsame : (other.state_schema_revision, other.node_revision, other.run_scope, other.attempt_id, other.request) =
      (state.state_schema_revision, state.node_revision, state.run_scope, state.attempt_id, state.request))
    (hdecided : (other.terminal_json, other.stop_reason_json) = (state.terminal_json, state.stop_reason_json))
    (hconfig : other.hashes.config_hash = request.run_scope.config_hash) : Undecided request other := by
  simp only [Prod.mk.injEq] at hsame hdecided
  obtain ⟨hschema, hnode, hscope, hattempt, hrequest⟩ := hsame
  refine ⟨⟨hschema.trans h.schema, hnode.trans h.node, hconfig, hscope.trans h.scope, hattempt.trans h.attempt,
    hrequest.trans h.request⟩, ?_⟩
  unfold RetailGraphState.decided
  rw [hdecided.1, hdecided.2]
  exact h.undecided

structure Outcome (request : RetailRunRequest) (desired : RetailRunOutcome) : Prop where
  attempt : desired.attempt_id = request.attempt_id
  config : desired.hashes.config_hash = request.run_scope.config_hash

/-- The checkpoint gives the outcome back. -/
structure Restores (request : RetailRunRequest) (desired : RetailRunOutcome) (state : RetailGraphState) : Prop where
  compatible : Compatible request state
  decided : state.decided
  restored : restore_day4_outcome request state = .ok desired

theorem Restores.finalized (h : Compatible request state) (hdesired : Outcome request desired) :
    Restores request desired (finalized desired state) :=
  ⟨⟨h.schema, h.node, hdesired.config, h.scope, h.attempt, h.request⟩, finalized_decided desired state,
    restore_finalized state hdesired.attempt⟩

theorem Restores.marked (h : Restores request desired state) : Restores request desired state.marked :=
  ⟨⟨h.compatible.schema, h.compatible.node, h.compatible.config, h.compatible.scope, h.compatible.attempt,
    h.compatible.request⟩, h.decided, h.restored⟩

/-! ## The stages of a run -/

/-- What a run has come to. -/
inductive Stage where
  | working
  /-- An outcome was saved, in this run. -/
  | saved (desired : RetailRunOutcome)
  | interrupted (desired : RetailRunOutcome)
  /-- A saved outcome, whose private turns are still there. -/
  | decided (desired : RetailRunOutcome)
  | failed (desired : RetailRunOutcome)
  | cleaned (desired : RetailRunOutcome)
  | complete (desired : RetailRunOutcome)

/-- The private turns of the run. -/
def attempt_of (graph : RetailGraph) (request : RetailRunRequest) : AttemptRef :=
  ⟨scope_digest graph.library request.run_scope, request.attempt_id⟩

/-- What a run may do in a stage. -/
def Stage.allowed (graph : RetailGraph) (request : RetailRunRequest) : Stage → RetailOp → Prop
  | .working, .save state => Undecided request state ∨
      ∃ desired before, state = finalized desired before ∧ Compatible request before ∧ Outcome request desired
  | .working, .interrupts _ => True
  | .working, .build _ => True
  | .working, .complete _ => True
  | .working, .generate _ => True
  | .working, .execute_query _ => True
  | .working, .propose _ => True
  | .saved _, .interrupts _ => True
  | .decided _, .delete_attempt attempt => attempt = attempt_of graph request
  | .cleaned _, .mark_complete => True
  | _, _ => False

/-- The outcome that a save decides. -/
def Stage.save (request : RetailRunRequest) (state : RetailGraphState) : Stage :=
  if state.decided then
    match restore_day4_outcome request state with
    | .ok desired => .saved desired
    | .error _ => .working
  else .working

def Stage.next (request : RetailRunRequest) : Stage → (op : RetailOp) → RetailAns op → Stage
  | .working, .save state, _ => Stage.save request state
  | .saved desired, .interrupts _, answer =>
    match answer with
    | true => .interrupted desired
    | false => .decided desired
  | .decided desired, .delete_attempt _, answer =>
    match answer with
    | .ok () => .cleaned desired
    | .error _ => .failed desired
  | .cleaned desired, .mark_complete, _ => .complete desired
  | stage, _, _ => stage

def stages (graph : RetailGraph) (request : RetailRunRequest) : Protocol RetailOp RetailAns Stage where
  allowed := Stage.allowed graph request
  next := Stage.next request
  ok _ _ := True

theorem Stage.save_undecided (h : Undecided request state) : Stage.save request state = .working := if_neg h.undecided

theorem Stage.save_finalized (hdesired : desired.attempt_id = request.attempt_id) :
    Stage.save request (finalized desired state) = .saved desired := by
  unfold Stage.save
  rw [if_pos (finalized_decided desired state), restore_finalized state hdesired]

/-- A stop that says nothing of the outcome, and may be tried again. -/
def retry (request : RetailRunRequest) (reason_code : Code 2 127) (desired : RetailRunOutcome) : RetailRunOutcome :=
  stopped_day4 request reason_code desired.model_calls desired.tool_calls desired.hashes true

/-- What a run ends with, in each stage. -/
def Ends (request : RetailRunRequest) : Except Raised RetailRunOutcome → Stage → Prop
  | .error _, .working => True
  | .ok outcome, .working => ∃ model_calls tool_calls hashes,
      outcome = stopped_day4 request checkpoint_interrupt model_calls tool_calls hashes true
  | .ok outcome, .interrupted desired => outcome = retry request checkpoint_interrupt desired
  | .ok outcome, .failed desired => outcome = retry request private_turn_cleanup_failed desired
  | .ok outcome, .complete desired => outcome = desired
  | _, _ => False

/-! ## What a run does -/

theorem finish_day4_conducts (desired : RetailRunOutcome) :
    (graph.finish_day4 request desired).Conducts (stages graph request) (Ends request) (.decided desired) := by
  unfold finish_day4
  refine Conducts.ask rfl fun answer _ => ?_
  rcases answer with e | ⟨⟩
  · exact Conducts.done rfl
  · exact Conducts.ask trivial fun _ _ => Conducts.done rfl

variable {k : RetailCall RetailRunOutcome}

theorem interrupt_day4_conducts (state : RetailGraphState) (boundary : String)
    (hk : k.Conducts (stages graph request) (Ends request) .working) :
    (interrupt_day4 request state boundary k).Conducts (stages graph request) (Ends request) .working := by
  unfold interrupt_day4
  refine Conducts.ask trivial fun interrupted _ => ?_
  cases interrupted with
  | true => exact Conducts.done ⟨_, _, _, rfl⟩
  | false => exact hk

theorem save_undecided_conducts (h : Undecided request state)
    (hk : k.Conducts (stages graph request) (Ends request) .working) :
    (save_day4_state state k).Conducts (stages graph request) (Ends request) .working := by
  refine Conducts.ask (Or.inl h) fun _ _ => ?_
  change k.Conducts _ _ (Stage.save request state)
  rwa [Stage.save_undecided h]

theorem cache_and_finish_conducts (h : Compatible request state) (hdesired : Outcome request desired) :
    (graph.cache_and_finish request desired state).Conducts (stages graph request) (Ends request) .working := by
  unfold cache_and_finish save_day4_state
  refine Conducts.ask (Or.inr ⟨desired, state, rfl, h, hdesired⟩) fun _ _ => ?_
  change Flow.Conducts _ _ _ (Stage.save request (finalized desired state))
  rw [Stage.save_finalized hdesired.attempt]
  unfold interrupt_day4
  refine Conducts.ask trivial fun interrupted _ => ?_
  cases interrupted with
  | true => exact Conducts.done rfl
  | false => exact finish_day4_conducts desired

theorem stop_run_conducts (h : Undecided request state) (reason_code : Code 2 127) (model_calls tool_calls : ℕ) :
    (graph.stop_run request state reason_code model_calls tool_calls).Conducts (stages graph request) (Ends request)
      .working :=
  cache_and_finish_conducts h.toCompatible ⟨rfl, h.config⟩

/-- A part of a run that saves nothing. -/
def Works {α : Type} (graph : RetailGraph) (request : RetailRunRequest) (call : RetailCall α) (post : α → Prop) :
    Prop :=
  call.Conducts (stages graph request) (fun result stage => stage = .working ∧ ∀ a, result = .ok a → post a) .working

variable {α : Type} {call : RetailCall α} {post : α → Prop}

theorem Works.raise (e : Raised) : Works graph request (raise e) post := Conducts.done ⟨rfl, nofun⟩

theorem Works.ok {a : α} (h : post a) : Works graph request (.done (.ok a)) post :=
  Conducts.done ⟨rfl, fun _ heq => Except.ok.inj heq ▸ h⟩

theorem Works.then_run (h : Works graph request call post) {next : α → RetailCall RetailRunOutcome}
    (hnext : ∀ a, post a → (next a).Conducts (stages graph request) (Ends request) .working) :
    (call.bind (onOk next)).Conducts (stages graph request) (Ends request) .working := by
  refine Conducts.bind (h.mono fun result stage hends => ?_)
  obtain ⟨rfl, hpost⟩ := hends
  cases result with
  | error e => exact Conducts.done trivial
  | ok a => exact hnext a (hpost a rfl)

theorem Works.ask {β : Type} {op : RetailOp} {next : RetailAns op → RetailCall β} {post : β → Prop}
    (hop : Stage.allowed graph request .working op) (hsame : ∀ answer, Stage.next request .working op answer = .working)
    (h : ∀ answer, Works graph request (next answer) post) : Works graph request (.ask op next) post := by
  refine Conducts.ask hop fun answer _ => ?_
  change (next answer).Conducts _ _ (Stage.next request .working op answer)
  rw [hsame]
  exact h answer

theorem Works.bind {β : Type} {next : α → RetailCall β} {post' : β → Prop} (h : Works graph request call post)
    (hnext : ∀ a, post a → Works graph request (next a) post') : Works graph request (call.bind (onOk next)) post' := by
  refine Conducts.bind (Flow.Conducts.mono h fun result stage hends => ?_)
  obtain ⟨rfl, hpost⟩ := hends
  cases result with
  | error e => exact Works.raise e
  | ok a => exact hnext a (hpost a rfl)

theorem call_day4_model_works (step : PromptStep) (evidence : List ContextDatum) (sequence : ℕ) :
    Works graph request (graph.call_day4_model request step evidence sequence)
      fun answer => answer.2.config_hash = request.run_scope.config_hash := by
  unfold call_day4_model
  have hbuild : Works graph request (build (model_context request step evidence sequence))
      fun hashes => hashes.config_hash = request.run_scope.config_hash := by
    unfold build
    refine Works.ask trivial (fun _ => rfl) fun answer => ?_
    cases answer with
    | error e => exact Works.raise e
    | ok hashes =>
      rw [Flow.onOk_ok]
      split
      · exact Works.raise _
      · rename_i hconfig
        exact Works.ok (not_not.mp hconfig).symm
  refine hbuild.bind fun hashes hconfig => Works.ask trivial (fun _ => rfl) fun answer => ?_
  cases answer with
  | error e => exact Works.raise e
  | ok response =>
    rw [Flow.onOk_ok]
    split
    · exact Works.raise _
    · exact Works.ok hconfig

theorem execute_proposal_works (dispatcher : RetailToolDispatcher) (call : ToolCall) :
    Works graph request (graph.execute_proposal dispatcher call) fun _ => True := by
  unfold execute_proposal
  split
  · split
    · exact Works.raise _
    · split
      · exact Works.raise _
      · refine Works.ask trivial (fun _ => rfl) fun answer => ?_
        cases answer with
        | error e => exact Works.raise e
        | ok snapshot =>
          rw [Flow.onOk_ok]
          split
          · exact Works.raise _
          · exact Works.ok trivial
  · exact Works.raise _

theorem report_call_works (datums : List ContextDatum) (state : RetailGraphState) :
    Works graph request (graph.report_call request datums state)
      fun answer => answer.2.config_hash = request.run_scope.config_hash := by
  unfold report_call
  refine (call_day4_model_works _ _ _).bind fun answer hconfig => ?_
  dsimp only
  split
  · exact Works.raise _
  · exact Works.ok hconfig

theorem submit_report_conducts (h : Undecided request state) (proposal_refs : List String) (call : ToolCall) :
    (graph.submit_report request state proposal_refs call).Conducts (stages graph request) (Ends request) .working := by
  unfold submit_report
  split
  · exact Conducts.done trivial
  · split
    · exact Conducts.done trivial
    · split
      · exact Conducts.done trivial
      · exact cache_and_finish_conducts h.toCompatible ⟨rfl, h.config⟩

theorem on_report_call_conducts (h : Undecided request state) (proposal_refs : List String) (call : ToolCall)
    {again : List String → RetailCall RetailRunOutcome}
    (hagain : ∀ proposal_refs, (again proposal_refs).Conducts (stages graph request) (Ends request) .working) :
    (graph.on_report_call request state proposal_refs call again).Conducts (stages graph request) (Ends request)
      .working := by
  unfold on_report_call
  split
  · exact submit_report_conducts h proposal_refs call
  · split
    · exact stop_run_conducts h _ _ _
    · refine save_undecided_conducts (h.with_hashes rfl rfl h.config) ?_
      refine (execute_proposal_works _ call).then_run fun source_refs _ => ?_
      exact save_undecided_conducts (h.with_hashes rfl rfl h.config) (interrupt_day4_conducts _ _ (hagain _))

theorem report_loop_conducts (datums : List ContextDatum) {state : RetailGraphState} (proposal_refs : List String)
    (h : Undecided request state) :
    (graph.report_loop request datums state proposal_refs).Conducts (stages graph request) (Ends request) .working := by
  unfold report_loop
  split
  · refine on_report_call_conducts h proposal_refs _ fun proposal_refs => ?_
    exact report_loop_conducts datums proposal_refs (h.with_hashes rfl rfl h.config)
  · split
    · exact stop_run_conducts h _ _ _
    · refine (report_call_works datums state).then_run fun answer hconfig => ?_
      have hanswered : Undecided request (answered state answer.2) := h.with_hashes rfl rfl hconfig
      refine on_report_call_conducts hanswered proposal_refs _ fun proposal_refs => ?_
      exact report_loop_conducts datums proposal_refs (h.with_hashes rfl rfl hconfig)
termination_by report_turns graph.policy state
decreasing_by
  · rename_i hpending _ _
    rw [report_turns_proposed, report_turns, hpending, Option.isSome_some, if_pos rfl]
    omega
  · rw [report_turns_proposed]
    unfold report_turns
    simp only [answered]
    omega

theorem prepare_report_conducts (h : Undecided request state) (evidence_results : List EvidenceResult)
    (reconciliation : ReconciliationResult) :
    (graph.prepare_report request state evidence_results reconciliation).Conducts (stages graph request) (Ends request)
      .working := by
  unfold prepare_report
  split
  · exact Conducts.done trivial
  · exact report_loop_conducts _ _ h

theorem prepare_reconciliation_conducts (h : Undecided request state) (evidence_results : List EvidenceResult) :
    (graph.prepare_reconciliation request state evidence_results).Conducts (stages graph request) (Ends request)
      .working := by
  unfold prepare_reconciliation
  split
  · exact prepare_report_conducts h _ _
  · have hreconciled : Undecided request (reconciled state (graph.reconcile evidence_results)) :=
      h.with_hashes rfl rfl h.config
    exact save_undecided_conducts hreconciled (prepare_report_conducts hreconciled _ _)

theorem generate_candidate_conducts (h : Undecided request state) (step : QueryPlanStep)
    {k : SqlCandidate → RetailCall RetailRunOutcome}
    (hk : ∀ candidate, (k candidate).Conducts (stages graph request) (Ends request) .working) :
    (graph.generate_candidate request state step k).Conducts (stages graph request) (Ends request) .working := by
  unfold generate_candidate
  split
  · exact stop_run_conducts h _ _ _
  · split
    · exact Conducts.done trivial
    · split
      · exact Conducts.done trivial
      · refine Conducts.ask trivial fun answer _ => ?_
        cases answer with
        | no_progress => exact stop_run_conducts h _ _ _
        | raised e => exact Conducts.done trivial
        | candidate candidate =>
          exact save_undecided_conducts (h.with_hashes rfl rfl h.config) (interrupt_day4_conducts _ _ (hk candidate))

theorem on_candidate_conducts (h : Undecided request state) (step : QueryPlanStep)
    (evidence_results : List EvidenceResult) (pending_step_ids : List (Name 1 127)) (candidate : SqlCandidate)
    {again : state.repair_count < graph.policy.max_repairs → ProductDbError → RetailCall RetailRunOutcome}
    {next : List EvidenceResult → RetailCall RetailRunOutcome}
    (hagain : ∀ hless e, (again hless e).Conducts (stages graph request) (Ends request) .working)
    (hnext : ∀ evidence_results, (next evidence_results).Conducts (stages graph request) (Ends request) .working) :
    (graph.on_candidate request state step evidence_results pending_step_ids candidate again next).Conducts
      (stages graph request) (Ends request) .working := by
  unfold on_candidate
  refine Conducts.ask trivial fun answer _ => ?_
  rcases answer with failure | result
  · cases failure with
    | raised e => exact Conducts.done trivial
    | engine reason_code =>
      dsimp only
      split
      · exact stop_run_conducts h _ _ _
      · split
        · exact Conducts.done trivial
        · exact save_undecided_conducts (h.with_hashes rfl rfl h.config) (hagain _ _)
  · dsimp only
    split
    · exact Conducts.done trivial
    · exact save_undecided_conducts (h.with_hashes rfl rfl h.config) (interrupt_day4_conducts _ _ (hnext _))

theorem plan_loop_conducts (plan : InvestigationPlan) {state : RetailGraphState}
    (evidence_results : List EvidenceResult)
    (pending_step_ids : List (Name 1 127)) (h : Undecided request state) :
    (graph.plan_loop request plan state evidence_results pending_step_ids).Conducts (stages graph request)
      (Ends request)
      .working := by
  unfold plan_loop
  cases pending_step_ids with
  | nil => exact prepare_reconciliation_conducts h evidence_results
  | cons step_id pending_step_ids =>
    dsimp only
    split
    · exact Conducts.done trivial
    · split
      · refine on_candidate_conducts h _ _ _ _ (fun hless e => ?_) fun evidence_results => ?_
        · exact plan_loop_conducts plan evidence_results (step_id :: pending_step_ids) (h.with_hashes rfl rfl h.config)
        · exact plan_loop_conducts plan evidence_results pending_step_ids (h.with_hashes rfl rfl h.config)
      · refine generate_candidate_conducts h _ fun candidate => ?_
        have hgenerated : Undecided request (generated state candidate) := h.with_hashes rfl rfl h.config
        refine on_candidate_conducts hgenerated _ _ _ _ (fun hless e => ?_) fun evidence_results => ?_
        · exact plan_loop_conducts plan evidence_results (step_id :: pending_step_ids) (h.with_hashes rfl rfl h.config)
        · exact plan_loop_conducts plan evidence_results pending_step_ids (h.with_hashes rfl rfl h.config)
termination_by pending_step_ids.length + (graph.policy.max_repairs - state.repair_count)
decreasing_by
  all_goals
    simp only [repairing, answered_step, generated, List.length_cons] at *
    omega

theorem investigate_conducts (h : Undecided request state) :
    (graph.investigate request state).Conducts (stages graph request) (Ends request) .working := by
  unfold investigate
  split
  · exact stop_run_conducts h _ _ _
  · split
    · exact Conducts.done trivial
    · exact plan_loop_conducts _ _ _ h

theorem initial_compatible (request : RetailRunRequest) : Undecided request (initial_state request) :=
  ⟨⟨rfl, rfl, rfl, rfl, rfl, rfl⟩, by rintro (h | h) <;> cases h⟩

theorem decide_day4_conducts :
    (graph.decide_day4 request).Conducts (stages graph request) (Ends request) .working := by
  unfold decide_day4
  refine Conducts.bind ((call_day4_model_works _ _ _).mono fun result stage hends => ?_)
  obtain ⟨rfl, hpost⟩ := hends
  cases result with
  | error e => exact Conducts.done trivial
  | ok answer =>
    obtain ⟨output, hashes⟩ := answer
    have hconfig : hashes.config_hash = request.run_scope.config_hash := hpost _ rfl
    dsimp only
    split
    · exact Conducts.done trivial
    · split
      · split
        · exact Conducts.done trivial
        · exact cache_and_finish_conducts (initial_compatible request).toCompatible ⟨rfl, hconfig⟩
      · split
        · exact Conducts.done trivial
        · split
          · exact Conducts.done trivial
          · rename_i plan _
            have hplanned : Undecided request (planned request plan hashes) :=
              (initial_compatible request).with_hashes rfl rfl hconfig
            exact save_undecided_conducts hplanned (investigate_conducts hplanned)

/-! ## What a run finds -/

/-- The private turns of the run have been deleted. -/
def Deleted (graph : RetailGraph) (request : RetailRunRequest) (log : RetailLog) : Prop :=
  ⟨.delete_attempt (attempt_of graph request), .ok ()⟩ ∈ log

/-- Every outcome that was saved is this one. -/
def Saves (desired : RetailRunOutcome) (log : RetailLog) : Prop :=
  ∀ state, ⟨.save state, ()⟩ ∈ log → state.decided → ∃ before, state = finalized desired before

/-- The log leaves an outcome behind. -/
structure Leaves (graph : RetailGraph) (request : RetailRunRequest) (desired : RetailRunOutcome) (log : RetailLog)
    (cleaned : Bool) : Prop where
  saves : Saves desired log
  last : ∃ state, checkpoint log = some state ∧ Restores request desired state ∧ state.cleanup_complete = cleaned
  deleted : cleaned = true → Deleted graph request log

/-- What a stage says of the log. -/
def Stage.Holds (graph : RetailGraph) (request : RetailRunRequest) : Stage → RetailLog → Prop
  | .working, log => (∀ state, ⟨.save state, ()⟩ ∈ log → ¬ state.decided) ∧
      ∀ state, checkpoint log = some state → ¬ state.decided
  | .cleaned desired, log => Leaves graph request desired log false ∧ Deleted graph request log
  | .complete desired, log => Leaves graph request desired log true
  | .saved desired, log => Leaves graph request desired log false
  | .interrupted desired, log => Leaves graph request desired log false
  | .decided desired, log => Leaves graph request desired log false
  | .failed desired, log => Leaves graph request desired log false

variable {log : RetailLog} {cleaned : Bool}

theorem Deleted.append (h : Deleted graph request log) (tail : RetailLog) : Deleted graph request (log ++ tail) :=
  List.mem_append_left tail h

/-- An operation that leaves the checkpoint as it is. -/
def Quiet : RetailOp → Prop
  | .save _ => False
  | .mark_complete => False
  | _ => True

theorem stored_quiet {e : Event RetailOp RetailAns} (he : Quiet e.op) (found : Option RetailGraphState) :
    stored found e = found := by
  obtain ⟨op, answer⟩ := e
  cases op with
  | save state => exact he.elim
  | mark_complete => exact he.elim
  | _ => rfl

theorem mem_quiet {e : Event RetailOp RetailAns} (he : Quiet e.op) {state : RetailGraphState}
    (h : ⟨.save state, ()⟩ ∈ log ++ [e]) : ⟨.save state, ()⟩ ∈ log := by
  rcases List.mem_append.mp h with h | h
  · exact h
  · rw [← List.mem_singleton.mp h] at he
    exact he.elim

theorem Leaves.quiet {e : Event RetailOp RetailAns} (h : Leaves graph request desired log cleaned) (he : Quiet e.op) :
    Leaves graph request desired (log ++ [e]) cleaned where
  saves state hsave hdecided := h.saves state (mem_quiet he hsave) hdecided
  last := by
    rw [checkpoint_append, stored_quiet he]
    exact h.last
  deleted hcleaned := (h.deleted hcleaned).append [e]

theorem working_quiet {e : Event RetailOp RetailAns} (h : Stage.working.Holds graph request log) (he : Quiet e.op) :
    Stage.working.Holds graph request (log ++ [e]) := by
  refine ⟨fun state hsave => h.1 state (mem_quiet he hsave), ?_⟩
  rw [checkpoint_append, stored_quiet he]
  exact h.2

theorem holds_save (h : Stage.working.Holds graph request log)
    (hallowed : Stage.allowed graph request .working (.save state)) :
    (Stage.save request state).Holds graph request (log ++ [⟨.save state, ()⟩]) := by
  have hcheckpoint : checkpoint (log ++ [⟨.save state, ()⟩]) = some state := checkpoint_append log _
  rcases hallowed with hundecided | ⟨desired, before, rfl, hcompatible, hdesired⟩
  · rw [Stage.save_undecided hundecided]
    refine ⟨fun other hsave => ?_, fun other hother => ?_⟩
    · rcases List.mem_append.mp hsave with hsave | hsave
      · exact h.1 other hsave
      · cases List.mem_singleton.mp hsave
        exact hundecided.undecided
    · rw [hcheckpoint] at hother
      cases hother
      exact hundecided.undecided
  · rw [Stage.save_finalized hdesired.attempt]
    refine ⟨fun other hsave hdecided => ?_, ⟨_, hcheckpoint, Restores.finalized hcompatible hdesired, rfl⟩, nofun⟩
    rcases List.mem_append.mp hsave with hsave | hsave
    · exact absurd hdecided (h.1 other hsave)
    · cases List.mem_singleton.mp hsave
      exact ⟨before, rfl⟩

theorem Leaves.mark (h : Leaves graph request desired log false) (hdeleted : Deleted graph request log) :
    Leaves graph request desired (log ++ [⟨.mark_complete, ()⟩]) true where
  saves state hsave hdecided := by
    refine h.saves state ?_ hdecided
    rcases List.mem_append.mp hsave with hsave | hsave
    · exact hsave
    · cases List.mem_singleton.mp hsave
  last := by
    obtain ⟨state, hstate, hrestores, -⟩ := h.last
    refine ⟨state.marked, ?_, hrestores.marked, rfl⟩
    rw [checkpoint_append, hstate]
    rfl
  deleted _ := hdeleted.append _

theorem holds_interrupts (h : Leaves graph request desired log false) (boundary : String) (answer : Bool) :
    (Stage.next request (.saved desired) (.interrupts boundary) answer).Holds graph request
      (log ++ [⟨.interrupts boundary, answer⟩]) := by
  have hquiet : Leaves graph request desired (log ++ [⟨.interrupts boundary, answer⟩]) false := h.quiet trivial
  cases answer with
  | true => exact hquiet
  | false => exact hquiet

theorem holds_delete (h : Leaves graph request desired log false) (answer : Except Raised Unit) :
    (Stage.next request (.decided desired) (.delete_attempt (attempt_of graph request)) answer).Holds graph request
      (log ++ [⟨.delete_attempt (attempt_of graph request), answer⟩]) := by
  have hquiet : Leaves graph request desired
      (log ++ [⟨.delete_attempt (attempt_of graph request), answer⟩]) false := h.quiet trivial
  rcases answer with e | ⟨⟩
  · exact hquiet
  · exact ⟨hquiet, List.mem_append_right _ List.mem_cons_self⟩

/-- **Each operation keeps what the stage says.** -/
theorem holds_step (stage : Stage) (log : RetailLog) (op : RetailOp) (answer : RetailAns op)
    (h : stage.Holds graph request log) (hallowed : stage.allowed graph request op) :
    (stage.next request op answer).Holds graph request (log ++ [⟨op, answer⟩]) := by
  cases stage with
  | working =>
    cases op with
    | save state => exact holds_save h hallowed
    | load => exact hallowed.elim
    | mark_complete => exact hallowed.elim
    | delete_attempt attempt => exact hallowed.elim
    | _ => exact working_quiet h trivial
  | saved desired =>
    cases op <;> try exact hallowed.elim
    case interrupts boundary => exact holds_interrupts h boundary answer
  | decided desired =>
    cases op <;> try exact hallowed.elim
    case delete_attempt attempt =>
      obtain rfl : attempt = attempt_of graph request := hallowed
      exact holds_delete h answer
  | cleaned desired =>
    cases op <;> try exact hallowed.elim
    case mark_complete => exact h.1.mark h.2
  | interrupted desired => cases op <;> exact hallowed.elim
  | failed desired => cases op <;> exact hallowed.elim
  | complete desired => cases op <;> exact hallowed.elim

/-! ## Runs that crash and resume -/

variable {env : Env RetailOp RetailAns}

/-- The stage in which the next run starts. -/
def Stage.settled : Stage → Stage
  | .working => .working
  | .complete desired => .complete desired
  | .saved desired => .decided desired
  | .interrupted desired => .decided desired
  | .decided desired => .decided desired
  | .failed desired => .decided desired
  | .cleaned desired => .decided desired

theorem holds_settled {stage : Stage} (h : stage.Holds graph request log) : stage.settled.Holds graph request log := by
  cases stage with
  | cleaned desired => exact h.1
  | _ => exact h

theorem resume_undecided (h : ¬ state.decided) :
    (graph.resume_day4 request state).Conducts (stages graph request) (Ends request) .working := by
  unfold resume_day4
  split
  · exact Conducts.done trivial
  · rename_i hassert
    have hundecided : Undecided request state := ⟨assert_compatible.mp hassert, h⟩
    unfold RetailGraphState.decided at h
    rw [if_neg h]
    exact investigate_conducts hundecided

theorem resume_restores (h : Restores request desired state) :
    graph.resume_day4 request state =
      if state.cleanup_complete then .done (.ok desired) else graph.finish_day4 request desired := by
  have hdecided : state.terminal_json.isSome ∨ state.stop_reason_json.isSome := h.decided
  unfold resume_day4
  rw [assert_compatible.mpr h.compatible]
  dsimp only
  rw [if_pos hdecided, h.restored]

theorem loaded_conducts {stage : Stage} (h : stage.Holds graph request log) :
    (graph.loaded request (checkpoint log)).Conducts (stages graph request) (Ends request) stage.settled := by
  have hdecided (desired : RetailRunOutcome) (h : Leaves graph request desired log false) :
      (graph.loaded request (checkpoint log)).Conducts (stages graph request) (Ends request) (.decided desired) := by
    obtain ⟨state, hstate, hrestores, hcleanup⟩ := h.last
    rw [hstate, loaded, resume_restores hrestores, hcleanup]
    exact finish_day4_conducts desired
  cases stage with
  | working =>
    cases hcheckpoint : checkpoint log with
    | none => exact decide_day4_conducts
    | some state => exact resume_undecided (h.2 state hcheckpoint)
  | complete desired =>
    obtain ⟨state, hstate, hrestores, hcleanup⟩ := Leaves.last h
    rw [hstate, loaded, resume_restores hrestores, hcleanup]
    exact Conducts.done rfl
  | saved desired => exact hdecided desired h
  | interrupted desired => exact hdecided desired h
  | decided desired => exact hdecided desired h
  | failed desired => exact hdecided desired h
  | cleaned desired => exact hdecided desired h.1

theorem holds_load {stage : Stage} (h : stage.Holds graph request log) (answer : Option RetailGraphState) :
    stage.Holds graph request (log ++ [⟨.load, answer⟩]) := by
  cases stage with
  | working => exact working_quiet h trivial
  | cleaned desired => exact ⟨h.1.quiet trivial, h.2.append _⟩
  | complete desired => exact Leaves.quiet h trivial
  | saved desired => exact Leaves.quiet h trivial
  | interrupted desired => exact Leaves.quiet h trivial
  | decided desired => exact Leaves.quiet h trivial
  | failed desired => exact Leaves.quiet h trivial

theorem run_day4_cut_zero : (graph.run_day4 request).cut env 0 log = (none, log) := rfl

/-- **One run, wherever it crashes.** -/
theorem run_day4_holds (henv : Obeys Checkpointed env) {stage : Stage} (h : stage.Holds graph request log) (n : ℕ) :
    ∃ (tail : RetailLog) (after : Stage), ((graph.run_day4 request).cut env n log).2 = log ++ tail ∧
      after.Holds graph request (log ++ tail) ∧
      ((tail = [] ∧ after = stage) ∨ ∃ rest, tail = ⟨.load, env log .load⟩ :: rest ∧
        (stages graph request).Legal stage.settled rest ∧ after = (stages graph request).after stage.settled rest) ∧
      ∀ result, ((graph.run_day4 request).cut env n log).1 = some result → Ends request result after := by
  cases n with
  | zero =>
    rw [run_day4_cut_zero]
    exact ⟨[], stage, (List.append_nil log).symm, by rwa [List.append_nil], Or.inl ⟨rfl, rfl⟩,
      fun _ hnone => absurd hnone.symm (Option.some_ne_none _)⟩
  | succ n =>
    have hload : env log .load = checkpoint log := henv log .load
    have hconducts := loaded_conducts h
    have hok : ∀ log op, (stages graph request).ok op (env log op) := fun _ _ => trivial
    obtain ⟨rest, hrest, hlegal, hends⟩ := hconducts.cut hok n (log ++ [⟨.load, env log .load⟩])
    rw [← hload] at hrest hends
    have hholds := hlegal.tracks (Stage.Holds graph request) _
      (holds_load (holds_settled h) (env log .load)) holds_step
    rw [List.append_assoc] at hrest hholds
    refine ⟨⟨.load, env log .load⟩ :: rest, _, ?_, hholds, Or.inr ⟨rest, rfl, hlegal, rfl⟩, ?_⟩
    · rw [run_day4_cut_succ, hrest]
      rfl
    · rw [run_day4_cut_succ]
      exact hends

def Stage.outcome : Stage → Option RetailRunOutcome
  | .working => none
  | .saved desired => some desired
  | .interrupted desired => some desired
  | .decided desired => some desired
  | .failed desired => some desired
  | .cleaned desired => some desired
  | .complete desired => some desired

theorem holds_leaves {stage : Stage} (h : stage.Holds graph request log) (hstage : stage.outcome = some desired) :
    ∃ cleaned, Leaves graph request desired log cleaned := by
  cases stage <;> cases hstage
  case cleaned => exact ⟨false, h.1⟩
  case complete => exact ⟨true, h⟩
  all_goals exact ⟨false, h⟩

/-- A run that starts behind an outcome. -/
inductive Stage.Behind (desired : RetailRunOutcome) : Stage → Prop
  | decided : Behind desired (.decided desired)
  | failed : Behind desired (.failed desired)
  | cleaned : Behind desired (.cleaned desired)
  | complete : Behind desired (.complete desired)

theorem Stage.Behind.outcome {stage : Stage} (h : stage.Behind desired) : stage.outcome = some desired := by
  cases h <;> rfl

theorem behind_settled {stage : Stage} (h : stage.outcome = some desired) : stage.settled.Behind desired := by
  cases stage <;> cases h <;> constructor

/-- What a run may still do behind an outcome. -/
def Cleans (graph : RetailGraph) (request : RetailRunRequest) (op : RetailOp) : Prop :=
  op = .load ∨ op = .delete_attempt (attempt_of graph request) ∨ op = .mark_complete

theorem behind_step (stage : Stage) (op : RetailOp) (answer : RetailAns op) (h : stage.Behind desired)
    (hallowed : stage.allowed graph request op) :
    Cleans graph request op ∧ (stage.next request op answer).Behind desired := by
  cases h with
  | decided =>
    cases op <;> try exact hallowed.elim
    case delete_attempt attempt =>
      obtain rfl : attempt = attempt_of graph request := hallowed
      refine ⟨Or.inr (Or.inl rfl), ?_⟩
      rcases answer with e | ⟨⟩ <;> constructor
  | cleaned =>
    cases op <;> try exact hallowed.elim
    case mark_complete => exact ⟨Or.inr (Or.inr rfl), .complete⟩
  | failed => cases op <;> exact hallowed.elim
  | complete => cases op <;> exact hallowed.elim

theorem run_behind (henv : Obeys Checkpointed env) {stage : Stage} (h : stage.Holds graph request log)
    (hstage : stage.outcome = some desired) (n : ℕ) :
    ∃ (tail : RetailLog) (after : Stage), ((graph.run_day4 request).cut env n log).2 = log ++ tail ∧
      after.Holds graph request (log ++ tail) ∧ after.outcome = some desired ∧
      (∀ e ∈ tail, Cleans graph request e.op) ∧
      ∀ result, ((graph.run_day4 request).cut env n log).1 = some result → Ends request result after := by
  obtain ⟨tail, after, hrun, hholds, hlegal, hends⟩ := run_day4_holds henv h n
  refine ⟨tail, after, hrun, hholds, ?_⟩
  rcases hlegal with ⟨rfl, rfl⟩ | ⟨rest, rfl, hlegal, rfl⟩
  · exact ⟨hstage, fun _ he => absurd he List.not_mem_nil, hends⟩
  · have hbehind := behind_settled hstage
    refine ⟨?_, List.forall_mem_cons.mpr ⟨Or.inl rfl, hlegal.forall (Stage.Behind desired) hbehind behind_step⟩, hends⟩
    have hafter : ((stages graph request).after stage.settled rest).Behind desired :=
      hlegal.tracks (fun stage _ => stage.Behind desired) log hbehind fun stage _ op answer h hallowed =>
        (behind_step stage op answer h hallowed).2
    exact hafter.outcome

theorem runs_behind (henv : Obeys Checkpointed env) {stage : Stage} (h : stage.Holds graph request log)
    (hstage : stage.outcome = some desired) (later : List ℕ) :
    ∃ (tail : RetailLog) (after : Stage), (graph.run_day4 request).cuts env later log = log ++ tail ∧
      after.Holds graph request (log ++ tail) ∧ after.outcome = some desired ∧ ∀ e ∈ tail,
        Cleans graph request e.op := by
  induction later generalizing log stage with
  | nil =>
    exact ⟨[], stage, (List.append_nil log).symm, by rwa [List.append_nil], hstage, fun _ he =>
      absurd he List.not_mem_nil⟩
  | cons n later ih =>
    obtain ⟨front, middle, hrun, hmiddle, hbehind, hfront, -⟩ := run_behind henv h hstage n
    obtain ⟨tail, after, hruns, hafter, houtcome, htail⟩ := ih hmiddle hbehind
    rw [List.append_assoc] at hruns hafter
    refine ⟨front ++ tail, after, ?_, hafter, houtcome, List.forall_mem_append.mpr ⟨hfront, htail⟩⟩
    rw [Flow.cuts, hrun, hruns]

theorem runs_hold (henv : Obeys Checkpointed env) (crashes : List ℕ) :
    ∃ stage : Stage, stage.Holds graph request (graph.runs request env crashes) := by
  unfold runs
  have hstart : Stage.working.Holds graph request [] :=
    ⟨fun _ hsave => absurd hsave List.not_mem_nil, fun _ hstate => absurd hstate.symm (Option.some_ne_none _)⟩
  generalize Stage.working = stage at hstart
  generalize ([] : RetailLog) = log at hstart
  induction crashes generalizing log stage with
  | nil => exact ⟨stage, hstart⟩
  | cons n crashes ih =>
    obtain ⟨tail, after, hrun, hholds, -⟩ := run_day4_holds henv hstart n
    rw [Flow.cuts, hrun]
    exact ih after _ hholds

/-- **A later run**, to its end: it returns the outcome, or fails to clean up. -/
structure Replays (graph : RetailGraph) (request : RetailRunRequest) (env : Env RetailOp RetailAns)
    (desired : RetailRunOutcome) (log : RetailLog) : Prop where
  found : ∃ state, checkpoint log = some state
  cleaned : ∀ state, checkpoint log = some state → state.cleanup_complete = true →
    Deleted graph request log ∧ (graph.run_day4 request).play env log = (.ok desired, log ++ [⟨.load, some state⟩])
  uncleaned : ∀ state, checkpoint log = some state → state.cleanup_complete = false →
    (∃ e, (graph.run_day4 request).play env log = (.ok (retry request private_turn_cleanup_failed desired),
      log ++ [⟨.load, some state⟩, ⟨.delete_attempt (attempt_of graph request), .error e⟩])) ∨
    (graph.run_day4 request).play env log = (.ok desired,
      log ++ [⟨.load, some state⟩, ⟨.delete_attempt (attempt_of graph request), .ok ()⟩, ⟨.mark_complete, ()⟩])

theorem finish_day4_play (desired : RetailRunOutcome) (log : RetailLog) :
    (∃ e, (graph.finish_day4 request desired).play env log = (.ok (retry request private_turn_cleanup_failed desired),
      log ++ [⟨.delete_attempt (attempt_of graph request), .error e⟩])) ∨
    (graph.finish_day4 request desired).play env log = (.ok desired,
      log ++ [⟨.delete_attempt (attempt_of graph request), .ok ()⟩, ⟨.mark_complete, ()⟩]) := by
  unfold finish_day4 attempt_of
  rw [Flow.play]
  cases env log (.delete_attempt ⟨scope_digest graph.library request.run_scope, request.attempt_id⟩) with
  | error e => exact Or.inl ⟨e, rfl⟩
  | ok deleted =>
    refine Or.inr ?_
    rw [Flow.play, List.append_assoc]
    rfl

theorem replays_of (henv : Obeys Checkpointed env) {stage : Stage} (h : stage.Holds graph request log)
    (hstage : stage.outcome = some desired) : Replays graph request env desired log := by
  obtain ⟨cleaned, hleaves⟩ := holds_leaves h hstage
  obtain ⟨state, hstate, hrestores, hcleanup⟩ := hleaves.last
  have hload : env log .load = some state := (henv log .load).trans hstate
  have hplay : (graph.run_day4 request).play env log =
      (if state.cleanup_complete then .done (.ok desired) else graph.finish_day4 request desired : RetailCall _).play
        env
        (log ++ [⟨.load, some state⟩]) := by
    rw [run_day4_play, hload, loaded, resume_restores hrestores]
  refine ⟨⟨state, hstate⟩, fun other hother hcleaned => ?_, fun other hother huncleaned => ?_⟩
  · cases hstate.symm.trans hother
    rw [hplay, hcleaned]
    exact ⟨hleaves.deleted (hcleanup.symm.trans hcleaned), rfl⟩
  · cases hstate.symm.trans hother
    rw [hplay, huncleaned, if_neg Bool.false_ne_true]
    have hfinish := @finish_day4_play graph request env desired (log ++ [⟨.load, some state⟩])
    simp only [List.append_assoc, List.cons_append, List.nil_append] at hfinish
    exact hfinish

theorem complete_of_ends {stage : Stage} {outcome : RetailRunOutcome} (hends : Ends request (.ok outcome) stage)
    (hretryable : outcome.retryable = false) : stage = .complete outcome := by
  cases stage with
  | working =>
    obtain ⟨_, _, _, rfl⟩ := hends
    cases hretryable
  | interrupted desired =>
    obtain rfl : outcome = retry request checkpoint_interrupt desired := hends
    cases hretryable
  | failed desired =>
    obtain rfl : outcome = retry request private_turn_cleanup_failed desired := hends
    cases hretryable
  | complete desired => exact congrArg Stage.complete (Eq.symm hends)
  | saved desired => exact hends.elim
  | decided desired => exact hends.elim
  | cleaned desired => exact hends.elim

theorem ends_outcome {stage : Stage} (hstage : stage.outcome = some desired) {result : Except Raised RetailRunOutcome}
    (hends : Ends request result stage) :
    result = .ok desired ∨ result = .ok (retry request checkpoint_interrupt desired) ∨
      result = .ok (retry request private_turn_cleanup_failed desired) := by
  cases result with
  | error e => cases stage <;> cases hstage <;> exact hends.elim
  | ok outcome =>
    cases stage <;> cases hstage
    case ok.interrupted.refl => exact Or.inr (Or.inl (congrArg Except.ok hends))
    case ok.failed.refl => exact Or.inr (Or.inr (congrArg Except.ok hends))
    case ok.complete.refl => exact Or.inl (congrArg Except.ok hends)
    all_goals exact hends.elim

theorem runs_concat (before : List ℕ) (n : ℕ) : graph.runs request env (before ++ [n]) =
    ((graph.run_day4 request).cut env n (graph.runs request env before)).2 := by
  unfold runs
  rw [Flow.cuts_append]
  rfl

theorem runs_later (before : List ℕ) (n : ℕ) (later : List ℕ) : graph.runs request env (before ++ n :: later) =
    (graph.run_day4 request).cuts env later (graph.runs request env (before ++ [n])) := by
  unfold runs
  rw [← Flow.cuts_append, List.append_assoc]
  rfl

end RetailGraph

/-- **Terminal replay and cleanup.** A run that may not be tried again has deleted its private turns. The run that saves
an outcome returns it, or a stop that may be tried again; and the later runs only load, clean up and mark the
checkpoint, and return that same outcome unless the cleanup fails, wherever any of them crashes. -/
theorem terminal_replayed (graph : RetailGraph) (request : RetailRunRequest) (env : Env RetailOp RetailAns)
    (henv : Obeys Checkpointed env) (before : List ℕ) (n : ℕ) :
    (∀ outcome, ((graph.run_day4 request).cut env n (graph.runs request env before)).1 = some (.ok outcome) →
      outcome.retryable = false → RetailGraph.Deleted graph request (graph.runs request env (before ++ [n]))) ∧
    ∀ state, ⟨.save state, ()⟩ ∈ graph.runs request env (before ++ [n]) → state.decided →
      ∃ desired earlier, state = RetailGraph.finalized desired earlier ∧
        (∀ result, ((graph.run_day4 request).cut env n (graph.runs request env before)).1 = some result →
          result = .ok desired ∨
          result = .ok (RetailGraph.retry request RetailGraph.checkpoint_interrupt desired) ∨
          result = .ok (RetailGraph.retry request RetailGraph.private_turn_cleanup_failed desired)) ∧
        ∀ later, RetailGraph.Replays graph request env desired (graph.runs request env (before ++ n :: later)) ∧
          ∃ tail : RetailLog, graph.runs request env (before ++ n :: later) =
            graph.runs request env (before ++ [n]) ++ tail ∧ ∀ e ∈ tail, RetailGraph.Cleans graph request e.op := by
  obtain ⟨stage, hstage⟩ := @RetailGraph.runs_hold graph request env henv before
  obtain ⟨tail, after, hrun, hafter, -, hends⟩ := RetailGraph.run_day4_holds henv hstage n
  rw [← hrun, ← RetailGraph.runs_concat] at hafter
  refine ⟨fun outcome hresult hretryable => ?_, fun state hsave hdecided => ?_⟩
  · obtain rfl := RetailGraph.complete_of_ends (hends _ hresult) hretryable
    exact RetailGraph.Leaves.deleted hafter rfl
  have houtcome : ∃ desired, after.outcome = some desired := by
    cases hnone : after.outcome with
    | some desired => exact ⟨desired, rfl⟩
    | none =>
      cases after <;> cases hnone
      exact absurd hdecided (hafter.1 state hsave)
  obtain ⟨desired, hdesired⟩ := houtcome
  obtain ⟨cleaned, hleaves⟩ := RetailGraph.holds_leaves hafter hdesired
  obtain ⟨earlier, hstate⟩ := hleaves.saves state hsave hdecided
  refine ⟨desired, earlier, hstate, fun result hresult => RetailGraph.ends_outcome hdesired (hends result hresult), ?_⟩
  intro later
  obtain ⟨rest, last, hlater, hlast, hlastout, hcleans⟩ := RetailGraph.runs_behind henv hafter hdesired later
  rw [RetailGraph.runs_later, hlater]
  exact ⟨RetailGraph.replays_of henv hlast hlastout, rest, rfl, hcleans⟩

/-- **Agreement.** All the runs of a request come to one outcome: behind a first that may not be tried again nothing is
asked of the model, the database or the workflow, and no other such outcome is returned. -/
theorem outcomes_agree (graph : RetailGraph) (request : RetailRunRequest) (env : Env RetailOp RetailAns)
    (henv : Obeys Checkpointed env) (before : List ℕ) (n : ℕ) (first : RetailRunOutcome)
    (hfirst : ((graph.run_day4 request).cut env n (graph.runs request env before)).1 = some (.ok first))
    (hretryable : first.retryable = false) (later : List ℕ) :
    (∃ tail : RetailLog, graph.runs request env (before ++ n :: later) =
      graph.runs request env (before ++ [n]) ++ tail ∧
      ∀ e ∈ tail, RetailGraph.Cleans graph request e.op) ∧
    ∀ m outcome, ((graph.run_day4 request).cut env m (graph.runs request env (before ++ n :: later))).1 =
      some (.ok outcome) → outcome.retryable = false → outcome = first := by
  obtain ⟨stage, hstage⟩ := @RetailGraph.runs_hold graph request env henv before
  obtain ⟨tail, after, hrun, hafter, -, hends⟩ := RetailGraph.run_day4_holds henv hstage n
  rw [← hrun, ← RetailGraph.runs_concat] at hafter
  obtain rfl := RetailGraph.complete_of_ends (hends _ hfirst) hretryable
  obtain ⟨rest, last, hlater, hlast, hlastout, hcleans⟩ := RetailGraph.runs_behind henv hafter rfl later
  rw [RetailGraph.runs_later, hlater]
  refine ⟨⟨rest, rfl, hcleans⟩, fun m outcome hresult hfinal => ?_⟩
  obtain ⟨_, final, -, -, hsame, -, hfinalends⟩ := RetailGraph.run_behind henv hlast hlastout m
  obtain rfl := RetailGraph.complete_of_ends (hfinalends _ hresult) hfinal
  exact Option.some.inj hsame

/-! ## Samples -/

def sampleClarification : ClarificationRequest where
  conversation_id := ⟨"conversation-5", by decide⟩
  request_id := 5
  items := [⟨.time_range, ⟨"which months", by decide⟩, [], Nat.zero_le _, List.nodup_nil⟩]
  size := by decide
  unique := by decide

/-- A graph whose model may ask for a clarification. -/
def clarifyingGraph : RetailGraph :=
  { sampleRetailGraph with
    tool_names := fun _ => some ["request_clarification"]
    clarification_request := fun _ => some sampleClarification }

def clarifyingCall : ToolCall := ⟨⟨"clarifying-1", by decide⟩, ⟨"request_clarification", by decide⟩, ⟨"asked", by decide⟩⟩

def clarifyingResponse (request : ModelRequest) : ModelResponse where
  output := .tool_calls ⟨[clarifyingCall], by decide, by decide⟩
  provider_turn_ref :=
    ⟨7, scope_digest sampleLibrary request.run_scope, request.attempt_id, request.sequence, [clarifyingCall.call_id]⟩
  finish_reason := .tool_calls
  fits := ⟨rfl, rfl⟩

/-- A world in which the model asks for a clarification, and the private turns are deleted, or not. -/
def clarifying (deleted : Except Raised Unit) : Env RetailOp RetailAns
  | log, .load => checkpoint log
  | _, .save _ => ()
  | _, .mark_complete => ()
  | _, .interrupts _ => false
  | _, .build context => .ok { zero_hashes sampleRetailRequest with config_hash := context.run_scope.config_hash }
  | _, .complete request => .ok (clarifyingResponse request)
  | _, .generate _ => .raised ValidationError
  | _, .execute_query _ => .error (.raised ValidationError)
  | _, .propose _ => .error ValidationError
  | _, .delete_attempt _ => deleted

theorem clarifying_obeys (deleted : Except Raised Unit) : Obeys Checkpointed (clarifying deleted) := by
  intro log op
  cases op with
  | load => rfl
  | _ => trivial

def sampleNeedsInput : RetailRunOutcome :=
  RetailGraph.needs_input sampleRetailRequest sampleClarification 1 1 (zero_hashes sampleRetailRequest)

/-- What the first run saves. -/
def clarified : RetailGraphState := RetailGraph.finalized sampleNeedsInput (initial_state sampleRetailRequest)

theorem clarified_saved :
    ⟨.save clarified, ()⟩ ∈ clarifyingGraph.runs sampleRetailRequest (clarifying (.error ValidationError))
      ([] ++ [5]) := by
  refine List.mem_of_getElem? (i := 3) ?_
  rfl

theorem clarified_returned :
    ((clarifyingGraph.run_day4 sampleRetailRequest).cut (clarifying (.ok ())) 7
      (clarifyingGraph.runs sampleRetailRequest (clarifying (.ok ())) [])).1 = some (.ok sampleNeedsInput) := rfl

theorem terminal_replayed_clarified :
    RetailGraph.Deleted clarifyingGraph sampleRetailRequest
      (clarifyingGraph.runs sampleRetailRequest (clarifying (.ok ())) ([] ++ [7])) ∧
    ∃ desired earlier, clarified = RetailGraph.finalized desired earlier ∧
      (∀ result, ((clarifyingGraph.run_day4 sampleRetailRequest).cut (clarifying (.error ValidationError)) 5
          (clarifyingGraph.runs sampleRetailRequest (clarifying (.error ValidationError)) [])).1 = some result →
        result = .ok desired ∨
        result = .ok (RetailGraph.retry sampleRetailRequest RetailGraph.checkpoint_interrupt desired) ∨
        result = .ok (RetailGraph.retry sampleRetailRequest RetailGraph.private_turn_cleanup_failed desired)) ∧
      ∀ later, RetailGraph.Replays clarifyingGraph sampleRetailRequest (clarifying (.error ValidationError)) desired
          (clarifyingGraph.runs sampleRetailRequest (clarifying (.error ValidationError)) ([] ++ 5 :: later)) ∧
        ∃ tail : RetailLog,
          clarifyingGraph.runs sampleRetailRequest (clarifying (.error ValidationError)) ([] ++ 5 :: later) =
            clarifyingGraph.runs sampleRetailRequest (clarifying (.error ValidationError)) ([] ++ [5]) ++ tail ∧
          ∀ e ∈ tail, RetailGraph.Cleans clarifyingGraph sampleRetailRequest e.op :=
  ⟨(terminal_replayed clarifyingGraph sampleRetailRequest (clarifying (.ok ())) (clarifying_obeys _) [] 7).1
      sampleNeedsInput clarified_returned rfl,
    (terminal_replayed clarifyingGraph sampleRetailRequest (clarifying (.error ValidationError)) (clarifying_obeys _)
      [] 5).2
      clarified clarified_saved (RetailGraph.finalized_decided _ _)⟩

theorem outcomes_agree_clarified :
    (∃ tail : RetailLog, clarifyingGraph.runs sampleRetailRequest (clarifying (.ok ())) ([] ++ 7 :: [1, 4]) =
      clarifyingGraph.runs sampleRetailRequest (clarifying (.ok ())) ([] ++ [7]) ++ tail ∧
      ∀ e ∈ tail, RetailGraph.Cleans clarifyingGraph sampleRetailRequest e.op) ∧
    ∀ m outcome, ((clarifyingGraph.run_day4 sampleRetailRequest).cut (clarifying (.ok ())) m
        (clarifyingGraph.runs sampleRetailRequest (clarifying (.ok ())) ([] ++ 7 :: [1, 4]))).1 =
      some (.ok outcome) → outcome.retryable = false → outcome = sampleNeedsInput :=
  outcomes_agree clarifyingGraph sampleRetailRequest (clarifying (.ok ())) (clarifying_obeys _) [] 7 sampleNeedsInput
    clarified_returned rfl [1, 4]

end CommerceAgent.Orchestration
