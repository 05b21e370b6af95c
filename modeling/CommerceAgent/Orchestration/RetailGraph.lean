import CommerceAgent.Orchestration.RetailContracts
import CommerceAgent.Operations.Commands

/-!
# The retail graph

`RetailGraph._run_day4` as a call of operations on the checkpointer, the context builder,
the model gateway, the SQL reasoner, the query engine, the operation workflow and the
store of private turns.
-/

open CommerceAgent.Lib
open CommerceAgent.Lib.Flow (onOk)
open CommerceAgent.Operations (UUID Text Code Name HexDigest Checked ProposalRef ActorContext EvidenceRef EvidenceRefs
  IdempotencyKey OperationCommand ProposeRequest)

namespace CommerceAgent.Orchestration

/-! ## What the graph is built with -/

structure RetailLoopPolicy where
  max_model_calls : ℕ
  max_repairs : ℕ
  model_bound : 1 ≤ max_model_calls ∧ max_model_calls ≤ 6
  repair_bound : max_repairs ≤ 3

/-- The arguments of a `propose_operation` call. -/
structure ProposeArguments where
  command : OperationCommand
  evidence_refs : List EvidenceRef
  idempotency_key : String
  revises : Option ProposalRef

/-- A `RetailToolDispatcher`, as far as it proposes operations. -/
structure RetailToolDispatcher where
  actor : Option ActorContext
  workflow : Bool

structure RetailGraph where
  library : Library
  policy : RetailLoopPolicy
  /-- The tools of the profile's rule for a step, if it has one. -/
  tool_names : PromptStep → Option (List String)
  dispatcher : Option RetailToolDispatcher
  sql_reasoner : Bool
  query_engine : Bool
  /-- `ClarificationRequest.model_validate_json(text)`, unless it raises. -/
  clarification_request : String → Option ClarificationRequest
  /-- `InvestigationPlan.model_validate_json(text)`, unless it raises. -/
  investigation_plan : String → Option InvestigationPlan
  /-- `InvestigationReport.model_validate_json(text)`, unless it raises. -/
  investigation_report : String → Option InvestigationReport
  /-- `_parse_arguments(_ProposeOperationArguments, call)`. -/
  propose_arguments : String → Except Raised ProposeArguments

/-! ## Checkpoints -/

inductive Node where
  | prepare_context
  | prepare_plan_step
  | execute_query
  | sql_reason
  | prepare_report
  | create_proposal
  | finalize
  | complete
  deriving DecidableEq, Repr

/-- A checkpoint. A field whose name ends in `_json` holds a text; in place of the text that dumps a
plan, a candidate, evidence, an error or a pending call stands the value itself. -/
structure RetailGraphState where
  state_schema_revision : String
  node_revision : String
  run_scope : RunScope
  attempt_id : UUID
  current_node : Node
  repair_count : ℕ
  model_call_count : ℕ
  tool_call_count : ℕ
  investigation_plan : Option InvestigationPlan
  pending_plan_step_ids : List (Name 1 127)
  sql_candidate : Option SqlCandidate
  query_evidence : List EvidenceResult
  reconciliation : Option ReconciliationResult
  proposal_refs : List String
  terminal_json : Option String
  stop_reason_json : Option String
  pending_tool_batch : Option ToolCall
  latest_error : Option ProductDbError
  hashes : PromptHashes
  request : RetailRunRequest
  cleanup_complete : Bool

def RETAIL_STATE_SCHEMA_REVISION : String := "retail-state-v2"
def RETAIL_NODE_REVISION : String := "retail-nodes-v2"

def zero_hash : HexDigest := HexDigest.ofNat 0

def zero_hashes (request : RetailRunRequest) : PromptHashes where
  prompt_policy_hash := zero_hash
  rendered_prompt_hash := zero_hash
  tool_hash := zero_hash
  context_hash := zero_hash
  config_hash := request.run_scope.config_hash

def initial_state (request : RetailRunRequest) : RetailGraphState where
  state_schema_revision := RETAIL_STATE_SCHEMA_REVISION
  node_revision := RETAIL_NODE_REVISION
  run_scope := request.run_scope
  attempt_id := request.attempt_id
  current_node := .prepare_context
  repair_count := 0
  model_call_count := 0
  tool_call_count := 0
  investigation_plan := none
  pending_plan_step_ids := []
  sql_candidate := none
  query_evidence := []
  reconciliation := none
  proposal_refs := []
  terminal_json := none
  stop_reason_json := none
  pending_tool_batch := none
  latest_error := none
  hashes := zero_hashes request
  request := request
  cleanup_complete := false

def CheckpointIncompatible (reason_code : String) : Raised := .exception s!"CheckpointIncompatible {reason_code}"

/-- `assert_checkpoint_compatible(state, ...)`, and the check of the request after it. -/
def assert_checkpoint_compatible (request : RetailRunRequest) (state : RetailGraphState) : Except Raised Unit :=
  if state.state_schema_revision ≠ RETAIL_STATE_SCHEMA_REVISION then .error (CheckpointIncompatible "state_schema_mismatch")
  else if state.node_revision ≠ RETAIL_NODE_REVISION then .error (CheckpointIncompatible "node_revision_mismatch")
  else if state.hashes.config_hash ≠ request.run_scope.config_hash then
    .error (CheckpointIncompatible "config_hash_mismatch")
  else if state.run_scope ≠ request.run_scope then .error (CheckpointIncompatible "run_scope_mismatch")
  else if state.attempt_id ≠ request.attempt_id then .error (CheckpointIncompatible "attempt_id_mismatch")
  else if state.request ≠ request then .error (CheckpointIncompatible "request_mismatch")
  else .ok ()

/-! ## Operations -/

/-- What the SQL reasoner comes to. -/
inductive Reasoned where
  | candidate (candidate : SqlCandidate)
  | no_progress
  | raised (error : Raised)

/-- What the query engine raises. -/
inductive QueryFailure where
  | engine (reason_code : String)
  | raised (error : Raised)

/-- A snapshot of the workflow: its proposal, and the size of its canonical JSON. -/
structure Proposed where
  proposal_ref : ProposalRef
  content_bytes : ℕ

inductive RetailOp where
  | load
  | save (state : RetailGraphState)
  | mark_complete
  | interrupts (boundary : String)
  | build (request : ContextRequest)
  | complete (request : ModelRequest)
  | generate (request : SqlReasoningRequest)
  | execute_query (sql : Text 1 100000)
  | propose (request : ProposeRequest)
  | delete_attempt (attempt : AttemptRef)

abbrev RetailAns : RetailOp → Type
  | .load => Option RetailGraphState
  | .save _ => Unit
  | .mark_complete => Unit
  | .interrupts _ => Bool
  | .build _ => Except Raised PromptHashes
  | .complete _ => Except Raised ModelResponse
  | .generate _ => Reasoned
  | .execute_query _ => Except QueryFailure QueryResult
  | .propose _ => Except Raised Proposed
  | .delete_attempt _ => Except Raised Unit

/-- A call of the graph: it returns or raises. -/
abbrev RetailCall (α : Type) := Flow RetailOp RetailAns (Except Raised α)

def raise {α : Type} (e : Raised) : RetailCall α := .done (.error e)

/-! ## Outcomes -/

theorem model_call_limit_code : Operations.matchesPattern Operations.lowerCase Operations.codeChar 2 127
    "model_call_limit" = true := by decide
theorem sql_no_progress_code : Operations.matchesPattern Operations.lowerCase Operations.codeChar 2 127
    "sql_no_progress" = true := by decide
theorem sql_repair_limit_code : Operations.matchesPattern Operations.lowerCase Operations.codeChar 2 127
    "sql_repair_limit" = true := by decide
theorem product_query_capability_unavailable_code : Operations.matchesPattern Operations.lowerCase Operations.codeChar 2 127
    "product_query_capability_unavailable" = true := by decide
theorem operation_workflow_unavailable_code : Operations.matchesPattern Operations.lowerCase Operations.codeChar 2 127
    "operation_workflow_unavailable" = true := by decide
theorem checkpoint_interrupt_code : Operations.matchesPattern Operations.lowerCase Operations.codeChar 2 127
    "checkpoint_interrupt" = true := by decide
theorem private_turn_cleanup_failed_code : Operations.matchesPattern Operations.lowerCase Operations.codeChar 2 127
    "private_turn_cleanup_failed" = true := by decide

namespace RetailGraph

def model_call_limit : Code 2 127 := ⟨"model_call_limit", model_call_limit_code⟩
def sql_no_progress : Code 2 127 := ⟨"sql_no_progress", sql_no_progress_code⟩
def sql_repair_limit : Code 2 127 := ⟨"sql_repair_limit", sql_repair_limit_code⟩
def product_query_capability_unavailable : Code 2 127 :=
  ⟨"product_query_capability_unavailable", product_query_capability_unavailable_code⟩
def operation_workflow_unavailable : Code 2 127 :=
  ⟨"operation_workflow_unavailable", operation_workflow_unavailable_code⟩
def checkpoint_interrupt : Code 2 127 := ⟨"checkpoint_interrupt", checkpoint_interrupt_code⟩
def private_turn_cleanup_failed : Code 2 127 := ⟨"private_turn_cleanup_failed", private_turn_cleanup_failed_code⟩

/-- The kind of a stop, from its code. -/
def stop_kind (reason_code : Code 2 127) (retryable : Bool) : StopKind :=
  if "_limit".toList <:+ reason_code.text.toList then .budget_exhausted
  else if retryable ∨ "unavailable".toList <:+: reason_code.text.toList ∨ "cleanup".toList <:+: reason_code.text.toList then
    .infrastructure_error
  else .no_progress

/-- `_stopped_day4(request, reason_code, ...)`. -/
def stopped_day4 (request : RetailRunRequest) (reason_code : Code 2 127) (model_calls tool_calls : ℕ)
    (hashes : PromptHashes) (retryable : Bool) : RetailRunOutcome where
  status := .stopped
  terminal := none
  stop := some ⟨stop_kind reason_code retryable, reason_code, none, retryable⟩
  model_calls := model_calls
  tool_calls := tool_calls
  hashes := hashes
  attempt_id := request.attempt_id
  value := trivial

def needs_input (request : RetailRunRequest) (terminal : ClarificationRequest) (model_calls tool_calls : ℕ)
    (hashes : PromptHashes) : RetailRunOutcome where
  status := .needs_input
  terminal := some (.clarification terminal)
  stop := none
  model_calls := model_calls
  tool_calls := tool_calls
  hashes := hashes
  attempt_id := request.attempt_id
  value := trivial

def completed (request : RetailRunRequest) (terminal : InvestigationReport) (model_calls tool_calls : ℕ)
    (hashes : PromptHashes) : RetailRunOutcome where
  status := .completed
  terminal := some (.report terminal)
  stop := none
  model_calls := model_calls
  tool_calls := tool_calls
  hashes := hashes
  attempt_id := request.attempt_id
  value := trivial

def terminal_json : RetailTerminal → String
  | .clarification request => model_dump_json request
  | .report report => model_dump_json report

/-- The terminal value that a checkpoint holds, unless it cannot be read. -/
def load_terminal (text : String) : Option RetailTerminal := do
  let terminal_payload ← Json.loads text
  if terminal_payload.get? "type" = some (.str "clarification_request") then
    (Json.ofJson terminal_payload).map .clarification
  else (Json.ofJson terminal_payload).map .report

def status_of (terminal : Option RetailTerminal) (stop : Option StopOutcome) : RetailRunStatus :=
  if stop.isSome then .stopped
  else
    match terminal with
    | some (.clarification _) => .needs_input
    | _ => .completed

instance : (status : RetailRunStatus) → (terminal : Option RetailTerminal) → (stop : Option StopOutcome) →
    Decidable (TerminalValue status terminal stop)
  | .needs_input, some (.clarification _), none => inferInstanceAs (Decidable True)
  | .completed, some (.report _), none => inferInstanceAs (Decidable True)
  | .stopped, none, some _ => inferInstanceAs (Decidable True)
  | .needs_input, none, _ | .needs_input, some (.report _), _ | .needs_input, some (.clarification _), some _
  | .completed, none, _ | .completed, some (.clarification _), _ | .completed, some (.report _), some _
  | .stopped, some _, _ | .stopped, none, none => inferInstanceAs (Decidable False)

/-- A value that a checkpoint may hold. -/
def load_optional {α : Type} (load : String → Option α) : Option String → Except Raised (Option α)
  | none => .ok none
  | some text =>
    match load text with
    | some value => .ok (some value)
    | none => .error ValidationError

/-- `_restore_day4_outcome(request, state)`. -/
def restore_day4_outcome (request : RetailRunRequest) (state : RetailGraphState) : Except Raised RetailRunOutcome := do
  let terminal ← load_optional load_terminal state.terminal_json
  let stop ← load_optional model_validate_json state.stop_reason_json
  if h : TerminalValue (status_of terminal stop) terminal stop then
    .ok {
      status := status_of terminal stop
      terminal := terminal
      stop := stop
      model_calls := state.model_call_count
      tool_calls := state.tool_call_count
      hashes := state.hashes
      attempt_id := request.attempt_id
      value := h }
  else .error ValidationError

/-! ## The end of a run -/

variable (graph : RetailGraph)

/-- `_finish_day4(request, desired)`. -/
def finish_day4 (request : RetailRunRequest) (desired : RetailRunOutcome) : RetailCall RetailRunOutcome :=
  .ask (.delete_attempt ⟨scope_digest graph.library request.run_scope, request.attempt_id⟩) fun
    | .error _ => .done (.ok (stopped_day4 request private_turn_cleanup_failed desired.model_calls desired.tool_calls
        desired.hashes true))
    | .ok () => .ask .mark_complete fun () => .done (.ok desired)

/-- `_save_day4_state(request, state)`. -/
def save_day4_state (state : RetailGraphState) (k : RetailCall RetailRunOutcome) : RetailCall RetailRunOutcome :=
  .ask (.save state) fun () => k

/-- `_interrupt_day4(request, state, boundary)`. -/
def interrupt_day4 (request : RetailRunRequest) (state : RetailGraphState) (boundary : String)
    (k : RetailCall RetailRunOutcome) : RetailCall RetailRunOutcome :=
  .ask (.interrupts boundary) fun interrupted =>
  if interrupted then
    .done (.ok (stopped_day4 request checkpoint_interrupt state.model_call_count state.tool_call_count state.hashes true))
  else k

/-- The checkpoint of a decided outcome. -/
def finalized (desired : RetailRunOutcome) (state : RetailGraphState) : RetailGraphState :=
  { state with
    current_node := .finalize
    model_call_count := desired.model_calls
    tool_call_count := desired.tool_calls
    hashes := desired.hashes
    terminal_json := desired.terminal.map terminal_json
    stop_reason_json := desired.stop.map model_dump_json
    cleanup_complete := false }

def cache_and_finish (request : RetailRunRequest) (desired : RetailRunOutcome) (state : RetailGraphState) :
    RetailCall RetailRunOutcome :=
  save_day4_state (finalized desired state) <|
  interrupt_day4 request (finalized desired state) "commit_terminal" <|
  graph.finish_day4 request desired

/-- A stop that the state leads to. -/
def stop_run (request : RetailRunRequest) (state : RetailGraphState) (reason_code : Code 2 127)
    (model_calls tool_calls : ℕ) : RetailCall RetailRunOutcome :=
  graph.cache_and_finish request (stopped_day4 request reason_code model_calls tool_calls state.hashes false) state

/-! ## Model calls -/

def model_context (request : RetailRunRequest) (step : PromptStep) (evidence : List ContextDatum) (sequence : ℕ) :
    ContextRequest where
  run_scope := request.run_scope
  attempt_id := request.attempt_id
  sequence := sequence
  step := step
  current_input := request.current_input
  confirmed_facts := request.confirmed_facts
  evidence := evidence
  latest_error := none
  history := []

/-- `ContextBuilder.build(request)`, which raises unless the scope has the configuration's hash. -/
def build (context : ContextRequest) : RetailCall PromptHashes :=
  .ask (.build context) <| onOk fun hashes =>
  if context.run_scope.config_hash ≠ hashes.config_hash then raise (.exception "RevisionMismatch")
  else .done (.ok hashes)

def response_bound (request : RetailRunRequest) (sequence : ℕ) (ref : ProviderTurnRef) : Bool :=
  ref.scope_digest = scope_digest graph.library request.run_scope && ref.attempt_id = request.attempt_id &&
    ref.sequence = sequence

/-- `_call_day4_model(request, step, evidence, sequence)`. -/
def call_day4_model (request : RetailRunRequest) (step : PromptStep) (evidence : List ContextDatum) (sequence : ℕ) :
    RetailCall (ModelOutput × PromptHashes) :=
  (build (model_context request step evidence sequence)).bind <| onOk fun hashes =>
  .ask (.complete ((model_context request step evidence sequence).bundle hashes).model_request) <| onOk fun response =>
  if ¬ graph.response_bound request sequence response.provider_turn_ref then
    raise (ToolContractError "model_response_binding_mismatch")
  else .done (.ok (response.output, hashes))

def one_tool_call (output : ModelOutput) (step : PromptStep) : Except Raised ToolCall :=
  match output with
  | .tool_calls ⟨[call], _, _⟩ =>
    match graph.tool_names step with
    | none => .error (.exception "RuntimeError")
    | some allowed =>
      if call.name.text ∈ allowed then .ok call else .error (ToolContractError "tool_not_allowed_for_step")
  | _ => .error (ToolContractError "typed_retail_action_required")

/-! ## Reports -/

/-- `ContextDatum(...)` of a tool result, unless it raises. -/
def tool_result_datum (source_ref revision content : String) : Option ContextDatum := do
  let source_ref ← Checked.parse source_ref
  let revision ← Checked.parse revision
  let text ← Checked.parse content
  some ⟨.tool_result, .product_query_result, source_ref, some revision, text, graph.library.sha256 content⟩

def query_evidence_datum (evidence : EvidenceResult) : Option ContextDatum :=
  graph.tool_result_datum evidence.evidence_id.text "query-evidence-v1"
    (graph.library.canonical_json evidence.model_dump)

def reconciliation_datum (reconciliation : ReconciliationResult) : Option ContextDatum :=
  graph.tool_result_datum "reconciliation:plan" "reconciliation-v1" (model_dump_json reconciliation)

/-- The evidence of a report, unless it raises. -/
def report_evidence (evidence_results : List EvidenceResult) (reconciliation : ReconciliationResult) :
    Option (List ContextDatum) := do
  let query_datums ← evidence_results.mapM graph.query_evidence_datum
  let datum ← graph.reconciliation_datum reconciliation
  some (query_datums ++ [datum])

def evidence_json (evidence_results : List EvidenceResult) : String :=
  graph.library.canonical_json (.arr (evidence_results.map EvidenceResult.model_dump))

theorem reconciled_code : Operations.matchesPattern Operations.lowerCase Operations.codeChar 2 127 "reconciled" = true := by
  decide

/-- The reconciliation of a run: one check, which compares the digest of the evidence with itself. -/
def reconcile (evidence_results : List EvidenceResult) : ReconciliationResult where
  passed := true
  checks := [{
    rule_type := .null
    passed := true
    reason_code := ⟨"reconciled", reconciled_code⟩
    actual_digest := graph.library.sha256 (graph.evidence_json evidence_results)
    expected_digest := graph.library.sha256 (graph.evidence_json evidence_results) }]
  size := ⟨Nat.le_refl 1, Nat.le_add_left 1 63⟩
  summary := rfl

/-! ## Proposals -/

/-- `ProposeRequest(...)`, unless it raises. -/
def propose_request (actor : ActorContext) (arguments : ProposeArguments) : Option ProposeRequest := do
  let idempotency_key : IdempotencyKey ← Checked.parse arguments.idempotency_key
  if h : (1 ≤ arguments.evidence_refs.length ∧ arguments.evidence_refs.length ≤ 32) ∧ arguments.evidence_refs.Nodup then
    some ⟨actor, arguments.command, ⟨arguments.evidence_refs, h.1, h.2⟩, idempotency_key, arguments.revises⟩
  else none

def source_ref (ref : ProposalRef) : String := s!"proposal:{ref.proposal_id.text}:{ref.version}"

/-- `RetailToolDispatcher.execute(scope, attempt_id, call, step)` of a proposal, by its source references. -/
def execute_proposal (dispatcher : RetailToolDispatcher) (call : ToolCall) : RetailCall (List String) :=
  match dispatcher.actor, dispatcher.workflow with
  | some actor, true =>
    match graph.propose_arguments call.arguments_json.text with
    | .error e => raise e
    | .ok arguments =>
      match propose_request actor arguments with
      | none => raise ValidationError
      | some request => .ask (.propose request) <| onOk fun snapshot =>
        if 65536 < snapshot.content_bytes then raise (ToolContractError "tool_result_too_large")
        else .done (.ok [source_ref snapshot.proposal_ref])
  | _, _ => raise (ToolInfrastructureError "operation_workflow_unavailable")

/-- Each created proposal is declared: one of the identifiers is part of its reference. -/
def declares (report : InvestigationReport) (proposal_refs : List String) : Bool :=
  proposal_refs.all fun ref => report.proposal_refs.any fun declared =>
    decide (declared.proposal_id.text.toList <:+: ref.toList)

/-! ## The report loop -/

/-- The model's next call, for a report. -/
def report_call (request : RetailRunRequest) (datums : List ContextDatum) (state : RetailGraphState) :
    RetailCall (ToolCall × PromptHashes) :=
  (graph.call_day4_model request .retail_report datums state.model_call_count).bind <| onOk fun (output, hashes) =>
  match graph.one_tool_call output .retail_report with
  | .error e => raise e
  | .ok call => .done (.ok (call, hashes))

/-- A call of the model for the report has been answered. -/
def answered (state : RetailGraphState) (hashes : PromptHashes) : RetailGraphState :=
  { state with
    model_call_count := state.model_call_count + 1
    tool_call_count := state.tool_call_count + 1
    hashes := hashes }

/-- A call that is not a proposal. -/
def submit_report (request : RetailRunRequest) (state : RetailGraphState) (proposal_refs : List String)
    (call : ToolCall) : RetailCall RetailRunOutcome :=
  if call.name.text ≠ "submit_investigation_report" then raise (ToolContractError "investigation_report_required")
  else
    match graph.investigation_report call.arguments_json.text with
    | none => raise (ToolContractError "invalid_tool_arguments")
    | some report =>
      if proposal_refs ≠ [] ∧ ¬ declares report proposal_refs then raise (ToolContractError "proposal_reference_mismatch")
      else
        graph.cache_and_finish request
          (completed request report state.model_call_count state.tool_call_count state.hashes) state

/-- A proposal that is about to be executed. -/
def proposing (state : RetailGraphState) (call : ToolCall) : RetailGraphState :=
  { state with current_node := .create_proposal, pending_tool_batch := some call }

/-- A proposal that has been executed. -/
def proposed (state : RetailGraphState) (proposal_refs : List String) : RetailGraphState :=
  { state with current_node := .prepare_report, pending_tool_batch := none, proposal_refs := proposal_refs }

/-- A call that the checkpoint holds. -/
def pending_call (state : RetailGraphState) : Option ToolCall :=
  if state.current_node = .create_proposal then state.pending_tool_batch else none

/-- A call of the report loop. `again` is the loop after a proposal, with the references so far. -/
def on_report_call (request : RetailRunRequest) (state : RetailGraphState) (proposal_refs : List String)
    (call : ToolCall) (again : List String → RetailCall RetailRunOutcome) : RetailCall RetailRunOutcome :=
  if call.name.text ≠ "propose_operation" then graph.submit_report request state proposal_refs call
  else
    match graph.dispatcher with
    | none =>
      graph.stop_run request state operation_workflow_unavailable state.model_call_count state.tool_call_count
    | some dispatcher =>
      save_day4_state (proposing state call) <|
      (graph.execute_proposal dispatcher call).bind <| onOk fun source_refs =>
      save_day4_state (proposed (proposing state call) (proposal_refs ++ source_refs)) <|
      interrupt_day4 request (proposed (proposing state call) (proposal_refs ++ source_refs)) "create_proposal" <|
      again (proposal_refs ++ source_refs)

def report_loop (request : RetailRunRequest) (datums : List ContextDatum) (state : RetailGraphState)
    (proposal_refs : List String) : RetailCall RetailRunOutcome :=
  match _hpending : pending_call state with
  | some call =>
    graph.on_report_call request state proposal_refs call fun proposal_refs =>
    report_loop request datums (proposed (proposing state call) proposal_refs) proposal_refs
  | none =>
    if graph.policy.max_model_calls ≤ state.model_call_count then
      graph.stop_run request state model_call_limit state.model_call_count state.tool_call_count
    else
      (graph.report_call request datums state).bind <| onOk fun (call, hashes) =>
      graph.on_report_call request (answered state hashes) proposal_refs call fun proposal_refs =>
      report_loop request datums (proposed (proposing (answered state hashes) call) proposal_refs) proposal_refs
termination_by 2 * (graph.policy.max_model_calls - state.model_call_count) + if (pending_call state).isSome then 1 else 0
decreasing_by
  all_goals
    simp only [proposed, proposing, answered, pending_call, reduceCtorEq, if_false, Option.isSome_none] at _hpending ⊢
    simp_all
    try omega

/-- The last phase: the report and its proposals. -/
def prepare_report (request : RetailRunRequest) (state : RetailGraphState) (evidence_results : List EvidenceResult)
    (reconciliation : ReconciliationResult) : RetailCall RetailRunOutcome :=
  match graph.report_evidence evidence_results reconciliation with
  | none => raise ValidationError
  | some datums => graph.report_loop request datums state state.proposal_refs

def reconciled (state : RetailGraphState) (reconciliation : ReconciliationResult) : RetailGraphState :=
  { state with current_node := .prepare_report, reconciliation := some reconciliation }

/-- The phase after the plan: the reconciliation, unless the checkpoint holds it. -/
def prepare_reconciliation (request : RetailRunRequest) (state : RetailGraphState)
    (evidence_results : List EvidenceResult) : RetailCall RetailRunOutcome :=
  match state.reconciliation with
  | some reconciliation => graph.prepare_report request state evidence_results reconciliation
  | none =>
    save_day4_state (reconciled state (graph.reconcile evidence_results)) <|
    graph.prepare_report request (reconciled state (graph.reconcile evidence_results)) evidence_results
      (graph.reconcile evidence_results)

/-! ## The plan loop -/

/-- `SqlReasoningRequest(...)`, unless it raises. -/
def reasoning_request (request : RetailRunRequest) (state : RetailGraphState) (step : QueryPlanStep)
    (repair_number : ℕ) : Option SqlReasoningRequest :=
  if h : (1 ≤ request.evidence.length ∧ request.evidence.length ≤ 64) ∧ repair_number ≤ 3 ∧
      ((state.latest_error = none ∧ repair_number = 0 ∧ state.sql_candidate = none) ∨
        (state.latest_error.isSome ∧ repair_number ≠ 0 ∧ state.sql_candidate.isSome)) then
    some {
      run_scope := request.run_scope
      attempt_id := request.attempt_id
      sequence := state.model_call_count
      step_id := step.step_id
      current_input := request.current_input
      confirmed_facts := request.confirmed_facts
      evidence := request.evidence
      repair_number := repair_number
      latest_error := state.latest_error
      previous := state.sql_candidate
      size := h.1
      repair_bound := h.2.1
      repair_state := h.2.2 }
  else none

def repair_number (state : RetailGraphState) : Except Raised ℕ :=
  match state.latest_error, state.sql_candidate with
  | none, _ => .ok 0
  | some _, some previous => .ok (previous.repair_number + 1)
  | some _, none => .error (.exception "AttributeError")

def generated (state : RetailGraphState) (candidate : SqlCandidate) : RetailGraphState :=
  { state with
    current_node := .execute_query
    model_call_count := state.model_call_count + 1
    sql_candidate := some candidate }

/-- A new candidate for a step. -/
def generate_candidate (request : RetailRunRequest) (state : RetailGraphState) (step : QueryPlanStep)
    (k : SqlCandidate → RetailCall RetailRunOutcome) : RetailCall RetailRunOutcome :=
  if graph.policy.max_model_calls ≤ state.model_call_count then
    graph.stop_run request state model_call_limit state.model_call_count state.tool_call_count
  else
    match repair_number state with
    | .error e => raise e
    | .ok repair_number =>
      match reasoning_request request state step repair_number with
      | none => raise ValidationError
      | some reasoning => .ask (.generate reasoning) fun
        | .no_progress =>
          graph.stop_run request state sql_no_progress (state.model_call_count + 1) state.tool_call_count
        | .raised e => raise e
        | .candidate candidate =>
          save_day4_state (generated state candidate) <|
          interrupt_day4 request (generated state candidate) "checkpoint_candidate" <|
          k candidate

def repairing (state : RetailGraphState) (latest_error : ProductDbError) : RetailGraphState :=
  { state with
    current_node := .sql_reason
    tool_call_count := state.tool_call_count + 1
    repair_count := state.repair_count + 1
    latest_error := some latest_error }

def answered_step (state : RetailGraphState) (pending_step_ids : List (Name 1 127))
    (evidence_results : List EvidenceResult) : RetailGraphState :=
  { state with
    current_node := .prepare_plan_step
    tool_call_count := state.tool_call_count + 1
    pending_plan_step_ids := pending_step_ids
    sql_candidate := none
    latest_error := none
    query_evidence := evidence_results }

/-- The query of a candidate. `again` is the loop with one more repair, `next` the loop with the evidence
of the step. -/
def on_candidate (request : RetailRunRequest) (state : RetailGraphState) (step : QueryPlanStep)
    (evidence_results : List EvidenceResult) (pending_step_ids : List (Name 1 127)) (candidate : SqlCandidate)
    (again : state.repair_count < graph.policy.max_repairs → ProductDbError → RetailCall RetailRunOutcome)
    (next : List EvidenceResult → RetailCall RetailRunOutcome) : RetailCall RetailRunOutcome :=
  .ask (.execute_query candidate.sql) fun
    | .error (.raised e) => raise e
    | .error (.engine reason_code) =>
      if h : graph.policy.max_repairs ≤ candidate.repair_number ∨ graph.policy.max_repairs ≤ state.repair_count then
        graph.stop_run request state sql_repair_limit state.model_call_count (state.tool_call_count + 1)
      else
        match Checked.parse reason_code with
        | none => raise ValidationError
        | some reason_code =>
          save_day4_state (repairing state ⟨reason_code, true, candidate.execution_fingerprint⟩) <|
          again (not_le.mp (not_or.mp h).2) ⟨reason_code, true, candidate.execution_fingerprint⟩
    | .ok result =>
      match EvidenceResult.parse s!"query:{step.step_id.text}" result candidate.execution_fingerprint with
      | none => raise ValidationError
      | some evidence_result =>
        save_day4_state (answered_step state pending_step_ids (evidence_results ++ [evidence_result])) <|
        interrupt_day4 request (answered_step state pending_step_ids (evidence_results ++ [evidence_result]))
          "execute_query" <|
        next (evidence_results ++ [evidence_result])

/-- A candidate that the checkpoint holds. -/
def stored_candidate (state : RetailGraphState) : Option SqlCandidate :=
  if state.current_node = .execute_query then state.sql_candidate else none

def plan_loop (request : RetailRunRequest) (plan : InvestigationPlan) (state : RetailGraphState)
    (evidence_results : List EvidenceResult) (pending_step_ids : List (Name 1 127)) : RetailCall RetailRunOutcome :=
  match pending_step_ids with
  | [] => graph.prepare_reconciliation request state evidence_results
  | step_id :: pending_step_ids =>
    match plan.steps.find? fun step => step.step_id = step_id with
    | none => raise (CheckpointIncompatible "plan_step_missing")
    | some step =>
      match stored_candidate state with
      | some candidate =>
        graph.on_candidate request state step evidence_results pending_step_ids candidate
          (fun _ latest_error =>
            plan_loop request plan (repairing state latest_error) evidence_results (step_id :: pending_step_ids))
          (fun evidence_results =>
            plan_loop request plan (answered_step state pending_step_ids evidence_results) evidence_results
              pending_step_ids)
      | none =>
        graph.generate_candidate request state step fun candidate =>
        graph.on_candidate request (generated state candidate) step evidence_results pending_step_ids candidate
          (fun _ latest_error =>
            plan_loop request plan (repairing (generated state candidate) latest_error) evidence_results
              (step_id :: pending_step_ids))
          (fun evidence_results =>
            plan_loop request plan (answered_step (generated state candidate) pending_step_ids evidence_results)
              evidence_results pending_step_ids)
termination_by pending_step_ids.length + (graph.policy.max_repairs - state.repair_count)
decreasing_by
  all_goals
    simp only [repairing, answered_step, generated, List.length_cons] at *
    omega

/-! ## The run -/

/-- What the loop restores from a checkpoint without an outcome. -/
def investigate (request : RetailRunRequest) (state : RetailGraphState) : RetailCall RetailRunOutcome :=
  if graph.sql_reasoner = false ∨ graph.query_engine = false then
    graph.stop_run request state product_query_capability_unavailable state.model_call_count state.tool_call_count
  else
    match state.investigation_plan with
    | none => raise (CheckpointIncompatible "investigation_plan_missing")
    | some plan => graph.plan_loop request plan state state.query_evidence state.pending_plan_step_ids

def planned (request : RetailRunRequest) (plan : InvestigationPlan) (hashes : PromptHashes) : RetailGraphState :=
  { initial_state request with
    current_node := .prepare_plan_step
    model_call_count := 1
    tool_call_count := 1
    investigation_plan := some plan
    pending_plan_step_ids := plan.steps.map QueryPlanStep.step_id
    hashes := hashes }

/-- The exceptions of the standard library, and of the contracts, that are `ValueError`s. -/
def VALUE_ERRORS : List String :=
  ["ValidationError", "ValueError", "JSONDecodeError", "UnicodeDecodeError", "UnicodeEncodeError"]

/-- `except (ValidationError, ValueError)` of the first call. -/
def decide_error : Raised → Raised
  | .exception name => if name ∈ VALUE_ERRORS then ToolContractError "invalid_tool_arguments" else .exception name
  | e => e

/-- A run without a checkpoint. -/
def decide_day4 (request : RetailRunRequest) : RetailCall RetailRunOutcome :=
  (graph.call_day4_model request .retail_decide request.evidence 0).bind fun
    | .error e => raise (decide_error e)
    | .ok (output, hashes) =>
      match graph.one_tool_call output .retail_decide with
      | .error e => raise e
      | .ok call =>
        if call.name.text = "request_clarification" then
          match graph.clarification_request call.arguments_json.text with
          | none => raise (ToolContractError "invalid_tool_arguments")
          | some terminal =>
            graph.cache_and_finish request (needs_input request terminal 1 1 hashes) (initial_state request)
        else if call.name.text ≠ "submit_investigation_plan" then
          raise (ToolContractError "investigation_plan_required")
        else
          match graph.investigation_plan call.arguments_json.text with
          | none => raise (ToolContractError "invalid_tool_arguments")
          | some plan =>
            save_day4_state (planned request plan hashes) <|
            graph.investigate request (planned request plan hashes)

/-- A run from a checkpoint. -/
def resume_day4 (request : RetailRunRequest) (state : RetailGraphState) : RetailCall RetailRunOutcome :=
  match assert_checkpoint_compatible request state with
  | .error e => raise e
  | .ok () =>
    if state.terminal_json.isSome ∨ state.stop_reason_json.isSome then
      match restore_day4_outcome request state with
      | .error e => raise e
      | .ok desired => if state.cleanup_complete then .done (.ok desired) else graph.finish_day4 request desired
    else graph.investigate request state

/-- `_run_day4(request)`. -/
def run_day4 (request : RetailRunRequest) : RetailCall RetailRunOutcome :=
  .ask .load fun
    | none => graph.decide_day4 request
    | some state => graph.resume_day4 request state

end RetailGraph

end CommerceAgent.Orchestration
