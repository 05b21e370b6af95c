import CommerceAgent.Orchestration.Contracts

/-!
# The BirdA loop

`BirdAGraph.run` as a call of operations on the context builder, the model-turn gate, the
model gateway, the tool port and the store of private turns.
-/

open CommerceAgent.Lib
open CommerceAgent.Lib.Flow (onOk)
open CommerceAgent.Operations (UUID Text Code HexDigest)

namespace CommerceAgent.Orchestration

/-! ## Requests and outcomes -/

structure BirdARunRequest where
  run_scope : RunScope
  attempt_id : UUID
  current_input : ContextDatum
  confirmed_facts : List ContextDatum
  evidence : List ContextDatum
  latest_error : Option TypedErrorDatum
  max_model_calls : ℕ
  max_tool_calls : ℕ
  model_bound : 1 ≤ max_model_calls ∧ max_model_calls ≤ 60
  tool_bound : max_tool_calls ≤ 60
  bird_a : (run_scope.track, run_scope.mode) = (.bird, .a)
  deriving DecidableEq

inductive BirdARunStatus where
  | completed
  | stopped
  deriving DecidableEq, Repr

structure BirdARunOutcome where
  status : BirdARunStatus
  final_output : Option FinalOutput
  stop : Option StopOutcome
  model_calls : ℕ
  tool_calls : ℕ
  hashes : PromptHashes
  attempt_id : UUID
  terminal : (status = .completed ∧ final_output.isSome ∧ stop = none) ∨
    (status = .stopped ∧ final_output = none ∧ stop.isSome)
  deriving DecidableEq

/-! ## Operations -/

inductive BirdAOp where
  | build (request : ContextRequest)
  | stop_model_turn
  | complete (request : ModelRequest)
  | execute (call : ToolCall)
  | delete_attempt (attempt : AttemptRef)
  deriving DecidableEq

abbrev BirdAAns : BirdAOp → Type
  | .build _ => Except Raised PromptHashes
  | .stop_model_turn => Except Raised (Option StopOutcome)
  | .complete _ => Except Raised ModelResponse
  | .execute _ => Except Raised ToolResult
  | .delete_attempt _ => Except Raised Unit

/-- A call of the graph: it returns or raises. -/
abbrev BirdACall (α : Type) := Flow BirdAOp BirdAAns (Except Raised α)

namespace BirdAGraph

/-! ## The loop -/

def completed (request : BirdARunRequest) (bundle : PromptBundle) (final_output : FinalOutput)
    (model_calls tool_calls : ℕ) : BirdARunOutcome where
  status := .completed
  final_output := some final_output
  stop := none
  model_calls := model_calls
  tool_calls := tool_calls
  hashes := bundle.model_request.hashes
  attempt_id := request.attempt_id
  terminal := .inl ⟨rfl, rfl, rfl⟩

def stopped (request : BirdARunRequest) (bundle : PromptBundle) (stop : StopOutcome) (model_calls tool_calls : ℕ) :
    BirdARunOutcome where
  status := .stopped
  final_output := none
  stop := some stop
  model_calls := model_calls
  tool_calls := tool_calls
  hashes := bundle.model_request.hashes
  attempt_id := request.attempt_id
  terminal := .inr ⟨rfl, rfl, rfl⟩

def model_call_limit : StopOutcome := ⟨.budget_exhausted, ⟨"model_call_limit", by decide⟩, none, false⟩
def tool_call_limit : StopOutcome := ⟨.budget_exhausted, ⟨"tool_call_limit", by decide⟩, none, false⟩
def repeated_evidence (evidence_digest : HexDigest) : StopOutcome :=
  ⟨.no_progress, ⟨"repeated_evidence", by decide⟩, some evidence_digest, false⟩
def model_output_filtered : StopOutcome := ⟨.unsafe_output, ⟨"model_output_filtered", by decide⟩, none, false⟩
def model_output_incomplete : StopOutcome := ⟨.insufficient_data, ⟨"model_output_incomplete", by decide⟩, none, false⟩
def insufficient_system_resource : StopOutcome :=
  ⟨.infrastructure_error, ⟨"insufficient_system_resource", by decide⟩, none, true⟩

variable (library : Library)

def evidence_digest (calls : List ToolCall) (results : List ToolResult) : HexDigest :=
  library.sha256 <| library.canonical_json <| .arr <| (calls.zip results).map fun (call, result) => .obj
    [("arguments", (library.loads call.arguments_json.text).getD .null), ("name", .str call.name.text),
      ("result_sha256", .str result.content_sha256.text)]

/-- `_validate_response_binding(bundle, ref)`. -/
def response_bound (bundle : PromptBundle) (ref : ProviderTurnRef) : Bool :=
  ref.scope_digest = scope_digest library bundle.model_request.run_scope &&
    ref.attempt_id = bundle.model_request.attempt_id && ref.sequence = bundle.model_request.sequence

/-- One tool batch, in call order. -/
def execute_all {α : Type} : List ToolCall → (List ToolResult → BirdACall α) → BirdACall α
  | [], k => k []
  | call :: calls, k => .ask (.execute call) <| onOk fun result => execute_all calls fun results => k (result :: results)

/-- `ToolExchangeGroup(...)`, which raises when the results do not fit the calls. -/
def tool_exchange {α : Type} (ref : ProviderTurnRef) (output : ToolCallOutput) (results : List ToolResult)
    (k : ToolExchangeGroup → BirdACall α) : BirdACall α :=
  if h : results.map ToolResult.call_id = output.tool_calls.map ToolCall.call_id ∧
      output.tool_calls.map ToolCall.call_id = ref.expected_tool_call_ids ∧
      results.map ToolResult.name = output.tool_calls.map ToolCall.name then
    k ⟨ref, output.tool_calls, results, output.size, h.1, h.2.1, h.2.2⟩
  else .done (.error ValidationError)

/-- What the loop carries from one turn to the next, beside the number of model calls. -/
structure Progress where
  history : List ToolExchangeGroup
  tool_calls : ℕ
  last_evidence_digest : Option HexDigest
  bundle : Option PromptBundle

def context (request : BirdARunRequest) (history : List ToolExchangeGroup) (model_calls : ℕ) : ContextRequest where
  run_scope := request.run_scope
  attempt_id := request.attempt_id
  sequence := model_calls
  step := .bird_a_act
  current_input := request.current_input
  confirmed_facts := request.confirmed_facts
  evidence := request.evidence
  latest_error := request.latest_error
  history := history

/-- A response with tool calls. `model_calls` counts this turn. -/
def on_tool_calls (request : BirdARunRequest) (progress : Progress) (bundle : PromptBundle) (model_calls : ℕ)
    (ref : ProviderTurnRef) (output : ToolCallOutput) (next : Progress → BirdACall BirdARunOutcome) :
    BirdACall BirdARunOutcome :=
  if request.max_tool_calls < progress.tool_calls + output.tool_calls.length then
    .done (.ok (stopped request bundle tool_call_limit model_calls progress.tool_calls))
  else
    execute_all output.tool_calls fun results =>
    if some (evidence_digest library output.tool_calls results) = progress.last_evidence_digest then
      .done (.ok (stopped request bundle (repeated_evidence (evidence_digest library output.tool_calls results))
        model_calls (progress.tool_calls + results.length)))
    else
      tool_exchange ref output results fun group =>
      next
        { history := progress.history ++ [group]
          tool_calls := progress.tool_calls + results.length
          last_evidence_digest := some (evidence_digest library output.tool_calls results)
          bundle := some bundle }

/-- A response without tool calls. -/
def on_final (request : BirdARunRequest) (bundle : PromptBundle) (model_calls tool_calls : ℕ) (output : FinalOutput) :
    FinishReason → BirdACall BirdARunOutcome
  | .stop => .done (.ok (completed request bundle output model_calls tool_calls))
  | .content_filter => .done (.ok (stopped request bundle model_output_filtered model_calls tool_calls))
  | .length => .done (.ok (stopped request bundle model_output_incomplete model_calls tool_calls))
  | .insufficient_system_resource =>
    .done (.ok (stopped request bundle insufficient_system_resource model_calls tool_calls))
  | .tool_calls => .done (.error (ToolContractError "unsupported_model_finish_reason"))

/-- The model call of a turn. `model_calls` counts the turns before it. -/
def model_turn (request : BirdARunRequest) (progress : Progress) (bundle : PromptBundle) (model_calls : ℕ)
    (next : Progress → BirdACall BirdARunOutcome) : BirdACall BirdARunOutcome :=
  .ask (.complete bundle.model_request) fun
    | .error (.model_gateway reason_code retryable) =>
      .done (.ok (stopped request bundle ⟨.infrastructure_error, reason_code, none, retryable⟩ (model_calls + 1)
        progress.tool_calls))
    | .error e => .done (.error e)
    | .ok response =>
      if ¬ response_bound library bundle response.provider_turn_ref then
        .done (.error (ToolContractError "model_response_binding_mismatch"))
      else
        match response.output with
        | .tool_calls output =>
          on_tool_calls library request progress bundle (model_calls + 1) response.provider_turn_ref output next
        | .final output => on_final request bundle (model_calls + 1) progress.tool_calls output response.finish_reason

/-- The gate, if there is one, in front of a model call. -/
def gate (gated : Bool) (request : BirdARunRequest) (progress : Progress) (bundle : PromptBundle) (model_calls : ℕ)
    (go : BirdACall BirdARunOutcome) : BirdACall BirdARunOutcome :=
  if gated then
    .ask .stop_model_turn <| onOk fun
      | some stop => .done (.ok (stopped request bundle stop model_calls progress.tool_calls))
      | none => go
  else go

def loop (gated : Bool) (request : BirdARunRequest) (model_calls : ℕ) (progress : Progress) :
    BirdACall BirdARunOutcome :=
  if request.max_model_calls ≤ model_calls then
    match progress.bundle with
    | none => .done (.error (ToolContractError "prompt_bundle_missing"))
    | some bundle => .done (.ok (stopped request bundle model_call_limit model_calls progress.tool_calls))
  else
    .ask (.build (context request progress.history model_calls)) <| onOk fun hashes =>
    gate gated request progress ((context request progress.history model_calls).bundle hashes) model_calls <|
    model_turn library request progress ((context request progress.history model_calls).bundle hashes) model_calls fun progress =>
    loop gated request (model_calls + 1) progress
termination_by request.max_model_calls - model_calls

def run_attempt (gated : Bool) (request : BirdARunRequest) : BirdACall BirdARunOutcome :=
  loop library gated request 0 ⟨[], 0, none, none⟩

/-- One attempt, and the destruction of its private state on exit. `gated` tells whether the graph
was built with a model-turn gate. -/
def run (gated : Bool) (request : BirdARunRequest) : BirdACall BirdARunOutcome :=
  (run_attempt library gated request).bind fun result =>
  .ask (.delete_attempt ⟨scope_digest library request.run_scope, request.attempt_id⟩) fun
    | .ok () => .done result
    | .error _ => .done (.error (ToolInfrastructureError "private_turn_cleanup_failed"))

end BirdAGraph

end CommerceAgent.Orchestration
