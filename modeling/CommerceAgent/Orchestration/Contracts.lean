import CommerceAgent.Lib.Play
import CommerceAgent.Operations.Contracts

/-!
# Contracts of the orchestration

The requests, responses and outcomes that the three tracks exchange with the context
builder, the model gateway and their tools.
-/

open CommerceAgent.Lib
open CommerceAgent.Operations (UUID Text Code HexDigest)

namespace CommerceAgent.Orchestration

/-! ## Errors -/

/-- What a call raises: an error with a stable code, or an exception of the language. -/
inductive Raised where
  | tool_contract (reason_code : String)
  | tool_infrastructure (reason_code : String)
  | model_gateway (reason_code : Code 2 127) (retryable : Bool)
  | exception (name : String)
  deriving DecidableEq

def ToolContractError (reason_code : String) : Raised := .tool_contract reason_code
def ToolInfrastructureError (reason_code : String) : Raised := .tool_infrastructure reason_code
def ModelGatewayError (reason_code : Code 2 127) (retryable : Bool) : Raised := .model_gateway reason_code retryable
def ValidationError : Raised := .exception "ValidationError"

/-! ## JSON -/

/-- A finite JSON value, as `json.loads` returns it. -/
inductive Value where
  | null
  | bool (b : Bool)
  | int (n : ℤ)
  | float (q : ℚ)
  | str (s : String)
  | arr (items : List Value)
  | obj (fields : List (String × Value))
  deriving Inhabited

/-- `value.get(key)`, for a dictionary. -/
def Value.get? : Value → String → Option Value
  | .obj fields, key => fields.lookup key
  | _, _ => none

/-- `value == n`, for a number. -/
def Value.number? : Value → Option ℚ
  | .bool b => some (if b then 1 else 0)
  | .int n => some n
  | .float q => some q
  | _ => none

/-- `bool(value)`. -/
def Value.truthy : Value → Bool
  | .null => false
  | .bool b => b
  | .int n => n ≠ 0
  | .float q => q ≠ 0
  | .str s => s ≠ ""
  | .arr items => !items.isEmpty
  | .obj fields => !fields.isEmpty

/-- The standard library, as far as the orchestration uses it. -/
structure Library where
  /-- `json.loads(text)`, unless it raises. -/
  loads : String → Option Value
  /-- `json.dumps(value, ensure_ascii=False, sort_keys=True, separators=(",", ":"))`. -/
  canonical_json : Value → String
  /-- `json.dumps(value, ensure_ascii=False)`. -/
  dumps : Value → String
  /-- `sha256(text.encode("utf-8")).hexdigest()`. -/
  sha256 : String → HexDigest
  /-- `str(value)`. -/
  str : Value → String
  /-- `float(value)`, unless it raises; without a value when it is not finite. -/
  float : Value → Except Raised (Option ℚ)
  /-- `f"{value:.1f}"`. -/
  fixed : ℚ → String
  /-- `text.strip()`. -/
  strip : String → String

/-! ## Scopes and data -/

inductive Track where
  | retail
  | bird
  deriving DecidableEq, Repr

def Track.value : Track → String
  | .retail => "retail"
  | .bird => "bird"

inductive Mode where
  | retail
  | a
  | c
  deriving DecidableEq, Repr

def Mode.value : Mode → String
  | .retail => "retail"
  | .a => "a"
  | .c => "c"

structure RunScope where
  run_id : UUID
  track : Track
  mode : Mode
  subject_id : Text 1 128
  experiment_id : Text 1 128
  config_hash : HexDigest
  same_track : (track, mode) ∈ [(Track.retail, Mode.retail), (.bird, .a), (.bird, .c)]
  deriving DecidableEq

def scope_digest (library : Library) (scope : RunScope) : HexDigest :=
  library.sha256 <| library.canonical_json <| .obj
    [("run_id", .str scope.run_id.text), ("track", .str scope.track.value), ("mode", .str scope.mode.value),
      ("subject_id", .str scope.subject_id.text), ("experiment_id", .str scope.experiment_id.text),
      ("config_hash", .str scope.config_hash.text)]

inductive DatumKind where
  | user_input
  | confirmed_fact
  | schema
  | knowledge
  | business_value
  | tool_result
  | official_feedback
  | phase
  | error
  deriving DecidableEq, Repr

inductive DataNamespace where
  | user_input
  | confirmed_fact
  | runtime_error
  | olist_schema
  | retail_knowledge
  | business_value
  | product_query_result
  | bird_schema
  | bird_official_feedback
  | bird_a_tool_result
  | bird_c_phase
  deriving DecidableEq, Repr

structure ContextDatum where
  kind : DatumKind
  name_space : DataNamespace
  source_ref : Text 1 512
  revision : Option (Text 1 128)
  content : Text 1 262144
  digest : HexDigest
  deriving DecidableEq

structure TypedErrorDatum where
  error_type : String
  reason_code : Code 2 127
  retryable : Bool
  message : Text 1 256
  digest : HexDigest
  deriving DecidableEq

/-! ## Model turns -/

structure ToolCall where
  call_id : Text 1 128
  name : Code 2 63
  arguments_json : Text 1 262144
  deriving DecidableEq

def ask_user_name : Code 2 63 := ⟨"ask_user", by decide⟩
def submit_sql_name : Code 2 63 := ⟨"submit_sql", by decide⟩

inductive ToolStatus where
  | success
  | error
  deriving DecidableEq, Repr

structure ToolResult where
  call_id : Text 1 128
  name : Code 2 63
  status : ToolStatus
  content_json : Text 1 262144
  deterministic_summary : Text 1 16384
  content_sha256 : HexDigest
  source_refs : List String
  deriving DecidableEq

structure ProviderTurnRef where
  turn_id : UUID
  scope_digest : HexDigest
  attempt_id : UUID
  sequence : ℕ
  expected_tool_call_ids : List (Text 1 128)
  deriving DecidableEq

/-- One complete assistant tool request and its ordered results. -/
structure ToolExchangeGroup where
  provider_turn_ref : ProviderTurnRef
  tool_calls : List ToolCall
  tool_results : List ToolResult
  size : 1 ≤ tool_calls.length ∧ tool_calls.length ≤ 8
  ids : tool_results.map ToolResult.call_id = tool_calls.map ToolCall.call_id
  expected : tool_calls.map ToolCall.call_id = provider_turn_ref.expected_tool_call_ids
  names : tool_results.map ToolResult.name = tool_calls.map ToolCall.name
  deriving DecidableEq

structure FinalOutput where
  content : Text 1 262144
  deriving DecidableEq

structure ToolCallOutput where
  tool_calls : List ToolCall
  size : 1 ≤ tool_calls.length ∧ tool_calls.length ≤ 8
  unique : (tool_calls.map ToolCall.call_id).Nodup
  deriving DecidableEq

inductive ModelOutput where
  | final (output : FinalOutput)
  | tool_calls (output : ToolCallOutput)
  deriving DecidableEq

inductive FinishReason where
  | stop
  | tool_calls
  | length
  | content_filter
  | insufficient_system_resource
  deriving DecidableEq, Repr

/-- The tool calls of an output, the finish reason and the private turn fit together. -/
def FitsTurn (finish_reason : FinishReason) (ref : ProviderTurnRef) : ModelOutput → Prop
  | .tool_calls output =>
    finish_reason = .tool_calls ∧ output.tool_calls.map ToolCall.call_id = ref.expected_tool_call_ids
  | .final _ => finish_reason ≠ .tool_calls ∧ ref.expected_tool_call_ids = []

instance (finish_reason : FinishReason) (ref : ProviderTurnRef) : (output : ModelOutput) →
    Decidable (FitsTurn finish_reason ref output)
  | .tool_calls _ => inferInstanceAs (Decidable (_ ∧ _))
  | .final _ => inferInstanceAs (Decidable (_ ∧ _))

structure ModelResponse where
  output : ModelOutput
  provider_turn_ref : ProviderTurnRef
  finish_reason : FinishReason
  fits : FitsTurn finish_reason provider_turn_ref output
  deriving DecidableEq

/-! ## Prompts -/

inductive PromptStep where
  | retail_decide
  | retail_clarify
  | retail_report
  | retail_sql_generate
  | retail_sql_repair
  | bird_a_act
  | bird_c_respond
  deriving DecidableEq, Repr

structure ContextRequest where
  run_scope : RunScope
  attempt_id : UUID
  sequence : ℕ
  step : PromptStep
  current_input : ContextDatum
  confirmed_facts : List ContextDatum
  evidence : List ContextDatum
  latest_error : Option TypedErrorDatum
  history : List ToolExchangeGroup
  deriving DecidableEq

structure PromptHashes where
  prompt_policy_hash : HexDigest
  rendered_prompt_hash : HexDigest
  tool_hash : HexDigest
  context_hash : HexDigest
  config_hash : HexDigest
  deriving DecidableEq

structure ModelRequest where
  run_scope : RunScope
  attempt_id : UUID
  sequence : ℕ
  hashes : PromptHashes
  deriving DecidableEq

structure PromptBundle where
  model_request : ModelRequest
  deriving DecidableEq

/-- The bundle that `ContextBuilder.build` makes of a request: it binds the model request to the
run, the attempt and the sequence that it was given. -/
def ContextRequest.bundle (request : ContextRequest) (hashes : PromptHashes) : PromptBundle :=
  ⟨{ run_scope := request.run_scope, attempt_id := request.attempt_id, sequence := request.sequence, hashes := hashes }⟩

structure AttemptRef where
  scope_digest : HexDigest
  attempt_id : UUID
  deriving DecidableEq

/-! ## Outcomes -/

inductive StopKind where
  | budget_exhausted
  | no_progress
  | unsafe_output
  | insufficient_data
  | completed
  | infrastructure_error
  deriving DecidableEq, Repr

def StopKind.value : StopKind → String
  | .budget_exhausted => "budget_exhausted"
  | .no_progress => "no_progress"
  | .unsafe_output => "unsafe"
  | .insufficient_data => "insufficient_data"
  | .completed => "completed"
  | .infrastructure_error => "infrastructure_error"

structure StopOutcome where
  kind : StopKind
  reason_code : Code 2 127
  evidence_digest : Option HexDigest
  retryable : Bool
  deriving DecidableEq

/-! ## Samples -/

def sampleLibrary : Library where
  loads text := if text = "{}" then some (.obj []) else none
  canonical_json _ := "{}"
  dumps _ := "{}"
  sha256 _ := HexDigest.ofNat 0
  str _ := ""
  float _ := .ok none
  fixed _ := ""
  strip text := text

theorem bird_a : (Track.bird, Mode.a) ∈ [(.retail, .retail), (.bird, .a), (.bird, .c)] := by decide
theorem bird_c : (Track.bird, Mode.c) ∈ [(.retail, .retail), (.bird, .a), (.bird, .c)] := by decide

def sampleScope (mode : Mode) (h : (Track.bird, mode) ∈ [(.retail, .retail), (.bird, .a), (.bird, .c)]) : RunScope where
  run_id := 1
  track := .bird
  mode := mode
  subject_id := ⟨"task-1", by decide⟩
  experiment_id := ⟨"experiment-1", by decide⟩
  config_hash := HexDigest.ofNat 0
  same_track := h

end CommerceAgent.Orchestration
