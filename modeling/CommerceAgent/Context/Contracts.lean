import CommerceAgent.Lib.JsonLine
import CommerceAgent.Orchestration.Contracts

/-!
# Contracts of the context builder

Profiles, conversation groups, requests and bundles, and their JSON. A conversation group is kept as it was
handed in: `valid` is what its contract checks.
-/

open CommerceAgent.Lib
open CommerceAgent.Operations (UUID Text Code HexDigest Checked Datetime)
open CommerceAgent.Orchestration

namespace CommerceAgent.Context

/-! ## Canonical JSON -/

/-- What the code uses of Python. -/
structure Python (φ : Type) where
  floats : FloatText φ
  /-- `sha256(text.encode("utf-8")).hexdigest()`. -/
  sha256 : String → HexDigest
  /-- `_SENSITIVE_ERROR.search(text)`, as a condition. -/
  sensitive : String → Bool

variable {φ : Type}

def Python.canonical_json (python : Python φ) (value : JsonValue φ) : String :=
  String.ofList (value.dumps python.floats 0)

/-- `sha256_canonical(value)`. -/
def Python.sha256_canonical (python : Python φ) (value : JsonValue φ) : HexDigest :=
  python.sha256 (python.canonical_json value)

/-- `_validate_canonical_json(value)` passes. -/
def Python.is_canonical_json (python : Python φ) (value : String) : Bool :=
  match JsonValue.loads python.floats value.toList with
  | some parsed => python.canonical_json parsed = value
  | none => false

/-- An aware datetime in canonical JSON. -/
def utc_text (value : Datetime) : String := (Datetime.utc value.instant value.inRange).isoformat

def or_null {α : Type} (f : α → JsonValue φ) : Option α → JsonValue φ
  | some a => f a
  | none => .null

def texts {α : Type} (f : α → String) (values : List α) : JsonValue φ := .arr (values.map fun a => .str (f a))

/-! ## Profiles -/

inductive RunProfileKey where
  | retail
  | bird_a
  | bird_c
  deriving DecidableEq, Repr

def RunProfileKey.value : RunProfileKey → String
  | .retail => "retail"
  | .bird_a => "bird_a"
  | .bird_c => "bird_c"

def step_value : PromptStep → String
  | .retail_decide => "retail_decide"
  | .retail_clarify => "retail_clarify"
  | .retail_report => "retail_report"
  | .retail_sql_generate => "retail_sql_generate"
  | .retail_sql_repair => "retail_sql_repair"
  | .bird_a_act => "bird_a_act"
  | .bird_c_respond => "bird_c_respond"

def kind_value : DatumKind → String
  | .user_input => "user_input"
  | .confirmed_fact => "confirmed_fact"
  | .schema => "schema"
  | .knowledge => "knowledge"
  | .business_value => "business_value"
  | .tool_result => "tool_result"
  | .official_feedback => "official_feedback"
  | .phase => "phase"
  | .error => "error"

def namespace_value : DataNamespace → String
  | .user_input => "user_input"
  | .confirmed_fact => "confirmed_fact"
  | .runtime_error => "runtime_error"
  | .olist_schema => "olist_schema"
  | .retail_knowledge => "retail_knowledge"
  | .business_value => "business_value"
  | .product_query_result => "product_query_result"
  | .bird_schema => "bird_schema"
  | .bird_official_feedback => "bird_official_feedback"
  | .bird_a_tool_result => "bird_a_tool_result"
  | .bird_c_phase => "bird_c_phase"

inductive Effort where
  | low
  | high
  | max
  deriving DecidableEq, Repr

def Effort.value : Effort → String
  | .low => "low"
  | .high => "high"
  | .max => "max"

inductive InferenceConfig (φ : Type) where
  | thinking (effort : Effort) (max_output_tokens : ℕ)
  | non_thinking (temperature : φ) (max_output_tokens : ℕ)

def InferenceConfig.to_json : InferenceConfig φ → JsonValue φ
  | .thinking effort max_output_tokens =>
    .obj [("type", .str "enabled"), ("effort", .str effort.value), ("max_output_tokens", .int max_output_tokens)]
  | .non_thinking temperature max_output_tokens =>
    .obj [("type", .str "disabled"), ("temperature", .float temperature), ("max_output_tokens", .int max_output_tokens)]

structure InferenceRule (φ : Type) where
  step : PromptStep
  inference : InferenceConfig φ
  tool_names : List String
  unique : tool_names.Nodup

def InferenceRule.to_json (rule : InferenceRule φ) : JsonValue φ :=
  .obj [("step", .str (step_value rule.step)), ("inference", rule.inference.to_json),
    ("tool_names", texts id rule.tool_names)]

structure StopReasonRule where
  trigger : String
  stop_kind : Code 2 127

def StopReasonRule.to_json (rule : StopReasonRule) : JsonValue φ :=
  .obj [("trigger", .str rule.trigger), ("stop_kind", .str rule.stop_kind.text)]

structure RunProfile (φ : Type) where
  key : RunProfileKey
  revision : Text 1 128
  prompt_policy_revision : Text 1 128
  tool_catalog_revision : Text 1 128
  allowed_namespaces : List DataNamespace
  inference_rules : List (InferenceRule φ)
  input_token_limit : ℕ
  tool_result_max_bytes : ℕ
  minimum_recent_groups : ℕ
  stop_reason_rules : List StopReasonRule
  capability_revision : Text 1 128
  estimator_revision : Text 1 128
  canonicalization_revision : Text 1 128
  limits : (1 ≤ input_token_limit ∧ input_token_limit ≤ 65536) ∧ 1 ≤ tool_result_max_bytes ∧
    tool_result_max_bytes ≤ 65536
  unique : allowed_namespaces.Nodup ∧ (inference_rules.map InferenceRule.step).Nodup ∧
    (stop_reason_rules.map StopReasonRule.trigger).Nodup

def RunProfile.to_json (profile : RunProfile φ) : JsonValue φ :=
  .obj [("key", .str profile.key.value), ("revision", .str profile.revision.text),
    ("prompt_policy_revision", .str profile.prompt_policy_revision.text),
    ("tool_catalog_revision", .str profile.tool_catalog_revision.text),
    ("allowed_namespaces", texts namespace_value profile.allowed_namespaces),
    ("inference_rules", .arr (profile.inference_rules.map InferenceRule.to_json)),
    ("input_token_limit", .int profile.input_token_limit),
    ("tool_result_max_bytes", .int profile.tool_result_max_bytes),
    ("minimum_recent_groups", .int profile.minimum_recent_groups),
    ("stop_reason_rules", .arr (profile.stop_reason_rules.map StopReasonRule.to_json)),
    ("capability_revision", .str profile.capability_revision.text),
    ("estimator_revision", .str profile.estimator_revision.text),
    ("canonicalization_revision", .str profile.canonicalization_revision.text), ("kind", .str profile.key.value)]

/-- The first rule of a step. -/
def RunProfile.rule? (profile : RunProfile φ) (step : PromptStep) : Option (InferenceRule φ) :=
  profile.inference_rules.find? fun rule => rule.step = step

/-! ## Conversation groups -/

structure ToolResult where
  call_id : Text 1 128
  name : Code 2 63
  status : ToolStatus
  content_json : String
  deterministic_summary : Text 1 16384
  content_sha256 : HexDigest
  source_refs : List String
  error_class : Option (Text 1 128)
  /-- `content_mode == "raw"`. -/
  raw : Bool

def status_value : ToolStatus → String
  | .success => "success"
  | .error => "error"

def ToolResult.to_json (result : ToolResult) : JsonValue φ :=
  .obj [("call_id", .str result.call_id.text), ("name", .str result.name.text),
    ("status", .str (status_value result.status)), ("content_json", .str result.content_json),
    ("deterministic_summary", .str result.deterministic_summary.text),
    ("content_sha256", .str result.content_sha256.text), ("source_refs", texts id result.source_refs),
    ("error_class", or_null (fun text => .str text.text) result.error_class),
    ("content_mode", .str (if result.raw then "raw" else "summary"))]

/-- What `ToolResult` checks. -/
def ToolResult.valid (python : Python φ) (result : ToolResult) : Bool :=
  1 ≤ result.content_json.length && result.content_json.length ≤ 262144 &&
    python.is_canonical_json result.content_json &&
    (match result.status with
      | .success => result.error_class.isNone
      | .error => result.error_class.isSome)

def call_json (call : ToolCall) : JsonValue φ :=
  .obj [("call_id", .str call.call_id.text), ("name", .str call.name.text),
    ("arguments_json", .str call.arguments_json.text)]

structure ProviderTurnRef where
  turn_id : UUID
  scope_digest : HexDigest
  attempt_id : UUID
  sequence : ℕ
  payload_sha256 : HexDigest
  expected_tool_call_ids : List String
  token_weight : ℕ
  expires_at : Datetime

def ProviderTurnRef.to_json (ref : ProviderTurnRef) : JsonValue φ :=
  .obj [("turn_id", .str ref.turn_id.text), ("scope_digest", .str ref.scope_digest.text),
    ("attempt_id", .str ref.attempt_id.text), ("sequence", .int ref.sequence),
    ("payload_sha256", .str ref.payload_sha256.text),
    ("expected_tool_call_ids", texts id ref.expected_tool_call_ids), ("token_weight", .int ref.token_weight),
    ("expires_at", .str (utc_text ref.expires_at))]

/-- The reference with its expiry in UTC, which Python takes for the same one. -/
def ProviderTurnRef.in_utc (ref : ProviderTurnRef) : ProviderTurnRef :=
  { ref with expires_at := .utc ref.expires_at.instant ref.expires_at.inRange }

/-- What `ProviderTurnRef` checks. -/
def ProviderTurnRef.valid (ref : ProviderTurnRef) : Bool :=
  ref.expected_tool_call_ids.Nodup && ref.expected_tool_call_ids.all fun call_id => call_id ≠ ""

structure ToolExchangeGroup where
  provider_turn_ref : ProviderTurnRef
  tool_calls : List ToolCall
  tool_results : List ToolResult

/-- `validate_closed_exchange`. -/
structure ToolExchangeGroup.Closed (group : ToolExchangeGroup) : Prop where
  ids : group.tool_results.map (fun result => result.call_id) = group.tool_calls.map (fun call => call.call_id)
  expected : (group.tool_calls.map fun call => call.call_id.text) = group.provider_turn_ref.expected_tool_call_ids
  names : group.tool_results.map (fun result => result.name) = group.tool_calls.map (fun call => call.name)

instance (group : ToolExchangeGroup) : Decidable group.Closed :=
  decidable_of_iff (_ ∧ _ ∧ _) ⟨fun h => ⟨h.1, h.2.1, h.2.2⟩, fun h => ⟨h.ids, h.expected, h.names⟩⟩

inductive ConversationGroup where
  | assistant (provider_turn_ref : ProviderTurnRef)
  | tool_exchange (group : ToolExchangeGroup)

namespace ConversationGroup

def ref : ConversationGroup → ProviderTurnRef
  | .assistant ref => ref
  | .tool_exchange group => group.provider_turn_ref

def in_utc : ConversationGroup → ConversationGroup
  | .assistant ref => .assistant ref.in_utc
  | .tool_exchange group => .tool_exchange { group with provider_turn_ref := group.provider_turn_ref.in_utc }

def results : ConversationGroup → List ToolResult
  | .assistant _ => []
  | .tool_exchange group => group.tool_results

/-- `type(group).model_validate(group.model_dump())` passes. -/
def valid (python : Python φ) : ConversationGroup → Bool
  | .assistant ref => ref.valid && ref.expected_tool_call_ids.isEmpty
  | .tool_exchange group =>
    group.provider_turn_ref.valid && decide (1 ≤ group.tool_calls.length ∧ group.tool_calls.length ≤ 8) &&
      decide (group.tool_results.length ≤ 8) &&
      (group.tool_calls.all fun call => python.is_canonical_json call.arguments_json.text) &&
      group.tool_results.all (ToolResult.valid python) && decide group.Closed

def to_json : ConversationGroup → JsonValue φ
  | .assistant ref => .obj [("group_type", .str "assistant"), ("provider_turn_ref", ref.to_json)]
  | .tool_exchange group =>
    .obj [("group_type", .str "tool_exchange"), ("provider_turn_ref", group.provider_turn_ref.to_json),
      ("tool_calls", .arr (group.tool_calls.map call_json)),
      ("tool_results", .arr (group.tool_results.map ToolResult.to_json))]

end ConversationGroup

/-! ## Requests and bundles -/

structure ContextRequest (φ : Type) where
  run_scope : RunScope
  attempt_id : UUID
  sequence : ℕ
  profile : RunProfile φ
  step : PromptStep
  current_input : ContextDatum
  confirmed_facts : List ContextDatum
  evidence : List ContextDatum
  latest_error : Option TypedErrorDatum
  history : List ConversationGroup

inductive Role where
  | system
  | user
  deriving DecidableEq, Repr

def Role.value : Role → String
  | .system => "system"
  | .user => "user"

structure ChatMessage where
  role : Role
  content : Text 1 262144
  deriving DecidableEq

def ChatMessage.to_json (message : ChatMessage) : JsonValue φ :=
  .obj [("role", .str message.role.value), ("content", .str message.content.text)]

structure ToolDefinition where
  name : Code 2 63
  description : Text 1 4000
  parameters_json : Text 1 65536
  catalog_revision : Text 1 128
  capability_sha256 : HexDigest
  deriving DecidableEq

def ToolDefinition.to_json (tool : ToolDefinition) : JsonValue φ :=
  .obj [("name", .str tool.name.text), ("description", .str tool.description.text),
    ("parameters_json", .str tool.parameters_json.text), ("catalog_revision", .str tool.catalog_revision.text),
    ("capability_sha256", .str tool.capability_sha256.text)]

structure ModelRequest (φ : Type) where
  run_scope : RunScope
  attempt_id : UUID
  sequence : ℕ
  inference : InferenceConfig φ
  messages : List ChatMessage
  history : List ConversationGroup
  tools : List ToolDefinition
  timeout_seconds : ℚ
  capability_revision : Text 1 128
  provider_user_id : String
  hashes : PromptHashes

structure TrimmingSummary where
  original_groups : ℕ
  retained_groups : ℕ
  removed_group_digests : List HexDigest
  compressed_result_digests : List HexDigest
  removed_evidence_digests : List HexDigest
  estimated_before : ℕ
  estimated_after : ℕ
  deriving DecidableEq

def TrimmingSummary.to_json (trimming : TrimmingSummary) : JsonValue φ :=
  .obj [("original_groups", .int trimming.original_groups), ("retained_groups", .int trimming.retained_groups),
    ("removed_group_digests", texts Checked.text trimming.removed_group_digests),
    ("compressed_result_digests", texts Checked.text trimming.compressed_result_digests),
    ("removed_evidence_digests", texts Checked.text trimming.removed_evidence_digests),
    ("estimated_before", .int trimming.estimated_before), ("estimated_after", .int trimming.estimated_after)]

/-- The hashes of the bundle are those of the request in it. -/
structure PromptBundle (φ : Type) where
  model_request : ModelRequest φ
  profile : RunProfileKey
  hashes : PromptHashes
  estimated_input_tokens : ℕ
  trimming : TrimmingSummary
  embedded : hashes = model_request.hashes
  estimated : estimated_input_tokens = trimming.estimated_after

end CommerceAgent.Context
