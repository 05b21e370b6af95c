import CommerceAgent.Orchestration.Contracts

/-!
# The model gateway

`DeepSeekModelGateway.complete` as a call of operations on the clock, the attempt guard,
the transport, the sleeper and the store of private turns.
-/

open CommerceAgent.Lib
open CommerceAgent.Operations (UUID Text Code HexDigest Checked)
open CommerceAgent.Orchestration

namespace CommerceAgent.Model

/-- An instant of the injected clock, in microseconds. -/
abbrev Instant := ℤ

/-! ## Configuration -/

structure CapabilitySnapshot where
  revision : Text 1 128
  requested_model : Text 1 256
  response_model : Text 1 256
  thinking_efforts : List String
  tool_calling : Bool
  output_token_limit : ℕ

structure RetryPolicy where
  base_delay_seconds : ℚ
  maximum_delay_seconds : ℚ
  maximum_attempts : ℕ
  base_positive : 0 < base_delay_seconds
  maximum_positive : 0 < maximum_delay_seconds
  attempts_bound : 1 ≤ maximum_attempts ∧ maximum_attempts ≤ 3

/-- `Decimal(text)`. -/
inductive ParsedDecimal where
  | invalid
  | nan
  | infinite
  | finite (q : ℚ)

structure Gateway where
  library : Library
  decimal : String → ParsedDecimal
  /-- The integer that a field accepts in place of a JSON value. -/
  lax_int : Value → Option ℤ
  capability : CapabilitySnapshot
  retry : RetryPolicy

/-! ## Requests -/

inductive InferenceConfig where
  | thinking (effort : String) (max_output_tokens : ℕ)
  | non_thinking (temperature : ℚ) (max_output_tokens : ℕ)

def InferenceConfig.max_output_tokens : InferenceConfig → ℕ
  | .thinking _ n => n
  | .non_thinking _ n => n

inductive Role where
  | system
  | user
  deriving DecidableEq, Repr

def Role.value : Role → String
  | .system => "system"
  | .user => "user"

structure ChatMessage where
  role : Role
  content : Text 1 262144

structure ToolDefinition where
  name : Code 2 63
  description : Text 1 4000
  parameters_json : Text 1 65536

/-- One complete assistant turn that requested no tools. -/
structure AssistantTurnGroup where
  provider_turn_ref : ProviderTurnRef
  no_expected_calls : provider_turn_ref.expected_tool_call_ids = []

inductive ConversationGroup where
  | assistant (group : AssistantTurnGroup)
  | tool_exchange (group : ToolExchangeGroup)

def ConversationGroup.ref : ConversationGroup → ProviderTurnRef
  | .assistant group => group.provider_turn_ref
  | .tool_exchange group => group.provider_turn_ref

/-- A model request, with what the gateway sends of it. -/
structure CompletionRequest extends ModelRequest where
  inference : InferenceConfig
  messages : List ChatMessage
  history : List ConversationGroup
  tools : List ToolDefinition
  capability_revision : Text 1 128
  provider_user_id : String
  has_message : messages ≠ []

/-! ## Attempts -/

structure ReportedUsage where
  prompt_tokens : ℕ
  cache_hit_tokens : ℕ
  cache_miss_tokens : ℕ
  completion_tokens : ℕ
  reasoning_tokens : ℕ
  total_tokens : ℕ
  prompt : prompt_tokens = cache_hit_tokens + cache_miss_tokens
  total : total_tokens = prompt_tokens + completion_tokens
  reasoning : reasoning_tokens ≤ completion_tokens
  deriving DecidableEq

inductive Usage where
  | reported (usage : ReportedUsage)
  | unavailable (reason_code : String)
  deriving DecidableEq

inductive Outcome where
  | success
  | http_error
  | transport_error
  | protocol_error
  | insufficient_system_resource
  deriving DecidableEq, Repr

structure ModelAttemptSummary where
  attempt_number : ℕ
  sent_at : Instant
  completed_at : Instant
  outcome : Outcome
  http_status : Option ℕ
  retryable : Bool
  charge_ambiguous : Bool
  usage : Usage
  number_bound : 1 ≤ attempt_number ∧ attempt_number ≤ 3
  status_bound : ∀ status ∈ http_status, 100 ≤ status ∧ status ≤ 599
  ordered : sent_at ≤ completed_at
  deriving DecidableEq

/-! ## Errors -/

inductive ErrorType where
  | capability
  | state
  | auth
  | balance
  | rate_limited
  | transport
  | protocol
  deriving DecidableEq, Repr

structure ModelGatewayError where
  type : ErrorType
  reason_code : String
  message : String
  retryable : Bool
  charge_ambiguous : Bool
  attempts : List ModelAttemptSummary

/-- What `complete` raises. -/
inductive Failure where
  | gateway (error : ModelGatewayError)
  | exception (name : String)

/-- What the store of private turns raises: a `ModelStateError`, or an exception of its database. -/
inductive StoreFailure where
  | state (reason_code message : String) (retryable : Bool)
  | exception (name : String)
  deriving DecidableEq

def StoreFailure.raised : StoreFailure → Failure
  | .state reason_code message retryable => .gateway ⟨.state, reason_code, message, retryable, false, []⟩
  | .exception name => .exception name

/-! ## Private turns -/

structure PrivateProviderTurn where
  scope_digest : HexDigest
  attempt_id : UUID
  sequence : ℕ
  model : Text 1 256
  content : Option (Text 0 262144)
  reasoning_content : Option (Text 0 1048576)
  tool_calls_json : Text 0 262144
  payload_sha256 : HexDigest
  expected_tool_call_ids : List (Text 1 128)
  token_weight : ℕ
  created_at : Instant
  few : expected_tool_call_ids.length ≤ 8
  unique : expected_tool_call_ids.Nodup
  deriving DecidableEq

/-- The reference that a store returns for a turn. -/
def PrivateProviderTurn.ref (turn : PrivateProviderTurn) (turn_id : UUID) : ProviderTurnRef :=
  ⟨turn_id, turn.scope_digest, turn.attempt_id, turn.sequence, turn.expected_tool_call_ids⟩

/-! ## Responses -/

/-- `response.json()`: a value, or the `ValueError` of a malformed body. -/
inductive Body where
  | malformed
  | json (payload : Value)

inductive PostAnswer where
  | transport_error (connect : Bool)
  | response (status_code : ℕ) (retry_after : Option String) (body : Body)

/-- A model response, as the gateway returns it. -/
structure Completion extends ModelResponse where
  actual_model : Text 1 256
  system_fingerprint : Option (Text 1 256)
  usage : Usage
  attempts : List ModelAttemptSummary
  attempts_bound : 1 ≤ attempts.length ∧ attempts.length ≤ 3
  contiguous : attempts.map ModelAttemptSummary.attempt_number = List.range' 1 attempts.length
  successful : ∀ last ∈ attempts.getLast?, last.outcome = .success ∧ last.usage = usage

/-! ## Operations -/

inductive Op where
  | resolve (ref : ProviderTurnRef)
  | now
  | before_send (attempt_number : ℕ) (sent_at : Instant)
  | post (body : Value)
  | after_attempt (summary : ModelAttemptSummary)
  | jitter
  | sleep (delay_seconds : ℚ)
  | save (turn : PrivateProviderTurn)

abbrev Ans : Op → Type
  | .resolve _ => Except StoreFailure PrivateProviderTurn
  | .now => Instant
  | .before_send .. => Unit
  | .post _ => PostAnswer
  | .after_attempt _ => Unit
  | .jitter => ℚ
  | .sleep _ => Unit
  | .save _ => Except StoreFailure UUID

abbrev Call (α : Type) := Flow Op Ans (Except Failure α)

def fail {α : Type} (type : ErrorType) (reason_code message : String) (retryable charge_ambiguous : Bool)
    (attempts : List ModelAttemptSummary) : Call α :=
  .done (.error (.gateway ⟨type, reason_code, message, retryable, charge_ambiguous, attempts⟩))

/-! ## Reading a payload -/

def FinishReason.parse : String → Option FinishReason
  | "stop" => some .stop
  | "tool_calls" => some .tool_calls
  | "length" => some .length
  | "content_filter" => some .content_filter
  | "insufficient_system_resource" => some .insufficient_system_resource
  | _ => none

/-- `value.get(key) or default`, where a false value is as good as none. -/
def get_or (fields : List (String × Value)) (key : String) (default : Value) : Value :=
  match fields.lookup key with
  | some value => if value.truthy then value else default
  | none => default

/-- The `choices[0]` of a payload with exactly one choice. -/
def choice_of (payload : Value) : Option Value :=
  match payload.get? "choices" with
  | some (.arr [choice]) => some choice
  | _ => none

namespace Gateway

variable (gateway : Gateway)

/-- `_finish_reason(payload)`; none stands for what the caller takes as a protocol error. -/
def finish_reason (payload : Value) : Option FinishReason := do
  match (← choice_of payload).get? "finish_reason" with
  | some (.str reason) => FinishReason.parse reason
  | _ => none

def tokens (raw : List (String × Value)) (key : String) : Option ℕ := do
  let n ← gateway.lax_int (← raw.lookup key)
  if 0 ≤ n then some n.toNat else none

def reported_usage (raw details : List (String × Value)) : Option ReportedUsage := do
  let prompt_tokens ← gateway.tokens raw "prompt_tokens"
  let cache_hit_tokens ← gateway.tokens raw "prompt_cache_hit_tokens"
  let cache_miss_tokens ← gateway.tokens raw "prompt_cache_miss_tokens"
  let completion_tokens ← gateway.tokens raw "completion_tokens"
  let reasoning ← gateway.lax_int ((details.lookup "reasoning_tokens").getD (.int 0))
  let total_tokens ← gateway.tokens raw "total_tokens"
  if h : prompt_tokens = cache_hit_tokens + cache_miss_tokens ∧ total_tokens = prompt_tokens + completion_tokens ∧
      0 ≤ reasoning ∧ reasoning.toNat ≤ completion_tokens then
    some ⟨prompt_tokens, cache_hit_tokens, cache_miss_tokens, completion_tokens, reasoning.toNat, total_tokens, h.1,
      h.2.1, h.2.2.2⟩
  else none

def usage (payload : Value) : Option Usage :=
  match payload.get? "usage" with
  | none | some .null => some (.unavailable "provider_usage_missing")
  | some (.obj raw) =>
    match get_or raw "completion_tokens_details" (.obj []) with
    | .obj details => (gateway.reported_usage raw details).map .reported
    | _ => none
  | some _ => none

/-! ## Reading an output -/

def tool_call (raw_call : Value) : Option ToolCall := do
  let function ← raw_call.get? "function"
  match function.get? "arguments", raw_call.get? "id", function.get? "name" with
  | some (.str arguments), some (.str id), some (.str name) => do
    let value ← gateway.library.loads arguments
    let call_id ← Checked.parse id
    let name ← Checked.parse name
    let arguments_json ← Checked.parse (gateway.library.canonical_json value)
    some ⟨call_id, name, arguments_json⟩
  | _, _, _ => none

/-- The output of a message, by its tool calls. -/
def output_of (message : Value) (calls : List ToolCall) : Option ModelOutput :=
  if calls = [] then
    match message.get? "content" with
    | some (.str content) => (Checked.parse content).map fun content => .final ⟨content⟩
    | _ => none
  else if h : (1 ≤ calls.length ∧ calls.length ≤ 8) ∧ (calls.map ToolCall.call_id).Nodup then
    some (.tool_calls ⟨calls, h.1, h.2⟩)
  else none

/-- A text of the private turn, which may be missing. -/
def private_text {ok : String → Bool} (message : Value) (key : String) : Option (Option (Checked ok)) :=
  match message.get? key with
  | none | some .null => some none
  | some (.str text) => (Checked.parse text).map some
  | some _ => none

/-- The identifier of a tool call of the payload. -/
def raw_id (raw_call : Value) : Option String :=
  match raw_call.get? "id" with
  | some (.str id) => some id
  | _ => none

/-- `tool_calls_json` is canonical JSON of a list of calls with these identifiers. -/
def canonical_calls (tool_calls_json : String) (ids : List (Text 1 128)) : Bool :=
  match gateway.library.loads tool_calls_json with
  | some (.arr parsed) =>
    tool_calls_json = gateway.library.canonical_json (.arr parsed) && parsed.mapM raw_id = some (ids.map Checked.text)
  | _ => false

/-- `PrivateProviderTurn(...)` of a message. -/
def private_turn (message : Value) (raw_calls : List Value) (calls : List ToolCall) (request : CompletionRequest)
    (usage : Usage) (sent_at : Instant) : Option PrivateProviderTurn := do
  let content ← private_text message "content"
  let reasoning_content ← private_text message "reasoning_content"
  let tool_calls_json ← Checked.parse (gateway.library.canonical_json (.arr raw_calls))
  if h : ((calls.map ToolCall.call_id).length ≤ 8 ∧ (calls.map ToolCall.call_id).Nodup) ∧
      gateway.canonical_calls tool_calls_json.text (calls.map ToolCall.call_id) then
    some {
      scope_digest := scope_digest gateway.library request.run_scope
      attempt_id := request.attempt_id
      sequence := request.sequence
      model := gateway.capability.response_model
      content := content
      reasoning_content := reasoning_content
      tool_calls_json := tool_calls_json
      payload_sha256 := gateway.library.sha256 (gateway.library.canonical_json (.obj
        [("content", (message.get? "content").getD .null),
          ("reasoning_content", (message.get? "reasoning_content").getD .null), ("tool_calls", .arr raw_calls)]))
      expected_tool_call_ids := calls.map ToolCall.call_id
      token_weight := match usage with
        | .reported usage => usage.completion_tokens
        | .unavailable _ => 0
      created_at := sent_at
      few := h.1.1
      unique := h.1.2 }
  else none

def parse_output (payload : Value) (request : CompletionRequest) (usage : Usage) (sent_at : Instant)
    (finish : FinishReason) : Option (ModelOutput × PrivateProviderTurn) :=
  match payload.get? "model", (choice_of payload).bind (Value.get? · "message") with
  | some (.str model), some (.obj fields) =>
    if model ≠ gateway.capability.response_model.text then none
    else
      match get_or fields "tool_calls" (.arr []) with
      | .arr raw_calls => do
        let calls ← raw_calls.mapM gateway.tool_call
        if calls ≠ [] ∧ finish ≠ .tool_calls ∨ calls = [] ∧ finish = .tool_calls then none
        else
          let output ← output_of (.obj fields) calls
          let turn ← gateway.private_turn (.obj fields) raw_calls calls request usage sent_at
          some (output, turn)
      | _ => none
  | _, _ => none

/-! ## Requests on the wire -/

/-- What an unsupported request raises. -/
def unsupported (reason_code message : String) : Except Failure Unit :=
  .error (.gateway ⟨.capability, reason_code, message, false, false, []⟩)

def supports_effort : InferenceConfig → Bool
  | .thinking effort _ => gateway.capability.thinking_efforts.contains effort
  | .non_thinking .. => true

def validate_request (request : CompletionRequest) : Except Failure Unit :=
  let refs := request.history.map ConversationGroup.ref
  if request.capability_revision ≠ gateway.capability.revision then
    unsupported "capability_revision_mismatch" "model capability revision does not match"
  else if gateway.capability.output_token_limit < request.inference.max_output_tokens then
    unsupported "output_limit_unsupported" "model output limit is unsupported"
  else if request.tools.length ≠ 0 ∧ gateway.capability.tool_calling = false then
    unsupported "tool_calling_unsupported" "model tool calling is unsupported"
  else if ¬ gateway.supports_effort request.inference then
    unsupported "thinking_effort_unsupported" "model thinking effort is unsupported"
  else if refs.any fun ref =>
      ref.scope_digest ≠ scope_digest gateway.library request.run_scope ∨ ref.attempt_id ≠ request.attempt_id then
    unsupported "history_binding_mismatch" "model history binding does not match request"
  else if ¬ (refs.map ProviderTurnRef.sequence).Pairwise (· < ·) ∨ refs.any fun ref => request.sequence ≤ ref.sequence then
    unsupported "history_sequence_invalid" "model history sequence is invalid"
  else .ok ()

def message_json (message : ChatMessage) : Value :=
  .obj [("role", .str message.role.value), ("content", .str message.content.text)]

def tool_json (tool : ToolDefinition) : Value :=
  .obj [("type", .str "function"), ("function", .obj
    [("name", .str tool.name.text), ("description", .str tool.description.text),
      ("parameters", (gateway.library.loads tool.parameters_json.text).getD .null)])]

/-- The assistant message of a private turn. -/
def assistant_json (turn : PrivateProviderTurn) : Value :=
  .obj <| [("role", .str "assistant"), ("content", (turn.content.map fun text => Value.str text.text).getD .null)] ++
    ((turn.reasoning_content.map fun text => ("reasoning_content", Value.str text.text)).toList) ++
    match gateway.library.loads turn.tool_calls_json.text with
    | some calls => if calls.truthy then [("tool_calls", calls)] else []
    | none => []

def results_json : ConversationGroup → List Value
  | .assistant _ => []
  | .tool_exchange group => group.tool_results.map fun result => .obj
    [("role", .str "tool"), ("tool_call_id", .str result.call_id.text), ("name", .str result.name.text),
      ("content", .str result.content_json.text)]

/-- The request body, around the messages of the history. -/
def wire_body (request : CompletionRequest) (history : List Value) : Value :=
  let (current, trailing) := match request.messages.getLast request.has_message with
    | ⟨.user, content⟩ => (request.messages.dropLast, [message_json ⟨.user, content⟩])
    | ⟨.system, _⟩ => (request.messages, [])
  .obj <| [("model", .str gateway.capability.requested_model.text),
      ("messages", .arr (current.map message_json ++ history ++ trailing)),
      ("max_tokens", .int request.inference.max_output_tokens), ("stream", .bool false),
      ("user_id", .str request.provider_user_id)] ++
    (match request.inference with
      | .thinking effort _ => [("thinking", .obj [("type", .str "enabled")]), ("reasoning_effort", .str effort)]
      | .non_thinking temperature _ =>
        [("thinking", .obj [("type", .str "disabled")]), ("temperature", .float temperature)]) ++
    if request.tools.isEmpty then [] else [("tools", .arr (request.tools.map gateway.tool_json))]

/-- The messages of the history, of which each private turn is resolved. -/
def encode_history {α : Type} : List ConversationGroup → (List Value → Call α) → Call α
  | [], k => k []
  | group :: groups, k => .ask (.resolve group.ref) fun
    | .error e => .done (.error e.raised)
    | .ok turn => encode_history groups fun rest => k (gateway.assistant_json turn :: results_json group ++ rest)

/-! ## Attempts -/

/-- `_summary(...)`, which raises when it does not fit its model. -/
def summary (attempt_number : ℕ) (sent_at completed_at : Instant) (outcome : Outcome)
    (retryable charge_ambiguous : Bool) (http_status : Option ℕ) (usage : Usage) : Except Failure ModelAttemptSummary :=
  if h : (1 ≤ attempt_number ∧ attempt_number ≤ 3) ∧ (∀ status ∈ http_status, 100 ≤ status ∧ status ≤ 599) ∧
      sent_at ≤ completed_at then
    .ok ⟨attempt_number, sent_at, completed_at, outcome, http_status, retryable, charge_ambiguous, usage, h.1, h.2.1,
      h.2.2⟩
  else .error (.exception "ValidationError")

def attempt_failed : Usage := .unavailable "attempt_failed"

/-- An attempt on record, and in the hands of the guard. -/
def record {α : Type} (attempts : List ModelAttemptSummary) (k : List ModelAttemptSummary → Call α) :
    Except Failure ModelAttemptSummary → Call α
  | .error e => .done (.error e)
  | .ok summary => .ask (.after_attempt summary) fun () => k (attempts ++ [summary])

/-- `RetryPolicy.decision(...)`: the delay, if there is to be another attempt. -/
def decision (attempt_number : ℕ) (retry_after : Option String) (jitter : ℚ) : Except Failure (Option ℚ) :=
  let policy := gateway.retry
  let backoff := policy.base_delay_seconds * 2 ^ (attempt_number - 1) + max 0 jitter
  if policy.maximum_attempts ≤ attempt_number then .ok none
  else
    match retry_after.map gateway.decimal with
    | some .nan => .error (.exception "InvalidOperation")
    | some (.finite q) => .ok (some (min (if 0 ≤ q then q else backoff) policy.maximum_delay_seconds))
    | _ => .ok (some (min backoff policy.maximum_delay_seconds))

def wait_to_retry {α : Type} (attempt_number : ℕ) (retry_after : Option String) (retry exhausted : Call α) : Call α :=
  .ask .jitter fun jitter =>
  match gateway.decision attempt_number retry_after jitter with
  | .error e => .done (.error e)
  | .ok none => exhausted
  | .ok (some delay) => .ask (.sleep delay) fun () => retry

def retryable_status (status : ℕ) : Bool := [429, 500, 502, 503, 504].contains status

def raise_http {α : Type} (status attempt_number : ℕ) (attempts : List ModelAttemptSummary) : Call α :=
  if status = 401 then
    fail .auth "provider_auth_rejected" s!"model HTTP 401 at attempt {attempt_number}" false false attempts
  else if status = 402 then
    fail .balance "provider_balance_insufficient" s!"model HTTP 402 at attempt {attempt_number}" false false attempts
  else if status = 429 then
    fail .rate_limited "provider_rate_limited" s!"model HTTP 429 at attempt {attempt_number}" true false attempts
  else if 500 ≤ status then
    fail .transport "provider_http_retry_exhausted" s!"model HTTP {status} at attempt {attempt_number}" true false
      attempts
  else
    fail .capability "provider_http_rejected" s!"model HTTP {status} at attempt {attempt_number}" false false attempts

/-- `ModelResponse(...)`, which raises when it does not fit its model. -/
def model_response (output : ModelOutput) (ref : ProviderTurnRef) (finish : FinishReason) (payload : Value)
    (usage : Usage) (attempts : List ModelAttemptSummary) : Except Failure Completion :=
  let texts : Option (Text 1 256 × Option (Text 1 256)) := do
    let actual_model ← match payload.get? "model" with
      | some (.str model) => Checked.parse model
      | _ => none
    let system_fingerprint ← match payload.get? "system_fingerprint" with
      | none | some .null => some none
      | some (.str text) => (Checked.parse text).map some
      | some _ => none
    some (actual_model, system_fingerprint)
  match texts with
  | none => .error (.exception "ValidationError")
  | some (actual_model, system_fingerprint) =>
    if h : FitsTurn finish ref output ∧ (1 ≤ attempts.length ∧ attempts.length ≤ 3) ∧
        attempts.map ModelAttemptSummary.attempt_number = List.range' 1 attempts.length ∧
        ∀ last ∈ attempts.getLast?, last.outcome = .success ∧ last.usage = usage then
      .ok {
        output := output
        provider_turn_ref := ref
        finish_reason := finish
        fits := h.1
        actual_model := actual_model
        system_fingerprint := system_fingerprint
        usage := usage
        attempts := attempts
        attempts_bound := h.2.1
        contiguous := h.2.2.1
        successful := h.2.2.2 }
    else .error (.exception "ValidationError")

/-- The end of an attempt that failed in the payload. -/
def protocol_error (attempt_number : ℕ) (sent_at completed_at : Instant) (usage : Usage)
    (attempts : List ModelAttemptSummary) : Call Completion :=
  record attempts (fun attempts => fail .protocol "provider_response_invalid"
    s!"model protocol failed at attempt {attempt_number}" false true attempts)
    (summary attempt_number sent_at completed_at .protocol_error false true none usage)

/-- The end of an attempt with an output. -/
def succeed (attempt_number : ℕ) (sent_at completed_at : Instant) (payload : Value) (finish : FinishReason)
    (usage : Usage) (output : ModelOutput) (turn : PrivateProviderTurn) (attempts : List ModelAttemptSummary) :
    Call Completion :=
  record attempts (fun attempts => .ask (.save turn) fun
      | .error e => .done (.error e.raised)
      | .ok turn_id => .done (model_response output (turn.ref turn_id) finish payload usage attempts))
    (summary attempt_number sent_at completed_at .success false false none usage)

/-- A body with a status below 400. -/
def on_body (request : CompletionRequest) (attempt_number : ℕ) (sent_at completed_at : Instant)
    (attempts : List ModelAttemptSummary) (retry : List ModelAttemptSummary → Call Completion) :
    Body → Call Completion
  | .malformed => protocol_error attempt_number sent_at completed_at attempt_failed attempts
  | .json payload =>
    match finish_reason payload, gateway.usage payload with
    | some .insufficient_system_resource, some usage =>
      record attempts (fun attempts => gateway.wait_to_retry attempt_number none (retry attempts)
          (fail .transport "insufficient_system_resource"
            s!"model infrastructure exhausted at attempt {attempt_number}" true true attempts))
        (summary attempt_number sent_at completed_at .insufficient_system_resource true true none usage)
    | some finish, some usage =>
      match gateway.parse_output payload request usage sent_at finish with
      | none => protocol_error attempt_number sent_at completed_at usage attempts
      | some (output, turn) => succeed attempt_number sent_at completed_at payload finish usage output turn attempts
    | _, _ => protocol_error attempt_number sent_at completed_at attempt_failed attempts

def on_http_error (status attempt_number : ℕ) (retry_after : Option String) (sent_at completed_at : Instant)
    (attempts : List ModelAttemptSummary) (retry : List ModelAttemptSummary → Call Completion) : Call Completion :=
  record attempts (fun attempts =>
      if retryable_status status then
        gateway.wait_to_retry attempt_number retry_after (retry attempts) (raise_http status attempt_number attempts)
      else raise_http status attempt_number attempts)
    (summary attempt_number sent_at completed_at .http_error (retryable_status status) false (some status)
      attempt_failed)

def on_transport_error (connect : Bool) (attempt_number : ℕ) (sent_at completed_at : Instant)
    (attempts : List ModelAttemptSummary) (retry : List ModelAttemptSummary → Call Completion) : Call Completion :=
  record attempts (fun attempts => gateway.wait_to_retry attempt_number none (retry attempts)
      (fail .transport "transport_retry_exhausted" s!"model transport failed at attempt {attempt_number}" true
        (!connect) attempts))
    (summary attempt_number sent_at completed_at .transport_error true (!connect) none attempt_failed)

def attempt (request : CompletionRequest) (body : Value) (attempt_number : ℕ) (attempts : List ModelAttemptSummary) :
    Call Completion :=
  if gateway.retry.maximum_attempts < attempt_number then .done (.error (.exception "AssertionError"))
  else
    .ask .now fun sent_at =>
    .ask (.before_send attempt_number sent_at) fun () =>
    .ask (.post body) fun answer =>
    .ask .now fun completed_at =>
    match answer with
    | .transport_error connect =>
      gateway.on_transport_error connect attempt_number sent_at completed_at attempts fun attempts =>
      attempt request body (attempt_number + 1) attempts
    | .response status retry_after response =>
      if 400 ≤ status then
        gateway.on_http_error status attempt_number retry_after sent_at completed_at attempts fun attempts =>
        attempt request body (attempt_number + 1) attempts
      else
        gateway.on_body request attempt_number sent_at completed_at attempts (fun attempts =>
        attempt request body (attempt_number + 1) attempts) response
termination_by gateway.retry.maximum_attempts + 1 - attempt_number

def complete (request : CompletionRequest) : Call Completion :=
  match gateway.validate_request request with
  | .error e => .done (.error e)
  | .ok () => gateway.encode_history request.history fun history =>
    gateway.attempt request (gateway.wire_body request history) 1 []

end Gateway

end CommerceAgent.Model
