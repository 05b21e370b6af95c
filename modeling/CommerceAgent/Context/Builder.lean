import CommerceAgent.Context.Contracts
import CommerceAgent.Lib.Dict

/-!
# The context builder

`ContextBuilder.build`: validation, the three passes that trim a request, and its hashes.
-/

open CommerceAgent.Lib
open CommerceAgent.Operations (UUID Text Code HexDigest Checked Datetime matchesPattern)
open CommerceAgent.Orchestration

namespace CommerceAgent.Context

variable {φ : Type}

/-! ## Errors -/

inductive ErrorClass where
  | ProfileMismatch
  | DataNamespaceViolation
  | ContextIntegrityError
  | ToolResultMismatch
  | ContextBudgetExceeded
  | RevisionMismatch
  deriving DecidableEq, Repr

/-- A `ContextBuilderError`, or what pydantic raises. -/
inductive Raised where
  | context (error : ErrorClass) (reason_code message : String)
  | validation
  deriving DecidableEq

def ContextBudgetExceeded : Raised :=
  .context .ContextBudgetExceeded "mandatory_context_over_budget"
    "mandatory context exceeds the registered input budget"

def RevisionMismatch : Raised :=
  .context .RevisionMismatch "revision_mismatch" "registered model configuration mismatch"

/-! ## The registry and the estimator -/

/-- The registry that `load` returns: its cross references hold. -/
structure ProfileRegistry (φ : Type) where
  profiles : RunProfileKey → RunProfile φ
  policies : Dict String String
  tools : RunProfileKey → List ToolDefinition
  own_key : ∀ key, (profiles key).key = key
  known_policies : ∀ key, (policies.get? "common-envelope-v1").isSome ∧
    (policies.get? (profiles key).prompt_policy_revision.text).isSome
  known_tools : ∀ key, ∀ rule ∈ (profiles key).inference_rules, ∀ name ∈ rule.tool_names,
    name ∈ (tools key).map fun tool => tool.name.text
  unique_tools : ∀ key, ((tools key).map fun tool => tool.name.text).Nodup

namespace ProfileRegistry

variable (registry : ProfileRegistry φ)

def tools_for_step (key : RunProfileKey) (step : PromptStep) : List ToolDefinition :=
  match (registry.profiles key).rule? step with
  | some rule => rule.tool_names.filterMap fun name => (registry.tools key).find? fun tool => tool.name.text = name
  | none => []

def policy_for (key : RunProfileKey) : String × String :=
  ((registry.policies.get? "common-envelope-v1").getD "",
    (registry.policies.get? (registry.profiles key).prompt_policy_revision.text).getD "")

end ProfileRegistry

structure TokenEstimate where
  input_tokens : ℕ
  estimator_revision : String

/-- A function of the request that ignores the audit hashes. -/
structure TokenEstimator (φ : Type) where
  revision : String
  estimate : ModelRequest φ → TokenEstimate
  own_revision : ∀ request, (estimate request).estimator_revision = revision
  ignores_hashes : ∀ request hashes, estimate { request with hashes := hashes } = estimate request

structure ContextBuilder (φ : Type) where
  python : Python φ
  registry : ProfileRegistry φ
  estimator : TokenEstimator φ
  requested_model : String
  timeout_seconds : ℚ
  provider_user_id : String

namespace ContextBuilder

variable (builder : ContextBuilder φ)

/-! ## Hashes -/

def config_json (profile : RunProfile φ) (requested_model : String) : JsonValue φ :=
  .obj
    [("model", .str requested_model),
      ("inference_rules", .arr (profile.inference_rules.map InferenceRule.to_json)),
      ("budgets", .obj [("input_token_limit", .int profile.input_token_limit),
        ("minimum_recent_groups", .int profile.minimum_recent_groups),
        ("tool_result_max_bytes", .int profile.tool_result_max_bytes)]),
      ("capability_revision", .str profile.capability_revision.text),
      ("estimator_revision", .str profile.estimator_revision.text), ("retry_revision", .str "deepseek-retry-v1"),
      ("canonicalization_revision", .str profile.canonicalization_revision.text)]

def compute_config_hash (profile : RunProfile φ) (requested_model : String) : HexDigest :=
  builder.python.sha256_canonical (config_json profile requested_model)

def compute_prompt_policy_hash (common_policy profile_policy : String) : HexDigest :=
  builder.python.sha256_canonical <| .obj [("common", .str common_policy), ("profile", .str profile_policy)]

def rendered_prompt_json (messages : List ChatMessage) : JsonValue φ :=
  .obj [("messages", .arr (messages.map ChatMessage.to_json))]

def compute_rendered_prompt_hash (messages : List ChatMessage) : HexDigest :=
  builder.python.sha256_canonical (rendered_prompt_json messages)

def catalog_json (profile : RunProfile φ) (tools : List ToolDefinition) : JsonValue φ :=
  .obj
    [("profile", .str profile.key.value), ("catalog_revision", .str profile.tool_catalog_revision.text),
      ("tools", .arr (tools.map ToolDefinition.to_json))]

def compute_tool_hash (profile : RunProfile φ) (tools : List ToolDefinition) : HexDigest :=
  builder.python.sha256_canonical (catalog_json profile tools)

def scope_digest (scope : RunScope) : HexDigest :=
  builder.python.sha256_canonical <| .obj
    [("run_id", .str scope.run_id.text), ("track", .str scope.track.value), ("mode", .str scope.mode.value),
      ("subject_id", .str scope.subject_id.text), ("experiment_id", .str scope.experiment_id.text),
      ("config_hash", .str scope.config_hash.text)]

def group_digest (group : ConversationGroup) : HexDigest := builder.python.sha256_canonical group.to_json

/-- What a datum or an error adds to the hashed records. -/
def record_row (source_ref : String) (revision : Option String) (digest : HexDigest) : JsonValue φ :=
  .obj [("source_ref", .str source_ref), ("revision", or_null .str revision), ("digest", .str digest.text)]

def context_json (records : List ContextDatum) (history : List ConversationGroup) (trimming : TrimmingSummary)
    (latest_error : Option TypedErrorDatum) : JsonValue φ :=
  .obj
    [("records", .arr ((records.map fun datum =>
        record_row datum.source_ref.text (datum.revision.map Checked.text) datum.digest) ++
        (latest_error.map fun error => record_row error.error_type none error.digest).toList)),
      ("groups", texts (fun group => (builder.group_digest group).text) history), ("trimming", trimming.to_json)]

def compute_context_hash (records : List ContextDatum) (history : List ConversationGroup) (trimming : TrimmingSummary)
    (latest_error : Option TypedErrorDatum) : HexDigest :=
  builder.python.sha256_canonical (builder.context_json records history trimming latest_error)

/-! ## Messages -/

def datum_row (datum : ContextDatum) : JsonValue φ :=
  .obj [("record_type", .str (kind_value datum.kind)), ("namespace", .str (namespace_value datum.name_space)),
    ("source_ref", .str datum.source_ref.text), ("revision", or_null (fun text => .str text.text) datum.revision),
    ("digest", .str datum.digest.text), ("content", .str datum.content.text)]

def error_row (error : TypedErrorDatum) : JsonValue φ :=
  .obj [("record_type", .str "error"), ("namespace", .str "runtime_error"), ("source_ref", .str error.error_type),
    ("revision", .null), ("digest", .str error.digest.text), ("content", .str error.message.text),
    ("reason_code", .str error.reason_code.text), ("retryable", .bool error.retryable)]

/-- The records of the user message. -/
def records (request : ContextRequest φ) (evidence : List ContextDatum) : List (JsonValue φ) :=
  (request.current_input :: request.confirmed_facts ++ evidence).map datum_row ++
    (request.latest_error.map error_row).toList

/-- What the messages say, with their roles. -/
def contents (request : ContextRequest φ) (profile : RunProfile φ) (evidence : List ContextDatum) :
    List (Role × String) :=
  let (common_policy, profile_policy) := builder.registry.policy_for profile.key
  [(.system, common_policy), (.system, profile_policy),
    (.user, builder.python.canonical_json (.obj [("records", .arr (records request evidence))]))]

/-- `ChatMessage(role=..., content=...)`. -/
def chat_message (message : Role × String) : Except Raised ChatMessage :=
  match (Checked.parse message.2 : Option (Text 1 262144)) with
  | some content => .ok ⟨message.1, content⟩
  | none => .error .validation

def messages (request : ContextRequest φ) (profile : RunProfile φ) (evidence : List ContextDatum) :
    Except Raised (List ChatMessage) :=
  (builder.contents request profile evidence).mapM chat_message

/-! ## Requests -/

def zero_hash : HexDigest := HexDigest.ofNat 0

/-- What the passes trim. -/
structure Draft where
  history : List ConversationGroup
  evidence : List ContextDatum

/-- What `ModelRequest` asks of the values that the builder was made with. -/
def Configured : Prop :=
  (0 < builder.timeout_seconds ∧ builder.timeout_seconds ≤ 600) ∧
    builder.provider_user_id.length = 32 ∧
      (builder.provider_user_id.toList.all fun c => "0123456789abcdef".toList.elem c) = true

instance : Decidable builder.Configured := inferInstanceAs (Decidable (_ ∧ _))

def model_request (request : ContextRequest φ) (profile : RunProfile φ) (inference : InferenceConfig φ) (draft : Draft)
    (config_hash : HexDigest) : Except Raised (ModelRequest φ) := do
  let messages ← builder.messages request profile draft.evidence
  if ¬ builder.Configured then throw .validation
  else return {
    run_scope := request.run_scope
    attempt_id := request.attempt_id
    sequence := request.sequence
    inference := inference
    messages := messages
    history := draft.history
    tools := builder.registry.tools_for_step profile.key request.step
    timeout_seconds := builder.timeout_seconds
    capability_revision := profile.capability_revision
    provider_user_id := builder.provider_user_id
    hashes := ⟨zero_hash, zero_hash, zero_hash, zero_hash, config_hash⟩ }

def estimate (candidate : ModelRequest φ) (profile : RunProfile φ) : Except Raised ℕ :=
  let estimate := builder.estimator.estimate candidate
  if estimate.estimator_revision ≠ profile.estimator_revision.text then .error RevisionMismatch
  else .ok estimate.input_tokens

def summarize_result (result : ToolResult) : ToolResult :=
  { result with
    content_json := builder.python.canonical_json <| .obj
      [("content_sha256", .str result.content_sha256.text),
        ("deterministic_summary", .str result.deterministic_summary.text),
        ("error_class", or_null (fun text => .str text.text) result.error_class)]
    raw := false }

/-! ## Trimming -/

section Trimming

variable (request : ContextRequest φ) (profile : RunProfile φ) (inference : InferenceConfig φ) (config_hash : HexDigest)

/-- The estimate of a draft. -/
def after (draft : Draft) : Except Raised ℕ := do
  let candidate ← builder.model_request request profile inference draft config_hash
  builder.estimate candidate profile

/-- The first loop: the oldest groups go. -/
def drop_groups (evidence : List ContextDatum) :
    List ConversationGroup → ℕ → List HexDigest → Except Raised (List ConversationGroup × ℕ × List HexDigest)
  | [], after, removed => .ok ([], after, removed)
  | group :: history, after, removed =>
    if profile.input_token_limit < after ∧ profile.minimum_recent_groups < history.length + 1 then do
      let after ← builder.after request profile inference config_hash ⟨history, evidence⟩
      drop_groups evidence history after (removed ++ [builder.group_digest group])
    else .ok (group :: history, after, removed)

/-- The inner loop of the second one, over the results of one group. The history has the given results in place. -/
def compress_results (evidence : List ContextDatum) (history : List ToolResult → List ConversationGroup) :
    List ToolResult → List ToolResult → ℕ → List HexDigest → Except Raised (List ToolResult × ℕ × List HexDigest)
  | seen, [], after, compressed => .ok (seen, after, compressed)
  | seen, result :: results, after, compressed =>
    if after ≤ profile.input_token_limit then .ok (seen ++ result :: results, after, compressed)
    else if ¬ result.raw then compress_results evidence history (seen ++ [result]) results after compressed
    else do
      let summary := builder.summarize_result result
      let after ← builder.after request profile inference config_hash ⟨history (seen ++ summary :: results), evidence⟩
      compress_results evidence history (seen ++ [summary]) results after (compressed ++ [result.content_sha256])

/-- The second loop: raw results are summarised, the oldest first. -/
def compress_groups (evidence : List ContextDatum) :
    List ConversationGroup → List ConversationGroup → ℕ → List HexDigest →
      Except Raised (List ConversationGroup × ℕ × List HexDigest)
  | seen, [], after, compressed => .ok (seen, after, compressed)
  | seen, group :: groups, after, compressed =>
    if after ≤ profile.input_token_limit then .ok (seen ++ group :: groups, after, compressed)
    else match group with
      | .assistant ref => compress_groups evidence (seen ++ [.assistant ref]) groups after compressed
      | .tool_exchange exchange => do
        let history (results : List ToolResult) :=
          seen ++ .tool_exchange { exchange with tool_results := results } :: groups
        let (results, after, compressed) ←
          builder.compress_results request profile inference config_hash evidence history [] exchange.tool_results after
            compressed
        compress_groups evidence (seen ++ [.tool_exchange { exchange with tool_results := results }]) groups after
          compressed

end Trimming

/-- `(datum.kind, datum.namespace, datum.source_ref)`. -/
def identity (datum : ContextDatum) : DatumKind × DataNamespace × Text 1 512 :=
  (datum.kind, datum.name_space, datum.source_ref)

def last_by_identity (evidence : List ContextDatum) : Dict (DatumKind × DataNamespace × Text 1 512) ℕ :=
  evidence.zipIdx.foldl (fun last item => last.set (identity item.1) item.2) Dict.empty

def retained_evidence (evidence : List ContextDatum) : List ContextDatum :=
  (evidence.zipIdx.filter fun item => (last_by_identity evidence).get? (identity item.1) = some item.2).map Prod.fst

/-- The digests of the evidence that it removes. -/
def removed_evidence (evidence : List ContextDatum) : List HexDigest :=
  (evidence.zipIdx.filter fun item => (last_by_identity evidence).get? (identity item.1) ≠ some item.2).map
    fun item => item.1.digest

/-! ## Validation -/

def expected_scope : RunProfileKey → Track × Mode
  | .retail => (.retail, .retail)
  | .bird_a => (.bird, .a)
  | .bird_c => (.bird, .c)

/-- `ContextDatum.model_validate` of one datum, and its namespace. -/
def validate_datum (profile : RunProfile φ) (datum : ContextDatum) : Except Raised Unit :=
  if datum.digest ≠ builder.python.sha256 datum.content.text then
    .error (.context .ContextIntegrityError "context_integrity_error" "context datum failed integrity validation")
  else if datum.name_space ∉ profile.allowed_namespaces then
    .error (.context .DataNamespaceViolation "data_namespace_violation"
      "context datum namespace is not allowed for this profile")
  else .ok ()

/-- `TypedErrorDatum.model_validate`. -/
def validate_error (error : TypedErrorDatum) : Except Raised Unit :=
  if matchesPattern Char.isAlpha (fun c => c.isAlphanum || c = '_') 1 127 error.error_type &&
      !builder.python.sensitive error.message.text &&
      decide (error.digest = builder.python.sha256 error.message.text) then .ok ()
  else .error (.context .ContextIntegrityError "context_integrity_error" "error datum failed integrity validation")

def tool_result_mismatch (message : String) : Raised := .context .ToolResultMismatch "tool_result_mismatch" message

def validate_group (request : ContextRequest φ) (group : ConversationGroup) : Except Raised Unit :=
  if ¬ group.valid builder.python then .error (tool_result_mismatch "conversation group is not closed")
  else if group.ref.scope_digest ≠ builder.scope_digest request.run_scope ∨
    group.ref.attempt_id ≠ request.attempt_id then
    .error (tool_result_mismatch "conversation group belongs to another attempt")
  else .ok ()

/-- The sequences of the history increase, below the one of the request. -/
def validate_sequences (request : ContextRequest φ) : Except Raised Unit :=
  let sequences := request.history.map fun group => group.ref.sequence
  if ¬ sequences.Pairwise (· < ·) ∨ sequences.any (fun sequence => request.sequence ≤ sequence) then
    .error (tool_result_mismatch "conversation sequence is invalid")
  else .ok ()

def validate_request (request : ContextRequest φ) : Except Raised (RunProfile φ) :=
  let profile := builder.registry.profiles request.profile.key
  if builder.python.canonical_json profile.to_json ≠ builder.python.canonical_json request.profile.to_json then
    .error (.context .ProfileMismatch "profile_mismatch" "profile is not the registered value")
  else if request.step ∉ profile.inference_rules.map InferenceRule.step then
    .error (.context .ProfileMismatch "profile_step_mismatch" "step is not registered for profile")
  else if (request.run_scope.track, request.run_scope.mode) ≠ expected_scope profile.key then
    .error (.context .ProfileMismatch "profile_scope_mismatch" "scope does not match profile")
  else if builder.estimator.revision ≠ profile.estimator_revision.text then .error RevisionMismatch
  else do
    (request.current_input :: request.confirmed_facts ++ request.evidence).forM (builder.validate_datum profile)
    request.latest_error.toList.forM builder.validate_error
    request.history.forM (builder.validate_group request)
    validate_sequences request
    return profile

/-! ## Building -/

/-- `_final_request(...)`: the request with its hashes. -/
def final_request (request : ContextRequest φ) (profile : RunProfile φ) (inference : InferenceConfig φ) (draft : Draft)
    (config_hash : HexDigest) (trimming : TrimmingSummary) : Except Raised (ModelRequest φ) := do
  let provisional ← builder.model_request request profile inference draft config_hash
  let (common_policy, profile_policy) := builder.registry.policy_for profile.key
  let records := request.current_input :: request.confirmed_facts ++ draft.evidence
  return { provisional with
    hashes := {
      prompt_policy_hash := builder.compute_prompt_policy_hash common_policy profile_policy
      rendered_prompt_hash := builder.compute_rendered_prompt_hash provisional.messages
      tool_hash := builder.compute_tool_hash profile provisional.tools
      context_hash := builder.compute_context_hash records draft.history trimming request.latest_error
      config_hash := config_hash } }

/-- The third pass: a datum that comes again later goes. -/
def drop_duplicates (request : ContextRequest φ) (profile : RunProfile φ) (inference : InferenceConfig φ)
    (config_hash : HexDigest) (history : List ConversationGroup) (after : ℕ) :
    Except Raised (List ContextDatum × ℕ × List HexDigest) :=
  if profile.input_token_limit < after then do
    let evidence := retained_evidence request.evidence
    let after ← builder.after request profile inference config_hash ⟨history, evidence⟩
    return (evidence, after, removed_evidence request.evidence)
  else .ok (request.evidence, after, [])

/-- The end of `build`: the bundle of a trimmed draft. -/
def bundle (request : ContextRequest φ) (profile : RunProfile φ) (inference : InferenceConfig φ) (draft : Draft)
    (config_hash : HexDigest) (trimming : TrimmingSummary) : Except Raised (PromptBundle φ) := do
  let final_request ← builder.final_request request profile inference draft config_hash trimming
  let estimated ← builder.estimate final_request profile
  if estimated ≠ trimming.estimated_after then
    throw (.context .ContextIntegrityError "estimate_changed_after_hashing"
      "audit hashes changed the provider wire token estimate")
  else return {
    model_request := final_request
    profile := profile.key
    hashes := final_request.hashes
    estimated_input_tokens := trimming.estimated_after
    trimming := trimming
    embedded := rfl
    estimated := rfl }

def build (request : ContextRequest φ) : Except Raised (PromptBundle φ) := do
  let profile ← builder.validate_request request
  match profile.rule? request.step with
  | none => throw .validation
  | some rule =>
    let inference := rule.inference
    let config_hash := builder.compute_config_hash profile builder.requested_model
    if request.run_scope.config_hash ≠ config_hash then throw RevisionMismatch else
    let before ← builder.after request profile inference config_hash ⟨request.history, request.evidence⟩
    let (history, after, removed_groups) ←
      builder.drop_groups request profile inference config_hash request.evidence request.history before []
    let (history, after, compressed_results) ←
      builder.compress_groups request profile inference config_hash request.evidence [] history after []
    let (evidence, after, removed_evidence) ←
      builder.drop_duplicates request profile inference config_hash history after
    if profile.input_token_limit < after then throw ContextBudgetExceeded else
    builder.bundle request profile inference ⟨history, evidence⟩ config_hash {
      original_groups := request.history.length
      retained_groups := history.length
      removed_group_digests := removed_groups
      compressed_result_digests := compressed_results
      removed_evidence_digests := removed_evidence
      estimated_before := before
      estimated_after := after }

end ContextBuilder

end CommerceAgent.Context
