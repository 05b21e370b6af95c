import CommerceAgent.Context.Trimming
import CommerceAgent.Orchestration.RetailContracts

/-!
# The SQL reasoner

`SqlReasoner.generate`. The context that it builds holds neither the step nor the candidate that failed.
-/

open CommerceAgent.Lib
open CommerceAgent.Operations (UUID Text Name HexDigest Checked)
open CommerceAgent.Orchestration (RunScope ContextDatum TypedErrorDatum PromptStep ToolCall ModelOutput SqlCandidate
  ProductDbError SqlReasoningRequest)
open CommerceAgent.Context (Python ContextBuilder ContextRequest ModelRequest ProfileRegistry ChatMessage)

namespace CommerceAgent.SqlReasoning

variable {φ : Type}

inductive Raised where
  | context (raised : Context.Raised)
  /-- What the gateway raises. -/
  | model (reason_code : String)
  /-- A `SqlReasoningContractError`. -/
  | contract (reason_code : String)
  | no_progress (reason_code : String)
  | validation
  deriving DecidableEq

/-! ## Answers -/

structure SubmittedSqlCandidate where
  evidence_refs : List String
  sql : Text 1 100000
  step_id : Name 1 127
  size : 1 ≤ evidence_refs.length ∧ evidence_refs.length ≤ 32

def text_of_json : JsonValue φ → Option String
  | .str s => some s
  | _ => none

def texts_of_json : JsonValue φ → Option (List String)
  | .arr xs => xs.mapM text_of_json
  | _ => none

/-- The fields of a submitted candidate, which are all that there are. -/
def submitted_of_fields (fields : List (String × JsonValue φ)) : Option SubmittedSqlCandidate := do
  let type ← fields.lookup "type" >>= text_of_json
  let evidence_refs ← fields.lookup "evidence_refs" >>= texts_of_json
  let sql ← fields.lookup "sql" >>= text_of_json >>= Checked.parse
  let step_id ← fields.lookup "step_id" >>= text_of_json >>= Checked.parse
  if h : 1 ≤ evidence_refs.length ∧ evidence_refs.length ≤ 32 then
    if type = "submit_sql_candidate" ∧ fields.length = 4 then some ⟨evidence_refs, sql, step_id, h⟩ else none
  else none

def model_validate_json (python : Python φ) (text : String) : Option SubmittedSqlCandidate :=
  match JsonValue.loads python.floats text.toList with
  | some (.obj fields) => submitted_of_fields fields
  | _ => none

def parse_response (python : Python φ) (output : ModelOutput) (request : SqlReasoningRequest) :
    Except Raised SubmittedSqlCandidate :=
  match output with
  | .tool_calls { tool_calls := [call], .. } =>
    if call.name.text ≠ "submit_sql_candidate" then .error (.contract "sql_candidate_tool_invalid")
    else
      match model_validate_json python call.arguments_json.text with
      | none => .error (.contract "sql_candidate_payload_invalid")
      | some submitted =>
        if submitted.step_id ≠ request.step_id then .error (.contract "sql_step_mismatch")
        else if ¬ submitted.evidence_refs ⊆ request.evidence.map fun item => item.source_ref.text then
          .error (.contract "sql_evidence_mismatch")
        else .ok submitted
  | _ => .error (.contract "sql_candidate_output_invalid")

/-! ## The reasoner -/

structure SqlReasoner (φ : Type) where
  context_builder : ContextBuilder φ
  profiles : ProfileRegistry φ
  /-- `fingerprints(sql)`, of which the second is kept. -/
  fingerprints : Text 1 100000 → Except String HexDigest

def rejected : Text 1 256 := ⟨"The Product database rejected the prior candidate.", by decide⟩

namespace SqlReasoner

variable (reasoner : SqlReasoner φ)

def latest_error (error : ProductDbError) : TypedErrorDatum where
  error_type := "ProductDbError"
  reason_code := error.reason_code
  retryable := error.retryable
  message := rejected
  digest := reasoner.context_builder.python.sha256 rejected.text

def context_request (request : SqlReasoningRequest) : ContextRequest φ where
  run_scope := request.run_scope
  attempt_id := request.attempt_id
  sequence := request.sequence
  profile := reasoner.profiles.profiles .retail
  step := if request.latest_error.isSome then .retail_sql_repair else .retail_sql_generate
  current_input := request.current_input
  confirmed_facts := request.confirmed_facts
  evidence := request.evidence
  latest_error := request.latest_error.map reasoner.latest_error
  history := []

/-- The model request that `generate` builds. -/
def model_request (request : SqlReasoningRequest) : Except Raised (ModelRequest φ) :=
  match reasoner.context_builder.build (reasoner.context_request request) with
  | .ok bundle => .ok bundle.model_request
  | .error raised => .error (.context raised)

/-- `SqlCandidate(...)`, unless it raises. -/
def candidate (request : SqlReasoningRequest) (submitted : SubmittedSqlCandidate) (execution : HexDigest) :
    Except Raised SqlCandidate :=
  if ¬ submitted.evidence_refs.Nodup then .error .validation
  else .ok {
    sql := submitted.sql
    step_id := submitted.step_id
    repair_number := request.repair_number
    evidence_refs := submitted.evidence_refs
    execution_fingerprint := execution
    repair_bound := request.repair_bound }

/-- `generate(request)`, where the gateway answers by `complete`. -/
def generate (complete : ModelRequest φ → Except String ModelOutput) (request : SqlReasoningRequest) :
    Except Raised SqlCandidate := do
  let model_request ← reasoner.model_request request
  let output ← (complete model_request).mapError .model
  let submitted ← parse_response reasoner.context_builder.python output request
  let execution ← (reasoner.fingerprints submitted.sql).mapError .contract
  let candidate ← candidate request submitted execution
  if request.previous.any fun previous =>
      previous.execution_fingerprint = candidate.execution_fingerprint &&
        previous.evidence_refs = candidate.evidence_refs then
    throw (.no_progress "sql_no_progress")
  else return candidate

end SqlReasoner

/-! ## Requests that differ in the step or in the failed query -/

/-- What the requests of one attempt have in common. -/
structure SameInputs (request other : SqlReasoningRequest) : Prop where
  run_scope : other.run_scope = request.run_scope
  attempt_id : other.attempt_id = request.attempt_id
  sequence : other.sequence = request.sequence
  current_input : other.current_input = request.current_input
  confirmed_facts : other.confirmed_facts = request.confirmed_facts
  evidence : other.evidence = request.evidence
  repair_number : other.repair_number = request.repair_number
  latest_error : other.latest_error = request.latest_error

/-- Another step is asked for. -/
structure OtherStep (request other : SqlReasoningRequest) : Prop extends SameInputs request other where
  previous : other.previous = request.previous
  step_id : other.step_id ≠ request.step_id

/-- Another query failed. -/
structure OtherQuery (request other : SqlReasoningRequest) : Prop extends SameInputs request other where
  step_id : other.step_id = request.step_id
  repair : request.latest_error.isSome = true
  sql : ∃ previous previous', request.previous = some previous ∧ other.previous = some previous' ∧
    previous'.sql ≠ previous.sql ∧ previous' = { previous with
      sql := previous'.sql, execution_fingerprint := previous'.execution_fingerprint }

namespace SqlReasoner

variable {reasoner : SqlReasoner φ} {request other : SqlReasoningRequest}

/-- The model is told different things. -/
def ToldApart (reasoner : SqlReasoner φ) (request other : SqlReasoningRequest) : Prop :=
  ∃ sent sent', reasoner.model_request request = .ok sent ∧ reasoner.model_request other = .ok sent' ∧
    sent.messages ≠ sent'.messages

theorem context_request_same (reasoner : SqlReasoner φ) (h : SameInputs request other) :
    reasoner.context_request other = reasoner.context_request request := by
  unfold context_request
  rw [h.run_scope, h.attempt_id, h.sequence, h.current_input, h.confirmed_facts, h.evidence, h.latest_error]

theorem model_request_same (reasoner : SqlReasoner φ) (h : SameInputs request other) :
    reasoner.model_request other = reasoner.model_request request := by
  unfold model_request
  rw [context_request_same reasoner h]

theorem build_whole {builder : ContextBuilder φ} {request : ContextRequest φ} {profile : Context.RunProfile φ}
    (hvalid : builder.validate_request request = .ok profile) {rule : Context.InferenceRule φ}
    (hrule : profile.rule? request.step = some rule) (hhistory : request.history = []) {h : HexDigest}
    (hscope : request.run_scope.config_hash = h)
      (hconfig : builder.compute_config_hash profile builder.requested_model = h)
    {tokens : ℕ} (hafter : builder.after request profile rule.inference h ⟨[], request.evidence⟩ = .ok tokens)
    (hlimit : tokens ≤ profile.input_token_limit) : builder.build request =
      builder.bundle request profile rule.inference ⟨[], request.evidence⟩ h ⟨0, 0, [], [], [], tokens, tokens⟩ := by
  have hwithin : ¬ profile.input_token_limit < tokens := not_lt.mpr hlimit
  unfold ContextBuilder.build
  rw [hvalid, ok_bind, hrule]
  dsimp only
  rw [hconfig, if_neg (not_not.mpr hscope), hhistory, hafter, ok_bind]
  unfold ContextBuilder.drop_groups
  rw [ok_bind]
  dsimp only
  unfold ContextBuilder.compress_groups
  rw [ok_bind]
  dsimp only
  unfold ContextBuilder.drop_duplicates
  rw [if_neg hwithin, ok_bind]
  exact if_neg hwithin

theorem model_request_ok {bundle : Context.PromptBundle φ}
    (h : reasoner.context_builder.build (reasoner.context_request request) = .ok bundle) :
    reasoner.model_request request = .ok bundle.model_request := by
  unfold model_request
  rw [h]

/-- What the model is told determines neither the step nor the query that failed. -/
theorem prompt_hides_step (reasoner : SqlReasoner φ) (request other : SqlReasoningRequest)
    (h : OtherStep request other ∨ OtherQuery request other) : ¬ ToldApart reasoner request other := by
  rintro ⟨sent, sent', hsent, hsent', hmessages⟩
  have hsame : SameInputs request other := h.elim OtherStep.toSameInputs OtherQuery.toSameInputs
  rw [model_request_same reasoner hsame, hsent] at hsent'
  exact hmessages (congrArg ModelRequest.messages (Except.ok.inj hsent'))

/-! ## Answers for one step -/

/-- The candidate is the payload of the only call, for the requested step and from the given evidence. -/
theorem parse_response_ok {python : Python φ} {output : ModelOutput} {submitted : SubmittedSqlCandidate}
    (h : parse_response python output request = .ok submitted) :
    (∃ calls call, output = .tool_calls calls ∧ calls.tool_calls = [call] ∧
      model_validate_json python call.arguments_json.text = some submitted) ∧
    submitted.step_id = request.step_id ∧
    submitted.evidence_refs ⊆ request.evidence.map fun item => item.source_ref.text := by
  unfold parse_response at h
  split at h
  · split_ifs at h
    split at h
    · cases h
    · rename_i hread
      split_ifs at h with hstep hevidence
      obtain rfl := Except.ok.inj h
      exact ⟨⟨_, _, rfl, rfl, hread⟩, not_not.mp hstep, hevidence⟩
  · cases h

theorem parse_response_once {python : Python φ} {output : ModelOutput} {submitted submitted' : SubmittedSqlCandidate}
    (h : OtherStep request other) (hparsed : parse_response python output request = .ok submitted)
    (hparsed' : parse_response python output other = .ok submitted') : False := by
  obtain ⟨⟨calls, call, rfl, hcall, hread⟩, hstep, -⟩ := parse_response_ok hparsed
  obtain ⟨⟨calls', call', hcalls, hcall', hread'⟩, hstep', -⟩ := parse_response_ok hparsed'
  obtain rfl := ModelOutput.tool_calls.inj hcalls
  obtain rfl := List.singleton_inj.mp (hcall.symm.trans hcall')
  obtain rfl := Option.some.inj (hread.symm.trans hread')
  exact h.step_id (hstep'.symm.trans hstep)

theorem generate_ok {complete : ModelRequest φ → Except String ModelOutput} {result : SqlCandidate}
    (h : reasoner.generate complete request = .ok result) : ∃ sent output submitted,
      reasoner.model_request request = .ok sent ∧ complete sent = .ok output ∧
      parse_response reasoner.context_builder.python output request = .ok submitted ∧
      result.step_id = submitted.step_id ∧ result.sql = submitted.sql := by
  obtain ⟨sent, hsent, h⟩ := except_bind_ok h
  obtain ⟨output, houtput, h⟩ := except_bind_ok h
  obtain ⟨submitted, hsubmitted, h⟩ := except_bind_ok h
  obtain ⟨execution, -, h⟩ := except_bind_ok h
  obtain ⟨made, hmade, h⟩ := except_bind_ok h
  have hcomplete : complete sent = .ok output := by
    cases hanswer : complete sent with
    | error reason_code =>
      rw [hanswer] at houtput
      cases houtput
    | ok answer =>
      rw [hanswer] at houtput
      exact congrArg Except.ok (Except.ok.inj houtput)
  have hresult : made = result := by
    split_ifs at h
    exact Except.ok.inj h
  refine ⟨sent, output, submitted, hsent, hcomplete, hsubmitted, ?_⟩
  unfold candidate at hmade
  split_ifs at hmade
  obtain rfl := hresult
  obtain rfl := Except.ok.inj hmade
  exact ⟨rfl, rfl⟩

/-- Of the requests for two steps the model, which answers what it is sent, satisfies one at most. -/
theorem generate_one_step (complete : ModelRequest φ → Except String ModelOutput) (h : OtherStep request other)
    {result result' : SqlCandidate} (hresult : reasoner.generate complete request = .ok result) :
    reasoner.generate complete other ≠ .ok result' := by
  intro hresult'
  obtain ⟨sent, output, submitted, hsent, houtput, hparsed, -⟩ := generate_ok hresult
  obtain ⟨sent', output', submitted', hsent', houtput', hparsed', -⟩ := generate_ok hresult'
  rw [model_request_same reasoner h.toSameInputs, hsent] at hsent'
  obtain rfl := Except.ok.inj hsent'
  obtain rfl := Except.ok.inj (houtput.symm.trans houtput')
  exact parse_response_once h hparsed hparsed'

/-! ## Two steps of a plan -/

def generateRule : Context.InferenceRule Unit := ⟨.retail_sql_generate, .non_thinking () 4096, [], List.nodup_nil⟩

def sqlProfile (key : Context.RunProfileKey) : Context.RunProfile Unit :=
  { Context.sampleProfile key with inference_rules := [generateRule], unique := by simp [Context.sampleProfile] }

def sqlRegistry : ProfileRegistry Unit where
  profiles := sqlProfile
  policies := Context.sampleRegistry.policies
  tools _ := []
  own_key _ := rfl
  known_policies _ := ⟨rfl, rfl⟩
  known_tools _ rule hrule name hname := by
    rw [List.mem_singleton.mp hrule] at hname
    exact absurd hname List.not_mem_nil
  unique_tools _ := List.nodup_nil

def sqlReasoner : SqlReasoner Unit where
  context_builder := { Context.sampleBuilder with registry := sqlRegistry }
  profiles := sqlRegistry
  fingerprints _ := .ok (HexDigest.ofNat 0)

theorem retail_scope : (Orchestration.Track.retail, Orchestration.Mode.retail) ∈
    [(.retail, .retail), (.bird, .a), (.bird, .c)] := by decide

def baseline : SqlReasoningRequest where
  run_scope :=
    ⟨2, .retail, .retail, ⟨"conversation-3", by decide⟩, ⟨"experiment-9", by decide⟩, HexDigest.ofNat 0, retail_scope⟩
  attempt_id := 3
  sequence := 0
  step_id := ⟨"baseline", by decide⟩
  current_input := Context.hello
  confirmed_facts := []
  evidence := [Context.hello]
  repair_number := 0
  latest_error := none
  previous := none
  size := by decide
  repair_bound := by decide
  repair_state := Or.inl ⟨rfl, rfl, rfl⟩

def drilldown : SqlReasoningRequest := { baseline with step_id := ⟨"drilldown", by decide⟩ }

theorem drilldown_other : OtherStep baseline drilldown where
  run_scope := rfl
  attempt_id := rfl
  sequence := rfl
  current_input := rfl
  confirmed_facts := rfl
  evidence := rfl
  repair_number := rfl
  latest_error := rfl
  previous := rfl
  step_id := by decide

theorem prompt_hides_drilldown : OtherStep baseline drilldown ∧ ¬ ToldApart sqlReasoner baseline drilldown :=
  ⟨drilldown_other, prompt_hides_step sqlReasoner baseline drilldown (Or.inl drilldown_other)⟩

theorem baseline_valid : sqlReasoner.context_builder.validate_request (sqlReasoner.context_request baseline) =
    .ok (sqlProfile .retail) := by
  have hsame : ¬ (sqlReasoner.context_builder.python.canonical_json
      (sqlReasoner.context_builder.registry.profiles (sqlReasoner.context_request baseline).profile.key).to_json ≠
        sqlReasoner.context_builder.python.canonical_json (sqlReasoner.context_request baseline).profile.to_json) :=
    fun h => h rfl
  unfold ContextBuilder.validate_request
  dsimp only
  rw [if_neg hsame, if_neg (by decide), if_neg (by decide), if_neg (by decide)]
  rfl

theorem baseline_fits : Context.Fits sqlReasoner.context_builder (sqlReasoner.context_request baseline)
    (sqlProfile .retail) := by
  unfold Context.Fits ContextBuilder.contents
  simp only [List.forall_mem_cons]
  refine ⟨by decide, by decide, ?_, by simp⟩
  unfold Python.canonical_json
  rw [String.length_ofList]
  decide +kernel

theorem baseline_config : sqlReasoner.context_builder.compute_config_hash (sqlProfile .retail)
    sqlReasoner.context_builder.requested_model = HexDigest.ofNat 0 := by
  unfold ContextBuilder.compute_config_hash Python.sha256_canonical
  rfl

theorem sqlReasoner_configured : sqlReasoner.context_builder.Configured := by decide

theorem baseline_sent : ∃ sent, sqlReasoner.model_request baseline = .ok sent := by
  obtain ⟨candidate, -, -, hafter, hhistory, -⟩ := Context.after_ok generateRule.inference (HexDigest.ofNat 0)
    sqlReasoner_configured baseline_fits rfl ⟨[], [Context.hello]⟩ (List.Sublist.refl _)
  have htokens : (sqlReasoner.context_builder.estimator.estimate candidate).input_tokens = 0 :=
    congrArg List.length hhistory
  rw [htokens] at hafter
  obtain ⟨bundle, hbundle, -⟩ := Context.bundle_ok sqlReasoner_configured baseline_fits rfl ⟨[], [Context.hello]⟩
    (List.Sublist.refl _) ⟨0, 0, [], [], [], 0, 0⟩ hafter
  have hbuild := build_whole baseline_valid rfl rfl rfl baseline_config hafter (by decide)
  exact ⟨_, model_request_ok (hbuild.trans hbundle)⟩

/-- The model is asked for both steps in the same words. -/
theorem steps_in_same_words : ∃ sent, sqlReasoner.model_request baseline = .ok sent ∧
    sqlReasoner.model_request drilldown = .ok sent ∧ ¬ ToldApart sqlReasoner baseline drilldown := by
  obtain ⟨sent, hsent⟩ := baseline_sent
  have hother : sqlReasoner.model_request drilldown = .ok sent :=
    (model_request_same sqlReasoner drilldown_other.toSameInputs).trans hsent
  refine ⟨sent, hsent, hother, ?_⟩
  rintro ⟨first, second, hfirst, hsecond, hmessages⟩
  obtain rfl := Except.ok.inj (hsent.symm.trans hfirst)
  obtain rfl := Except.ok.inj (hother.symm.trans hsecond)
  exact hmessages rfl

end SqlReasoner

end CommerceAgent.SqlReasoning
