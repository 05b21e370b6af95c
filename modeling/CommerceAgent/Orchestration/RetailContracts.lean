import CommerceAgent.Orchestration.Contracts
import CommerceAgent.Operations.Canonical
import CommerceAgent.Lib.JsonRead

/-!
# Contracts of the retail track

What the retail graph exchanges with the model, the SQL reasoner, the query engine and
the caller.
-/

open CommerceAgent.Lib
open CommerceAgent.Lib.Json (Codec NeverNull toJson ofJson)
open CommerceAgent.Operations (UUID Text Code Name HexDigest Checked ProposalRef RiskDisposition matchesPattern lowerCase
  nameChar enumOfJson)

namespace CommerceAgent.Orchestration

/-! ## Requests -/

structure RetailRunRequest where
  run_scope : RunScope
  attempt_id : UUID
  current_input : ContextDatum
  confirmed_facts : List ContextDatum
  evidence : List ContextDatum
  latest_error : Option TypedErrorDatum
  retail : (run_scope.track, run_scope.mode) = (.retail, .retail)
  deriving DecidableEq

/-! ## Clarifications -/

inductive ClarificationSlot where
  | gmv_metric_definition
  | valid_order_statuses
  | time_field
  | time_range
  | analysis_grain
  | minimum_order_count
  | anomaly_threshold
  | business_value
  deriving DecidableEq, Repr

def ClarificationSlot.value : ClarificationSlot → String
  | .gmv_metric_definition => "gmv_metric_definition"
  | .valid_order_statuses => "valid_order_statuses"
  | .time_field => "time_field"
  | .time_range => "time_range"
  | .analysis_grain => "analysis_grain"
  | .minimum_order_count => "minimum_order_count"
  | .anomaly_threshold => "anomaly_threshold"
  | .business_value => "business_value"

structure ClarificationItem where
  slot : ClarificationSlot
  question : Text 1 1000
  allowed_values : List String
  few : allowed_values.length ≤ 32
  unique : allowed_values.Nodup
  deriving DecidableEq

structure ClarificationRequest where
  conversation_id : Text 1 128
  request_id : UUID
  items : List ClarificationItem
  size : 1 ≤ items.length ∧ items.length ≤ 8
  unique : (items.map ClarificationItem.slot).Nodup
  deriving DecidableEq

/-! ## Plans -/

inductive StepKind where
  | baseline
  | drilldown
  deriving DecidableEq, Repr

structure QueryPlanStep where
  step_id : Name 1 127
  kind : StepKind
  reconciliation_rule_refs : List String
  deriving DecidableEq

structure InvestigationPlan where
  steps : List QueryPlanStep
  reconciliation_rule_refs : List String
  size : 2 ≤ steps.length ∧ steps.length ≤ 12
  baseline : steps.countP (·.kind = .baseline) = 1
  drilldown : ∃ step ∈ steps, step.kind = .drilldown
  unique : (steps.map QueryPlanStep.step_id).Nodup
  declared : ∀ step ∈ steps, step.reconciliation_rule_refs ⊆ reconciliation_rule_refs

/-! ## Reports -/

def evidenceChar (c : Char) : Bool := nameChar c || c == ':'

/-- `^[a-z][a-z0-9_.:-]{lo,hi}$`. -/
abbrev EvidenceId (lo hi : ℕ) := Checked (matchesPattern lowerCase evidenceChar lo hi)

inductive EvidenceKind where
  | knowledge
  | query
  | reconciliation
  | operation
  deriving DecidableEq, Repr

def EvidenceKind.value : EvidenceKind → String
  | .knowledge => "knowledge"
  | .query => "query"
  | .reconciliation => "reconciliation"
  | .operation => "operation"

structure InvestigationEvidence where
  evidence_id : EvidenceId 2 255
  kind : EvidenceKind
  summary : Text 1 2000
  digest : HexDigest
  deriving DecidableEq

structure InvestigationClaim where
  claim_id : Name 1 127
  text : Text 1 2000
  evidence_refs : List String
  size : 1 ≤ evidence_refs.length ∧ evidence_refs.length ≤ 32
  deriving DecidableEq

structure InvestigationLimitation where
  code : Code 2 127
  summary : Text 1 1000
  deriving DecidableEq

structure SensitivityComparison where
  all_sellers_evidence_ref : Text 1 256
  selected_risk_evidence_ref : Text 1 256
  summary : Text 1 2000
  deriving DecidableEq

structure ReportFields where
  conversation_id : Text 1 128
  report_id : UUID
  claims : List InvestigationClaim
  available_evidence : List InvestigationEvidence
  limitations : List InvestigationLimitation
  reconciliation_refs : List String
  proposal_refs : List ProposalRef
  selected_risk_status : Option RiskDisposition
  sensitivity_comparison : Option SensitivityComparison
  deriving DecidableEq

namespace ReportFields

def evidence_ids (report : ReportFields) : List String := report.available_evidence.map fun item => item.evidence_id.text

/-- The sizes of the fields, and `validate_evidence_and_sensitivity`. -/
def Valid (report : ReportFields) : Prop :=
  (1 ≤ report.claims.length ∧ report.claims.length ≤ 32) ∧
  (1 ≤ report.available_evidence.length ∧ report.available_evidence.length ≤ 64) ∧ report.limitations.length ≤ 16 ∧
  (1 ≤ report.reconciliation_refs.length ∧ report.reconciliation_refs.length ≤ 32) ∧
  report.proposal_refs.length ≤ 8 ∧
  (∀ claim ∈ report.claims, claim.evidence_refs ⊆ report.evidence_ids) ∧
  report.reconciliation_refs ⊆ report.evidence_ids ∧
  (report.selected_risk_status.isSome → report.sensitivity_comparison.isSome) ∧
  ∀ comparison ∈ report.sensitivity_comparison,
    comparison.all_sellers_evidence_ref.text ∈ report.evidence_ids ∧
      comparison.selected_risk_evidence_ref.text ∈ report.evidence_ids

instance (report : ReportFields) : Decidable report.Valid := by
  unfold Valid
  infer_instance

end ReportFields

structure InvestigationReport extends ReportFields where
  valid : toReportFields.Valid
  deriving DecidableEq

/-! ## Queries and evidence -/

structure SqlCandidate where
  sql : Text 1 100000
  step_id : Name 1 127
  repair_number : ℕ
  evidence_refs : List String
  execution_fingerprint : HexDigest
  repair_bound : repair_number ≤ 3
  deriving DecidableEq

/-- A `ProductDbError` of the query engine. -/
structure ProductDbError where
  reason_code : Code 2 127
  retryable : Bool
  evidence_digest : HexDigest
  deriving DecidableEq

structure SqlReasoningRequest where
  run_scope : RunScope
  attempt_id : UUID
  sequence : ℕ
  step_id : Name 1 127
  current_input : ContextDatum
  confirmed_facts : List ContextDatum
  evidence : List ContextDatum
  repair_number : ℕ
  latest_error : Option ProductDbError
  previous : Option SqlCandidate
  size : 1 ≤ evidence.length ∧ evidence.length ≤ 64
  repair_bound : repair_number ≤ 3
  repair_state : (latest_error = none ∧ repair_number = 0 ∧ previous = none) ∨
    (latest_error.isSome ∧ repair_number ≠ 0 ∧ previous.isSome)
  deriving DecidableEq

abbrev Row := List (String × Value)

structure QueryResult where
  columns : List String
  rows : List Row

structure EvidenceResult where
  evidence_id : EvidenceId 1 127
  columns : List String
  rows : List Row
  query_fingerprint : HexDigest
  unique : columns.Nodup
  shaped : ∀ row ∈ rows, row.map Prod.fst ⊆ columns ∧ columns ⊆ row.map Prod.fst

namespace EvidenceResult

/-- `EvidenceResult(...)`, unless it raises. -/
def parse (evidence_id : String) (result : QueryResult) (query_fingerprint : HexDigest) : Option EvidenceResult := do
  let evidence_id ← Checked.parse evidence_id
  if h : result.columns.Nodup ∧ ∀ row ∈ result.rows, row.map Prod.fst ⊆ result.columns ∧ result.columns ⊆ row.map Prod.fst then
    some ⟨evidence_id, result.columns, result.rows, query_fingerprint, h.1, h.2⟩
  else none

/-- `evidence.model_dump(mode="json")`. -/
def model_dump (evidence : EvidenceResult) : Value := .obj
  [("evidence_id", .str evidence.evidence_id.text), ("columns", .arr (evidence.columns.map .str)),
    ("rows", .arr (evidence.rows.map .obj)), ("query_fingerprint", .str evidence.query_fingerprint.text)]

end EvidenceResult

inductive RuleType where
  | total
  | grain
  | set
  | null
  | decimal_tolerance
  deriving DecidableEq, Repr

def RuleType.value : RuleType → String
  | .total => "total"
  | .grain => "grain"
  | .set => "set"
  | .null => "null"
  | .decimal_tolerance => "decimal_tolerance"

structure ReconciliationCheck where
  rule_type : RuleType
  passed : Bool
  reason_code : Code 2 127
  actual_digest : HexDigest
  expected_digest : HexDigest
  deriving DecidableEq

structure ReconciliationResult where
  passed : Bool
  checks : List ReconciliationCheck
  size : 1 ≤ checks.length ∧ checks.length ≤ 64
  summary : passed = checks.all ReconciliationCheck.passed
  deriving DecidableEq

/-! ## Outcomes -/

inductive RetailTerminal where
  | clarification (request : ClarificationRequest)
  | report (report : InvestigationReport)
  deriving DecidableEq

inductive RetailRunStatus where
  | needs_input
  | completed
  | stopped
  deriving DecidableEq, Repr

/-- `validate_terminal_value`. -/
def TerminalValue : RetailRunStatus → Option RetailTerminal → Option StopOutcome → Prop
  | .needs_input, some (.clarification _), none => True
  | .completed, some (.report _), none => True
  | .stopped, none, some _ => True
  | _, _, _ => False

structure RetailRunOutcome where
  status : RetailRunStatus
  terminal : Option RetailTerminal
  stop : Option StopOutcome
  model_calls : ℕ
  tool_calls : ℕ
  hashes : PromptHashes
  attempt_id : UUID
  value : TerminalValue status terminal stop

/-! ## Persisted values -/

instance {ok : String → Bool} : NeverNull (Checked ok) where
  ne_null _ := Json.noConfusion

instance : Codec StopKind where
  toJson kind := .str kind.value
  ofJson := enumOfJson StopKind.value
    [.budget_exhausted, .no_progress, .unsafe_output, .insufficient_data, .completed, .infrastructure_error]
  ofJson_toJson kind := by cases kind <;> rfl

instance : Codec Bool where
  toJson := .bool
  ofJson
    | .bool b => some b
    | _ => none
  ofJson_toJson _ := rfl

instance : Codec RuleType where
  toJson rule_type := .str rule_type.value
  ofJson := enumOfJson RuleType.value [.total, .grain, .set, .null, .decimal_tolerance]
  ofJson_toJson rule_type := by cases rule_type <;> rfl

instance : Codec ReconciliationCheck where
  toJson check := .obj
    [("rule_type", toJson check.rule_type), ("passed", toJson check.passed), ("reason_code", toJson check.reason_code),
      ("actual_digest", toJson check.actual_digest), ("expected_digest", toJson check.expected_digest)]
  ofJson j := do
    let rule_type ← j.field "rule_type"
    let passed ← j.field "passed"
    let reason_code ← j.field "reason_code"
    let actual_digest ← j.field "actual_digest"
    let expected_digest ← j.field "expected_digest"
    return { rule_type, passed, reason_code, actual_digest, expected_digest }
  ofJson_toJson check := by simp [Json.field, Json.get?_sortKeys, List.lookup_cons]

instance : Codec ReconciliationResult where
  toJson result := .obj [("passed", toJson result.passed), ("checks", toJson result.checks)]
  ofJson j := do
    let passed : Bool ← j.field "passed"
    let checks : List ReconciliationCheck ← j.field "checks"
    if h : (1 ≤ checks.length ∧ checks.length ≤ 64) ∧ passed = checks.all ReconciliationCheck.passed then
      some ⟨passed, checks, h.1, h.2⟩
    else none
  ofJson_toJson result := by
    obtain ⟨passed, checks, hsize, rfl⟩ := result
    simp [Json.field, Json.get?_sortKeys, List.lookup_cons, hsize]

instance : Codec StopOutcome where
  toJson stop := .obj
    [("kind", toJson stop.kind), ("reason_code", toJson stop.reason_code),
      ("evidence_digest", toJson stop.evidence_digest), ("retryable", toJson stop.retryable)]
  ofJson j := do
    let kind ← j.field "kind"
    let reason_code ← j.field "reason_code"
    let evidence_digest ← j.field "evidence_digest"
    let retryable ← j.field "retryable"
    return { kind, reason_code, evidence_digest, retryable }
  ofJson_toJson stop := by simp [Json.field, Json.get?_sortKeys, List.lookup_cons]

instance : Codec ClarificationSlot where
  toJson slot := .str slot.value
  ofJson := enumOfJson ClarificationSlot.value
    [.gmv_metric_definition, .valid_order_statuses, .time_field, .time_range, .analysis_grain, .minimum_order_count,
      .anomaly_threshold, .business_value]
  ofJson_toJson slot := by cases slot <;> rfl

instance : Codec ClarificationItem where
  toJson item := .obj
    [("slot", toJson item.slot), ("question", toJson item.question), ("allowed_values", toJson item.allowed_values)]
  ofJson j := do
    let slot ← j.field "slot"
    let question ← j.field "question"
    let allowed_values : List String ← j.field "allowed_values"
    if h : allowed_values.length ≤ 32 ∧ allowed_values.Nodup then some ⟨slot, question, allowed_values, h.1, h.2⟩ else none
  ofJson_toJson item := by simp [Json.field, Json.get?_sortKeys, List.lookup_cons, item.few, item.unique]

instance : Codec ClarificationRequest where
  toJson request := .obj
    [("type", .str "clarification_request"), ("conversation_id", toJson request.conversation_id),
      ("request_id", toJson request.request_id), ("items", toJson request.items)]
  ofJson j := do
    let type : String ← j.field "type"
    let conversation_id ← j.field "conversation_id"
    let request_id ← j.field "request_id"
    let items : List ClarificationItem ← j.field "items"
    if h : type = "clarification_request" ∧ (1 ≤ items.length ∧ items.length ≤ 8) ∧
        (items.map ClarificationItem.slot).Nodup then
      some ⟨conversation_id, request_id, items, h.2.1, h.2.2⟩
    else none
  ofJson_toJson request := by
    simp [Json.field, Json.get?_sortKeys, List.lookup_cons, request.size, request.unique]

instance : Codec EvidenceKind where
  toJson kind := .str kind.value
  ofJson := enumOfJson EvidenceKind.value [.knowledge, .query, .reconciliation, .operation]
  ofJson_toJson kind := by cases kind <;> rfl

instance : Codec InvestigationEvidence where
  toJson item := .obj
    [("evidence_id", toJson item.evidence_id), ("kind", toJson item.kind), ("summary", toJson item.summary),
      ("digest", toJson item.digest)]
  ofJson j := do
    let evidence_id ← j.field "evidence_id"
    let kind ← j.field "kind"
    let summary ← j.field "summary"
    let digest ← j.field "digest"
    return { evidence_id, kind, summary, digest }
  ofJson_toJson item := by simp [Json.field, Json.get?_sortKeys, List.lookup_cons]

instance : Codec InvestigationClaim where
  toJson claim := .obj
    [("claim_id", toJson claim.claim_id), ("text", toJson claim.text), ("evidence_refs", toJson claim.evidence_refs)]
  ofJson j := do
    let claim_id ← j.field "claim_id"
    let text ← j.field "text"
    let evidence_refs : List String ← j.field "evidence_refs"
    if h : 1 ≤ evidence_refs.length ∧ evidence_refs.length ≤ 32 then some ⟨claim_id, text, evidence_refs, h⟩ else none
  ofJson_toJson claim := by simp [Json.field, Json.get?_sortKeys, List.lookup_cons, claim.size]

instance : Codec InvestigationLimitation where
  toJson limitation := .obj [("code", toJson limitation.code), ("summary", toJson limitation.summary)]
  ofJson j := do
    let code ← j.field "code"
    let summary ← j.field "summary"
    return { code, summary }
  ofJson_toJson limitation := by simp [Json.field, Json.get?_sortKeys, List.lookup_cons]

instance : Codec SensitivityComparison where
  toJson comparison := .obj
    [("all_sellers_evidence_ref", toJson comparison.all_sellers_evidence_ref),
      ("selected_risk_evidence_ref", toJson comparison.selected_risk_evidence_ref),
      ("summary", toJson comparison.summary)]
  ofJson j := do
    let all_sellers_evidence_ref ← j.field "all_sellers_evidence_ref"
    let selected_risk_evidence_ref ← j.field "selected_risk_evidence_ref"
    let summary ← j.field "summary"
    return { all_sellers_evidence_ref, selected_risk_evidence_ref, summary }
  ofJson_toJson comparison := by simp [Json.field, Json.get?_sortKeys, List.lookup_cons]

instance : NeverNull SensitivityComparison where
  ne_null _ := Json.noConfusion

instance : Codec ProposalRef where
  toJson ref := .obj [("proposal_id", toJson ref.proposal_id), ("version", toJson ref.version)]
  ofJson j := do
    let proposal_id ← j.field "proposal_id"
    let version : ℕ ← j.field "version"
    if h : 1 ≤ version then some ⟨proposal_id, version, h⟩ else none
  ofJson_toJson ref := by simp [Json.field, Json.get?_sortKeys, List.lookup_cons, ref.positive]

instance : Codec InvestigationReport where
  toJson report := .obj
    [("type", .str "investigation_report"), ("conversation_id", toJson report.conversation_id),
      ("report_id", toJson report.report_id), ("claims", toJson report.claims),
      ("available_evidence", toJson report.available_evidence), ("limitations", toJson report.limitations),
      ("reconciliation_refs", toJson report.reconciliation_refs), ("proposal_refs", toJson report.proposal_refs),
      ("selected_risk_status", toJson report.selected_risk_status),
      ("sensitivity_comparison", toJson report.sensitivity_comparison)]
  ofJson j := do
    let type : String ← j.field "type"
    let conversation_id ← j.field "conversation_id"
    let report_id ← j.field "report_id"
    let claims ← j.field "claims"
    let available_evidence ← j.field "available_evidence"
    let limitations ← j.field "limitations"
    let reconciliation_refs ← j.field "reconciliation_refs"
    let proposal_refs ← j.field "proposal_refs"
    let selected_risk_status ← j.field "selected_risk_status"
    let sensitivity_comparison ← j.field "sensitivity_comparison"
    let fields : ReportFields :=
      { conversation_id, report_id, claims, available_evidence, limitations, reconciliation_refs, proposal_refs,
        selected_risk_status, sensitivity_comparison }
    if h : type = "investigation_report" ∧ fields.Valid then some ⟨fields, h.2⟩ else none
  ofJson_toJson report := by
    simp [Json.field, Json.get?_sortKeys, List.lookup_cons, report.valid]

/-- `value.model_dump_json()`, up to the order of the keys. -/
def model_dump_json {α : Type} [Codec α] (value : α) : String := (toJson value).dumps

/-- `Model.model_validate_json(text)`, for a text that a dump wrote. -/
def model_validate_json {α : Type} [Codec α] (text : String) : Option α := (Json.loads text).bind ofJson

@[simp] theorem model_validate_dump {α : Type} [Codec α] (value : α) :
    model_validate_json (model_dump_json value) = some value := by
  unfold model_validate_json model_dump_json
  rw [Json.loads_dumps, Option.bind_some, Codec.ofJson_toJson]

end CommerceAgent.Orchestration
