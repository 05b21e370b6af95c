import CommerceAgent.Knowledge.Catalog
import CommerceAgent.Lib.Session
import CommerceAgent.Orchestration.RetailGraph
import CommerceAgent.ValueResolver.Resolver

/-!
# The retail tools

`RetailToolDispatcher.execute` as a call of operations on the knowledge, the resolver of business values, the
query engine and the operation workflow.
-/

open CommerceAgent.Lib
open CommerceAgent.Lib.Flow (Conducts Protocol onOk)
open CommerceAgent.Operations (UUID Text Code Name HexDigest Checked ProposalRef ActorContext EvidenceRef
  OperationCommand ProposeRequest)
open CommerceAgent.Knowledge (KnowledgeBundle KnowledgeEvidence KnowledgeKind)
open CommerceAgent.ValueResolver (ValueDomain ValueResolutionRequest ValueResolutionResult ValueCandidate
  ResolutionStatus MatchMethod Confidence)

namespace CommerceAgent.Orchestration

/-! ## The tools -/

inductive RetailTool where
  | retrieve_retail_knowledge
  | resolve_business_value
  | execute_readonly_sql
  | request_clarification
  | submit_investigation_plan
  | submit_sql_candidate
  | propose_operation
  | submit_investigation_report
  deriving DecidableEq, Repr

namespace RetailTool

def name : RetailTool → String
  | retrieve_retail_knowledge => "retrieve_retail_knowledge"
  | resolve_business_value => "resolve_business_value"
  | execute_readonly_sql => "execute_readonly_sql"
  | request_clarification => "request_clarification"
  | submit_investigation_plan => "submit_investigation_plan"
  | submit_sql_candidate => "submit_sql_candidate"
  | propose_operation => "propose_operation"
  | submit_investigation_report => "submit_investigation_report"

def all : List RetailTool :=
  [retrieve_retail_knowledge, resolve_business_value, execute_readonly_sql, request_clarification,
    submit_investigation_plan, submit_sql_candidate, propose_operation, submit_investigation_report]

/-- The tool of a name, if there is one. -/
def ofName? (name : String) : Option RetailTool := all.find? fun tool => tool.name = name

theorem mem_all (tool : RetailTool) : tool ∈ all := by
  cases tool <;> decide

theorem name_injective : Function.Injective name := by
  have hall : ∀ a ∈ all, ∀ b ∈ all, a.name = b.name → a = b := by decide
  exact fun a b h => hall a (mem_all a) b (mem_all b) h

theorem ofName?_eq {name : String} {tool : RetailTool} (h : ofName? name = some tool) : tool.name = name := by
  have hfound := List.find?_some h
  exact of_decide_eq_true hfound

end RetailTool

/-- `_STEP_TOOLS[step]`, unless it raises. -/
def step_tools : PromptStep → Option (List RetailTool)
  | .retail_decide =>
    some [.retrieve_retail_knowledge, .resolve_business_value, .request_clarification, .submit_investigation_plan]
  | .retail_clarify => some [.request_clarification]
  | .retail_sql_generate | .retail_sql_repair => some [.submit_sql_candidate]
  | .retail_report => some [.propose_operation, .submit_investigation_report]
  | .bird_a_act | .bird_c_respond => none

/-! ## Results -/

/-- A `ToolResult`, with the class of its error. -/
structure RetailToolResult extends ToolResult where
  error_class : Option (Text 1 128)
  classed : status = .success ↔ error_class = none

/-- A `RuntimeError` of a port, by its class and its code. -/
structure PortError where
  error_class : Text 1 128
  reason_code : String

/-- What a port raises: an error that the tool reports, an infrastructure error, or another. -/
inductive PortFailure where
  | reported (error : PortError)
  | infrastructure (reason_code : String)
  | raised (error : Raised)

/-- An `ExplainSummary`. -/
structure Explained where
  total_cost : ℚ
  plan_rows : ℕ

/-- A `QueryResult`, with the fields that only its dump tells. -/
structure QueryTable extends QueryResult where
  explain : Option Explained
  truncated : Bool

/-- A snapshot of the workflow, with its dump. -/
structure SnapshotDump where
  proposal_ref : ProposalRef
  status : String
  dump : Value

inductive ToolOp where
  | retrieve (question : Text 1 4000)
  | resolve (request : ValueResolutionRequest)
  | execute_sql (sql : Text 1 100000)
  | propose (request : ProposeRequest)

abbrev ToolAns : ToolOp → Type
  | .retrieve _ => Except PortFailure (KnowledgeBundle Value)
  | .resolve _ => Except PortFailure ValueResolutionResult
  | .execute_sql _ => Except PortFailure QueryTable
  | .propose _ => Except Raised SnapshotDump

/-- A call of the dispatcher: it returns or raises. -/
abbrev ToolFlow (α : Type) := Flow ToolOp ToolAns (Except Raised α)

/-! ## The dispatcher -/

/-- A value that a tool call submits, with its evidence references and its dump. -/
structure Submitted (α : Type) where
  value : α
  evidence_refs : List String
  dump : Value

/-- A `RetailToolDispatcher`, with all its ports. -/
structure RetailTools extends RetailToolDispatcher where
  knowledge : Bool
  resolver : Bool
  query_engine : Bool
  /-- `text.casefold()`. -/
  casefold : String → String
  /-- `ClarificationRequest.model_validate_json(text)`, of the value that the text holds, unless it raises. -/
  clarification : Value → Option (Submitted ClarificationRequest)
  /-- `InvestigationPlan.model_validate_json(text)`. -/
  plan : Value → Option (Submitted InvestigationPlan)
  /-- `_SubmittedSqlArguments.model_validate_json(text)`, by its step. -/
  sql_candidate : Value → Option (Submitted (Name 1 127))
  /-- `InvestigationReport.model_validate_json(text)`. -/
  report : Value → Option (Submitted InvestigationReport)
  /-- `_ProposeOperationArguments.model_validate_json(text)`. -/
  proposal : Value → Option ProposeArguments

/-! ### Arguments -/

/-- A field of an object without other fields than those named. -/
def Value.text_field? (value : Value) (names : List String) (name : String) : Option String :=
  match value with
  | .obj fields =>
    if fields.all fun field => field.1 ∈ names then
      match fields.lookup name with
      | some (.str text) => some text
      | _ => none
    else none
  | _ => none

def knowledge_arguments (value : Value) : Option (Text 1 4000) :=
  (value.text_field? ["question"] "question").bind Checked.parse

def value_domains : List ValueDomain :=
  [.customer_state, .seller_state, .order_status, .payment_type, .product_category, .customer_city, .seller_city,
    .seller_id, .order_id]

def resolve_arguments (value : Value) : Option (ValueDomain × Text 1 256) := do
  let domain ← value.text_field? ["domain", "raw_text"] "domain"
  let raw_text ← value.text_field? ["domain", "raw_text"] "raw_text"
  return (← value_domains.find? fun known => known.value = domain, ← Checked.parse raw_text)

def sql_arguments (value : Value) : Option (Text 1 100000) :=
  (value.text_field? ["sql"] "sql").bind Checked.parse

section

variable (library : Library)

def parse_arguments {α : Type} (model : Value → Option α) (call : ToolCall) : Except Raised α :=
  match library.loads call.arguments_json.text with
  | none => .error (ToolContractError "malformed_arguments_json")
  | some value =>
    match model value with
    | none => .error (ToolContractError "invalid_tool_arguments")
    | some arguments => .ok arguments

/-! ### Building results -/

def MAX_RESULT_BYTES : ℕ := 65536

def content_digest (content : Value) : HexDigest := library.sha256 (library.canonical_json content)

/-- The text of a summary, with the digest of the content. -/
def summary_json (content : Value) (summary : List (String × Value)) : String :=
  library.canonical_json (.obj (summary ++ [("content_sha256", .str (content_digest library content).text)]))

/-- `_result(call, content, summary, source_refs)`. -/
def tool_result (call : ToolCall) (content : Value) (summary : List (String × Value)) (source_refs : List String) :
    Except Raised RetailToolResult :=
  if MAX_RESULT_BYTES < (library.canonical_json content).utf8ByteSize then
    .error (ToolContractError "tool_result_too_large")
  else
    match (Checked.parse (library.canonical_json content) : Option (Text 1 262144)),
      (Checked.parse (summary_json library content summary) : Option (Text 1 16384)) with
    | some content_json, some deterministic_summary => .ok {
        call_id := call.call_id
        name := call.name
        status := .success
        content_json := content_json
        deterministic_summary := deterministic_summary
        content_sha256 := content_digest library content
        source_refs := source_refs
        error_class := none
        classed := ⟨fun _ => rfl, fun _ => rfl⟩ }
    | _, _ => .error ValidationError

def error_content (error : PortError) : List (String × Value) :=
  [("reason_code", .str error.reason_code), ("status", .str "error")]

def error_result (call : ToolCall) (error : PortError) : Except Raised RetailToolResult :=
  match (Checked.parse (library.canonical_json (.obj (error_content error))) : Option (Text 1 262144)),
    (Checked.parse (summary_json library (.obj (error_content error)) (error_content error)) : Option (Text 1 16384))
      with
  | some content_json, some deterministic_summary => .ok {
      call_id := call.call_id
      name := call.name
      status := .error
      content_json := content_json
      deterministic_summary := deterministic_summary
      content_sha256 := content_digest library (.obj (error_content error))
      source_refs := []
      error_class := some error.error_class
      classed := ⟨nofun, nofun⟩ }
  | _, _ => .error ValidationError

/-- A port's answer, as a result of the tool. -/
def answer_result {α : Type} (call : ToolCall) (present : α → Except Raised RetailToolResult) :
    Except PortFailure α → ToolFlow RetailToolResult
  | .ok value => .done (present value)
  | .error (.reported error) => .done (error_result library call error)
  | .error (.infrastructure reason_code) => .done (.error (ToolInfrastructureError reason_code))
  | .error (.raised error) => .done (.error error)

def kind_value : KnowledgeKind → String
  | .table => "table"
  | .column => "column"
  | .join => "join"
  | .metric => "metric"
  | .data_quality => "data_quality"
  | .permission => "permission"

def evidence_dump (item : KnowledgeEvidence Value) : Value := .obj
  [("doc_id", .str item.doc_id.text), ("revision", .str item.revision.text), ("kind", .str (kind_value item.kind)),
    ("title", .str item.title.text), ("content", item.content), ("source_type", .str item.source_type.text),
    ("source_path", .str item.source_path.text), ("source_sha256", .str item.source_sha256.text)]

/-- `bundle.model_dump(mode="json")`. -/
def bundle_dump (bundle : KnowledgeBundle Value) : Value := .obj
  [("catalog_revision", .str bundle.catalog_revision.text), ("catalog_sha256", .str bundle.catalog_sha256.text),
    ("strategy", .str "full_catalog"), ("evidence", .arr (bundle.evidence.map evidence_dump))]

def explain_dump : Option Explained → Value
  | none => .null
  | some explain => .obj [("total_cost", .float explain.total_cost), ("plan_rows", .int explain.plan_rows)]

/-- `query_result.model_dump(mode="json")`. -/
def table_dump (table : QueryTable) : Value := .obj
  [("columns", .arr (table.columns.map .str)), ("rows", .arr (table.rows.map .obj)),
    ("explain", explain_dump table.explain), ("truncated", .bool table.truncated),
    ("row_count", .int table.rows.length)]

def knowledge_result (call : ToolCall) (bundle : KnowledgeBundle Value) : Except Raised RetailToolResult :=
  tool_result library call (bundle_dump bundle)
    [("catalog_revision", .str bundle.catalog_revision.text), ("evidence_count", .int bundle.evidence.length),
      ("strategy", .str "full_catalog")]
    (bundle.evidence.map fun item => s!"knowledge:{item.doc_id.text}:{item.revision.text}")

def status_value : ResolutionStatus → String
  | .resolved => "resolved"
  | .ambiguous => "ambiguous"
  | .not_found => "not_found"
  | .too_broad => "too_broad"

def method_value : MatchMethod → String
  | .exact => "exact"
  | .normalized_exact => "normalized_exact"
  | .by_alias => "alias"
  | .prefix_match => "prefix"
  | .trigram => "trigram"

def confidence_value : Confidence → String
  | .high => "high"
  | .medium => "medium"
  | .low => "low"

def candidate_dump (candidate : ValueCandidate) : Value := .obj
  [("canonical_value", .str candidate.canonical_value), ("display_label", .str candidate.display_label),
    ("match_method", .str (method_value candidate.match_method)),
    ("confidence", .str (confidence_value candidate.confidence)), ("support_count", .int candidate.support_count),
    ("evidence_ref", .str candidate.evidence_ref)]

/-- `resolution.model_dump(mode="json")`. -/
def resolution_dump (resolution : ValueResolutionResult) : Value := .obj
  [("status", .str (status_value resolution.status)), ("domain", .str resolution.domain.value),
    ("normalized_input", .str resolution.normalized_input),
    ("candidates", .arr (resolution.candidates.map candidate_dump)),
    ("data_manifest_sha256", .str resolution.data_manifest_sha256.text),
    ("catalog_revision", .str resolution.catalog_revision.text)]

def resolution_result (call : ToolCall) (resolution : ValueResolutionResult) : Except Raised RetailToolResult :=
  tool_result library call (resolution_dump resolution)
    [("candidate_count", .int resolution.candidates.length),
      ("catalog_revision", .str resolution.catalog_revision.text),
      ("domain", .str resolution.domain.value), ("status", .str (status_value resolution.status))]
    (resolution.candidates.map ValueCandidate.evidence_ref)

end

def SENSITIVE_RESULT_COLUMNS : List String :=
  ["order_id", "customer_id", "customer_unique_id", "seller_id", "review_id", "review_comment_title",
    "review_comment_message"]

def SENSITIVE_RESULT_SUFFIXES : List String := ["_order_id", "_customer_id", "_seller_id"]

def is_sensitive (column : String) : Bool :=
  column ∈ SENSITIVE_RESULT_COLUMNS ||
    SENSITIVE_RESULT_SUFFIXES.any fun suffix => decide (suffix.toList <:+ column.toList)

namespace RetailTools

variable (library : Library) (tools : RetailTools)

def validate_query_result (table : QueryTable) : Except Raised Unit :=
  if ¬ (table.columns.map tools.casefold).Nodup then .error (ToolContractError "invalid_query_result_shape")
  else if (table.columns.map tools.casefold).any is_sensitive then .error (ToolContractError "sensitive_result_column")
  else if table.rows.any fun row => ¬ (row.map Prod.fst ⊆ table.columns ∧ table.columns ⊆ row.map Prod.fst) then
    .error (ToolContractError "invalid_query_result_shape")
  else .ok ()

def query_result (call : ToolCall) (sql : Text 1 100000) (table : QueryTable) : Except Raised RetailToolResult := do
  tools.validate_query_result table
  tool_result library call (table_dump table)
    [("columns", .arr (table.columns.map .str)), ("row_count", .int table.rows.length),
      ("truncated", .bool table.truncated)]
    [s!"query:{(library.sha256 sql.text).text}"]

def isHex (c : Char) : Bool := c.isDigit || ('a' ≤ c && c ≤ 'f')

/-- The form of a raw text that `validate_input` looks at. -/
def normalized (raw_text : Text 1 256) : String := tools.casefold (library.strip raw_text.text)

/-- `re.fullmatch(r"[0-9a-f]{1,32}", text)`. -/
def is_id (text : String) : Bool := 1 ≤ text.length && text.length ≤ 32 && text.toList.all isHex

/-- `ValueResolutionRequest(domain, raw_text)`, with `validate_input`. -/
def resolution_request (arguments : ValueDomain × Text 1 256) : Except Raised ValueResolutionRequest :=
  if tools.normalized library arguments.2 = "" then .error ValidationError
  else if arguments.1 ∈ [ValueDomain.seller_id, .order_id] ∧ ¬ is_id (tools.normalized library arguments.2) then
    .error ValidationError
  else .ok ⟨arguments.1, arguments.2⟩

/-! ### The branches -/

def retrieve_retail_knowledge (call : ToolCall) : ToolFlow RetailToolResult :=
  if tools.knowledge = false then .done (.error (ToolInfrastructureError "knowledge_unavailable"))
  else
    match parse_arguments library knowledge_arguments call with
    | .error e => .done (.error e)
    | .ok question => .ask (.retrieve question) <| answer_result library call (knowledge_result library call)

def resolve_business_value (call : ToolCall) : ToolFlow RetailToolResult :=
  if tools.resolver = false then .done (.error (ToolInfrastructureError "resolver_unavailable"))
  else
    match parse_arguments library resolve_arguments call with
    | .error e => .done (.error e)
    | .ok arguments =>
      match tools.resolution_request library arguments with
      | .error e => .done (.error e)
      | .ok request => .ask (.resolve request) <| answer_result library call (resolution_result library call)

def execute_readonly_sql (call : ToolCall) : ToolFlow RetailToolResult :=
  if tools.query_engine = false then .done (.error (ToolInfrastructureError "query_engine_unavailable"))
  else
    match parse_arguments library sql_arguments call with
    | .error e => .done (.error e)
    | .ok sql => .ask (.execute_sql sql) <| answer_result library call (tools.query_result library call sql)

/-- A tool that takes what the model submits: it is its own result. -/
def submit {α : Type} (model : Value → Option (Submitted α)) (summary : Submitted α → List (String × Value))
    (source_refs : Submitted α → List String) (call : ToolCall) : ToolFlow RetailToolResult :=
  .done do
    let submitted ← parse_arguments library model call
    tool_result library call submitted.dump (summary submitted) (source_refs submitted)

def request_clarification (call : ToolCall) : ToolFlow RetailToolResult :=
  submit library tools.clarification
    (fun submitted => [("item_count", .int submitted.value.items.length), ("status", .str "needs_input")])
      (fun _ => []) call

def submit_investigation_plan (call : ToolCall) : ToolFlow RetailToolResult :=
  submit library tools.plan
    (fun submitted => [("status", .str "accepted"), ("step_count", .int submitted.value.steps.length)])
    Submitted.evidence_refs call

def submit_sql_candidate (call : ToolCall) : ToolFlow RetailToolResult :=
  submit library tools.sql_candidate
    (fun submitted => [("status", .str "accepted"), ("step_id", .str submitted.value.text)]) Submitted.evidence_refs
      call

def submit_investigation_report (call : ToolCall) : ToolFlow RetailToolResult :=
  submit library tools.report
    (fun submitted => [("claim_count", .int submitted.value.claims.length), ("status", .str "completed")])
    (fun submitted => submitted.value.evidence_ids) call

def snapshot_result (call : ToolCall) (snapshot : SnapshotDump) : Except Raised RetailToolResult :=
  tool_result library call snapshot.dump [("proposal_status", .str snapshot.status), ("status", .str "accepted")]
    [RetailGraph.source_ref snapshot.proposal_ref]

def propose_operation (call : ToolCall) : ToolFlow RetailToolResult :=
  match tools.actor, tools.workflow with
  | some actor, true =>
    match parse_arguments library tools.proposal call with
    | .error e => .done (.error e)
    | .ok arguments =>
      match RetailGraph.propose_request actor arguments with
      | none => .done (.error ValidationError)
      | some request => .ask (.propose request) <| onOk fun snapshot => .done (snapshot_result library call snapshot)
  | _, _ => .done (.error (ToolInfrastructureError "operation_workflow_unavailable"))

def dispatch (call : ToolCall) : RetailTool → ToolFlow RetailToolResult
  | .retrieve_retail_knowledge => tools.retrieve_retail_knowledge library call
  | .resolve_business_value => tools.resolve_business_value library call
  | .execute_readonly_sql => tools.execute_readonly_sql library call
  | .request_clarification => tools.request_clarification library call
  | .submit_investigation_plan => tools.submit_investigation_plan library call
  | .submit_sql_candidate => tools.submit_sql_candidate library call
  | .propose_operation => tools.propose_operation library call
  | .submit_investigation_report => tools.submit_investigation_report library call

/-- The check of the step, if the call is made for one. -/
def allowed_for_step (call : ToolCall) : Option PromptStep → Except Raised Unit
  | none => .ok ()
  | some step =>
    match step_tools step with
    | none => .error (.exception "KeyError")
    | some names =>
      if call.name.text ∈ names.map RetailTool.name then .ok ()
      else .error (ToolContractError "tool_not_allowed_for_step")

/-- `execute(scope, attempt_id, call, step=step)`. -/
def execute (scope : RunScope) (call : ToolCall) (step : Option PromptStep) : ToolFlow RetailToolResult :=
  if (scope.track, scope.mode) ≠ (.retail, .retail) then .done (.error (ToolContractError "retail_scope_required"))
  else
    match allowed_for_step call step with
    | .error e => .done (.error e)
    | .ok () =>
      match RetailTool.ofName? call.name.text with
      | none => .done (.error (ToolContractError "unknown_tool"))
      | some tool => tools.dispatch library call tool

end RetailTools

/-! ## What a call comes to -/

/-- The errors that the dispatcher raises by itself. -/
def tool_refusals : List Raised :=
  [ToolContractError "retail_scope_required", ToolContractError "tool_not_allowed_for_step", .exception "KeyError",
    ToolContractError "unknown_tool", ToolContractError "malformed_arguments_json",
    ToolContractError "invalid_tool_arguments", ToolContractError "tool_result_too_large",
    ToolContractError "invalid_query_result_shape", ToolContractError "sensitive_result_column",
    ToolInfrastructureError "knowledge_unavailable", ToolInfrastructureError "resolver_unavailable",
    ToolInfrastructureError "query_engine_unavailable", ToolInfrastructureError "operation_workflow_unavailable",
    ValidationError]

def PortFailure.Raises : PortFailure → Raised → Prop
  | .reported _, _ => False
  | .infrastructure reason_code, e => e = ToolInfrastructureError reason_code
  | .raised error, e => e = error

/-- A port's answer raises an error of the tool. -/
def PortRaises : (op : ToolOp) → ToolAns op → Raised → Prop
  | .retrieve _, .error failure, e => failure.Raises e
  | .resolve _, .error failure, e => failure.Raises e
  | .execute_sql _, .error failure, e => failure.Raises e
  | .propose _, .error error, e => e = error
  | _, _, _ => False

/-- What a tool asks of its port. -/
def RetailTools.Uses (tools : RetailTools) : RetailTool → ToolOp → Prop
  | .retrieve_retail_knowledge, .retrieve _ => True
  | .resolve_business_value, .resolve _ => True
  | .execute_readonly_sql, .execute_sql _ => True
  | .propose_operation, .propose request => tools.actor = some request.actor
  | _, _ => False

/-- A table that may be shown: its columns are told apart whatever their case, none of them is sensitive, and each row
has exactly them. -/
structure RetailTools.Clean (tools : RetailTools) (table : QueryTable) : Prop where
  unique : (table.columns.map tools.casefold).Nodup
  harmless : ∀ column ∈ table.columns, is_sensitive (tools.casefold column) = false
  shaped : ∀ row ∈ table.rows, row.map Prod.fst ⊆ table.columns ∧ table.columns ⊆ row.map Prod.fst

/-- What a success tells: what the model submitted, or what the port answered. -/
inductive RetailTools.Tells (tools : RetailTools) : Log ToolOp ToolAns → Value → Prop
  | submitted (content : Value) : Tells tools [] content
  | knowledge (question : Text 1 4000) (bundle : KnowledgeBundle Value) :
    Tells tools [⟨.retrieve question, .ok bundle⟩] (bundle_dump bundle)
  | resolution (request : ValueResolutionRequest) (resolution : ValueResolutionResult) :
    Tells tools [⟨.resolve request, .ok resolution⟩] (resolution_dump resolution)
  | table (sql : Text 1 100000) (table : QueryTable) (hclean : tools.Clean table) :
    Tells tools [⟨.execute_sql sql, .ok table⟩] (table_dump table)
  | snapshot (request : ProposeRequest) (snapshot : SnapshotDump) :
    Tells tools [⟨.propose request, .ok snapshot⟩] snapshot.dump

/-- A port's answer is an error that the tool reports. -/
def PortReports : (op : ToolOp) → ToolAns op → PortError → Prop
  | .retrieve _, .error (.reported error), e => e = error
  | .resolve _, .error (.reported error), e => e = error
  | .execute_sql _, .error (.reported error), e => e = error
  | _, _, _ => False

/-- A result with a content: it names the call, and its digest is that of the content. -/
structure Holds (library : Library) (call : ToolCall) (result : RetailToolResult) (content : Value) : Prop where
  call_id : result.call_id = call.call_id
  name : result.name = call.name
  content : result.content_json.text = library.canonical_json content
  digest : result.content_sha256 = library.sha256 result.content_json.text

/-- A result of a call: within the limit it tells what was answered, or else the error that the port reported. -/
inductive Answers (library : Library) (tools : RetailTools) (call : ToolCall) (result : RetailToolResult) :
    Log ToolOp ToolAns → Prop
  | success {log : Log ToolOp ToolAns} (content : Value) (hstatus : result.status = .success)
    (hcontent : Holds library call result content) (htells : tools.Tells log content)
    (hsmall : result.content_json.text.utf8ByteSize ≤ MAX_RESULT_BYTES) : Answers library tools call result log
  | error (asked : Event ToolOp ToolAns) (error : PortError) (hstatus : result.status = .error)
    (hcontent : Holds library call result (.obj (error_content error)))
    (hreports : PortReports asked.op asked.answer error) (hclass : result.error_class = some error.error_class)
    (hsmall : result.content_json.text.length ≤ 262144) (hrefs : result.source_refs = []) :
    Answers library tools call result [asked]

/-- A result of the call, of what may be shown; or an error of the dispatcher's own or of a port that was asked. -/
def Settles (library : Library) (tools : RetailTools) (call : ToolCall) :
    Except Raised RetailToolResult → Log ToolOp ToolAns → Prop
  | .ok result, log => Answers library tools call result log
  | .error e, log => e ∈ tool_refusals ∨ ∃ asked, log = [asked] ∧ PortRaises asked.op asked.answer e

variable {library : Library} {tools : RetailTools} {call : ToolCall} {log : Log ToolOp ToolAns}

theorem parse_arguments_refused {α : Type} {model : Value → Option α} {e : Raised}
    (h : parse_arguments library model call = .error e) : e ∈ tool_refusals := by
  unfold parse_arguments at h
  split at h
  · cases h
    decide
  · split at h <;> cases h
    decide

theorem text_of_parse {ok : String → Bool} {text : String} {checked : Checked ok}
    (h : Checked.parse text = some checked) : checked.text = text := by
  unfold Checked.parse at h
  split at h
  · exact congrArg Checked.text (Option.some.inj h).symm
  · cases h

theorem tool_result_settles {content : Value} (htells : tools.Tells log content) (summary : List (String × Value))
    (source_refs : List String) :
    Settles library tools call (tool_result library call content summary source_refs) log := by
  unfold tool_result
  split_ifs with hsize
  · exact Or.inl (by decide)
  · split
    · rename_i content_json _ hcontent _
      have htext := text_of_parse hcontent
      exact Answers.success content rfl ⟨rfl, rfl, htext, congrArg library.sha256 htext.symm⟩ htells
        (htext ▸ not_lt.mp hsize)
    · exact Or.inl (by decide)

theorem error_result_settles {asked : Event ToolOp ToolAns} {error : PortError}
    (hreports : PortReports asked.op asked.answer error) :
    Settles library tools call (error_result library call error) [asked] := by
  unfold error_result
  split
  · rename_i content_json _ hcontent _
    have htext := text_of_parse hcontent
    have hpasses := content_json.passes
    rw [Bool.and_eq_true, decide_eq_true_eq, decide_eq_true_eq] at hpasses
    exact Answers.error asked error rfl ⟨rfl, rfl, htext, congrArg library.sha256 htext.symm⟩ hreports rfl hpasses.2 rfl
  · exact Or.inl (by decide)

theorem validate_query_result_ok {table : QueryTable} (h : tools.validate_query_result table = .ok ()) :
    tools.Clean table := by
  unfold RetailTools.validate_query_result at h
  split_ifs at h with hunique hharmless hshaped
  refine ⟨hunique, fun column hcolumn => ?_, fun row hrow => ?_⟩
  · by_contra hsensitive
    exact hharmless (List.any_eq_true.mpr ⟨_, List.mem_map_of_mem hcolumn, Bool.eq_true_of_not_eq_false hsensitive⟩)
  · by_contra hrow'
    exact hshaped (List.any_eq_true.mpr ⟨row, hrow, decide_eq_true hrow'⟩)

theorem validate_query_result_error {table : QueryTable} {e : Raised}
    (h : tools.validate_query_result table = .error e) : e ∈ tool_refusals := by
  unfold RetailTools.validate_query_result at h
  split_ifs at h <;> cases h <;> decide

theorem query_result_settles (sql : Text 1 100000) (table : QueryTable) :
    Settles library tools call (tools.query_result library call sql table) [⟨.execute_sql sql, .ok table⟩] := by
  unfold RetailTools.query_result
  cases hvalid : tools.validate_query_result table with
  | ok _ => exact tool_result_settles (.table sql table (validate_query_result_ok hvalid)) _ _
  | error e => exact Or.inl (validate_query_result_error hvalid)

theorem propose_actor {actor : ActorContext} {arguments : ProposeArguments} {request : ProposeRequest}
    (h : RetailGraph.propose_request actor arguments = some request) : request.actor = actor := by
  unfold RetailGraph.propose_request at h
  obtain ⟨key, -, h⟩ := Option.bind_eq_some_iff.mp h
  split at h
  · exact congrArg ProposeRequest.actor (Option.some.inj h).symm
  · cases h

/-- The protocol of one tool: one operation, of its own port. -/
def RetailTools.once (tools : RetailTools) (tool : RetailTool) :
    Protocol ToolOp ToolAns (Log ToolOp ToolAns) := .logged fun log op => log = [] ∧ tools.Uses tool op

variable {tool : RetailTool}

theorem answer_result_conducts {α : Type} {present : α → Except Raised RetailToolResult} {asked : Event ToolOp ToolAns}
    {answer : Except PortFailure α}
    (hpresent : ∀ a, answer = .ok a → Settles library tools call (present a) [asked])
    (hreports : ∀ error, answer = .error (.reported error) → PortReports asked.op asked.answer error)
    (hraises : ∀ failure, answer = .error failure → ∀ e, failure.Raises e → PortRaises asked.op asked.answer e) :
    (answer_result library call present answer).Conducts (tools.once tool) (Settles library tools call) [asked] := by
  cases answer with
  | ok a => exact Conducts.done (hpresent a rfl)
  | error failure =>
    cases failure with
    | reported error => exact Conducts.done (error_result_settles (hreports error rfl))
    | infrastructure reason_code => exact Conducts.done (Or.inr ⟨asked, rfl, hraises _ rfl _ rfl⟩)
    | raised error => exact Conducts.done (Or.inr ⟨asked, rfl, hraises _ rfl _ rfl⟩)

theorem refuses {e : Raised} (h : e ∈ tool_refusals) :
    (Flow.done (.error e) : ToolFlow RetailToolResult).Conducts (tools.once tool) (Settles library tools call) log :=
  Conducts.done (Or.inl h)

theorem submit_conducts {α : Type} (model : Value → Option (Submitted α))
    (summary : Submitted α → List (String × Value)) (source_refs : Submitted α → List String) :
    (RetailTools.submit library model summary source_refs call).Conducts (tools.once tool)
      (Settles library tools call) [] := by
  refine Conducts.done ?_
  cases hparse : parse_arguments library model call with
  | error e => exact Or.inl (parse_arguments_refused hparse)
  | ok submitted => exact tool_result_settles (.submitted submitted.dump) _ _

theorem retrieve_conducts : (tools.retrieve_retail_knowledge library call).Conducts
    (tools.once .retrieve_retail_knowledge) (Settles library tools call) [] := by
  unfold RetailTools.retrieve_retail_knowledge
  split_ifs
  · exact refuses (by decide)
  · split
    · rename_i e hparse
      exact refuses (parse_arguments_refused hparse)
    · refine Conducts.ask ⟨rfl, trivial⟩ fun answer _ => answer_result_conducts ?_ ?_ ?_
      · rintro bundle rfl
        exact tool_result_settles (.knowledge _ bundle) _ _
      · rintro error rfl
        exact rfl
      · rintro failure rfl e hraises
        exact hraises

theorem resolve_conducts : (tools.resolve_business_value library call).Conducts (tools.once .resolve_business_value)
    (Settles library tools call) [] := by
  unfold RetailTools.resolve_business_value
  split_ifs
  · exact refuses (by decide)
  · split
    · rename_i e hparse
      exact refuses (parse_arguments_refused hparse)
    · split
      · rename_i e hrequest
        refine refuses ?_
        unfold RetailTools.resolution_request at hrequest
        split_ifs at hrequest <;> cases hrequest <;> decide
      · refine Conducts.ask ⟨rfl, trivial⟩ fun answer _ => answer_result_conducts ?_ ?_ ?_
        · rintro resolution rfl
          exact tool_result_settles (.resolution _ resolution) _ _
        · rintro error rfl
          exact rfl
        · rintro failure rfl e hraises
          exact hraises

theorem execute_sql_conducts : (tools.execute_readonly_sql library call).Conducts (tools.once .execute_readonly_sql)
    (Settles library tools call) [] := by
  unfold RetailTools.execute_readonly_sql
  split_ifs
  · exact refuses (by decide)
  · split
    · rename_i e hparse
      exact refuses (parse_arguments_refused hparse)
    · refine Conducts.ask ⟨rfl, trivial⟩ fun answer _ => answer_result_conducts ?_ ?_ ?_
      · rintro table rfl
        exact query_result_settles _ table
      · rintro error rfl
        exact rfl
      · rintro failure rfl e hraises
        exact hraises

theorem propose_conducts : (tools.propose_operation library call).Conducts (tools.once .propose_operation)
    (Settles library tools call) [] := by
  unfold RetailTools.propose_operation
  split
  · rename_i actor hactor hworkflow
    split
    · rename_i e hparse
      exact refuses (parse_arguments_refused hparse)
    · split
      · exact refuses (by decide)
      · rename_i arguments _ request hrequest
        have hown : tools.actor = some request.actor := by rw [hactor, propose_actor hrequest]
        refine Conducts.ask ⟨rfl, hown⟩ fun answer _ => ?_
        cases answer with
        | ok snapshot =>
          exact Conducts.done (tool_result_settles (.snapshot request snapshot) _ _)
        | error e => exact Conducts.done (Or.inr ⟨_, rfl, rfl⟩)
  · exact refuses (by decide)

theorem dispatch_conducts (tool : RetailTool) :
    (tools.dispatch library call tool).Conducts (tools.once tool) (Settles library tools call) [] := by
  cases tool with
  | retrieve_retail_knowledge => exact retrieve_conducts
  | resolve_business_value => exact resolve_conducts
  | execute_readonly_sql => exact execute_sql_conducts
  | propose_operation => exact propose_conducts
  | request_clarification => exact submit_conducts _ _ _
  | submit_investigation_plan => exact submit_conducts _ _ _
  | submit_sql_candidate => exact submit_conducts _ _ _
  | submit_investigation_report => exact submit_conducts _ _ _

/-- What a call may ask: one operation, of the port of the tool that it names, on the retail track and where the step
has the tool. -/
def RetailTools.Asks (tools : RetailTools) (scope : RunScope) (call : ToolCall) (step : Option PromptStep)
    (log : Log ToolOp ToolAns) (op : ToolOp) : Prop :=
  log = [] ∧ (scope.track, scope.mode) = (.retail, .retail) ∧ ∃ tool : RetailTool, tool.name = call.name.text ∧
    (∀ named ∈ step, ∃ known, step_tools named = some known ∧ tool ∈ known) ∧ tools.Uses tool op

theorem allowed_for_step_ok {step : Option PromptStep} (h : RetailTools.allowed_for_step call step = .ok ())
    (hname : tool.name = call.name.text) : ∀ named ∈ step, ∃ known, step_tools named = some known ∧ tool ∈ known := by
  rintro named ⟨⟩
  unfold RetailTools.allowed_for_step at h
  dsimp only at h
  split at h
  · cases h
  · rename_i known hknown
    split_ifs at h with hmem
    obtain ⟨other, hother, hsame⟩ := List.mem_map.mp hmem
    exact ⟨known, hknown, RetailTool.name_injective (hname.trans hsame.symm) ▸ hother⟩

theorem allowed_for_step_error {step : Option PromptStep} {e : Raised}
    (h : RetailTools.allowed_for_step call step = .error e) : e ∈ tool_refusals := by
  unfold RetailTools.allowed_for_step at h
  split at h
  · cases h
  · split at h
    · cases h
      decide
    · split_ifs at h
      cases h
      decide

theorem execute_conducts (scope : RunScope) (step : Option PromptStep) :
    (tools.execute library scope call step).Conducts (.logged (tools.Asks scope call step)) (Settles library tools call)
      [] := by
  unfold RetailTools.execute
  split_ifs with hscope
  · exact Conducts.done (Or.inl (by decide))
  · split
    · rename_i e hstep
      exact Conducts.done (Or.inl (allowed_for_step_error hstep))
    · rename_i hstep
      split
      · exact Conducts.done (Or.inl (by decide))
      · rename_i tool htool
        have hname := RetailTool.ofName?_eq htool
        exact (dispatch_conducts tool).weaken fun log op h =>
          ⟨h.1, not_not.mp hscope, tool, hname, allowed_for_step_ok hstep hname, h.2⟩

end CommerceAgent.Orchestration
