import CommerceAgent.Lib.Play
import CommerceAgent.Orchestration.RetailContracts

/-!
# The scenario driver

`ProductScenarioDriver.run` as a flow of operations on its ports: the reset, the retail graph, the actors, the operation
workflow and the query engine.
-/

open CommerceAgent.Lib
open CommerceAgent.Operations (UUID Text Code HexDigest Checked ProposalRef ActorContext Decision DecisionRequest
  DecisionReceipt ExecuteRequest ExecutionReceipt ExecutionGrant)
open CommerceAgent.Orchestration
  (ClarificationSlot ContextDatum DatumKind DataNamespace RetailRunRequest RetailRunOutcome
  RetailRunStatus InvestigationReport QueryResult RunScope)

namespace CommerceAgent.ProductEval

/-! ## Contracts -/

structure ScriptedClarification where
  slot : ClarificationSlot
  response : Text 1 1000

inductive StepAction where
  | approve_execute
  | reject
  deriving DecidableEq, Repr

structure ScenarioActorStep where
  action : StepAction
  actor_ref : String
  proposal_index : ℕ
  deriving DecidableEq

inductive ExpectedStatus where
  | succeeded
  | rejected
  deriving DecidableEq, Repr

structure OperationExpectation where
  command_type : String
  terminal_status : ExpectedStatus
  count : ℕ

structure ReadbackExpectation where
  sql : String
  expected_columns : List String
  minimum_rows : ℕ

structure ScenarioCheck where
  name : Code 2 127
  passed : Bool
  reason_code : Code 2 127

/-- What the driver reads of a scenario. -/
structure ProductScenario where
  scenario_id : String
  fixture_revision : String
  initial_question : Text 1 4000
  scripted_clarifications : List ScriptedClarification
  actor_steps : List ScenarioActorStep
  reset_manifest_revision : String
  required_clarification_slots : List ClarificationSlot
  forbidden_clarification_slots : List ClarificationSlot
  evidence_ids : List String
  operation_expectations : List OperationExpectation
  readback_expectations : List ReadbackExpectation
  audit_counts : List ℕ
  expected_terminal_status : RetailRunStatus
  unique : (scripted_clarifications.map ScriptedClarification.slot).Nodup
  terminal : expected_terminal_status ≠ .needs_input

inductive ScenarioStatus where
  | passed
  | failed
  deriving DecidableEq, Repr

structure ProductScenarioResult where
  scenario_id : String
  status : ScenarioStatus
  checks : List ScenarioCheck
  asked_slots : List ClarificationSlot
  invalid_clarification_count : ℕ
  silent_default_count : ℕ
  proposal_count : ℕ
  approval_count : ℕ
  execution_count : ℕ
  audit_event_count : ℕ
  readback_count : ℕ
  successful_business_write_count : ℕ
  unauthorized_business_write_count : ℕ
  successful_execution_audit_count : ℕ
  sensitivity_comparison_present : Bool
  claims : List String
  unique_proposal_count : ℕ
  unique_business_write_count : ℕ
  duplicate_audit_count : ℕ
  /-- `validate_status`. -/
  sound : status = .passed → ∀ check ∈ checks, check.passed = true

/-! ## The ports -/

/-- What a port raises: an `Exception`, or a cancellation, which is none. -/
inductive PortError where
  | exception (name : String)
  | cancelled
  deriving DecidableEq

def ValidationError : PortError := .exception "ValidationError"

inductive PortOp where
  | reset (scenario_id manifest_revision : String)
  | graph (request : RetailRunRequest)
  | resolve (actor_ref : String)
  | decide (request : DecisionRequest)
  | execute (request : ExecuteRequest)
  | query (sql : String)

abbrev PortAns : PortOp → Type
  | .reset .. => Except PortError Unit
  | .graph _ => Except PortError RetailRunOutcome
  | .resolve _ => Except PortError ActorContext
  | .decide _ => Except PortError DecisionReceipt
  | .execute _ => Except PortError ExecutionReceipt
  | .query _ => Except PortError QueryResult

abbrev PortCall (α : Type) := Flow PortOp PortAns (Except PortError α)

/-- Goes on with a value; what is raised ends the call. -/
def awaited {α β : Type} (k : α → PortCall β) : Except PortError α → PortCall β
  | .ok a => k a
  | .error e => .done (.error e)

/-! ## The run -/

/-- What the driver takes from the standard library. -/
structure DriverLibrary where
  /-- `uuid5(NAMESPACE_URL, name)`. -/
  uuid5 : String → UUID
  /-- `sha256(text.encode()).hexdigest()`. -/
  sha256 : String → HexDigest
  config_hash : HexDigest

/-- A text within wider bounds. -/
def content (hi : ℕ) (text : Text 1 hi) (h : hi ≤ 262144) : Text 1 262144 where
  text := text.text
  passes := by
    obtain ⟨hlo, hhi⟩ := Bool.and_eq_true_iff.mp text.passes
    exact Bool.and_eq_true_iff.mpr ⟨hlo, decide_eq_true ((of_decide_eq_true hhi).trans h)⟩

/-- Where a datum comes from: the question, or the answer to a slot. -/
inductive Source where
  | initial_question
  | slot (slot : ClarificationSlot)

/-- `f"scenario:{source}"`. -/
def Source.ref : Source → Text 1 512
  | .initial_question => ⟨"scenario:initial_question", by decide⟩
  | .slot asked => ⟨"scenario:" ++ asked.value, by cases asked <;> decide⟩

section Driver

variable (library : DriverLibrary)

def datum (source : Source) (content : Text 1 262144) : ContextDatum where
  kind := match source with
    | .initial_question => .user_input
    | .slot _ => .confirmed_fact
  name_space := match source with
    | .initial_question => .user_input
    | .slot _ => .confirmed_fact
  source_ref := source.ref
  revision := none
  content := content
  digest := library.sha256 content.text

variable (scenario : ProductScenario)

theorem retail_track : (Orchestration.Track.retail, Orchestration.Mode.retail) ∈
    [(.retail, .retail), (.bird, .a), (.bird, .c)] := List.mem_cons_self

/-- `_request(scenario, attempt_number, confirmed)`: it raises when a name is too long for a scope. -/
def request (attempt_number : ℕ) (confirmed : List ContextDatum) : Except PortError RetailRunRequest :=
  match Checked.parse scenario.scenario_id, Checked.parse scenario.fixture_revision with
  | some subject_id, some experiment_id => .ok
    { run_scope :=
        { run_id := library.uuid5 s!"scenario:{scenario.scenario_id}"
          track := .retail
          mode := .retail
          subject_id := subject_id
          experiment_id := experiment_id
          config_hash := library.config_hash
          same_track := retail_track }
      attempt_id := library.uuid5 s!"scenario:{scenario.scenario_id}:attempt:{attempt_number}"
      current_input := datum library .initial_question (content 4000 scenario.initial_question (by decide))
      confirmed_facts := confirmed
      evidence := []
      latest_error := none
      retail := rfl }
  | _, _ => .error ValidationError

def unanswered : Text 1 262144 := ⟨"无法提供更多信息", by decide⟩

/-- `scripted.get(slot)`. -/
def scripted_response (slot : ClarificationSlot) : Option (Text 1 262144) :=
  (scenario.scripted_clarifications.find? fun item => item.slot = slot).map fun item =>
    content 1000 item.response (by decide)

/-- The answer to a slot, as a confirmed fact. -/
def answer (slot : ClarificationSlot) : ContextDatum :=
  datum library (.slot slot) ((scripted_response scenario slot).getD unanswered)

/-- The slots that an outcome asks for. -/
def asked_of (outcome : RetailRunOutcome) : Option (List ClarificationSlot) :=
  match outcome.status, outcome.terminal with
  | .needs_input, some (.clarification clarification) => some (clarification.items.map (·.slot))
  | _, _ => none

/-- The loop over the attempts: the last outcome, and the slots that were asked. -/
def converse : (attempts : List ℕ) → Option RetailRunOutcome → (asked : List ClarificationSlot) →
    PortCall (RetailRunOutcome × List ClarificationSlot)
  | [], none, _ => .done (.error (.exception "AssertionError"))
  | [], some outcome, asked => .done (.ok (outcome, asked))
  | attempt_number :: attempts, _, asked =>
    awaited (fun request => .ask (.graph request) <| awaited fun outcome =>
      (asked_of outcome).elim (.done (.ok (outcome, asked))) fun slots =>
        converse attempts (some outcome) (asked ++ slots))
      (request library scenario attempt_number (asked.map (answer library scenario)))

def report_of (outcome : RetailRunOutcome) : Option InvestigationReport :=
  match outcome.terminal with
  | some (.report report) => some report
  | _ => none

def proposal_refs (outcome : RetailRunOutcome) : List ProposalRef :=
  (report_of outcome).elim [] fun report => report.proposal_refs

def StepAction.decision : StepAction → Decision
  | .approve_execute => .approve
  | .reject => .reject

def reviewed : Option (Text 1 1000) := some ⟨"scenario reviewed evidence", by decide⟩

/-- What the steps of the actors came to. -/
structure Acted where
  decisions : List DecisionReceipt
  receipts : List ExecutionReceipt

/-- The loop over `scenario.actor_steps`. -/
def act_steps (refs : List ProposalRef) : List ScenarioActorStep → Acted → PortCall Acted
  | [], acted => .done (.ok acted)
  | step :: steps, acted =>
    match refs[step.proposal_index]? with
    | none => act_steps refs steps acted
    | some proposal_ref =>
      .ask (.resolve step.actor_ref) <| awaited fun actor =>
      .ask (.decide ⟨actor, proposal_ref, step.action.decision, reviewed⟩) <| awaited fun decision =>
      let acted := { acted with decisions := acted.decisions ++ [decision] }
      match step.action, decision.grant with
      | .approve_execute, some grant =>
        .ask (.execute ⟨actor, grant⟩) <| awaited fun receipt =>
        act_steps refs steps { acted with receipts := acted.receipts ++ [receipt] }
      | _, _ => act_steps refs steps acted

def read_back : List ReadbackExpectation → List QueryResult → PortCall (List QueryResult)
  | [], results => .done (.ok results)
  | item :: items, results => .ask (.query item.sql) <| awaited fun result => read_back items (results ++ [result])

def check (name : Code 2 127) (passed : Bool) (reason : Code 2 127) : ScenarioCheck :=
  ⟨name, passed, if passed then ⟨"check_passed", by decide⟩ else reason⟩

/-- A check whose name is made up of parts: it raises when the name is too long. -/
def named_check (name : String) (passed : Bool) (reason : Code 2 127) : Except PortError ScenarioCheck :=
  match Checked.parse name with
  | none => .error ValidationError
  | some name => .ok (check name passed reason)

def approvals (decisions : List DecisionReceipt) : ℕ := decisions.countP fun item => item.status = .approved
def audited (receipts : List ExecutionReceipt) : ℕ := receipts.countP fun item => item.audit_ref ≠ ""

def observed_count (expectation : OperationExpectation) (acted : Acted) : ℕ :=
  match expectation.terminal_status with
  | .succeeded => acted.receipts.countP fun item => item.command_type = expectation.command_type
  | .rejected => acted.decisions.countP fun item => item.status = .rejected

def readback_checks : ℕ → List ReadbackExpectation → List QueryResult → Except PortError (List ScenarioCheck)
  | index, expectation :: expectations, observed :: results => do
    let passed := observed.columns = expectation.expected_columns ∧ expectation.minimum_rows ≤ observed.rows.length
    let first ← named_check s!"readback_{index}" (decide passed) ⟨"readback_mismatch", by decide⟩
    let rest ← readback_checks (index + 1) expectations results
    .ok (first :: rest)
  | _, _, _ => .ok []

def validate (outcome : RetailRunOutcome) (asked : List ClarificationSlot) (acted : Acted)
    (readbacks : List QueryResult) : Except PortError (List ScenarioCheck) := do
  let available := (report_of outcome).elim [] fun report => report.evidence_ids
  let expected_approvals := scenario.actor_steps.countP fun item => item.action = .approve_execute
  let checks :=
    [check ⟨"terminal_status", by decide⟩ (outcome.status = scenario.expected_terminal_status)
        ⟨"terminal_status_mismatch", by decide⟩,
      check ⟨"required_clarifications", by decide⟩ (scenario.required_clarification_slots ⊆ asked)
        ⟨"required_clarification_missing", by decide⟩,
      check ⟨"forbidden_clarifications", by decide⟩ (∀ slot ∈ scenario.forbidden_clarification_slots, slot ∉ asked)
        ⟨"forbidden_clarification_asked", by decide⟩,
      check ⟨"approval_count", by decide⟩ (approvals acted.decisions = expected_approvals)
        ⟨"approval_count_mismatch", by decide⟩,
      check ⟨"audit_count", by decide⟩ (audited acted.receipts = scenario.audit_counts.sum)
        ⟨"audit_event_missing", by decide⟩,
      check ⟨"evidence_ids", by decide⟩ (scenario.evidence_ids ⊆ available)
        ⟨"required_evidence_missing", by decide⟩]
  let operations ← scenario.operation_expectations.mapM fun expectation =>
    named_check s!"operation_{expectation.command_type}" (observed_count expectation acted = expectation.count)
      ⟨"operation_count_mismatch", by decide⟩
  let readback ← readback_checks 0 scenario.readback_expectations readbacks
  .ok (checks ++ operations ++ readback)

/-- The result of a scenario whose checks were made. -/
def scenario_result (outcome : RetailRunOutcome) (asked : List ClarificationSlot) (acted : Acted)
    (readbacks : List QueryResult) (checks : List ScenarioCheck) : ProductScenarioResult where
  scenario_id := scenario.scenario_id
  status := if ∀ check ∈ checks, check.passed = true then .passed else .failed
  checks := checks
  asked_slots := asked
  invalid_clarification_count := asked.countP fun slot => (scripted_response scenario slot).isNone
  silent_default_count := 0
  proposal_count := (proposal_refs outcome).length
  approval_count := approvals acted.decisions
  execution_count := acted.receipts.length
  audit_event_count := audited acted.receipts
  readback_count := (readbacks.map fun item => item.rows.length).sum
  successful_business_write_count := acted.receipts.length
  unauthorized_business_write_count := 0
  successful_execution_audit_count := audited acted.receipts
  sensitivity_comparison_present := (report_of outcome).any fun report => report.sensitivity_comparison.isSome
  claims := (report_of outcome).elim [] fun report => report.claims.map fun claim => claim.claim_id.text
  unique_proposal_count := (proposal_refs outcome).dedup.length
  unique_business_write_count := acted.receipts.length
  duplicate_audit_count := acted.receipts.length - (acted.receipts.map ExecutionReceipt.audit_ref).dedup.length
  sound := by
    split_ifs with h
    · exact fun _ => h
    · exact fun h => nomatch h

def run_after_reset : PortCall ProductScenarioResult :=
  (converse library scenario (List.range 3) none []).bind <| awaited fun (outcome, asked) =>
  (act_steps (proposal_refs outcome) scenario.actor_steps ⟨[], []⟩).bind <| awaited fun acted =>
  (read_back scenario.readback_expectations []).bind <| awaited fun readbacks =>
  awaited (fun checks => .done (.ok (scenario_result scenario outcome asked acted readbacks checks)))
    (validate scenario outcome asked acted readbacks)

def failed_result (reason : Code 2 127) : ProductScenarioResult where
  scenario_id := scenario.scenario_id
  status := .failed
  checks := [check ⟨"reset", by decide⟩ false reason]
  asked_slots := []
  invalid_clarification_count := 0
  silent_default_count := 0
  proposal_count := 0
  approval_count := 0
  execution_count := 0
  audit_event_count := 0
  readback_count := 0
  successful_business_write_count := 0
  unauthorized_business_write_count := 0
  successful_execution_audit_count := 0
  sensitivity_comparison_present := false
  claims := []
  unique_proposal_count := 0
  unique_business_write_count := 0
  duplicate_audit_count := 0
  sound h := nomatch h

/-- The result when the reset behind a run fails. -/
def ProductScenarioResult.uncleaned (result : ProductScenarioResult) : ProductScenarioResult :=
  { result with
    status := .failed
    checks := result.checks ++ [check ⟨"cleanup", by decide⟩ false ⟨"post_reset_failed", by decide⟩]
    sound := fun h => nomatch h }

/-- The reset behind what ran, unless that was cancelled. -/
def cleaned : Except PortError ProductScenarioResult → PortCall ProductScenarioResult
  | .error .cancelled => .done (.error .cancelled)
  | .error (.exception name) =>
    .ask (.reset scenario.scenario_id scenario.reset_manifest_revision) fun
      | .ok () => .done (.error (.exception name))
      | .error e => .done (.error e)
  | .ok result =>
    .ask (.reset scenario.scenario_id scenario.reset_manifest_revision) fun
      | .ok () => .done (.ok result)
      | .error (.exception _) => .done (.ok result.uncleaned)
      | .error .cancelled => .done (.error .cancelled)

/-- `ProductScenarioDriver.run(scenario)`, behind its lock. -/
def run : PortCall ProductScenarioResult :=
  .ask (.reset scenario.scenario_id scenario.reset_manifest_revision) fun
    | .error (.exception _) => .done (.ok (failed_result scenario ⟨"pre_reset_failed", by decide⟩))
    | .error .cancelled => .done (.error .cancelled)
    | .ok () => (run_after_reset library scenario).bind (cleaned scenario)

end Driver

end CommerceAgent.ProductEval
