import CommerceAgent.Operations.Store
import CommerceAgent.Lib.Table

/-!
# The trusted functions of the database

The `ops` tables of one scenario, and the PL/pgSQL functions on them. A function that
raises rolls its transaction back, so it returns no tables.
-/

open CommerceAgent.Lib CommerceAgent.Lib.Json

namespace CommerceAgent.Operations.Sql

/-! ## Errors and parameters -/

inductive SqlError where
  | unique_violation
  | integrity_constraint_violation
  | insufficient_privilege
  | no_data_found
  | invalid_parameter_value
  | serialization_failure
  | check_violation
  | not_null_violation
  | numeric_value_out_of_range
  | undefined_function
  | untranslatable_character
  deriving DecidableEq, Repr

/-- A parameter whose value may not fit its type. -/
inductive Parameter where
  | integer (n : ℕ)
  | bigint (n : ℕ)
  | text (s : String)
  | jsonb (j : Json)

def maxInteger : ℕ := 2 ^ 31
def maxBigint : ℕ := 2 ^ 63

/-- PostgreSQL stores no NUL character. -/
def storable (s : String) : Bool := s.toList.all (· ≠ Char.ofNat 0)

mutual

def storableJson : Json → Bool
  | .str s => storable s
  | .arr xs => storableItems xs
  | .obj kvs => storableFields kvs
  | _ => true

def storableItems : List Json → Bool
  | [] => true
  | x :: xs => storableJson x && storableItems xs

def storableFields : List (String × Json) → Bool
  | [] => true
  | (k, v) :: kvs => storable k && storableJson v && storableFields kvs

end

/-- An integer that is too large is sent as a wider type, which no function takes. -/
def Parameter.reject : Parameter → Option SqlError
  | .integer n => if n < maxInteger then none else some .undefined_function
  | .bigint n => if n < maxBigint then none else some .undefined_function
  | .text s => if storable s then none else some .untranslatable_character
  | .jsonb j => if storableJson j then none else some .untranslatable_character

/-- A call of a function with its parameters. -/
def call {α : Type} (parameters : List Parameter) (f : Except SqlError α) : Except SqlError α :=
  match parameters.findSome? Parameter.reject with
  | some e => .error e
  | none => f

/-- A `timestamptz` keeps the instant, not the offset. -/
def timestamptz (d : Datetime) : Datetime := .utc d.instant d.inRange

/-! ## Tables -/

/-- What the caller gives of a proposal. -/
structure ProposalColumns where
  proposal_id : UUID
  proposal_version : ℕ
  requester_id : UUID
  command_type : String
  command_schema_version : ℕ
  canonical_payload : Json
  payload_sha256 : HexDigest
  evidence_refs : Json
  preview : Json
  target_versions : Json
  target_versions_sha256 : HexDigest
  expires_at : Datetime
  idempotency_key : IdempotencyKey
  private_seller_id : Option String
  private_evidence_digest : Option HexDigest

structure ProposalRow extends ProposalColumns where
  status : ProposalStatus
  created_at : Datetime

def ProposalColumns.key (p : ProposalColumns) : UUID × ℕ := (p.proposal_id, p.proposal_version)

def ProposalRow.key (p : ProposalRow) : UUID × ℕ := p.toProposalColumns.key

structure DecisionRow where
  proposal_id : UUID
  proposal_version : ℕ
  decision : Decision
  requester_id : UUID
  approver_id : UUID
  reason : Option (Text 1 1000)
  decided_at : Datetime
  grant_sha256 : Option HexDigest

def DecisionRow.key (d : DecisionRow) : UUID × ℕ := (d.proposal_id, d.proposal_version)

structure NonceRow where
  nonce_digest : HexDigest
  proposal_id : UUID
  proposal_version : ℕ
  approver_id : UUID
  payload_sha256 : HexDigest
  target_versions_sha256 : HexDigest
  key_version : ℕ
  expires_at : Datetime
  used_at : Option Datetime

def NonceRow.key (n : NonceRow) : UUID × ℕ := (n.proposal_id, n.proposal_version)

/-- A command that succeeded. A row of another status never outlives its transaction. -/
structure ExecutionRow where
  execution_id : UUID
  proposal_id : UUID
  proposal_version : ℕ
  actor_id : UUID
  command_type : String
  idempotency_key : String
  before_version : ℕ
  after_version : ℕ
  committed_at : Datetime
  public_summary : String
  audit_ref : String

def ExecutionRow.key (e : ExecutionRow) : UUID × ℕ := (e.proposal_id, e.proposal_version)

structure TaskRow where
  task_ref : UUID
  status : InvestigationStatus
  priority : Priority
  assignee_ref : Option String
  public_summary : String
  version : ℕ

structure ConclusionRow where
  conclusion_ref : String
  task_ref : UUID
  conclusion_code : String
  public_summary : String
  evidence_refs : Json
  task_version : ℕ

structure RiskRow where
  risk_ref : UUID
  seller_id : String
  seller_digest : HexDigest
  seller_ref : String
  status : String
  task_ref : UUID
  version : ℕ

structure RuleRow where
  rule_ref : UUID
  rule_spec_sha256 : HexDigest
  backtest_ref : UUID
  version : ℕ

/-- A backtest, with the starts of the windows in which it hit. -/
structure BacktestRow where
  backtest_ref : UUID
  rule_spec_sha256 : HexDigest
  hits : List String

structure Tables where
  operation_proposal : List ProposalRow
  approval_decision : List DecisionRow
  approval_nonce : List NonceRow
  command_execution : List ExecutionRow
  investigation_task : List TaskRow
  investigation_conclusion : List ConclusionRow
  risk_annotation : List RiskRow
  metric_alert_rule : List RuleRow
  alert_backtest_result : List BacktestRow

/-! ## Proposals -/

section Proposals

/-- A version is superseded by the next one. -/
def supersede (p : ProposalColumns) (t : Tables) : Except SqlError Tables :=
  if 1 < p.proposal_version then
    match Table.select ProposalRow.key (p.proposal_id, p.proposal_version - 1) t.operation_proposal with
    | none => .error .integrity_constraint_violation
    | some previous =>
      if previous.requester_id ≠ p.requester_id ∨ previous.status ≠ .pending then
        .error .integrity_constraint_violation
      else
        .ok { t with
          operation_proposal := Table.update (fun r => r.key = (p.proposal_id, p.proposal_version - 1))
            (fun r => { r with status := .superseded }) t.operation_proposal }
  else if t.operation_proposal.any fun r => r.proposal_id = p.proposal_id then
    .error .integrity_constraint_violation
  else .ok t

/-- `evidence->>'kind' = 'query' AND evidence->>'digest' = digest`, for some evidence. -/
def hasQueryEvidence (evidence_refs : Json) (digest : HexDigest) : Bool :=
  match evidence_refs with
  | .arr items => items.any fun e => e.get? "kind" = some (.str "query") && e.get? "digest" = some (.str digest.text)
  | _ => false

/-- The private columns belong to seller-risk cases, and to these alone. -/
def privateBindingValid (p : ProposalColumns) : Bool :=
  if p.command_type = "open_seller_risk_case" then
    match p.private_seller_id, p.private_evidence_digest with
    | some _, some digest => hasQueryEvidence p.evidence_refs digest
    | _, _ => false
  else p.private_seller_id = none && p.private_evidence_digest = none

def insert_proposal (now : Datetime) (p : ProposalColumns) (t : Tables) : Except SqlError Tables :=
  if t.operation_proposal.any fun r => r.key = p.key then .error .unique_violation
  else if p.expires_at.instant ≤ now.instant then .error .check_violation
  else
    .ok { t with
      operation_proposal := Table.insert { toProposalColumns := p, status := .pending, created_at := timestamptz now }
        t.operation_proposal }

def create_operation_proposal (now : Datetime) (p : ProposalColumns) (t : Tables) :
    Except SqlError ((UUID × ℕ × ProposalStatus) × Tables) :=
  match t.operation_proposal.find? fun r =>
      r.requester_id = p.requester_id ∧ r.idempotency_key = p.idempotency_key with
  | some existing =>
    if existing.command_type ≠ p.command_type ∨ existing.payload_sha256 ≠ p.payload_sha256 ∨
        existing.private_seller_id ≠ p.private_seller_id ∨
        existing.private_evidence_digest ≠ p.private_evidence_digest then
      .error .unique_violation
    else .ok ((existing.proposal_id, existing.proposal_version, existing.status), t)
  | none =>
    match supersede p t with
    | .error e => .error e
    | .ok t =>
      if privateBindingValid p then
        match insert_proposal now p t with
        | .error e => .error e
        | .ok t => .ok ((p.proposal_id, p.proposal_version, .pending), t)
      else .error .invalid_parameter_value

def read_operation_proposal (key : UUID × ℕ) (t : Tables) : Option ProposalRow :=
  Table.select ProposalRow.key key t.operation_proposal

end Proposals

/-! ## Decisions -/

section Decisions

/-- What an approval hands over of its grant. -/
structure GrantColumns where
  nonce_digest : HexDigest
  key_version : ℕ
  expires_at : Datetime
  grant_sha256 : HexDigest

structure DecisionArguments where
  proposal_id : UUID
  proposal_version : ℕ
  requester_id : UUID
  approver_id : UUID
  decision : Decision
  reason : Option (Text 1 1000)
  payload_sha256 : HexDigest
  target_versions_sha256 : HexDigest
  grant : Option GrantColumns

def DecisionArguments.key (d : DecisionArguments) : UUID × ℕ := (d.proposal_id, d.proposal_version)

/-- The grant of an approval ends with its proposal at the latest. -/
def grantValid (now : Datetime) (proposal : ProposalRow) (d : DecisionArguments) : Bool :=
  match d.decision, d.grant with
  | .approve, some g => now.instant < g.expires_at.instant && g.expires_at.instant ≤ proposal.expires_at.instant
  | .approve, none => false
  | .reject, some _ => false
  | .reject, none => true

def insert_decision (now : Datetime) (d : DecisionArguments) (t : Tables) : Except SqlError Tables :=
  if t.approval_decision.any fun r => r.key = d.key then .error .unique_violation
  else
    let row : DecisionRow :=
      { proposal_id := d.proposal_id
        proposal_version := d.proposal_version
        decision := d.decision
        requester_id := d.requester_id
        approver_id := d.approver_id
        reason := d.reason
        decided_at := timestamptz now
        grant_sha256 := d.grant.map GrantColumns.grant_sha256 }
    .ok { t with approval_decision := Table.insert row t.approval_decision }

def insert_nonce (d : DecisionArguments) (t : Tables) : Except SqlError Tables :=
  match d.grant with
  | none => .ok t
  | some g =>
    if t.approval_nonce.any fun r => r.nonce_digest = g.nonce_digest ∨ r.key = d.key then .error .unique_violation
    else
      let row : NonceRow :=
        { nonce_digest := g.nonce_digest
          proposal_id := d.proposal_id
          proposal_version := d.proposal_version
          approver_id := d.approver_id
          payload_sha256 := d.payload_sha256
          target_versions_sha256 := d.target_versions_sha256
          key_version := g.key_version
          expires_at := timestamptz g.expires_at
          used_at := none }
      .ok { t with approval_nonce := Table.insert row t.approval_nonce }

def decidedStatus : Decision → ProposalStatus
  | .approve => .approved
  | .reject => .rejected

def record_approval_decision (now : Datetime) (d : DecisionArguments) (t : Tables) :
    Except SqlError ((UUID × ℕ × ProposalStatus × Datetime) × Tables) :=
  match Table.select ProposalRow.key d.key t.operation_proposal with
  | none => .error .insufficient_privilege
  | some proposal =>
    if proposal.status ≠ .pending ∨ proposal.requester_id ≠ d.requester_id ∨
        proposal.payload_sha256 ≠ d.payload_sha256 ∨
        proposal.target_versions_sha256 ≠ d.target_versions_sha256 ∨
        proposal.expires_at.instant ≤ now.instant ∨ d.requester_id = d.approver_id then
      .error .insufficient_privilege
    else if grantValid now proposal d then
      match insert_decision now d t with
      | .error e => .error e
      | .ok t =>
        match insert_nonce d t with
        | .error e => .error e
        | .ok t =>
          .ok ((d.proposal_id, d.proposal_version, decidedStatus d.decision, timestamptz now),
            { t with
              operation_proposal := Table.update (fun r => r.key = d.key)
                (fun r => { r with status := decidedStatus d.decision }) t.operation_proposal })
    else .error .integrity_constraint_violation

/-- The decision of a proposal, joined with the proposal and with the nonce of an approval. -/
def read_approval_decision (key : UUID × ℕ) (t : Tables) : Option (DecisionRow × ProposalRow × Option NonceRow) := do
  let decision ← Table.select DecisionRow.key key t.approval_decision
  let proposal ← Table.select ProposalRow.key decision.key t.operation_proposal
  return (decision, proposal, Table.select NonceRow.key decision.key t.approval_nonce)

end Decisions

/-! ## Executions -/

section Executions

/-- The common arguments of the `execute_*` functions. -/
structure CommandArguments where
  execution_id : UUID
  proposal_id : UUID
  proposal_version : ℕ
  actor_id : UUID
  payload_sha256 : HexDigest
  target_versions_sha256 : HexDigest
  nonce_digest : HexDigest
  idempotency_key : String

def CommandArguments.key (c : CommandArguments) : UUID × ℕ := (c.proposal_id, c.proposal_version)

structure Mutated where
  before_version : ℕ
  after_version : ℕ
  public_summary : String

abbrev Mutation := ProposalRow → Tables → Except SqlError (Mutated × Tables)

def approvalBindingValid (command_type : String) (now : Datetime) (c : CommandArguments) (proposal : ProposalRow)
    (decision : DecisionRow) : Bool :=
  proposal.status = .approved && proposal.command_type = command_type &&
    proposal.payload_sha256 = c.payload_sha256 &&
    proposal.target_versions_sha256 = c.target_versions_sha256 &&
    now.instant < proposal.expires_at.instant && decision.decision = .approve &&
    decision.requester_id = proposal.requester_id && decision.approver_id = c.actor_id

/-- The nonce that an execution claims. -/
def claims (now : Datetime) (c : CommandArguments) (n : NonceRow) : Bool :=
  n.nonce_digest = c.nonce_digest && n.key = c.key && n.approver_id = c.actor_id &&
    n.payload_sha256 = c.payload_sha256 && n.target_versions_sha256 = c.target_versions_sha256 &&
    n.used_at = none && now.instant < n.expires_at.instant

/-- `_command_function`: the common body, around the mutation of one command. -/
def command_function (command_type : String) (mutation : Mutation) (now : Datetime) (c : CommandArguments)
    (t : Tables) : Except SqlError (ExecutionRow × Tables) :=
  match Table.select ExecutionRow.key c.key t.command_execution with
  | some existing =>
    if existing.execution_id ≠ c.execution_id ∨ existing.actor_id ≠ c.actor_id ∨
        existing.idempotency_key ≠ c.idempotency_key then
      .error .integrity_constraint_violation
    else .ok (existing, t)
  | none =>
    match Table.select ProposalRow.key c.key t.operation_proposal with
    | none => .error .no_data_found
    | some proposal =>
      match Table.select DecisionRow.key c.key t.approval_decision with
      | none => .error .insufficient_privilege
      | some decision =>
        if approvalBindingValid command_type now c proposal decision then
          if t.command_execution.any fun e => e.execution_id = c.execution_id ∨
              (e.actor_id = c.actor_id ∧ e.idempotency_key = c.idempotency_key) then
            .error .unique_violation
          else if t.approval_nonce.any (claims now c) then
            let claimed := Table.update (claims now c) (fun n => { n with used_at := some (timestamptz now) })
              t.approval_nonce
            match mutation proposal { t with approval_nonce := claimed } with
            | .error e => .error e
            | .ok (mutated, t) =>
              let row : ExecutionRow :=
                { execution_id := c.execution_id
                  proposal_id := c.proposal_id
                  proposal_version := c.proposal_version
                  actor_id := c.actor_id
                  command_type := command_type
                  idempotency_key := c.idempotency_key
                  before_version := mutated.before_version
                  after_version := mutated.after_version
                  committed_at := timestamptz now
                  public_summary := mutated.public_summary
                  audit_ref := "audit:" ++ c.execution_id.text }
              .ok (row, { t with command_execution := Table.insert row t.command_execution })
          else .error .insufficient_privilege
        else .error .insufficient_privilege

/-- The target versions of a proposal, as the functions compare them. -/
def targets (entries : TargetVersions) : Json := (toJson entries).sortKeys

/-- An `integer` column takes the next version. -/
def advance (version : ℕ) (public_summary : String) : Except SqlError Mutated :=
  if version + 1 < maxInteger then .ok ⟨version, version + 1, public_summary⟩
  else .error .numeric_value_out_of_range

def taskTarget : TargetVersions := ⟨[("investigation_task", 0)], by simp⟩

def new_task (task_ref : UUID) (priority : Priority) (public_summary : String) : TaskRow where
  task_ref := task_ref
  status := .open
  priority := priority
  assignee_ref := none
  public_summary := public_summary
  version := 1

def taskExists (task_ref : UUID) (t : Tables) : Bool := t.investigation_task.any fun r => r.task_ref = task_ref

def execute_open_seller_risk_case (task_ref risk_ref : UUID) (seller_id : String) (seller_digest : HexDigest)
    (seller_ref : String) (priority : Priority) : Mutation := fun proposal t =>
  if proposal.target_versions ≠ targets ⟨[("investigation_task", 0), ("risk_annotation", 0)], risk_sorted⟩ ∨
      taskExists task_ref t ∨ t.risk_annotation.any fun r => r.risk_ref = risk_ref then
    .error .integrity_constraint_violation
  else if t.risk_annotation.any fun r => r.task_ref = task_ref then .error .unique_violation
  else
    .ok (⟨0, 1, "Created a seller-risk annotation and investigation task."⟩,
      { t with
        investigation_task := Table.insert
          (new_task task_ref priority "Seller risk requires investigation.") t.investigation_task
        risk_annotation := Table.insert
          { risk_ref := risk_ref
            seller_id := seller_id
            seller_digest := seller_digest
            seller_ref := seller_ref
            status := "under_investigation"
            task_ref := task_ref
            version := 1 } t.risk_annotation })

def execute_create_investigation_task (task_ref : UUID) (priority : Priority) (public_summary : String) : Mutation :=
  fun proposal t =>
  if proposal.target_versions ≠ targets taskTarget ∨ taskExists task_ref t then
    .error .integrity_constraint_violation
  else
    .ok (⟨0, 1, "Created one investigation task."⟩,
      { t with
        investigation_task := Table.insert (new_task task_ref priority public_summary) t.investigation_task })

def enabledHits (crypto : Crypto) (t : Tables) : List UUID :=
  t.metric_alert_rule.flatMap fun rule =>
    match Table.select BacktestRow.backtest_ref rule.backtest_ref t.alert_backtest_result with
    | none => []
    | some backtest => backtest.hits.map fun started_at => crypto.md5 (rule.rule_ref.text ++ ":" ++ started_at)

def execute_create_investigation_from_alert_hit (crypto : Crypto) (task_ref alert_hit_ref : UUID)
    (priority : Priority) : Mutation := fun proposal t =>
  if proposal.target_versions ≠ targets taskTarget ∨ taskExists task_ref t ∨
      alert_hit_ref ∉ enabledHits crypto t then
    .error .integrity_constraint_violation
  else
    .ok (⟨0, 1, "Created one investigation task from an enabled alert hit."⟩,
      { t with
        investigation_task := Table.insert
          (new_task task_ref priority "Created from a reviewed alert hit.") t.investigation_task })

def execute_create_and_enable_metric_alert_rule (rule_ref backtest_ref : UUID) (rule_spec_sha256 : HexDigest) :
    Mutation := fun proposal t =>
  if proposal.target_versions ≠ targets ⟨[("metric_alert_rule", 0)], rule_sorted⟩ ∨
      (t.metric_alert_rule.any fun r => r.rule_ref = rule_ref) ∨
      ¬ (t.alert_backtest_result.any fun b =>
        b.backtest_ref = backtest_ref ∧ b.rule_spec_sha256 = rule_spec_sha256) then
    .error .integrity_constraint_violation
  else if t.metric_alert_rule.any fun r => r.backtest_ref = backtest_ref then .error .unique_violation
  else
    .ok (⟨0, 1, "Created one enabled metric alert rule."⟩,
      { t with
        metric_alert_rule := Table.insert ⟨rule_ref, rule_spec_sha256, backtest_ref, 1⟩ t.metric_alert_rule })

/-- The task of an update command, in the state that the command requires. -/
def lockTask (task_ref : UUID) (expected_version : ℕ) (required : TaskRow → Bool) (proposal : ProposalRow)
    (t : Tables) : Option TaskRow :=
  match Table.select TaskRow.task_ref task_ref t.investigation_task with
  | none => none
  | some task =>
    if required task ∧ task.version = expected_version ∧
        proposal.target_versions = targets ⟨[("investigation_task", expected_version)], task_sorted expected_version⟩ then some task
    else none

def setTask (task_ref : UUID) (f : TaskRow → TaskRow) (t : Tables) : Tables :=
  { t with investigation_task := Table.update (fun r => r.task_ref = task_ref) f t.investigation_task }

def execute_assign_investigation (task_ref : UUID) (expected_version : ℕ) (assignee_ref : String) : Mutation :=
  fun proposal t =>
  match lockTask task_ref expected_version (fun _ => true) proposal t with
  | none => .error .serialization_failure
  | some task =>
    match advance task.version "Assigned the investigation task." with
    | .error e => .error e
    | .ok m =>
      .ok (m, setTask task_ref
        (fun r => { r with assignee_ref := some assignee_ref, version := m.after_version }) t)

def execute_transition_investigation (task_ref : UUID) (expected_version : ℕ)
    (from_status to_status : InvestigationStatus) (reason_code : String) : Mutation := fun proposal t =>
  match lockTask task_ref expected_version (fun task => task.status = from_status) proposal t with
  | none => .error .serialization_failure
  | some task =>
    if (from_status, to_status) ∉ allowedTransitions then .error .serialization_failure
    else
      match advance task.version ("Transitioned the investigation task: " ++ reason_code) with
      | .error e => .error e
      | .ok m => .ok (m, setTask task_ref (fun r => { r with status := to_status, version := m.after_version }) t)

def execute_add_investigation_conclusion (task_ref : UUID) (expected_version : ℕ)
    (conclusion_ref conclusion_code conclusion_summary : String) (evidence_refs : Json) : Mutation :=
  fun proposal t =>
  match lockTask task_ref expected_version (fun task => task.status = .resolved) proposal t with
  | none => .error .serialization_failure
  | some task =>
    match advance task.version "Added the investigation conclusion." with
    | .error e => .error e
    | .ok m =>
      if t.investigation_conclusion.any fun r => r.conclusion_ref = conclusion_ref ∨
          (r.task_ref = task_ref ∧ r.task_version = m.after_version) then .error .unique_violation
      else
        .ok (m, setTask task_ref (fun r => { r with version := m.after_version })
          { t with
            investigation_conclusion := Table.insert
              ⟨conclusion_ref, task_ref, conclusion_code, conclusion_summary, evidence_refs, m.after_version⟩
              t.investigation_conclusion })

/-- The disposition that a task with a risk annotation requires, and one without forbids. -/
def dispose (task_ref : UUID) (risk_disposition : Option RiskDisposition) (t : Tables) : Except SqlError Tables :=
  match t.risk_annotation.find? fun r => r.task_ref = task_ref with
  | some risk =>
    match risk_disposition with
    -- `NULL NOT IN (…)` is not true, so that the update goes on to the column, which takes no NULL
    | none => .error .not_null_violation
    | some disposition =>
      if risk.version + 1 < maxInteger then
        .ok { t with
          risk_annotation := Table.update (fun r => r.task_ref = task_ref)
            (fun r => { r with status := disposition.value, version := r.version + 1 }) t.risk_annotation }
      else .error .numeric_value_out_of_range
  | none =>
    match risk_disposition with
    | none => .ok t
    | some _ => .error .invalid_parameter_value

def execute_close_investigation (task_ref : UUID) (expected_version : ℕ) (conclusion_ref : String)
    (risk_disposition : Option RiskDisposition) : Mutation := fun proposal t =>
  match lockTask task_ref expected_version (fun task => task.status = .resolved) proposal t with
  | none => .error .serialization_failure
  | some task =>
    if t.investigation_conclusion.any fun r => r.conclusion_ref = conclusion_ref ∧ r.task_ref = task_ref then
      match dispose task_ref risk_disposition t with
      | .error e => .error e
      | .ok t =>
        match advance task.version "Closed the investigation task." with
        | .error e => .error e
        | .ok m =>
          .ok (m, setTask task_ref (fun r => { r with status := .closed, version := m.after_version }) t)
    else .error .serialization_failure

end Executions

end CommerceAgent.Operations.Sql
