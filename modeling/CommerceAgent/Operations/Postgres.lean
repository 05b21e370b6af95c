import CommerceAgent.Operations.Sql
import CommerceAgent.Operations.Workflow
import CommerceAgent.Lib.JsonRead

/-!
# The PostgreSQL operation store

The adapter over the trusted functions: what it sends, and how it reads rows back. Each
method is one transaction, so it is one step on the tables.
-/

open CommerceAgent.Lib CommerceAgent.Lib.Json CommerceAgent.Operations.Sql

namespace CommerceAgent.Operations

/-! ## JSON columns -/

instance : Codec CommandPreview where
  toJson p := .obj [("command_type", toJson p.command_type), ("title", toJson p.title),
    ("public_summary", toJson p.public_summary), ("target_versions", toJson p.target_versions),
    ("affected_rows", toJson p.affected_rows)]
  ofJson j := do
    let command_type ← j.field "command_type"
    let title ← j.field "title"
    let public_summary ← j.field "public_summary"
    let target_versions ← j.field "target_versions"
    let affected_rows ← j.field "affected_rows"
    return { command_type, title, public_summary, target_versions, affected_rows }
  ofJson_toJson p := by simp [field, get?_sortKeys, List.lookup_cons]

/-- A `jsonb` column keeps the value, with the keys in an order of its own. -/
def jsonb {α : Type} [Codec α] (a : α) : Json := (toJson a).sortKeys

def CanonicalPayload.loads (canonical : CanonicalPayload) : Option Json := do
  Json.loads (← ofUtf8 canonical.canonical_bytes)

/-- What the contract of a preview checks. -/
def CommandPreview.Valid (p : CommandPreview) : Prop :=
  matchesPattern lowerCase codeChar 2 127 p.command_type = true ∧
    (1 ≤ p.title.length ∧ p.title.length ≤ 200) ∧
    (1 ≤ p.public_summary.length ∧ p.public_summary.length ≤ 2000) ∧
    (1 ≤ p.target_versions.entries.length ∧ p.target_versions.entries.length ≤ 8) ∧
    (∀ e ∈ p.target_versions.entries, 0 ≤ e.2) ∧ p.affected_rows ≤ 8

instance (p : CommandPreview) : Decidable p.Valid := inferInstanceAs (Decidable (_ ∧ _))

/-! ## Reading commands -/

/-- A timestamp as `utc_z` writes it. -/
def readTimestamp (s : String) : Option Datetime :=
  match Calendar.readIso s.toList with
  | some (t, ['Z']) => if h : t * second < Calendar.maxDays * 86400 * second then some (.utc (t * second) h) else none
  | _ => none

def readDecimal (s : String) : Option Decimal := Decimal.readFixedPoint s.toList

/-- `_OPERATION_COMMAND_ADAPTER.validate_python`. -/
def readOperationCommand (j : Json) : Option OperationCommand := do
  let written : Command String String ← ofJson j
  let command ← written.mapM readTimestamp readDecimal
  if h : command.Valid then some ⟨command, h⟩ else none

def queryEvidence (items : List EvidenceRef) : List EvidenceRef := items.filter fun item => item.kind.text == "query"

/-! ## Reading proposals -/

/-- The private bindings of a row: a seller-risk case has one, no other command has any. -/
def readBindings (row : ProposalRow) (command : OperationCommand) : Option (List PrivateBinding) :=
  match row.private_seller_id, row.private_evidence_digest, command.command with
  | none, none, .open_seller_risk_case _ => none
  | none, none, _ => some []
  | some seller_id, some digest, .open_seller_risk_case c =>
    match queryEvidence c.evidence_refs.items with
    | [item] => if item.digest = digest then some [.seller_target ⟨seller_id, digest⟩] else none
    | _ => none
  | _, _, _ => none

/-- The row that wrote a revision is the version before it. -/
def ProposalRef.previous (ref : ProposalRef) : Option ProposalRef :=
  if h : 1 < ref.version then some ⟨ref.proposal_id, ref.version - 1, by omega⟩ else none

/-- The proposal of a row whose columns were read. -/
def Sql.ProposalRow.stored (row : ProposalRow) (proposal_ref : ProposalRef) (command : OperationCommand)
    (preview : CommandPreview) (private_bindings : List PrivateBinding)
    (h : row.created_at.instant < row.expires_at.instant) : StoredProposal where
  snapshot :=
    { proposal_ref := proposal_ref
      status := row.status
      requester_id := row.requester_id
      command_type := row.command_type
      payload_sha256 := row.payload_sha256
      preview := preview
      created_at := row.created_at
      expires_at := row.expires_at
      increasing := h }
  command := command
  requester_id := row.requester_id
  evidence_refs := command.command.evidence_refs
  idempotency_key := row.idempotency_key
  revises := proposal_ref.previous
  validated_references := ⟨command.command.evidence_refs, private_bindings⟩

def readProposalRow (crypto : Crypto) (row : ProposalRow) (proposal_ref : ProposalRef) : Option StoredProposal := do
  if row.key ≠ proposal_ref.key ∨ row.canonical_payload.keys ≠ ["command", "schema_version", "target_versions"] ∨
      row.canonical_payload.get? "schema_version" ≠ some (.num row.command_schema_version) then none
  else
    let target_versions : TargetVersions ← ofJson row.target_versions
    let command ← readOperationCommand (← row.canonical_payload.get? "command")
    let evidence_refs : List EvidenceRef ← ofJson row.evidence_refs
    let preview : CommandPreview ← ofJson row.preview
    let canonical ← (canonical_command crypto command target_versions row.command_schema_version).toOption
    if ¬preview.Valid ∨ command.command.type ≠ row.command_type ∨
        command.command.evidence_refs.items ≠ evidence_refs ∨ preview.command_type ≠ command.command.type ∨
        preview.target_versions ≠ target_versions ∨ canonical.loads ≠ some row.canonical_payload ∨
        canonical.sha256 ≠ row.payload_sha256 then none
    else
      let private_bindings ← readBindings row command
      if h : row.created_at.instant < row.expires_at.instant then
        some (row.stored proposal_ref command preview private_bindings h)
      else none

def result_shape_invalid : Raised := OperationInfrastructureError "operation_result_shape_invalid" false

def stored_proposal_from_row (crypto : Crypto) (row : ProposalRow) (proposal_ref : ProposalRef) :
    Except Raised StoredProposal :=
  match readProposalRow crypto row proposal_ref with
  | some proposal => .ok proposal
  | none => .error result_shape_invalid

def stored_decision_from_row (row : DecisionRow × ProposalRow × Option NonceRow) (proposal_ref : ProposalRef) :
    Except Raised StoredDecision :=
  let (decision, proposal, nonce) := row
  match proposal.status, nonce, decision.grant_sha256 with
  | .approved, some nonce, some grant_sha256 =>
    match (ofJson proposal.target_versions : Option TargetVersions) with
    | none => .error result_shape_invalid
    | some target_versions =>
      .ok
        { status := .approved
          approver_id := decision.approver_id
          decided_at := decision.decided_at
          reason := decision.reason
          approval := some
            { proposal_ref := proposal_ref
              payload_sha256 := proposal.payload_sha256
              requester_id := proposal.requester_id
              approver_id := decision.approver_id
              target_versions := target_versions
              expires_at := nonce.expires_at
              nonce_digest := nonce.nonce_digest
              key_version := nonce.key_version }
          grant_sha256 := some grant_sha256 }
  | .rejected, none, none =>
    .ok
      { status := .rejected
        approver_id := decision.approver_id
        decided_at := decision.decided_at
        reason := decision.reason
        approval := none
        grant_sha256 := none }
  | _, _, _ => .error result_shape_invalid

def receipt_from_row (row : ExecutionRow) (proposal_ref : ProposalRef) (command_type : String) :
    Except Raised ExecutionReceipt :=
  if h : row.before_version < row.after_version then
    .ok
      { execution_id := row.execution_id
        proposal_ref := proposal_ref
        command_type := command_type
        before_version := row.before_version
        after_version := row.after_version
        advance := h
        committed_at := row.committed_at
        public_summary := row.public_summary
        audit_ref := row.audit_ref }
  else .error (.exception "ValidationError")

/-! ## Transactions -/

/-- `_database_error`, and what a serialization failure becomes. -/
def database_error : SqlError → Raised
  | .unique_violation => OperationConflictError "operation_identity_conflict"
  | .integrity_constraint_violation => OperationConflictError "operation_state_conflict"
  | .insufficient_privilege => OperationAuthorizationError "operation_database_authorization_rejected"
  | .no_data_found => ApprovalError "proposal_not_found"
  | .invalid_parameter_value => OperationContractError "operation_parameter_rejected"
  | .serialization_failure => OperationInfrastructureError "operation_serialization_failure" true
  | _ => OperationInfrastructureError "operation_database_rejected" false

/-- `_run_transaction`: it commits, or rolls back and raises. -/
def run_transaction {α : Type} (t : Tables) : Except SqlError (α × Tables) → Except Raised α × Tables
  | .ok (a, t') => (.ok a, t')
  | .error e => (.error (database_error e), t)

namespace PostgresStore

/-! ## Proposals -/

open MemoryStore in
def preview_command (command : OperationCommand) : CommandPreview :=
  match command.command.existingTask with
  | some t =>
    preview command.command (taskVersion t.expected_target_version) 1
      "Update one investigation task at its exact version."
  | none =>
    match command.command with
    | .open_seller_risk_case _ =>
      preview command.command ⟨[("investigation_task", 0), ("risk_annotation", 0)], risk_sorted⟩ 2
        "Create a seller-risk annotation and linked investigation task."
    | .create_and_enable_metric_alert_rule _ =>
      preview command.command ⟨[("metric_alert_rule", 0)], rule_sorted⟩ 1 "Create one enabled metric alert rule."
    | _ => preview command.command (taskVersion 0) 1 "Create one investigation task."

def sellerTargets (bindings : List PrivateBinding) : List PrivateSellerTarget :=
  bindings.filterMap fun
    | .seller_target target => some target
    | .backtest _ => none

def private_seller_binding (command : OperationCommand) (validated : ValidatedReferences) :
    Except Raised (Option PrivateSellerTarget) :=
  let targets := sellerTargets validated.private_bindings
  if targets.length ≠ validated.private_bindings.length then
    .error (OperationContractError "operation_private_binding_invalid")
  else
    match command.command with
    | .open_seller_risk_case _ =>
      match targets, queryEvidence validated.evidence_refs.items with
      | [target], [item] =>
        if target.evidence_digest = item.digest then .ok (some target)
        else .error (OperationContractError "seller_private_binding_invalid")
      | _, _ => .error (OperationContractError "seller_private_binding_invalid")
    | _ =>
      if targets = [] then .ok none else .error (OperationContractError "operation_private_binding_invalid")

def requested_ref (uuid4 : UUID) : Option ProposalRef → ProposalRef
  | none => ⟨uuid4, 1, first_version⟩
  | some revises => revises.next

/-- What `create_or_get_proposal` sends. -/
def proposal_columns (crypto : Crypto) (uuid4 : UUID) (draft : ProposalDraft) (canonical : CanonicalPayload)
    (payload : Json) (target : Option PrivateSellerTarget) : ProposalColumns where
  proposal_id := (requested_ref uuid4 draft.request.revises).proposal_id
  proposal_version := (requested_ref uuid4 draft.request.revises).version
  requester_id := draft.request.actor.actor_id
  command_type := draft.request.command.command.type
  command_schema_version := canonical.schema_version
  canonical_payload := payload
  payload_sha256 := canonical.sha256
  evidence_refs := jsonb draft.request.evidence_refs
  preview := jsonb draft.preview
  target_versions := jsonb draft.preview.target_versions
  target_versions_sha256 := crypto.sha256 (canonical_json_bytes (toJson draft.preview.target_versions))
  expires_at := timestamptz draft.expires_at
  idempotency_key := draft.request.idempotency_key
  private_seller_id := target.map PrivateSellerTarget.seller_id
  private_evidence_digest := target.map PrivateSellerTarget.evidence_digest

def proposal_parameters (p : ProposalColumns) : List Parameter :=
  [.integer p.proposal_version, .jsonb p.canonical_payload, .jsonb p.evidence_refs, .jsonb p.preview,
    .jsonb p.target_versions] ++ (p.private_seller_id.map Parameter.text).toList

/-- The snapshot is that of the draft, under the reference that the database returns. -/
def draft_snapshot (draft : ProposalDraft) : UUID × ℕ × ProposalStatus → Except Raised ProposalSnapshot
  | (proposal_id, version, status) =>
    if h : 1 ≤ version ∧ draft.created_at.instant < draft.expires_at.instant then
      .ok
        { proposal_ref := ⟨proposal_id, version, h.1⟩
          status := status
          requester_id := draft.request.actor.actor_id
          command_type := draft.request.command.command.type
          payload_sha256 := draft.payload_sha256
          preview := draft.preview
          created_at := draft.created_at
          expires_at := draft.expires_at
          increasing := h.2 }
    else .error (.exception "ValidationError")

def create_or_get_proposal (crypto : Crypto) (uuid4 : UUID) (now : Datetime) (draft : ProposalDraft) (t : Tables) :
    Except Raised ProposalSnapshot × Tables :=
  match canonical_command crypto draft.request.command draft.preview.target_versions with
  | .error e => (.error e, t)
  | .ok canonical =>
    if canonical.sha256 ≠ draft.payload_sha256 then
      (.error (OperationContractError "proposal_payload_hash_mismatch"), t)
    else
      match private_seller_binding draft.request.command draft.validated_references with
      | .error e => (.error e, t)
      | .ok target =>
        match canonical.loads with
        | none => (.error (.exception "JSONDecodeError"), t)
        | some payload =>
          let p := proposal_columns crypto uuid4 draft canonical payload target
          match run_transaction t (call (proposal_parameters p) (create_operation_proposal now p t)) with
          | (.error e, t) => (.error e, t)
          | (.ok row, t) => (draft_snapshot draft row, t)

def read_proposal (crypto : Crypto) (proposal_ref : ProposalRef) (t : Tables) : Except Raised (Option StoredProposal) :=
  match run_transaction t (call [.integer proposal_ref.version] (.ok (read_operation_proposal proposal_ref.key t, t))) with
  | (.error e, _) => .error e
  | (.ok none, _) => .ok none
  | (.ok (some row), _) => (stored_proposal_from_row crypto row proposal_ref).map some

/-! ## Decisions -/

/-- The grant that goes with an approval. -/
def decision_grant (crypto : Crypto) (receipt : DecisionReceipt) (approval : Option StoredApproval) :
    Except Raised (Option GrantColumns) :=
  if receipt.status = .approved then
    match approval, receipt.grant with
    | some approval, some grant =>
      .ok (some
        { nonce_digest := approval.nonce_digest
          key_version := approval.key_version
          expires_at := approval.expires_at
          grant_sha256 := execution_grant_sha256 crypto grant })
    | _, _ => .error (ApprovalError "approval_required")
  else .ok none

def decision_arguments (crypto : Crypto) (receipt : DecisionReceipt) (proposal : StoredProposal)
    (grant : Option GrantColumns) : DecisionArguments where
  proposal_id := receipt.proposal_ref.proposal_id
  proposal_version := receipt.proposal_ref.version
  requester_id := proposal.requester_id
  approver_id := receipt.approver_id
  decision := if receipt.status = .approved then .approve else .reject
  reason := receipt.reason
  payload_sha256 := proposal.snapshot.payload_sha256
  target_versions_sha256 := crypto.sha256 (canonical_json_bytes (toJson proposal.snapshot.preview.target_versions))
  grant := grant

def decision_parameters (d : DecisionArguments) : List Parameter :=
  .integer d.proposal_version :: (d.reason.map fun reason => Parameter.text reason.text).toList ++
    (d.grant.map fun grant => Parameter.integer grant.key_version).toList

def decide_once (crypto : Crypto) (receipt : DecisionReceipt) (approval : Option StoredApproval) (now : Datetime)
    (t : Tables) : Except Raised DecisionReceipt × Tables :=
  match read_proposal crypto receipt.proposal_ref t with
  | .error e => (.error e, t)
  | .ok none => (.error (ApprovalError "proposal_not_found"), t)
  | .ok (some proposal) =>
    match decision_grant crypto receipt approval with
    | .error e => (.error e, t)
    | .ok grant =>
      let d := decision_arguments crypto receipt proposal grant
      match run_transaction t (call (decision_parameters d) (record_approval_decision now d t)) with
      | (.error e, t) => (.error e, t)
      | (.ok (_, _, _, decided_at), t) => (.ok { receipt with decided_at := decided_at }, t)

def read_decision (proposal_ref : ProposalRef) (t : Tables) : Except Raised (Option StoredDecision) :=
  match run_transaction t (call [.integer proposal_ref.version] (.ok (read_approval_decision proposal_ref.key t, t))) with
  | (.error e, _) => .error e
  | (.ok none, _) => .ok none
  | (.ok (some row), _) => (stored_decision_from_row row proposal_ref).map some

/-! ## Executions -/

/-- `encoded.rsplit(b".", 1)`, its first part. -/
def beforeLastDot (bytes : List UInt8) : Option (List UInt8) :=
  match bytes.reverse.dropWhile (· ≠ 46) with
  | [] => none
  | _ :: rest => some rest.reverse

def seller_digest (token : String) : Except Raised HexDigest :=
  let digest : Option HexDigest := do
    let canonical ← beforeLastDot (← Base64.decode token.toList)
    let payload ← Json.loads (← ofUtf8 canonical)
    payload.field "seller_digest"
  match digest with
  | some digest => .ok digest
  | none => .error (OperationContractError "seller_ref_invalid")

/-- The parameters of a command that may not fit, and the mutation of its function. -/
structure CommandCall where
  parameters : List Parameter
  mutation : Mutation

open MemoryStore in
def command_call (crypto : Crypto) (proposal : StoredProposal) (ref : ProposalRef) : Except Raised CommandCall :=
  let task_ref := crypto.uuid5 (refName "task" ref)
  match proposal.command.command with
  | .open_seller_risk_case c =>
    match sellerTargets proposal.validated_references.private_bindings, queryEvidence proposal.evidence_refs.items with
    | [target], [item] =>
      if target.evidence_digest ≠ item.digest then .error (OperationContractError "seller_private_binding_invalid")
      else
        match seller_digest c.seller_ref.token.text with
        | .error e => .error e
        | .ok digest =>
          .ok
            { parameters := [.text target.seller_id, .text c.seller_ref.token.text, .text c.metric_ref.revision.text,
                .bigint c.numerator, .bigint c.denominator, .text c.title.text, .jsonb (jsonb proposal.evidence_refs)]
              mutation := execute_open_seller_risk_case task_ref (crypto.uuid5 (refName "risk" ref)) target.seller_id
                digest c.seller_ref.token.text c.priority }
    | _, _ => .error (OperationContractError "seller_private_binding_invalid")
  | .create_investigation_task c =>
    .ok
      { parameters := [.text c.title.text, .text c.public_summary.text]
        mutation := execute_create_investigation_task task_ref c.priority c.public_summary.text }
  | .create_investigation_from_alert_hit c =>
    .ok
      { parameters := [.text c.title.text]
        mutation := execute_create_investigation_from_alert_hit crypto task_ref c.alert_hit_ref.hit_id c.priority }
  | .create_and_enable_metric_alert_rule c =>
    .ok
      { parameters := [.text c.metric_ref.revision.text, .bigint c.minimum_denominator, .jsonb (jsonb c.filter_refs)]
        mutation := execute_create_and_enable_metric_alert_rule (crypto.uuid5 (refName "rule" ref))
          c.alert_backtest_ref.backtest_id c.alert_backtest_ref.rule_spec_sha256 }
  | .assign_investigation c =>
    .ok
      { parameters := [.integer c.expected_target_version, .text c.assignee_ref.text]
        mutation := execute_assign_investigation c.task_ref.task_id c.expected_target_version c.assignee_ref.text }
  | .transition_investigation c =>
    .ok
      { parameters := [.integer c.expected_target_version]
        mutation := execute_transition_investigation c.task_ref.task_id c.expected_target_version c.from_status
          c.to_status c.reason_code.text }
  | .add_investigation_conclusion c =>
    .ok
      { parameters := [.integer c.expected_target_version, .text c.conclusion_summary.text,
          .jsonb (jsonb proposal.evidence_refs)]
        mutation := execute_add_investigation_conclusion c.task_ref.task_id c.expected_target_version
          (refName "conclusion" ref) c.conclusion_code.text c.conclusion_summary.text (jsonb proposal.evidence_refs) }
  | .close_investigation c =>
    .ok
      { parameters := [.integer c.expected_target_version, .text c.conclusion_ref.text]
        mutation := execute_close_investigation c.task_ref.task_id c.expected_target_version c.conclusion_ref.text
          c.risk_disposition }

open MemoryStore in
def command_arguments (crypto : Crypto) (ref : ProposalRef) (approval : StoredApproval) (grant : ExecutionGrant) :
    CommandArguments where
  execution_id := crypto.uuid5 (refName "operation" ref)
  proposal_id := ref.proposal_id
  proposal_version := ref.version
  actor_id := grant.approver_id
  payload_sha256 := grant.payload_sha256
  target_versions_sha256 := crypto.sha256 (canonical_json_bytes (toJson grant.target_versions))
  nonce_digest := approval.nonce_digest
  idempotency_key := refName "execute" ref

/-- A select by the version, which goes beyond the column without an error. -/
def read_execution (proposal_ref : ProposalRef) (t : Tables) : Except Raised (Option ExecutionReceipt) :=
  match Table.select ExecutionRow.key proposal_ref.key t.command_execution with
  | none => .ok none
  | some row => (receipt_from_row row proposal_ref row.command_type).map some

def execute_once (crypto : Crypto) (proposal : StoredProposal) (approval : StoredApproval) (grant : ExecutionGrant)
    (now : Datetime) (t : Tables) : Except Raised ExecutionReceipt × Tables :=
  let ref := proposal.snapshot.proposal_ref
  match command_call crypto proposal ref with
  | .error e => (.error e, t)
  | .ok command =>
    match run_transaction t (call (.integer ref.version :: command.parameters)
        (command_function proposal.command.command.type command.mutation now
          (command_arguments crypto ref approval grant) t)) with
    | (.ok row, t) => (receipt_from_row row ref proposal.command.command.type, t)
    | (.error e, t) =>
      if e = OperationConflictError "operation_identity_conflict" then
        match read_execution ref t with
        | .ok (some recovered) => (.ok recovered, t)
        | .ok none => (.error e, t)
        | .error e => (.error e, t)
      else (.error e, t)

end PostgresStore

/-! ## The operations of the workflow -/

section Act

variable (crypto : Crypto) (keyring : HmacApprovalKeyring)

open PostgresStore

/-- The operations over the database, whose clock is that of the workflow. -/
def pgAct (o : Outside) : (op : Op) → Tables → Ans op × Tables
  | .now _, t => (o.now, t)
  | .issue_nonce, t => (o.nonce, t)
  | .sign envelope, t =>
    match keyring.keys keyring.active_version with
    | none => (.error (ApprovalError "approval_key_unavailable"), t)
    | some key => (.ok (crypto.hmac_sha256 key envelope.message), t)
  | .validate_command _ _, t => (o.validated, t)
  | .preview_command command _, t => (.ok (PostgresStore.preview_command command), t)
  | .create_or_get_proposal draft, t => create_or_get_proposal crypto o.uuid4 o.now draft t
  | .read_proposal ref, t => (read_proposal crypto ref t, t)
  | .decide_once receipt approval _, t => decide_once crypto receipt approval o.now t
  | .read_decision ref, t => (read_decision ref t, t)
  | .read_execution ref, t => (read_execution ref t, t)
  | .execute_once proposal approval grant _, t => execute_once crypto proposal approval grant o.now t

end Act

end CommerceAgent.Operations
