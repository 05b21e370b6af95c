import CommerceAgent.Operations.Store

/-!
# The in-memory operation store

Every method holds the store's lock to its end, so it is one step on the whole store. It
returns or raises, and a raise keeps what the method had written before it.
-/

open CommerceAgent.Lib

namespace CommerceAgent.Operations

abbrev Dict (K V : Type) := AList fun _ : K => V

theorem Dict.lookup_insert {K V : Type} [DecidableEq K] (d : Dict K V) (k l : K) (v : V) :
    (d.insert k v).lookup l = if l = k then some v else d.lookup l := by
  split_ifs with h
  · rw [h, AList.lookup_insert]
  · exact AList.lookup_insert_ne h

structure InvestigationTaskState where
  task_id : UUID
  status : InvestigationStatus
  priority : Priority
  public_summary : String
  version : ℕ
  assignee_ref : Option String
  conclusion_ref : Option String
  linked_risk_id : Option UUID
  deriving DecidableEq

structure RiskAnnotationState where
  risk_id : UUID
  status : String
  version : ℕ
  deriving DecidableEq

structure MetricAlertRuleState where
  rule_id : UUID
  status : String
  version : ℕ
  deriving DecidableEq

structure MemoryStore where
  proposals : Dict (UUID × ℕ) StoredProposal
  latest_versions : Dict UUID ℕ
  idempotency : Dict (UUID × IdempotencyKey) (ProposalRef × String × HexDigest)
  decisions : Dict (UUID × ℕ) StoredDecision
  decision_receipts : Dict (UUID × ℕ) DecisionReceipt
  executions : Dict (UUID × ℕ) ExecutionReceipt
  nonce_claims : Dict HexDigest ProposalRef
  tasks : Dict UUID InvestigationTaskState
  risks : Dict UUID RiskAnnotationState
  rules : Dict UUID MetricAlertRuleState
  business_write_count : ℕ
  audit_count : ℕ
  nonce_claim_count : ℕ

namespace MemoryStore

/-- `InMemoryOperationStore(initial_tasks=...)`. -/
def initial (initial_tasks : List InvestigationTaskState) : MemoryStore where
  proposals := ∅
  latest_versions := ∅
  idempotency := ∅
  decisions := ∅
  decision_receipts := ∅
  executions := ∅
  nonce_claims := ∅
  tasks := initial_tasks.foldl (fun tasks task => tasks.insert task.task_id task) ∅
  risks := ∅
  rules := ∅
  business_write_count := 0
  audit_count := 0
  nonce_claim_count := 0

/-! ## Proposals -/

/-- `text.replace("_", " ").title()`. -/
def titleCase (text : String) : String :=
  let step (acc : List Char × Bool) (c : Char) : List Char × Bool :=
    if c = '_' then (acc.1 ++ [' '], false) else (acc.1 ++ [if acc.2 then c else c.toUpper], true)
  String.ofList (text.toList.foldl step ([], false)).1

/-- `getattr(command, "title", command.type.replace("_", " ").title())`. -/
def previewTitle : Command Datetime Decimal → String
  | .open_seller_risk_case c => c.title.text
  | .create_investigation_task c => c.title.text
  | .create_investigation_from_alert_hit c => c.title.text
  | c => titleCase c.type

def taskVersion (version : ℕ) : TargetVersions := ⟨[("investigation_task", version)], task_sorted version⟩

def preview (command : Command Datetime Decimal) (versions : TargetVersions) (affected_rows : ℕ)
    (summary : String) : CommandPreview where
  command_type := command.type
  title := previewTitle command
  public_summary := summary
  target_versions := versions
  affected_rows := affected_rows

/-- The task of an update command, at the version that the command expects. -/
def require_task (s : MemoryStore) (t : ExistingTask) : Except Raised InvestigationTaskState :=
  match s.tasks.lookup t.task_ref.task_id with
  | none => .error (OperationContractError "investigation_not_found")
  | some task =>
    if task.version ≠ t.expected_target_version then .error (OperationConflictError "target_version_conflict")
    else .ok task

def preview_command (s : MemoryStore) (command : OperationCommand) : Except Raised CommandPreview :=
  match command.command.existingTask with
  | some t => do
    let task ← s.require_task t
    return preview command.command (taskVersion task.version) 1 "Update one investigation task at its exact version."
  | none =>
    match command.command with
    | .open_seller_risk_case _ =>
      .ok (preview command.command ⟨[("investigation_task", 0), ("risk_annotation", 0)], risk_sorted⟩ 2
        "Create a seller-risk annotation and linked investigation task.")
    | .create_and_enable_metric_alert_rule _ =>
      .ok (preview command.command ⟨[("metric_alert_rule", 0)], rule_sorted⟩ 1 "Create one enabled metric alert rule.")
    | _ => .ok (preview command.command (taskVersion 0) 1 "Create one investigation task.")

/-- The end of `create_or_get_proposal`: a new version under `proposal_ref`. -/
def insert_proposal (draft : ProposalDraft) (proposal_ref : ProposalRef) (s : MemoryStore) :
    Except Raised ProposalSnapshot × MemoryStore :=
  let request := draft.request
  if h : draft.created_at.instant < draft.expires_at.instant then
    let snapshot : ProposalSnapshot :=
      { proposal_ref := proposal_ref
        status := .pending
        requester_id := request.actor.actor_id
        command_type := request.command.command.type
        payload_sha256 := draft.payload_sha256
        preview := draft.preview
        created_at := draft.created_at
        expires_at := draft.expires_at
        increasing := h }
    let stored : StoredProposal :=
      { snapshot := snapshot
        command := request.command
        requester_id := request.actor.actor_id
        evidence_refs := request.evidence_refs
        idempotency_key := request.idempotency_key
        revises := request.revises
        validated_references := draft.validated_references }
    (.ok snapshot,
      { s with
        proposals := s.proposals.insert proposal_ref.key stored
        latest_versions := s.latest_versions.insert proposal_ref.proposal_id proposal_ref.version
        idempotency := s.idempotency.insert (request.actor.actor_id, request.idempotency_key)
          (proposal_ref, request.command.command.type, draft.payload_sha256) })
  else (.error (.exception "ValidationError"), s)

/-- `previous.snapshot = previous.snapshot.model_copy(update={"status": status})`. -/
def set_status (key : UUID × ℕ) (status : ProposalStatus) (stored : StoredProposal) (s : MemoryStore) : MemoryStore :=
  { s with
    proposals := s.proposals.insert key { stored with snapshot := { stored.snapshot with status := status } } }

/-- `uuid4` is the identifier that a new proposal draws. -/
def create_or_get_proposal (uuid4 : UUID) (draft : ProposalDraft) (s : MemoryStore) :
    Except Raised ProposalSnapshot × MemoryStore :=
  let request := draft.request
  match s.idempotency.lookup (request.actor.actor_id, request.idempotency_key) with
  | some (ref, command_type, payload_sha256) =>
    if (command_type, payload_sha256) ≠ (request.command.command.type, draft.payload_sha256) then
      (.error (OperationConflictError "idempotency_conflict"), s)
    else
      match s.proposals.lookup ref.key with
      | some stored => (.ok stored.snapshot, s)
      | none => (.error (.exception "KeyError"), s)
  | none =>
    match request.revises with
    | none => s.insert_proposal draft ⟨uuid4, 1, first_version⟩
    | some revises =>
      match s.proposals.lookup revises.key with
      | none => (.error (OperationConflictError "proposal_revision_conflict"), s)
      | some previous =>
        if previous.requester_id ≠ request.actor.actor_id ∨ previous.snapshot.status ≠ .pending ∨
            s.latest_versions.lookup revises.proposal_id ≠ some revises.version then
          (.error (OperationConflictError "proposal_revision_conflict"), s)
        else (s.set_status revises.key .superseded previous).insert_proposal draft revises.next

def read_proposal (proposal_ref : ProposalRef) (s : MemoryStore) : Option StoredProposal :=
  s.proposals.lookup proposal_ref.key

/-! ## Decisions -/

def decide_once (crypto : Crypto) (receipt : DecisionReceipt) (approval : Option StoredApproval) (now : Datetime)
    (s : MemoryStore) : Except Raised DecisionReceipt × MemoryStore :=
  let key := receipt.proposal_ref.key
  match s.proposals.lookup key with
  | none => (.error (ApprovalError "proposal_not_found"), s)
  | some proposal =>
    if proposal.snapshot.status ≠ .pending then (.error (ApprovalError "proposal_already_decided"), s)
    else if proposal.snapshot.expires_at.instant ≤ now.instant then
      (.error (ApprovalError "proposal_expired"), s.set_status key .expired proposal)
    else
      (.ok receipt,
        { s.set_status key receipt.status proposal with
          decisions := s.decisions.insert key
            { status := receipt.status
              approver_id := receipt.approver_id
              decided_at := receipt.decided_at
              reason := receipt.reason
              approval := approval
              grant_sha256 := receipt.grant.map (execution_grant_sha256 crypto) }
          decision_receipts := s.decision_receipts.insert key receipt })

def read_decision (proposal_ref : ProposalRef) (s : MemoryStore) : Option StoredDecision :=
  s.decisions.lookup proposal_ref.key

/-! ## Executions -/

/-- The versions of a target before and after a command. -/
structure VersionStep where
  before_version : ℕ
  after_version : ℕ
  advance : before_version < after_version

def created : VersionStep := ⟨0, 1, by omega⟩

/-- `f"{name}:{ref.proposal_id}:{ref.version}"`. -/
def refName (name : String) (ref : ProposalRef) : String :=
  name ++ ":" ++ ref.proposal_id.text ++ ":" ++ String.ofList (Nat.toDigits 10 ref.version)

def new_task (task_id : UUID) (priority : Priority) (public_summary : String) (linked_risk_id : Option UUID) :
    InvestigationTaskState where
  task_id := task_id
  status := .open
  priority := priority
  public_summary := public_summary
  version := 1
  assignee_ref := none
  conclusion_ref := none
  linked_risk_id := linked_risk_id

/-- `self._tasks[task.task_id] = replace(task, ..., version=task.version + 1)`. -/
def put_task (task changed : InvestigationTaskState) (s : MemoryStore) : Except Raised VersionStep × MemoryStore :=
  (.ok ⟨task.version, task.version + 1, by omega⟩,
    { s with tasks := s.tasks.insert task.task_id { changed with version := task.version + 1 } })

def close_investigation (c : CloseInvestigation) (task : InvestigationTaskState) (s : MemoryStore) :
    Except Raised VersionStep × MemoryStore :=
  if task.status ≠ .resolved then (.error (OperationContractError "investigation_not_resolved"), s)
  else if task.conclusion_ref ≠ some c.conclusion_ref.text then
    (.error (OperationContractError "conclusion_required"), s)
  else
    match task.linked_risk_id with
    | none => s.put_task task { task with status := .closed }
    | some risk_id =>
      match c.risk_disposition with
      | none => (.error (OperationContractError "risk_disposition_required"), s)
      | some disposition =>
        match s.risks.lookup risk_id with
        | none => (.error (.exception "KeyError"), s)
        | some risk =>
          { s with
            risks := s.risks.insert risk_id { risk with status := disposition.value, version := risk.version + 1 }
          }.put_task task { task with status := .closed }

/-- The update of an existing task, which stands at the expected version. -/
def update_task (command : Command Datetime Decimal) (ref : ProposalRef) (task : InvestigationTaskState)
    (s : MemoryStore) : Except Raised VersionStep × MemoryStore :=
  match command with
  | .assign_investigation c => s.put_task task { task with assignee_ref := some c.assignee_ref.text }
  | .transition_investigation c =>
    if task.status ≠ c.from_status then (.error (OperationConflictError "investigation_status_conflict"), s)
    else s.put_task task { task with status := c.to_status }
  | .add_investigation_conclusion _ =>
    if task.status ≠ .resolved then (.error (OperationContractError "investigation_not_resolved"), s)
    else s.put_task task { task with conclusion_ref := some (refName "conclusion" ref) }
  | .close_investigation c => s.close_investigation c task
  | _ => s.put_task task task

def apply_command (crypto : Crypto) (command : Command Datetime Decimal) (ref : ProposalRef) (s : MemoryStore) :
    Except Raised VersionStep × MemoryStore :=
  match command.existingTask with
  | some t =>
    match s.require_task t with
    | .error e => (.error e, s)
    | .ok task => s.update_task command ref task
  | none =>
    let task_id := crypto.uuid5 (refName "task" ref)
    match command with
    | .create_investigation_task c =>
      (.ok created,
        { s with tasks := s.tasks.insert task_id (new_task task_id c.priority c.public_summary.text none) })
    | .create_investigation_from_alert_hit c =>
      (.ok created,
        { s with
          tasks := s.tasks.insert task_id
            (new_task task_id c.priority "Created from a reviewed alert hit." none) })
    | .open_seller_risk_case c =>
      let risk_id := crypto.uuid5 (refName "risk" ref)
      (.ok created,
        { s with
          tasks := s.tasks.insert task_id
            (new_task task_id c.priority "Seller risk requires investigation." (some risk_id))
          risks := s.risks.insert risk_id ⟨risk_id, "under_investigation", 1⟩ })
    | _ =>
      let rule_id := crypto.uuid5 (refName "rule" ref)
      (.ok created, { s with rules := s.rules.insert rule_id ⟨rule_id, "enabled", 1⟩ })

def execution_receipt (crypto : Crypto) (proposal : StoredProposal) (versions : VersionStep) (now : Datetime) :
    ExecutionReceipt where
  execution_id := crypto.uuid5 (refName "operation" proposal.snapshot.proposal_ref)
  proposal_ref := proposal.snapshot.proposal_ref
  command_type := proposal.command.command.type
  before_version := versions.before_version
  after_version := versions.after_version
  advance := versions.advance
  committed_at := now
  public_summary := proposal.snapshot.preview.public_summary
  audit_ref := refName "audit" proposal.snapshot.proposal_ref

def execute_once (crypto : Crypto) (proposal : StoredProposal) (approval : StoredApproval) (now : Datetime)
    (s : MemoryStore) : Except Raised ExecutionReceipt × MemoryStore :=
  let ref := proposal.snapshot.proposal_ref
  match s.executions.lookup ref.key with
  | some previous => (.ok previous, s)
  | none =>
    match s.nonce_claims.lookup approval.nonce_digest with
    | some _ => (.error (ApprovalError "nonce_used"), s)
    | none =>
      match s.apply_command crypto proposal.command.command ref with
      | (.error e, s) => (.error e, s)
      | (.ok versions, s) =>
        let receipt := execution_receipt crypto proposal versions now
        (.ok receipt,
          { s with
            nonce_claims := s.nonce_claims.insert approval.nonce_digest ref
            executions := s.executions.insert ref.key receipt
            business_write_count := s.business_write_count + 1
            audit_count := s.audit_count + 1
            nonce_claim_count := s.nonce_claim_count + 1 })

def read_execution (proposal_ref : ProposalRef) (s : MemoryStore) : Option ExecutionReceipt :=
  s.executions.lookup proposal_ref.key

end MemoryStore

end CommerceAgent.Operations
