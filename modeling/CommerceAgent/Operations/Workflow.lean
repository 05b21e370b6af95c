import CommerceAgent.Operations.Memory
import CommerceAgent.Lib.Flow

/-!
# The operation workflow

`propose`, `decide` and `execute` as flows of operations on the store, the clock, the
nonce source, the keyring and the reference validator. The `World` is the in-memory store
with what its history adds: the messages signed so far, and the executions committed.
-/

open CommerceAgent.Lib

namespace CommerceAgent.Operations

/-! ## Operations -/

/-- The reading of the clock that an operation makes, and the one that `verify_grant` made before
a commit. -/
inductive Reading where
  | created_at
  | issued_at
  | decided_at
  | deciding
  | verified_at
  | committed_at (verified_at : Datetime)
  deriving DecidableEq

inductive Op where
  | now (reading : Reading)
  | issue_nonce
  | sign (envelope : ApprovalEnvelope)
  | validate_command (command : OperationCommand) (evidence_refs : EvidenceRefs)
  | preview_command (command : OperationCommand) (validated : ValidatedReferences)
  | create_or_get_proposal (draft : ProposalDraft)
  | read_proposal (proposal_ref : ProposalRef)
  | decide_once (receipt : DecisionReceipt) (approval : Option StoredApproval) (now : Datetime)
  | read_decision (proposal_ref : ProposalRef)
  | read_execution (proposal_ref : ProposalRef)
  | execute_once (proposal : StoredProposal) (approval : StoredApproval) (grant : ExecutionGrant) (now : Datetime)

abbrev Ans : Op → Type
  | .now _ => Datetime
  | .issue_nonce => List UInt8
  | .sign _ => Except Raised HexDigest
  | .validate_command _ _ => Except Raised ValidatedReferences
  | .preview_command _ _ => Except Raised CommandPreview
  | .create_or_get_proposal _ => Except Raised ProposalSnapshot
  | .read_proposal _ => Except Raised (Option StoredProposal)
  | .decide_once _ _ _ => Except Raised DecisionReceipt
  | .read_decision _ => Except Raised (Option StoredDecision)
  | .read_execution _ => Except Raised (Option ExecutionReceipt)
  | .execute_once _ _ _ _ => Except Raised ExecutionReceipt

/-- A call of the workflow: it returns or raises. -/
abbrev Call (α : Type) := Flow Op Ans (Except Raised α)

def raise {α : Type} (e : Raised) : Call α := .done (.error e)

/-- Goes on with a value; an exception ends the call. -/
def onOk {α β : Type} (f : α → Call β) : Except Raised α → Call β
  | .ok a => f a
  | .error e => raise e

@[simp] theorem onOk_ok {α β : Type} (f : α → Call β) (a : α) : onOk f (.ok a) = f a := rfl

@[simp] theorem onOk_error {α β : Type} (f : α → Call β) (e : Raised) : onOk f (.error e) = raise e := rfl

theorem run_onOk {α β σ : Type} {act : (op : Op) → σ → Ans op × σ} {f : α → Call β} {r : Except Raised α} {a : α}
    {s : σ} (h : r = .ok a) : (onOk f r).run act s = (f a).run act s := by
  rw [h, onOk_ok]

theorem onOk_returned {α β σ : Type} {act : (op : Op) → σ → Ans op × σ} {f : α → Call β} {r : Except Raised α} {b : β}
    {s s' : σ} (h : (onOk f r).run act s = (.ok b, s')) : ∃ a, r = .ok a ∧ (f a).run act s = (.ok b, s') := by
  cases r with
  | error e => exact absurd (Prod.mk.inj h).1 (by simp)
  | ok a => exact ⟨a, rfl, h⟩

/-! ## The three methods -/

section Methods

variable (crypto : Crypto) (keyring : HmacApprovalKeyring)

def require_role {α : Type} (actor : ActorContext) (role : ActorRole) (reason_code : String) (k : Call α) : Call α :=
  if actor.role ≠ role then raise (OperationAuthorizationError reason_code) else k

def require_proposal {α : Type} (proposal_ref : ProposalRef) (k : StoredProposal → Call α) : Call α :=
  .ask (.read_proposal proposal_ref) <| onOk fun
    | none => raise (ApprovalError "proposal_not_found")
    | some proposal => k proposal

def propose (request : ProposeRequest) : Call ProposalSnapshot :=
  require_role request.actor .analyst "analyst_required" <|
  .ask (.validate_command request.command request.evidence_refs) <| onOk fun validated =>
  .ask (.preview_command request.command validated) <| onOk fun preview =>
  canonical_command crypto request.command preview.target_versions |> onOk fun canonical =>
  .ask (.now .created_at) fun now =>
  now.add (Datetime.hours 24) |> onOk fun expires_at =>
  .ask (.create_or_get_proposal
    { request := request
      preview := preview
      payload_sha256 := canonical.sha256
      created_at := now
      expires_at := expires_at
      validated_references := validated }) .done

/-- `ApprovalService.issue_grant`, for the proposal that was read. -/
def issue_grant {α : Type} (proposal : StoredProposal) (approver : ActorContext)
    (k : ExecutionGrant → HexDigest → Call α) : Call α :=
  .ask .issue_nonce fun raw_nonce =>
  if h : raw_nonce.length = 32 then
    .ask (.now .issued_at) fun now =>
    now.add (Datetime.minutes 10) |> onOk fun expires_at =>
    let envelope := grant_envelope proposal.snapshot.proposal_ref proposal.snapshot.payload_sha256
      proposal.requester_id approver proposal.snapshot.preview.target_versions expires_at (nonceText raw_nonce h)
    .ask (.sign envelope) <| onOk fun signature =>
    k { proposal_id := envelope.proposal_id
        proposal_version := envelope.proposal_version
        positive := proposal.snapshot.proposal_ref.positive
        payload_sha256 := envelope.payload_sha256
        requester_id := envelope.requester_id
        approver_id := envelope.approver_id
        target_versions := envelope.target_versions
        expires_at := envelope.expires_at
        nonce := envelope.nonce
        key_version := keyring.active_version
        signature := signature } (crypto.sha256 raw_nonce)
  else raise (ApprovalError "nonce_entropy_invalid")

/-- The approval that the workflow stores beside a grant. -/
def stored_approval (proposal : StoredProposal) (approver : ActorContext) (grant : ExecutionGrant)
    (nonce_digest : HexDigest) : StoredApproval where
  proposal_ref := proposal.snapshot.proposal_ref
  payload_sha256 := proposal.snapshot.payload_sha256
  requester_id := proposal.requester_id
  approver_id := approver.actor_id
  target_versions := proposal.snapshot.preview.target_versions
  expires_at := grant.expires_at
  nonce_digest := nonce_digest
  key_version := grant.key_version

def decide (request : DecisionRequest) : Call DecisionReceipt :=
  require_role request.actor .approver "approver_required" <|
  require_proposal request.proposal_ref fun proposal =>
  if proposal.requester_id = request.actor.actor_id then
    raise (OperationAuthorizationError "self_approval_denied")
  else
    match request.decision with
    | .approve =>
      issue_grant crypto keyring proposal request.actor fun grant nonce_digest =>
      .ask (.now .decided_at) fun decided_at =>
      .ask (.now .deciding) fun now =>
      .ask (.decide_once
        { proposal_ref := request.proposal_ref
          status := .approved
          approver_id := request.actor.actor_id
          decided_at := decided_at
          reason := request.reason
          grant := some grant
          consistent := .inl ⟨rfl, rfl⟩ }
        (some (stored_approval proposal request.actor grant nonce_digest)) now) .done
    | .reject =>
      .ask (.now .decided_at) fun decided_at =>
      .ask (.now .deciding) fun now =>
      .ask (.decide_once
        { proposal_ref := request.proposal_ref
          status := .rejected
          approver_id := request.actor.actor_id
          decided_at := decided_at
          reason := request.reason
          grant := none
          consistent := .inr ⟨rfl, rfl⟩ }
        none now) .done

/-- The approval and the grant digest of an approved decision. -/
def StoredDecision.approved (decision : StoredDecision) : Option (StoredApproval × HexDigest) :=
  match decision.status, decision.approval, decision.grant_sha256 with
  | .approved, some approval, some grant_sha256 => some (approval, grant_sha256)
  | _, _, _ => none

def execute (request : ExecuteRequest) : Call ExecutionReceipt :=
  require_role request.actor .approver "approver_required" <|
  let proposal_ref := request.grant.proposal_ref
  require_proposal proposal_ref fun proposal =>
  .ask (.read_decision proposal_ref) <| onOk fun found =>
  match found.bind fun decision => decision.approved.map (decision, ·) with
  | none => raise (ApprovalError "approval_required")
  | some (decision, approval, grant_sha256) =>
    if request.actor.actor_id ≠ decision.approver_id ∨ request.grant.approver_id ≠ decision.approver_id then
      raise (OperationAuthorizationError "grant_actor_mismatch")
    else
      .ask (.read_execution proposal_ref) <| onOk fun existing =>
      match existing.filter fun _ => execution_grant_sha256 crypto request.grant = grant_sha256 with
      | some receipt => .done (.ok receipt)
      | none =>
        verify_bindings crypto keyring request.grant approval request.actor |> onOk fun _ =>
        .ask (.now .verified_at) fun verified_at =>
        verify_expiry request.grant verified_at |> onOk fun _ =>
        .ask (.now (.committed_at verified_at)) fun now =>
        .ask (.execute_once proposal approval request.grant now) .done

end Methods

/-! ## Calls on a shared store -/

/-- A call of the workflow, or a call of the store's `execute_once` past it. -/
inductive Request where
  | propose (request : ProposeRequest)
  | decide (request : DecisionRequest)
  | execute (request : ExecuteRequest)
  | execute_once (proposal : StoredProposal) (approval : StoredApproval) (grant : ExecutionGrant) (now : Datetime)
  deriving DecidableEq

inductive Response where
  | proposal (snapshot : ProposalSnapshot)
  | decision (receipt : DecisionReceipt)
  | execution (receipt : ExecutionReceipt)
  deriving DecidableEq

def respond {α : Type} (f : α → Response) (call : Call α) : Call Response :=
  call.bind fun result => .done (result.map f)

def body (crypto : Crypto) (keyring : HmacApprovalKeyring) : Request → Call Response
  | .propose request => respond .proposal (propose crypto request)
  | .decide request => respond .decision (decide crypto keyring request)
  | .execute request => respond .execution (execute crypto keyring request)
  | .execute_once proposal approval grant now =>
    respond .execution (.ask (.execute_once proposal approval grant now) .done)

/-- What an operation reads from outside: the clock, the nonce source, `uuid4` and the
reference validator. -/
structure Outside where
  now : Datetime
  nonce : List UInt8
  uuid4 : UUID
  validated : Except Raised ValidatedReferences

/-- A committed execution: the call that committed it, what it handed to the store, and the receipt. -/
structure Commit where
  request : Request
  proposal : StoredProposal
  approval : StoredApproval
  receipt : ExecutionReceipt
  deriving DecidableEq

/-- The store, and its history: the latest reading of the clock, the messages signed so far
under each key, and the commits, the last one first. -/
structure World where
  store : MemoryStore
  clock : ℕ
  signed : List (List UInt8 × List UInt8)
  commits : List Commit

def World.initial (initial_tasks : List InvestigationTaskState) : World := ⟨.initial initial_tasks, 0, [], []⟩

section Act

variable (crypto : Crypto) (keyring : HmacApprovalKeyring)

/-- An operation of the store alone. -/
def World.onStore {α : Type} (w : World) (r : α × MemoryStore) : α × World := (r.1, { w with store := r.2 })

/-- An execution that was not there before is logged. -/
def World.log (w : World) (key : UUID × ℕ) (commit : ExecutionReceipt → Commit) (store : MemoryStore) : World :=
  match w.store.executions.lookup key, store.executions.lookup key with
  | none, some receipt => { w with store := store, commits := commit receipt :: w.commits }
  | _, _ => { w with store := store }

def act (o : Outside) (req : Request) : (op : Op) → World → Ans op × World
  | .now _, w => (o.now, { w with clock := o.now.instant })
  | .issue_nonce, w => (o.nonce, w)
  | .sign envelope, w =>
    match keyring.keys keyring.active_version with
    | none => (.error (ApprovalError "approval_key_unavailable"), w)
    | some key =>
      (.ok (crypto.hmac_sha256 key envelope.message), { w with signed := (key, envelope.message) :: w.signed })
  | .validate_command _ _, w => (o.validated, w)
  | .preview_command command _, w => (w.store.preview_command command, w)
  | .create_or_get_proposal draft, w => w.onStore (w.store.create_or_get_proposal o.uuid4 draft)
  | .read_proposal ref, w => (.ok (w.store.read_proposal ref), w)
  | .decide_once receipt approval now, w => w.onStore (w.store.decide_once crypto receipt approval now)
  | .read_decision ref, w => (.ok (w.store.read_decision ref), w)
  | .read_execution ref, w => (.ok (w.store.read_execution ref), w)
  | .execute_once proposal approval _ now, w =>
    let (result, store) := w.store.execute_once crypto proposal approval now
    (result, w.log proposal.snapshot.proposal_ref.key
      (fun receipt => ⟨req, proposal, approval, receipt⟩) store)

end Act

end CommerceAgent.Operations
