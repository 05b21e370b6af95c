import CommerceAgent.Operations.Canonical
import CommerceAgent.Lib.Base64

/-!
# Approval envelopes and execution grants

A grant is a signed envelope. Its bindings must equal those of the approval that the
store recorded, and its nonce must have the recorded digest.
-/

open CommerceAgent.Lib CommerceAgent.Lib.Json

namespace CommerceAgent.Operations

/-- What the keyring signs; its `schema_version` is always 1. -/
structure ApprovalEnvelope where
  proposal_id : UUID
  proposal_version : ℕ
  payload_sha256 : HexDigest
  requester_id : UUID
  approver_id : UUID
  target_versions : TargetVersions
  expires_at : Datetime
  nonce : Text 4 128
  deriving DecidableEq

def ApprovalEnvelope.canonical_projection (e : ApprovalEnvelope) : Json :=
  .obj [("schema_version", .num 1), ("proposal_id", toJson e.proposal_id),
    ("proposal_version", toJson e.proposal_version), ("payload_sha256", toJson e.payload_sha256),
    ("requester_id", toJson e.requester_id), ("approver_id", toJson e.approver_id),
    ("target_versions", toJson e.target_versions), ("expires_at", toJson e.expires_at.utc_z),
    ("nonce", toJson e.nonce)]

/-- The bytes that are signed. -/
def ApprovalEnvelope.message (e : ApprovalEnvelope) : List UInt8 := canonical_json_bytes e.canonical_projection

def ExecutionGrant.envelope (grant : ExecutionGrant) : ApprovalEnvelope where
  proposal_id := grant.proposal_id
  proposal_version := grant.proposal_version
  payload_sha256 := grant.payload_sha256
  requester_id := grant.requester_id
  approver_id := grant.approver_id
  target_versions := grant.target_versions
  expires_at := grant.expires_at
  nonce := grant.nonce

structure StoredApproval where
  proposal_ref : ProposalRef
  payload_sha256 : HexDigest
  requester_id : UUID
  approver_id : UUID
  target_versions : TargetVersions
  expires_at : Datetime
  nonce_digest : HexDigest
  key_version : ℕ
  deriving DecidableEq

/-- The approval keys, of which the active one signs. A grant carries a positive key version. -/
structure HmacApprovalKeyring where
  keys : ℕ → Option (List UInt8)
  active_version : ℕ
  active : (keys active_version).isSome
  positive : 1 ≤ active_version

section Keyring

variable (crypto : Crypto) (keyring : HmacApprovalKeyring)

def HmacApprovalKeyring.sign (key_version : ℕ) (message : List UInt8) : Except Raised HexDigest :=
  match keyring.keys key_version with
  | none => .error (ApprovalError "approval_key_unavailable")
  | some key => .ok (crypto.hmac_sha256 key message)

def HmacApprovalKeyring.verify (key_version : ℕ) (message : List UInt8) (signature : HexDigest) :
    Except Raised Bool := do
  let expected ← keyring.sign crypto key_version message
  return expected == signature

/-- The tuple that `verify_grant` compares; timestamps compare by their instant. -/
def StoredApproval.bindings (stored : StoredApproval) :
    UUID × ℕ × HexDigest × UUID × TargetVersions × ℕ × ℕ :=
  (stored.proposal_ref.proposal_id, stored.proposal_ref.version, stored.payload_sha256, stored.requester_id,
    stored.target_versions, stored.expires_at.instant, stored.key_version)

def ExecutionGrant.bindings (grant : ExecutionGrant) : UUID × ℕ × HexDigest × UUID × TargetVersions × ℕ × ℕ :=
  (grant.proposal_id, grant.proposal_version, grant.payload_sha256, grant.requester_id, grant.target_versions,
    grant.expires_at.instant, grant.key_version)

/-- The checks of `verify_grant` before it reads the clock. -/
def verify_bindings (grant : ExecutionGrant) (stored : StoredApproval) (actor : ActorContext) :
    Except Raised Unit :=
  if actor.actor_id ≠ grant.approver_id ∨ actor.actor_id ≠ stored.approver_id then
    .error (OperationAuthorizationError "grant_actor_mismatch")
  else
    match keyring.verify crypto grant.key_version grant.envelope.message grant.signature with
    | .error e => .error e
    | .ok false => .error (ApprovalError "signature_invalid")
    | .ok true =>
      if grant.bindings ≠ stored.bindings then .error (ApprovalError "signature_invalid")
      else
        match Base64.decode grant.nonce.text.toList with
        | none => .error (ApprovalError "signature_invalid")
        | some raw_nonce =>
          if crypto.sha256 raw_nonce ≠ stored.nonce_digest then .error (ApprovalError "signature_invalid")
          else .ok ()

/-- The last check of `verify_grant`. -/
def verify_expiry (grant : ExecutionGrant) (now : Datetime) : Except Raised Unit :=
  if grant.expires_at.instant ≤ now.instant then .error (ApprovalError "grant_expired") else .ok ()

def grant_envelope (proposal_ref : ProposalRef) (payload_sha256 : HexDigest) (requester_id : UUID)
    (approver : ActorContext) (target_versions : TargetVersions) (expires_at : Datetime) (nonce : Text 4 128) :
    ApprovalEnvelope where
  proposal_id := proposal_ref.proposal_id
  proposal_version := proposal_ref.version
  payload_sha256 := payload_sha256
  requester_id := requester_id
  approver_id := approver.actor_id
  target_versions := target_versions
  expires_at := expires_at
  nonce := nonce

/-- The text of a nonce of 32 bytes. -/
def nonceText (raw_nonce : List UInt8) (h : raw_nonce.length = 32) : Text 4 128 where
  text := String.ofList (Base64.encode raw_nonce)
  passes := by simp [Base64.length_encode, h]

/-- `execution_grant_sha256`: the digest of the whole grant, as it was presented. -/
def execution_grant_sha256 (grant : ExecutionGrant) : HexDigest :=
  crypto.sha256 (canonical_json_bytes
    (.obj [("proposal_id", toJson grant.proposal_id), ("proposal_version", toJson grant.proposal_version),
      ("payload_sha256", toJson grant.payload_sha256), ("requester_id", toJson grant.requester_id),
      ("approver_id", toJson grant.approver_id), ("target_versions", toJson grant.target_versions),
      ("expires_at", toJson grant.expires_at.isoformat), ("nonce", toJson grant.nonce),
      ("key_version", toJson grant.key_version), ("signature", toJson grant.signature)]))

/-! ## What the checks establish -/

theorem message_inj {a b : ApprovalEnvelope} (h : a.message = b.message) :
    a.proposal_id = b.proposal_id ∧ a.proposal_version = b.proposal_version ∧
      a.payload_sha256 = b.payload_sha256 ∧ a.requester_id = b.requester_id ∧ a.approver_id = b.approver_id ∧
      a.target_versions = b.target_versions ∧ a.expires_at.utc_z = b.expires_at.utc_z ∧ a.nonce = b.nonce := by
  have hjson := canonical_json_bytes_inj.mp h
  have h₁ := congrArg (field (α := UUID) "proposal_id") hjson
  have h₂ := congrArg (field (α := ℕ) "proposal_version") hjson
  have h₃ := congrArg (field (α := HexDigest) "payload_sha256") hjson
  have h₄ := congrArg (field (α := UUID) "requester_id") hjson
  have h₅ := congrArg (field (α := UUID) "approver_id") hjson
  have h₆ := congrArg (field (α := TargetVersions) "target_versions") hjson
  have h₇ := congrArg (field (α := String) "expires_at") hjson
  have h₈ := congrArg (field (α := Text 4 128) "nonce") hjson
  simp only [ApprovalEnvelope.canonical_projection, field] at h₁ h₂ h₃ h₄ h₅ h₆ h₇ h₈
  simp [get?_sortKeys, List.lookup_cons] at h₁ h₂ h₃ h₄ h₅ h₆ h₇ h₈
  exact ⟨h₁, h₂, h₃, h₄, h₅, h₆, h₇, h₈⟩

/-- What a grant that passes `verify_bindings` has in common with the approval. -/
structure Verified (grant : ExecutionGrant) (stored : StoredApproval) (actor : ActorContext) : Prop where
  approver : actor.actor_id = grant.approver_id ∧ actor.actor_id = stored.approver_id
  signature : keyring.verify crypto grant.key_version grant.envelope.message grant.signature = .ok true
  bindings : grant.bindings = stored.bindings
  nonce : ∃ raw_nonce, Base64.decode grant.nonce.text.toList = some raw_nonce ∧
    crypto.sha256 raw_nonce = stored.nonce_digest

variable {crypto keyring}

theorem verify_bindings_ok {grant : ExecutionGrant} {stored : StoredApproval} {actor : ActorContext} :
    verify_bindings crypto keyring grant stored actor = .ok () ↔ Verified crypto keyring grant stored actor := by
  constructor
  · intro h
    unfold verify_bindings at h
    split at h
    · cases h
    rename_i hactor
    obtain ⟨ha₁, ha₂⟩ := not_or.mp hactor
    split at h
    · cases h
    · cases h
    rename_i hverify
    split at h
    · cases h
    rename_i hbindings
    split at h
    · cases h
    rename_i raw_nonce hdecode
    split at h
    · cases h
    rename_i hdigest
    exact ⟨⟨not_not.mp ha₁, not_not.mp ha₂⟩, hverify, not_not.mp hbindings, raw_nonce, hdecode,
      not_not.mp hdigest⟩
  · rintro ⟨⟨ha₁, ha₂⟩, hverify, hbindings, raw_nonce, hdecode, hdigest⟩
    have hactor : ¬(actor.actor_id ≠ grant.approver_id ∨ actor.actor_id ≠ stored.approver_id) :=
      not_or.mpr ⟨not_not.mpr ha₁, not_not.mpr ha₂⟩
    simp only [verify_bindings, if_neg hactor, hverify, hbindings, hdecode, hdigest, ne_eq, not_true, if_false]

theorem decode_nonceText {raw_nonce : List UInt8} (h : raw_nonce.length = 32) :
    Base64.decode (nonceText raw_nonce h).text.toList = some raw_nonce := by
  rw [nonceText, String.toList_ofList, Base64.decode_encode]

end Keyring

end CommerceAgent.Operations
