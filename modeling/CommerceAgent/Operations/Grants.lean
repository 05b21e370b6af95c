import CommerceAgent.Operations.Authorization

/-!
# Grants that are accepted

`verify_grant` as a whole, and what it accepts for an approval that `decide` recorded.
-/

open CommerceAgent.Lib CommerceAgent.Operations.MemoryStore

namespace CommerceAgent.Operations

/-- `ApprovalService.verify_grant`, at the time `now` of the clock. -/
def verify_grant (crypto : Crypto) (keyring : HmacApprovalKeyring) (grant : ExecutionGrant) (stored : StoredApproval)
    (actor : ActorContext) (now : Datetime) : Except Raised Unit := do
  verify_bindings crypto keyring grant stored actor
  verify_expiry grant now

/-- The two grants are equal in every field, their expiries as instants. -/
structure ExecutionGrant.Same (grant issued : ExecutionGrant) : Prop where
  proposal_id : grant.proposal_id = issued.proposal_id
  proposal_version : grant.proposal_version = issued.proposal_version
  payload_sha256 : grant.payload_sha256 = issued.payload_sha256
  requester_id : grant.requester_id = issued.requester_id
  approver_id : grant.approver_id = issued.approver_id
  target_versions : grant.target_versions = issued.target_versions
  expires_at : grant.expires_at.instant = issued.expires_at.instant
  nonce : grant.nonce = issued.nonce
  key_version : grant.key_version = issued.key_version
  signature : grant.signature = issued.signature

/-- A grant whose signature verifies has a message that was signed, under the key of its version. -/
def Unforged (crypto : Crypto) (keyring : HmacApprovalKeyring) (signed : List (List UInt8 × List UInt8))
    (grant : ExecutionGrant) : Prop :=
  keyring.verify crypto grant.key_version grant.envelope.message grant.signature = .ok true →
    ∃ key, keyring.keys grant.key_version = some key ∧ (key, grant.envelope.message) ∈ signed

/-- The nonces of two grants do not collide. -/
def DistinctNonces (crypto : Crypto) (grant issued : ExecutionGrant) : Prop :=
  ∀ raw ∈ Base64.decode grant.nonce.text.toList, ∀ issued_raw ∈ Base64.decode issued.nonce.text.toList,
    crypto.sha256 raw = crypto.sha256 issued_raw → raw = issued_raw

/-- An approval in the store, with the grant that `decide` handed out for it. -/
structure Recorded (store : MemoryStore) (stored : StoredApproval) (issued : ExecutionGrant) : Prop where
  exists_decision : ∃ key decision receipt, store.decisions.lookup key = some decision ∧
    decision.approval = some stored ∧ store.decision_receipts.lookup key = some receipt ∧ receipt.grant = some issued

variable {crypto : Crypto} {keyring : HmacApprovalKeyring}

theorem verify_grant_ok {grant : ExecutionGrant} {stored : StoredApproval} {actor : ActorContext} {now : Datetime} :
    verify_grant crypto keyring grant stored actor now = .ok () ↔
      Verified crypto keyring grant stored actor ∧ now.instant < grant.expires_at.instant := by
  unfold verify_grant
  rw [← verify_bindings_ok]
  cases verify_bindings crypto keyring grant stored actor with
  | error raised =>
    constructor
    · intro h
      cases h
    · intro h
      cases h.1
  | ok _ =>
    change verify_expiry grant now = .ok () ↔ _
    unfold verify_expiry
    split_ifs with hexpired
    · constructor
      · intro h
        cases h
      · intro h
        exact absurd h.2 (Nat.not_lt.mpr hexpired)
    · exact ⟨fun _ => ⟨rfl, Nat.lt_of_not_le hexpired⟩, fun _ => rfl⟩

theorem bindings_eq {grant issued : ExecutionGrant} : grant.bindings = issued.bindings ↔
    grant.proposal_id = issued.proposal_id ∧ grant.proposal_version = issued.proposal_version ∧
      grant.payload_sha256 = issued.payload_sha256 ∧ grant.requester_id = issued.requester_id ∧
      grant.target_versions = issued.target_versions ∧ grant.expires_at.instant = issued.expires_at.instant ∧
      grant.key_version = issued.key_version := by
  unfold ExecutionGrant.bindings
  simp only [Prod.mk.injEq]

theorem ExecutionGrant.Same.message {grant issued : ExecutionGrant} (h : grant.Same issued) :
    grant.envelope.message = issued.envelope.message :=
  message_congr (bindings_eq.mpr ⟨h.proposal_id, h.proposal_version, h.payload_sha256, h.requester_id,
    h.target_versions, h.expires_at, h.key_version⟩) h.approver_id h.nonce

section Exactness

variable {terms : Terms} {w : World} {stored : StoredApproval} {issued grant : ExecutionGrant} {actor : ActorContext}
  {now : Datetime} {later : HmacApprovalKeyring}

theorem Recorded.issue (h : Recorded w.store stored issued) (hi : Inv crypto keyring terms w) :
    ∃ raw_nonce, ∃ hlen : raw_nonce.length = 32, issued.nonce = nonceText raw_nonce hlen ∧
      stored.nonce_digest = crypto.sha256 raw_nonce ∧ stored.bindings = issued.bindings ∧
      stored.approver_id = issued.approver_id ∧
      keyring.sign crypto issued.key_version issued.envelope.message = .ok issued.signature := by
  obtain ⟨key, decision, receipt, hdecision, happroval, hreceipt, hgrant⟩ := h.exists_decision
  obtain ⟨proposal, receipt', -, hreceipt', -, hdecided⟩ := hi.coherent.decisions key decision hdecision
  obtain rfl := Option.some.inj (hreceipt.symm.trans hreceipt')
  obtain ⟨grant, raw_nonce, hlen, hgrant', hnonce, hdigest, hbindings, happrover, -, hsigned⟩ :=
    hdecided.approval stored happroval
  obtain rfl := Option.some.inj (hgrant.symm.trans hgrant')
  exact ⟨raw_nonce, hlen, hnonce, hdigest, hbindings, happrover, hsigned⟩

theorem sign_held (hheld : later.keys issued.key_version = keyring.keys issued.key_version) (message : List UInt8) :
    later.sign crypto issued.key_version message = keyring.sign crypto issued.key_version message := by
  unfold HmacApprovalKeyring.sign
  rw [hheld]

theorem verify_ok {key_version : ℕ} {message : List UInt8} {signature expected : HexDigest}
    (hsign : keyring.sign crypto key_version message = .ok expected) :
    keyring.verify crypto key_version message signature = .ok true ↔ expected = signature := by
  unfold HmacApprovalKeyring.verify
  rw [hsign]
  change Except.ok (expected == signature) = .ok true ↔ _
  rw [Except.ok.injEq, beq_iff_eq]

theorem Recorded.accepted (h : Recorded w.store stored issued) (hi : Inv crypto keyring terms w)
    (hheld : later.keys issued.key_version = keyring.keys issued.key_version)
    (hunforged : Unforged crypto later w.signed grant) (hnonces : DistinctNonces crypto grant issued)
    (hverified : Verified crypto later grant stored actor) : grant.Same issued := by
  obtain ⟨raw_nonce, hlen, hnonce, hdigest, hbindings, happrover, hsigned⟩ := h.issue hi
  have hfields := bindings_eq.mp (hverified.bindings.trans hbindings)
  have happrovers : grant.approver_id = issued.approver_id := by
    rw [← hverified.approver.1, hverified.approver.2, happrover]
  obtain ⟨raw, hdecode, hsha⟩ := hverified.nonce
  have hissued : Base64.decode issued.nonce.text.toList = some raw_nonce := by rw [hnonce, decode_nonceText]
  obtain rfl := hnonces raw hdecode raw_nonce hissued (hsha.trans hdigest)
  -- the nonce was issued, so it is written in the one way that `issue_grant` writes it
  obtain ⟨key, -, hmem⟩ := hunforged hverified.signature
  obtain ⟨envelope, hmessage, raw', hlen', hnonce'⟩ := hi.signed _ _ hmem
  have hwritten : grant.nonce = nonceText raw' hlen' := by
    rw [← hnonce']
    exact (message_inj hmessage).2.2.2.2.2.2.2
  have hsame : raw' = raw := by
    rw [hwritten, decode_nonceText, Option.some.injEq] at hdecode
    exact hdecode
  subst hsame
  have hnonce_eq : grant.nonce = issued.nonce := hwritten.trans hnonce.symm
  have hmessage_eq := message_congr (hverified.bindings.trans hbindings) happrovers hnonce_eq
  have hsignature := hverified.signature
  rw [hmessage_eq, hfields.2.2.2.2.2.2, verify_ok ((sign_held hheld _).trans hsigned)] at hsignature
  exact ⟨hfields.1, hfields.2.1, hfields.2.2.1, hfields.2.2.2.1, happrovers, hfields.2.2.2.2.1, hfields.2.2.2.2.2.1,
    hnonce_eq, hfields.2.2.2.2.2.2, hsignature.symm⟩

theorem Recorded.genuine (h : Recorded w.store stored issued) (hi : Inv crypto keyring terms w)
    (hheld : later.keys issued.key_version = keyring.keys issued.key_version) (hsame : grant.Same issued)
    (hactor : actor.actor_id = stored.approver_id) : Verified crypto later grant stored actor := by
  obtain ⟨raw_nonce, hlen, hnonce, hdigest, hbindings, happrover, hsigned⟩ := h.issue hi
  refine ⟨⟨?_, hactor⟩, ?_, ?_, raw_nonce, ?_, hdigest.symm⟩
  · rw [hactor, happrover, hsame.approver_id]
  · rw [hsame.message, hsame.key_version, hsame.signature]
    exact (verify_ok ((sign_held hheld _).trans hsigned)).mpr rfl
  · rw [hbindings]
    exact bindings_eq.mpr ⟨hsame.proposal_id, hsame.proposal_version, hsame.payload_sha256, hsame.requester_id,
      hsame.target_versions, hsame.expires_at, hsame.key_version⟩
  · rw [hsame.nonce, hnonce, decode_nonceText]

end Exactness

/-- For an approval that `decide` recorded, `verify_grant` accepts the grant that was handed out for it, from its
approver and before its expiry, and nothing else. -/
theorem verify_grant_exact (crypto : Crypto) (keyring later : HmacApprovalKeyring) (terms : Terms)
    (initial_tasks : List InvestigationTaskState) (p : Pool World Request Op Ans (Except Raised Response))
    (hp : Runs crypto keyring (workflowRules terms) (newPool initial_tasks) p) (stored : StoredApproval)
    (issued : ExecutionGrant) (hrecorded : Recorded p.shared.store stored issued)
    (hheld : later.keys issued.key_version = keyring.keys issued.key_version) (grant : ExecutionGrant)
    (hunforged : Unforged crypto later p.shared.signed grant) (hnonces : DistinctNonces crypto grant issued)
    (actor : ActorContext) (now : Datetime) :
    verify_grant crypto later grant stored actor now = .ok () ↔
      grant.Same issued ∧ actor.actor_id = stored.approver_id ∧ now.instant < issued.expires_at.instant := by
  have hi := (history_holds hp).1
  rw [verify_grant_ok]
  constructor
  · rintro ⟨hverified, hnow⟩
    have hsame := hrecorded.accepted hi hheld hunforged hnonces hverified
    exact ⟨hsame, hverified.approver.2, hsame.expires_at ▸ hnow⟩
  · rintro ⟨hsame, hactor, hnow⟩
    exact ⟨hrecorded.genuine hi hheld hsame hactor, hsame.expires_at ▸ hnow⟩

/-! ## A grant, on time and late -/

/-- What `decide` stored beside the sample grant. -/
def grantedApproval : StoredApproval where
  proposal_ref := (sampleGrant laterAt).proposal_ref
  payload_sha256 := (sampleGrant laterAt).payload_sha256
  requester_id := (sampleGrant laterAt).requester_id
  approver_id := (sampleGrant laterAt).approver_id
  target_versions := (sampleGrant laterAt).target_versions
  expires_at := (sampleGrant laterAt).expires_at
  nonce_digest := HexDigest.ofNat 0
  key_version := (sampleGrant laterAt).key_version

theorem decidedPool_runs : Runs sampleCrypto sampleKeyring (workflowRules (unforged sampleCrypto sampleKeyring))
    (newPool []) (decidedPool noon noon) := by
  refine callAlone_runs _ _ (callAlone_runs _ _ .init trivial ?_) trivial ?_
  · decide +kernel
  · decide +kernel

theorem grantedApproval_recorded : Recorded (decidedPool noon noon).shared.store grantedApproval (sampleGrant laterAt) :=
  ⟨(7, 1), _, _, rfl, rfl, rfl, rfl⟩

theorem verify_grant_on_time :
    verify_grant sampleCrypto sampleKeyring (sampleGrant laterAt) grantedApproval ⟨2, .approver⟩ noon = .ok () := by
  refine (verify_grant_exact sampleCrypto sampleKeyring sampleKeyring (unforged sampleCrypto sampleKeyring) [] _
    decidedPool_runs grantedApproval (sampleGrant laterAt) grantedApproval_recorded rfl (sampleGrant laterAt) ?_ ?_
    ⟨2, .approver⟩ noon).mpr ⟨⟨rfl, rfl, rfl, rfl, rfl, rfl, rfl, rfl, rfl, rfl⟩, rfl, by decide⟩
  · intro _
    refine ⟨[1], rfl, ?_⟩
    rw [decidedPool_signed]
    exact List.mem_singleton_self _
  · intro raw hraw issued_raw hissued _
    exact Option.some.inj (hraw.symm.trans hissued)

end CommerceAgent.Operations
