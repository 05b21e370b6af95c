import CommerceAgent.Operations.History
import CommerceAgent.Operations.Binding

/-!
# Receipts are authorized

Over every run of the workflow, a stored receipt rests on an approval by another actor
than the requester, who executed it with the grant of that approval.
-/

open CommerceAgent.Lib CommerceAgent.Operations.MemoryStore

namespace CommerceAgent.Operations

section Authorization

variable (crypto : Crypto) (keyring : HmacApprovalKeyring)

/-- A signature cannot be forged: one that verifies was made for this message, under its key. -/
def unforged : Terms where
  direct := False
  trusted r w := keyring.verify crypto r.grant.key_version r.grant.envelope.message r.grant.signature = .ok true →
    ∃ key, keyring.keys r.grant.key_version = some key ∧ (key, r.grant.envelope.message) ∈ w.signed
  trusted_mono _ _ _ hg h hv := by
    obtain ⟨key, hkey, hmem⟩ := h hv
    exact ⟨key, hkey, hg.signed hmem⟩
  timely _ _ _ _ := True

/-- The grant presented is the one that the decision handed out: it has the same bindings and
a nonce of the same digest. If no other bytes have that digest, it is the same grant, up to
the time zone in which its expiry is written. -/
def PresentsGrantOf (grant : ExecutionGrant) (decision : DecisionReceipt) : Prop :=
  ∃ issued raw issued_raw, decision.grant = some issued ∧
    Base64.decode grant.nonce.text.toList = some raw ∧ Base64.decode issued.nonce.text.toList = some issued_raw ∧
    grant.bindings = issued.bindings ∧ grant.approver_id = issued.approver_id ∧
    crypto.sha256 raw = crypto.sha256 issued_raw ∧
    ((∀ other, crypto.sha256 other = crypto.sha256 issued_raw → other = issued_raw) →
      grant.nonce = issued.nonce ∧ grant.signature = issued.signature)

/-- The decision and the call behind a receipt. -/
structure ReceiptAuthorized (w : World) (key : UUID × ℕ) (receipt : ExecutionReceipt) (p : StoredProposal)
    (d : StoredDecision) (decision : DecisionReceipt) (r : ExecuteRequest) : Prop where
  proposal : w.store.proposals.lookup key = some p
  decided : w.store.decisions.lookup key = some d
  handed_out : w.store.decision_receipts.lookup key = some decision
  approved : p.snapshot.status = .approved ∧ d.status = .approved
  independent : d.approver_id ≠ p.requester_id
  executed : ∃ c ∈ w.commits, c.receipt = receipt ∧ c.request = .execute r
  presenter : r.actor.role = .approver ∧ r.actor.actor_id = d.approver_id ∧ r.grant.proposal_ref.key = key
  grant : PresentsGrantOf crypto r.grant decision

/-- The versions that can still be acted on. -/
def Live (s : MemoryStore) (key : UUID × ℕ) : Prop :=
  ∃ p, s.proposals.lookup key = some p ∧ (p.snapshot.status = .pending ∨ p.snapshot.status = .approved)

def HasStatus (s : MemoryStore) (key : UUID × ℕ) (status : ProposalStatus) : Prop :=
  ∃ p, s.proposals.lookup key = some p ∧ p.snapshot.status = status

variable {crypto keyring}

/-! ## From the invariant -/

theorem issued_nonce {w : World} (hi : Inv crypto keyring (unforged crypto keyring) w) {r : ExecuteRequest}
    {approval : StoredApproval} (hv : Verified crypto keyring r.grant approval r.actor)
    (ht : (unforged crypto keyring).trusted r w) : IssuedNonce r.grant.nonce := by
  obtain ⟨key, -, hmem⟩ := ht hv.signature
  obtain ⟨e, hmessage, hissued⟩ := hi.signed _ _ hmem
  have hnonce : r.grant.nonce = e.nonce := (message_inj hmessage).2.2.2.2.2.2.2
  rw [hnonce]
  exact hissued

theorem message_congr {a b : ExecutionGrant} (hb : a.bindings = b.bindings) (ha : a.approver_id = b.approver_id)
    (hn : a.nonce = b.nonce) : a.envelope.message = b.envelope.message := by
  simp only [ExecutionGrant.bindings, Prod.mk.injEq] at hb
  obtain ⟨h₁, h₂, h₃, h₄, h₅, h₆, -⟩ := hb
  have hutc : a.expires_at.utc_z = b.expires_at.utc_z := Datetime.utc_z_inj.mpr (by rw [h₆])
  simp only [ApprovalEnvelope.message, ApprovalEnvelope.canonical_projection, ExecutionGrant.envelope, h₁, h₂, h₃,
    h₄, h₅, hutc, ha, hn]

theorem presents_grant {w : World} (hi : Inv crypto keyring (unforged crypto keyring) w) {c : Commit}
    {r : ExecuteRequest} {p : StoredProposal} {d : StoredDecision}
    (ha : Authorized crypto keyring (unforged crypto keyring) w c r p d) {q : StoredProposal}
    {decision : DecisionReceipt} (hd : Decided crypto keyring q d decision) :
    PresentsGrantOf crypto r.grant decision := by
  obtain ⟨issued, issued_raw, hlen, hgrant, hnonce, hdigest, hbindings, happrover, -, hsigned⟩ :=
    hd.approval _ ha.approval
  obtain ⟨raw, hdecode, hsha⟩ := ha.verified.nonce
  have hb : r.grant.bindings = issued.bindings := ha.verified.bindings.trans hbindings
  have happ : r.grant.approver_id = issued.approver_id := by
    rw [← ha.verified.approver.1, ha.verified.approver.2, happrover]
  have hissued : Base64.decode issued.nonce.text.toList = some issued_raw := by
    rw [hnonce, decode_nonceText]
  refine ⟨issued, raw, issued_raw, hgrant, hdecode, hissued, hb, happ, hsha.trans hdigest, fun hcollision => ?_⟩
  obtain rfl := hcollision raw (hsha.trans hdigest)
  -- the nonce was issued, so it is written in the one way that `issue_grant` writes it
  obtain ⟨raw', hlen', hnonce'⟩ := issued_nonce hi ha.verified ha.trusted
  have hsame : raw' = raw := by
    rw [hnonce', decode_nonceText, Option.some.injEq] at hdecode
    exact hdecode
  subst hsame
  have hn : r.grant.nonce = issued.nonce := hnonce'.trans hnonce.symm
  refine ⟨hn, ?_⟩
  have hversion : r.grant.key_version = issued.key_version := by
    simp only [ExecutionGrant.bindings, Prod.mk.injEq] at hb
    exact hb.2.2.2.2.2.2
  have hv := ha.verified.signature
  rw [HmacApprovalKeyring.verify, hversion, message_congr hb happ hn, hsigned] at hv
  exact (by simpa [bind, Except.bind, pure, Except.pure] using hv : issued.signature = r.grant.signature).symm

theorem receipt_authorized {w : World} (hi : Inv crypto keyring (unforged crypto keyring) w) {key : UUID × ℕ}
    {receipt : ExecutionReceipt} (he : w.store.executions.lookup key = some receipt) :
    ∃ p d decision r, ReceiptAuthorized crypto w key receipt p d decision r := by
  obtain ⟨c, hmem, rfl, hkey⟩ := hi.executed key receipt he
  obtain ⟨r, p, d, ha⟩ := hi.commits not_false c hmem
  obtain ⟨q, decision, hq, hreceipt, hstatus, hdecided⟩ := hi.coherent.decisions _ d ha.decision
  have hr : r.grant.proposal_ref.key = key := by rw [← ha.receipt, hkey]
  rw [hr] at hq hreceipt
  refine ⟨q, d, decision, r, hq, hr ▸ ha.decision, hreceipt, ⟨hstatus ▸ ha.status, ha.status⟩,
    hdecided.independent, ⟨c, hmem, rfl, ha.request⟩, ⟨ha.role, ha.approver.symm, hr⟩, presents_grant hi ha hdecided⟩

theorem decision_iff {w : World} {terms : Terms} (hi : Inv crypto keyring terms w) (key : UUID × ℕ) :
    (w.store.decisions.lookup key).isSome ↔
      HasStatus w.store key .approved ∨ HasStatus w.store key .rejected := by
  constructor
  · intro h
    obtain ⟨d, hd⟩ := Option.isSome_iff_exists.mp h
    obtain ⟨p, decision, hp, -, hstatus, hdecided⟩ := hi.coherent.decisions key d hd
    rcases decision.consistent with ⟨hs, -⟩ | ⟨hs, -⟩
    · exact .inl ⟨p, hp, by rw [← hstatus, hdecided.status, hs]⟩
    · exact .inr ⟨p, hp, by rw [← hstatus, hdecided.status, hs]⟩
  · rintro (⟨p, hp, hs⟩ | ⟨p, hp, hs⟩)
    · exact hi.coherent.decided key p hp (.inl hs)
    · exact hi.coherent.decided key p hp (.inr hs)

theorem live_unique {w : World} {terms : Terms} (hi : Inv crypto keyring terms w) {id : UUID} {v v' : ℕ}
    (h : Live w.store (id, v)) (h' : Live w.store (id, v')) : v = v' := by
  obtain ⟨p, hp, hlive⟩ := h
  obtain ⟨p', hp', hlive'⟩ := h'
  have hl := hi.coherent.live _ p hp hlive
  exact Option.some.inj (hl.symm.trans (hi.coherent.live _ p' hp' hlive'))

theorem status_final {s s' : MemoryStore} (hg : MemoryStore.Grows s s') {key : UUID × ℕ} {status : ProposalStatus}
    (h : HasStatus s key status) (hne : status ≠ .pending) : HasStatus s' key status := by
  obtain ⟨p, hp, rfl⟩ := h
  obtain ⟨q, hq, -, hstatus⟩ := hg.proposals key p hp
  exact ⟨q, hq, hstatus hne⟩

theorem no_receipt {w : World} (hi : Inv crypto keyring (unforged crypto keyring) w) {key : UUID × ℕ}
    {status : ProposalStatus} (h : HasStatus w.store key status) (hne : status ≠ .approved) :
    w.store.executions.lookup key = none := by
  by_contra hsome
  obtain ⟨receipt, he⟩ := Option.ne_none_iff_exists'.mp hsome
  obtain ⟨p, d, decision, r, hauth⟩ := receipt_authorized hi he
  obtain ⟨q, hq, hstatus⟩ := h
  obtain rfl := Option.some.inj (hq.symm.trans hauth.proposal)
  exact hne (hstatus.symm.trans hauth.approved.1)

/-! ## Over every run -/

/-- In every reachable state, and in every state after it: receipts are authorized; a version
that was rejected, superseded or has expired stays so and has no receipt; a decision is there
exactly when the version is approved or rejected; one version of a proposal is live at most;
and an approved version stays approved. -/
theorem receipts_are_authorized (crypto : Crypto) (keyring : HmacApprovalKeyring)
    (initial_tasks : List InvestigationTaskState) (p q : Pool World Request Op Ans (Except Raised Response))
    (hp : Runs crypto keyring (workflowRules (unforged crypto keyring)) (newPool initial_tasks) p)
    (hq : Runs crypto keyring (workflowRules (unforged crypto keyring)) p q) :
    (∀ key receipt, p.shared.store.executions.lookup key = some receipt →
      ∃ proposal d decision r, ReceiptAuthorized crypto p.shared key receipt proposal d decision r) ∧
    (∀ key status, status = .rejected ∨ status = .superseded ∨ status = .expired →
      HasStatus p.shared.store key status →
      HasStatus q.shared.store key status ∧ q.shared.store.executions.lookup key = none) ∧
    (∀ key, (p.shared.store.decisions.lookup key).isSome ↔
      HasStatus p.shared.store key .approved ∨ HasStatus p.shared.store key .rejected) ∧
    (∀ id v v', Live p.shared.store (id, v) → Live p.shared.store (id, v') → v = v') ∧
    (∀ key, HasStatus p.shared.store key .approved → HasStatus q.shared.store key .approved) := by
  have hholds := history_holds hp
  obtain ⟨hafter, hgrows⟩ := Contract.sound history_sound history_starts hholds hq
  refine ⟨fun key receipt he => receipt_authorized hholds.1 he, ?_, decision_iff hholds.1,
    fun id v v' => live_unique hholds.1, fun key h => status_final hgrows.store h (by simp)⟩
  intro key status hstatus h
  have hne : status ≠ .pending ∧ status ≠ .approved := by
    rcases hstatus with rfl | rfl | rfl <;> simp
  have hfinal := status_final hgrows.store h hne.1
  exact ⟨hfinal, no_receipt hafter.1 hfinal hne.2⟩

end Authorization

/-! ## A run with a receipt -/

def sampleKeyring : HmacApprovalKeyring := ⟨fun v => if v = 1 then some [1] else none, 1, by decide, first_version⟩

/-- Outside at an instant: a nonce of zeros, and the identifier 7. -/
def sampleOutside (now : Datetime) : Outside := ⟨now, List.replicate 32 0, 7, .ok ⟨sampleEvidence, []⟩⟩

def sampleTitle : Text 1 200 := ⟨"Late deliveries", by decide⟩
def sampleSummary : Text 1 2000 := ⟨"Deliveries are late.", by decide⟩
def sampleKey : IdempotencyKey := ⟨"propose-1", by decide⟩

def sampleCommand : OperationCommand where
  command := .create_investigation_task
    { title := sampleTitle
      priority := .high
      public_summary := sampleSummary
      evidence_refs := sampleEvidence }
  valid := trivial

def samplePropose : ProposeRequest where
  actor := ⟨1, .analyst⟩
  command := sampleCommand
  evidence_refs := sampleEvidence
  idempotency_key := sampleKey
  revises := none

def sampleDecide : DecisionRequest := ⟨⟨2, .approver⟩, ⟨7, 1, first_version⟩, .approve, none⟩

/-- The grant that is issued at an instant, for the proposal 7. -/
def sampleGrant (expires_at : Datetime) : ExecutionGrant where
  proposal_id := 7
  proposal_version := 1
  positive := first_version
  payload_sha256 := HexDigest.ofNat 0
  requester_id := 1
  approver_id := 2
  target_versions := taskVersion 0
  expires_at := expires_at
  nonce := nonceText (List.replicate 32 0) (by decide)
  key_version := 1
  signature := HexDigest.ofNat 0

def sampleExecute (expires_at : Datetime) : ExecuteRequest := ⟨⟨2, .approver⟩, sampleGrant expires_at⟩

/-- A call alone on a pool, to its end. -/
def callAlone (o : Outside) (req : Request) (p : Pool World Request Op Ans (Except Raised Response)) :
    Pool World Request Op Ans (Except Raised Response) :=
  ⟨((body sampleCrypto sampleKeyring req).run (act sampleCrypto sampleKeyring o req) p.shared).2,
    p.calls ++ [(req, .done ((body sampleCrypto sampleKeyring req).run (act sampleCrypto sampleKeyring o req) p.shared).1)]⟩

/-- Proposed at the first instant, approved at the second, executed at the third. -/
def samplePool (created decided executed expires : Datetime) : Pool World Request Op Ans (Except Raised Response) :=
  callAlone (sampleOutside executed) (.execute (sampleExecute expires)) <|
  callAlone (sampleOutside decided) (.decide sampleDecide) <|
  callAlone (sampleOutside created) (.propose samplePropose) (newPool [])

def noon : Datetime := .utc (12 * 3600 * second) (by decide)
def laterAt : Datetime := .utc (12 * 3600 * second + 10 * 60 * second) (by decide)

instance (crypto : Crypto) (keyring : HmacApprovalKeyring) (r : ExecuteRequest) (e v t : Datetime) :
    Decidable ((unforged crypto keyring).timely r e v t) := .isTrue trivial

theorem callAlone_runs {rules : Pool.Rules World Request Op Outside}
    {p q : Pool World Request Op Ans (Except Raised Response)} (o : Outside) (req : Request)
    (h : Runs sampleCrypto sampleKeyring rules p q) (haccepts : rules.accepts q.shared req)
    (ho : (body sampleCrypto sampleKeyring req).Along (rules.oracle o req) (act sampleCrypto sampleKeyring o req)
      q.shared) : Runs sampleCrypto sampleKeyring rules p (callAlone o req q) :=
  Pool.Reach.call _ _ o req h haccepts ho

/-- The pool before the execution. -/
def decidedPool (created decided : Datetime) : Pool World Request Op Ans (Except Raised Response) :=
  callAlone (sampleOutside decided) (.decide sampleDecide) <|
  callAlone (sampleOutside created) (.propose samplePropose) (newPool [])

theorem decidedPool_signed : (decidedPool noon noon).shared.signed = [([1], (sampleGrant laterAt).envelope.message)] := by
  rfl

theorem samplePool_runs : Runs sampleCrypto sampleKeyring (workflowRules (unforged sampleCrypto sampleKeyring))
    (newPool []) (samplePool noon noon noon laterAt) := by
  refine callAlone_runs _ _ (callAlone_runs _ _ (callAlone_runs _ _ .init trivial ?_) trivial ?_) ?_ ?_
  · decide +kernel
  · decide +kernel
  · intro _
    refine ⟨[1], rfl, ?_⟩
    show _ ∈ (decidedPool noon noon).shared.signed
    rw [decidedPool_signed]
    exact List.mem_singleton_self _
  · decide +kernel

/-- The run stores a receipt, and it is authorized. -/
theorem samplePool_receipt_authorized :
    ∃ receipt, (samplePool noon noon noon laterAt).shared.store.executions.lookup (7, 1) = some receipt ∧
      ∃ proposal d decision r, ReceiptAuthorized sampleCrypto (samplePool noon noon noon laterAt).shared (7, 1) receipt
        proposal d decision r := by
  have hsome : ((samplePool noon noon noon laterAt).shared.store.executions.lookup (7, 1)).isSome = true := by
    decide +kernel
  obtain ⟨receipt, he⟩ := Option.isSome_iff_exists.mp hsome
  have h := receipts_are_authorized sampleCrypto sampleKeyring [] _ _ samplePool_runs .init
  exact ⟨receipt, he, h.1 _ receipt he⟩

end CommerceAgent.Operations
