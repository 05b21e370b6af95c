import CommerceAgent.Operations.Workflow

/-!
# What the operations do to the store

Each method of the store comes down to a few updates: a version is added, retired,
decided or executed. `Coherent` is the invariant of the proposals and their decisions,
and `Grows` is what no operation takes back.
-/

open CommerceAgent.Lib

namespace CommerceAgent.Operations

namespace MemoryStore

/-! ## The updates -/

/-- A new version, and the entries that point to it. -/
def withVersion (ref : ProposalRef) (stored : StoredProposal)
    (idempotency : Dict (UUID × IdempotencyKey) (ProposalRef × String × HexDigest)) (s : MemoryStore) : MemoryStore :=
  { s with
    proposals := s.proposals.insert ref.key stored
    latest_versions := s.latest_versions.insert ref.proposal_id ref.version
    idempotency := idempotency }

/-- A pending version under a reference. -/
structure Opens (ref : ProposalRef) (stored : StoredProposal) : Prop where
  ref : stored.snapshot.proposal_ref = ref
  pending : stored.snapshot.status = .pending

theorem insert_proposal_cases {draft : ProposalDraft} {ref : ProposalRef} {s s' : MemoryStore}
    {result : Except Raised ProposalSnapshot} (h : s.insert_proposal draft ref = (result, s')) :
    s' = s ∨ ∃ stored idempotency, Opens ref stored ∧ s' = s.withVersion ref stored idempotency := by
  simp only [insert_proposal] at h
  split at h <;> injection h with _ h <;> subst h
  · exact .inr ⟨_, _, ⟨rfl, rfl⟩, rfl⟩
  · exact .inl rfl

/-- The version that a revision supersedes. -/
structure Revisable (revises : ProposalRef) (previous : StoredProposal) (s : MemoryStore) : Prop where
  stored : s.proposals.lookup revises.key = some previous
  pending : previous.snapshot.status = .pending
  latest : s.latest_versions.lookup revises.proposal_id = some revises.version

theorem create_cases {uuid4 : UUID} {draft : ProposalDraft} {s s' : MemoryStore}
    {result : Except Raised ProposalSnapshot} (h : s.create_or_get_proposal uuid4 draft = (result, s')) :
    s' = s ∨
      (∃ ref stored idempotency, ref.proposal_id = uuid4 ∧ Opens ref stored ∧
        s' = s.withVersion ref stored idempotency) ∨
      (∃ revises previous, Revisable revises previous s ∧
        (s' = s.set_status revises.key .superseded previous ∨
          ∃ stored idempotency, Opens revises.next stored ∧
            s' = (s.set_status revises.key .superseded previous).withVersion revises.next stored idempotency)) := by
  simp only [create_or_get_proposal] at h
  split at h
  · split at h
    · exact .inl (congrArg Prod.snd h).symm
    · split at h <;> exact .inl (congrArg Prod.snd h).symm
  · split at h
    · rcases insert_proposal_cases h with hs | ⟨stored, idempotency, ho, hs⟩
      · exact .inl hs
      · exact .inr (.inl ⟨_, stored, idempotency, rfl, ho, hs⟩)
    · rename_i revises _
      split at h
      · exact .inl (congrArg Prod.snd h).symm
      · rename_i previous hprevious
        split at h
        · exact .inl (congrArg Prod.snd h).symm
        · rename_i hcond
          push Not at hcond
          exact .inr (.inr ⟨revises, previous, ⟨hprevious, hcond.2.1, hcond.2.2⟩, insert_proposal_cases h⟩)

/-- A decision and its receipt, and the status that they give to the version. -/
def withDecision (key : UUID × ℕ) (proposal : StoredProposal) (decision : StoredDecision) (receipt : DecisionReceipt)
    (s : MemoryStore) : MemoryStore :=
  { s.set_status key receipt.status proposal with
    decisions := s.decisions.insert key decision
    decision_receipts := s.decision_receipts.insert key receipt }

/-- What `decide_once` records. -/
def recorded (crypto : Crypto) (receipt : DecisionReceipt) (approval : Option StoredApproval) : StoredDecision where
  status := receipt.status
  approver_id := receipt.approver_id
  decided_at := receipt.decided_at
  reason := receipt.reason
  approval := approval
  grant_sha256 := receipt.grant.map (execution_grant_sha256 crypto)

theorem decide_cases {crypto : Crypto} {receipt : DecisionReceipt} {approval : Option StoredApproval}
    {now : Datetime} {s s' : MemoryStore} {result : Except Raised DecisionReceipt}
    (h : s.decide_once crypto receipt approval now = (result, s')) :
    s' = s ∨
      ∃ proposal, s.proposals.lookup receipt.proposal_ref.key = some proposal ∧ proposal.snapshot.status = .pending ∧
        (s' = s.set_status receipt.proposal_ref.key .expired proposal ∨
          s' = s.withDecision receipt.proposal_ref.key proposal (recorded crypto receipt approval) receipt) := by
  simp only [decide_once] at h
  split at h
  · exact .inl (congrArg Prod.snd h).symm
  · rename_i proposal hproposal
    split at h
    · exact .inl (congrArg Prod.snd h).symm
    · rename_i hpending
      refine .inr ⟨proposal, hproposal, not_not.mp hpending, ?_⟩
      split at h
      · exact .inl (congrArg Prod.snd h).symm
      · exact .inr (congrArg Prod.snd h).symm

/-- Other tasks, risks and rules. -/
def withTargets (s targets : MemoryStore) : MemoryStore :=
  { s with tasks := targets.tasks, risks := targets.risks, rules := targets.rules }

/-- A command that fails leaves the store as it was; one that succeeds touches its targets alone. -/
def TouchesTargets (s : MemoryStore) (r : Except Raised VersionStep × MemoryStore) : Prop :=
  (∃ e, r = (.error e, s)) ∨ ((∃ versions, r.1 = .ok versions) ∧ r.2 = s.withTargets r.2)

theorem put_task_touches (s : MemoryStore) (task changed : InvestigationTaskState) :
    s.TouchesTargets (s.put_task task changed) :=
  .inr ⟨⟨_, rfl⟩, rfl⟩

theorem close_investigation_touches (s : MemoryStore) (c : CloseInvestigation) (task : InvestigationTaskState) :
    s.TouchesTargets (s.close_investigation c task) := by
  unfold close_investigation
  split
  · exact .inl ⟨_, rfl⟩
  split
  · exact .inl ⟨_, rfl⟩
  split
  · exact s.put_task_touches task _
  split
  · exact .inl ⟨_, rfl⟩
  split
  · exact .inl ⟨_, rfl⟩
  · exact .inr ⟨⟨_, rfl⟩, rfl⟩

theorem update_task_touches (s : MemoryStore) (command : Command Datetime Decimal) (ref : ProposalRef)
    (task : InvestigationTaskState) : s.TouchesTargets (s.update_task command ref task) := by
  cases command with
  | transition_investigation c =>
    simp only [update_task]
    split
    · exact .inl ⟨_, rfl⟩
    · exact s.put_task_touches task _
  | add_investigation_conclusion c =>
    simp only [update_task]
    split
    · exact .inl ⟨_, rfl⟩
    · exact s.put_task_touches task _
  | close_investigation c => exact s.close_investigation_touches c task
  | _ => exact s.put_task_touches task _

theorem apply_command_touches (crypto : Crypto) (command : Command Datetime Decimal) (ref : ProposalRef)
    (s : MemoryStore) : s.TouchesTargets (s.apply_command crypto command ref) := by
  unfold apply_command
  split
  · split
    · exact .inl ⟨_, rfl⟩
    · exact s.update_task_touches command ref _
  · cases command <;> exact .inr ⟨⟨_, rfl⟩, rfl⟩

/-- An execution, with its nonce claim, its counts and the targets that it wrote. -/
def withExecution (s targets : MemoryStore) (nonce_digest : HexDigest) (receipt : ExecutionReceipt) :
    MemoryStore :=
  { s.withTargets targets with
    nonce_claims := s.nonce_claims.insert nonce_digest receipt.proposal_ref
    executions := s.executions.insert receipt.proposal_ref.key receipt
    business_write_count := s.business_write_count + 1
    audit_count := s.audit_count + 1
    nonce_claim_count := s.nonce_claim_count + 1 }

theorem execute_cases {crypto : Crypto} {proposal : StoredProposal} {approval : StoredApproval} {now : Datetime}
    {s s' : MemoryStore} {result : Except Raised ExecutionReceipt}
    (h : s.execute_once crypto proposal approval now = (result, s')) :
    (∃ previous, s.executions.lookup proposal.snapshot.proposal_ref.key = some previous ∧ result = .ok previous ∧
        s' = s) ∨
      (s.executions.lookup proposal.snapshot.proposal_ref.key = none ∧ (∃ e, result = .error e) ∧ s' = s) ∨
      (s.executions.lookup proposal.snapshot.proposal_ref.key = none ∧
        s.nonce_claims.lookup approval.nonce_digest = none ∧
        ∃ versions targets,
          s.apply_command crypto proposal.command.command proposal.snapshot.proposal_ref = (.ok versions, targets) ∧
          result = .ok (execution_receipt crypto proposal versions now) ∧
          s' = s.withExecution targets approval.nonce_digest (execution_receipt crypto proposal versions now)) := by
  simp only [execute_once] at h
  split at h
  · rename_i previous hprevious
    obtain ⟨rfl, rfl⟩ := Prod.mk.inj h
    exact .inl ⟨previous, hprevious, rfl, rfl⟩
  rename_i hnone
  split at h
  · obtain ⟨rfl, rfl⟩ := Prod.mk.inj h
    exact .inr (.inl ⟨hnone, ⟨_, rfl⟩, rfl⟩)
  rename_i hclaim
  rcases s.apply_command_touches crypto proposal.command.command proposal.snapshot.proposal_ref with
    ⟨e, he⟩ | ⟨⟨versions, hok⟩, hframe⟩
  · rw [he] at h
    obtain ⟨rfl, rfl⟩ := Prod.mk.inj h
    exact .inr (.inl ⟨hnone, ⟨e, rfl⟩, rfl⟩)
  · generalize hr : s.apply_command crypto proposal.command.command proposal.snapshot.proposal_ref = r at *
    obtain ⟨applied, t⟩ := r
    obtain rfl : applied = .ok versions := hok
    have hframe : t = s.withTargets t := hframe
    rw [hframe] at h
    obtain ⟨rfl, rfl⟩ := Prod.mk.inj h
    exact .inr (.inr ⟨hnone, hclaim, versions, t, rfl, rfl, rfl⟩)

/-! ## Coherence -/

/-- What a decision has to do with the version that it is about. -/
structure Decided (crypto : Crypto) (keyring : HmacApprovalKeyring) (proposal : StoredProposal)
    (decision : StoredDecision) (receipt : DecisionReceipt) : Prop where
  status : decision.status = receipt.status
  approver : decision.approver_id = receipt.approver_id
  independent : decision.approver_id ≠ proposal.requester_id
  /-- An approval comes from the grant of the receipt. -/
  approval : ∀ approval, decision.approval = some approval →
    ∃ grant raw_nonce, ∃ hlen : raw_nonce.length = 32, receipt.grant = some grant ∧
      grant.nonce = nonceText raw_nonce hlen ∧
      approval.nonce_digest = crypto.sha256 raw_nonce ∧
      approval.bindings = grant.bindings ∧
      approval.approver_id = grant.approver_id ∧
      approval.expires_at = grant.expires_at ∧
      keyring.sign crypto grant.key_version grant.envelope.message = .ok grant.signature
  grant_sha256 : decision.grant_sha256 = receipt.grant.map (execution_grant_sha256 crypto)
  grant : ∀ grant, receipt.grant = some grant → grant.proposal_ref = proposal.snapshot.proposal_ref ∧
    grant.approver_id = decision.approver_id ∧ decision.approval.isSome

/-- The proposals, their latest versions and their decisions fit together. -/
structure Coherent (crypto : Crypto) (keyring : HmacApprovalKeyring) (s : MemoryStore) : Prop where
  ref : ∀ key p, s.proposals.lookup key = some p → p.snapshot.proposal_ref.key = key
  known : ∀ key p, s.proposals.lookup key = some p →
    ∃ latest, s.latest_versions.lookup key.1 = some latest ∧ key.2 ≤ latest
  live : ∀ key p, s.proposals.lookup key = some p → p.snapshot.status = .pending ∨ p.snapshot.status = .approved →
    s.latest_versions.lookup key.1 = some key.2
  decided : ∀ key p, s.proposals.lookup key = some p →
    p.snapshot.status = .approved ∨ p.snapshot.status = .rejected → (s.decisions.lookup key).isSome
  decisions : ∀ key d, s.decisions.lookup key = some d →
    ∃ p r, s.proposals.lookup key = some p ∧ s.decision_receipts.lookup key = some r ∧
      d.status = p.snapshot.status ∧ Decided crypto keyring p d r
  receipts : ∀ key r, s.decision_receipts.lookup key = some r → (s.decisions.lookup key).isSome

variable {crypto : Crypto} {keyring : HmacApprovalKeyring} {s : MemoryStore}

theorem coherent_initial (crypto : Crypto) (keyring : HmacApprovalKeyring) (tasks : List InvestigationTaskState) :
    Coherent crypto keyring (initial tasks) := by
  constructor <;> intro key _ h <;> simp [initial] at h

theorem Coherent.congr {s' : MemoryStore} (h : Coherent crypto keyring s) (hp : s'.proposals = s.proposals)
    (hl : s'.latest_versions = s.latest_versions) (hd : s'.decisions = s.decisions)
    (hr : s'.decision_receipts = s.decision_receipts) : Coherent crypto keyring s' := by
  obtain ⟨h₁, h₂, h₃, h₄, h₅, h₆⟩ := h
  constructor <;> simp only [hp, hl, hd, hr] <;> assumption

theorem Coherent.undecided (h : Coherent crypto keyring s) {key : UUID × ℕ} {p : StoredProposal}
    (hp : s.proposals.lookup key = some p) (hpending : p.snapshot.status = .pending) : s.decisions.lookup key = none := by
  by_contra hne
  obtain ⟨d, hd⟩ := Option.ne_none_iff_exists'.mp hne
  obtain ⟨p', r, hp', -, hstatus, hdecided⟩ := h.decisions key d hd
  rw [hp, Option.some.injEq] at hp'
  have := r.consistent
  rw [← hdecided.status, hstatus, ← hp', hpending] at this
  simp at this

theorem Coherent.retire (h : Coherent crypto keyring s) {key : UUID × ℕ} {p : StoredProposal} {status : ProposalStatus}
    (hp : s.proposals.lookup key = some p) (hpending : p.snapshot.status = .pending)
    (hstatus : status = .superseded ∨ status = .expired) : Coherent crypto keyring (s.set_status key status p) := by
  have hundecided := h.undecided hp hpending
  constructor
  · intro k q hq
    simp only [set_status, Dict.lookup_insert] at hq
    split_ifs at hq with hk
    · subst hk
      obtain rfl := Option.some.inj hq
      exact h.ref _ p hp
    · exact h.ref k q hq
  · intro k q hq
    simp only [set_status, Dict.lookup_insert] at hq
    split_ifs at hq with hk
    · subst hk
      exact h.known _ p hp
    · exact h.known k q hq
  · intro k q hq hlive
    simp only [set_status, Dict.lookup_insert] at hq
    split_ifs at hq with hk
    · obtain rfl := Option.some.inj hq
      rcases hstatus with rfl | rfl <;> simp at hlive
    · exact h.live k q hq hlive
  · intro k q hq hdec
    simp only [set_status, Dict.lookup_insert] at hq
    split_ifs at hq with hk
    · obtain rfl := Option.some.inj hq
      rcases hstatus with rfl | rfl <;> simp at hdec
    · exact h.decided k q hq hdec
  · intro k d hd
    have hk : k ≠ key := by
      rintro rfl
      have hd' : s.decisions.lookup k = some d := hd
      rw [hundecided] at hd'
      cases hd'
    obtain ⟨q, r, hq, hr, hrest⟩ := h.decisions k d hd
    exact ⟨q, r, by simp only [set_status, Dict.lookup_insert, if_neg hk, hq], hr, hrest⟩
  · exact h.receipts

/-- A version is added behind all others of its proposal, none of which is live. -/
theorem Coherent.add (h : Coherent crypto keyring s) {ref : ProposalRef} {stored : StoredProposal}
    {idempotency : Dict (UUID × IdempotencyKey) (ProposalRef × String × HexDigest)} (ho : Opens ref stored)
    (hlast : ∀ key p, s.proposals.lookup key = some p → key.1 = ref.proposal_id →
      key.2 < ref.version ∧ p.snapshot.status ≠ .pending ∧ p.snapshot.status ≠ .approved) :
    Coherent crypto keyring (s.withVersion ref stored idempotency) := by
  have hnew : s.proposals.lookup ref.key = none := by
    by_contra hne
    obtain ⟨p, hp⟩ := Option.ne_none_iff_exists'.mp hne
    exact absurd (hlast ref.key p hp rfl).1 (lt_irrefl _)
  constructor
  · intro k q hq
    simp only [withVersion, Dict.lookup_insert] at hq
    split_ifs at hq with hk
    · subst hk
      obtain rfl := Option.some.inj hq
      rw [ho.ref]
    · exact h.ref k q hq
  · intro k q hq
    simp only [withVersion, Dict.lookup_insert] at hq ⊢
    split_ifs at hq with hk
    · subst hk
      exact ⟨ref.version, if_pos rfl, le_refl _⟩
    · by_cases hid : k.1 = ref.proposal_id
      · exact ⟨ref.version, if_pos hid, (hlast k q hq hid).1.le⟩
      · rw [if_neg hid]
        exact h.known k q hq
  · intro k q hq hlive
    simp only [withVersion, Dict.lookup_insert] at hq ⊢
    split_ifs at hq with hk
    · subst hk
      exact if_pos rfl
    · by_cases hid : k.1 = ref.proposal_id
      · obtain ⟨-, hp, ha⟩ := hlast k q hq hid
        exact absurd hlive (not_or.mpr ⟨hp, ha⟩)
      · rw [if_neg hid]
        exact h.live k q hq hlive
  · intro k q hq hdec
    simp only [withVersion, Dict.lookup_insert] at hq
    split_ifs at hq with hk
    · obtain rfl := Option.some.inj hq
      simp [ho.pending] at hdec
    · exact h.decided k q hq hdec
  · intro k d hd
    obtain ⟨q, r, hq, hr, hrest⟩ := h.decisions k d hd
    have hk : k ≠ ref.key := by
      rintro rfl
      rw [hnew] at hq
      cases hq
    exact ⟨q, r, by simp only [withVersion, Dict.lookup_insert, if_neg hk, hq], hr, hrest⟩
  · exact h.receipts

theorem Coherent.decide (h : Coherent crypto keyring s) {key : UUID × ℕ} {p : StoredProposal} {d : StoredDecision}
    {r : DecisionReceipt} (hp : s.proposals.lookup key = some p) (hpending : p.snapshot.status = .pending)
    (hd : Decided crypto keyring p d r) : Coherent crypto keyring (s.withDecision key p d r) := by
  constructor
  · intro k q hq
    simp only [withDecision, set_status, Dict.lookup_insert] at hq
    split_ifs at hq with hk
    · subst hk
      obtain rfl := Option.some.inj hq
      exact h.ref _ p hp
    · exact h.ref k q hq
  · intro k q hq
    simp only [withDecision, set_status, Dict.lookup_insert] at hq
    split_ifs at hq with hk
    · subst hk
      exact h.known _ p hp
    · exact h.known k q hq
  · intro k q hq hlive
    simp only [withDecision, set_status, Dict.lookup_insert] at hq
    split_ifs at hq with hk
    · subst hk
      exact h.live _ p hp (.inl hpending)
    · exact h.live k q hq hlive
  · intro k q hq hdec
    simp only [withDecision, set_status, Dict.lookup_insert] at hq ⊢
    split_ifs at hq ⊢ with hk
    · rfl
    · exact h.decided k q hq hdec
  · intro k e he
    simp only [withDecision, set_status, Dict.lookup_insert] at he ⊢
    split_ifs at he ⊢ with hk
    · obtain rfl := Option.some.inj he
      exact ⟨_, r, rfl, rfl, hd.status, ⟨hd.status, hd.approver, hd.independent, hd.approval, hd.grant_sha256, hd.grant⟩⟩
    · exact h.decisions k e he
  · intro k e he
    simp only [withDecision, set_status, Dict.lookup_insert] at he ⊢
    split_ifs at he ⊢ with hk
    · rfl
    · exact h.receipts k e he

/-! ## Growth -/

/-- The part of a proposal that never changes. -/
def SameProposal (p q : StoredProposal) : Prop :=
  q = { p with snapshot := { p.snapshot with status := q.snapshot.status } }

theorem SameProposal.refl (p : StoredProposal) : SameProposal p p := rfl

theorem SameProposal.trans {p q r : StoredProposal} (h₁ : SameProposal p q) (h₂ : SameProposal q r) :
    SameProposal p r := by
  unfold SameProposal at *
  rw [h₂, h₁]

theorem SameProposal.expires {p q : StoredProposal} (h : SameProposal p q) :
    q.snapshot.expires_at = p.snapshot.expires_at := by
  rw [h]

/-- What stays of a store: its proposals, their final statuses, and what is recorded about them. -/
structure Grows (s s' : MemoryStore) : Prop where
  proposals : ∀ key p, s.proposals.lookup key = some p → ∃ q, s'.proposals.lookup key = some q ∧ SameProposal p q ∧
    (p.snapshot.status ≠ .pending → q.snapshot.status = p.snapshot.status)
  decisions : ∀ key d, s.decisions.lookup key = some d → s'.decisions.lookup key = some d
  receipts : ∀ key r, s.decision_receipts.lookup key = some r → s'.decision_receipts.lookup key = some r
  executions : ∀ key r, s.executions.lookup key = some r → s'.executions.lookup key = some r

theorem Grows.refl (s : MemoryStore) : Grows s s :=
  ⟨fun _ p h => ⟨p, h, .refl p, fun _ => rfl⟩, fun _ _ h => h, fun _ _ h => h, fun _ _ h => h⟩

theorem Grows.trans {s s' s'' : MemoryStore} (h₁ : Grows s s') (h₂ : Grows s' s'') : Grows s s'' := by
  refine ⟨?_, fun k d h => h₂.decisions k d (h₁.decisions k d h), fun k d h => h₂.receipts k d (h₁.receipts k d h),
    fun k d h => h₂.executions k d (h₁.executions k d h)⟩
  intro key p hp
  obtain ⟨q, hq, hsame, hstatus⟩ := h₁.proposals key p hp
  obtain ⟨r, hr, hsame', hstatus'⟩ := h₂.proposals key q hq
  refine ⟨r, hr, hsame.trans hsame', fun hne => ?_⟩
  rw [hstatus' (by rwa [hstatus hne]), hstatus hne]

theorem grows_set_status {key : UUID × ℕ} {p : StoredProposal} {status : ProposalStatus}
    (hp : s.proposals.lookup key = some p) (hpending : p.snapshot.status = .pending) :
    Grows s (s.set_status key status p) := by
  refine ⟨?_, fun _ _ h => h, fun _ _ h => h, fun _ _ h => h⟩
  intro k q hq
  simp only [set_status, Dict.lookup_insert]
  split_ifs with hk
  · subst hk
    rw [hp, Option.some.injEq] at hq
    subst hq
    exact ⟨_, rfl, rfl, fun hne => absurd hpending hne⟩
  · exact ⟨q, hq, .refl q, fun _ => rfl⟩

theorem grows_withVersion {ref : ProposalRef} {stored : StoredProposal}
    {idempotency : Dict (UUID × IdempotencyKey) (ProposalRef × String × HexDigest)}
    (hnew : s.proposals.lookup ref.key = none) : Grows s (s.withVersion ref stored idempotency) := by
  refine ⟨?_, fun _ _ h => h, fun _ _ h => h, fun _ _ h => h⟩
  intro k q hq
  simp only [withVersion, Dict.lookup_insert]
  split_ifs with hk
  · rw [hk, hnew] at hq
    cases hq
  · exact ⟨q, hq, .refl q, fun _ => rfl⟩

theorem grows_withDecision (h : Coherent crypto keyring s) {key : UUID × ℕ} {p : StoredProposal} {d : StoredDecision}
    {r : DecisionReceipt} (hp : s.proposals.lookup key = some p) (hpending : p.snapshot.status = .pending) :
    Grows s (s.withDecision key p d r) := by
  have hg : Grows s (s.set_status key r.status p) := grows_set_status hp hpending
  have hundecided := h.undecided hp hpending
  refine ⟨hg.proposals, ?_, ?_, fun _ _ h => h⟩
  · intro k e he
    simp only [withDecision, Dict.lookup_insert]
    split_ifs with hk
    · rw [hk, hundecided] at he
      cases he
    · exact he
  · intro k e he
    simp only [withDecision, Dict.lookup_insert]
    split_ifs with hk
    · have hsome := h.receipts k e he
      rw [hk, hundecided] at hsome
      cases hsome
    · exact he

theorem grows_withExecution {targets : MemoryStore} {nonce_digest : HexDigest} {receipt : ExecutionReceipt}
    (hnone : s.executions.lookup receipt.proposal_ref.key = none) :
    Grows s (s.withExecution targets nonce_digest receipt) := by
  refine ⟨fun _ p h => ⟨p, h, .refl p, fun _ => rfl⟩, fun _ _ h => h, fun _ _ h => h, ?_⟩
  intro k e he
  simp only [withExecution, Dict.lookup_insert]
  split_ifs with hk
  · rw [hk, hnone] at he
    cases he
  · exact he

end MemoryStore

end CommerceAgent.Operations
