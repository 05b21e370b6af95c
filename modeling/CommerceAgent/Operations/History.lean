import CommerceAgent.Operations.Coherence

/-!
# The history of a store

The contract of the workflow: whatever the calls and their order, every commit in the
history was authorized by a decision that the store holds.
-/

open CommerceAgent.Lib CommerceAgent.Operations.MemoryStore

namespace CommerceAgent.Operations

/-! ## What a run may assume -/

structure World.Grows (w w' : World) : Prop where
  store : MemoryStore.Grows w.store w'.store
  signed : w.signed ⊆ w'.signed
  commits : w.commits ⊆ w'.commits

theorem World.Grows.refl (w : World) : World.Grows w w := ⟨.refl _, fun _ h => h, fun _ h => h⟩

theorem grows_clock (w : World) (clock : ℕ) : World.Grows w { w with clock := clock } :=
  ⟨.refl _, fun _ h => h, fun _ h => h⟩

theorem World.Grows.trans {w w' w'' : World} (h₁ : World.Grows w w') (h₂ : World.Grows w' w'') : World.Grows w w'' :=
  ⟨h₁.store.trans h₂.store, fun _ h => h₂.signed (h₁.signed h), fun _ h => h₂.commits (h₁.commits h)⟩

/-- The terms of a run: whether the store's `execute_once` is called past the workflow; what is
known of an execution request when it arrives; and, of the expiry of its proposal and of the
reading of `verify_grant`, when it reads the clock to commit. -/
structure Terms where
  direct : Prop
  trusted : ExecuteRequest → World → Prop
  trusted_mono : ∀ r w w', World.Grows w w' → trusted r w → trusted r w'
  timely : ExecuteRequest → Datetime → Datetime → Datetime → Prop

/-- No stored proposal has this identifier: `uuid4` does not repeat itself. -/
def Fresh (uuid4 : UUID) (s : MemoryStore) : Prop := ∀ key ∈ s.proposals.keys, key.1 ≠ uuid4

instance (uuid4 : UUID) (s : MemoryStore) : Decidable (Fresh uuid4 s) := inferInstanceAs (Decidable (∀ _ ∈ _, _))

theorem Fresh.ne {uuid4 : UUID} {s : MemoryStore} (h : Fresh uuid4 s) {key : UUID × ℕ} {p : StoredProposal}
    (hp : s.proposals.lookup key = some p) : key.1 ≠ uuid4 :=
  h key (AList.lookup_isSome.mp (by rw [hp]; rfl))

/-- A new identifier is fresh. -/
def freshIds (o : Outside) : Op → World → Prop
  | .create_or_get_proposal _, w => Fresh o.uuid4 w.store
  | _, _ => True

/-- A reading of the clock to commit is timely for the stored proposal. -/
def timelyReading (terms : Terms) (o : Outside) : Request → Op → World → Prop
  | .execute r, .now (.committed_at verified_at), w =>
    ∀ p ∈ w.store.proposals.lookup r.grant.proposal_ref.key,
      terms.timely r p.snapshot.expires_at verified_at o.now
  | _, _, _ => True

/-- The runs of the workflow: its methods, called by anyone, in any order. -/
def workflowRules (terms : Terms) : Pool.Rules World Request Op Outside where
  accepts
    | w, .execute r => terms.trusted r w
    | _, .execute_once .. => terms.direct
    | _, _ => True
  oracle o req op w := freshIds o op w ∧ timelyReading terms o req op w

instance (o : Outside) (w : World) : (op : Op) → Decidable (freshIds o op w)
  | .create_or_get_proposal _ => inferInstanceAs (Decidable (Fresh o.uuid4 w.store))
  | .now _ | .issue_nonce | .sign _ | .validate_command .. | .preview_command .. | .read_proposal _
  | .decide_once .. | .read_decision _ | .read_execution _ | .execute_once .. => .isTrue trivial

instance (terms : Terms) [∀ r e v t, Decidable (terms.timely r e v t)] (o : Outside) (w : World) :
    (req : Request) → (op : Op) → Decidable (timelyReading terms o req op w)
  | .execute _, .now (.committed_at _) => inferInstanceAs (Decidable (∀ p ∈ w.store.proposals.lookup _, _))
  | .propose _, _ | .decide _, _ | .execute_once .., _ => .isTrue trivial
  | .execute _, .now .created_at | .execute _, .now .issued_at | .execute _, .now .decided_at
  | .execute _, .now .deciding | .execute _, .now .verified_at | .execute _, .issue_nonce
  | .execute _, .sign _ | .execute _, .validate_command .. | .execute _, .preview_command ..
  | .execute _, .create_or_get_proposal _ | .execute _, .read_proposal _ | .execute _, .decide_once ..
  | .execute _, .read_decision _ | .execute _, .read_execution _ | .execute _, .execute_once .. => .isTrue trivial

instance (terms : Terms) [∀ r e v t, Decidable (terms.timely r e v t)] (o : Outside) (req : Request) (op : Op)
    (w : World) : Decidable ((workflowRules terms).oracle o req op w) := inferInstanceAs (Decidable (_ ∧ _))

section History

variable (crypto : Crypto) (keyring : HmacApprovalKeyring) (terms : Terms)

/-! ## The invariant -/

/-- The approved decision that an execution request rests on. -/
structure Approved (w : World) (r : ExecuteRequest) (p : StoredProposal) (d : StoredDecision)
    (approval : StoredApproval) : Prop where
  role : r.actor.role = .approver
  proposal : w.store.proposals.lookup r.grant.proposal_ref.key = some p
  decision : w.store.decisions.lookup r.grant.proposal_ref.key = some d
  status : d.status = .approved
  approver : d.approver_id = r.actor.actor_id
  approval : d.approval = some approval

/-- A commit, and the request that it answers. -/
structure Authorized (w : World) (c : Commit) (r : ExecuteRequest) (p : StoredProposal) (d : StoredDecision) :
    Prop extends Approved w r p d c.approval where
  request : c.request = .execute r
  receipt : c.receipt.proposal_ref = r.grant.proposal_ref
  verified : Verified crypto keyring r.grant c.approval r.actor
  trusted : terms.trusted r w
  timely : ∃ verified_at, verify_expiry r.grant verified_at = .ok () ∧
    terms.timely r p.snapshot.expires_at verified_at c.receipt.committed_at

/-- A nonce of 32 bytes, as `issue_grant` writes it. -/
def IssuedNonce (nonce : Text 4 128) : Prop :=
  ∃ raw_nonce, ∃ h : raw_nonce.length = 32, nonce = nonceText raw_nonce h

structure Inv (w : World) : Prop where
  coherent : Coherent crypto keyring w.store
  executed : ∀ key receipt, w.store.executions.lookup key = some receipt →
    ∃ c ∈ w.commits, c.receipt = receipt ∧ receipt.proposal_ref.key = key
  commits : ¬terms.direct → ∀ c ∈ w.commits, ∃ r p d, Authorized crypto keyring terms w c r p d
  signed : ∀ key message, (key, message) ∈ w.signed → ∃ e : ApprovalEnvelope, message = e.message ∧ IssuedNonce e.nonce

/-- What the workflow knows when it asks for an operation. -/
def Knows (req : Request) : Op → World → Prop
  | .sign e, _ => IssuedNonce e.nonce
  | .decide_once receipt approval _, w =>
    ∀ p, w.store.proposals.lookup receipt.proposal_ref.key = some p →
      Decided crypto keyring p (recorded crypto receipt approval) receipt
  | .execute_once proposal approval _ now, w =>
    ¬terms.direct → ∃ r p d, req = .execute r ∧ Approved w r p d approval ∧ proposal.snapshot.proposal_ref = r.grant.proposal_ref ∧
      Verified crypto keyring r.grant approval r.actor ∧ terms.trusted r w ∧
      ∃ verified_at, verify_expiry r.grant verified_at = .ok () ∧
        terms.timely r p.snapshot.expires_at verified_at now
  | _, _ => True

def history : Contract World Request Op where
  inv := Inv crypto keyring terms
  rely := World.Grows
  pre := Knows crypto keyring terms

variable {crypto keyring terms}

theorem Approved.mono {w w' : World} (hg : World.Grows w w') {r : ExecuteRequest} {p : StoredProposal}
    {d : StoredDecision} {approval : StoredApproval} (h : Approved w r p d approval) :
    ∃ q, SameProposal p q ∧ Approved w' r q d approval := by
  obtain ⟨q, hq, hsame, -⟩ := hg.store.proposals _ p h.proposal
  exact ⟨q, hsame, h.role, hq, hg.store.decisions _ d h.decision, h.status, h.approver, h.approval⟩

theorem Authorized.mono {w w' : World} (hg : World.Grows w w') {c : Commit} {r : ExecuteRequest} {p : StoredProposal}
    {d : StoredDecision} (h : Authorized crypto keyring terms w c r p d) :
    ∃ q, Authorized crypto keyring terms w' c r q d := by
  obtain ⟨q, hsame, happ⟩ := h.toApproved.mono hg
  exact ⟨q, happ, h.request, h.receipt, h.verified, terms.trusted_mono _ _ _ hg h.trusted,
    by rw [SameProposal.expires hsame]; exact h.timely⟩

theorem Inv.next {w w' : World} (h : Inv crypto keyring terms w) (hg : World.Grows w w')
    (hc : Coherent crypto keyring w'.store) (he : w'.store.executions = w.store.executions)
    (hm : w'.commits = w.commits)
    (hs : ∀ key message, (key, message) ∈ w'.signed → ∃ e : ApprovalEnvelope, message = e.message ∧ IssuedNonce e.nonce) :
    Inv crypto keyring terms w' := by
  refine ⟨hc, ?_, ?_, hs⟩
  · rw [he, hm]
    exact h.executed
  · rw [hm]
    intro hdirect c hmem
    obtain ⟨r, p, d, ha⟩ := h.commits hdirect c hmem
    obtain ⟨q, hq⟩ := ha.mono hg
    exact ⟨r, q, d, hq⟩

/-! ## The operations keep the contract -/

theorem Inv.onStore {w : World} (h : Inv crypto keyring terms w) {s : MemoryStore}
    (hc : Coherent crypto keyring s) (hg : MemoryStore.Grows w.store s) (he : s.executions = w.store.executions) :
    Inv crypto keyring terms { w with store := s } ∧ World.Grows w { w with store := s } := by
  have hw : World.Grows w { w with store := s } := ⟨hg, fun _ h => h, fun _ h => h⟩
  exact ⟨h.next hw hc he rfl h.signed, hw⟩

/-- After a supersession no version of the proposal is live, and all are older than the next. -/
theorem superseded_last {s : MemoryStore} (h : Coherent crypto keyring s) {revises : ProposalRef}
    {previous : StoredProposal} (hr : Revisable revises previous s) :
    ∀ key p, (s.set_status revises.key .superseded previous).proposals.lookup key = some p →
      key.1 = revises.next.proposal_id →
      key.2 < revises.next.version ∧ p.snapshot.status ≠ .pending ∧ p.snapshot.status ≠ .approved := by
  intro key p hp hid
  simp only [set_status, Dict.lookup_insert] at hp
  split_ifs at hp with hk
  · obtain rfl := Option.some.inj hp
    subst hk
    exact ⟨Nat.lt_succ_self _, by simp, by simp⟩
  · have hid : key.1 = revises.proposal_id := hid
    obtain ⟨latest, hlatest, hle⟩ := h.known key p hp
    rw [hid, hr.latest, Option.some.injEq] at hlatest
    have hdead : ¬(p.snapshot.status = .pending ∨ p.snapshot.status = .approved) := by
      intro hlive
      have hl := h.live key p hp hlive
      rw [hid, hr.latest, Option.some.injEq] at hl
      exact hk (Prod.ext hid hl.symm)
    have hnext : revises.next.version = revises.version + 1 := rfl
    exact ⟨by omega, fun hs => hdead (.inl hs), fun hs => hdead (.inr hs)⟩

theorem create_keeps {w : World} {uuid4 : UUID} {draft : ProposalDraft} (h : Inv crypto keyring terms w)
    (hfresh : Fresh uuid4 w.store) :
    Inv crypto keyring terms (w.onStore (w.store.create_or_get_proposal uuid4 draft)).2 ∧
      World.Grows w (w.onStore (w.store.create_or_get_proposal uuid4 draft)).2 := by
  rcases create_cases (Prod.eta (w.store.create_or_get_proposal uuid4 draft)).symm with
    hs | ⟨ref, stored, idempotency, hid, ho, hs⟩ | ⟨revises, previous, hr, hs | ⟨stored, idempotency, ho, hs⟩⟩ <;>
    simp only [World.onStore, hs]
  · exact ⟨h, .refl w⟩
  · have hlast : ∀ key p, w.store.proposals.lookup key = some p → key.1 = ref.proposal_id →
        key.2 < ref.version ∧ p.snapshot.status ≠ .pending ∧ p.snapshot.status ≠ .approved :=
      fun key p hp he => absurd (he.trans hid) (hfresh.ne hp)
    have hnew : w.store.proposals.lookup ref.key = none := by
      by_contra hne
      obtain ⟨p, hp⟩ := Option.ne_none_iff_exists'.mp hne
      exact hfresh.ne hp hid
    exact h.onStore (h.coherent.add ho hlast) (grows_withVersion hnew) rfl
  · exact h.onStore (h.coherent.retire hr.stored hr.pending (.inl rfl)) (grows_set_status hr.stored hr.pending) rfl
  · have hretired := h.coherent.retire hr.stored hr.pending (.inl rfl : ProposalStatus.superseded = _ ∨ _)
    have hlast := superseded_last h.coherent hr
    have hnew : (w.store.set_status revises.key .superseded previous).proposals.lookup revises.next.key = none := by
      by_contra hne
      obtain ⟨p, hp⟩ := Option.ne_none_iff_exists'.mp hne
      exact absurd (hlast _ p hp rfl).1 (lt_irrefl _)
    exact h.onStore (hretired.add ho hlast)
      ((grows_set_status hr.stored hr.pending).trans (grows_withVersion hnew)) rfl

theorem decide_keeps {w : World} {receipt : DecisionReceipt} {approval : Option StoredApproval} {now : Datetime}
    (h : Inv crypto keyring terms w)
    (hpre : ∀ p, w.store.proposals.lookup receipt.proposal_ref.key = some p →
      Decided crypto keyring p (recorded crypto receipt approval) receipt) :
    Inv crypto keyring terms (w.onStore (w.store.decide_once crypto receipt approval now)).2 ∧
      World.Grows w (w.onStore (w.store.decide_once crypto receipt approval now)).2 := by
  rcases decide_cases (Prod.eta (w.store.decide_once crypto receipt approval now)).symm with
    hs | ⟨p, hp, hpending, hs | hs⟩ <;> simp only [World.onStore, hs]
  · exact ⟨h, .refl w⟩
  · exact h.onStore (h.coherent.retire hp hpending (.inr rfl)) (grows_set_status hp hpending) rfl
  · exact h.onStore (h.coherent.decide hp hpending (hpre p hp)) (grows_withDecision h.coherent hp hpending) rfl

/-- A world with one more execution. -/
def World.commit (w : World) (c : Commit) (targets : MemoryStore) : World :=
  { w with
    store := w.store.withExecution targets c.approval.nonce_digest c.receipt
    commits := c :: w.commits }

theorem act_execute (crypto : Crypto) (keyring : HmacApprovalKeyring) (o : Outside) (req : Request)
    (proposal : StoredProposal) (approval : StoredApproval) (grant : ExecutionGrant) (now : Datetime) (w : World) :
    (act crypto keyring o req (.execute_once proposal approval grant now) w).2 = w ∨
      w.store.executions.lookup proposal.snapshot.proposal_ref.key = none ∧
      w.store.nonce_claims.lookup approval.nonce_digest = none ∧
      ∃ versions targets,
        w.store.apply_command crypto proposal.command.command proposal.snapshot.proposal_ref =
          (.ok versions, targets) ∧
        (act crypto keyring o req (.execute_once proposal approval grant now) w).2 =
          w.commit ⟨req, proposal, approval, execution_receipt crypto proposal versions now⟩ targets := by
  rcases execute_cases (Prod.eta (w.store.execute_once crypto proposal approval now)).symm with
    ⟨previous, hprev, -, hs⟩ | ⟨hnone, -, hs⟩ | ⟨hnone, hclaim, versions, targets, happly, -, hs⟩
  · left
    simp only [act, World.log, hs, hprev]
  · left
    simp only [act, World.log, hs, hnone]
  · right
    refine ⟨hnone, hclaim, versions, targets, happly, ?_⟩
    have hfound : (w.store.withExecution targets approval.nonce_digest
        (execution_receipt crypto proposal versions now)).executions.lookup proposal.snapshot.proposal_ref.key =
          some (execution_receipt crypto proposal versions now) := by
      simp only [withExecution, Dict.lookup_insert]
      exact if_pos rfl
    simp only [act, World.log, hs, hnone, hfound, World.commit]

theorem execute_keeps {w : World} {proposal : StoredProposal} {approval : StoredApproval} {grant : ExecutionGrant}
    {now : Datetime} {o : Outside} {req : Request} (h : Inv crypto keyring terms w)
    (hpre : Knows crypto keyring terms req (.execute_once proposal approval grant now) w) :
    Inv crypto keyring terms (act crypto keyring o req (.execute_once proposal approval grant now) w).2 ∧
      World.Grows w (act crypto keyring o req (.execute_once proposal approval grant now) w).2 := by
  rcases act_execute crypto keyring o req proposal approval grant now w with hw | ⟨hnone, -, versions, targets, -, hw⟩
  · rw [hw]
    exact ⟨h, .refl w⟩
  rw [hw]
  let c : Commit := ⟨req, proposal, approval, execution_receipt crypto proposal versions now⟩
  have hgrows : World.Grows w (w.commit c targets) :=
    ⟨grows_withExecution hnone, fun _ h => h, fun _ h => List.mem_cons_of_mem _ h⟩
  refine ⟨⟨h.coherent.congr rfl rfl rfl rfl, ?_, ?_, h.signed⟩, hgrows⟩
  · intro key e he
    simp only [World.commit, withExecution, Dict.lookup_insert] at he
    split_ifs at he with hk
    · exact ⟨c, List.mem_cons_self, Option.some.inj he, by rw [hk, ← Option.some.inj he]⟩
    · obtain ⟨c', hmem, hrest⟩ := h.executed key e he
      exact ⟨c', List.mem_cons_of_mem _ hmem, hrest⟩
  · intro hdirect c' hmem
    rcases List.mem_cons.mp hmem with rfl | hmem
    · obtain ⟨r, p, d, hreq, happ, href, hver, htrusted, verified_at, hverified, htimely⟩ := hpre hdirect
      obtain ⟨q, hsame, hq⟩ := happ.mono hgrows
      exact ⟨r, q, d, hq, hreq, href, hver, terms.trusted_mono _ _ _ hgrows htrusted, verified_at, hverified,
        by rw [SameProposal.expires hsame]; exact htimely⟩
    · obtain ⟨r', p', d', ha⟩ := h.commits hdirect c' hmem
      obtain ⟨q, hq⟩ := ha.mono hgrows
      exact ⟨r', q, d', hq⟩

theorem sign_keeps {w : World} {e : ApprovalEnvelope} {o : Outside} {req : Request}
    (h : Inv crypto keyring terms w) (hpre : Knows crypto keyring terms req (.sign e) w) :
    Inv crypto keyring terms (act crypto keyring o req (.sign e) w).2 ∧
      World.Grows w (act crypto keyring o req (.sign e) w).2 := by
  simp only [act]
  split
  · exact ⟨h, .refl w⟩
  · rename_i key _
    have hg : World.Grows w { w with signed := (key, e.message) :: w.signed } :=
      ⟨.refl _, fun _ h => List.mem_cons_of_mem _ h, fun _ h => h⟩
    refine ⟨h.next hg h.coherent rfl rfl ?_, hg⟩
    intro key' message hm
    rcases List.mem_cons.mp hm with hm | hm
    · have hn : IssuedNonce e.nonce := hpre
      exact ⟨e, (Prod.mk.inj hm).2, hn⟩
    · exact h.signed key' message hm

theorem history_sound : (history crypto keyring terms).Sound (act crypto keyring) (workflowRules terms) where
  refl := .refl
  trans _ _ _ := .trans
  keeps o req op w hinv hpre ho := by
    cases op with
    | sign e => exact sign_keeps hinv hpre
    | create_or_get_proposal draft => exact create_keeps hinv ho.1
    | decide_once receipt approval now => exact decide_keeps hinv hpre
    | execute_once proposal approval grant now => exact execute_keeps hinv hpre
    | now reading =>
      have hg := grows_clock w o.now.instant
      exact ⟨Inv.next hinv hg hinv.coherent rfl rfl hinv.signed, hg⟩
    | _ => exact ⟨hinv, .refl w⟩

/-! ## The calls keep the contract -/

-- a sum of times is never computed here
attribute [local irreducible] Datetime.add

variable (crypto keyring terms) in
/-- A call that asks only for what it knows. -/
abbrev SafeCall {α : Type} (req : Request) (call : Call α) (w : World) : Prop :=
  (history crypto keyring terms).Safe (act crypto keyring) (workflowRules terms) req (fun _ _ => True) call w

section Calls

variable {α β : Type} {req : Request} {w : World}

theorem safe_done (result : Except Raised α) : SafeCall crypto keyring terms req (.done result) w :=
  fun _ _ _ => trivial

theorem safe_onOk {f : α → Call β} {answer : Except Raised α}
    (h : ∀ a, answer = .ok a → SafeCall crypto keyring terms req (f a) w) :
    SafeCall crypto keyring terms req (onOk f answer) w := by
  cases answer with
  | error e => exact safe_done _
  | ok a => exact h a rfl

theorem safe_ask {op : Op} {k : Ans op → Call α}
    (hpre : ∀ w', World.Grows w w' → Inv crypto keyring terms w' → Knows crypto keyring terms req op w')
    (hk : ∀ w' o, World.Grows w w' → Inv crypto keyring terms w' → (workflowRules terms).oracle o req op w' →
      World.Grows w (act crypto keyring o req op w').2 →
      SafeCall crypto keyring terms req (k (act crypto keyring o req op w').1) (act crypto keyring o req op w').2) :
    SafeCall crypto keyring terms req (.ask op k) w := by
  intro w' hg hi
  refine ⟨hpre w' hg hi, fun o ho => hk w' o hg hi ho ?_⟩
  exact hg.trans (history_sound.keeps o req op w' hi (hpre w' hg hi) ho).2

theorem safe_role {actor : ActorContext} {role : ActorRole} {reason_code : String} {call : Call α}
    (h : actor.role = role → SafeCall crypto keyring terms req call w) :
    SafeCall crypto keyring terms req (require_role actor role reason_code call) w := by
  unfold require_role
  split
  · exact safe_done _
  · rename_i hrole
    exact h (not_not.mp hrole)

theorem safe_proposal {ref : ProposalRef} {k : StoredProposal → Call α}
    (h : ∀ w' p, World.Grows w w' → Inv crypto keyring terms w' → w'.store.proposals.lookup ref.key = some p →
      SafeCall crypto keyring terms req (k p) w') :
    SafeCall crypto keyring terms req (require_proposal ref k) w := by
  refine safe_ask (fun _ _ _ => trivial) fun w' o hg hi _ _ => safe_onOk fun found hfound => ?_
  cases hfound
  simp only [act]
  split
  · exact safe_done _
  · rename_i p hp
    exact h w' p hg hi hp

theorem safe_respond {f : α → Response} {call : Call α} (h : SafeCall crypto keyring terms req call w) :
    SafeCall crypto keyring terms req (respond f call) w :=
  h.bind history_sound fun _ _ _ _ => safe_done _

end Calls

theorem propose_safe (req : Request) (request : ProposeRequest) (w : World) :
    SafeCall crypto keyring terms req (propose crypto request) w := by
  refine safe_role fun _ => ?_
  refine safe_ask (fun _ _ _ => trivial) fun _ _ _ _ _ _ => safe_onOk fun validated _ => ?_
  refine safe_ask (fun _ _ _ => trivial) fun _ _ _ _ _ _ => safe_onOk fun preview _ => ?_
  refine safe_onOk fun canonical _ => ?_
  refine safe_ask (fun _ _ _ => trivial) fun _ _ _ _ _ _ => ?_
  refine safe_onOk fun expires_at _ => ?_
  exact safe_ask (fun _ _ _ => trivial) fun _ _ _ _ _ _ => safe_done _

theorem sign_answer {o : Outside} {req : Request} {e : ApprovalEnvelope} {w : World} {signature : HexDigest}
    (h : (act crypto keyring o req (.sign e) w).1 = .ok signature) :
    keyring.sign crypto keyring.active_version e.message = .ok signature := by
  simp only [act] at h
  unfold HmacApprovalKeyring.sign
  split at h <;> simp_all

theorem decided_later {w w' : World} (hg : World.Grows w w') {ref : ProposalRef} {p : StoredProposal}
    {d : StoredDecision} {receipt : DecisionReceipt} (hp : w.store.proposals.lookup ref.key = some p)
    (hd : Decided crypto keyring p d receipt) :
    ∀ q, w'.store.proposals.lookup ref.key = some q → Decided crypto keyring q d receipt := by
  intro q hq
  obtain ⟨q', hq', hsame, -⟩ := hg.store.proposals _ p hp
  obtain rfl := Option.some.inj (hq.symm.trans hq')
  refine ⟨hd.status, hd.approver, ?_, hd.approval, hd.grant_sha256, ?_⟩ <;> rw [hsame]
  · exact hd.independent
  · exact hd.grant

theorem decide_safe (req : Request) (request : DecisionRequest) (w : World) :
    SafeCall crypto keyring terms req (decide crypto keyring request) w := by
  refine safe_role fun _ => safe_proposal fun w₁ p hg₁ hi₁ hp => ?_
  split
  · exact safe_done _
  rename_i hself
  split
  · -- an approval, with a new grant
    refine safe_ask (fun _ _ _ => trivial) fun w₂ o₂ _ _ _ hg₂ => ?_
    split
    · rename_i hlen
      refine safe_ask (fun _ _ _ => trivial) fun w₃ o₃ _ _ _ hg₃ => ?_
      refine safe_onOk fun expires_at _ => ?_
      refine safe_ask (fun _ _ _ => ⟨_, hlen, rfl⟩) fun w₄ o₄ _ _ _ hg₄ => safe_onOk fun signature hsign => ?_
      refine safe_ask (fun _ _ _ => trivial) fun w₅ o₅ _ _ _ hg₅ => ?_
      refine safe_ask (fun _ _ _ => trivial) fun w₆ o₆ _ _ _ hg₆ => ?_
      refine safe_ask (fun w₇ hg₇ _ => ?_) fun _ _ _ _ _ _ => safe_done _
      have hg := ((((hg₂.trans hg₃).trans hg₄).trans hg₅).trans hg₆).trans hg₇
      refine decided_later hg hp ⟨rfl, rfl, fun h => hself h.symm, ?_, rfl, ?_⟩
      · intro approval happroval
        obtain rfl := Option.some.inj happroval
        exact ⟨_, _, hlen, rfl, rfl, rfl, rfl, rfl, rfl, sign_answer hsign⟩
      · intro grant hgrant
        obtain rfl := Option.some.inj hgrant
        exact ⟨rfl, rfl, rfl⟩
    · exact safe_done _
  · -- a rejection
    refine safe_ask (fun _ _ _ => trivial) fun w₂ o₂ _ _ _ hg₂ => ?_
    refine safe_ask (fun _ _ _ => trivial) fun w₃ o₃ _ _ _ hg₃ => ?_
    refine safe_ask (fun w₄ hg₄ _ => ?_) fun _ _ _ _ _ _ => safe_done _
    refine decided_later ((hg₂.trans hg₃).trans hg₄) hp ⟨rfl, rfl, fun h => hself h.symm, ?_, rfl, ?_⟩
    · intro approval happroval
      cases happroval
    · intro grant hgrant
      cases hgrant

theorem approved_iff {d : StoredDecision} {approval : StoredApproval} {grant_sha256 : HexDigest} :
    d.approved = some (approval, grant_sha256) ↔
      d.status = .approved ∧ d.approval = some approval ∧ d.grant_sha256 = some grant_sha256 := by
  unfold StoredDecision.approved
  split
  · simp_all
  · rename_i hne
    simp only [reduceCtorEq, false_iff]
    rintro ⟨hs, ha, hg⟩
    exact hne _ _ hs ha hg

theorem execute_safe (request : ExecuteRequest) {w : World} (htrusted : terms.trusted request w) :
    SafeCall crypto keyring terms (.execute request) (execute crypto keyring request) w := by
  refine safe_role fun hrole => safe_proposal fun w₁ p hg₁ hi₁ hp => ?_
  have href : p.snapshot.proposal_ref = request.grant.proposal_ref :=
    ProposalRef.key_inj.mp (hi₁.coherent.ref _ p hp)
  refine safe_ask (fun _ _ _ => trivial) fun w₂ o₂ hg₂ _ _ _ => safe_onOk fun found hfound => ?_
  cases hfound
  split
  · exact safe_done _
  rename_i d approval grant_sha256 hfound
  obtain ⟨d', hd, hmap⟩ := Option.bind_eq_some_iff.mp hfound
  obtain ⟨⟨approval', digest⟩, happroved, heq⟩ := Option.map_eq_some_iff.mp hmap
  obtain ⟨rfl, rfl, rfl⟩ : d' = d ∧ approval' = approval ∧ digest = grant_sha256 := by simpa using heq
  obtain ⟨hstatus, hsome, -⟩ := approved_iff.mp happroved
  split
  · exact safe_done _
  rename_i hactor
  have hactor : request.actor.actor_id = d'.approver_id := not_not.mp (not_or.mp hactor).1
  refine safe_ask (fun _ _ _ => trivial) fun w₃ o₃ _ _ _ hg₃ => safe_onOk fun existing hexisting => ?_
  split
  · exact safe_done _
  refine safe_onOk fun _ hverified => ?_
  have hverified := verify_bindings_ok.mp hverified
  refine safe_ask (fun _ _ _ => trivial) fun w₄ o₄ _ _ _ hg₄ => safe_onOk fun _ hexpiry => ?_
  refine safe_ask (fun _ _ _ => trivial) fun w₅ o₅ hg₅ _ htimely hg₅' => ?_
  refine safe_ask (fun w₆ hg₆ _ => ?_) fun _ _ _ _ _ _ => safe_done _
  have happ₂ : ∃ q, SameProposal p q ∧ Approved w₂ request q d' approval' := by
    obtain ⟨q, hq, hsame, -⟩ := hg₂.store.proposals _ p hp
    exact ⟨q, hsame, hrole, hq, hd, hstatus, hactor.symm, hsome⟩
  obtain ⟨q₂, -, happ₂⟩ := happ₂
  obtain ⟨q₅, -, happ₅⟩ := happ₂.mono ((hg₃.trans hg₄).trans hg₅)
  -- the proposal may have changed its status since the clock was read, but not its expiry
  have hg₅₆ : World.Grows w₅ w₆ := (grows_clock w₅ _).trans hg₆
  obtain ⟨q₆, hsame, happ₆⟩ := happ₅.mono hg₅₆
  have hg₀ : World.Grows w w₆ := ((((hg₁.trans hg₂).trans hg₃).trans hg₄).trans hg₅).trans hg₅₆
  refine fun _ => ⟨request, q₆, d', rfl, happ₆, href, hverified, terms.trusted_mono _ _ _ hg₀ htrusted, _, hexpiry, ?_⟩
  rw [SameProposal.expires hsame]
  exact htimely.2 q₅ happ₅.proposal

theorem history_starts : (history crypto keyring terms).Starts (body crypto keyring) (act crypto keyring)
    (workflowRules terms) fun _ _ _ => True := by
  intro req w _ haccepts
  cases req with
  | propose request => exact safe_respond (propose_safe _ request w)
  | decide request => exact safe_respond (decide_safe _ request w)
  | execute request => exact safe_respond (execute_safe request haccepts)
  | execute_once proposal approval grant now =>
    refine safe_respond (safe_ask (fun _ _ _ hdirect => absurd haccepts hdirect) fun _ _ _ _ _ _ => safe_done _)

def newPool (initial_tasks : List InvestigationTaskState) : Pool World Request Op Ans (Except Raised Response) :=
  ⟨.initial initial_tasks, []⟩

/-- The runs of a pool that keep the rules. -/
abbrev Runs (crypto : Crypto) (keyring : HmacApprovalKeyring) (rules : Pool.Rules World Request Op Outside)
    (p q : Pool World Request Op Ans (Except Raised Response)) : Prop :=
  Pool.Reach (body crypto keyring) (act crypto keyring) rules p q

theorem inv_initial (tasks : List InvestigationTaskState) : Inv crypto keyring terms (World.initial tasks) := by
  refine ⟨coherent_initial crypto keyring tasks, ?_, ?_, ?_⟩
  · intro key receipt h
    simp [World.initial, initial] at h
  · simp [World.initial]
  · simp [World.initial]

theorem history_holds {tasks : List InvestigationTaskState} {p : Pool World Request Op Ans (Except Raised Response)}
    (h : Runs crypto keyring (workflowRules terms) (newPool tasks) p) :
    (history crypto keyring terms).Holds (act crypto keyring) (workflowRules terms) (fun _ _ _ => True) p := by
  have hinit : (history crypto keyring terms).Holds (act crypto keyring) (workflowRules terms)
      (fun _ _ _ => True) (newPool tasks) := ⟨inv_initial tasks, by simp [newPool]⟩
  exact (Contract.sound history_sound history_starts hinit h).1

end History

end CommerceAgent.Operations
