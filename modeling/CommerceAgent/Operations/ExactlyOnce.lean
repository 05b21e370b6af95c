import CommerceAgent.Operations.Authorization

/-!
# Executed exactly once

Whatever is executed, in any order and with any grant, every version is written at most
once, the three counts count the receipts, and a version that has a receipt keeps
answering with it.
-/

open CommerceAgent.Lib CommerceAgent.Operations.MemoryStore

namespace CommerceAgent.Operations

/-- Anyone executes anything, also past the workflow. -/
def anyone : Terms where
  direct := True
  trusted _ _ := True
  trusted_mono _ _ _ _ _ := trivial
  timely _ _ _ _ := True

/-! ## Counting -/

def Commit.key (c : Commit) : UUID × ℕ := c.receipt.proposal_ref.key

/-- The commits are the receipts, the nonce claims and the counts of the store. -/
structure Counted (w : World) : Prop where
  versions : (w.commits.map Commit.key).Nodup
  nonces : (w.commits.map fun c => c.approval.nonce_digest).Nodup
  executions : ∀ key receipt, w.store.executions.lookup key = some receipt ↔
    ∃ c ∈ w.commits, c.receipt = receipt ∧ c.key = key
  claims : ∀ digest ref, w.store.nonce_claims.lookup digest = some ref ↔
    ∃ c ∈ w.commits, c.approval.nonce_digest = digest ∧ c.receipt.proposal_ref = ref
  stored : w.store.executions.entries.length = w.commits.length
  counts : w.store.business_write_count = w.commits.length ∧ w.store.audit_count = w.commits.length ∧
    w.store.nonce_claim_count = w.commits.length

/-- What an execution writes. -/
def Unwritten (s s' : MemoryStore) : Prop :=
  s'.tasks = s.tasks ∧ s'.risks = s.risks ∧ s'.rules = s.rules ∧ s'.executions = s.executions ∧
    s'.nonce_claims = s.nonce_claims ∧ s'.business_write_count = s.business_write_count ∧
    s'.audit_count = s.audit_count ∧ s'.nonce_claim_count = s.nonce_claim_count

theorem Unwritten.refl (s : MemoryStore) : Unwritten s s := ⟨rfl, rfl, rfl, rfl, rfl, rfl, rfl, rfl⟩

/-- Nothing is written, or one version that had no receipt is, with a nonce that nobody had used. -/
def WritesOnce (w w' : World) : Prop :=
  (Unwritten w.store w'.store ∧ w'.commits = w.commits) ∨
    ∃ c targets, w.store.executions.lookup c.key = none ∧
      w.store.nonce_claims.lookup c.approval.nonce_digest = none ∧ w' = w.commit c targets

variable {crypto : Crypto} {keyring : HmacApprovalKeyring}

theorem create_unwritten (uuid4 : UUID) (draft : ProposalDraft) (s : MemoryStore) :
    Unwritten s (s.create_or_get_proposal uuid4 draft).2 := by
  rcases create_cases (Prod.eta (s.create_or_get_proposal uuid4 draft)).symm with
    hs | ⟨_, _, _, -, -, hs⟩ | ⟨_, _, -, hs | ⟨_, _, -, hs⟩⟩ <;> rw [hs] <;> exact .refl s

theorem decide_unwritten (receipt : DecisionReceipt) (approval : Option StoredApproval) (now : Datetime)
    (s : MemoryStore) : Unwritten s (s.decide_once crypto receipt approval now).2 := by
  rcases decide_cases (Prod.eta (s.decide_once crypto receipt approval now)).symm with
    hs | ⟨_, -, -, hs | hs⟩ <;> rw [hs] <;> exact .refl s

theorem act_writesOnce (crypto : Crypto) (keyring : HmacApprovalKeyring) (o : Outside) (req : Request) (op : Op)
    (w : World) : WritesOnce w (act crypto keyring o req op w).2 := by
  cases op with
  | create_or_get_proposal draft => exact .inl ⟨create_unwritten _ draft w.store, rfl⟩
  | decide_once receipt approval now => exact .inl ⟨decide_unwritten receipt approval now w.store, rfl⟩
  | execute_once proposal approval grant now =>
    rcases act_execute crypto keyring o req proposal approval grant now w with
      hw | ⟨hnone, hclaim, versions, targets, -, hw⟩
    · rw [hw]
      exact .inl ⟨.refl _, rfl⟩
    · exact .inr ⟨⟨req, proposal, approval, execution_receipt crypto proposal versions now⟩, targets, hnone, hclaim, hw⟩
  | sign e =>
    simp only [act]
    split <;> exact .inl ⟨.refl _, rfl⟩
  | _ => exact .inl ⟨.refl _, rfl⟩

theorem Counted.next {w w' : World} (h : Counted w) (hw : WritesOnce w w') : Counted w' := by
  rcases hw with ⟨⟨-, -, -, he, hn, hb, ha, hc⟩, hcommits⟩ | ⟨c, targets, hnone, hclaim, rfl⟩
  · obtain ⟨h₁, h₂, h₃, h₄, h₅, h₆⟩ := h
    constructor <;> simp only [he, hn, hb, ha, hc, hcommits] <;> assumption
  constructor
  · -- the version had no receipt, so no commit is about it
    refine List.nodup_cons.mpr ⟨fun hmem => ?_, h.versions⟩
    obtain ⟨c', hmem, hkey⟩ := List.mem_map.mp hmem
    rw [(h.executions _ _).mpr ⟨c', hmem, rfl, hkey⟩] at hnone
    cases hnone
  · refine List.nodup_cons.mpr ⟨fun hmem => ?_, h.nonces⟩
    obtain ⟨c', hmem, hdigest⟩ := List.mem_map.mp hmem
    rw [(h.claims _ _).mpr ⟨c', hmem, hdigest, rfl⟩] at hclaim
    cases hclaim
  · intro key receipt
    simp only [World.commit, withExecution, Dict.lookup_insert, List.exists_mem_cons_iff]
    split_ifs with hk
    · subst hk
      constructor
      · rintro heq
        exact .inl ⟨Option.some.inj heq, rfl⟩
      · rintro (⟨rfl, -⟩ | hold)
        · rfl
        · have hnone' := (h.executions _ _).mpr hold
          rw [show c.receipt.proposal_ref.key = c.key from rfl, hnone] at hnone'
          cases hnone'
    · rw [h.executions]
      have hne : ¬ c.key = key := fun heq => hk heq.symm
      simp [hne]
  · intro digest ref
    simp only [World.commit, withExecution, Dict.lookup_insert, List.exists_mem_cons_iff]
    split_ifs with hk
    · subst hk
      constructor
      · rintro heq
        exact .inl ⟨rfl, Option.some.inj heq⟩
      · rintro (⟨-, rfl⟩ | hold)
        · rfl
        · have hclaim' := (h.claims _ _).mpr hold
          rw [hclaim] at hclaim'
          cases hclaim'
    · rw [h.claims]
      have hne : ¬ c.approval.nonce_digest = digest := fun heq => hk heq.symm
      simp [hne]
  · have hnew : c.receipt.proposal_ref.key ∉ w.store.executions := AList.lookup_eq_none.mp hnone
    simp only [World.commit, withExecution, AList.entries_insert_of_notMem hnew, List.length_cons, h.stored]
  · obtain ⟨hb, ha, hc⟩ := h.counts
    simp only [World.commit, withExecution, List.length_cons, hb, ha, hc, and_self]

theorem counted_initial (tasks : List InvestigationTaskState) : Counted (World.initial tasks) := by
  constructor <;> simp [World.initial, initial]

/-! ## Executing again -/

/-- The grant that the decision of a version handed out. -/
def GrantOf (s : MemoryStore) (key : UUID × ℕ) (grant : ExecutionGrant) : Prop :=
  ∃ receipt, s.decision_receipts.lookup key = some receipt ∧ receipt.grant = some grant

theorem GrantOf.mono {s s' : MemoryStore} (hg : MemoryStore.Grows s s') {key : UUID × ℕ} {grant : ExecutionGrant}
    (h : GrantOf s key grant) : GrantOf s' key grant := by
  obtain ⟨receipt, hreceipt, hgrant⟩ := h
  exact ⟨receipt, hg.receipts key receipt hreceipt, hgrant⟩

theorem grantOf_decision {s : MemoryStore} (hc : Coherent crypto keyring s) {key : UUID × ℕ} {grant : ExecutionGrant}
    (h : GrantOf s key grant) :
    grant.proposal_ref.key = key ∧ ∃ p d approval, s.proposals.lookup key = some p ∧ s.decisions.lookup key = some d ∧
      d.approved = some (approval, execution_grant_sha256 crypto grant) ∧ grant.approver_id = d.approver_id := by
  obtain ⟨receipt, hreceipt, hgrant⟩ := h
  obtain ⟨d, hd⟩ := Option.isSome_iff_exists.mp (hc.receipts key receipt hreceipt)
  obtain ⟨p, receipt', hp, hreceipt', -, hdecided⟩ := hc.decisions key d hd
  obtain rfl := Option.some.inj (hreceipt.symm.trans hreceipt')
  obtain ⟨href, happrover, hsome⟩ := hdecided.grant grant hgrant
  obtain ⟨approval, happroval⟩ := Option.isSome_iff_exists.mp hsome
  refine ⟨by rw [href, hc.ref key p hp], p, d, approval, hp, hd, approved_iff.mpr ⟨?_, happroval, ?_⟩, happrover⟩
  · rcases receipt.consistent with ⟨hs, -⟩ | ⟨-, hnone⟩
    · rw [hdecided.status, hs]
    · rw [hgrant] at hnone
      cases hnone
  · rw [hdecided.grant_sha256, hgrant]
    rfl

/-- No operation changes the world, whatever comes from outside. -/
def Reads (crypto : Crypto) (keyring : HmacApprovalKeyring) (req : Request) (op : Op) (w : World) : Prop :=
  ∀ o, (act crypto keyring o req op w).2 = w

variable (crypto keyring) in
/-- A call that writes nothing and returns the receipt. -/
abbrev Replays (req : Request) (receipt : ExecutionReceipt) (call : Call Response) (w : World) : Prop :=
  ((history crypto keyring anyone).strengthen (Reads crypto keyring)).Safe (act crypto keyring) (workflowRules anyone)
    req (fun result _ => result = .ok (.execution receipt)) call w

theorem replays_ask {req : Request} {receipt : ExecutionReceipt} {op : Op} {k : Ans op → Call Response} {w : World}
    (hpre : ∀ w', Knows crypto keyring anyone req op w') (hreads : ∀ w', Reads crypto keyring req op w')
    (hk : ∀ w' o, World.Grows w w' → Inv crypto keyring anyone w' →
      Replays crypto keyring req receipt (k (act crypto keyring o req op w').1) w') :
    Replays crypto keyring req receipt (.ask op k) w := by
  intro w' hg hi
  refine ⟨⟨hpre w', hreads w'⟩, fun o _ => ?_⟩
  rw [hreads w' o]
  exact hk w' o hg hi

theorem execute_replays {w : World} {key : UUID × ℕ} {receipt : ExecutionReceipt} {request : ExecuteRequest}
    (hexecuted : w.store.executions.lookup key = some receipt) (hgrant : GrantOf w.store key request.grant)
    (hrole : request.actor.role = .approver) (hactor : request.actor.actor_id = request.grant.approver_id) :
    Replays crypto keyring (.execute request) receipt (body crypto keyring (.execute request)) w := by
  have hcall : body crypto keyring (.execute request) =
      respond .execution (execute crypto keyring request) := rfl
  rw [hcall]
  unfold execute require_role require_proposal respond
  rw [if_neg (not_not.mpr hrole)]
  refine replays_ask (fun _ => trivial) (fun _ _ => rfl) fun w₁ _ hg₁ hi₁ => ?_
  obtain ⟨rfl, p, d, approval, hp, hd, happroved, happrover⟩ := grantOf_decision hi₁.coherent (hgrant.mono hg₁.store)
  rw [show (act crypto keyring _ _ (.read_proposal request.grant.proposal_ref) w₁).1 = .ok (some p) from
    congrArg Except.ok hp]
  refine replays_ask (fun _ => trivial) (fun _ _ => rfl) fun w₂ _ hg₂ hi₂ => ?_
  rw [show (act crypto keyring _ _ (.read_decision request.grant.proposal_ref) w₂).1 = .ok (some d) from
    congrArg Except.ok (hg₂.store.decisions _ d hd)]
  simp only [onOk_ok, Option.bind_some, happroved, Option.map_some]
  rw [if_neg (by simp [hactor, happrover])]
  refine replays_ask (fun _ => trivial) (fun _ _ => rfl) fun w₃ _ hg₃ _ => ?_
  have hstored := (hg₁.trans (hg₂.trans hg₃)).store.executions _ receipt hexecuted
  rw [show (act crypto keyring _ _ (.read_execution request.grant.proposal_ref) w₃).1 = .ok (some receipt) from
    congrArg Except.ok hstored]
  simp only [onOk_ok, Option.filter_some, decide_true, if_true]
  exact fun _ _ _ => rfl

/-! ## Over every run -/

theorem execute_once_failed {s s' : MemoryStore} {proposal : StoredProposal} {approval : StoredApproval}
    {now : Datetime} {e : Raised} (h : s.execute_once crypto proposal approval now = (.error e, s')) : s' = s := by
  rcases execute_cases h with ⟨_, -, hok, -⟩ | ⟨-, -, hs⟩ | ⟨-, -, _, _, -, hok, -⟩
  · cases hok
  · exact hs
  · cases hok

/-- A version that has a receipt: `execute_once` returns it, and so does every call of `execute`
with the grant of the version that starts from here on, none of whose operations writes. -/
def AnswersAgain (crypto : Crypto) (keyring : HmacApprovalKeyring)
    (p q : Pool World Request Op Ans (Except Raised Response)) : Prop :=
  ∀ key receipt, p.shared.store.executions.lookup key = some receipt →
    (∀ proposal approval now, proposal.snapshot.proposal_ref.key = key →
      p.shared.store.execute_once crypto proposal approval now = (.ok receipt, p.shared.store)) ∧
    ∀ request : ExecuteRequest, GrantOf p.shared.store key request.grant → request.actor.role = .approver →
      request.actor.actor_id = request.grant.approver_id → ∀ i, p.calls.length ≤ i →
      (∀ result, q.calls[i]? = some (.execute request, .done result) → result = .ok (.execution receipt)) ∧
      (∀ op k, q.calls[i]? = some (.execute request, .ask op k) →
        ∀ o, (act crypto keyring o (.execute request) op q.shared).2 = q.shared)

theorem exactly_once (crypto : Crypto) (keyring : HmacApprovalKeyring) (initial_tasks : List InvestigationTaskState)
    (p q : Pool World Request Op Ans (Except Raised Response))
    (hp : Runs crypto keyring (workflowRules anyone) (newPool initial_tasks) p)
    (hq : Runs crypto keyring (workflowRules anyone) p q) :
    Counted p.shared ∧
    (∀ m, WritesOnce p.shared (Pool.step (body crypto keyring) (act crypto keyring) m p).shared) ∧
    AnswersAgain crypto keyring p q ∧
    (∀ s s' proposal approval now e, execute_once crypto proposal approval now s = (.error e, s') → s' = s) := by
  refine ⟨?_, ?_, ?_, fun s s' proposal approval now e h => execute_once_failed h⟩
  · refine hp.invariant _ _ (fun o req op w hw _ => ?_) (counted_initial initial_tasks)
    exact hw.next (act_writesOnce crypto keyring o req op w)
  · intro m
    cases m with
    | start req => exact .inl ⟨.refl _, rfl⟩
    | advance i o =>
      simp only [Pool.step]
      split
      · exact act_writesOnce crypto keyring o _ _ _
      · exact .inl ⟨.refl _, rfl⟩
  · intro key receipt hexecuted
    refine ⟨?_, fun request hgrant hrole hactor i hi => ?_⟩
    · rintro proposal approval now rfl
      simp only [execute_once, hexecuted]
    have hholds := history_holds hp
    have hlater : ∀ f, q.calls[i]? = some (.execute request, f) →
        Replays crypto keyring (.execute request) receipt f q.shared := by
      intro f hget
      refine Contract.later_calls history_sound history_starts hholds hq (fun w hg _ => ?_) i f hi hget
      exact execute_replays (hg.store.executions key receipt hexecuted) (hgrant.mono hg.store) hrole hactor
    have hinv := (Contract.sound history_sound history_starts hholds hq).1.1
    constructor
    · intro result hget
      exact hlater _ hget _ (.refl _) hinv
    · intro op k hget
      exact (hlater _ hget _ (.refl _) hinv).1.2

/-! ## A version executed twice -/

instance (r : ExecuteRequest) (e v t : Datetime) : Decidable (anyone.timely r e v t) := .isTrue trivial

theorem samplePool_open_runs : Runs sampleCrypto sampleKeyring (workflowRules anyone) (newPool [])
    (samplePool noon noon noon laterAt) := by
  refine callAlone_runs _ _ (callAlone_runs _ _ (callAlone_runs _ _ .init trivial ?_) trivial ?_) trivial ?_
  all_goals decide +kernel

/-- The same grant again, a day later. -/
def sampleAgain : Pool World Request Op Ans (Except Raised Response) :=
  callAlone (sampleOutside (.utc (36 * 3600 * second) (by decide))) (.execute (sampleExecute laterAt))
    (samplePool noon noon noon laterAt)

theorem samplePool_once :
    ∃ receipt, (samplePool noon noon noon laterAt).shared.store.executions.lookup (7, 1) = some receipt ∧
      (samplePool noon noon noon laterAt).shared.store.business_write_count = 1 ∧
      ∀ result, sampleAgain.calls[3]? = some (.execute (sampleExecute laterAt), .done result) →
        result = .ok (.execution receipt) := by
  have hsome : ((samplePool noon noon noon laterAt).shared.store.executions.lookup (7, 1)).isSome = true := by
    decide +kernel
  have hagain : Runs sampleCrypto sampleKeyring (workflowRules anyone) (samplePool noon noon noon laterAt)
      sampleAgain := by
    refine callAlone_runs _ _ .init trivial ?_
    decide +kernel
  obtain ⟨receipt, he⟩ := Option.isSome_iff_exists.mp hsome
  obtain ⟨hcounted, -, hanswers, -⟩ := exactly_once sampleCrypto sampleKeyring [] _ _ samplePool_open_runs hagain
  refine ⟨receipt, he, hcounted.counts.1, ?_⟩
  have hgrant : GrantOf (samplePool noon noon noon laterAt).shared.store (7, 1) (sampleGrant laterAt) := by
    unfold GrantOf
    exact ⟨_, rfl, rfl⟩
  exact ((hanswers (7, 1) receipt he).2 (sampleExecute laterAt) hgrant rfl rfl 3 (by decide)).1

end CommerceAgent.Operations
