import CommerceAgent.Lib.LaterCalls
import CommerceAgent.Operations.ExactlyOnce

/-!
# What the workflow answers

A decision that is returned is the one that the store holds, and it is returned once: no later call decides the version
again. An execution that is returned is the one that the store holds.
-/

open CommerceAgent.Lib CommerceAgent.Operations.MemoryStore

namespace CommerceAgent.Operations

variable {crypto : Crypto} {keyring : HmacApprovalKeyring} {terms : Terms}

-- a sum of times is never computed here
attribute [local irreducible] Datetime.add

section Calls

variable {α β : Type} {req : Request} {w : World}

variable (crypto keyring terms) in
/-- What a call comes to, wherever the others lead. -/
abbrev Comes {α : Type} (req : Request) (post : Except Raised α → World → Prop) (call : Call α) (w : World) : Prop :=
  (history crypto keyring terms).anytime.Safe (act crypto keyring) (workflowRules terms) req post call w

/-- What is said of returned values says nothing of a call that raises. -/
def OnOk (post : α → World → Prop) (result : Except Raised α) (w : World) : Prop := ∀ a, result = .ok a → post a w

theorem comes_raise {post : α → World → Prop} (e : Raised) :
    Comes crypto keyring terms req (OnOk post) (raise e : Call α) w :=
  fun _ _ _ _ h => nomatch h

theorem comes_onOk {post : β → World → Prop} {f : α → Call β} {answer : Except Raised α}
    (h : ∀ a, answer = .ok a → Comes crypto keyring terms req (OnOk post) (f a) w) :
    Comes crypto keyring terms req (OnOk post) (onOk f answer) w := by
  cases answer with
  | error e => exact comes_raise e
  | ok a => exact h a rfl

theorem comes_role {post : α → World → Prop} {actor : ActorContext} {role : ActorRole} {reason_code : String}
    {call : Call α} (h : Comes crypto keyring terms req (OnOk post) call w) :
    Comes crypto keyring terms req (OnOk post) (require_role actor role reason_code call) w := by
  unfold require_role
  split
  · exact comes_raise _
  · exact h

theorem comes_proposal {post : α → World → Prop} {ref : ProposalRef} {k : StoredProposal → Call α}
    (h : ∀ w' p, World.Grows w w' → Inv crypto keyring terms w' → w'.store.proposals.lookup ref.key = some p →
      Comes crypto keyring terms req (OnOk post) (k p) w') :
    Comes crypto keyring terms req (OnOk post) (require_proposal ref k) w := by
  refine Contract.anytime_ask fun w' hg hi o _ => comes_onOk fun found hfound => ?_
  cases hfound
  simp only [act]
  split
  · exact comes_raise _
  · rename_i p hp
    exact h w' p hg hi hp

end Calls

/-! ## Decisions -/

/-- A decision of the store that is returned was about a pending version, and is held from then on. -/
theorem decide_once_ok {receipt result : DecisionReceipt} {approval : Option StoredApproval} {now : Datetime}
    {s : MemoryStore} (h : (s.decide_once crypto receipt approval now).1 = .ok result) :
    result = receipt ∧ (∃ p, s.proposals.lookup receipt.proposal_ref.key = some p ∧ p.snapshot.status = .pending) ∧
      (s.decide_once crypto receipt approval now).2.decision_receipts.lookup receipt.proposal_ref.key =
        some receipt := by
  unfold decide_once at h ⊢
  dsimp only at h ⊢
  split at h
  · cases h
  · rename_i p hp
    split_ifs at h ⊢ with hpending hexpired
    obtain rfl := Except.ok.inj h
    refine ⟨rfl, ⟨p, hp, not_not.mp hpending⟩, ?_⟩
    rw [Dict.lookup_insert, if_pos rfl]

/-- What a decision says that was returned. -/
structure Handed (request : DecisionRequest) (receipt : DecisionReceipt) (w : World) : Prop where
  proposal_ref : receipt.proposal_ref = request.proposal_ref
  approver : receipt.approver_id = request.actor.actor_id
  status : receipt.status = .approved ↔ request.decision = .approve
  held : w.store.decision_receipts.lookup request.proposal_ref.key = some receipt

theorem Handed.mono {request : DecisionRequest} {receipt : DecisionReceipt} {w w' : World}
    (h : Handed request receipt w)
    (hg : World.Grows w w') : Handed request receipt w' :=
  ⟨h.proposal_ref, h.approver, h.status, hg.store.receipts _ receipt h.held⟩

/-- The version of the request was not decided. -/
def Undecided (request : DecisionRequest) (w : World) : Prop :=
  w.store.decision_receipts.lookup request.proposal_ref.key = none

theorem undecided_of_pending {w w' : World} (hg : World.Grows w w') {terms : Terms} (hi : Inv crypto keyring terms w)
    {request : DecisionRequest} {p : StoredProposal} (hp : w'.store.proposals.lookup request.proposal_ref.key = some p)
    (hpending : p.snapshot.status = .pending) : Undecided request w := by
  by_contra hdecided
  obtain ⟨receipt, hreceipt⟩ := Option.ne_none_iff_exists'.mp hdecided
  obtain ⟨d, hd⟩ := Option.isSome_iff_exists.mp (hi.coherent.receipts _ receipt hreceipt)
  obtain ⟨q, receipt', hq, hreceipt', hstatus, hdecision⟩ := hi.coherent.decisions _ d hd
  have hnot : q.snapshot.status ≠ .pending := by
    rw [← hstatus, hdecision.status]
    rcases receipt'.consistent with ⟨h, -⟩ | ⟨h, -⟩ <;> rw [h] <;> exact ProposalStatus.noConfusion
  obtain ⟨q', hq', -, hkept⟩ := hg.store.proposals _ q hq
  obtain rfl := Option.some.inj (hq'.symm.trans hp)
  exact hnot ((hkept hnot).symm.trans hpending)

theorem comes_decide_once {w₀ w : World} (hg₀ : World.Grows w₀ w) (hi₀ : Inv crypto keyring terms w₀) {req : Request}
    {request : DecisionRequest} {receipt : DecisionReceipt} {approval : Option StoredApproval} {now : Datetime}
    (href : receipt.proposal_ref = request.proposal_ref) (happrover : receipt.approver_id = request.actor.actor_id)
    (hstatus : receipt.status = .approved ↔ request.decision = .approve) :
    Comes crypto keyring terms req (OnOk fun receipt w => Handed request receipt w ∧ Undecided request w₀)
      (.ask (.decide_once receipt approval now) .done) w := by
  refine Contract.anytime_ask fun w' hg _ o _ w'' hg'' _ result hresult => ?_
  obtain ⟨rfl, ⟨p, hp, hpending⟩, hheld⟩ := decide_once_ok hresult
  rw [href] at hp hheld
  have hhanded : Handed request result (act crypto keyring o req (.decide_once result approval now) w').2 :=
    ⟨href, happrover, hstatus, hheld⟩
  exact ⟨hhanded.mono hg'', undecided_of_pending (hg₀.trans hg) hi₀ hp hpending⟩

theorem grows_sign {w : World} {o : Outside} {req : Request} {e : ApprovalEnvelope} :
    World.Grows w (act crypto keyring o req (.sign e) w).2 := by
  unfold act
  split
  · exact .refl w
  · exact ⟨.refl _, List.subset_cons_self _ _, fun _ h => h⟩

/-- A decision that is returned is held, and the version was not decided when the call began. -/
theorem decide_comes (req : Request) (request : DecisionRequest) {w : World} (hi : Inv crypto keyring terms w) :
    Comes crypto keyring terms req (OnOk fun receipt w' => Handed request receipt w' ∧ Undecided request w)
      (decide crypto keyring request) w := by
  refine comes_role (comes_proposal fun w₁ p hg₁ _ _ => ?_)
  split
  · exact comes_raise _
  split
  · -- an approval, with a new grant
    rename_i happrove
    refine Contract.anytime_ask fun w₂ hg₂ _ o₂ _ => ?_
    split
    · refine Contract.anytime_ask fun w₃ hg₃ _ o₃ _ => comes_onOk fun expires_at _ => ?_
      refine Contract.anytime_ask fun w₄ hg₄ _ o₄ _ => comes_onOk fun signature _ => ?_
      refine Contract.anytime_ask fun w₅ hg₅ _ o₅ _ => ?_
      refine Contract.anytime_ask fun w₆ hg₆ _ o₆ _ => ?_
      have hg : World.Grows w w₆ := ((((hg₁.trans hg₂).trans ((grows_clock w₂ _).trans hg₃)).trans
        ((grows_clock w₃ _).trans hg₄)).trans (grows_sign.trans hg₅)).trans ((grows_clock w₅ _).trans hg₆)
      exact comes_decide_once (hg.trans (grows_clock w₆ _)) hi rfl rfl (iff_of_true rfl happrove)
    · exact comes_raise _
  · -- a rejection
    rename_i hreject
    refine Contract.anytime_ask fun w₂ hg₂ _ o₂ _ => ?_
    refine Contract.anytime_ask fun w₃ hg₃ _ o₃ _ => ?_
    have hg : World.Grows w w₃ := (hg₁.trans hg₂).trans ((grows_clock w₂ _).trans hg₃)
    refine comes_decide_once (hg.trans (grows_clock w₃ _)) hi rfl rfl (iff_of_false ProposalStatus.noConfusion ?_)
    rw [hreject]
    exact Decision.noConfusion

/-! ## Executions -/

theorem execute_once_ok {proposal : StoredProposal} {approval : StoredApproval} {now : Datetime} {s : MemoryStore}
    {receipt : ExecutionReceipt} (h : (s.execute_once crypto proposal approval now).1 = .ok receipt) :
    (s.execute_once crypto proposal approval now).2.executions.lookup proposal.snapshot.proposal_ref.key =
      some receipt := by
  rcases execute_cases (Prod.mk.eta.symm : s.execute_once crypto proposal approval now = (_, _)) with
    ⟨previous, hprevious, hresult, hstore⟩ | ⟨-, ⟨e, hresult⟩, -⟩ | ⟨-, -, versions, targets, -, hresult, hstore⟩
  · obtain rfl := Except.ok.inj (h.symm.trans hresult)
    rw [hstore, hprevious]
  · cases h.symm.trans hresult
  · obtain rfl := Except.ok.inj (h.symm.trans hresult)
    rw [hstore]
    exact (Dict.lookup_insert _ _ _ _).trans (if_pos rfl)

theorem act_execute_store (o : Outside) (req : Request) (proposal : StoredProposal) (approval : StoredApproval)
    (grant : ExecutionGrant) (now : Datetime) (w : World) :
    (act crypto keyring o req (.execute_once proposal approval grant now) w).2.store =
      (w.store.execute_once crypto proposal approval now).2 := by
  unfold act World.log
  dsimp only
  split <;> rfl

theorem execute_comes (req : Request) (request : ExecuteRequest) (w : World) :
    Comes crypto keyring terms req
      (OnOk fun receipt w' => w'.store.executions.lookup request.grant.proposal_ref.key = some receipt)
      (execute crypto keyring request) w := by
  refine comes_role (comes_proposal fun w₁ p hg₁ hi₁ hp => ?_)
  have href : p.snapshot.proposal_ref.key = request.grant.proposal_ref.key := hi₁.coherent.ref _ p hp
  refine Contract.anytime_ask fun w₂ _ _ o₂ _ => comes_onOk fun found _ => ?_
  split
  · exact comes_raise _
  split
  · exact comes_raise _
  refine Contract.anytime_ask fun w₃ _ _ o₃ _ => comes_onOk fun existing hexisting => ?_
  split
  · -- the execution that was there
    rename_i receipt hfound
    intro w₄ hg₄ _ result hresult
    obtain rfl := Except.ok.inj hresult
    have hread : w₃.store.executions.lookup request.grant.proposal_ref.key = some receipt := by
      cases hexisting
      exact (Option.filter_eq_some_iff.mp hfound).1
    exact hg₄.store.executions _ receipt hread
  · refine comes_onOk fun _ _ => ?_
    refine Contract.anytime_ask fun w₄ _ _ o₄ _ => comes_onOk fun _ _ => ?_
    refine Contract.anytime_ask fun w₅ _ _ o₅ _ => ?_
    refine Contract.anytime_ask fun w₆ _ _ o₆ _ w₇ hg₇ _ receipt hreceipt => ?_
    refine hg₇.store.executions _ receipt ?_
    rw [← href]
    rw [act_execute_store]
    exact execute_once_ok hreceipt

/-! ## Calls from here on -/

section Later

variable {tasks : List InvestigationTaskState} {p q : Pool World Request Op Ans (Except Raised Response)}

/-- A call of `decide` that started after a state and returned decided a version that was undecided there. -/
theorem later_decided (hp : Runs crypto keyring (workflowRules terms) (newPool tasks) p)
    (hq : Runs crypto keyring (workflowRules terms) p q) {request : DecisionRequest} {receipt : DecisionReceipt} {i : ℕ}
    (hi : p.calls.length ≤ i)
    (hget : q.calls[i]? = some (.decide request, .done (.ok (.decision receipt)))) :
    Handed request receipt q.shared ∧ Undecided request p.shared := by
  have hbody : ∀ w, World.Grows p.shared w → Inv crypto keyring terms w →
      Comes crypto keyring terms (.decide request) (fun result w => ∀ receipt, result = .ok (.decision receipt) →
        Handed request receipt w ∧ Undecided request p.shared) (body crypto keyring (.decide request)) w := by
    intro w hg hinv
    refine Contract.anytime_map (decide_comes (.decide request) request hinv) fun result w' hpost receipt hresult => ?_
    cases result with
    | error e => cases hresult
    | ok decision =>
      obtain rfl := Response.decision.inj (Except.ok.inj hresult)
      obtain ⟨hhanded, hundecided⟩ := hpost decision rfl
      refine ⟨hhanded, ?_⟩
      by_contra hdecided
      obtain ⟨earlier, hearlier⟩ := Option.ne_none_iff_exists'.mp hdecided
      exact Option.some_ne_none earlier ((hg.store.receipts _ earlier hearlier).symm.trans hundecided)
  exact Contract.later_returned history_sound history_starts (history_holds hp) hq hbody hi hget receipt rfl

theorem later_executed (hp : Runs crypto keyring (workflowRules terms) (newPool tasks) p)
    (hq : Runs crypto keyring (workflowRules terms) p q) {request : ExecuteRequest} {receipt : ExecutionReceipt} {i : ℕ}
    (hi : p.calls.length ≤ i)
    (hget : q.calls[i]? = some (.execute request, .done (.ok (.execution receipt)))) :
    q.shared.store.executions.lookup request.grant.proposal_ref.key = some receipt := by
  have hbody : ∀ w, World.Grows p.shared w → Inv crypto keyring terms w →
      Comes crypto keyring terms (.execute request) (fun result w => ∀ receipt, result = .ok (.execution receipt) →
        w.store.executions.lookup request.grant.proposal_ref.key = some receipt)
        (body crypto keyring (.execute request)) w := by
    intro w _ _
    refine Contract.anytime_map (execute_comes (.execute request) request w) fun result w' hpost receipt hresult => ?_
    cases result with
    | error e => cases hresult
    | ok execution =>
      obtain rfl := Response.execution.inj (Except.ok.inj hresult)
      exact hpost execution rfl
  exact Contract.later_returned history_sound history_starts (history_holds hp) hq hbody hi hget receipt rfl

end Later

end CommerceAgent.Operations
