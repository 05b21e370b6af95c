import CommerceAgent.Operations.Answers
import CommerceAgent.Operations.Authorization
import CommerceAgent.Operations.LifeCycle
import CommerceAgent.ProductEval.DriverLaws

/-!
# What a scenario did to the store

The driver on the workflow itself, while others call it too. What a scenario reports of decisions and executions is
true of the store: each decision is new, each execution is one write that its own decision authorized, and no write is
reported twice.
-/

open CommerceAgent.Lib CommerceAgent.Lib.Flow CommerceAgent.Operations

namespace CommerceAgent.ProductEval

abbrev WorkflowPool := Pool World Operations.Request Operations.Op Operations.Ans (Except Raised Response)

variable {crypto : Crypto} {keyring : HmacApprovalKeyring}

/-! ## Audit references -/

/-- Each execution has the audit reference of its version. -/
def AuditRefs (w : World) :
    Prop := ∀ c ∈ w.commits, c.receipt.audit_ref = MemoryStore.refName "audit" c.receipt.proposal_ref

theorem auditRefs_next {o : Outside} {req : Operations.Request} {op : Operations.Op} {w : World} (h : AuditRefs w) :
    AuditRefs (act crypto keyring o req op w).2 := by
  cases op with
  | execute_once proposal approval grant now =>
    rcases act_execute crypto keyring o req proposal approval grant now w with
      hw | ⟨-, -, versions, targets, -, hw⟩
    · rwa [hw]
    · rw [hw]
      exact List.forall_mem_cons.mpr ⟨rfl, h⟩
  | sign e =>
    unfold act
    split <;> exact h
  | _ => exact h

/-! ## The answers of the workflow -/

/-- A decision or an execution that the driver was answered is that of a call that started behind `p`. -/
def Answers (p q : WorkflowPool) : Event PortOp PortAns → Prop
  | ⟨.decide request, .ok receipt⟩ =>
    ∃ i, p.calls.length ≤ i ∧ q.calls[i]? = some (.decide request, .done (.ok (.decision receipt)))
  | ⟨.execute request, .ok receipt⟩ =>
    ∃ i, p.calls.length ≤ i ∧ q.calls[i]? = some (.execute request, .done (.ok (.execution receipt)))
  | _ => True

/-- The workflow between the resets of a run: it answers the driver and all others. A call of the driver that was
answered by an exception may have had its effect. -/
inductive Served (crypto : Crypto) (keyring : HmacApprovalKeyring) : WorkflowPool → PortLog → WorkflowPool → Prop where
  | nil {p q : WorkflowPool} :
    Runs crypto keyring (workflowRules (unforged crypto keyring)) p q → Served crypto keyring p [] q
  | reset {p q : WorkflowPool} {e : Event PortOp PortAns} {log : PortLog} : e.op.isReset = true →
    Served crypto keyring p log q → Served crypto keyring p (e :: log) q
  | event {p p' q : WorkflowPool} {e : Event PortOp PortAns} {log : PortLog} :
    Runs crypto keyring (workflowRules (unforged crypto keyring)) p p' → Answers p p' e →
    Served crypto keyring p' log q → Served crypto keyring p (e :: log) q

/-! ## The account of a run -/

/-- The version of a request has no decision in a state, and no execution. -/
def New (p : WorkflowPool) (ref : ProposalRef) : Prop :=
  p.shared.store.decision_receipts.lookup ref.key = none

/-- What is known of the decisions and executions so far: `p₀` is where the run began, and `p` where it is. -/
structure Account (p₀ p : WorkflowPool) (log : PortLog) : Prop where
  decided : ∀ d ∈ log.decisions, p.shared.store.decision_receipts.lookup d.proposal_ref.key = some d ∧
    New p₀ d.proposal_ref
  decided_once : (log.decisions.map DecisionReceipt.proposal_ref).Nodup
  executed : ∀ r ∈ log.receipts, p.shared.store.executions.lookup r.proposal_ref.key = some r
  executed_once : (log.receipts.map ExecutionReceipt.proposal_ref).Nodup
  allowed : ∀ r ∈ log.receipts, ∃ d ∈ log.decisions, d.proposal_ref = r.proposal_ref ∧ d.status = .approved
  answered : ∀ request d, ⟨.decide request, .ok d⟩ ∈ log → (d.status = .approved ↔ request.decision = .approve)
  /-- The decision that was just made has no execution yet. -/
  open_decision : ∀ front request d, log = front ++ [⟨.decide request, .ok d⟩] →
    d.proposal_ref ∉ log.receipts.map ExecutionReceipt.proposal_ref

theorem account_nil (p : WorkflowPool) : Account p p [] where
  decided _ h := absurd h List.not_mem_nil
  decided_once := List.nodup_nil
  executed _ h := absurd h List.not_mem_nil
  executed_once := List.nodup_nil
  allowed _ h := absurd h List.not_mem_nil
  answered _ _ h := absurd h List.not_mem_nil
  open_decision front _ _ h := absurd h.symm (List.append_ne_nil_of_right_ne_nil front (List.cons_ne_nil _ _))

section Account

variable {p₀ p q : WorkflowPool} {log : PortLog} {tasks : List InvestigationTaskState}

abbrev UnforgedRuns (crypto : Crypto) (keyring : HmacApprovalKeyring) (p q : WorkflowPool) : Prop :=
  Runs crypto keyring (workflowRules (unforged crypto keyring)) p q

theorem runs_grows (hp : UnforgedRuns crypto keyring (newPool tasks) p) (hq : UnforgedRuns crypto keyring p q) :
    World.Grows p.shared q.shared :=
  (Contract.sound history_sound history_starts (history_holds hp) hq).2

theorem Account.grows (h : Account p₀ p log) (hg : World.Grows p.shared q.shared) : Account p₀ q log where
  decided d hd := ⟨hg.store.receipts _ d (h.decided d hd).1, (h.decided d hd).2⟩
  decided_once := h.decided_once
  executed r hr := hg.store.executions _ r (h.executed r hr)
  executed_once := h.executed_once
  allowed := h.allowed
  answered := h.answered
  open_decision := h.open_decision

theorem Account.pass (h : Account p₀ p log) {e : Event PortOp PortAns} (hdecisions : PortLog.decisions [e] = [])
    (hreceipts : PortLog.receipts [e] = []) : Account p₀ p (log ++ [e]) := by
  have hd : PortLog.decisions (log ++ [e]) = log.decisions := by
    rw [PortLog.decisions_append, hdecisions, List.append_nil]
  have hr : PortLog.receipts (log ++ [e]) = log.receipts := by
    rw [PortLog.receipts_append, hreceipts, List.append_nil]
  refine ⟨by rw [hd]; exact h.decided, by rw [hd]; exact h.decided_once, by rw [hr]; exact h.executed,
    by rw [hr]; exact h.executed_once, by rw [hd, hr]; exact h.allowed, ?_, ?_⟩
  · intro request d hmem
    rcases List.mem_append.mp hmem with hmem | hmem
    · exact h.answered request d hmem
    · rw [← List.mem_singleton.mp hmem] at hdecisions
      exact absurd hdecisions (List.cons_ne_nil _ _)
  rintro front request d heq
  obtain ⟨-, hlast⟩ := List.append_inj' heq rfl
  rw [List.singleton_inj.mp hlast] at hdecisions
  exact absurd hdecisions (List.cons_ne_nil _ _)

theorem Account.decide (hp : UnforgedRuns crypto keyring (newPool tasks) p) (hq : UnforgedRuns crypto keyring p q)
    (hgrows : World.Grows p₀.shared p.shared) (h : Account p₀ p log) {request : DecisionRequest} {d : DecisionReceipt}
    (hanswer : Answers p q ⟨.decide request, .ok d⟩) : Account p₀ q (log ++ [⟨.decide request, .ok d⟩]) := by
  obtain ⟨i, hi, hget⟩ := hanswer
  obtain ⟨hhanded, hundecided⟩ := later_decided hp hq hi hget
  have hafter := h.grows (runs_grows hp hq)
  have hd : PortLog.decisions (log ++ [⟨.decide request, .ok d⟩]) = log.decisions ++ [d] := PortLog.decisions_append _ _
  have hr : PortLog.receipts (log ++ [⟨.decide request, .ok d⟩]) = log.receipts := by
    rw [PortLog.receipts_append]
    exact List.append_nil _
  -- every version that was decided before has its decision in `p`, and this one has none there
  have hnew : d.proposal_ref ∉ log.decisions.map DecisionReceipt.proposal_ref := by
    intro hmem
    obtain ⟨other, hother, heq⟩ := List.mem_map.mp hmem
    have hlookup := (h.decided other hother).1
    rw [heq, hhanded.proposal_ref] at hlookup
    exact Option.some_ne_none other (hlookup.symm.trans hundecided)
  have hnone : d.proposal_ref ∉ log.receipts.map ExecutionReceipt.proposal_ref := by
    intro hmem
    obtain ⟨r, hr, heq⟩ := List.mem_map.mp hmem
    obtain ⟨other, hother, href, -⟩ := h.allowed r hr
    exact hnew (List.mem_map.mpr ⟨other, hother, href.trans heq⟩)
  constructor
  · rw [hd]
    intro other hother
    rcases List.mem_append.mp hother with hother | hother
    · exact hafter.decided other hother
    · obtain rfl := List.mem_singleton.mp hother
      rw [hhanded.proposal_ref]
      refine ⟨hhanded.held, ?_⟩
      by_contra hsome
      obtain ⟨earlier, hearlier⟩ := Option.ne_none_iff_exists'.mp hsome
      exact Option.some_ne_none earlier ((hgrows.store.receipts _ earlier hearlier).symm.trans hundecided)
  · rw [hd, List.map_append]
    exact List.nodup_append.mpr ⟨h.decided_once, List.nodup_singleton _, fun _ ha _ hb heq =>
      hnew (List.mem_singleton.mp hb ▸ heq ▸ ha)⟩
  · rw [hr]
    exact hafter.executed
  · rw [hr]
    exact h.executed_once
  · rw [hd, hr]
    intro r hr
    obtain ⟨other, hother, hallowed⟩ := h.allowed r hr
    exact ⟨other, List.mem_append_left _ hother, hallowed⟩
  · intro request' d' hmem
    rcases List.mem_append.mp hmem with hmem | hmem
    · exact h.answered request' d' hmem
    · cases List.mem_singleton.mp hmem
      exact hhanded.status
  · rintro front request' d' heq
    obtain ⟨-, hlast⟩ := List.append_inj' heq rfl
    cases List.singleton_inj.mp hlast
    rw [hr]
    exact hnone

theorem Account.execute {library : DriverLibrary} {scenario : ProductScenario}
    (hp : UnforgedRuns crypto keyring (newPool tasks) p) (hq : UnforgedRuns crypto keyring p q) (h : Account p₀ p log)
    {request : ExecuteRequest} {r : ExecutionReceipt} (hallowed : Allowed library scenario log (.execute request))
    (hanswer : Answers p q ⟨.execute request, .ok r⟩) : Account p₀ q (log ++ [⟨.execute request, .ok r⟩]) := by
  obtain ⟨i, hi, hget⟩ := hanswer
  have hexecuted := later_executed hp hq hi hget
  have hafter := h.grows (runs_grows hp hq)
  have hinv := (Contract.sound history_sound history_starts (history_holds hp) hq).1.1
  obtain ⟨front, proposal_ref, d, hlog, -, hgrant⟩ := hallowed
  have hd : PortLog.decisions (log ++ [⟨.execute request, .ok r⟩]) = log.decisions := by
    rw [PortLog.decisions_append]
    exact List.append_nil _
  have hr : PortLog.receipts (log ++ [⟨.execute request, .ok r⟩]) = log.receipts ++ [r] := PortLog.receipts_append _ _
  have hmem : d ∈ log.decisions := by
    rw [hlog, PortLog.decisions_append]
    exact List.mem_append_right _ List.mem_cons_self
  -- the grant is that of the decision, and the execution is that of its version
  have href : d.proposal_ref = r.proposal_ref := by
    obtain ⟨hkey, -⟩ := grantOf_decision hinv.coherent ⟨d, (hafter.decided d hmem).1, hgrant⟩
    obtain ⟨c, -, -, hreceipt⟩ := hinv.executed _ r hexecuted
    exact ProposalRef.key_inj.mp (hkey.symm.trans hreceipt.symm)
  have happroved : d.status = .approved := by
    rcases d.consistent with ⟨hstatus, -⟩ | ⟨-, hnone⟩
    · exact hstatus
    · exact absurd (hgrant.symm.trans hnone) (Option.some_ne_none _)
  have hnew : r.proposal_ref ∉ log.receipts.map ExecutionReceipt.proposal_ref :=
    href ▸ h.open_decision front _ d hlog
  constructor
  · rw [hd]
    exact hafter.decided
  · rw [hd]
    exact h.decided_once
  · rw [hr]
    intro other hother
    rcases List.mem_append.mp hother with hother | hother
    · exact hafter.executed other hother
    · obtain rfl := List.mem_singleton.mp hother
      obtain ⟨c, -, -, hreceipt⟩ := hinv.executed _ other hexecuted
      rw [hreceipt]
      exact hexecuted
  · rw [hr, List.map_append]
    exact List.nodup_append.mpr ⟨h.executed_once, List.nodup_singleton _, fun _ ha _ hb heq =>
      hnew (List.mem_singleton.mp hb ▸ heq ▸ ha)⟩
  · rw [hd, hr]
    intro other hother
    rcases List.mem_append.mp hother with hother | hother
    · exact h.allowed other hother
    · obtain rfl := List.mem_singleton.mp hother
      exact ⟨d, hmem, href, happroved⟩
  · intro request' d' hmem
    rcases List.mem_append.mp hmem with hmem | hmem
    · exact h.answered request' d' hmem
    · cases List.mem_singleton.mp hmem
  · rintro front' request' d' heq
    obtain ⟨-, hlast⟩ := List.append_inj' heq rfl
    cases List.singleton_inj.mp hlast

theorem Served.account {library : DriverLibrary} {scenario : ProductScenario} (h : Served crypto keyring p log q)
    {front : PortLog} (hp₀ : UnforgedRuns crypto keyring (newPool tasks) p₀) (hp : UnforgedRuns crypto keyring p₀ p)
    (hfront : Account p₀ p front)
    (hlegal : ∀ before e after, log = before ++ e :: after → Allowed library scenario (front ++ before) e.op) :
    UnforgedRuns crypto keyring p₀ q ∧ Account p₀ q (front ++ log) := by
  induction h generalizing front with
  | nil hq =>
    rw [List.append_nil]
    exact ⟨hp.trans _ _ hq, hfront.grows (runs_grows (hp₀.trans _ _ hp) hq)⟩
  | @reset p q e log hreset _ ih =>
    obtain ⟨op, a⟩ := e
    have hnext : Account p₀ p (front ++ [⟨op, a⟩]) := by
      cases op <;> first | exact hfront.pass rfl rfl | exact Bool.noConfusion hreset
    have hrest := ih hp hnext fun before e after heq => by
      rw [List.append_assoc]
      exact hlegal (_ :: before) e after (by rw [heq]; rfl)
    rwa [List.append_assoc] at hrest
  | @event p p' q e log hrun hanswer _ ih =>
    have hreach := hp₀.trans _ _ hp
    have hallowed := hlegal [] e log rfl
    rw [List.append_nil] at hallowed
    have hnext : Account p₀ p' (front ++ [e]) := by
      obtain ⟨op, a⟩ := e
      have hafter := hfront.grows (runs_grows hreach hrun)
      cases op with
      | decide request =>
        cases a with
        | error e => exact hafter.pass rfl rfl
        | ok d => exact hfront.decide hreach hrun (runs_grows hp₀ hp) hanswer
      | execute request =>
        cases a with
        | error e => exact hafter.pass rfl rfl
        | ok r => exact hfront.execute hreach hrun hallowed hanswer
      | _ => exact hafter.pass rfl rfl
    have hrest := ih (hp.trans _ _ hrun) hnext fun before e after heq => by
      rw [List.append_assoc]
      exact hlegal (_ :: before) e after (by rw [heq]; rfl)
    rwa [List.append_assoc] at hrest

end Account

/-! ## The audit -/

section Audit

variable {p q : WorkflowPool} {log : PortLog} {tasks : List InvestigationTaskState}

/-- What a run that may stop anywhere did to the store. -/
structure Audit (crypto : Crypto) (p q : WorkflowPool) (log : PortLog) : Prop where
  /-- Each execution was authorized by a decision of the run. -/
  authorized : ∀ r ∈ log.receipts, ∃ proposal d request, ∃ decision ∈ log.decisions,
    ReceiptAuthorized crypto q.shared r.proposal_ref.key r proposal d decision request
  stored : ∀ r ∈ log.receipts, q.shared.store.executions.lookup r.proposal_ref.key = some r
  new : ∀ r ∈ log.receipts, p.shared.store.executions.lookup r.proposal_ref.key = none
  once : (log.receipts.map ExecutionReceipt.proposal_ref).Nodup
  writes : p.shared.store.business_write_count + log.receipts.length ≤ q.shared.store.business_write_count
  audits : (log.receipts.map ExecutionReceipt.audit_ref).Nodup ∧ ∀ r ∈ log.receipts, r.audit_ref ≠ ""

/-- What the result of a run counts. -/
structure Counts (log : PortLog) (result : ProductScenarioResult) : Prop where
  executions : result.execution_count = log.receipts.length
  approvals : result.approval_count = log.receipts.length
  writes : result.successful_business_write_count = log.receipts.length ∧
    result.unique_business_write_count = log.receipts.length ∧ result.unauthorized_business_write_count = 0
  audits : result.audit_event_count = log.receipts.length ∧
    result.successful_execution_audit_count = log.receipts.length ∧ result.duplicate_audit_count = 0

theorem counted_runs (h : UnforgedRuns crypto keyring (newPool tasks) p) : Counted p.shared :=
  h.invariant _ _ (fun o req op w hw _ => hw.next (act_writesOnce crypto keyring o req op w)) (counted_initial tasks)

theorem auditRefs_runs (h : UnforgedRuns crypto keyring (newPool tasks) p) : AuditRefs p.shared :=
  h.invariant _ _ (fun _ _ _ _ hw _ => auditRefs_next hw) fun _ hc => absurd hc List.not_mem_nil

theorem refName_ne_empty (ref : ProposalRef) : MemoryStore.refName "audit" ref ≠ "" := by
  intro hempty
  have hlength := congrArg (fun text => text.toList.length) hempty
  unfold MemoryStore.refName at hlength
  simp only [String.toList_append, List.length_append] at hlength
  exact absurd hlength (by simp)

theorem Account.audit (hp : UnforgedRuns crypto keyring (newPool tasks) p) (hq : UnforgedRuns crypto keyring p q)
    (h : Account p q log) : Audit crypto p q log := by
  have hreach := hp.trans _ _ hq
  have hgrows := runs_grows hp hq
  have hnew : ∀ r ∈ log.receipts, p.shared.store.executions.lookup r.proposal_ref.key = none := by
    intro r hr
    obtain ⟨d, hd, href, -⟩ := h.allowed r hr
    by_contra hsome
    obtain ⟨earlier, hearlier⟩ := Option.ne_none_iff_exists'.mp hsome
    obtain ⟨_, _, decision, _, hauth⟩ := receipt_authorized (history_holds hp).1 hearlier
    exact Option.some_ne_none decision (hauth.handed_out.symm.trans (href ▸ (h.decided d hd).2))
  have hrefs : ∀ r ∈ log.receipts, r.audit_ref = MemoryStore.refName "audit" r.proposal_ref := by
    intro r hr
    obtain ⟨c, hc, rfl, -⟩ := (counted_runs hreach).executions _ r |>.mp (h.executed r hr)
    exact auditRefs_runs hreach c hc
  refine ⟨fun r hr => ?_, h.executed, hnew, h.executed_once, ?_, ?_, fun r hr => hrefs r hr ▸ refName_ne_empty _⟩
  · obtain ⟨proposal, d, decision, request, hauth⟩ := receipt_authorized (history_holds hreach).1 (h.executed r hr)
    obtain ⟨other, hother, href, -⟩ := h.allowed r hr
    have heq : decision = other :=
      Option.some.inj (hauth.handed_out.symm.trans (href ▸ (h.decided other hother).1))
    exact ⟨proposal, d, request, decision, heq ▸ hother, hauth⟩
  · -- the commits of before, and one for each receipt
    have hcommits : ((p.shared.commits.map Commit.key) ++ log.receipts.map fun r => r.proposal_ref.key).Nodup := by
      refine List.nodup_append.mpr ⟨(counted_runs hp).versions, ?_, ?_⟩
      · have hkeys := h.executed_once.map (fun a b => ProposalRef.key_inj.mp : Function.Injective ProposalRef.key)
        rwa [List.map_map] at hkeys
      · rintro key hkey _ hother rfl
        obtain ⟨c, hc, rfl⟩ := List.mem_map.mp hkey
        obtain ⟨r, hr, heq⟩ := List.mem_map.mp hother
        have hthere := (counted_runs hp).executions c.key c.receipt |>.mpr ⟨c, hc, rfl, rfl⟩
        exact Option.some_ne_none c.receipt (hthere.symm.trans (heq ▸ hnew r hr))
    have hsubset : (p.shared.commits.map Commit.key) ++ (log.receipts.map fun r => r.proposal_ref.key) ⊆
        q.shared.commits.map Commit.key := by
      intro key hkey
      rcases List.mem_append.mp hkey with hkey | hkey
      · obtain ⟨c, hc, rfl⟩ := List.mem_map.mp hkey
        exact List.mem_map_of_mem (hgrows.commits hc)
      · obtain ⟨r, hr, rfl⟩ := List.mem_map.mp hkey
        obtain ⟨c, hc, -, hckey⟩ := (counted_runs hreach).executions _ r |>.mp (h.executed r hr)
        exact List.mem_map.mpr ⟨c, hc, hckey⟩
    have hlength := (List.subperm_of_subset hcommits hsubset).length_le
    rw [List.length_append, List.length_map, List.length_map, List.length_map] at hlength
    rw [(counted_runs hp).counts.1, (counted_runs hreach).counts.1]
    exact hlength
  · have hmap : log.receipts.map ExecutionReceipt.audit_ref =
        (log.receipts.map ExecutionReceipt.proposal_ref).map (MemoryStore.refName "audit") := by
      rw [List.map_map]
      exact List.map_congr_left hrefs
    rw [hmap]
    exact h.executed_once.map fun a b heq => ProposalRef.key_inj.mp (refName_inj heq)

theorem length_executed (log : PortLog) : log.executed.length = log.receipts.length := by
  induction log with
  | nil => rfl
  | cons e log ih =>
    have hexecuted : PortLog.executed (e :: log) = PortLog.executed [e] ++ PortLog.executed log :=
      PortLog.executed_append [e] log
    have hreceipts : PortLog.receipts (e :: log) = PortLog.receipts [e] ++ PortLog.receipts log :=
      PortLog.receipts_append [e] log
    have hone : (PortLog.executed [e]).length = (PortLog.receipts [e]).length := by
      obtain ⟨op, a⟩ := e
      cases op <;> first | rfl | (cases a <;> rfl)
    rw [hexecuted, hreceipts, List.length_append, List.length_append, ih, hone]

theorem length_granted {log : PortLog}
    (h : ∀ request d, ⟨.decide request, .ok d⟩ ∈ log → (d.status = .approved ↔ request.decision = .approve)) :
    log.granted.length = approvals log.decisions := by
  induction log with
  | nil => rfl
  | cons e log ih =>
    have hgranted : PortLog.granted (e :: log) = PortLog.granted [e] ++ PortLog.granted log :=
      PortLog.granted_append [e] log
    have hdecisions : PortLog.decisions (e :: log) = PortLog.decisions [e] ++ PortLog.decisions log :=
      PortLog.decisions_append [e] log
    have hone : (PortLog.granted [e]).length = approvals (PortLog.decisions [e]) := by
      obtain ⟨op, a⟩ := e
      cases op with
      | decide request =>
        cases a with
        | error e => rfl
        | ok d =>
          have hstatus := h request d List.mem_cons_self
          rw [granted_decide]
          change _ = List.countP _ [d]
          rw [List.countP_singleton]
          rcases d.consistent with ⟨happroved, hgrant⟩ | ⟨hrejected, hgrant⟩
          · obtain ⟨grant, hgrant⟩ := Option.isSome_iff_exists.mp hgrant
            rw [grant_of_approve (hstatus.mp happroved) hgrant, if_pos (decide_eq_true happroved)]
            rfl
          · have hnot : d.status ≠ .approved := by
              rw [hrejected]
              exact ProposalStatus.noConfusion
            rw [grant_of_none fun grant _ heq => Option.some_ne_none grant (heq.symm.trans hgrant),
              if_neg (by rw [decide_eq_true_eq]; exact hnot)]
            rfl
      | _ => rfl
    have hrest := ih fun request d hmem => h request d (List.mem_cons_of_mem _ hmem)
    unfold approvals at hone hrest ⊢
    rw [hgranted, hdecisions, List.length_append, List.countP_append, hone, hrest]

theorem Reports.counts {scenario : ProductScenario} {result : ProductScenarioResult} (h : Reports scenario log result)
    (hanswered : ∀ request d, ⟨.decide request, .ok d⟩ ∈ log → (d.status = .approved ↔ request.decision = .approve))
    (haudits : (log.receipts.map ExecutionReceipt.audit_ref).Nodup ∧ ∀ r ∈ log.receipts, r.audit_ref ≠ "") :
    Counts log result := by
  obtain ⟨hexecuted, outcome, checks, -, -, rfl⟩ := h
  have haudited : audited log.receipts = log.receipts.length :=
    List.countP_eq_length.mpr fun r hr => decide_eq_true (haudits.2 r hr)
  refine ⟨rfl, ?_, ⟨rfl, rfl, rfl⟩, haudited, haudited, ?_⟩
  · exact (length_granted hanswered).symm.trans (hexecuted ▸ length_executed log)
  · change log.receipts.length - (log.receipts.map ExecutionReceipt.audit_ref).dedup.length = 0
    rw [haudits.1.dedup, List.length_map, Nat.sub_self]

theorem Counts.reset {scenario : ProductScenario} {result : ProductScenarioResult} (h : Counts log result)
    (a : Except PortError Unit) : Counts (log ++ [⟨reset_op scenario, a⟩]) result := by
  have hreceipts : PortLog.receipts (log ++ [⟨reset_op scenario, a⟩]) = log.receipts :=
    (PortLog.receipts_append log _).trans (List.append_nil _)
  constructor <;> rw [hreceipts]
  · exact h.executions
  · exact h.approvals
  · exact h.writes
  · exact h.audits

theorem Counts.uncleaned {result : ProductScenarioResult} (h : Counts log result) : Counts log result.uncleaned :=
  ⟨h.executions, h.approvals, h.writes, h.audits⟩

end Audit

/-- **The audit of a scenario**: whatever else calls the workflow, and wherever the driver is stopped. -/
theorem scenario_audited (crypto : Crypto) (keyring : HmacApprovalKeyring) (tasks : List InvestigationTaskState)
    {p q : WorkflowPool} (hp : UnforgedRuns crypto keyring (newPool tasks) p) (library : DriverLibrary)
    (scenario : ProductScenario) (env : Env PortOp PortAns) (n : ℕ)
    (hserved : Served crypto keyring p ((run library scenario).cut env n []).2 q) :
    Audit crypto p q ((run library scenario).cut env n []).2 ∧
    ∀ result, ((run library scenario).cut env n []).1 = some (.ok result) →
      Counts ((run library scenario).cut env n []).2 result := by
  obtain ⟨hlegal, hclosed⟩ := run_conducts.allowed env n
  generalize (run library scenario).cut env n [] = ran at *
  obtain ⟨ended, log⟩ := ran
  dsimp only at hlegal hclosed hserved ⊢
  obtain ⟨hq, haccount⟩ := hserved.account hp .init (account_nil p) fun before e after heq => hlegal before e after heq
  rw [List.nil_append] at haccount
  have haudit := haccount.audit hp hq
  refine ⟨haudit, fun result hresult => ?_⟩
  have hreset {front : PortLog} (a : Except PortError Unit) :
      PortLog.receipts (front ++ [⟨reset_op scenario, a⟩]) = front.receipts :=
    (PortLog.receipts_append front _).trans (List.append_nil _)
  have hends := hclosed (.ok result) hresult
  cases hends with
  | unopened name => exact ⟨rfl, rfl, ⟨rfl, rfl, rfl⟩, rfl, rfl, rfl⟩
  | @returned front _ _ hreports =>
    have haudits := haudit.audits
    rw [hreset] at haudits
    exact (hreports.counts (fun r d hmem => haccount.answered r d (List.mem_append_left _ hmem)) haudits).reset _
  | @uncleaned front result _ _ hreports =>
    have haudits := haudit.audits
    rw [hreset] at haudits
    exact (hreports.counts (fun r d hmem => haccount.answered r d (List.mem_append_left _ hmem))
      haudits).uncleaned.reset _

/-! ## A scenario with one approval -/

def sampleOrders : Orchestration.InvestigationEvidence :=
  ⟨⟨"query:orders", by decide⟩, .query, ⟨"Deliveries by week.", by decide⟩, HexDigest.ofNat 3⟩

def sampleReport : Orchestration.InvestigationReport where
  conversation_id := ⟨"late-deliveries", by decide⟩
  report_id := 5
  claims := [⟨⟨"late", by decide⟩, ⟨"Deliveries became later.", by decide⟩, ["query:orders"], by decide⟩]
  available_evidence := [sampleOrders]
  limitations := []
  reconciliation_refs := ["query:orders"]
  proposal_refs := [⟨7, 1, first_version⟩]
  selected_risk_status := none
  sensitivity_comparison := none
  valid := by decide +kernel

def sampleOutcome : Orchestration.RetailRunOutcome where
  status := .completed
  terminal := some (.report sampleReport)
  stop := none
  model_calls := 1
  tool_calls := 1
  hashes := ⟨HexDigest.ofNat 0, HexDigest.ofNat 0, HexDigest.ofNat 0, HexDigest.ofNat 0, HexDigest.ofNat 0⟩
  attempt_id := 6
  value := trivial

def sampleScenario : ProductScenario where
  scenario_id := "late-deliveries-v1"
  fixture_revision := "day4-development-v1"
  initial_question := ⟨"Why are deliveries late?", by decide⟩
  scripted_clarifications := []
  actor_steps := [⟨.approve_execute, "approver", 0⟩]
  reset_manifest_revision := "scenario-reset-v1"
  required_clarification_slots := []
  forbidden_clarification_slots := []
  evidence_ids := ["query:orders"]
  operation_expectations := []
  readback_expectations := []
  audit_counts := [1]
  expected_terminal_status := .completed
  unique := List.nodup_nil
  terminal := Orchestration.RetailRunStatus.noConfusion

def sampleDriver : DriverLibrary := ⟨fun _ => 8, fun _ => HexDigest.ofNat 0, HexDigest.ofNat 0⟩

def reviewDecide : DecisionRequest := ⟨⟨2, .approver⟩, ⟨7, 1, first_version⟩, .approve, reviewed⟩

def reviewDecision : DecisionReceipt where
  proposal_ref := ⟨7, 1, first_version⟩
  status := .approved
  approver_id := 2
  decided_at := noon
  reason := reviewed
  grant := some (sampleGrant laterAt)
  consistent := .inl ⟨rfl, rfl⟩

def proposedPool : WorkflowPool := callAlone (sampleOutside noon) (.propose samplePropose) (newPool [])
def reviewedPool : WorkflowPool := callAlone (sampleOutside noon) (.decide reviewDecide) proposedPool
def executedReview : WorkflowPool := callAlone (sampleOutside noon) (.execute (sampleExecute laterAt)) reviewedPool

theorem proposedPool_runs : UnforgedRuns sampleCrypto sampleKeyring (newPool []) proposedPool := by
  refine callAlone_runs _ _ .init trivial ?_
  decide +kernel

theorem reviewedPool_runs : UnforgedRuns sampleCrypto sampleKeyring proposedPool reviewedPool := by
  refine callAlone_runs _ _ .init trivial ?_
  decide +kernel

theorem reviewedPool_decision : ((body sampleCrypto sampleKeyring (.decide reviewDecide)).run
    (act sampleCrypto sampleKeyring (sampleOutside noon) (.decide reviewDecide)) proposedPool.shared).1 =
      .ok (.decision reviewDecision) := by
  rfl

theorem reviewedPool_signed : reviewedPool.shared.signed = [([1], (sampleGrant laterAt).envelope.message)] := by
  rfl

theorem executedReview_runs : UnforgedRuns sampleCrypto sampleKeyring reviewedPool executedReview := by
  refine callAlone_runs _ _ .init ?_ ?_
  · intro _
    refine ⟨[1], rfl, ?_⟩
    rw [reviewedPool_signed]
    exact List.mem_singleton_self _
  · decide +kernel

def reviewReceipt : ExecutionReceipt where
  execution_id := sampleCrypto.uuid5 (MemoryStore.refName "operation" ⟨7, 1, first_version⟩)
  proposal_ref := ⟨7, 1, first_version⟩
  command_type := "create_investigation_task"
  before_version := 0
  after_version := 1
  advance := Nat.zero_lt_one
  committed_at := noon
  public_summary := "Create one investigation task."
  audit_ref := MemoryStore.refName "audit" ⟨7, 1, first_version⟩

theorem executedReview_receipt : ((body sampleCrypto sampleKeyring (.execute (sampleExecute laterAt))).run
    (act sampleCrypto sampleKeyring (sampleOutside noon) (.execute (sampleExecute laterAt))) reviewedPool.shared).1 =
      .ok (.execution reviewReceipt) := by
  rfl

def reviewEnv : Env PortOp PortAns
  | _, .reset .. => .ok ()
  | _, .graph _ => .ok sampleOutcome
  | _, .resolve _ => .ok ⟨2, .approver⟩
  | _, .decide _ => .ok reviewDecision
  | _, .execute _ => .ok reviewReceipt
  | _, .query _ => .error .cancelled

theorem review_log : ∃ request, ((run sampleDriver sampleScenario).cut reviewEnv 6 []).2 =
    [⟨reset_op sampleScenario, .ok ()⟩, ⟨.graph request, .ok sampleOutcome⟩, ⟨.resolve "approver", .ok ⟨2, .approver⟩⟩,
      ⟨.decide reviewDecide, .ok reviewDecision⟩, ⟨.execute (sampleExecute laterAt), .ok reviewReceipt⟩,
      ⟨reset_op sampleScenario, .ok ()⟩] :=
  ⟨_, rfl⟩

theorem review_served :
    Served sampleCrypto sampleKeyring proposedPool
      ((run sampleDriver sampleScenario).cut reviewEnv 6 []).2 executedReview := by
  obtain ⟨request, hlog⟩ := review_log
  rw [hlog]
  refine .reset rfl (.event .init trivial (.event .init trivial (.event reviewedPool_runs ⟨1, le_refl 1, ?_⟩
    (.event executedReview_runs ⟨2, le_refl 2, ?_⟩ (.reset rfl (.nil .init))))))
  · exact congrArg (fun result => some (Request.decide reviewDecide, Flow.done result)) reviewedPool_decision
  · exact congrArg (fun result => some (Request.execute (sampleExecute laterAt), Flow.done result))
      executedReview_receipt

theorem scenario_audited_review : ∃ result,
    ((run sampleDriver sampleScenario).cut reviewEnv 6 []).1 = some (.ok result) ∧ result.approval_count = 1 ∧
      result.unique_business_write_count = 1 ∧ 1 ≤ executedReview.shared.store.business_write_count := by
  have haudited := scenario_audited sampleCrypto sampleKeyring
    [] proposedPool_runs sampleDriver sampleScenario reviewEnv 6
    review_served
  obtain ⟨request, hlog⟩ := review_log
  rw [hlog] at haudited
  obtain ⟨haudit, hcounts⟩ := haudited
  obtain ⟨result, hresult⟩ : ∃ result, ((run sampleDriver sampleScenario).cut reviewEnv 6 []).1 = some (.ok result) :=
    ⟨_, rfl⟩
  have hwrites := (Nat.le_add_left _ _).trans haudit.writes
  exact ⟨result, hresult, (hcounts result hresult).approvals, (hcounts result hresult).writes.2.1, hwrites⟩

end CommerceAgent.ProductEval
