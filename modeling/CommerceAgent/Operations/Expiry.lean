import CommerceAgent.Operations.Authorization

/-!
# No late execution

The in-memory store commits whatever passed `verify_grant`. A grant may outlive its
proposal, and the clock goes on between `verify_grant` and the commit; a run in which
neither matters commits nothing late.
-/

open CommerceAgent.Lib CommerceAgent.Operations.MemoryStore

namespace CommerceAgent.Operations

/-- The clock does not go back. -/
def monotoneClock (o : Outside) : Op → World → Prop
  | .now _, w => w.clock ≤ o.now.instant
  | _, _ => True

/-- The runs of the workflow under a monotone clock. -/
def clockRules : Pool.Rules World Request Op Outside where
  accepts
    | _, .execute_once .. => False
    | _, _ => True
  oracle o _ op w := freshIds o op w ∧ monotoneClock o op w

/-- The condition on an execution when it reads the clock to commit: the grant does not
outlive the proposal, or the proposal has not expired yet; and the grant did not expire
between the reading of `verify_grant` and this one. -/
def inTime : Terms where
  direct := False
  trusted _ _ := True
  trusted_mono _ _ _ _ _ := trivial
  timely r proposal_expires verified_at now :=
    (r.grant.expires_at.instant ≤ proposal_expires.instant ∨ now.instant < proposal_expires.instant) ∧
      ¬(verified_at.instant < r.grant.expires_at.instant ∧ r.grant.expires_at.instant ≤ now.instant)

/-- The runs of `clockRules` in which every execution meets the condition. -/
def timelyRules : Pool.Rules World Request Op Outside where
  accepts := clockRules.accepts
  oracle o req op w := clockRules.oracle o req op w ∧ timelyReading inTime o req op w

/-- Every commit came before the expiry of its proposal and of its grant. -/
def NoLateExecution (w : World) : Prop :=
  ∀ c ∈ w.commits, ∃ r p, c.request = .execute r ∧
    w.store.proposals.lookup c.receipt.proposal_ref.key = some p ∧
    c.receipt.committed_at.instant < p.snapshot.expires_at.instant ∧
    c.receipt.committed_at.instant < r.grant.expires_at.instant

theorem verify_expiry_ok {grant : ExecutionGrant} {now : Datetime} :
    verify_expiry grant now = .ok () ↔ now.instant < grant.expires_at.instant := by
  unfold verify_expiry
  split <;> simp_all

theorem inTime_verified {r : ExecuteRequest} {expires verified_at now : Datetime}
    (h : inTime.timely r expires verified_at now) (hv : verify_expiry r.grant verified_at = .ok ()) :
    now.instant < expires.instant ∧ now.instant < r.grant.expires_at.instant := by
  obtain ⟨hproposal, hgrant⟩ := h
  have hv := verify_expiry_ok.mp hv
  have hnow : now.instant < r.grant.expires_at.instant := not_le.mp fun hle => hgrant ⟨hv, hle⟩
  exact ⟨hproposal.elim (lt_of_lt_of_le hnow) id, hnow⟩

theorem timely_runs {crypto : Crypto} {keyring : HmacApprovalKeyring}
    {p q : Pool World Request Op Ans (Except Raised Response)} (h : Runs crypto keyring timelyRules p q) :
    Runs crypto keyring (workflowRules inTime) p q := by
  refine h.mono _ _ ?_ ?_
  · intro w req haccepts
    cases req with
    | execute r => exact trivial
    | execute_once => exact haccepts
    | _ => exact trivial
  · intro o req op w ho
    exact ⟨ho.1.1, ho.2⟩

/-- No execution is late, in every run whose executions read the clock in time. -/
theorem no_late_execution (crypto : Crypto) (keyring : HmacApprovalKeyring)
    (initial_tasks : List InvestigationTaskState) (p : Pool World Request Op Ans (Except Raised Response))
    (h : Runs crypto keyring timelyRules (newPool initial_tasks) p) : NoLateExecution p.shared := by
  intro c hmem
  obtain ⟨r, proposal, d, ha⟩ := (history_holds (timely_runs h)).1.commits not_false c hmem
  obtain ⟨verified_at, hverified, htimely⟩ := ha.timely
  obtain ⟨hproposal, hgrant⟩ := inTime_verified htimely hverified
  exact ⟨r, proposal, ha.request, by rw [ha.receipt]; exact ha.proposal, hproposal, hgrant⟩

/-! ## A run in time, and a late one -/

instance (o : Outside) (w : World) : (op : Op) → Decidable (monotoneClock o op w)
  | .now _ => inferInstanceAs (Decidable (_ ≤ _))
  | .issue_nonce | .sign _ | .validate_command .. | .preview_command .. | .create_or_get_proposal _
  | .read_proposal _ | .decide_once .. | .read_decision _ | .read_execution _ | .execute_once .. => .isTrue trivial

instance (o : Outside) (req : Request) (op : Op) (w : World) : Decidable (clockRules.oracle o req op w) :=
  inferInstanceAs (Decidable (_ ∧ _))

instance (r : ExecuteRequest) (e v t : Datetime) : Decidable (inTime.timely r e v t) :=
  inferInstanceAs (Decidable (_ ∧ _))

instance (o : Outside) (req : Request) (op : Op) (w : World) : Decidable (timelyRules.oracle o req op w) :=
  inferInstanceAs (Decidable (_ ∧ _))

/-- Approved and executed at once. -/
theorem samplePool_in_time : NoLateExecution (samplePool noon noon noon laterAt).shared := by
  refine no_late_execution sampleCrypto sampleKeyring [] _ ?_
  refine callAlone_runs _ _ (callAlone_runs _ _ (callAlone_runs _ _ .init trivial ?_) trivial ?_) trivial ?_
  all_goals decide +kernel

/-- A minute of the day after the proposal. -/
def nextDay (minute : ℕ) (h : minute < 1440) : Datetime :=
  .utc (36 * 3600 * second + minute * 60 * second) (by simp only [second, Calendar.maxDays]; omega)

/-- Five minutes before the proposal expires. -/
def lastMinute : Datetime := .utc (35 * 3600 * second + 55 * 60 * second) (by decide)

/-- The proposal of noon is approved five minutes before it expires and executed a minute
after, while the grant is still good. -/
def latePool : Pool World Request Op Ans (Except Raised Response) :=
  samplePool noon lastMinute (nextDay 1 (by decide)) (nextDay 5 (by decide))

theorem late_execution :
    ¬ ∀ (crypto : Crypto) (keyring : HmacApprovalKeyring) (initial_tasks : List InvestigationTaskState)
      (p : Pool World Request Op Ans (Except Raised Response)),
      Runs crypto keyring clockRules (newPool initial_tasks) p → NoLateExecution p.shared := by
  intro h
  have hrun : Runs sampleCrypto sampleKeyring clockRules (newPool []) latePool := by
    refine callAlone_runs _ _ (callAlone_runs _ _ (callAlone_runs _ _ .init trivial ?_) trivial ?_) trivial ?_
    all_goals decide +kernel
  have hlate : ∃ c ∈ latePool.shared.commits, ∀ p ∈ latePool.shared.store.proposals.lookup c.receipt.proposal_ref.key,
      ¬ c.receipt.committed_at.instant < p.snapshot.expires_at.instant := by
    decide +kernel
  obtain ⟨c, hmem, hc⟩ := hlate
  obtain ⟨r, p, -, hp, hbefore, -⟩ := h sampleCrypto sampleKeyring [] latePool hrun c hmem
  exact hc p hp hbefore

end CommerceAgent.Operations
