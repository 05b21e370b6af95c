import CommerceAgent.Operations.Postgres

/-!
# What the functions do to the tables

Rows of proposals are never deleted and change in their status alone. A mutation writes
the tables of its targets and no other.
-/

open CommerceAgent.Lib CommerceAgent.Lib.Json CommerceAgent.Operations.Sql

namespace CommerceAgent.Operations

namespace Sql

/-! ## Rows that stay -/

def ProposalRow.withStatus (row : ProposalRow) (status : ProposalStatus) : ProposalRow := { row with status := status }

@[simp] theorem ProposalRow.withStatus_columns (row : ProposalRow) (status : ProposalStatus) :
    (row.withStatus status).toProposalColumns = row.toProposalColumns := rfl

@[simp] theorem ProposalRow.withStatus_withStatus (row : ProposalRow) (a b : ProposalStatus) :
    (row.withStatus a).withStatus b = row.withStatus b := rfl

/-- The rows of `rows` come first, each in some status, and new ones behind them. -/
def Extends (rows rows' : List ProposalRow) : Prop :=
  ∃ (status : ProposalRow → ProposalStatus) (new : List ProposalRow),
    rows' = (rows.map fun r => r.withStatus (status r)) ++ new

theorem Extends.refl (rows : List ProposalRow) : Extends rows rows :=
  ⟨ProposalRow.status, [], by simp [ProposalRow.withStatus]⟩

theorem Extends.trans {a b c : List ProposalRow} (h₁ : Extends a b) (h₂ : Extends b c) : Extends a c := by
  obtain ⟨s, new, rfl⟩ := h₁
  obtain ⟨s', new', rfl⟩ := h₂
  refine ⟨fun r => s' (r.withStatus (s r)), new.map (fun r => r.withStatus (s' r)) ++ new', ?_⟩
  simp [Function.comp_def]

theorem extends_insert (rows : List ProposalRow) (row : ProposalRow) : Extends rows (Table.insert row rows) :=
  ⟨ProposalRow.status, [row], by simp [ProposalRow.withStatus, Table.insert]⟩

theorem extends_update (rows : List ProposalRow) (p : ProposalRow → Bool) (status : ProposalStatus) :
    Extends rows (Table.update p (fun r => { r with status := status }) rows) := by
  refine ⟨fun r => if p r then status else r.status, [], ?_⟩
  rw [List.append_nil, Table.update]
  refine List.map_congr_left fun r _ => ?_
  by_cases hp : p r = true <;> simp [hp, ProposalRow.withStatus]

theorem Extends.find {rows rows' : List ProposalRow} (h : Extends rows rows') {q : ProposalColumns → Bool}
    {row : ProposalRow} (hrow : rows.find? (fun r => q r.toProposalColumns) = some row) :
    ∃ status, rows'.find? (fun r => q r.toProposalColumns) = some (row.withStatus status) := by
  obtain ⟨s, new, rfl⟩ := h
  refine ⟨s row, ?_⟩
  rw [List.find?_append, List.find?_map]
  simp only [Function.comp_def, ProposalRow.withStatus_columns, hrow, Option.map_some, Option.some_or]

theorem Extends.select {rows rows' : List ProposalRow} (h : Extends rows rows') {key : UUID × ℕ} {row : ProposalRow}
    (hrow : Table.select ProposalRow.key key rows = some row) :
    ∃ status, Table.select ProposalRow.key key rows' = some (row.withStatus status) :=
  h.find (q := fun p => p.key = key) hrow

/-! ## The functions -/

theorem supersede_extends {p : ProposalColumns} {t t' : Tables} (h : supersede p t = .ok t') :
    Extends t.operation_proposal t'.operation_proposal := by
  unfold supersede at h
  split_ifs at h with hrevision hsame
  · split at h
    · cases h
    · split_ifs at h
      obtain rfl := Except.ok.inj h
      exact extends_update _ _ _
  · obtain rfl := Except.ok.inj h
    exact .refl _

/-- The row that `insert_proposal` adds. -/
def inserted (now : Datetime) (p : ProposalColumns) : ProposalRow where
  toProposalColumns := p
  status := .pending
  created_at := timestamptz now

theorem insert_ok {now : Datetime} {p : ProposalColumns} {t t' : Tables} (h : insert_proposal now p t = .ok t') :
    now.instant < p.expires_at.instant ∧ Table.select ProposalRow.key p.key t.operation_proposal = none ∧
      t' = { t with operation_proposal := Table.insert (inserted now p) t.operation_proposal } := by
  unfold insert_proposal at h
  split_ifs at h with hany hexpired
  refine ⟨not_le.mp hexpired, ?_, (Except.ok.inj h).symm⟩
  rw [Table.select_eq_none]
  simpa using hany

theorem insert_extends {now : Datetime} {p : ProposalColumns} {t t' : Tables} (h : insert_proposal now p t = .ok t') :
    Extends t.operation_proposal t'.operation_proposal := by
  obtain ⟨-, -, rfl⟩ := insert_ok h
  exact extends_insert _ _

theorem create_cases {now : Datetime} {p : ProposalColumns} {t t' : Tables} {result : UUID × ℕ × ProposalStatus}
    (h : create_operation_proposal now p t = .ok (result, t')) :
    (∃ row, t.operation_proposal.find? (fun r => r.requester_id = p.requester_id ∧
          r.idempotency_key = p.idempotency_key) = some row ∧
        (row.command_type = p.command_type ∧ row.payload_sha256 = p.payload_sha256 ∧
          row.private_seller_id = p.private_seller_id ∧ row.private_evidence_digest = p.private_evidence_digest) ∧
        result = (row.proposal_id, row.proposal_version, row.status) ∧ t' = t) ∨
      (t.operation_proposal.find? (fun r => r.requester_id = p.requester_id ∧
          r.idempotency_key = p.idempotency_key) = none ∧
        result = (p.proposal_id, p.proposal_version, .pending) ∧ privateBindingValid p = true ∧
        ∃ t₁, supersede p t = .ok t₁ ∧ insert_proposal now p t₁ = .ok t') := by
  unfold create_operation_proposal at h
  split at h
  · rename_i row hrow
    split_ifs at h with hdiff
    obtain ⟨rfl, rfl⟩ := Prod.mk.inj (Except.ok.inj h)
    push Not at hdiff
    exact .inl ⟨row, hrow, hdiff, rfl, rfl⟩
  · rename_i hnone
    split at h
    · cases h
    rename_i t₁ hsupersede
    split_ifs at h with hprivate
    split at h
    · cases h
    rename_i t₂ hinsert
    obtain ⟨rfl, rfl⟩ := Prod.mk.inj (Except.ok.inj h)
    exact .inr ⟨hnone, rfl, hprivate, t₁, hsupersede, hinsert⟩

theorem create_extends {now : Datetime} {p : ProposalColumns} {t t' : Tables} {result : UUID × ℕ × ProposalStatus}
    (h : create_operation_proposal now p t = .ok (result, t')) :
    Extends t.operation_proposal t'.operation_proposal := by
  rcases create_cases h with ⟨_, -, -, -, rfl⟩ | ⟨-, -, -, t₁, hsupersede, hinsert⟩
  · exact .refl _
  · exact (supersede_extends hsupersede).trans (insert_extends hinsert)

theorem insert_decision_ok {now : Datetime} {d : DecisionArguments} {t t' : Tables}
    (h : insert_decision now d t = .ok t') :
    ∃ rows, t' = { t with approval_decision := rows } := by
  unfold insert_decision at h
  split_ifs at h
  exact ⟨_, (Except.ok.inj h).symm⟩

theorem insert_nonce_ok {d : DecisionArguments} {t t' : Tables} (h : insert_nonce d t = .ok t') :
    ∃ rows, t' = { t with approval_nonce := rows } := by
  unfold insert_nonce at h
  split at h
  · exact ⟨t.approval_nonce, (Except.ok.inj h).symm⟩
  · split_ifs at h
    exact ⟨_, (Except.ok.inj h).symm⟩

theorem record_extends {now : Datetime} {d : DecisionArguments} {t t' : Tables}
    {result : UUID × ℕ × ProposalStatus × Datetime} (h : record_approval_decision now d t = .ok (result, t')) :
    Extends t.operation_proposal t'.operation_proposal := by
  unfold record_approval_decision at h
  split at h
  · cases h
  split_ifs at h
  split at h
  · cases h
  rename_i t₁ hdecision
  split at h
  · cases h
  rename_i t₂ hnonce
  obtain ⟨-, rfl⟩ := Prod.mk.inj (Except.ok.inj h)
  obtain ⟨_, rfl⟩ := insert_decision_ok hdecision
  obtain ⟨_, rfl⟩ := insert_nonce_ok hnonce
  exact extends_update _ _ _

/-! ## Mutations -/

/-- The tables that control who may execute what. -/
def SameControl (t t' : Tables) : Prop :=
  t'.operation_proposal = t.operation_proposal ∧ t'.approval_decision = t.approval_decision ∧
    t'.approval_nonce = t.approval_nonce ∧ t'.command_execution = t.command_execution ∧
    t'.alert_backtest_result = t.alert_backtest_result

theorem SameControl.refl (t : Tables) : SameControl t t := ⟨rfl, rfl, rfl, rfl, rfl⟩

/-- A mutation that writes its targets alone. -/
def Confined (mutation : Mutation) : Prop :=
  ∀ proposal t m t', mutation proposal t = .ok (m, t') → SameControl t t'

theorem open_confined (task_ref risk_ref : UUID) (seller_id : String) (digest : HexDigest) (seller_ref : String)
    (priority : Priority) :
    Confined (execute_open_seller_risk_case task_ref risk_ref seller_id digest seller_ref priority) := by
  intro proposal t m t' h
  unfold execute_open_seller_risk_case at h
  split_ifs at h
  obtain ⟨-, rfl⟩ := Prod.mk.inj (Except.ok.inj h)
  exact .refl _

theorem create_task_confined (task_ref : UUID) (priority : Priority) (summary : String) :
    Confined (execute_create_investigation_task task_ref priority summary) := by
  intro proposal t m t' h
  unfold execute_create_investigation_task at h
  split_ifs at h
  obtain ⟨-, rfl⟩ := Prod.mk.inj (Except.ok.inj h)
  exact .refl _

theorem create_from_hit_confined (crypto : Crypto) (task_ref hit_ref : UUID) (priority : Priority) :
    Confined (execute_create_investigation_from_alert_hit crypto task_ref hit_ref priority) := by
  intro proposal t m t' h
  unfold execute_create_investigation_from_alert_hit at h
  split_ifs at h
  obtain ⟨-, rfl⟩ := Prod.mk.inj (Except.ok.inj h)
  exact .refl _

theorem rule_confined (rule_ref backtest_ref : UUID) (digest : HexDigest) :
    Confined (execute_create_and_enable_metric_alert_rule rule_ref backtest_ref digest) := by
  intro proposal t m t' h
  unfold execute_create_and_enable_metric_alert_rule at h
  split_ifs at h
  obtain ⟨-, rfl⟩ := Prod.mk.inj (Except.ok.inj h)
  exact .refl _

theorem assign_confined (task_ref : UUID) (version : ℕ) (assignee : String) :
    Confined (execute_assign_investigation task_ref version assignee) := by
  intro proposal t m t' h
  unfold execute_assign_investigation at h
  split at h
  · cases h
  split at h
  · cases h
  obtain ⟨-, rfl⟩ := Prod.mk.inj (Except.ok.inj h)
  exact .refl _

theorem transition_confined (task_ref : UUID) (version : ℕ) (a b : InvestigationStatus) (reason : String) :
    Confined (execute_transition_investigation task_ref version a b reason) := by
  intro proposal t m t' h
  unfold execute_transition_investigation at h
  split at h
  · cases h
  split_ifs at h
  split at h
  · cases h
  obtain ⟨-, rfl⟩ := Prod.mk.inj (Except.ok.inj h)
  exact .refl _

theorem conclusion_confined (task_ref : UUID) (version : ℕ) (ref code summary : String) (evidence : Json) :
    Confined (execute_add_investigation_conclusion task_ref version ref code summary evidence) := by
  intro proposal t m t' h
  unfold execute_add_investigation_conclusion at h
  split at h
  · cases h
  split at h
  · cases h
  split_ifs at h
  obtain ⟨-, rfl⟩ := Prod.mk.inj (Except.ok.inj h)
  exact .refl _

theorem dispose_control {task_ref : UUID} {disposition : Option RiskDisposition} {t t' : Tables}
    (h : dispose task_ref disposition t = .ok t') : SameControl t t' := by
  unfold dispose at h
  split at h
  · split at h
    · cases h
    · split_ifs at h
      obtain rfl := Except.ok.inj h
      exact .refl _
  · split at h
    · obtain rfl := Except.ok.inj h
      exact .refl _
    · cases h

theorem close_confined (task_ref : UUID) (version : ℕ) (ref : String) (disposition : Option RiskDisposition) :
    Confined (execute_close_investigation task_ref version ref disposition) := by
  intro proposal t m t' h
  unfold execute_close_investigation at h
  split at h
  · cases h
  split_ifs at h
  split at h
  · cases h
  rename_i t₁ hdispose
  split at h
  · cases h
  obtain ⟨-, rfl⟩ := Prod.mk.inj (Except.ok.inj h)
  have hcontrol : SameControl t t₁ := dispose_control hdispose
  exact hcontrol

end Sql

open PostgresStore in
theorem command_call_confined {crypto : Crypto} {proposal : StoredProposal} {ref : ProposalRef} {command : CommandCall}
    (h : command_call crypto proposal ref = .ok command) : Confined command.mutation := by
  unfold command_call at h
  split at h
  · split at h
    · split_ifs at h
      split at h
      · cases h
      obtain rfl := Except.ok.inj h
      exact open_confined _ _ _ _ _ _
    · cases h
  · obtain rfl := Except.ok.inj h
    exact create_task_confined _ _ _
  · obtain rfl := Except.ok.inj h
    exact create_from_hit_confined _ _ _ _
  · obtain rfl := Except.ok.inj h
    exact rule_confined _ _ _
  · obtain rfl := Except.ok.inj h
    exact assign_confined _ _ _
  · obtain rfl := Except.ok.inj h
    exact transition_confined _ _ _ _ _
  · obtain rfl := Except.ok.inj h
    exact conclusion_confined _ _ _ _ _ _
  · obtain rfl := Except.ok.inj h
    exact close_confined _ _ _ _

/-! ## Every operation -/

theorem call_ok {α : Type} {parameters : List Parameter} {f : Except SqlError α} {a : α}
    (h : call parameters f = .ok a) : parameters.findSome? Parameter.reject = none ∧ f = .ok a := by
  unfold call at h
  split at h
  · cases h
  · exact ⟨‹_›, h⟩

theorem run_transaction_ok {α : Type} {t t' : Tables} {f : Except SqlError (α × Tables)} {a : α}
    (h : run_transaction t f = (.ok a, t')) : f = .ok (a, t') := by
  unfold run_transaction at h
  split at h
  · obtain ⟨h₁, rfl⟩ := Prod.mk.inj h
    rw [Except.ok.inj h₁]
  · cases (Prod.mk.inj h).1

/-- A transaction that keeps a property of its tables keeps it also when it fails. -/
theorem run_transaction_keeps {α : Type} {R : Tables → Tables → Prop} (hrefl : ∀ t, R t t) {t : Tables}
    {f : Except SqlError (α × Tables)} (hf : ∀ a t', f = .ok (a, t') → R t t') : R t (run_transaction t f).2 := by
  unfold run_transaction
  split
  · exact hf _ _ rfl
  · exact hrefl t

theorem command_function_extends {type : String} {mutation : Mutation} (hm : Confined mutation) {now : Datetime}
    {c : CommandArguments} {t t' : Tables} {row : ExecutionRow}
    (h : command_function type mutation now c t = .ok (row, t')) :
    t'.operation_proposal = t.operation_proposal := by
  unfold command_function at h
  split at h
  · split_ifs at h
    obtain ⟨-, rfl⟩ := Prod.mk.inj (Except.ok.inj h)
    rfl
  split at h
  · cases h
  split at h
  · cases h
  split_ifs at h
  simp only at h
  split at h
  · cases h
  rename_i hmutation
  obtain ⟨-, rfl⟩ := Prod.mk.inj (Except.ok.inj h)
  exact (hm _ _ _ _ hmutation).1

open PostgresStore in
theorem create_ok {crypto : Crypto} {uuid4 : UUID} {now : Datetime} {draft : ProposalDraft} {t t' : Tables}
    {snapshot : ProposalSnapshot} (h : create_or_get_proposal crypto uuid4 now draft t = (.ok snapshot, t')) :
    ∃ canonical target payload result,
      canonical_command crypto draft.request.command draft.preview.target_versions = .ok canonical ∧
        canonical.sha256 = draft.payload_sha256 ∧
        private_seller_binding draft.request.command draft.validated_references = .ok target ∧
        canonical.loads = some payload ∧
        (proposal_parameters (proposal_columns crypto uuid4 draft canonical payload target)).findSome?
          Parameter.reject = none ∧
        create_operation_proposal now (proposal_columns crypto uuid4 draft canonical payload target) t =
          .ok (result, t') ∧
        draft_snapshot draft result = .ok snapshot := by
  unfold create_or_get_proposal at h
  split at h
  · cases (Prod.mk.inj h).1
  rename_i canonical hcanonical
  split_ifs at h with hsha256
  · cases (Prod.mk.inj h).1
  split at h
  · cases (Prod.mk.inj h).1
  rename_i target hbinding
  split at h
  · cases (Prod.mk.inj h).1
  rename_i payload hpayload
  simp only at h
  split at h
  · cases (Prod.mk.inj h).1
  rename_i result t₁ hrun
  obtain ⟨hsnapshot, rfl⟩ := Prod.mk.inj h
  obtain ⟨hparameters, hcreate⟩ := call_ok (run_transaction_ok hrun)
  exact ⟨canonical, target, payload, result, hcanonical, not_not.mp hsha256, hbinding, hpayload, hparameters, hcreate,
    hsnapshot⟩

theorem read_proposal_row {crypto : Crypto} {ref : ProposalRef} {t : Tables} {row : ProposalRow}
    (hversion : ref.version < maxInteger) (hrow : Table.select ProposalRow.key ref.key t.operation_proposal = some row) :
    PostgresStore.read_proposal crypto ref t = (stored_proposal_from_row crypto row ref).map some := by
  have hcall : call [.integer ref.version] (.ok (read_operation_proposal ref.key t, t)) = .ok (some row, t) := by
    simp only [call, List.findSome?_cons, Parameter.reject, if_pos hversion, List.findSome?_nil,
      read_operation_proposal, hrow]
  simp only [PostgresStore.read_proposal, hcall, run_transaction]

theorem proposal_version_fits {p : ProposalColumns}
    (h : (PostgresStore.proposal_parameters p).findSome? Parameter.reject = none) : p.proposal_version < maxInteger := by
  have hversion := List.findSome?_eq_none_iff.mp h (.integer p.proposal_version) (by simp [PostgresStore.proposal_parameters])
  simpa [Parameter.reject] using hversion

theorem draft_snapshot_ok {draft : ProposalDraft} {result : UUID × ℕ × ProposalStatus} {snapshot : ProposalSnapshot}
    (h : PostgresStore.draft_snapshot draft result = .ok snapshot) :
    snapshot.proposal_ref.key = (result.1, result.2.1) ∧ snapshot.status = result.2.2 ∧
      snapshot.preview = draft.preview ∧ snapshot.created_at = draft.created_at ∧
      snapshot.expires_at = draft.expires_at := by
  obtain ⟨proposal_id, version, status⟩ := result
  simp only [PostgresStore.draft_snapshot] at h
  split_ifs at h
  obtain rfl := Except.ok.inj h
  exact ⟨rfl, rfl, rfl, rfl, rfl⟩

/-- The proposals of the tables. -/
def Kept (t t' : Tables) : Prop := Extends t.operation_proposal t'.operation_proposal

theorem Kept.refl (t : Tables) : Kept t t := Extends.refl _

theorem Kept.trans {t t' t'' : Tables} (h₁ : Kept t t') (h₂ : Kept t' t'') : Kept t t'' := Extends.trans h₁ h₂

open PostgresStore in
theorem pgAct_kept (crypto : Crypto) (keyring : HmacApprovalKeyring) (o : Outside) (op : Op) (t : Tables) :
    Kept t (pgAct crypto keyring o op t).2 := by
  cases op with
  | create_or_get_proposal draft =>
    have hkept (parameters : List Parameter) (p : ProposalColumns) :
        Kept t (run_transaction t (call parameters (create_operation_proposal o.now p t))).2 :=
      run_transaction_keeps (R := Kept) Kept.refl fun a t' h => create_extends (call_ok h).2
    simp only [pgAct, create_or_get_proposal]
    split
    · exact .refl t
    split_ifs
    · exact .refl t
    split
    · exact .refl t
    split
    · exact .refl t
    · rename_i canonical _ _ _ target _ _ payload _
      have := hkept (proposal_parameters (proposal_columns crypto o.uuid4 draft canonical payload target))
        (proposal_columns crypto o.uuid4 draft canonical payload target)
      split <;> rename_i heq <;> rw [heq] at this <;> exact this
  | decide_once receipt approval now =>
    simp only [pgAct, decide_once]
    split
    · exact .refl t
    · exact .refl t
    split
    · exact .refl t
    · rename_i proposal _ _ grant _
      have hkept : Kept t (run_transaction t (call
          (decision_parameters (decision_arguments crypto receipt proposal grant))
          (record_approval_decision o.now (decision_arguments crypto receipt proposal grant) t))).2 :=
        run_transaction_keeps (R := Kept) Kept.refl fun a t' h => record_extends (call_ok h).2
      split <;> rename_i heq <;> rw [heq] at hkept <;> exact hkept
  | execute_once proposal approval grant now =>
    simp only [pgAct, execute_once]
    split
    · exact .refl t
    · rename_i command hcommand
      have hkept : Kept t (run_transaction t (call
          (.integer proposal.snapshot.proposal_ref.version :: command.parameters)
          (command_function proposal.command.command.type command.mutation o.now
            (command_arguments crypto proposal.snapshot.proposal_ref approval grant) t))).2 := by
        refine run_transaction_keeps (R := Kept) Kept.refl fun a t' h => ?_
        unfold Kept
        rw [command_function_extends (command_call_confined hcommand) (call_ok h).2]
        exact Extends.refl _
      split
      · rename_i heq
        rw [heq] at hkept
        exact hkept
      · rename_i heq
        rw [heq] at hkept
        split_ifs
        · split <;> exact hkept
        · exact hkept
  | sign e =>
    simp only [pgAct]
    split <;> exact .refl t
  | _ => exact .refl t

/-- The runs of the workflow on the database: its methods, called by anyone, in any order. -/
abbrev PgRuns (crypto : Crypto) (keyring : HmacApprovalKeyring)
    (p q : Pool Tables Request Op Ans (Except Raised Response)) : Prop :=
  Pool.Reach (body crypto keyring) (fun o _ => pgAct crypto keyring o)
    ⟨fun _ _ => True, fun _ _ _ _ => True⟩ p q

theorem pgRuns_kept {crypto : Crypto} {keyring : HmacApprovalKeyring}
    {p q : Pool Tables Request Op Ans (Except Raised Response)} (h : PgRuns crypto keyring p q) :
    Kept p.shared q.shared :=
  h.invariant (I := Kept p.shared) _ _ (fun o _ op t ht _ => ht.trans (pgAct_kept crypto keyring o op t)) (.refl _)

end CommerceAgent.Operations
