import CommerceAgent.Operations.Ledger
import CommerceAgent.Operations.Authorization

/-!
# Reading a stored proposal back

The row holds the canonical payload, so it holds the command as that writes it: cut to
seconds and rounded to four places. And the reader compares the evidence of the command
with that of the request in order, while the validator compares them as sets.
-/

open CommerceAgent.Lib CommerceAgent.Lib.Json CommerceAgent.Operations.Sql

namespace CommerceAgent.Operations

/-! ## The command as it is written -/

/-- The timestamp that `utc_z` writes. -/
def Datetime.truncate (t : Datetime) : Datetime :=
  .utc (t.instant / second * second) ((Nat.div_mul_le_self _ _).trans_lt t.inRange)

theorem readTimestamp_utc_z (t : Datetime) : readTimestamp t.utc_z = some t.truncate := by
  have hread := Calendar.readIso_isoText t.seconds_lt ['Z']
  rw [readTimestamp, Datetime.utc_z, String.toList_ofList, hread]
  simp only
  rw [dif_pos ((Nat.div_mul_le_self _ _).trans_lt t.inRange)]
  rfl

theorem Datetime.truncate_instant (t : Datetime) : t.truncate.instant = t.instant ↔ second ∣ t.instant := by
  unfold Datetime.truncate
  exact ⟨fun h => ⟨_, by rw [mul_comm]; exact h.symm⟩, Nat.div_mul_cancel⟩

theorem Datetime.truncate_utc_z (t : Datetime) : t.truncate.utc_z = t.utc_z := by
  rw [Datetime.utc_z_inj]
  exact Nat.mul_div_cancel _ (by decide)

theorem readDecimal_decimalText {d : Decimal} (h : d.isFinite = true) :
    readDecimal (decimalText 4 d) = some (d.atScale 4) := by
  cases d with
  | special => cases h
  | finite negative coefficient exponent =>
    rw [readDecimal, decimalText, String.toList_ofList, Decimal.readFixedPoint_fixedPoint (by decide)]
    rfl

theorem decimalText_atScale {scale : ℕ} (d : Decimal) : decimalText scale (d.atScale scale) = decimalText scale d := by
  rw [decimalText_inj]
  cases d with
  | special => rfl
  | finite negative coefficient exponent => simp [Decimal.atScale, Decimal.rounded, Decimal.rescale]

/-- The command that the payload of `c` holds. -/
def OperationCommand.written (c : OperationCommand) : Command Datetime Decimal :=
  c.command.map Datetime.truncate (Decimal.atScale 4)

/-- Whole seconds, and no digit behind the fourth place. -/
def OperationCommand.exact (c : OperationCommand) : Prop :=
  (∀ t ∈ c.command.timestamps, second ∣ t.instant) ∧ ∀ d ∈ c.command.decimals, d.exactAt 4

instance (c : OperationCommand) : Decidable c.exact := inferInstanceAs (Decidable (_ ∧ _))

theorem readOperationCommand_projected (c : OperationCommand) :
    readOperationCommand (toJson c.projected).sortKeys =
      if h : c.written.Valid then some ⟨c.written, h⟩ else none := by
  have htimes : ∀ t ∈ c.command.timestamps, (readTimestamp ∘ Datetime.utc_z) t = pure t.truncate :=
    fun t _ => by rw [Function.comp_apply, readTimestamp_utc_z, Option.pure_def]
  have hdecimals : ∀ d ∈ c.command.decimals, (readDecimal ∘ decimalText 4) d = pure (d.atScale 4) :=
    fun d hd => by
      rw [Function.comp_apply, readDecimal_decimalText (c.valid.decimals d hd).1, Option.pure_def]
  have hwritten : c.projected.mapM readTimestamp readDecimal = some c.written := by
    rw [OperationCommand.projected, Command.mapM_map]
    exact Command.mapM_pure c.command htimes hdecimals
  rw [readOperationCommand, Codec.ofJson_toJson]
  simp only [Option.bind_eq_bind, Option.bind_some, hwritten]

theorem written_projected (c : OperationCommand) (h : c.written.Valid) :
    OperationCommand.projected ⟨c.written, h⟩ = c.projected := by
  simp only [OperationCommand.projected, OperationCommand.written, Command.map_map, Command.map_congr_iff,
    Function.comp_apply, Datetime.truncate_utc_z, decimalText_atScale, implies_true, and_self]

theorem written_same_iff (c : OperationCommand) (h : c.written.Valid) :
    OperationCommand.same ⟨c.written, h⟩ c ↔ c.exact := by
  simp only [OperationCommand.same, OperationCommand.written, Command.map_map, Command.map_congr_iff,
    Function.comp_apply, Datetime.truncate_instant, Decimal.value_atScale, OperationCommand.exact]

theorem validate_atScale {d : Decimal} (h : validate_finite_decimal d) (hexact : d.exactAt 4) :
    validate_finite_decimal (d.atScale 4) := by
  obtain ⟨hfinite, hunit, -⟩ := h
  refine ⟨?_, ?_, ?_⟩
  · cases d with
    | special => cases hfinite
    | finite => rfl
  · rw [Decimal.inUnit_iff, (Decimal.value_atScale 4 d).mpr hexact, ← Decimal.inUnit_iff]
    exact hunit
  · cases d with
    | special => cases hfinite
    | finite => simp [Decimal.atScale, Decimal.places]

theorem OperationCommand.exact.valid {c : OperationCommand} (h : c.exact) : c.written.Valid := by
  obtain ⟨htimes, hdecimals⟩ := h
  obtain ⟨command, hvalid⟩ := c
  cases command with
  | open_seller_risk_case c =>
    simp only [Command.timestamps, Command.decimals, List.mem_cons, List.not_mem_nil, or_false, forall_eq_or_imp,
      forall_eq] at htimes hdecimals
    obtain ⟨hperiod, hobserved, hthreshold⟩ := hvalid
    refine ⟨?_, validate_atScale hobserved hdecimals.1, validate_atScale hthreshold hdecimals.2⟩
    simp only [(Datetime.truncate_instant _).mpr htimes.1, (Datetime.truncate_instant _).mpr htimes.2]
    exact hperiod
  | create_and_enable_metric_alert_rule c => exact validate_atScale hvalid (hdecimals _ (by simp [Command.decimals]))
  | _ => trivial

@[simp] theorem written_type (c : OperationCommand) : c.written.type = c.command.type := Command.type_map _ _ _

@[simp] theorem written_evidence_refs (c : OperationCommand) : c.written.evidence_refs = c.command.evidence_refs :=
  Command.evidence_refs_map _ _ _

/-! ## The row that a proposal writes -/

theorem canonical_projection_sortKeys (p : Command String String) (v : TargetVersions) (schema : ℕ) :
    (canonical_projection p v schema).sortKeys =
      .obj [("command", (toJson p).sortKeys), ("schema_version", .num schema),
        ("target_versions", (toJson v).sortKeys)] := by
  have hkeys : (["command", "schema_version", "target_versions"] : List String).Pairwise (· < ·) := by decide
  refine (sortKeys_obj_of_keys ?_).trans rfl
  exact hkeys

theorem canonical_loads (crypto : Crypto) (c : OperationCommand) (v : TargetVersions) {schema : ℕ}
    {canonical : CanonicalPayload} (h : canonical_command crypto c v schema = .ok canonical) :
    canonical.schema_version = schema ∧
      canonical.loads = some (canonical_projection c.projected v schema).sortKeys := by
  rw [canonical_command_ok] at h
  injection h with h
  rw [← h]
  simp only [CanonicalPayload.loads, canonical_json_bytes, ofUtf8_utf8, Option.bind_eq_bind, Option.bind_some,
    loads_dumps, and_self]

theorem sellerTargets_all {bindings : List PrivateBinding}
    (h : (PostgresStore.sellerTargets bindings).length = bindings.length) :
    bindings = (PostgresStore.sellerTargets bindings).map .seller_target := by
  induction bindings with
  | nil => rfl
  | cons b bs ih =>
    cases b with
    | seller_target target =>
      simp only [PostgresStore.sellerTargets, List.filterMap_cons, List.length_cons, Nat.add_right_cancel_iff,
        List.map_cons, List.cons.injEq, true_and] at h ih ⊢
      exact ih h
    | backtest snapshot =>
      have hle : (PostgresStore.sellerTargets bs).length ≤ bs.length := List.length_filterMap_le _ bs
      simp only [PostgresStore.sellerTargets, List.filterMap_cons, List.length_cons] at h hle
      omega

theorem readBindings_written {c : OperationCommand} {validated : ValidatedReferences}
    {target : Option PrivateSellerTarget} {row : ProposalRow}
    (hbinding : PostgresStore.private_seller_binding c validated = .ok target)
    (hevidence : validated.evidence_refs = c.command.evidence_refs)
    (hseller : row.private_seller_id = target.map PrivateSellerTarget.seller_id)
    (hdigest : row.private_evidence_digest = target.map PrivateSellerTarget.evidence_digest)
    (hvalid : c.written.Valid) : readBindings row ⟨c.written, hvalid⟩ = some validated.private_bindings := by
  unfold PostgresStore.private_seller_binding at hbinding
  simp only at hbinding
  split at hbinding
  · cases hbinding
  rename_i hlength
  have hall := sellerTargets_all (not_not.mp hlength)
  obtain ⟨command, _⟩ := c
  cases command with
  | open_seller_risk_case c =>
    simp only at hbinding
    split at hbinding
    · rename_i target' item htargets hquery
      split_ifs at hbinding with hmatch
      injection hbinding with hbinding
      subst hbinding
      rw [hevidence] at hquery
      rw [hall, htargets]
      simp only [readBindings, hseller, hdigest, Option.map_some, OperationCommand.written, Command.map]
      simp only [Command.evidence_refs] at hquery
      simp only [hquery, ← hmatch, if_true, List.map_cons, List.map_nil]
    · cases hbinding
  | _ =>
    simp only at hbinding
    split_ifs at hbinding with hnone
    injection hbinding with hbinding
    subst hbinding
    rw [hall, hnone]
    simp only [readBindings, hseller, hdigest, Option.map_none, OperationCommand.written, Command.map, List.map_nil]

/-- The row of a draft, in whatever status. -/
structure Written (crypto : Crypto) (draft : ProposalDraft) (row : ProposalRow) : Prop where
  schema : row.command_schema_version = 1
  payload : row.canonical_payload =
    (canonical_projection draft.request.command.projected draft.preview.target_versions 1).sortKeys
  sha256 : ∃ canonical, canonical_command crypto draft.request.command draft.preview.target_versions = .ok canonical ∧
    row.payload_sha256 = canonical.sha256
  type : row.command_type = draft.request.command.command.type
  evidence : row.evidence_refs = jsonb draft.request.evidence_refs
  preview : row.preview = jsonb draft.preview
  versions : row.target_versions = jsonb draft.preview.target_versions
  private_columns : ∃ target,
    PostgresStore.private_seller_binding draft.request.command draft.validated_references = .ok target ∧
      row.private_seller_id = target.map PrivateSellerTarget.seller_id ∧
      row.private_evidence_digest = target.map PrivateSellerTarget.evidence_digest
  increasing : row.created_at.instant < row.expires_at.instant

theorem Written.withStatus {crypto : Crypto} {draft : ProposalDraft} {row : ProposalRow}
    (h : Written crypto draft row) (status : ProposalStatus) : Written crypto draft (row.withStatus status) :=
  ⟨h.schema, h.payload, h.sha256, h.type, h.evidence, h.preview, h.versions, h.private_columns, h.increasing⟩

section Reading

variable {crypto : Crypto} {draft : ProposalDraft} {row : ProposalRow} {ref : ProposalRef}

theorem readProposalRow_written (h : Written crypto draft row) (hkey : row.key = ref.key)
    (hpreview : draft.preview.Valid) (htype : draft.preview.command_type = draft.request.command.command.type)
    {p : StoredProposal} :
    readProposalRow crypto row ref = some p ↔
      ∃ (hvalid : draft.request.command.written.Valid) (bindings : List PrivateBinding),
        draft.request.command.command.evidence_refs = draft.request.evidence_refs ∧
          readBindings row ⟨draft.request.command.written, hvalid⟩ = some bindings ∧
          row.stored ref ⟨draft.request.command.written, hvalid⟩ draft.preview bindings h.increasing = p := by
  have hpayload := h.payload.trans (canonical_projection_sortKeys ..)
  have hguard : ¬(row.key ≠ ref.key ∨ row.canonical_payload.keys ≠ ["command", "schema_version", "target_versions"] ∨
      row.canonical_payload.get? "schema_version" ≠ some (.num row.command_schema_version)) := by
    rw [hpayload, h.schema]
    simp [hkey, keys, get?, List.lookup_cons]
  have hversions : (ofJson row.target_versions : Option TargetVersions) = some draft.preview.target_versions := by
    rw [h.versions]
    exact Codec.ofJson_toJson _
  have hcommand : row.canonical_payload.get? "command" = some (toJson draft.request.command.projected).sortKeys := by
    rw [hpayload]
    rfl
  have hevidence : (ofJson row.evidence_refs : Option (List EvidenceRef)) = some draft.request.evidence_refs.items := by
    rw [h.evidence]
    exact Codec.ofJson_toJson _
  have hpreviewed : (ofJson row.preview : Option CommandPreview) = some draft.preview := by
    rw [h.preview]
    exact Codec.ofJson_toJson _
  simp only [readProposalRow, if_neg hguard, hversions, hcommand, hevidence, hpreviewed, Option.bind_eq_bind,
    Option.bind_some, readOperationCommand_projected]
  by_cases hvalid : draft.request.command.written.Valid
  · obtain ⟨canonical, hcanonical, hsha256⟩ := h.sha256
    obtain ⟨-, hloads⟩ := canonical_loads crypto _ _ hcanonical
    -- the command that was read has the canonical payload of the one that was written
    have hagain : (canonical_command crypto ⟨draft.request.command.written, hvalid⟩ draft.preview.target_versions
        row.command_schema_version).toOption = some canonical := by
      rw [canonical_command_ok] at hcanonical
      rw [h.schema, canonical_command_ok, written_projected, hcanonical]
      rfl
    rw [dif_pos hvalid, Option.bind_some, hagain, Option.bind_some, h.type, htype, hloads, ← h.payload, hsha256]
    simp only [written_type, written_evidence_refs, hpreview, h.increasing, dif_pos, EvidenceRefs.items_inj, ne_eq,
      not_true, false_or, or_false, hvalid, exists_true_left]
    by_cases hevidence' : draft.request.command.command.evidence_refs = draft.request.evidence_refs
    · simp [hevidence', Option.bind_eq_some_iff]
    · simp [hevidence']
  · rw [dif_neg hvalid]
    simp [hvalid]

end Reading

/-! ## The run of a proposal -/

section Proposing

variable {crypto : Crypto} {keyring : HmacApprovalKeyring}

/-- The workflow on the database, where every operation has its own reading of the outside. -/
abbrev pgRun (crypto : Crypto) (keyring : HmacApprovalKeyring) (o : Op → Outside) {α : Type} (call : Call α)
    (t : Tables) : Except Raised α × Tables :=
  call.run (fun op => pgAct crypto keyring (o op) op) t

theorem pg_propose_ok {o : Op → Outside} {request : ProposeRequest} {t t' : Tables} {snapshot : ProposalSnapshot}
    (h : pgRun crypto keyring o (propose crypto request) t = (.ok snapshot, t')) :
    ∃ (validated : ValidatedReferences) (canonical : CanonicalPayload) (expires_at : Datetime) (draft : ProposalDraft),
      (o (.validate_command request.command request.evidence_refs)).validated = .ok validated ∧
        canonical_command crypto request.command (PostgresStore.preview_command request.command).target_versions =
          .ok canonical ∧
        (o (.now .created_at)).now.add (Datetime.hours 24) = .ok expires_at ∧
        draft = ⟨request, PostgresStore.preview_command request.command, canonical.sha256, (o (.now .created_at)).now,
          expires_at, validated⟩ ∧
        PostgresStore.create_or_get_proposal crypto (o (.create_or_get_proposal draft)).uuid4
          (o (.create_or_get_proposal draft)).now draft t = (.ok snapshot, t') := by
  unfold pgRun propose require_role at h
  split_ifs at h
  · exact absurd (Prod.mk.inj h).1 (by simp)
  rw [Flow.run_ask] at h
  obtain ⟨validated, hvalidated, h⟩ := onOk_returned h
  rw [Flow.run_ask] at h
  obtain ⟨preview, hpreview, h⟩ := onOk_returned h
  obtain ⟨canonical, hcanonical, h⟩ := onOk_returned h
  rw [Flow.run_ask] at h
  obtain ⟨expires_at, hexpires, h⟩ := onOk_returned h
  rw [Flow.run_ask, Flow.run_done] at h
  simp only [pgAct, Prod.mk.eta] at hvalidated hpreview hexpires h
  obtain rfl := Except.ok.inj hpreview
  exact ⟨validated, canonical, expires_at, _, hvalidated, hcanonical, hexpires, rfl, h⟩

theorem pg_propose_run {o : Op → Outside} {request : ProposeRequest} {t : Tables} {validated : ValidatedReferences}
    {canonical : CanonicalPayload} {expires_at : Datetime} (hrole : request.actor.role = .analyst)
    (hvalidated : (o (.validate_command request.command request.evidence_refs)).validated = .ok validated)
    (hcanonical : canonical_command crypto request.command
      (PostgresStore.preview_command request.command).target_versions = .ok canonical)
    (hexpires : (o (.now .created_at)).now.add (Datetime.hours 24) = .ok expires_at) :
    let draft : ProposalDraft := ⟨request, PostgresStore.preview_command request.command, canonical.sha256,
      (o (.now .created_at)).now, expires_at, validated⟩
    pgRun crypto keyring o (propose crypto request) t =
      PostgresStore.create_or_get_proposal crypto (o (.create_or_get_proposal draft)).uuid4
        (o (.create_or_get_proposal draft)).now draft t := by
  unfold pgRun propose require_role
  rw [if_neg (not_not.mpr hrole)]
  refine (run_onOk hvalidated).trans ?_
  refine (run_onOk rfl).trans ?_
  refine (run_onOk hcanonical).trans ?_
  rw [Flow.run_ask]
  have hnow : Datetime.add (pgAct crypto keyring (o (.now .created_at)) (.now .created_at) t).1 (Datetime.hours 24) =
      .ok expires_at := hexpires
  refine (run_onOk hnow).trans ?_
  rw [Flow.run_ask, Flow.run_done]
  rfl

theorem create_or_get_run {draft : ProposalDraft} {uuid4 : UUID} {now : Datetime} {t : Tables}
    {canonical : CanonicalPayload} {target : Option PrivateSellerTarget}
    (hcanonical : canonical_command crypto draft.request.command draft.preview.target_versions = .ok canonical)
    (hsha256 : canonical.sha256 = draft.payload_sha256)
    (hbinding : PostgresStore.private_seller_binding draft.request.command draft.validated_references = .ok target) :
    let p := PostgresStore.proposal_columns crypto uuid4 draft canonical
      (canonical_projection draft.request.command.projected draft.preview.target_versions 1).sortKeys target
    PostgresStore.create_or_get_proposal crypto uuid4 now draft t =
      match run_transaction t (call (PostgresStore.proposal_parameters p) (create_operation_proposal now p t)) with
      | (.error e, t) => (.error e, t)
      | (.ok row, t) => (PostgresStore.draft_snapshot draft row, t) := by
  intro p
  obtain ⟨result, after, hrun⟩ : ∃ result after, run_transaction t
      (call (PostgresStore.proposal_parameters p) (create_operation_proposal now p t)) = (result, after) := ⟨_, _, rfl⟩
  rw [hrun]
  unfold p at hrun
  unfold PostgresStore.create_or_get_proposal
  have hloads := (canonical_loads crypto _ _ hcanonical).2
  cases result with
  | error e => simp only [hcanonical, hsha256, ne_eq, not_true, if_false, hbinding, hloads, hrun]
  | ok row => simp only [hcanonical, hsha256, ne_eq, not_true, if_false, hbinding, hloads, hrun]

theorem create_written {draft : ProposalDraft} {uuid4 : UUID} {now : Datetime} {t t' : Tables}
    {snapshot : ProposalSnapshot}
    (h : PostgresStore.create_or_get_proposal crypto uuid4 now draft t = (.ok snapshot, t'))
    (hnew : Table.select ProposalRow.key snapshot.proposal_ref.key t.operation_proposal = none) :
    ∃ row, Table.select ProposalRow.key snapshot.proposal_ref.key t'.operation_proposal = some row ∧
      Written crypto draft row ∧ snapshot.proposal_ref.version < maxInteger ∧ snapshot.preview = draft.preview := by
  obtain ⟨canonical, target, payload, result, hcanonical, -, hbinding, hpayload, hparameters, hcreate, hsnapshot⟩ := create_ok h
  obtain ⟨hschema, hloads⟩ := canonical_loads crypto _ _ hcanonical
  obtain ⟨hkey, -, hpreview, -, -⟩ := draft_snapshot_ok hsnapshot
  rcases create_cases hcreate with ⟨row, hrow, -, hresult, -⟩ | ⟨-, hresult, -, t₁, hsupersede, hinsert⟩
  · -- the row of an earlier call is no new row
    rw [hkey, hresult] at hnew
    exact absurd rfl (Table.select_eq_none.mp hnew row (List.mem_of_find?_eq_some hrow))
  · obtain ⟨hexpires, hnone, rfl⟩ := insert_ok hinsert
    rw [hresult] at hkey
    refine ⟨inserted now (PostgresStore.proposal_columns crypto uuid4 draft canonical payload target), ?_, ?_, ?_,
      hpreview⟩
    · rw [hkey]
      exact (Table.select_insert hnone).trans (if_pos rfl)
    · exact
        { schema := hschema
          payload := Option.some.inj (hpayload.symm.trans hloads)
          sha256 := ⟨canonical, hcanonical, rfl⟩
          type := rfl
          evidence := rfl
          preview := rfl
          versions := rfl
          private_columns := ⟨target, hbinding, rfl, rfl⟩
          increasing := hexpires }
    · rw [show snapshot.proposal_ref.version = _ from congrArg Prod.snd hkey]
      exact proposal_version_fits hparameters

end Proposing

/-! ## The round trip -/

/-- A stored proposal that reads back as what was proposed. -/
def RoundTrips (request : ProposeRequest) (validated : Except Raised ValidatedReferences) (preview : CommandPreview)
    (stored : Except Raised (Option StoredProposal)) : Prop :=
  ∃ proposal, stored = .ok (some proposal) ∧ proposal.command.same request.command ∧
    proposal.evidence_refs = request.evidence_refs ∧ .ok proposal.validated_references = validated ∧
    proposal.snapshot.preview = preview

open MemoryStore in
theorem previewTitle_length (c : Command Datetime Decimal) :
    1 ≤ (previewTitle c).length ∧ (previewTitle c).length ≤ 200 := by
  have hpasses (title : Text 1 200) : 1 ≤ title.text.length ∧ title.text.length ≤ 200 := by
    simpa using title.passes
  cases c with
  | open_seller_risk_case c => exact hpasses c.title
  | create_investigation_task c => exact hpasses c.title
  | create_investigation_from_alert_hit c => exact hpasses c.title
  | _ => simp only [previewTitle, Command.type]; decide

open MemoryStore in
theorem preview_valid (c : Command Datetime Decimal) {versions : TargetVersions} {affected_rows : ℕ} {summary : String}
    (hsummary : 1 ≤ summary.length ∧ summary.length ≤ 2000)
    (hversions : 1 ≤ versions.entries.length ∧ versions.entries.length ≤ 8)
    (hpositive : ∀ e ∈ versions.entries, 0 ≤ e.2) (hrows : affected_rows ≤ 8) :
    (preview c versions affected_rows summary).Valid := by
  refine ⟨?_, previewTitle_length c, hsummary, hversions, hpositive, hrows⟩
  cases c <;> simp only [preview, Command.type] <;> decide

theorem preview_command_valid (c : OperationCommand) : (PostgresStore.preview_command c).Valid := by
  unfold PostgresStore.preview_command
  split
  · exact preview_valid _ (by decide) (by simp [MemoryStore.taskVersion]) (by simp [MemoryStore.taskVersion]) (by decide)
  · split <;> exact preview_valid _ (by decide) (by decide) (by decide) (by decide)

theorem preview_command_type (c : OperationCommand) : (PostgresStore.preview_command c).command_type = c.command.type := by
  unfold PostgresStore.preview_command
  split
  · rfl
  · split <;> rfl

theorem validate_command_evidence {resolvers : Resolvers} {c : OperationCommand} {evidence_refs : EvidenceRefs}
    {validated : ValidatedReferences} (h : validate_command resolvers c evidence_refs = .ok validated) :
    validated.evidence_refs = evidence_refs := by
  unfold validate_command at h
  split_ifs at h
  split at h
  · rename_i c _
    rcases htarget : resolve_seller resolvers c evidence_refs with e | target <;> rw [htarget] at h
    · cases h
    · rw [← Except.ok.inj h]
  · rename_i c _
    rcases hsnapshot : resolve_backtest resolvers c with e | snapshot <;> rw [hsnapshot] at h
    · cases h
    · rw [← Except.ok.inj h]
  · rw [← Except.ok.inj h]

section RoundTrip

variable {crypto : Crypto} {keyring : HmacApprovalKeyring} {resolvers : Resolvers} {o : Op → Outside}
  {request : ProposeRequest} {t t' : Tables} {snapshot : ProposalSnapshot}

theorem round_trips_iff {later : Tables}
    (hvalidator : (o (.validate_command request.command request.evidence_refs)).validated =
      validate_command resolvers request.command request.evidence_refs)
    (haccepted : pgRun crypto keyring o (propose crypto request) t = (.ok snapshot, t'))
    (hnew : Table.select ProposalRow.key snapshot.proposal_ref.key t.operation_proposal = none)
    (hlater : Kept t' later) :
    RoundTrips request (validate_command resolvers request.command request.evidence_refs) snapshot.preview
        (PostgresStore.read_proposal crypto snapshot.proposal_ref later) ↔
      request.evidence_refs = request.command.command.evidence_refs ∧ request.command.exact := by
  obtain ⟨validated, canonical, expires_at, draft, hvalidated, -, -, hdraft, hcreate⟩ := pg_propose_ok haccepted
  obtain ⟨row, hrow, hwritten, hversion, hpreview⟩ := create_written hcreate hnew
  obtain ⟨status, hstatus⟩ := Extends.select hlater hrow
  rw [hvalidator] at hvalidated
  have hkey : (row.withStatus status).key = snapshot.proposal_ref.key := (Table.select_mem hrow).2
  have hread := @readProposalRow_written crypto draft _ snapshot.proposal_ref (hwritten.withStatus status) hkey
    (by rw [hdraft]; exact preview_command_valid _) (by rw [hdraft]; exact preview_command_type _)
  rw [read_proposal_row hversion hstatus, stored_proposal_from_row]
  subst hdraft
  constructor
  · rintro ⟨proposal, hstored, hsame, -⟩
    split at hstored
    · rename_i read hok
      obtain rfl := Option.some.inj (Except.ok.inj hstored)
      obtain ⟨hvalid, _, hevidence, -, rfl⟩ := hread.mp hok
      exact ⟨hevidence.symm, (written_same_iff _ hvalid).mp hsame⟩
    · cases hstored
  · rintro ⟨hevidence, hexact⟩
    have hvalid := hexact.valid
    obtain ⟨target, hbinding, hseller, hdigest⟩ := hwritten.private_columns
    have hsame : validated.evidence_refs = request.command.command.evidence_refs :=
      (validate_command_evidence hvalidated).trans hevidence
    have hbindings := @readBindings_written _ _ _ (row.withStatus status) hbinding hsame hseller hdigest hvalid
    have hok := hread.mpr ⟨hvalid, _, hevidence.symm, hbindings, rfl⟩
    have hback : request.command.written.evidence_refs = request.evidence_refs :=
      (written_evidence_refs _).trans hevidence.symm
    rw [hok]
    refine ⟨_, rfl, (written_same_iff _ hvalid).mpr hexact, hback, ?_, hpreview.symm⟩
    rw [hvalidated]
    exact congrArg Except.ok
      (congrArg (ValidatedReferences.mk · _) (hback.trans (validate_command_evidence hvalidated).symm))

/-- A persisted proposal reads back in every later state exactly when the request lists the
evidence in the order of its command, and the command is written exactly. -/
theorem stored_proposal_round_trip (resolvers : Resolvers)
    (hvalidator : (o (.validate_command request.command request.evidence_refs)).validated =
      validate_command resolvers request.command request.evidence_refs)
    (haccepted : pgRun crypto keyring o (propose crypto request) t = (.ok snapshot, t'))
    (hpersisted : Table.select ProposalRow.key snapshot.proposal_ref.key t.operation_proposal = none) :
    (∀ later, PgRuns crypto keyring ⟨t', []⟩ later →
        RoundTrips request (validate_command resolvers request.command request.evidence_refs) snapshot.preview
          (PostgresStore.read_proposal crypto snapshot.proposal_ref later.shared)) ↔
      request.evidence_refs = request.command.command.evidence_refs ∧ request.command.exact := by
  constructor
  · intro h
    exact (round_trips_iff hvalidator haccepted hpersisted (.refl t')).mp (h _ .init)
  · intro h later hruns
    exact (round_trips_iff hvalidator haccepted hpersisted (pgRuns_kept hruns)).mpr h

end RoundTrip

/-! ## Two references in two orders -/

/-- The database of a new scenario. -/
def newTables : Tables := ⟨[], [], [], [], [], [], [], [], []⟩

def sampleRef (kind : String) (h : matchesPattern lowerCase nameChar 1 63 kind = true) : EvidenceRef :=
  ⟨⟨kind, h⟩, sampleSource, HexDigest.ofNat 1⟩

/-- A query and a chart, in this order or the other. -/
def sampleRefs (swapped : Bool) : EvidenceRefs :=
  let query := sampleRef "query" query_kind
  let chart := sampleRef "chart" (by decide)
  if swapped then ⟨[chart, query], by decide, by decide⟩ else ⟨[query, chart], by decide, by decide⟩

/-- A request that lists its evidence in the order of its command, or not. -/
def sampleOrdered (swapped : Bool) : ProposeRequest where
  actor := ⟨1, .analyst⟩
  command :=
    { command := .create_investigation_task
        { title := sampleTitle
          priority := .high
          public_summary := sampleSummary
          evidence_refs := sampleRefs false }
      valid := trivial }
  evidence_refs := sampleRefs swapped
  idempotency_key := sampleKey
  revises := none

def sampleValidator (request : ProposeRequest) : Outside :=
  { sampleOutside noon with validated := validate_command ⟨none, none⟩ request.command request.evidence_refs }

theorem sampleValidator_validated (request : ProposeRequest) : (sampleValidator request).validated =
    validate_command ⟨none, none⟩ request.command request.evidence_refs := rfl

theorem returned_of_isOk {ε α σ : Type} {r : Except ε α × σ} (h : r.1.isOk = true) : ∃ a s, r = (.ok a, s) := by
  obtain ⟨e | a, s⟩ := r
  · cases h
  · exact ⟨a, s, rfl⟩

theorem sampleOrdered_accepted (swapped : Bool) :
    ∃ snapshot t', pgRun sampleCrypto sampleKeyring (fun _ => sampleValidator (sampleOrdered swapped))
      (propose sampleCrypto (sampleOrdered swapped)) newTables = (.ok snapshot, t') := by
  have hvalidated : validate_command ⟨none, none⟩ (sampleOrdered swapped).command (sampleOrdered swapped).evidence_refs =
      .ok ⟨sampleRefs swapped, []⟩ := by
    refine if_neg (not_not.mpr ?_)
    cases swapped
    · exact .refl _
    · exact .swap _ _ _
  have hexpires : noon.add (Datetime.hours 24) = .ok (.utc (36 * 3600 * second) (by decide)) := by decide +kernel
  have hrun := @pg_propose_run sampleCrypto sampleKeyring (fun _ => sampleValidator (sampleOrdered swapped))
    (sampleOrdered swapped) newTables _ _ _ rfl hvalidated (canonical_command_ok ..) hexpires
  apply returned_of_isOk
  rw [hrun, create_or_get_run (canonical_command_ok ..) rfl rfl]
  cases swapped <;> decide +kernel

/-- A request in the order of its command is stored, and reads back. -/
theorem sampleOrdered_round_trip :
    ∃ (snapshot : ProposalSnapshot) (t' : Tables), ∀ later, PgRuns sampleCrypto sampleKeyring ⟨t', []⟩ later →
      RoundTrips (sampleOrdered false) (.ok ⟨sampleRefs false, []⟩) snapshot.preview
        (PostgresStore.read_proposal sampleCrypto snapshot.proposal_ref later.shared) := by
  obtain ⟨snapshot, t', hrun⟩ := sampleOrdered_accepted false
  exact ⟨snapshot, t', (stored_proposal_round_trip ⟨none, none⟩ (sampleValidator_validated _) hrun rfl).mpr
    ⟨rfl, by decide⟩⟩

/-- A request that swaps its two references is stored, and is not read back. -/
theorem swapped_evidence_unreadable :
    ¬ ∀ (crypto : Crypto) (keyring : HmacApprovalKeyring) (resolvers : Resolvers) (o : Op → Outside)
      (request : ProposeRequest) (t t' : Tables) (snapshot : ProposalSnapshot),
      (o (.validate_command request.command request.evidence_refs)).validated =
        validate_command resolvers request.command request.evidence_refs →
      pgRun crypto keyring o (propose crypto request) t = (.ok snapshot, t') →
      Table.select ProposalRow.key snapshot.proposal_ref.key t.operation_proposal = none →
      ∀ later, PgRuns crypto keyring ⟨t', []⟩ later →
        RoundTrips request (validate_command resolvers request.command request.evidence_refs) snapshot.preview
          (PostgresStore.read_proposal crypto snapshot.proposal_ref later.shared) := by
  intro h
  obtain ⟨snapshot, t', hrun⟩ := sampleOrdered_accepted true
  have hreads := h sampleCrypto sampleKeyring ⟨none, none⟩ (fun _ => sampleValidator (sampleOrdered true))
    (sampleOrdered true) newTables t' snapshot (sampleValidator_validated _) hrun rfl ⟨t', []⟩ .init
  have hsame := (round_trips_iff (sampleValidator_validated _) hrun rfl (.refl t')).mp hreads
  have hkinds : (["chart", "query"] : List String) = ["query", "chart"] :=
    congrArg (fun refs : EvidenceRefs => refs.items.map fun ref : EvidenceRef => ref.kind.text) hsame.1
  exact absurd hkinds (by decide)

end CommerceAgent.Operations
