import CommerceAgent.Operations.Commands

/-!
# The canonical payload

`canonical_command` writes a command and the versions of its targets as JSON with sorted
keys. Timestamps are cut to the second and decimals rounded to four places on the way, so
the payload determines the command up to these two.
-/

open CommerceAgent.Lib CommerceAgent.Lib.Json

namespace CommerceAgent.Operations

/-! ## JSON forms of the contracts -/

/-- An enumeration by the text of its members. -/
def enumOfJson {α : Type} (value : α → String) (members : List α) : Json → Option α
  | .str s => members.find? fun a => value a == s
  | _ => none

instance : Codec InvestigationStatus where
  toJson a := .str a.value
  ofJson := enumOfJson InvestigationStatus.value [.open, .in_progress, .blocked, .resolved, .closed]
  ofJson_toJson a := by cases a <;> rfl

instance : Codec RiskDisposition where
  toJson a := .str a.value
  ofJson := enumOfJson RiskDisposition.value [.confirmed, .dismissed, .inconclusive]
  ofJson_toJson a := by cases a <;> rfl

instance : NeverNull RiskDisposition where
  ne_null a := by cases a <;> exact fun h => by cases h

instance : Codec CalendarWindow where
  toJson a := .str a.value
  ofJson := enumOfJson CalendarWindow.value [.week, .month]
  ofJson_toJson a := by cases a <;> rfl

instance : Codec AlertComparator where
  toJson a := .str a.value
  ofJson := enumOfJson AlertComparator.value [.greater_than, .greater_than_or_equal]
  ofJson_toJson a := by cases a <;> rfl

instance : Codec Priority where
  toJson a := .str a.value
  ofJson := enumOfJson Priority.value [.low, .medium, .high]
  ofJson_toJson a := by cases a <;> rfl

instance : Codec ℕ where
  toJson n := .num n
  ofJson
    | .num (.ofNat n) => some n
    | _ => none
  ofJson_toJson _ := rfl

instance : Codec EvidenceRef where
  toJson e := .obj [("kind", toJson e.kind), ("ref", toJson e.ref), ("digest", toJson e.digest)]
  ofJson j := do
    let kind ← j.field "kind"
    let ref ← j.field "ref"
    let digest ← j.field "digest"
    return { kind, ref, digest }
  ofJson_toJson e := by simp [field, get?_sortKeys, List.lookup_cons]

instance : Codec EvidenceRefs where
  toJson es := toJson es.items
  ofJson j := do
    let items : List EvidenceRef ← ofJson j
    if h : (1 ≤ items.length ∧ items.length ≤ 32) ∧ items.Nodup then some ⟨items, h.1, h.2⟩ else none
  ofJson_toJson es := by simp [es.size, es.unique]

instance : Codec FilterRefs where
  toJson fs := toJson fs.items
  ofJson j := do
    let items : List (Text 1 256) ← ofJson j
    if h : items.length ≤ 32 ∧ items.Nodup then some ⟨items, h.1, h.2⟩ else none
  ofJson_toJson fs := by simp [fs.size, fs.unique]

instance : Codec MetricRef where
  toJson m := .obj [("name", toJson m.name), ("revision", toJson m.revision)]
  ofJson j := do
    let name ← j.field "name"
    let revision ← j.field "revision"
    return { name, revision }
  ofJson_toJson m := by simp [field, get?_sortKeys, List.lookup_cons]

instance : Codec SellerRef where
  toJson r := .obj [("namespace", .str "product:seller-target"), ("token", toJson r.token)]
  ofJson j := do
    let space : String ← j.field "namespace"
    let token ← j.field "token"
    if space = "product:seller-target" then some { token } else none
  ofJson_toJson r := by simp [field, get?_sortKeys, List.lookup_cons]

instance : Codec InvestigationTaskRef where
  toJson r := .obj [("task_id", toJson r.task_id), ("version", toJson r.version)]
  ofJson j := do
    let task_id ← j.field "task_id"
    let version ← j.field "version"
    return { task_id, version }
  ofJson_toJson r := by simp [field, get?_sortKeys, List.lookup_cons]

instance : Codec AlertBacktestRef where
  toJson r := .obj [("backtest_id", toJson r.backtest_id), ("rule_spec_sha256", toJson r.rule_spec_sha256)]
  ofJson j := do
    let backtest_id ← j.field "backtest_id"
    let rule_spec_sha256 ← j.field "rule_spec_sha256"
    return { backtest_id, rule_spec_sha256 }
  ofJson_toJson r := by simp [field, get?_sortKeys, List.lookup_cons]

instance : Codec AlertHitRef where
  toJson r := .obj [("hit_id", toJson r.hit_id), ("evidence_digest", toJson r.evidence_digest)]
  ofJson j := do
    let hit_id ← j.field "hit_id"
    let evidence_digest ← j.field "evidence_digest"
    return { hit_id, evidence_digest }
  ofJson_toJson r := by simp [field, get?_sortKeys, List.lookup_cons]

def versionEntry : String × Json → Option (String × ℤ)
  | (name, .num n) => some (name, n)
  | _ => none

instance : Codec TargetVersions where
  toJson v := .obj (v.entries.map fun e => (e.1, .num e.2))
  ofJson
    | .obj kvs => do
      let entries ← kvs.mapM versionEntry
      if h : entries.Pairwise fun a b => a.1 < b.1 then some ⟨entries, h⟩ else none
    | _ => none
  ofJson_toJson v := by
    have hsorted : (v.entries.map fun e => (e.1, Json.num e.2)).Pairwise fun a b => a.1 < b.1 :=
      List.pairwise_map.mpr v.sorted
    have hvalues : ∀ kv ∈ v.entries.map (fun e => (e.1, Json.num e.2)), kv.2.sortKeys = kv.2 := by
      intro kv hkv
      obtain ⟨e, -, rfl⟩ := List.mem_map.mp hkv
      rfl
    rw [sortKeys_obj_of_sorted hsorted hvalues]
    have hentries : (v.entries.map fun e => (e.1, Json.num e.2)).mapM versionEntry = some v.entries := by
      induction v.entries with
      | nil => rfl
      | cons e es ih => simp [versionEntry, ih]
    simp only [hentries, Option.bind_eq_bind, Option.bind_some, dif_pos v.sorted]

/-! ## Projections -/

section Projection

variable {τ δ : Type} [Codec τ] [Codec δ]

/-- The fields of `ExistingTaskCommand` around those of the command itself. -/
def ExistingTask.fields (type : String) (t : ExistingTask) (own : List (String × Json)) : List (String × Json) :=
  ("type", .str type) :: ("task_ref", toJson t.task_ref) :: own ++
    [("evidence_refs", toJson t.evidence_refs), ("expected_target_version", toJson t.expected_target_version)]

/-- `_COMMAND_FIELDS`, with the projected values. -/
def Command.fields : Command τ δ → List (String × Json)
  | .open_seller_risk_case c =>
    [("type", .str "open_seller_risk_case"), ("seller_ref", toJson c.seller_ref),
      ("observation_started_at", toJson c.observation_started_at),
      ("observation_ended_at", toJson c.observation_ended_at), ("metric_ref", toJson c.metric_ref),
      ("numerator", toJson c.numerator), ("denominator", toJson c.denominator),
      ("observed", toJson c.observed), ("threshold", toJson c.threshold), ("title", toJson c.title),
      ("priority", toJson c.priority), ("evidence_refs", toJson c.evidence_refs),
      ("expected_target_version", .num 0)]
  | .create_investigation_task c =>
    [("type", .str "create_investigation_task"), ("title", toJson c.title), ("priority", toJson c.priority),
      ("public_summary", toJson c.public_summary), ("evidence_refs", toJson c.evidence_refs),
      ("expected_target_version", .num 0)]
  | .create_investigation_from_alert_hit c =>
    [("type", .str "create_investigation_from_alert_hit"), ("alert_hit_ref", toJson c.alert_hit_ref),
      ("title", toJson c.title), ("priority", toJson c.priority), ("evidence_refs", toJson c.evidence_refs),
      ("expected_target_version", .num 0)]
  | .create_and_enable_metric_alert_rule c =>
    [("type", .str "create_and_enable_metric_alert_rule"), ("alert_backtest_ref", toJson c.alert_backtest_ref),
      ("metric_ref", toJson c.metric_ref), ("grain", toJson c.grain), ("window", toJson c.window),
      ("comparator", toJson c.comparator), ("threshold", toJson c.threshold),
      ("minimum_denominator", toJson c.minimum_denominator), ("filter_refs", toJson c.filter_refs),
      ("evidence_refs", toJson c.evidence_refs), ("expected_target_version", .num 0)]
  | .assign_investigation c =>
    c.toExistingTask.fields "assign_investigation" [("assignee_ref", toJson c.assignee_ref)]
  | .transition_investigation c =>
    c.toExistingTask.fields "transition_investigation"
      [("from_status", toJson c.from_status), ("to_status", toJson c.to_status),
        ("reason_code", toJson c.reason_code)]
  | .add_investigation_conclusion c =>
    c.toExistingTask.fields "add_investigation_conclusion"
      [("conclusion_code", toJson c.conclusion_code), ("conclusion_summary", toJson c.conclusion_summary)]
  | .close_investigation c =>
    c.toExistingTask.fields "close_investigation"
      [("conclusion_ref", toJson c.conclusion_ref), ("risk_disposition", toJson c.risk_disposition)]

def readExistingTask (j : Json) : Option ExistingTask := do
  let task_ref : InvestigationTaskRef ← j.field "task_ref"
  let evidence_refs ← j.field "evidence_refs"
  let expected_target_version : ℕ ← j.field "expected_target_version"
  if h : task_ref.version = expected_target_version then
    some { task_ref, expected_target_version, exact := h, evidence_refs }
  else none

def readOpenSellerRiskCase (j : Json) : Option (OpenSellerRiskCase τ δ) := do
  let seller_ref ← j.field "seller_ref"
  let observation_started_at ← j.field "observation_started_at"
  let observation_ended_at ← j.field "observation_ended_at"
  let metric_ref ← j.field "metric_ref"
  let numerator : ℕ ← j.field "numerator"
  let denominator : ℕ ← j.field "denominator"
  let observed ← j.field "observed"
  let threshold ← j.field "threshold"
  let title ← j.field "title"
  let priority ← j.field "priority"
  let evidence_refs ← j.field "evidence_refs"
  if h : 0 < denominator ∧ numerator ≤ denominator then
    some { seller_ref, observation_started_at, observation_ended_at, metric_ref, numerator, denominator,
           observed, threshold, title, priority, evidence_refs, ratio := h }
  else none

def readCreateAndEnableMetricAlertRule (j : Json) : Option (CreateAndEnableMetricAlertRule δ) := do
  let alert_backtest_ref ← j.field "alert_backtest_ref"
  let metric_ref ← j.field "metric_ref"
  let grain ← j.field "grain"
  let window ← j.field "window"
  let comparator ← j.field "comparator"
  let threshold ← j.field "threshold"
  let minimum_denominator : ℕ ← j.field "minimum_denominator"
  let filter_refs ← j.field "filter_refs"
  let evidence_refs ← j.field "evidence_refs"
  if h : 0 < minimum_denominator ∧ minimum_denominator ≤ 1000000000 then
    some { alert_backtest_ref, metric_ref, grain, window, comparator, threshold, minimum_denominator,
           filter_refs, evidence_refs, minimum := h }
  else none

def readTransitionInvestigation (j : Json) : Option TransitionInvestigation := do
  let task ← readExistingTask j
  let from_status : InvestigationStatus ← j.field "from_status"
  let to_status : InvestigationStatus ← j.field "to_status"
  let reason_code ← j.field "reason_code"
  if h : (from_status, to_status) ∈ allowedTransitions then
    some { toExistingTask := task, from_status, to_status, reason_code, allowed := h }
  else none

/-- The command that a JSON object describes, by its `type`. -/
def readCommand (j : Json) : Option (Command τ δ) := do
  let type : String ← j.field "type"
  if type = "open_seller_risk_case" then return .open_seller_risk_case (← readOpenSellerRiskCase j)
  if type = "create_investigation_task" then
    return .create_investigation_task
      { title := ← j.field "title", priority := ← j.field "priority",
        public_summary := ← j.field "public_summary", evidence_refs := ← j.field "evidence_refs" }
  if type = "create_investigation_from_alert_hit" then
    return .create_investigation_from_alert_hit
      { alert_hit_ref := ← j.field "alert_hit_ref", title := ← j.field "title",
        priority := ← j.field "priority", evidence_refs := ← j.field "evidence_refs" }
  if type = "create_and_enable_metric_alert_rule" then
    return .create_and_enable_metric_alert_rule (← readCreateAndEnableMetricAlertRule j)
  if type = "assign_investigation" then
    return .assign_investigation
      { toExistingTask := ← readExistingTask j, assignee_ref := ← j.field "assignee_ref" }
  if type = "transition_investigation" then
    return .transition_investigation (← readTransitionInvestigation j)
  if type = "add_investigation_conclusion" then
    return .add_investigation_conclusion
      { toExistingTask := ← readExistingTask j, conclusion_code := ← j.field "conclusion_code",
        conclusion_summary := ← j.field "conclusion_summary" }
  if type = "close_investigation" then
    return .close_investigation
      { toExistingTask := ← readExistingTask j, conclusion_ref := ← j.field "conclusion_ref",
        risk_disposition := ← j.field "risk_disposition" }
  none

theorem readCommand_fields (c : Command τ δ) : readCommand (Json.obj c.fields).sortKeys = some c := by
  cases c with
  | open_seller_risk_case c =>
    simp [readCommand, readOpenSellerRiskCase, Command.fields, field, get?_sortKeys, List.lookup_cons, c.ratio]
  | create_investigation_task c | create_investigation_from_alert_hit c =>
    simp [readCommand, Command.fields, field, get?_sortKeys, List.lookup_cons]
  | create_and_enable_metric_alert_rule c =>
    simp [readCommand, readCreateAndEnableMetricAlertRule, Command.fields, field, get?_sortKeys, List.lookup_cons,
      c.minimum]
  | assign_investigation c | add_investigation_conclusion c | close_investigation c =>
    simp [readCommand, readExistingTask, Command.fields, ExistingTask.fields, field, get?_sortKeys, List.lookup_cons,
      c.exact]
  | transition_investigation c =>
    simp [readCommand, readTransitionInvestigation, readExistingTask, Command.fields, ExistingTask.fields, field,
      get?_sortKeys, List.lookup_cons, c.exact, c.allowed]

instance : Codec (Command τ δ) where
  toJson c := .obj c.fields
  ofJson := readCommand
  ofJson_toJson := readCommand_fields

end Projection

/-! ## The payload -/

/-- The hashes and identifiers that the service draws on. -/
structure Crypto where
  sha256 : List UInt8 → HexDigest
  hmac_sha256 : List UInt8 → List UInt8 → HexDigest
  uuid5 : String → UUID
  md5 : String → UUID

structure CanonicalPayload where
  schema_version : ℕ
  canonical_bytes : List UInt8
  sha256 : HexDigest
  deriving DecidableEq

def normalized_decimal (scale : ℕ) (value : Decimal) : Except Raised String :=
  if value.isFinite then
    match value.quantize scale with
    | some (.finite negative coefficient _) => .ok (String.ofList (Decimal.fixedPoint scale negative coefficient))
    | _ => .error (OperationContractError "decimal_scale_invalid")
  else .error (OperationContractError "decimal_not_finite")

def canonical_json_bytes (projection : Json) : List UInt8 := utf8 projection.dumps

def canonical_projection (command : Command String String) (target_versions : TargetVersions)
    (schema_version : ℕ) : Json :=
  .obj [("command", toJson command), ("schema_version", toJson schema_version),
    ("target_versions", toJson target_versions)]

def canonical_command (crypto : Crypto) (command : OperationCommand) (target_versions : TargetVersions)
    (schema_version : ℕ := 1) : Except Raised CanonicalPayload := do
  let projected ← command.command.mapM (fun t => .ok t.utc_z) (normalized_decimal 4)
  let canonical := canonical_json_bytes (canonical_projection projected target_versions schema_version)
  return { schema_version := schema_version, canonical_bytes := canonical, sha256 := crypto.sha256 canonical }

/-! ## What the payload determines -/

/-- The text of a validated decimal at `scale` places. -/
def decimalText (scale : ℕ) (value : Decimal) : String :=
  String.ofList (Decimal.fixedPoint scale (value.rounded scale).1 (value.rounded scale).2)

theorem normalized_decimal_unit {value : Decimal} (hfin : value.isFinite = true) (hunit : value.inUnit) :
    normalized_decimal 4 value = .ok (decimalText 4 value) := by
  cases value with
  | special => simp [Decimal.isFinite] at hfin
  | finite negative coefficient exponent =>
    have hsmall : Decimal.rescale 4 coefficient exponent < 10 ^ 28 :=
      (Decimal.rescale_le 4 hunit).trans_lt (by decide)
    simp only [normalized_decimal, Decimal.isFinite, if_true, Decimal.quantize, if_pos hsmall, decimalText,
      Decimal.rounded]

theorem normalized_decimal_ok {value : Decimal} (h : validate_finite_decimal value) :
    normalized_decimal 4 value = .ok (decimalText 4 value) := normalized_decimal_unit h.1 h.2.1

theorem decimalText_inj {scale : ℕ} {a b : Decimal} :
    decimalText scale a = decimalText scale b ↔ a.rounded scale = b.rounded scale := by
  constructor
  · intro h
    obtain ⟨hsign, hcoefficient⟩ := Decimal.fixedPoint_inj (String.ofList_inj.mp h)
    exact Prod.ext hsign hcoefficient
  · intro h
    rw [decimalText, decimalText, h]

/-- The command with its timestamps and decimals written as text. -/
def OperationCommand.projected (c : OperationCommand) : Command String String :=
  c.command.map Datetime.utc_z (decimalText 4)

theorem canonical_command_ok (crypto : Crypto) (c : OperationCommand) (v : TargetVersions) {schema : ℕ} :
    canonical_command crypto c v schema = .ok
      { schema_version := schema
        canonical_bytes := canonical_json_bytes (canonical_projection c.projected v schema)
        sha256 := crypto.sha256 (canonical_json_bytes (canonical_projection c.projected v schema)) } := by
  have hdecimals : ∀ d ∈ c.command.decimals, normalized_decimal 4 d = .ok (decimalText 4 d) :=
    fun d hd => normalized_decimal_ok (c.valid.decimals d hd)
  have hmap : c.command.mapM (fun t => Except.ok t.utc_z) (normalized_decimal 4) = .ok c.projected :=
    Command.mapM_pure c.command (fun _ _ => rfl) hdecimals
  rw [canonical_command, hmap]
  rfl

theorem canonical_json_bytes_inj {a b : Json} :
    canonical_json_bytes a = canonical_json_bytes b ↔ a.sortKeys = b.sortKeys :=
  utf8_inj.trans dumps_inj

theorem canonical_projection_inj {c₁ c₂ : Command String String} {v₁ v₂ : TargetVersions} {schema : ℕ}
    (h : (canonical_projection c₁ v₁ schema).sortKeys = (canonical_projection c₂ v₂ schema).sortKeys) :
    c₁ = c₂ ∧ v₁ = v₂ := by
  have hcommand := congrArg (field (α := Command String String) "command") h
  have hversions := congrArg (field (α := TargetVersions) "target_versions") h
  simp only [canonical_projection, field] at hcommand hversions
  simp [get?_sortKeys, List.lookup_cons] at hcommand hversions
  exact ⟨hcommand, hversions⟩

/-- Two commands that agree in everything but the part of a second, and the digits behind
the fourth place. -/
def OperationCommand.agreeAsWritten (a b : OperationCommand) : Prop :=
  a.command.map (·.instant / second) (Decimal.rounded 4) = b.command.map (·.instant / second) (Decimal.rounded 4)

instance (a b : OperationCommand) : Decidable (a.agreeAsWritten b) := inferInstanceAs (Decidable (_ = _))

theorem projected_inj {a b : OperationCommand} : a.projected = b.projected ↔ a.agreeAsWritten b :=
  Command.map_eq_map_iff (fun _ _ _ _ => Datetime.utc_z_inj) (fun _ _ _ _ => decimalText_inj)

theorem canonical_bytes_inj {a b : OperationCommand} {v w : TargetVersions} {schema : ℕ} :
    canonical_json_bytes (canonical_projection a.projected v schema) =
        canonical_json_bytes (canonical_projection b.projected w schema) ↔
      v = w ∧ a.agreeAsWritten b := by
  rw [canonical_json_bytes_inj]
  constructor
  · intro h
    obtain ⟨hcommand, hversions⟩ := canonical_projection_inj h
    exact ⟨hversions, projected_inj.mp hcommand⟩
  · rintro ⟨rfl, h⟩
    rw [projected_inj.mpr h]

end CommerceAgent.Operations
