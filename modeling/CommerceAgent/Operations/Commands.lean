import CommerceAgent.Operations.Contracts
import CommerceAgent.Lib.Decimal

/-!
# The closed command vocabulary

A command is generic in its timestamps `τ` and its decimals `δ`, since its canonical form
is the same command with both written as text. `OperationCommand` is a command that
passed validation.
-/

open CommerceAgent.Lib

namespace CommerceAgent.Operations

def validate_finite_decimal (value : Decimal) : Prop :=
  value.isFinite = true ∧ value.inUnit ∧ value.places ≤ 6

instance (value : Decimal) : Decidable (validate_finite_decimal value) := inferInstanceAs (Decidable (_ ∧ _))

/-! ## Commands -/

structure OpenSellerRiskCase (τ δ : Type) where
  seller_ref : SellerRef
  observation_started_at : τ
  observation_ended_at : τ
  metric_ref : MetricRef
  numerator : ℕ
  denominator : ℕ
  observed : δ
  threshold : δ
  title : Text 1 200
  priority : Priority
  evidence_refs : EvidenceRefs
  ratio : 0 < denominator ∧ numerator ≤ denominator
  deriving DecidableEq

structure CreateInvestigationTask where
  title : Text 1 200
  priority : Priority
  public_summary : Text 1 2000
  evidence_refs : EvidenceRefs
  deriving DecidableEq

structure CreateInvestigationFromAlertHit where
  alert_hit_ref : AlertHitRef
  title : Text 1 200
  priority : Priority
  evidence_refs : EvidenceRefs
  deriving DecidableEq

/-- `filter_refs: tuple[str, ...] = Field(max_length=32)`, unique and not empty. -/
structure FilterRefs where
  items : List (Text 1 256)
  size : items.length ≤ 32
  unique : items.Nodup
  deriving DecidableEq

structure CreateAndEnableMetricAlertRule (δ : Type) where
  alert_backtest_ref : AlertBacktestRef
  metric_ref : MetricRef
  grain : Code 1 63
  window : CalendarWindow
  comparator : AlertComparator
  threshold : δ
  minimum_denominator : ℕ
  filter_refs : FilterRefs
  evidence_refs : EvidenceRefs
  minimum : 0 < minimum_denominator ∧ minimum_denominator ≤ 1000000000
  deriving DecidableEq

/-- What `ExistingTaskCommand` adds: the task, at its exact version. -/
structure ExistingTask where
  task_ref : InvestigationTaskRef
  expected_target_version : ℕ
  exact : task_ref.version = expected_target_version
  evidence_refs : EvidenceRefs
  deriving DecidableEq

structure AssignInvestigation extends ExistingTask where
  assignee_ref : Text 1 256
  deriving DecidableEq

instance : LawfulBEq (InvestigationStatus × InvestigationStatus) := inferInstance

def allowedTransitions : List (InvestigationStatus × InvestigationStatus) :=
  [(.open, .in_progress), (.open, .blocked), (.in_progress, .blocked), (.in_progress, .resolved),
    (.blocked, .in_progress), (.blocked, .resolved)]

structure TransitionInvestigation extends ExistingTask where
  from_status : InvestigationStatus
  to_status : InvestigationStatus
  reason_code : Code 2 127
  allowed : (from_status, to_status) ∈ allowedTransitions
  deriving DecidableEq

structure AddInvestigationConclusion extends ExistingTask where
  conclusion_code : Code 2 127
  conclusion_summary : Text 1 2000
  deriving DecidableEq

structure CloseInvestigation extends ExistingTask where
  conclusion_ref : Text 1 256
  risk_disposition : Option RiskDisposition
  deriving DecidableEq

inductive Command (τ δ : Type) where
  | open_seller_risk_case (c : OpenSellerRiskCase τ δ)
  | create_investigation_task (c : CreateInvestigationTask)
  | create_investigation_from_alert_hit (c : CreateInvestigationFromAlertHit)
  | create_and_enable_metric_alert_rule (c : CreateAndEnableMetricAlertRule δ)
  | assign_investigation (c : AssignInvestigation)
  | transition_investigation (c : TransitionInvestigation)
  | add_investigation_conclusion (c : AddInvestigationConclusion)
  | close_investigation (c : CloseInvestigation)
  deriving DecidableEq

namespace Command

variable {τ τ' τ'' δ δ' δ'' : Type}

def type : Command τ δ → String
  | .open_seller_risk_case _ => "open_seller_risk_case"
  | .create_investigation_task _ => "create_investigation_task"
  | .create_investigation_from_alert_hit _ => "create_investigation_from_alert_hit"
  | .create_and_enable_metric_alert_rule _ => "create_and_enable_metric_alert_rule"
  | .assign_investigation _ => "assign_investigation"
  | .transition_investigation _ => "transition_investigation"
  | .add_investigation_conclusion _ => "add_investigation_conclusion"
  | .close_investigation _ => "close_investigation"

def evidence_refs : Command τ δ → EvidenceRefs
  | .open_seller_risk_case c => c.evidence_refs
  | .create_investigation_task c => c.evidence_refs
  | .create_investigation_from_alert_hit c => c.evidence_refs
  | .create_and_enable_metric_alert_rule c => c.evidence_refs
  | .assign_investigation c => c.evidence_refs
  | .transition_investigation c => c.evidence_refs
  | .add_investigation_conclusion c => c.evidence_refs
  | .close_investigation c => c.evidence_refs

/-- The task that an update command is about. -/
def existingTask : Command τ δ → Option ExistingTask
  | .assign_investigation c => some c.toExistingTask
  | .transition_investigation c => some c.toExistingTask
  | .add_investigation_conclusion c => some c.toExistingTask
  | .close_investigation c => some c.toExistingTask
  | _ => none

/-- The same command with other timestamps and decimals. -/
def map (f : τ → τ') (g : δ → δ') : Command τ δ → Command τ' δ'
  | .open_seller_risk_case c => .open_seller_risk_case
    { seller_ref := c.seller_ref
      observation_started_at := f c.observation_started_at
      observation_ended_at := f c.observation_ended_at
      metric_ref := c.metric_ref
      numerator := c.numerator
      denominator := c.denominator
      observed := g c.observed
      threshold := g c.threshold
      title := c.title
      priority := c.priority
      evidence_refs := c.evidence_refs
      ratio := c.ratio }
  | .create_investigation_task c => .create_investigation_task c
  | .create_investigation_from_alert_hit c => .create_investigation_from_alert_hit c
  | .create_and_enable_metric_alert_rule c => .create_and_enable_metric_alert_rule
    { alert_backtest_ref := c.alert_backtest_ref
      metric_ref := c.metric_ref
      grain := c.grain
      window := c.window
      comparator := c.comparator
      threshold := g c.threshold
      minimum_denominator := c.minimum_denominator
      filter_refs := c.filter_refs
      evidence_refs := c.evidence_refs
      minimum := c.minimum }
  | .assign_investigation c => .assign_investigation c
  | .transition_investigation c => .transition_investigation c
  | .add_investigation_conclusion c => .add_investigation_conclusion c
  | .close_investigation c => .close_investigation c

@[simp] theorem type_map (f : τ → τ') (g : δ → δ') (c : Command τ δ) : (c.map f g).type = c.type := by
  cases c <;> rfl

@[simp] theorem evidence_refs_map (f : τ → τ') (g : δ → δ') (c : Command τ δ) :
    (c.map f g).evidence_refs = c.evidence_refs := by
  cases c <;> rfl

theorem map_map (f : τ → τ') (g : δ → δ') (f' : τ' → τ'') (g' : δ' → δ'') (c : Command τ δ) :
    (c.map f g).map f' g' = c.map (f' ∘ f) (g' ∘ g) := by
  cases c <;> rfl

/-- The same with timestamps and decimals that may fail, from the first to the last. -/
def mapM {m : Type → Type} [Monad m] (f : τ → m τ') (g : δ → m δ') : Command τ δ → m (Command τ' δ')
  | .open_seller_risk_case c => do
    let observation_started_at ← f c.observation_started_at
    let observation_ended_at ← f c.observation_ended_at
    let observed ← g c.observed
    let threshold ← g c.threshold
    return .open_seller_risk_case
      { seller_ref := c.seller_ref
        observation_started_at := observation_started_at
        observation_ended_at := observation_ended_at
        metric_ref := c.metric_ref
        numerator := c.numerator
        denominator := c.denominator
        observed := observed
        threshold := threshold
        title := c.title
        priority := c.priority
        evidence_refs := c.evidence_refs
        ratio := c.ratio }
  | .create_investigation_task c => pure (.create_investigation_task c)
  | .create_investigation_from_alert_hit c => pure (.create_investigation_from_alert_hit c)
  | .create_and_enable_metric_alert_rule c => do
    let threshold ← g c.threshold
    return .create_and_enable_metric_alert_rule
      { alert_backtest_ref := c.alert_backtest_ref
        metric_ref := c.metric_ref
        grain := c.grain
        window := c.window
        comparator := c.comparator
        threshold := threshold
        minimum_denominator := c.minimum_denominator
        filter_refs := c.filter_refs
        evidence_refs := c.evidence_refs
        minimum := c.minimum }
  | .assign_investigation c => pure (.assign_investigation c)
  | .transition_investigation c => pure (.transition_investigation c)
  | .add_investigation_conclusion c => pure (.add_investigation_conclusion c)
  | .close_investigation c => pure (.close_investigation c)

def decimals : Command τ δ → List δ
  | .open_seller_risk_case c => [c.observed, c.threshold]
  | .create_and_enable_metric_alert_rule c => [c.threshold]
  | _ => []

def timestamps : Command τ δ → List τ
  | .open_seller_risk_case c => [c.observation_started_at, c.observation_ended_at]
  | _ => []

theorem mapM_pure {m : Type → Type} [Monad m] [LawfulMonad m] {f : τ → m τ'} {g : δ → m δ'} {f' : τ → τ'}
    {g' : δ → δ'} (c : Command τ δ) (hf : ∀ t ∈ c.timestamps, f t = pure (f' t))
    (hg : ∀ d ∈ c.decimals, g d = pure (g' d)) : c.mapM f g = pure (c.map f' g') := by
  cases c <;> simp_all [mapM, map, decimals, timestamps]

theorem mapM_map {m : Type → Type} [Monad m] (f : τ → τ') (g : δ → δ') (f' : τ' → m τ'') (g' : δ' → m δ'')
    (c : Command τ δ) : (c.map f g).mapM f' g' = c.mapM (f' ∘ f) (g' ∘ g) := by
  cases c <;> rfl

theorem map_congr_iff {f f' : τ → τ'} {g g' : δ → δ'} {c : Command τ δ} :
    c.map f g = c.map f' g' ↔ (∀ t ∈ c.timestamps, f t = f' t) ∧ ∀ d ∈ c.decimals, g d = g' d := by
  cases c <;> simp [map, timestamps, decimals, and_assoc]

theorem map_eq_map_iff {f : τ → τ'} {g : δ → δ'} {f' : τ → τ''} {g' : δ → δ''} {a b : Command τ δ}
    (hf : ∀ x ∈ a.timestamps, ∀ y ∈ b.timestamps, f x = f y ↔ f' x = f' y)
    (hg : ∀ x ∈ a.decimals, ∀ y ∈ b.decimals, g x = g y ↔ g' x = g' y) :
    a.map f g = b.map f g ↔ a.map f' g' = b.map f' g' := by
  cases a <;> cases b <;> simp_all [map, timestamps, decimals]

/-- What the validators of a command require of its timestamps and decimals. -/
def Valid : Command Datetime Decimal → Prop
  | .open_seller_risk_case c =>
    c.observation_started_at.instant < c.observation_ended_at.instant ∧
      validate_finite_decimal c.observed ∧ validate_finite_decimal c.threshold
  | .create_and_enable_metric_alert_rule c => validate_finite_decimal c.threshold
  | _ => True

instance : (c : Command Datetime Decimal) → Decidable c.Valid
  | .open_seller_risk_case _ => inferInstanceAs (Decidable (_ ∧ _ ∧ _))
  | .create_and_enable_metric_alert_rule c => inferInstanceAs (Decidable (validate_finite_decimal c.threshold))
  | .create_investigation_task _ | .create_investigation_from_alert_hit _ | .assign_investigation _
  | .transition_investigation _ | .add_investigation_conclusion _ | .close_investigation _ =>
    inferInstanceAs (Decidable True)

theorem Valid.decimals {c : Command Datetime Decimal} (h : c.Valid) :
    ∀ d ∈ c.decimals, validate_finite_decimal d := by
  cases c <;> simp_all [Valid, Command.decimals]

end Command

structure OperationCommand where
  command : Command Datetime Decimal
  valid : command.Valid
  deriving DecidableEq

/-- What Python's `==` compares: timestamps by their instant, decimals by their value. -/
def OperationCommand.same (a b : OperationCommand) : Prop :=
  a.command.map Datetime.instant Decimal.value = b.command.map Datetime.instant Decimal.value

instance (a b : OperationCommand) : Decidable (a.same b) := inferInstanceAs (Decidable (_ = _))

/-! ## Requests -/

structure ProposeRequest where
  actor : ActorContext
  command : OperationCommand
  evidence_refs : EvidenceRefs
  idempotency_key : IdempotencyKey
  revises : Option ProposalRef
  deriving DecidableEq

end CommerceAgent.Operations
