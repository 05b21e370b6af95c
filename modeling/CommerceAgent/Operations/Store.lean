import CommerceAgent.Operations.Approval
import Mathlib.Data.List.AList

/-!
# Persistence contracts

What the workflow hands to a store, what a store keeps, and the validator that binds a
command to its evidence.
-/

open CommerceAgent.Lib

namespace CommerceAgent.Operations

/-! ## Backtests -/

inductive AlertMetric where
  | late_delivery_rate
  | low_rating_rate
  | cancellation_rate
  deriving DecidableEq, Repr

def AlertMetric.value : AlertMetric → String
  | .late_delivery_rate => "late_delivery_rate"
  | .low_rating_rate => "low_rating_rate"
  | .cancellation_rate => "cancellation_rate"

/-- The specification that a backtest ran. -/
structure AlertBacktestRequest where
  metric : AlertMetric
  metric_revision : Text 1 128
  grain : Code 1 63
  window : CalendarWindow
  comparator : AlertComparator
  threshold : Decimal
  minimum_denominator : ℕ
  started_at : Datetime
  ended_at : Datetime
  filter_refs : FilterRefs
  deriving DecidableEq

structure AlertBacktestSnapshot where
  backtest_ref : AlertBacktestRef
  request : AlertBacktestRequest
  deriving DecidableEq

/-! ## References -/

structure PrivateSellerTarget where
  seller_id : String
  evidence_digest : HexDigest
  deriving DecidableEq

/-- What only the store may see of a validated reference. -/
inductive PrivateBinding where
  | seller_target (target : PrivateSellerTarget)
  | backtest (snapshot : AlertBacktestSnapshot)
  deriving DecidableEq

structure ValidatedReferences where
  evidence_refs : EvidenceRefs
  private_bindings : List PrivateBinding
  deriving DecidableEq

/-- The services behind a `DefaultReferenceValidator`, either of which may be missing. -/
structure Resolvers where
  seller_resolver : Option (SellerRef → HexDigest → Except Raised PrivateSellerTarget)
  backtests : Option (AlertBacktestRef → Option AlertBacktestSnapshot)

def resolve_seller (resolvers : Resolvers) (command : OpenSellerRiskCase Datetime Decimal)
    (evidence_refs : EvidenceRefs) : Except Raised PrivateSellerTarget :=
  match resolvers.seller_resolver with
  | none => .error (OperationContractError "seller_ref_validation_unavailable")
  | some resolve =>
    match evidence_refs.items.filter fun item => item.kind.text == "query" with
    | [item] => resolve command.seller_ref item.digest
    | _ => .error (OperationContractError "seller_query_evidence_required")

/-- `actual == expected`, for a rule and its backtest. -/
def matches_backtest (command : CreateAndEnableMetricAlertRule Decimal) (snapshot : AlertBacktestSnapshot) : Prop :=
  command.alert_backtest_ref = snapshot.backtest_ref ∧
    command.metric_ref.name.text = snapshot.request.metric.value ∧
    command.metric_ref.revision = snapshot.request.metric_revision ∧
    command.grain = snapshot.request.grain ∧
    command.window = snapshot.request.window ∧
    command.comparator = snapshot.request.comparator ∧
    command.threshold.value = snapshot.request.threshold.value ∧
    command.minimum_denominator = snapshot.request.minimum_denominator ∧
    command.filter_refs.items.Perm snapshot.request.filter_refs.items

instance (command : CreateAndEnableMetricAlertRule Decimal) (snapshot : AlertBacktestSnapshot) :
    Decidable (matches_backtest command snapshot) := inferInstanceAs (Decidable (_ ∧ _))

def resolve_backtest (resolvers : Resolvers) (command : CreateAndEnableMetricAlertRule Decimal) :
    Except Raised AlertBacktestSnapshot :=
  match resolvers.backtests with
  | none => .error (OperationContractError "backtest_validation_unavailable")
  | some resolve =>
    match resolve command.alert_backtest_ref with
    | none => .error (OperationContractError "backtest_not_found")
    | some snapshot =>
      if matches_backtest command snapshot then .ok snapshot
      else .error (OperationContractError "backtest_spec_mismatch")

/-- `DefaultReferenceValidator.validate_command`. The evidence is compared as a set. -/
def validate_command (resolvers : Resolvers) (command : OperationCommand) (evidence_refs : EvidenceRefs) :
    Except Raised ValidatedReferences :=
  if ¬ evidence_refs.items.Perm command.command.evidence_refs.items then
    .error (OperationContractError "evidence_binding_mismatch")
  else
    match command.command with
    | .open_seller_risk_case c => do
      let target ← resolve_seller resolvers c evidence_refs
      return { evidence_refs, private_bindings := [.seller_target target] }
    | .create_and_enable_metric_alert_rule c => do
      let snapshot ← resolve_backtest resolvers c
      return { evidence_refs, private_bindings := [.backtest snapshot] }
    | _ => .ok { evidence_refs, private_bindings := [] }

/-! ## Drafts and stored values -/

/-- A draft; its lifetime is what the workflow gave it. -/
structure ProposalDraft where
  request : ProposeRequest
  preview : CommandPreview
  payload_sha256 : HexDigest
  created_at : Datetime
  expires_at : Datetime
  validated_references : ValidatedReferences
  deriving DecidableEq

structure StoredProposal where
  snapshot : ProposalSnapshot
  command : OperationCommand
  requester_id : UUID
  evidence_refs : EvidenceRefs
  idempotency_key : IdempotencyKey
  revises : Option ProposalRef
  validated_references : ValidatedReferences
  deriving DecidableEq

structure StoredDecision where
  status : ProposalStatus
  approver_id : UUID
  decided_at : Datetime
  reason : Option (Text 1 1000)
  approval : Option StoredApproval
  grant_sha256 : Option HexDigest
  deriving DecidableEq

end CommerceAgent.Operations
