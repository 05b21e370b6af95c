import CommerceAgent.Lib.Raising
import CommerceAgent.Orchestration.Contracts
import Mathlib.Data.Prod.Lex
import Mathlib.Data.List.Infix

/-!
# Trace events

An append writes an event as a row. The stream reads the public part of a row.
-/

open CommerceAgent.Lib
open CommerceAgent.Operations (UUID Text Code Name HexDigest Datetime)
open CommerceAgent.Orchestration (RunScope)

namespace CommerceAgent.Api

/-! ## Contracts -/

inductive TraceEventType where
  | clarification_requested
  | investigation_plan_accepted
  | sql_generated
  | sql_repaired
  | query_executed
  | query_reconciled
  | proposal_created
  | decision_recorded
  | execution_completed
  | report_completed
  | recovery_applied
  deriving DecidableEq

inductive TraceStatus where
  | started
  | succeeded
  | failed
  | stopped
  deriving DecidableEq

structure TraceDecisionSummary where
  code : Code 2 127
  text : Text 1 2000
  deriving DecidableEq

structure TraceEvidence where
  kind : Name 1 63
  ref : Text 1 256
  digest : HexDigest
  deriving DecidableEq

/-- What `_safe_summary(event)` keeps of an event, with usage and cost as values of `υ`. -/
structure SafeSummary (υ : Type) where
  audit_ref : Option (Text 1 256)
  cost : Option υ
  decision_summary : Option TraceDecisionSummary
  evidence : List TraceEvidence
  execution_ref : Option (Text 1 256)
  proposal_ref : Option (Text 1 256)
  query_fingerprints : List HexDigest
  usage : Option υ
  deriving DecidableEq

structure ScopedTraceEvent (υ : Type) where
  run_scope : RunScope
  attempt_id : UUID
  sequence : ℕ
  occurred_at : Datetime
  event_type : TraceEventType
  status : TraceStatus
  reason_code : Option (Code 2 127)
  safe_summary : SafeSummary υ

inductive Raised where
  | trace_contract (reason_code : String)
  | trace_infrastructure (reason_code : String) (retryable : Bool)
  | value_error (message : String)
  deriving DecidableEq

def TraceContractError (reason_code : String) : Raised := .trace_contract reason_code

def TraceInfrastructureError (reason_code : String) (retryable : Bool) : Raised :=
  .trace_infrastructure reason_code retryable

/-! ## The table -/

/-- The columns of `ops_read.product_trace_events`. -/
structure PublicEvent (υ : Type) where
  run_id : UUID
  attempt_id : UUID
  sequence : ℕ
  event_type : TraceEventType
  status : TraceStatus
  /-- In microseconds, as the column keeps it. -/
  occurred_at : ℕ
  reason_code : Option (Code 2 127)
  safe_summary : SafeSummary υ
  deriving DecidableEq

/-- A row of `app.product_trace_event`. -/
structure TraceEventRow (υ : Type) extends PublicEvent υ where
  event_id : UUID
  run_scope_digest : HexDigest

/-- The hashes of a row, and which texts a column can hold. -/
structure TraceDatabase (υ : Type) where
  run_scope_digest : RunScope → HexDigest
  event_id : HexDigest → UUID → ℕ → UUID
  casefold : String → String
  storable : ScopedTraceEvent υ → Bool

def SENSITIVE_MARKERS : List String :=
  ["://", "password", "secret", "sk-", "raw_seller_id", "reasoning_content", "approval_nonce", "signature"]

variable {υ : Type} (database : TraceDatabase υ)

def validate_trace_event (event : ScopedTraceEvent υ) : Except Raised Unit :=
  match event.safe_summary.decision_summary with
  | none => .ok ()
  | some summary =>
    if SENSITIVE_MARKERS.any fun marker => marker.toList <:+: (database.casefold summary.text.text).toList then
      .error (TraceContractError "trace_sensitive_content")
    else .ok ()

def ScopedTraceEvent.row (event : ScopedTraceEvent υ) : TraceEventRow υ where
  event_id := database.event_id (database.run_scope_digest event.run_scope) event.attempt_id event.sequence
  run_scope_digest := database.run_scope_digest event.run_scope
  run_id := event.run_scope.run_id
  attempt_id := event.attempt_id
  sequence := event.sequence
  event_type := event.event_type
  status := event.status
  occurred_at := event.occurred_at.instant
  reason_code := event.reason_code
  safe_summary := event.safe_summary

/-- A row breaks a unique constraint: the primary key, or the sequence of an attempt in a scope. -/
def conflicts (row old : TraceEventRow υ) : Bool :=
  old.event_id = row.event_id ∨
    (old.run_scope_digest = row.run_scope_digest ∧ old.attempt_id = row.attempt_id ∧ old.sequence = row.sequence)

/-- `PostgresTraceStore.append(event)`, on a table that answers. -/
def append (table : List (TraceEventRow υ)) (event : ScopedTraceEvent υ) : Except Raised (List (TraceEventRow υ)) :=
  if (event.run_scope.track, event.run_scope.mode) ≠ (.retail, .retail) then
    .error (TraceContractError "trace_scope_forbidden")
  else do
    validate_trace_event database event
    -- a sequence is an int4
    if database.storable event ∧ event.sequence < 2 ^ 31 ∧ ¬ table.any (conflicts (event.row database)) then
      return table ++ [event.row database]
    else .error (TraceInfrastructureError "trace_database_rejected" false)

theorem append_ok {table table' : List (TraceEventRow υ)} {event : ScopedTraceEvent υ}
    (h : append database table event = .ok table') : table' = table ++ [event.row database] := by
  unfold append at h
  split_ifs at h
  · obtain ⟨_, -, h⟩ := except_bind_ok h
    exact (Except.ok.inj h).symm
  · obtain ⟨_, -, h⟩ := except_bind_ok h
    cases h

end CommerceAgent.Api
