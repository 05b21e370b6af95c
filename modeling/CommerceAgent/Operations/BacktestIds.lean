import CommerceAgent.Operations.Backtest

/-!
# The ids of backtests

The id of a backtest writes the threshold with four places. Two thresholds of one rule share an id when they round to
the same four places, and have one sign.
-/

open CommerceAgent.Lib CommerceAgent.Lib.Json

namespace CommerceAgent.Operations

/-! ## What an id determines -/

/-- Two specifications differ in the threshold only. -/
structure AlertBacktestRequest.SameRule (r s : AlertBacktestRequest) : Prop where
  metric : r.metric = s.metric
  metric_revision : r.metric_revision = s.metric_revision
  grain : r.grain = s.grain
  window : r.window = s.window
  comparator : r.comparator = s.comparator
  minimum_denominator : r.minimum_denominator = s.minimum_denominator
  started_at : r.started_at.instant = s.started_at.instant
  ended_at : r.ended_at.instant = s.ended_at.instant
  filter_refs : ∀ item, item ∈ r.filter_refs.items ↔ item ∈ s.filter_refs.items

/-- Two specifications are one, with the threshold taken as a number. -/
def AlertBacktestRequest.Agree (r s : AlertBacktestRequest) : Prop :=
  r.SameRule s ∧ r.threshold.value = s.threshold.value

theorem AlertMetric.value_inj {a b : AlertMetric} : a.value = b.value ↔ a = b := by
  cases a <;> cases b <;> simp [AlertMetric.value]

theorem CalendarWindow.value_inj {a b : CalendarWindow} : a.value = b.value ↔ a = b := by
  cases a <;> cases b <;> simp [CalendarWindow.value]

theorem AlertComparator.value_inj {a b : AlertComparator} : a.value = b.value ↔ a = b := by
  cases a <;> cases b <;> simp [AlertComparator.value]

variable {crypto : Crypto} {requests : List AlertBacktestRequest} {r s : AlertBacktestRequest}

/-- The registry after the backtests are added in turn. -/
def registered (snapshots : List CompletedBacktest) : BacktestRegistry := snapshots.foldl BacktestRegistry.add .empty

end CommerceAgent.Operations
