import CommerceAgent.Lib.Dict
import CommerceAgent.Lib.Raising
import CommerceAgent.Lib.Rounding
import CommerceAgent.Operations.Store

/-!
# Backtests of alert rules

A backtest evaluates a rule on the windows of its period. Its id is a hash of the rule, and the registry keeps one
backtest for each id.
-/

open CommerceAgent.Lib CommerceAgent.Lib.Json

namespace CommerceAgent.Operations

/-! ## Requests -/

/-- Microseconds in a day. -/
def day : ℕ := 86400 * second

/-- The wall clock of a datetime, in microseconds since 0001-01-01T00:00:00. -/
def Datetime.wall (value : Datetime) : ℕ := ((value.instant : ℤ) + value.utcoffset * (60 * second)).toNat

/-- The boundary of a calendar window: its day. -/
def CalendarWindow.boundary : CalendarWindow → ℕ → Prop
  | .month, n => (Calendar.ord2ymd n).2.2 = 1
  -- 0001-01-01 is a Monday
  | .week, n => n % 7 = 0

instance (window : CalendarWindow) (n : ℕ) : Decidable (window.boundary n) := by
  unfold CalendarWindow.boundary
  cases window <;> infer_instance

/-- What the contract of a request checks. -/
structure AlertBacktestRequest.Valid (request : AlertBacktestRequest) : Prop where
  finite : request.threshold.isFinite = true
  unit : request.threshold.inUnit
  places : request.threshold.exactAt 6
  minimum : 0 < request.minimum_denominator ∧ request.minimum_denominator ≤ 1000000000
  increasing : request.started_at.instant < request.ended_at.instant
  year : request.ended_at.instant - request.started_at.instant ≤ 366 * day
  midnight : ∀ value ∈ [request.started_at, request.ended_at], value.wall % day = 0
  calendar : ∀ value ∈ [request.started_at, request.ended_at], request.window.boundary (value.wall / day)

/-! ## Metrics -/

structure MetricDefinition where
  revision : String
  numerator : String
  denominator : String
  time_field : String
  allowed_grains : List String
  deriving DecidableEq

def METRIC_DEFINITIONS : AlertMetric → MetricDefinition
  | .late_delivery_rate =>
    ⟨"metric.late_delivery_rate.v1", "delivered_after_estimate", "delivered_orders", "order_purchase_timestamp",
      ["global", "seller_state", "product_category"]⟩
  | .low_rating_rate =>
    ⟨"metric.low_rating_rate.v1", "review_score_lte_2", "reviewed_orders", "review_creation_date",
      ["global", "seller_state", "product_category"]⟩
  | .cancellation_rate =>
    ⟨"metric.cancellation_rate.v1", "cancelled_orders", "placed_orders", "order_purchase_timestamp",
      ["global", "customer_state"]⟩

structure AlertObservation where
  window_started_at : Datetime
  window_ended_at : Datetime
  numerator : ℤ
  denominator : ℤ
  complete : Bool

inductive ExcludedReason where
  | zero_denominator
  | below_minimum_denominator
  | incomplete_window
  deriving DecidableEq, Repr

structure AlertWindowResult where
  window_started_at : Datetime
  window_ended_at : Datetime
  numerator : ℤ
  denominator : ℤ
  normalized_value : Option Decimal
  complete : Bool
  excluded_reason : Option ExcludedReason
  hit : Bool
  deriving DecidableEq

/-- A snapshot with its windows. -/
structure CompletedBacktest extends AlertBacktestSnapshot where
  windows : List AlertWindowResult
  completed_at : Datetime

/-! ## The id of a rule -/

/-- `sorted(filter_refs)`. -/
def sorted_filters (filter_refs : FilterRefs) : List String :=
  (filter_refs.items.map Checked.text).insertionSort (· ≤ ·)

def rule_spec_projection (request : AlertBacktestRequest) (threshold : String) : Json :=
  .obj [("comparator", .str request.comparator.value), ("ended_at", .str request.ended_at.utc_z),
    ("filter_refs", .arr ((sorted_filters request.filter_refs).map .str)), ("grain", .str request.grain.text),
    ("metric", .str request.metric.value), ("metric_revision", .str request.metric_revision.text),
    ("minimum_denominator", .num request.minimum_denominator), ("schema_version", .num 1),
    ("started_at", .str request.started_at.utc_z), ("threshold", .str threshold),
    ("window", .str request.window.value)]

def rule_spec_sha256 (crypto : Crypto) (request : AlertBacktestRequest) : Except Raised HexDigest := do
  let threshold ← normalized_decimal 4 request.threshold
  return crypto.sha256 (canonical_json_bytes (rule_spec_projection request threshold))

/-- `f"alert-backtest:{digest}"`. -/
def backtest_name (digest : HexDigest) : String := "alert-backtest:" ++ digest.text

/-! ## The backtester -/

namespace MetricAlertBacktester

/-- An observation that comes after `previous_end`, inside the period. -/
def accepts_observation (request : AlertBacktestRequest) (previous_end : Option Datetime) (item : AlertObservation) :
    Bool :=
  !(item.window_started_at.instant < request.started_at.instant ||
    request.ended_at.instant < item.window_ended_at.instant ||
    item.window_ended_at.instant ≤ item.window_started_at.instant ||
    previous_end.any (fun previous_end => item.window_started_at.instant < previous_end.instant) ||
    item.numerator < 0 || item.denominator < 0 || item.denominator < item.numerator)

/-- `_validate_observation_order(observations, request)`, after an observation that ends at `previous_end`. -/
def validate_observation_order (request : AlertBacktestRequest) :
    Option Datetime → List AlertObservation → Except Raised Unit
  | _, [] => .ok ()
  | previous_end, item :: observations =>
    if accepts_observation request previous_end item then
      validate_observation_order request (some item.window_ended_at) observations
    else .error (OperationContractError "backtest_observation_invalid")

def excluded_reason (observation : AlertObservation) (request : AlertBacktestRequest) : Option ExcludedReason :=
  if observation.denominator = 0 then some .zero_denominator
  else if observation.denominator < request.minimum_denominator then some .below_minimum_denominator
  else if ¬ observation.complete then some .incomplete_window
  else none

/-- `(Decimal(numerator) / Decimal(denominator)).quantize(Decimal("0.000001"))`, of numbers that are not negative. -/
def normalized_ratio (numerator denominator : ℤ) : Except Raised Decimal :=
  match (Decimal.divide numerator.toNat denominator.toNat).quantize 6 with
  | some value => .ok value
  | none => .error (.exception "InvalidOperation")

def is_hit (request : AlertBacktestRequest) (value : Decimal) : Bool :=
  match request.comparator with
  | .greater_than => request.threshold.value < value.value
  | .greater_than_or_equal => request.threshold.value ≤ value.value

def evaluate (observation : AlertObservation) (request : AlertBacktestRequest) : Except Raised AlertWindowResult := do
  let excluded_reason := excluded_reason observation request
  let value ← match excluded_reason with
    | some _ => pure none
    | none => (normalized_ratio observation.numerator observation.denominator).map some
  return {
    window_started_at := observation.window_started_at
    window_ended_at := observation.window_ended_at
    numerator := observation.numerator
    denominator := observation.denominator
    normalized_value := value
    complete := observation.complete
    excluded_reason := excluded_reason
    hit := value.any (is_hit request) }

/-- `run(request)`, with the metric definitions and the observations of its ports. -/
def run (crypto : Crypto) (metrics : AlertMetric → MetricDefinition) (observations : List AlertObservation)
    (request : AlertBacktestRequest) : Except Raised CompletedBacktest :=
  if (metrics request.metric).revision ≠ request.metric_revision.text then
    .error (OperationContractError "metric_revision_mismatch")
  else if request.grain.text ∉ (metrics request.metric).allowed_grains then
    .error (OperationContractError "metric_grain_forbidden")
  else do
    validate_observation_order request none observations
    let windows ← observations.mapM fun item => evaluate item request
    let digest ← rule_spec_sha256 crypto request
    return {
      backtest_ref := ⟨crypto.uuid5 (backtest_name digest), digest⟩
      request := request
      windows := windows
      completed_at := request.ended_at }

end MetricAlertBacktester

/-! ## The registry -/

/-- `InMemoryBacktestRegistry._snapshots`. -/
abbrev BacktestRegistry := Dict UUID CompletedBacktest

namespace BacktestRegistry

def resolve (registry : BacktestRegistry) (reference : AlertBacktestRef) : Option CompletedBacktest :=
  registry.get? reference.backtest_id

def add (registry : BacktestRegistry) (snapshot : CompletedBacktest) : BacktestRegistry :=
  registry.set snapshot.backtest_ref.backtest_id snapshot

end BacktestRegistry

/-! ## Windows and hits -/

namespace MetricAlertBacktester

structure InPeriod (request : AlertBacktestRequest) (item : AlertObservation) : Prop where
  after : request.started_at.instant ≤ item.window_started_at.instant
  increasing : item.window_started_at.instant < item.window_ended_at.instant
  before : item.window_ended_at.instant ≤ request.ended_at.instant

/-- The numbers of an observation are those of a ratio up to 1. -/
structure Sound (item : AlertObservation) : Prop where
  numerator : 0 ≤ item.numerator
  ratio : item.numerator ≤ item.denominator

variable {request : AlertBacktestRequest} {previous_end : Option Datetime} {item : AlertObservation}
  {observations : List AlertObservation}

theorem accepts_observation_iff : accepts_observation request previous_end item = true ↔
    InPeriod request item ∧ Sound item ∧
      ∀ previous ∈ previous_end, previous.instant ≤ item.window_started_at.instant := by
  unfold accepts_observation
  simp only [Bool.not_eq_true', Bool.or_eq_false_iff, decide_eq_false_iff_not, not_lt, not_le, Option.any_eq_false]
  constructor
  · rintro ⟨⟨⟨⟨⟨⟨hafter, hbefore⟩, hincreasing⟩, hprevious⟩, hnumerator⟩, -⟩, hratio⟩
    exact ⟨⟨hafter, hincreasing, hbefore⟩, ⟨hnumerator, hratio⟩, hprevious⟩
  · rintro ⟨hperiod, hsound, hprevious⟩
    exact ⟨⟨⟨⟨⟨⟨hperiod.after, hperiod.before⟩, hperiod.increasing⟩, hprevious⟩, hsound.numerator⟩,
      hsound.numerator.trans hsound.ratio⟩, hsound.ratio⟩

/-- The windows are sound, and each begins where the one before has ended, or later. -/
theorem validate_observation_order_ok (h : validate_observation_order request previous_end observations = .ok ()) :
    (∀ item ∈ observations, InPeriod request item ∧ Sound item) ∧
      observations.Pairwise (fun a b => a.window_ended_at.instant ≤ b.window_started_at.instant) ∧
      ∀ previous ∈ previous_end, ∀ item ∈ observations, previous.instant ≤ item.window_started_at.instant := by
  induction observations generalizing previous_end with
  | nil => exact ⟨fun _ h => absurd h List.not_mem_nil, .nil, fun _ _ _ h => absurd h List.not_mem_nil⟩
  | cons item observations ih =>
    unfold validate_observation_order at h
    split_ifs at h with haccepts
    obtain ⟨hperiod, hsound, hprevious⟩ := accepts_observation_iff.mp haccepts
    obtain ⟨hall, hpairwise, hnext⟩ := ih h
    refine ⟨List.forall_mem_cons.mpr ⟨⟨hperiod, hsound⟩, hall⟩,
      List.pairwise_cons.mpr ⟨hnext item.window_ended_at rfl, hpairwise⟩,
      fun previous hmem => List.forall_mem_cons.mpr ⟨hprevious previous hmem, fun other hother => ?_⟩⟩
    calc previous.instant ≤ item.window_started_at.instant := hprevious previous hmem
      _ ≤ item.window_ended_at.instant := hperiod.increasing.le
      _ ≤ other.window_started_at.instant := hnext item.window_ended_at rfl other hother

/-- A window that counts. -/
def Eligible (request : AlertBacktestRequest) (item : AlertObservation) : Prop :=
  item.complete = true ∧ 0 < item.denominator ∧ request.minimum_denominator ≤ item.denominator

theorem excluded_reason_none (hsound : Sound item) :
    excluded_reason item request = none ↔ Eligible request item := by
  have hpositive : 0 ≤ item.denominator := hsound.numerator.trans hsound.ratio
  unfold excluded_reason Eligible
  split_ifs with hzero hbelow hcomplete
  · exact iff_of_false (by simp) fun h => h.2.1.ne' hzero
  · exact iff_of_false (by simp) fun h => not_lt.mpr h.2.2 hbelow
  · exact iff_of_true rfl ⟨hcomplete, lt_of_le_of_ne hpositive (Ne.symm hzero), not_lt.mp hbelow⟩
  · exact iff_of_false (by simp) fun h => hcomplete h.1

/-- The ratio of a window, as the backtester rounds it. -/
def rounded_ratio (item : AlertObservation) : ℚ := toPlaces 6 (toDigits 28 (item.numerator / item.denominator))

theorem normalized_ratio_ok (hsound : Sound item) (hpositive : 0 < item.denominator) :
    ∃ value, normalized_ratio item.numerator item.denominator = .ok value ∧ value.value = rounded_ratio item := by
  obtain ⟨n, hn⟩ := Int.eq_ofNat_of_zero_le hsound.numerator
  obtain ⟨d, hd⟩ := Int.eq_ofNat_of_zero_le hpositive.le
  have hdpos : 0 < d := by omega
  have hle : n ≤ d := by have := hsound.ratio; omega
  have hvalue := Decimal.value_divide n hdpos
  have hunit := Decimal.divide_inUnit hdpos hle
  unfold normalized_ratio rounded_ratio
  rw [hn, hd, Int.toNat_natCast, Int.toNat_natCast, Int.cast_natCast, Int.cast_natCast, ← hvalue]
  obtain ⟨value, hquantize, hplaces⟩ := Decimal.quantize_unit 6 hunit (by norm_num)
  unfold Decimal.divide
  dsimp only
  rw [hquantize]
  exact ⟨value, rfl, hplaces⟩

end MetricAlertBacktester

/-- A ratio and a threshold meet the comparator. -/
def AlertComparator.holds : AlertComparator → ℚ → ℚ → Prop
  | .greater_than, ratio, threshold => threshold < ratio
  | .greater_than_or_equal, ratio, threshold => threshold ≤ ratio

namespace MetricAlertBacktester

variable {request : AlertBacktestRequest} {item : AlertObservation}

theorem is_hit_iff (value : Decimal) :
    is_hit request value = true ↔ request.comparator.holds value.value request.threshold.value := by
  unfold is_hit AlertComparator.holds
  cases request.comparator <;> exact decide_eq_true_iff

variable (request) in
theorem evaluate_ok (hsound : Sound item) : ∃ window, evaluate item request = .ok window ∧
    (window.excluded_reason = none ↔ Eligible request item) ∧
    (window.hit = true ↔
      Eligible request item ∧ request.comparator.holds (rounded_ratio item) request.threshold.value) := by
  have hreason : excluded_reason item request = none ↔ Eligible request item := excluded_reason_none hsound
  unfold evaluate
  dsimp only
  cases hexcluded : excluded_reason item request with
  | some reason =>
    rw [hexcluded] at hreason
    have hnot : ¬ Eligible request item := fun h => by cases hreason.mpr h
    exact ⟨_, rfl, hreason, iff_of_false (by simp) fun h => hnot h.1⟩
  | none =>
    rw [hexcluded] at hreason
    have heligible := hreason.mp rfl
    obtain ⟨value, hvalue, hratio⟩ := normalized_ratio_ok hsound heligible.2.1
    rw [hvalue]
    refine ⟨_, rfl, hreason, ?_⟩
    rw [← hratio, ← is_hit_iff]
    exact ⟨fun h => ⟨heligible, h⟩, fun h => h.2⟩

theorem abs_rounded_ratio_sub_lt (hsound : Sound item) (hpositive : 0 < item.denominator) :
    |rounded_ratio item - item.numerator / item.denominator| < 1 / 10 ^ 6 := by
  have hd : (0 : ℚ) < item.denominator := by exact_mod_cast hpositive
  have hn : (0 : ℚ) ≤ item.numerator := by exact_mod_cast hsound.numerator
  have hone : |(item.numerator / item.denominator : ℚ)| ≤ 1 := by
    rw [abs_of_nonneg (by positivity), div_le_one hd]
    exact_mod_cast hsound.ratio
  have hdigits := abs_toDigits_sub_le 28 hone
  have hplaces := abs_toPlaces_sub_le 6 (toDigits 28 (item.numerator / item.denominator : ℚ))
  have hsum := abs_sub_le (rounded_ratio item) (toDigits 28 (item.numerator / item.denominator : ℚ))
    (item.numerator / item.denominator)
  unfold rounded_ratio at hsum ⊢
  norm_num at hdigits hplaces hsum ⊢
  linarith

theorem holds_rounded (hsound : Sound item) (hpositive : 0 < item.denominator)
    (hapart : 1 / 10 ^ 6 ≤ |(item.numerator / item.denominator : ℚ) - request.threshold.value|) :
    request.comparator.holds (rounded_ratio item) request.threshold.value ↔
      request.comparator.holds (item.numerator / item.denominator) request.threshold.value := by
  have hmoved := abs_lt.mp (abs_rounded_ratio_sub_lt hsound hpositive)
  unfold AlertComparator.holds
  rcases le_abs.mp hapart with h | h
  · cases request.comparator
    · exact iff_of_true (by linarith) (by linarith)
    · exact iff_of_true (by linarith) (by linarith)
  · cases request.comparator
    · exact iff_of_false (by linarith) (by linarith)
    · exact iff_of_false (by linarith) (by linarith)

theorem holds_mono {comparator : AlertComparator} {ratio low high : ℚ} (hle : low ≤ high)
    (h : comparator.holds ratio high) : comparator.holds ratio low := by
  unfold AlertComparator.holds at h ⊢
  cases comparator
  · exact hle.trans_lt h
  · exact hle.trans h

end MetricAlertBacktester

open MetricAlertBacktester in
/-- The windows that pass the checks follow each other inside the period. One that counts is a hit when its ratio,
rounded, meets the comparator; and a higher threshold has no other hits. -/
theorem windows_and_hits (request : AlertBacktestRequest) (observations : List AlertObservation)
    (haccepted : validate_observation_order request none observations = .ok ()) :
    observations.Pairwise (fun a b => a.window_ended_at.instant ≤ b.window_started_at.instant) ∧
    (∀ item ∈ observations, request.started_at.instant ≤ item.window_started_at.instant ∧
      item.window_started_at.instant < item.window_ended_at.instant ∧
      item.window_ended_at.instant ≤ request.ended_at.instant) ∧
    (∀ item ∈ observations, ∃ window, evaluate item request = .ok window ∧
      (window.excluded_reason = none ↔ Eligible request item) ∧
      (window.hit = true ↔
        Eligible request item ∧ request.comparator.holds (rounded_ratio item) request.threshold.value) ∧
      (Eligible request item →
        1 / 10 ^ 6 ≤ |(item.numerator / item.denominator : ℚ) - request.threshold.value| →
        (window.hit = true ↔ request.comparator.holds (item.numerator / item.denominator) request.threshold.value))) ∧
    ∀ raised : AlertBacktestRequest, raised.comparator = request.comparator →
      raised.minimum_denominator = request.minimum_denominator → request.threshold.value ≤ raised.threshold.value →
      ∀ item ∈ observations, ∀ window higher, evaluate item request = .ok window → evaluate item raised = .ok higher →
        higher.hit = true → window.hit = true := by
  obtain ⟨hall, hpairwise, -⟩ := validate_observation_order_ok haccepted
  refine ⟨hpairwise, fun item hmem => ?_, fun item hmem => ?_, ?_⟩
  · have hperiod := (hall item hmem).1
    exact ⟨hperiod.after, hperiod.increasing, hperiod.before⟩
  · have hsound := (hall item hmem).2
    obtain ⟨window, hwindow, hreason, hhit⟩ := evaluate_ok request hsound
    refine ⟨window, hwindow, hreason, hhit, fun heligible hapart => ?_⟩
    rw [hhit, holds_rounded hsound heligible.2.1 hapart]
    exact ⟨fun h => h.2, fun h => ⟨heligible, h⟩⟩
  · intro raised hcomparator hminimum hle item hmem window higher hwindow hhigher hhit
    have hsound := (hall item hmem).2
    obtain ⟨window', hwindow', -, hiff⟩ := evaluate_ok request hsound
    obtain ⟨higher', hhigher', -, hiff'⟩ := evaluate_ok raised hsound
    obtain rfl : window = window' := Except.ok.inj (hwindow.symm.trans hwindow')
    obtain rfl : higher = higher' := Except.ok.inj (hhigher.symm.trans hhigher')
    obtain ⟨heligible, hholds⟩ := hiff'.mp hhit
    rw [hcomparator] at hholds
    refine hiff.mpr ⟨⟨heligible.1, heligible.2.1, hminimum ▸ heligible.2.2⟩, holds_mono hle hholds⟩

def weekStart : Datetime := .utc 0 (by decide)

def weekEnd : Datetime := .utc (7 * day) (by decide)

theorem week_increasing : weekStart.instant < weekEnd.instant := by decide

theorem no_filters_size : ([] : List (Text 1 256)).length ≤ 32 := by decide

theorem no_filters_unique : ([] : List (Text 1 256)).Nodup := List.nodup_nil

/-- The rule on the first week. -/
def weekRequest (threshold : Decimal) : AlertBacktestRequest where
  metric := .late_delivery_rate
  metric_revision := ⟨"metric.late_delivery_rate.v1", by decide⟩
  grain := ⟨"global", by decide⟩
  window := .week
  comparator := .greater_than
  threshold := threshold
  minimum_denominator := 1
  started_at := weekStart
  ended_at := weekEnd
  filter_refs := ⟨[], no_filters_size, no_filters_unique⟩

theorem weekRequest_valid {threshold : Decimal} (hfinite : threshold.isFinite = true) (hunit : threshold.inUnit)
    (hplaces : threshold.exactAt 6) : (weekRequest threshold).Valid where
  finite := hfinite
  unit := hunit
  places := hplaces
  minimum := ⟨one_pos, by norm_num [weekRequest]⟩
  increasing := week_increasing
  year := show weekEnd.instant - weekStart.instant ≤ 366 * day by decide
  midnight := show ∀ value ∈ [weekStart, weekEnd], value.wall % day = 0 by decide
  calendar := show ∀ value ∈ [weekStart, weekEnd], CalendarWindow.week.boundary (value.wall / day) by decide

/-- One delivery of three in the week is late. -/
def thirdObservation : AlertObservation := ⟨weekStart, weekEnd, 1, 3, true⟩

namespace MetricAlertBacktester

theorem third_sound : Sound thirdObservation := ⟨by decide, by decide⟩

theorem third_accepted (threshold : Decimal) :
    validate_observation_order (weekRequest threshold) none [thirdObservation] = .ok () := by
  have haccepts : accepts_observation (weekRequest threshold) none thirdObservation = true :=
    accepts_observation_iff.mpr ⟨⟨le_rfl, week_increasing, le_rfl⟩, third_sound, fun _ h => by cases h⟩
  unfold validate_observation_order
  rw [if_pos haccepts]
  rfl

end MetricAlertBacktester

def secondEnd : Datetime := .utc (14 * day) (by decide)

def thirdEnd : Datetime := .utc (21 * day) (by decide)

/-- The rule on the first three weeks, above three tenths. -/
def weeksRequest : AlertBacktestRequest := { weekRequest (.finite false 3 (-1)) with ended_at := thirdEnd }

/-- A third is late, then a quarter, and then a half of a week that is not complete. -/
def weekObservations : List AlertObservation :=
  [thirdObservation, ⟨weekEnd, secondEnd, 1, 4, true⟩, ⟨secondEnd, thirdEnd, 1, 2, false⟩]

theorem weeks_accepted :
    MetricAlertBacktester.validate_observation_order weeksRequest none weekObservations = .ok () := by
  decide +kernel

open MetricAlertBacktester in
theorem windows_and_hits_weeks :
    weekObservations.map (fun item => (evaluate item weeksRequest).map AlertWindowResult.hit) =
      [.ok true, .ok false, .ok false] ∧
    weekObservations.Pairwise (fun a b => a.window_ended_at.instant ≤ b.window_started_at.instant) ∧
    (∀ item ∈ weekObservations, weekStart.instant ≤ item.window_started_at.instant ∧
      item.window_started_at.instant < item.window_ended_at.instant ∧ item.window_ended_at.instant ≤ thirdEnd.instant) ∧
    (∀ item ∈ weekObservations, ∃ window, evaluate item weeksRequest = .ok window ∧
      (window.excluded_reason = none ↔ Eligible weeksRequest item) ∧
      (window.hit = true ↔ Eligible weeksRequest item ∧
        AlertComparator.greater_than.holds (rounded_ratio item) weeksRequest.threshold.value) ∧
      (Eligible weeksRequest item →
        1 / 10 ^ 6 ≤ |(item.numerator / item.denominator : ℚ) - weeksRequest.threshold.value| →
        (window.hit = true ↔
          AlertComparator.greater_than.holds (item.numerator / item.denominator) weeksRequest.threshold.value))) ∧
    ∀ raised : AlertBacktestRequest, raised.comparator = .greater_than → raised.minimum_denominator = 1 →
      weeksRequest.threshold.value ≤ raised.threshold.value →
      ∀ item ∈ weekObservations, ∀ window higher, evaluate item weeksRequest = .ok window →
        evaluate item raised = .ok higher → higher.hit = true → window.hit = true :=
  ⟨by decide +kernel, windows_and_hits weeksRequest weekObservations weeks_accepted⟩

open MetricAlertBacktester in
/-- A third is above 0.333333, and no hit. -/
theorem third_no_hit : (weekRequest (.finite false 333333 (-6))).Valid ∧
    validate_observation_order (weekRequest (.finite false 333333 (-6))) none [thirdObservation] = .ok () ∧
    Eligible (weekRequest (.finite false 333333 (-6))) thirdObservation ∧
    AlertComparator.greater_than.holds (1 / 3) (Decimal.finite false 333333 (-6)).value ∧
    ∃ window, evaluate thirdObservation (weekRequest (.finite false 333333 (-6))) = .ok window ∧
      window.hit = false := by
  have hvalue : (Decimal.finite false 333333 (-6)).value = 333333 / 1000000 := by decide +kernel
  have hrounded : rounded_ratio thirdObservation = 333333 / 1000000 := by
    unfold rounded_ratio thirdObservation
    decide +kernel
  refine ⟨weekRequest_valid rfl (by decide) (by decide), third_accepted _, ⟨rfl, by decide, le_of_lt (by decide)⟩, ?_,
    ?_⟩
  · rw [hvalue]
    exact show (333333 / 1000000 : ℚ) < 1 / 3 by norm_num
  · obtain ⟨window, hwindow, -, hhit⟩ := evaluate_ok (weekRequest (.finite false 333333 (-6))) third_sound
    refine ⟨window, hwindow, Bool.eq_false_iff.mpr fun h => ?_⟩
    obtain ⟨-, hholds⟩ := hhit.mp h
    rw [hrounded] at hholds
    have hlt : (Decimal.finite false 333333 (-6)).value < 333333 / 1000000 := hholds
    exact absurd hvalue hlt.ne

end CommerceAgent.Operations
