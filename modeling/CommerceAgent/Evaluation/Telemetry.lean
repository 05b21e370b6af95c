import CommerceAgent.Evaluation.Memory
import CommerceAgent.Evaluation.Postgres
import CommerceAgent.Evaluation.SpoolScan
import CommerceAgent.Model.Gateway

/-!
# Importing telemetry

`telemetry_patch`, and exactly when both evaluation stores merge it into a valid `AttemptTelemetry`.
-/

open CommerceAgent.Lib
open CommerceAgent.Operations (UUID Checked Text Code HexDigest)
open CommerceAgent.Orchestration (Value)
open CommerceAgent.Model (ReportedUsage)

namespace CommerceAgent.Evaluation

/-! ## Reading fields -/

/-- What pydantic takes a value for, in a field of a number. -/
structure Pydantic where
  int : Value → Option ℤ
  float : Value → Option ℚ
  /-- A decimal that is finite. -/
  decimal : Value → Option Decimal
  /-- The digit that `Decimal` takes another character for, or a blank. -/
  unicode : Char → Option Char
  int_int : ∀ n, int (.int n) = some n
  float_float : ∀ q, float (.float q) = some q
  decimal_str : ∀ text negative coefficient exponent,
    Numeral.read unicode text = some (.finite negative coefficient exponent) →
      decimal (.str text) = some (.finite negative coefficient exponent)

/-- How the values of a field are dumped and validated. A decimal is held as its text. -/
structure Kind (τ : Type) where
  dump : τ → Value
  validate : Value → Option τ
  validate_dump : ∀ t, validate (dump t) = some t
  not_null : ∀ t, dump t ≠ .null

namespace Kind

variable {τ : Type} (kind : Kind τ)

/-- A field `τ | None = None`. -/
def optional (fields : Dict String Value) (key : String) : Option (Option τ) :=
  match fields.get? key with
  | none => some none
  | some .null => some none
  | some value => (kind.validate value).map some

def dump_optional : Option τ → Value
  | none => .null
  | some t => kind.dump t

theorem optional_of_some {fields : Dict String Value} {key : String} {value : Value} (h : fields.get? key = some value)
    (hvalue : value ≠ .null) : kind.optional fields key = (kind.validate value).map some := by
  unfold optional
  rw [h]
  cases value <;> first | rfl | exact absurd rfl hvalue

theorem optional_congr {fields other : Dict String Value} {key : String} (h : fields.get? key = other.get? key) :
    kind.optional fields key = kind.optional other key := by
  unfold optional
  rw [h]

theorem optional_dump {fields : Dict String Value} {key : String} {t : Option τ}
    (h : fields.get? key = some (kind.dump_optional t)) : kind.optional fields key = some t := by
  cases t with
  | none =>
    unfold optional
    rw [h]
    rfl
  | some t =>
    rw [kind.optional_of_some h (kind.not_null t)]
    exact congrArg (Option.map some) (kind.validate_dump t)

end Kind

variable (pydantic : Pydantic)

/-- `int = Field(ge=0)`. -/
def counter : Kind ℕ where
  dump n := .int n
  validate value := (pydantic.int value).bind fun n => if 0 ≤ n then some n.toNat else none
  validate_dump n := by
    rw [pydantic.int_int, Option.bind_some, if_pos (Int.natCast_nonneg n), Int.toNat_natCast]
  not_null _ := Value.noConfusion

/-- `float = Field(ge=0.0, le=1.0)`. -/
def ratio : Kind {q : ℚ // 0 ≤ q ∧ q ≤ 1} where
  dump q := .float q
  validate value := (pydantic.float value).bind fun q => if h : 0 ≤ q ∧ q ≤ 1 then some ⟨q, h⟩ else none
  validate_dump q := by
    rw [pydantic.float_float, Option.bind_some, dif_pos q.2]
  not_null _ := Value.noConfusion

/-- A text that passes a check. -/
def checked (ok : String → Bool) : Kind (Checked ok) where
  dump t := .str t.text
  validate
    | .str s => Checked.parse s
    | _ => none
  validate_dump t := Checked.parse_text t
  not_null _ := Value.noConfusion

/-! ## Usage and cost -/

/-- `extra="forbid"`: no key but these. -/
def forbid (fields : List (String × Value)) (keys : List String) : Bool := fields.all fun field => field.1 ∈ keys

/-- A `Literal` field. -/
def literal (fields : List (String × Value)) (key text : String) : Bool :=
  match fields.lookup key with
  | some (.str s) => s = text
  | _ => false

def required {τ : Type} (kind : Kind τ) (fields : List (String × Value)) (key : String) : Option τ :=
  (fields.lookup key).bind kind.validate

def validate_token_identities (prompt cache_hit cache_miss completion reasoning total : ℕ) : Option ReportedUsage :=
  if h : prompt = cache_hit + cache_miss ∧ total = prompt + completion ∧ reasoning ≤ completion then
    some ⟨prompt, cache_hit, cache_miss, completion, reasoning, total, h.1, h.2.1, h.2.2⟩
  else none

/-- `ReportedUsage.model_validate`. -/
def validate_usage : Value → Option ReportedUsage
  | .obj fields =>
    if ¬ (forbid fields ("status" :: USAGE_KEYS) && literal fields "status" "reported") then none
    else do
      let prompt_tokens ← required (counter pydantic) fields "prompt_tokens"
      let cache_hit_tokens ← required (counter pydantic) fields "cache_hit_tokens"
      let cache_miss_tokens ← required (counter pydantic) fields "cache_miss_tokens"
      let completion_tokens ← required (counter pydantic) fields "completion_tokens"
      let reasoning_tokens ← required (counter pydantic) fields "reasoning_tokens"
      let total_tokens ← required (counter pydantic) fields "total_tokens"
      validate_token_identities prompt_tokens cache_hit_tokens cache_miss_tokens completion_tokens reasoning_tokens
        total_tokens
  | _ => none

inductive PriceBand where
  | peak
  | off_peak
  deriving DecidableEq

def PriceBand.value : PriceBand → String
  | .peak => "peak"
  | .off_peak => "off_peak"

def PriceBand.parse (text : String) : Option PriceBand :=
  if text = "peak" then some .peak else if text = "off_peak" then some .off_peak else none

/-- `Decimal = Field(ge=0, allow_inf_nan=False)`, with an exponent that a decimal can have. -/
structure Amount where
  negative : Bool
  coefficient : ℕ
  exponent : ℤ
  limits : Numeral.inLimits coefficient exponent = true
  nonneg : 0 ≤ (Decimal.finite negative coefficient exponent).num

def Amount.decimal (amount : Amount) : Decimal := .finite amount.negative amount.coefficient amount.exponent

def Amount.parse : Decimal → Option Amount
  | .finite negative c e =>
    if h : Numeral.inLimits c e = true ∧ 0 ≤
      (Decimal.finite negative c e).num then some ⟨negative, c, e, h.1, h.2⟩ else none
  | .special => none

structure CostEstimate where
  price_snapshot_id : Text 1 128
  amount : Amount
  price_band : PriceBand

inductive Cost where
  | estimated (cost : CostEstimate)
  | unavailable (reason_code : Code 2 127)

/-- A `Literal["peak", "off_peak"]`. -/
def price_band : Kind PriceBand where
  dump band := .str band.value
  validate
    | .str s => PriceBand.parse s
    | _ => none
  validate_dump band := by cases band <;> rfl
  not_null _ := Value.noConfusion

theorem read_amount (amount : Amount) : pydantic.decimal (.str amount.decimal.text) = some amount.decimal :=
  pydantic.decimal_str _ _ _ _ (Numeral.read_text _ pydantic.unicode amount.limits)

theorem parse_amount (amount : Amount) : Amount.parse amount.decimal = some amount :=
  dif_pos ⟨amount.limits, amount.nonneg⟩

def amount : Kind Amount where
  dump amount := .str amount.decimal.text
  validate value := (pydantic.decimal value).bind Amount.parse
  validate_dump amount := by rw [read_amount, Option.bind_some, parse_amount]
  not_null _ := Value.noConfusion

/-- `CostEstimate.model_validate`. -/
def validate_estimate (fields : List (String × Value)) : Option CostEstimate :=
  if ¬ (forbid fields ["status", "price_snapshot_id", "currency", "amount", "price_band"] &&
      literal fields "currency" "USD") then none
  else do
    let price_snapshot_id ← required (checked _) fields "price_snapshot_id"
    let amount ← required (amount pydantic) fields "amount"
    let band ← required price_band fields "price_band"
    some ⟨price_snapshot_id, amount, band⟩

/-- A `Cost`, by its status. -/
def validate_cost : Value → Option Cost
  | .obj fields =>
    if literal fields "status" "estimated" then (validate_estimate pydantic fields).map .estimated
    else if literal fields "status" "unavailable" && forbid fields ["status", "reason_code"] then
      (required (checked _) fields "reason_code").map .unavailable
    else none
  | _ => none

def dump_cost : Cost → Value
  | .estimated cost => .obj [("status", .str "estimated"), ("price_snapshot_id", .str cost.price_snapshot_id.text),
    ("currency", .str "USD"), ("amount", .str cost.amount.decimal.text), ("price_band", .str cost.price_band.value)]
  | .unavailable reason_code => .obj [("status", .str "unavailable"), ("reason_code", .str reason_code.text)]

def dump_usage (usage : ReportedUsage) : Value := .obj [("status", .str "reported"),
  ("prompt_tokens", .int usage.prompt_tokens), ("cache_hit_tokens", .int usage.cache_hit_tokens),
  ("cache_miss_tokens", .int usage.cache_miss_tokens), ("completion_tokens", .int usage.completion_tokens),
  ("reasoning_tokens", .int usage.reasoning_tokens), ("total_tokens", .int usage.total_tokens)]

theorem required_dump {τ : Type} (kind : Kind τ) {fields : List (String × Value)} {key : String} {t : τ}
    (h : fields.lookup key = some (kind.dump t)) : required kind fields key = some t := by
  unfold required
  rw [h, Option.bind_some, kind.validate_dump]

/-- A dictionary with a status and the six counts, in any order of the keys. -/
theorem validate_usage_counts {fields : List (String × Value)}
    {prompt cache_hit cache_miss completion reasoning total : ℕ}
    (hforbid : forbid fields ("status" :: USAGE_KEYS) = true) (hstatus : literal fields "status" "reported" = true)
    (hprompt : fields.lookup "prompt_tokens" = some (.int prompt))
    (hhit : fields.lookup "cache_hit_tokens" = some (.int cache_hit))
    (hmiss : fields.lookup "cache_miss_tokens" = some (.int cache_miss))
    (hcompletion : fields.lookup "completion_tokens" = some (.int completion))
    (hreasoning : fields.lookup "reasoning_tokens" = some (.int reasoning))
    (htotal : fields.lookup "total_tokens" = some (.int total)) :
    validate_usage pydantic (.obj fields) =
      validate_token_identities prompt cache_hit cache_miss completion reasoning total := by
  unfold validate_usage
  dsimp only
  rw [hforbid, hstatus, if_neg (by simp), required_dump (counter pydantic) hprompt,
    required_dump (counter pydantic) hhit,
    required_dump (counter pydantic) hmiss, required_dump (counter pydantic) hcompletion,
    required_dump (counter pydantic) hreasoning, required_dump (counter pydantic) htotal]
  rfl

def usage : Kind ReportedUsage where
  dump := dump_usage
  validate := validate_usage pydantic
  validate_dump usage := by
    unfold dump_usage
    rw [validate_usage_counts pydantic rfl rfl rfl rfl rfl rfl rfl rfl]
    exact dif_pos ⟨usage.prompt, usage.total, usage.reasoning⟩
  not_null _ := Value.noConfusion

theorem validate_estimate_fields {fields : List (String × Value)} (estimate : CostEstimate)
    (hforbid : forbid fields ["status", "price_snapshot_id", "currency", "amount", "price_band"] = true)
    (hcurrency : literal fields "currency" "USD" = true)
    (hsnapshot : fields.lookup "price_snapshot_id" = some (.str estimate.price_snapshot_id.text))
    (hamount : fields.lookup "amount" = some (.str estimate.amount.decimal.text))
    (hband : fields.lookup "price_band" = some (.str estimate.price_band.value)) :
    validate_estimate pydantic fields = some estimate := by
  unfold validate_estimate
  rw [hforbid, hcurrency, if_neg (by simp), required_dump (checked _) hsnapshot,
    required_dump (amount pydantic) hamount,
    required_dump price_band hband]
  rfl

theorem validate_cost_dump (cost : Cost) : validate_cost pydantic (dump_cost cost) = some cost := by
  cases cost with
  | estimated estimate =>
    change (validate_estimate pydantic _).map Cost.estimated = _
    rw [validate_estimate_fields pydantic estimate rfl rfl rfl rfl rfl]
    rfl
  | unavailable reason_code =>
    change (required (checked _) _ "reason_code").map Cost.unavailable = _
    rw [required_dump (checked _) (t := reason_code) rfl]
    rfl

def cost : Kind Cost where
  dump := dump_cost
  validate := validate_cost pydantic
  validate_dump := validate_cost_dump pydantic
  not_null cost := by cases cost <;> exact Value.noConfusion

/-! ## The contract -/

structure AttemptTelemetry where
  agent_usage : Option ReportedUsage
  simulator_usage : Option ReportedUsage
  agent_cost : Option Cost
  simulator_cost : Option Cost
  retry_cost : Option Cost
  wall_clock_ms : Option ℕ
  rounds : Option ℕ
  tool_calls : Option ℕ
  submit_count : Option ℕ
  cache_hit_ratio : Option {q : ℚ // 0 ≤ q ∧ q ≤ 1}
  spool_path : Option (Text 1 512)
  spool_sha256 : Option HexDigest
  agent_turns : Option ℕ
  agent_session_id : Option (Text 1 64)

namespace AttemptTelemetry

def FIELDS : List String :=
  ["agent_usage", "simulator_usage", "agent_cost", "simulator_cost", "retry_cost", "wall_clock_ms", "rounds",
    "tool_calls", "submit_count", "cache_hit_ratio", "spool_path", "spool_sha256", "agent_turns", "agent_session_id"]

/-- `AttemptTelemetry()`. -/
def blank : AttemptTelemetry :=
  ⟨none, none, none, none, none, none, none, none, none, none, none, none, none, none⟩

def model_dump (telemetry : AttemptTelemetry) : Dict String Value where
  items := [
    ("agent_usage", (usage pydantic).dump_optional telemetry.agent_usage),
    ("simulator_usage", (usage pydantic).dump_optional telemetry.simulator_usage),
    ("agent_cost", (cost pydantic).dump_optional telemetry.agent_cost),
    ("simulator_cost", (cost pydantic).dump_optional telemetry.simulator_cost),
    ("retry_cost", (cost pydantic).dump_optional telemetry.retry_cost),
    ("wall_clock_ms", (counter pydantic).dump_optional telemetry.wall_clock_ms),
    ("rounds", (counter pydantic).dump_optional telemetry.rounds),
    ("tool_calls", (counter pydantic).dump_optional telemetry.tool_calls),
    ("submit_count", (counter pydantic).dump_optional telemetry.submit_count),
    ("cache_hit_ratio", (ratio pydantic).dump_optional telemetry.cache_hit_ratio),
    ("spool_path", (checked _).dump_optional telemetry.spool_path),
    ("spool_sha256", (checked _).dump_optional telemetry.spool_sha256),
    ("agent_turns", (counter pydantic).dump_optional telemetry.agent_turns),
    ("agent_session_id", (checked _).dump_optional telemetry.agent_session_id)]
  nodup := (by decide : FIELDS.Nodup)

def model_validate (fields : Dict String Value) : Option AttemptTelemetry :=
  if ¬ ∀ key ∈ fields.keys, key ∈ FIELDS then none
  else do
    let agent_usage ← (usage pydantic).optional fields "agent_usage"
    let simulator_usage ← (usage pydantic).optional fields "simulator_usage"
    let agent_cost ← (cost pydantic).optional fields "agent_cost"
    let simulator_cost ← (cost pydantic).optional fields "simulator_cost"
    let retry_cost ← (cost pydantic).optional fields "retry_cost"
    let wall_clock_ms ← (counter pydantic).optional fields "wall_clock_ms"
    let rounds ← (counter pydantic).optional fields "rounds"
    let tool_calls ← (counter pydantic).optional fields "tool_calls"
    let submit_count ← (counter pydantic).optional fields "submit_count"
    let cache_hit_ratio ← (ratio pydantic).optional fields "cache_hit_ratio"
    let spool_path ← (checked _).optional fields "spool_path"
    let spool_sha256 ← (checked _).optional fields "spool_sha256"
    let agent_turns ← (counter pydantic).optional fields "agent_turns"
    let agent_session_id ← (checked _).optional fields "agent_session_id"
    some ⟨agent_usage, simulator_usage, agent_cost, simulator_cost, retry_cost, wall_clock_ms, rounds, tool_calls,
      submit_count, cache_hit_ratio, spool_path, spool_sha256, agent_turns, agent_session_id⟩

def contract : TelemetryContract AttemptTelemetry := ⟨blank, model_dump pydantic, model_validate pydantic⟩

/-- A dictionary is validated as a telemetry. -/
structure Reads (fields : Dict String Value) (telemetry : AttemptTelemetry) : Prop where
  known : ∀ key ∈ fields.keys, key ∈ FIELDS
  agent_usage : (usage pydantic).optional fields "agent_usage" = some telemetry.agent_usage
  simulator_usage : (usage pydantic).optional fields "simulator_usage" = some telemetry.simulator_usage
  agent_cost : (cost pydantic).optional fields "agent_cost" = some telemetry.agent_cost
  simulator_cost : (cost pydantic).optional fields "simulator_cost" = some telemetry.simulator_cost
  retry_cost : (cost pydantic).optional fields "retry_cost" = some telemetry.retry_cost
  wall_clock_ms : (counter pydantic).optional fields "wall_clock_ms" = some telemetry.wall_clock_ms
  rounds : (counter pydantic).optional fields "rounds" = some telemetry.rounds
  tool_calls : (counter pydantic).optional fields "tool_calls" = some telemetry.tool_calls
  submit_count : (counter pydantic).optional fields "submit_count" = some telemetry.submit_count
  cache_hit_ratio : (ratio pydantic).optional fields "cache_hit_ratio" = some telemetry.cache_hit_ratio
  spool_path : (checked _).optional fields "spool_path" = some telemetry.spool_path
  spool_sha256 : (checked _).optional fields "spool_sha256" = some telemetry.spool_sha256
  agent_turns : (counter pydantic).optional fields "agent_turns" = some telemetry.agent_turns
  agent_session_id : (checked _).optional fields "agent_session_id" = some telemetry.agent_session_id

variable {pydantic} {fields : Dict String Value} {telemetry : AttemptTelemetry}

theorem bind_some {α β : Type} {x : Option α} {f : α → Option β} {a : α} {b : Option β} (h : x = some a)
    (hf : f a = b) : x >>= f = b := by
  rw [h]
  exact hf

theorem model_validate_eq_some : model_validate pydantic fields = some telemetry ↔ Reads pydantic fields telemetry := by
  unfold model_validate
  by_cases hknown : ∀ key ∈ fields.keys, key ∈ FIELDS
  · rw [if_neg (not_not.mpr hknown)]
    constructor
    · intro h
      obtain ⟨_, h1, h⟩ := Option.bind_eq_some_iff.mp h
      obtain ⟨_, h2, h⟩ := Option.bind_eq_some_iff.mp h
      obtain ⟨_, h3, h⟩ := Option.bind_eq_some_iff.mp h
      obtain ⟨_, h4, h⟩ := Option.bind_eq_some_iff.mp h
      obtain ⟨_, h5, h⟩ := Option.bind_eq_some_iff.mp h
      obtain ⟨_, h6, h⟩ := Option.bind_eq_some_iff.mp h
      obtain ⟨_, h7, h⟩ := Option.bind_eq_some_iff.mp h
      obtain ⟨_, h8, h⟩ := Option.bind_eq_some_iff.mp h
      obtain ⟨_, h9, h⟩ := Option.bind_eq_some_iff.mp h
      obtain ⟨_, h10, h⟩ := Option.bind_eq_some_iff.mp h
      obtain ⟨_, h11, h⟩ := Option.bind_eq_some_iff.mp h
      obtain ⟨_, h12, h⟩ := Option.bind_eq_some_iff.mp h
      obtain ⟨_, h13, h⟩ := Option.bind_eq_some_iff.mp h
      obtain ⟨_, h14, h⟩ := Option.bind_eq_some_iff.mp h
      cases h
      exact ⟨hknown, h1, h2, h3, h4, h5, h6, h7, h8, h9, h10, h11, h12, h13, h14⟩
    · rintro ⟨-, h1, h2, h3, h4, h5, h6, h7, h8, h9, h10, h11, h12, h13, h14⟩
      exact bind_some h1 <| bind_some h2 <| bind_some h3 <| bind_some h4 <| bind_some h5 <| bind_some h6 <|
        bind_some h7 <| bind_some h8 <| bind_some h9 <| bind_some h10 <| bind_some h11 <| bind_some h12 <|
        bind_some h13 <| bind_some h14 rfl
  · rw [if_pos hknown]
    exact iff_of_false (by simp) fun h => hknown h.known

theorem reads_model_dump (telemetry : AttemptTelemetry) :
    Reads pydantic (model_dump pydantic telemetry) telemetry where
  known _ h := h
  agent_usage := Kind.optional_dump _ rfl
  simulator_usage := Kind.optional_dump _ rfl
  agent_cost := Kind.optional_dump _ rfl
  simulator_cost := Kind.optional_dump _ rfl
  retry_cost := Kind.optional_dump _ rfl
  wall_clock_ms := Kind.optional_dump _ rfl
  rounds := Kind.optional_dump _ rfl
  tool_calls := Kind.optional_dump _ rfl
  submit_count := Kind.optional_dump _ rfl
  cache_hit_ratio := Kind.optional_dump _ rfl
  spool_path := Kind.optional_dump _ rfl
  spool_sha256 := Kind.optional_dump _ rfl
  agent_turns := Kind.optional_dump _ rfl
  agent_session_id := Kind.optional_dump _ rfl

theorem reads_empty : Reads pydantic Dict.empty blank :=
  ⟨fun _ h => absurd h List.not_mem_nil, rfl, rfl, rfl, rfl, rfl, rfl, rfl, rfl, rfl, rfl, rfl, rfl, rfl, rfl⟩

end AttemptTelemetry

/-! ## The patch -/

namespace SpoolUsageRecord

variable (record : SpoolUsageRecord)

def agent_cost : List (String × Value) :=
  [("status", .str "estimated"), ("price_snapshot_id", .str record.price_snapshot_id.text), ("currency", .str "USD"),
    ("amount", .str record.cost_usd.text), ("price_band", .str record.price_band)]

def agent_usage : List (String × Value) :=
  [("status", .str "reported"), ("prompt_tokens", .int record.prompt_tokens),
    ("completion_tokens", .int record.completion_tokens), ("reasoning_tokens", .int record.reasoning_tokens),
    ("cache_hit_tokens", .int record.cache_hit_tokens), ("cache_miss_tokens", .int record.cache_miss_tokens),
    ("total_tokens", .int record.total_tokens)]

def PATCH_FIELDS : List String := ["agent_cost", "agent_usage", "agent_turns", "agent_session_id"]

def telemetry_patch : Dict String Value where
  items := [("agent_cost", .obj record.agent_cost), ("agent_usage", .obj record.agent_usage),
    ("agent_turns", .int record.turns), ("agent_session_id", .str record.attempt_id.text)]
  nodup := (by decide : PATCH_FIELDS.Nodup)

/-- The counts meet the identities of `ReportedUsage`. -/
structure Additive : Prop where
  prompt : record.prompt_tokens = record.cache_hit_tokens + record.cache_miss_tokens
  total : record.total_tokens = record.prompt_tokens + record.completion_tokens
  reasoning : record.reasoning_tokens ≤ record.completion_tokens

end SpoolUsageRecord

/-! ## Validating the merged telemetry -/

section Merge

variable {pydantic : Pydantic} {fields : Dict String Value} {prior : AttemptTelemetry} {record : SpoolUsageRecord}
  {session : List Turn}

theorem session_id_fits (attempt_id : UUID) :
    (decide (1 ≤ attempt_id.text.length) && decide (attempt_id.text.length ≤ 64)) = true := by
  have hlength : attempt_id.text.length = 36 := by
    rw [← String.length_toList]
    exact Operations.UUID.length_text attempt_id
  rw [hlength]
  rfl

/-- `str(attempt_id)`, as a session id. -/
def session_id (attempt_id : UUID) : Text 1 64 := ⟨attempt_id.text, session_id_fits attempt_id⟩

theorem validate_checked {ok : String → Bool} {text : String} {t : Checked ok} (h : t.text = text) :
    (checked ok).validate (.str text) = some t := by
  rw [← h]
  exact Checked.parse_text t

theorem usage_of_additive (h : record.Additive) :
    ∃ usage, validate_usage pydantic (.obj record.agent_usage) = some usage := by
  rw [validate_usage_counts pydantic rfl rfl rfl rfl rfl rfl rfl rfl]
  exact ⟨_, dif_pos ⟨h.prompt, h.total, h.reasoning⟩⟩

theorem additive_of_usage {usage : ReportedUsage}
    (h : validate_usage pydantic (.obj record.agent_usage) = some usage) : record.Additive := by
  rw [validate_usage_counts pydantic rfl rfl rfl rfl rfl rfl rfl rfl] at h
  unfold validate_token_identities at h
  split_ifs at h with hids
  exact ⟨hids.1, hids.2.1, hids.2.2⟩

theorem cost_of_reports (h : Reports session record) (hband : record.price_band ∈ ["peak", "off_peak"]) :
    ∃ cost, validate_cost pydantic (.obj record.agent_cost) = some cost := by
  obtain ⟨band, hvalue⟩ : ∃ band : PriceBand, band.value = record.price_band := by
    rcases List.mem_cons.mp hband with heq | hband
    · exact ⟨.peak, heq.symm⟩
    · exact ⟨.off_peak, (List.mem_singleton.mp hband).symm⟩
  have hcontext := h.in_context
  have hnonneg := h.nonneg
  cases hcost : record.cost_usd with
  | special =>
    rw [hcost] at hcontext
    exact hcontext.elim
  | finite negative c e =>
    rw [hcost] at hcontext hnonneg
    let estimate : CostEstimate :=
      ⟨record.price_snapshot_id, ⟨negative, c, e, Numeral.inLimits_of_inContext hcontext, hnonneg⟩, band⟩
    have hestimate : validate_estimate pydantic record.agent_cost = some estimate :=
      validate_estimate_fields pydantic estimate rfl rfl rfl (by unfold SpoolUsageRecord.agent_cost; rw [hcost]; rfl)
        (by unfold SpoolUsageRecord.agent_cost; rw [hvalue]; rfl)
    exact ⟨_, congrArg (Option.map Cost.estimated) hestimate⟩

theorem merge_kept {τ : Type} {kind : Kind τ} {key : String} {t : Option τ} (hkey : key ∉ SpoolUsageRecord.PATCH_FIELDS)
    (h : kind.optional fields key = some t) : kind.optional (fields.union record.telemetry_patch) key = some t := by
  have hnone : record.telemetry_patch.get? key = none := Dict.get?_eq_none.mpr hkey
  rw [← h]
  refine kind.optional_congr ?_
  rw [Dict.get?_union, hnone, Option.none_or]

theorem merge_replaced {τ : Type} {kind : Kind τ} {key : String} {value : Value} {t : τ}
    (h : (key, value) ∈ record.telemetry_patch.items) (hvalue : value ≠ .null) (hvalid : kind.validate value = some t) :
    kind.optional (fields.union record.telemetry_patch) key = some (some t) := by
  rw [kind.optional_of_some _ hvalue, hvalid, Option.map_some]
  rw [Dict.get?_union, Dict.get?_eq_some.mpr h, Option.some_or]

theorem cost_mem (record : SpoolUsageRecord) :
    ("agent_cost", .obj record.agent_cost) ∈ record.telemetry_patch.items := List.mem_cons_self

theorem usage_mem (record : SpoolUsageRecord) :
    ("agent_usage", .obj record.agent_usage) ∈ record.telemetry_patch.items := List.mem_cons_of_mem _ List.mem_cons_self

theorem turns_mem (record : SpoolUsageRecord) : ("agent_turns", .int record.turns) ∈ record.telemetry_patch.items :=
  List.mem_cons_of_mem _ (List.mem_cons_of_mem _ List.mem_cons_self)

theorem session_id_mem (record : SpoolUsageRecord) :
    ("agent_session_id", .str record.attempt_id.text) ∈ record.telemetry_patch.items :=
  List.mem_cons_of_mem _ (List.mem_cons_of_mem _ (List.mem_cons_of_mem _ List.mem_cons_self))

theorem known_merge (h : ∀ key ∈ fields.keys, key ∈ AttemptTelemetry.FIELDS) :
    ∀ key ∈ (fields.union record.telemetry_patch).keys, key ∈ AttemptTelemetry.FIELDS := by
  intro key hkey
  rcases Dict.mem_keys_union.mp hkey with hkey | hkey
  · exact h key hkey
  · exact (by decide : SpoolUsageRecord.PATCH_FIELDS ⊆ AttemptTelemetry.FIELDS) hkey

/-- What a merge leaves: the telemetry of before with the four fields of the patch. -/
def AttemptTelemetry.imported (prior : AttemptTelemetry) (record : SpoolUsageRecord) (usage : ReportedUsage)
    (cost : Cost) :
    AttemptTelemetry := { prior with
  agent_usage := some usage
  agent_cost := some cost
  agent_turns := some record.turns
  agent_session_id := some (session_id record.attempt_id) }

theorem reads_merge (h : AttemptTelemetry.Reads pydantic fields prior) {usage : ReportedUsage} {cost : Cost}
    (husage : validate_usage pydantic (.obj record.agent_usage) = some usage)
    (hcost : validate_cost pydantic (.obj record.agent_cost) = some cost) :
    AttemptTelemetry.Reads pydantic (fields.union record.telemetry_patch) (prior.imported record usage cost) where
  known := known_merge h.known
  agent_usage := merge_replaced (usage_mem record) Value.noConfusion husage
  agent_cost := merge_replaced (cost_mem record) Value.noConfusion hcost
  agent_turns := merge_replaced (turns_mem record) Value.noConfusion ((counter pydantic).validate_dump record.turns)
  agent_session_id := merge_replaced (session_id_mem record) Value.noConfusion (validate_checked rfl)
  simulator_usage := merge_kept (by decide) h.simulator_usage
  simulator_cost := merge_kept (by decide) h.simulator_cost
  retry_cost := merge_kept (by decide) h.retry_cost
  wall_clock_ms := merge_kept (by decide) h.wall_clock_ms
  rounds := merge_kept (by decide) h.rounds
  tool_calls := merge_kept (by decide) h.tool_calls
  submit_count := merge_kept (by decide) h.submit_count
  cache_hit_ratio := merge_kept (by decide) h.cache_hit_ratio
  spool_path := merge_kept (by decide) h.spool_path
  spool_sha256 := merge_kept (by decide) h.spool_sha256

theorem additive_of_reads {telemetry : AttemptTelemetry}
    (h : AttemptTelemetry.Reads pydantic (fields.union record.telemetry_patch) telemetry) : record.Additive := by
  have hget : (fields.union record.telemetry_patch).get? "agent_usage" = some (.obj record.agent_usage) := by
    rw [Dict.get?_union, Dict.get?_eq_some.mpr (usage_mem record), Option.some_or]
  have husage := h.agent_usage
  rw [Kind.optional_of_some _ hget Value.noConfusion] at husage
  obtain ⟨usage, husage, -⟩ := Option.map_eq_some_iff.mp husage
  exact additive_of_usage husage

/-! ## Storing the patch -/

/-- The patch can be sent and stored: no text of it has a NUL, and no count more than 4300 digits. -/
structure SpoolUsageRecord.Storable (record : SpoolUsageRecord) : Prop where
  text : storable_text record.price_snapshot_id.text = true
  turns : writable record.turns = true
  tokens : ∀ n ∈ record.tokens, writable n = true

theorem storable_text_iff {text : String} : storable_text text = true ↔ ∀ c ∈ text.toList, c ≠ Char.ofNat 0 := by
  unfold storable_text
  rw [Bool.not_eq_true', ← Bool.not_eq_true, List.contains_iff_mem]
  constructor
  · rintro h c hc rfl
    exact h hc
  · exact fun h hc => h _ hc rfl

theorem storable_id (attempt_id : UUID) : storable_text attempt_id.text = true := by
  have hdigits : Char.ofNat 0 ∉ fixedText 16 32 attempt_id.toNat := fun h =>
    absurd (mem_fixedText_sixteen h) (by decide)
  rw [storable_text_iff]
  rintro c hc rfl
  unfold UUID.text at hc
  simp only [String.toList_ofList, List.append_assoc, List.cons_append, List.mem_append, List.mem_cons] at hc
  rcases hc with hc | hc | hc | hc | hc | hc | hc | hc | hc
  · exact hdigits (List.mem_of_mem_take hc)
  · exact absurd hc (by decide)
  · exact hdigits (List.mem_of_mem_drop (List.mem_of_mem_take hc))
  · exact absurd hc (by decide)
  · exact hdigits (List.mem_of_mem_drop (List.mem_of_mem_take hc))
  · exact absurd hc (by decide)
  · exact hdigits (List.mem_of_mem_drop (List.mem_of_mem_take hc))
  · exact absurd hc (by decide)
  · exact hdigits (List.mem_of_mem_drop hc)

theorem storable_cost {record : SpoolUsageRecord} (h : record.cost_usd.InContext) :
    storable_text record.cost_usd.text = true := by
  rw [storable_text_iff]
  rintro c hc rfl
  cases hcost : record.cost_usd with
  | special =>
    rw [hcost] at h
    exact h.elim
  | finite negative c e =>
    rw [hcost] at h hc
    have hprinted := (Numeral.text_printed negative (Numeral.inLimits_of_inContext h) _ hc).1
    exact absurd hprinted (by decide)

theorem storable_agent_cost (hcost : record.cost_usd.InContext) (hband : record.price_band ∈ ["peak", "off_peak"]) :
    storable (.obj record.agent_cost) = true ↔ storable_text record.price_snapshot_id.text = true := by
  have hprice : storable_text record.price_band = true :=
    List.all_eq_true.mp (by decide : ["peak", "off_peak"].all storable_text = true) _ hband
  rw [storable, storable_fields_iff]
  constructor
  · intro h
    have hsnapshot := h.2 (.str record.price_snapshot_id.text) (List.mem_cons_of_mem _ List.mem_cons_self)
    rwa [storable] at hsnapshot
  · intro h
    refine ⟨(by decide : ["status", "price_snapshot_id", "currency", "amount", "price_band"].all storable_text =
      true), ?_⟩
    unfold SpoolUsageRecord.agent_cost
    simp only [List.map_cons, List.map_nil, List.forall_mem_cons]
    refine ⟨?_, ?_, ?_, ?_, ?_, fun _ h => absurd h List.not_mem_nil⟩
    · rw [storable]; decide
    · rwa [storable]
    · rw [storable]; decide
    · rw [storable]; exact storable_cost hcost
    · rwa [storable]

theorem storable_agent_usage :
    storable (.obj record.agent_usage) = true ↔ ∀ n ∈ record.tokens, writable n = true := by
  have hvalues : record.agent_usage.map Prod.snd = .str "reported" :: record.tokens.map fun n : ℕ => Value.int n := rfl
  have hkeys : (record.agent_usage.map Prod.fst).all storable_text = true :=
    (by decide : ("status" :: USAGE_KEYS).all storable_text = true)
  rw [storable, storable_fields_iff, hvalues, List.forall_mem_cons, List.forall_mem_map]
  constructor
  · intro h n hn
    have hn := h.2.2 n hn
    rwa [storable] at hn
  · intro h
    refine ⟨hkeys, by rw [storable]; decide, fun n hn => ?_⟩
    rw [storable]
    exact h n hn

theorem storable_patch (h : Reports session record) (hband : record.price_band ∈ ["peak", "off_peak"]) :
    storable_fields record.telemetry_patch.items = true ↔ record.Storable := by
  have hvalues : record.telemetry_patch.items.map Prod.snd = [.obj record.agent_cost, .obj record.agent_usage,
    .int record.turns, .str record.attempt_id.text] := rfl
  have hkeys : (record.telemetry_patch.items.map Prod.fst).all storable_text = true :=
    (by decide : SpoolUsageRecord.PATCH_FIELDS.all storable_text = true)
  rw [storable_fields_iff, hvalues]
  simp only [List.forall_mem_cons]
  rw [storable_agent_cost h.in_context hband, storable_agent_usage, storable, storable]
  constructor
  · rintro ⟨-, htext, htokens, hturns, -⟩
    exact ⟨htext, hturns, htokens⟩
  · rintro ⟨htext, hturns, htokens⟩
    exact ⟨hkeys, htext, htokens, hturns, storable_id record.attempt_id, fun _ h => absurd h List.not_mem_nil⟩

end Merge

/-! ## Importing a record -/

open AttemptTelemetry (contract)

/-- **A record is merged into a valid telemetry, the same one in both stores.** -/
def Imports (pydantic : Pydantic) (record : SpoolUsageRecord) : Prop :=
  ∀ (memory : InMemoryEvaluationStore AttemptTelemetry) (postgres : PostgresEvaluationStore) (attempt_id : UUID) held,
    memory.attempts.get? attempt_id = some held → postgres.read (contract pydantic) attempt_id = some held →
    ∃ memory' postgres' merged,
      memory.merge_telemetry (contract pydantic) attempt_id record.telemetry_patch = (.ok (), memory') ∧
      postgres.merge_telemetry attempt_id record.telemetry_patch = .ok postgres' ∧
      memory'.attempts.get? attempt_id = some merged ∧ postgres'.read (contract pydantic) attempt_id = some merged ∧
      ∀ other ≠ attempt_id, memory'.attempts.get? other = memory.attempts.get? other ∧
        postgres'.read (contract pydantic) other = postgres.read (contract pydantic) other

variable {pydantic}

theorem imports_of_additive {record : SpoolUsageRecord} {session : List Turn} (h : Reports session record)
    (hband : record.price_band ∈ ["peak", "off_peak"]) (hadditive : record.Additive) (hstorable : record.Storable) :
    Imports pydantic record := by
  intro memory postgres attempt_id held hmemory hpostgres
  obtain ⟨usage, husage⟩ : ∃ usage, validate_usage pydantic (.obj record.agent_usage) = some usage :=
    usage_of_additive hadditive
  obtain ⟨cost, hcost⟩ : ∃ cost, validate_cost pydantic (.obj record.agent_cost) = some cost := cost_of_reports h hband
  obtain ⟨row, hrow, hread⟩ := Option.bind_eq_some_iff.mp hpostgres
  obtain ⟨prior, hprior, rfl⟩ := Option.map_eq_some_iff.mp hread
  have hdumped : (contract pydantic).model_validate (((contract pydantic).model_dump
      (row.with_telemetry prior).telemetry).union record.telemetry_patch) = some (prior.imported record usage cost) :=
    AttemptTelemetry.model_validate_eq_some.mpr (reads_merge (AttemptTelemetry.reads_model_dump prior) husage hcost)
  have hkept := AttemptTelemetry.model_validate_eq_some.mpr
    (reads_merge (AttemptTelemetry.model_validate_eq_some.mp hprior) husage hcost)
  refine ⟨memory.put_attempt attempt_id (row.with_telemetry (prior.imported record usage cost)),
    ⟨postgres.task_attempt.set attempt_id (row.with_telemetry (row.telemetry.union record.telemetry_patch))⟩,
    row.with_telemetry (prior.imported record usage cost), ?_, ?_, Dict.get?_set_self _ _ _, ?_,
    fun other hother => ⟨Dict.get?_set_of_ne hother, ?_⟩⟩
  · unfold InMemoryEvaluationStore.merge_telemetry
    rw [hmemory]
    dsimp only
    rw [hdumped]
    rfl
  · unfold PostgresEvaluationStore.merge_telemetry
    rw [if_neg (not_not.mpr ((storable_patch h hband).mpr hstorable)), hrow]
  · unfold PostgresEvaluationStore.read
    rw [Dict.get?_set_self, Option.bind_some]
    exact congrArg (Option.map _) hkept
  · unfold PostgresEvaluationStore.read
    rw [Dict.get?_set_of_ne hother]

/-- An attempt that has no telemetry yet. -/
def blankAttempt {τ : Type} (telemetry : τ) : AttemptRecord τ where
  attempt_id := 1
  run_id := 2
  experiment_id := ⟨"experiment-of-imports", by decide⟩
  task_id := ⟨"task-of-imports", by decide⟩
  mode := .c
  attempt_seq := Sequence.first
  status := .succeeded
  error_class := none
  started_at := 0
  finished_at := some 1
  telemetry

theorem additive_of_imports {record : SpoolUsageRecord} (h : Imports pydantic record) :
    record.Additive ∧ storable_fields record.telemetry_patch.items = true := by
  have hempty : (contract pydantic).model_validate Dict.empty = some AttemptTelemetry.blank :=
    AttemptTelemetry.model_validate_eq_some.mpr AttemptTelemetry.reads_empty
  obtain ⟨memory', postgres', merged, -, hmerge, -, hread, -⟩ :=
    h ⟨Dict.empty, Dict.empty.set 1 (blankAttempt AttemptTelemetry.blank), Dict.empty⟩
      ⟨Dict.empty.set 1 (blankAttempt Dict.empty)⟩ 1 (blankAttempt AttemptTelemetry.blank) (Dict.get?_set_self _ _ _)
        (by
        unfold PostgresEvaluationStore.read
        rw [Dict.get?_set_self, Option.bind_some]
        exact congrArg (Option.map _) hempty)
  unfold PostgresEvaluationStore.merge_telemetry at hmerge
  split_ifs at hmerge with hstorable
  rw [Dict.get?_set_self] at hmerge
  rw [← Except.ok.inj hmerge] at hread
  unfold PostgresEvaluationStore.read at hread
  rw [Dict.get?_set_self, Option.bind_some] at hread
  obtain ⟨telemetry, hvalid, -⟩ := Option.map_eq_some_iff.mp hread
  have hvalid : AttemptTelemetry.model_validate pydantic (Dict.empty.union record.telemetry_patch) = some telemetry :=
    hvalid
  exact ⟨additive_of_reads (AttemptTelemetry.model_validate_eq_some.mp hvalid), hstorable⟩

variable {φ : Type}

/-- **What every record of a file's scan is merged into is valid, and the same in both stores.** -/
def ImportsValid (python : Python φ) (pydantic : Pydantic) (file : List Char) : Prop :=
  ∀ record, scan_file python file = .ok (some record) → Imports pydantic record

/-- The sum of a count over the turns of a session. -/
def sum_of (session : List Turn) (key : String) : ℕ :=
  (session.map fun turn => turn.tokens.getD (USAGE_KEYS.idxOf key) 0).sum

/-- **The sessions whose sums are a reported usage**, and whose texts and counts can be stored. -/
structure Importable (session : List Turn) : Prop where
  prompt : sum_of session "prompt_tokens" = sum_of session "cache_hit_tokens" + sum_of session "cache_miss_tokens"
  total : sum_of session "total_tokens" = sum_of session "prompt_tokens" + sum_of session "completion_tokens"
  reasoning : sum_of session "reasoning_tokens" ≤ sum_of session "completion_tokens"
  text : ∀ turn ∈ session, storable_text turn.price.1 = true
  turns : writable session.length = true
  tokens : ∀ key ∈ USAGE_KEYS, writable (sum_of session key) = true

theorem sum_of_tokens {record : SpoolUsageRecord} {session : List Turn} (h : Reports session record) :
    record.tokens = USAGE_KEYS.map (sum_of session) := by
  have hindex : USAGE_KEYS.map (fun key => USAGE_KEYS.idxOf key) = [0, 1, 2, 3, 4, 5] := by decide
  have hsums : USAGE_KEYS.map (sum_of session) =
      (USAGE_KEYS.map fun key => USAGE_KEYS.idxOf key).map fun i => record.tokens.getD i 0 := by
    rw [List.map_map]
    exact List.map_congr_left fun key _ => (h.tokens _).symm
  rw [hsums, hindex]
  rfl

theorem importable_iff {record : SpoolUsageRecord} {session : List Turn} (h : Reports session record) :
    Importable session ↔ record.Additive ∧ record.Storable := by
  have htokens := sum_of_tokens h
  have hcounts := htokens
  unfold SpoolUsageRecord.tokens USAGE_KEYS at hcounts
  simp only [List.map_cons, List.map_nil, List.cons.injEq, and_true] at hcounts
  obtain ⟨hprompt, hcompletion, hreasoning, hhit, hmiss, htotal⟩ := hcounts
  have hwritable : (∀ n ∈ record.tokens, writable n = true) ↔ ∀ key ∈ USAGE_KEYS,
    writable (sum_of session key) = true := by
    rw [htokens, List.forall_mem_map]
  have htext : (∀ turn ∈ session, storable_text turn.price.1 = true) ↔
      storable_text record.price_snapshot_id.text = true := by
    constructor
    · intro hall
      obtain ⟨turn, hturn⟩ := List.exists_mem_of_ne_nil session h.nonempty
      have hprice := hall turn hturn
      rwa [(h.identity turn hturn).2.2] at hprice
    · intro hsnapshot turn hturn
      rwa [(h.identity turn hturn).2.2]
  constructor
  · rintro ⟨hp, ht, hr, hx, hn, hk⟩
    rw [← hprompt, ← hhit, ← hmiss] at hp
    rw [← htotal, ← hprompt, ← hcompletion] at ht
    rw [← hreasoning, ← hcompletion] at hr
    exact ⟨⟨hp, ht, hr⟩, htext.mp hx, h.turns ▸ hn, hwritable.mpr hk⟩
  · rintro ⟨⟨hp, ht, hr⟩, hx, hn, hk⟩
    rw [hprompt, hhit, hmiss] at hp
    rw [htotal, hprompt, hcompletion] at ht
    rw [hreasoning, hcompletion] at hr
    exact ⟨hp, ht, hr, htext.mpr hx, h.turns ▸ hn, hwritable.mp hk⟩

/-- **A scanned file is imported validly exactly if the sums over its turns are a reported usage that can be stored.** -/
theorem imports_valid_iff (python : Python φ) (pydantic : Pydantic) (file : List Char) :
    ImportsValid python pydantic file ↔
      ((∃ record, scan_file python file = .ok (some record)) → Importable (turns_in python (lines_in file))) := by
  have hband {record : SpoolUsageRecord} (h : Reports (turns_in python (lines_in file)) record) :
      record.price_band ∈ ["peak", "off_peak"] := by
    obtain ⟨turn, hturn⟩ := List.exists_mem_of_ne_nil _ h.nonempty
    have hprice := (priced_turns hturn).2
    rwa [(h.identity turn hturn).2.2] at hprice
  constructor
  · rintro hvalid ⟨record, hrecord⟩
    have hreports := (scan_file_some hrecord).2
    obtain ⟨hadditive, hstorable⟩ := additive_of_imports (hvalid record hrecord)
    exact (importable_iff hreports).mpr ⟨hadditive, (storable_patch hreports (hband hreports)).mp hstorable⟩
  · intro himportable record hrecord
    have hreports := (scan_file_some hrecord).2
    obtain ⟨hadditive, hstorable⟩ := (importable_iff hreports).mp (himportable ⟨record, hrecord⟩)
    exact imports_of_additive hreports (hband hreports) hadditive hstorable

/-! ## A prompt that is neither hit nor miss -/

/-- A reader of short lines and of one timestamp. -/
def clockPython : Python Unit := { shortPython with
  uuid := UUID.parse
  fromisoformat text := if text = "2026-07-01T00:00:00+00:00" then some (1782864000000000, some 0) else none }

/-- A validator that converts no value to another type. -/
def strictPydantic : Pydantic where
  int
    | .int n => some n
    | _ => none
  float
    | .float q => some q
    | _ => none
  decimal
    | .str text => (Numeral.read (fun _ => none) text).map Numeral.decimal
    | _ => none
  unicode _ := none
  int_int _ := rfl
  float_float _ := rfl
  decimal_str text negative c e h := by
    dsimp only
    rw [h]
    rfl

/-- A model turn with one prompt token, of which nothing is said to be cached or missed. -/
def unbalancedLine : List Char :=
  (JsonValue.obj [("sequence", .int 1), ("event_type", .str "model_turn"),
    ("attempt_id", .str "00000000-0000-0000-0000-000000000001"), ("task_id", .str "task-1"), ("mode", .str "c"),
    ("experiment_id", .str "experiment-1"), ("recorded_at", .str "2026-07-01T00:00:00+00:00"),
    ("payload", .obj [("usage", .obj (USAGE_KEYS.map fun key =>
        (key, .int (if key = "prompt_tokens" ∨ key = "total_tokens" then 1 else 0)))),
      ("cost", .obj [("amount", .str "0"), ("price_snapshot_id", .str "snapshot-1"), ("price_band", .str "peak")])])] :
      JsonValue Unit).dumps FloatText.half 1

theorem unbalanced_not_imported : ¬ ImportsValid clockPython strictPydantic unbalancedLine := by
  intro h
  have hscan : ((scan_file clockPython unbalancedLine).toOption.bind id).any (fun record =>
      decide (record.prompt_tokens ≠ record.cache_hit_tokens + record.cache_miss_tokens)) = true := by decide +kernel
  cases hresult : scan_file clockPython unbalancedLine with
  | error e =>
    rw [hresult] at hscan
    cases hscan
  | ok result =>
    rw [hresult] at hscan
    cases result with
    | none => cases hscan
    | some record =>
      change decide _ = true at hscan
      rw [decide_eq_true_eq] at hscan
      exact hscan (additive_of_imports (h record hresult)).1.prompt

end CommerceAgent.Evaluation
