import CommerceAgent.Evaluation.Telemetry
import CommerceAgent.Lib.Nearest

/-!
# Recorded sessions

`SpoolTraceGateway`: what it appends for the model turns of many attempts, and what the scan
and the import of an attempt's file make of it.
-/

open CommerceAgent.Lib
open CommerceAgent.Operations (UUID Text HexDigest)
open CommerceAgent.Orchestration (RunScope FinishReason Library scope_digest)
open CommerceAgent.Model (Usage)

namespace CommerceAgent.Evaluation

/-! ## Recording -/

def finish_text : FinishReason → String
  | .stop => "stop"
  | .tool_calls => "tool_calls"
  | .length => "length"
  | .content_filter => "content_filter"
  | .insufficient_system_resource => "insufficient_system_resource"

/-- What `_record` reads of a request, of its response and of the clock. -/
structure ModelTurn where
  run_scope : RunScope
  attempt_id : UUID
  sequence : ℕ
  actual_model : String
  finish_reason : FinishReason
  usage : Usage
  cost : Cost
  recorded_at : Instant

variable {φ : Type}

/-- `response.usage.model_dump(mode="json")`. -/
def usage_fields : Usage → Fields φ
  | .reported usage => [("status", .str "reported"), ("prompt_tokens", .int usage.prompt_tokens),
      ("cache_hit_tokens", .int usage.cache_hit_tokens), ("cache_miss_tokens", .int usage.cache_miss_tokens),
      ("completion_tokens", .int usage.completion_tokens), ("reasoning_tokens", .int usage.reasoning_tokens),
      ("total_tokens", .int usage.total_tokens)]
  | .unavailable reason_code => [("status", .str "unavailable"), ("reason_code", .str reason_code)]

/-- `response.cost.model_dump(mode="json")`. -/
def cost_fields : Cost → Fields φ
  | .estimated cost => [("status", .str "estimated"), ("price_snapshot_id", .str cost.price_snapshot_id.text),
      ("currency", .str "USD"), ("amount", .str cost.amount.decimal.text), ("price_band", .str cost.price_band.value)]
  | .unavailable reason_code => [("status", .str "unavailable"), ("reason_code", .str reason_code.text)]

/-- The functions that `_record` calls. -/
structure Recorder where
  library : Library
  /-- `datetime.isoformat()`, of an aware time. -/
  isoformat : Instant → String

def payload_fields (turn : ModelTurn) : Fields φ :=
  [("actual_model", .str turn.actual_model), ("finish_reason", .str (finish_text turn.finish_reason)),
    ("usage", .obj (usage_fields turn.usage)), ("cost", .obj (cost_fields turn.cost))]

def event_fields (recorder : Recorder) (turn : ModelTurn) : Fields φ :=
  [("run_scope_digest", .str (scope_digest recorder.library turn.run_scope).text),
    ("attempt_id", .str turn.attempt_id.text), ("phase", .str "attempt"), ("sequence", .int turn.sequence),
    ("event_type", .str "model_turn"), ("task_id", .str turn.run_scope.subject_id.text),
    ("mode", .str turn.run_scope.mode.value), ("experiment_id", .str turn.run_scope.experiment_id.text),
    ("recorded_at", .str (recorder.isoformat turn.recorded_at)), ("payload", .obj (payload_fields turn))]

def EVENT_KEYS : List String :=
  ["run_scope_digest", "attempt_id", "phase", "sequence", "event_type", "task_id", "mode", "experiment_id",
    "recorded_at",
    "payload"]

theorem usage_keys (usage : Usage) : ((usage_fields usage : Fields φ).map Prod.fst).Nodup := by
  cases usage with
  | reported usage =>
    exact (by decide : ["status", "prompt_tokens", "cache_hit_tokens", "cache_miss_tokens", "completion_tokens",
      "reasoning_tokens", "total_tokens"].Nodup)
  | unavailable reason_code => exact (by decide : ["status", "reason_code"].Nodup)

theorem cost_keys (cost : Cost) : ((cost_fields cost : Fields φ).map Prod.fst).Nodup := by
  cases cost with
  | estimated cost =>
    exact (by decide : ["status", "price_snapshot_id", "currency", "amount", "price_band"].Nodup)
  | unavailable reason_code => exact (by decide : ["status", "reason_code"].Nodup)

theorem usage_distinct (usage : Usage) : (JsonValue.obj (usage_fields usage) : JsonValue φ).Distinct := by
  refine ⟨usage_keys usage, JsonValue.distinctFields_iff.mpr ?_⟩
  cases usage <;> simp [usage_fields, JsonValue.Distinct]

theorem cost_distinct (cost : Cost) : (JsonValue.obj (cost_fields cost) : JsonValue φ).Distinct := by
  refine ⟨cost_keys cost, JsonValue.distinctFields_iff.mpr ?_⟩
  cases cost <;> simp [cost_fields, JsonValue.Distinct]

theorem payload_distinct (turn : ModelTurn) : (JsonValue.obj (payload_fields turn) : JsonValue φ).Distinct := by
  refine ⟨(by decide : ["actual_model", "finish_reason", "usage", "cost"].Nodup), ?_⟩
  exact ⟨trivial, trivial, usage_distinct turn.usage, cost_distinct turn.cost, trivial⟩

theorem event_distinct (recorder : Recorder) (turn : ModelTurn) :
    (JsonValue.obj (event_fields recorder turn) : JsonValue φ).Distinct :=
  ⟨(by decide : EVENT_KEYS.Nodup), trivial, trivial, trivial, trivial, trivial, trivial, trivial, trivial, trivial,
    payload_distinct turn, trivial⟩

/-- The event of a model turn. -/
def event (recorder : Recorder) (turn : ModelTurn) :
    Event φ := ⟨event_fields recorder turn, event_distinct recorder turn⟩

/-! ## The gateway -/

/-- The spool files, by the attempts that they are named after. -/
abbrev SpoolDir := Dict UUID (List UInt8)

namespace SpoolTraceGateway

/-- `SpoolWriter(path)`. -/
def writer : SpoolWriter := ⟨DEFAULT_MAX_BYTES, by decide⟩

variable (floats : FloatText φ) (recorder : Recorder)

/-- `_record`. The writer makes the file, also where it does not write. -/
def record (spool : SpoolDir) (turn : ModelTurn) : Except SpoolError Unit × SpoolDir :=
  let file := (spool.get? turn.attempt_id).getD []
  match writer.append floats file (event recorder turn) with
  | .error e => (.error e, spool.set turn.attempt_id file)
  | .ok file => (.ok (), spool.set turn.attempt_id file)

/-- The turns of all attempts in their order: the files behind them, and the turns that were recorded without an
error. -/
def run (spool : SpoolDir) : List ModelTurn → SpoolDir × List ModelTurn
  | [] => (spool, [])
  | turn :: turns =>
    let recorded := record floats recorder spool turn
    let rest := run recorded.2 turns
    (rest.1, if recorded.1.isOk then turn :: rest.2 else rest.2)

end SpoolTraceGateway

/-- The turns of one attempt. -/
def session_of (turns : List ModelTurn) (attempt_id : UUID) : List ModelTurn :=
  turns.filter fun turn => turn.attempt_id = attempt_id

/-- What is written for the turns of a session. -/
def session_lines (floats : FloatText φ) (recorder : Recorder) (session : List ModelTurn) : List Char :=
  lines_of floats (session.map (event recorder))

section Files

variable (floats : FloatText φ) (recorder : Recorder)

/-- The bytes of an attempt's file, empty where it is not there. -/
def file_of (spool : SpoolDir) (attempt_id : UUID) : List UInt8 := (spool.get? attempt_id).getD []

theorem file_of_set (spool : SpoolDir) (attempt_id other : UUID) (file : List UInt8) :
    file_of (spool.set attempt_id file) other = if other = attempt_id then file else file_of spool other := by
  unfold file_of
  by_cases hsame : other = attempt_id
  · rw [if_pos hsame, hsame, Dict.get?_set_self, Option.getD_some]
  · rw [if_neg hsame, Dict.get?_set_of_ne hsame]

theorem record_cases (spool : SpoolDir) (turn : ModelTurn) :
    (∃ e, SpoolTraceGateway.record floats recorder spool turn =
      (.error e, spool.set turn.attempt_id (file_of spool turn.attempt_id))) ∨
    SpoolTraceGateway.record floats recorder spool turn = (.ok (), spool.set turn.attempt_id
      (file_of spool turn.attempt_id ++ utf8 (String.ofList ((event recorder turn).line floats)))) := by
  unfold SpoolTraceGateway.record SpoolWriter.append file_of
  dsimp only
  split_ifs with hcap
  · exact Or.inl ⟨_, rfl⟩
  · exact Or.inr rfl

variable {spool after : SpoolDir} {turn : ModelTurn}

theorem run_refused {e : SpoolError} (h : SpoolTraceGateway.record floats recorder spool turn = (.error e, after))
    (turns : List ModelTurn) : SpoolTraceGateway.run floats recorder spool (turn :: turns) =
      SpoolTraceGateway.run floats recorder after turns := by
  change ((SpoolTraceGateway.run floats recorder (SpoolTraceGateway.record floats recorder spool turn).2 turns).1,
    if (SpoolTraceGateway.record floats recorder spool turn).1.isOk then _ else _) = _
  rw [h]
  rfl

theorem run_recorded (h : SpoolTraceGateway.record floats recorder spool turn = (.ok (), after))
    (turns : List ModelTurn) : SpoolTraceGateway.run floats recorder spool (turn :: turns) =
      ((SpoolTraceGateway.run floats recorder after turns).1,
        turn :: (SpoolTraceGateway.run floats recorder after turns).2) := by
  change ((SpoolTraceGateway.run floats recorder (SpoolTraceGateway.record floats recorder spool turn).2 turns).1,
    if (SpoolTraceGateway.record floats recorder spool turn).1.isOk then _ else _) = _
  rw [h]
  rfl

theorem session_of_cons (turn : ModelTurn) (turns : List ModelTurn) (attempt_id : UUID) :
    session_of (turn :: turns) attempt_id =
      if attempt_id = turn.attempt_id then turn :: session_of turns attempt_id else session_of turns attempt_id := by
  unfold session_of
  by_cases hsame : attempt_id = turn.attempt_id
  · rw [if_pos hsame, List.filter_cons_of_pos (by simp [hsame])]
  · rw [if_neg hsame, List.filter_cons_of_neg (by simpa using Ne.symm hsame)]

theorem utf8_nil : utf8 (String.ofList []) = [] := by simp [utf8]

/-- **Each file has the lines of its own attempt's recorded turns, in their order.** -/
theorem run_files (turns : List ModelTurn) (spool : SpoolDir) (attempt_id : UUID) :
    file_of (SpoolTraceGateway.run floats recorder spool turns).1 attempt_id = file_of spool attempt_id ++
      utf8 (String.ofList (session_lines floats recorder
        (session_of (SpoolTraceGateway.run floats recorder spool turns).2 attempt_id))) := by
  induction turns generalizing spool with
  | nil =>
    change file_of spool attempt_id = file_of spool attempt_id ++ utf8 (String.ofList [])
    rw [utf8_nil, List.append_nil]
  | cons turn turns ih =>
    rcases record_cases floats recorder spool turn with ⟨e, hrecord⟩ | hrecord
    · rw [run_refused floats recorder hrecord, ih, file_of_set]
      by_cases hsame : attempt_id = turn.attempt_id
      · rw [if_pos hsame, hsame]
      · rw [if_neg hsame]
    · rw [run_recorded floats recorder hrecord]
      dsimp only
      rw [ih, file_of_set, session_of_cons]
      by_cases hsame : attempt_id = turn.attempt_id
      · rw [if_pos hsame, if_pos hsame, hsame, List.append_assoc, ← utf8_append]
        rfl
      · rw [if_neg hsame, if_neg hsame]

theorem run_kept (turns : List ModelTurn) (spool : SpoolDir) :
    (SpoolTraceGateway.run floats recorder spool turns).2.Sublist turns := by
  induction turns generalizing spool with
  | nil => exact List.Sublist.refl []
  | cons turn turns ih =>
    rcases record_cases floats recorder spool turn with ⟨e, hrecord⟩ | hrecord
    · rw [run_refused floats recorder hrecord]
      exact (ih _).cons turn
    · rw [run_recorded floats recorder hrecord]
      exact (ih _).cons_cons turn

theorem mem_keys_set {spool : SpoolDir} {attempt_id other : UUID} {file : List UInt8} :
    other ∈ (spool.set attempt_id file).keys ↔ other ∈ spool.keys ∨ other = attempt_id := by
  simp only [Dict.mem_keys, Dict.get?_set]
  by_cases hsame : other = attempt_id
  · simp [hsame]
  · simp [hsame]

theorem run_keys (turns : List ModelTurn) (spool : SpoolDir) (attempt_id : UUID) :
    attempt_id ∈ (SpoolTraceGateway.run floats recorder spool turns).1.keys ↔
      attempt_id ∈ spool.keys ∨ ∃ turn ∈ turns, turn.attempt_id = attempt_id := by
  induction turns generalizing spool with
  | nil => simp [SpoolTraceGateway.run]
  | cons turn turns ih =>
    have hstep : attempt_id ∈ (SpoolTraceGateway.run floats recorder spool (turn :: turns)).1.keys ↔
        (attempt_id ∈ spool.keys ∨ attempt_id = turn.attempt_id) ∨ ∃ turn ∈ turns, turn.attempt_id = attempt_id := by
      rcases record_cases floats recorder spool turn with ⟨e, hrecord⟩ | hrecord
      · rw [run_refused floats recorder hrecord, ih, mem_keys_set]
      · rw [run_recorded floats recorder hrecord]
        dsimp only
        rw [ih, mem_keys_set]
    rw [hstep, List.exists_mem_cons_iff, or_assoc, eq_comm (a := attempt_id)]

end Files

/-! ## Reading a turn back -/

/-- The turn that the line of a model turn tells, where its usage and its cost are there. -/
def ModelTurn.told (turn : ModelTurn) : Option Turn :=
  match turn.usage, turn.cost with
  | .reported usage, .estimated cost => some {
      attempt_id := turn.attempt_id
      stamp := ⟨turn.run_scope.subject_id.text, turn.run_scope.mode.value, turn.run_scope.experiment_id.text⟩
      tokens := [usage.prompt_tokens, usage.completion_tokens, usage.reasoning_tokens, usage.cache_hit_tokens,
        usage.cache_miss_tokens, usage.total_tokens]
      amount := .finite cost.amount.negative cost.amount.coefficient cost.amount.exponent
      price := (cost.price_snapshot_id.text, cost.price_band.value)
      recorded_at := turn.recorded_at }
  | _, _ => none

/-- What Python reads of what it has written for some turns. -/
structure ReadsBack (floats : FloatText φ) (recorder : Recorder) (python : Python φ) (turns : List ModelTurn) :
    Prop where
  loads : ∀ turn ∈ turns, python.loads ((event recorder turn).value.dumps floats 1) =
    .value (event recorder turn).value.sortKeys
  too_deep : ∀ turn ∈ turns, python.too_deep (event recorder turn).value.sortKeys = false
  uuid : ∀ attempt_id : UUID, python.uuid attempt_id.text = some attempt_id
  isoformat : ∀ turn ∈ turns, recorder.isoformat turn.recorded_at ≠ ""
  fromisoformat : ∀ turn ∈ turns, ∃ at_offset offset, python.fromisoformat (recorder.isoformat turn.recorded_at) =
    some (at_offset, some offset) ∧ at_offset - offset = turn.recorded_at

section Reading

/-- The fields of an object, as they are written and read. -/
def sorted_fields (fields : Fields φ) : Fields φ := (JsonValue.sortFields fields).insertionSort JsonValue.key_le

variable {fields : Fields φ} {key : String} {python : Python φ}

theorem dict_sorted (hnodup : (fields.map Prod.fst).Nodup) {kvs : Fields φ} (h : fields.lookup key = some (.obj kvs)) :
    dict (sorted_fields fields) key = some (sorted_fields kvs) := by
  unfold dict sorted_fields
  rw [JsonValue.lookup_sorted hnodup, h]
  rfl

theorem all_isSome_sorted (hnodup : (fields.map Prod.fst).Nodup) (keys : List String) :
    (keys.all fun key => ((sorted_fields fields).lookup key).isSome) = keys.all fun key =>
      (fields.lookup key).isSome := by
  have hkey (key : String) : ((sorted_fields fields).lookup key).isSome = (fields.lookup key).isSome := by
    unfold sorted_fields
    rw [JsonValue.lookup_sorted hnodup, Option.isSome_map]
  rw [funext hkey]

theorem tokens_at_sorted (hnodup : (fields.map Prod.fst).Nodup) (key : String) :
    tokens_at (sorted_fields fields) key = tokens_at fields key := by
  unfold tokens_at sorted_fields
  rw [JsonValue.lookup_sorted hnodup]
  cases fields.lookup key with
  | none => rfl
  | some v => cases v <;> rfl

theorem tokens_of_sorted (hnodup : (fields.map Prod.fst).Nodup) :
    tokens_of (sorted_fields fields) = tokens_of fields := by
  unfold tokens_of
  rw [funext (tokens_at_sorted hnodup)]

theorem amount_of_sorted (hnodup : (fields.map Prod.fst).Nodup) :
    amount_of python (sorted_fields fields) = amount_of python fields := by
  unfold amount_of sorted_fields
  rw [JsonValue.lookup_sorted hnodup]
  cases fields.lookup "amount" with
  | none => rfl
  | some v => cases v <;> rfl

theorem price_of_sorted (hnodup : (fields.map Prod.fst).Nodup) : price_of (sorted_fields fields) = price_of fields := by
  unfold price_of sorted_fields
  rw [JsonValue.lookup_sorted hnodup, JsonValue.lookup_sorted hnodup]
  cases fields.lookup "price_snapshot_id" with
  | none => rfl
  | some v =>
    cases fields.lookup "price_band" with
    | none => cases v <;> rfl
    | some w => cases v <;> cases w <;> rfl

theorem reject_sorted (fields : Fields φ) : reject_fields (sorted_fields fields) = reject_fields fields := by
  have hiff : reject_forbidden_keys (JsonValue.obj fields).sortKeys = true ↔
      reject_forbidden_keys (JsonValue.obj fields) = true := by
    rw [reject_forbidden_keys_iff, reject_forbidden_keys_iff]
    simp only [JsonValue.mem_strings_sortKeys]
  exact Bool.eq_iff_iff.mpr hiff

variable {recorder : Recorder} {turn : ModelTurn}

theorem event_keys (recorder : Recorder) (turn : ModelTurn) :
    ((event_fields recorder turn : Fields φ).map Prod.fst).Nodup := (by decide : EVENT_KEYS.Nodup)

theorem payload_keys (turn : ModelTurn) : ((payload_fields turn : Fields φ).map Prod.fst).Nodup :=
  (by decide : ["actual_model", "finish_reason", "usage", "cost"].Nodup)

theorem payload_read (recorder : Recorder) (turn : ModelTurn) :
    dict (sorted_fields (event_fields recorder turn) : Fields φ) "payload" = some
      (sorted_fields (payload_fields turn)) :=
  dict_sorted (event_keys recorder turn) rfl

theorem payload_usage (turn : ModelTurn) :
    (payload_fields turn : Fields φ).lookup "usage" = some (.obj (usage_fields turn.usage)) := rfl

theorem payload_cost (turn : ModelTurn) :
    (payload_fields turn : Fields φ).lookup "cost" = some (.obj (cost_fields turn.cost)) := rfl

theorem usage_read (recorder : Recorder) (turn : ModelTurn) :
    usage_of (sorted_fields (event_fields recorder turn) : Fields φ) = sorted_fields (usage_fields turn.usage) := by
  unfold usage_of
  rw [payload_read, Option.bind_some, dict_sorted (payload_keys turn) (payload_usage turn)]
  rfl

theorem cost_read (recorder : Recorder) (turn : ModelTurn) :
    cost_of (sorted_fields (event_fields recorder turn) : Fields φ) = sorted_fields (cost_fields turn.cost) := by
  unfold cost_of
  rw [payload_read, Option.bind_some, dict_sorted (payload_keys turn) (payload_cost turn)]
  rfl

theorem stamp_read (recorder : Recorder) (turn : ModelTurn) :
    stamp_of python (sorted_fields (event_fields recorder turn)) =
      ⟨turn.run_scope.subject_id.text, turn.run_scope.mode.value, turn.run_scope.experiment_id.text⟩ := by
  have htext {key text : String} (h : (event_fields recorder turn : Fields φ).lookup key = some (.str text)) :
      python.str.str (((sorted_fields (event_fields recorder turn)).lookup key).getD .null) = text := by
    unfold sorted_fields
    rw [JsonValue.lookup_sorted (event_keys recorder turn), h]
    exact python.str.str_str text
  exact congr (congrArg₂ Stamp.mk (htext rfl) (htext rfl)) (htext rfl)

theorem sequence_read (recorder : Recorder) (turn : ModelTurn) :
    sequence_of (sorted_fields (event_fields recorder turn) : Fields φ) = some (turn.sequence : ℤ) := by
  unfold sequence_of sorted_fields
  rw [JsonValue.lookup_sorted (event_keys recorder turn)]
  rfl

theorem event_type_read (recorder : Recorder) (turn : ModelTurn) :
    (sorted_fields (event_fields recorder turn) : Fields φ).lookup "event_type" = some (.str "model_turn") := by
  unfold sorted_fields
  rw [JsonValue.lookup_sorted (event_keys recorder turn)]
  rfl

theorem event_clean (recorder : Recorder) (turn : ModelTurn) :
    reject_fields (sorted_fields (event_fields recorder turn) : Fields φ) = false := by
  rw [reject_sorted]
  unfold event_fields payload_fields
  cases turn.usage <;> cases turn.cost <;> rfl

theorem band_known (band : PriceBand) : band.value ∈ ["peak", "off_peak"] := by cases band <;> decide

theorem amount_read (python : Python φ) (amount : Amount) : Numeral.read python.unicode amount.decimal.text =
    some (.finite amount.negative amount.coefficient amount.exponent) :=
  Numeral.read_text _ python.unicode amount.limits

theorem turn_read {floats : FloatText φ} {turns : List ModelTurn} (hreads : ReadsBack floats recorder python turns)
    (hturn : turn ∈ turns) : turn_of python (sorted_fields (event_fields recorder turn)) = turn.told := by
  obtain ⟨at_offset, offset, hiso, hutc⟩ := hreads.fromisoformat turn hturn
  have htime : parse_timestamp python ((sorted_fields (event_fields recorder turn) : Fields φ).lookup "recorded_at") =
      some turn.recorded_at := by
    unfold sorted_fields
    rw [JsonValue.lookup_sorted (event_keys recorder turn)]
    change parse_timestamp python (some (.str (recorder.isoformat turn.recorded_at))) = _
    unfold parse_timestamp
    dsimp only
    rw [if_neg (hreads.isoformat turn hturn), hiso, ← hutc]
    rfl
  have hattempt : attempt_of python (sorted_fields (event_fields recorder turn)) = some turn.attempt_id := by
    unfold attempt_of sorted_fields
    rw [JsonValue.lookup_sorted (event_keys recorder turn)]
    exact hreads.uuid turn.attempt_id
  unfold turn_of ModelTurn.told
  rw [hattempt, usage_read, cost_read, stamp_read, htime, tokens_of_sorted (usage_keys turn.usage),
    amount_of_sorted (cost_keys turn.cost), price_of_sorted (cost_keys turn.cost)]
  cases turn.usage with
  | unavailable reason_code => rfl
  | reported usage =>
    cases turn.cost with
    | unavailable reason_code => rfl
    | estimated cost =>
      have hamount : amount_of python (cost_fields (.estimated cost)) =
        some (.finite cost.amount.negative cost.amount.coefficient cost.amount.exponent) :=
          amount_read python cost.amount
      have hprice : price_of (cost_fields (.estimated cost) : Fields φ) =
          some (cost.price_snapshot_id.text, cost.price_band.value) := by
        change (if cost.price_snapshot_id.text = "" ∨ cost.price_band.value ∉ ["peak", "off_peak"] then none
          else some (cost.price_snapshot_id.text, cost.price_band.value)) = _
        refine if_neg (not_or.mpr ⟨fun hempty => ?_, not_not.mpr ?_⟩)
        · have hpasses := cost.price_snapshot_id.passes
          rw [hempty] at hpasses
          cases hpasses
        · exact band_known cost.price_band
      rw [hamount, hprice]
      rfl

theorem usable_read (python : Python φ) (recorder : Recorder) (turn : ModelTurn) :
    usable_turn python (sorted_fields (event_fields recorder turn)) = turn.told.isSome := by
  unfold usable_turn
  rw [all_isSome_sorted (event_keys recorder turn), payload_read]
  dsimp only
  rw [dict_sorted (payload_keys turn) (payload_usage turn), dict_sorted (payload_keys turn) (payload_cost turn)]
  dsimp only
  rw [all_isSome_sorted (usage_keys turn.usage), amount_of_sorted (cost_keys turn.cost)]
  unfold ModelTurn.told
  cases turn.usage with
  | unavailable reason_code => rfl
  | reported usage =>
    cases turn.cost with
    | unavailable reason_code => rfl
    | estimated cost =>
      have hamount : amount_of python (cost_fields (.estimated cost)) =
        some (.finite cost.amount.negative cost.amount.coefficient cost.amount.exponent) :=
          amount_read python cost.amount
      rw [hamount]
      rfl

end Reading

/-! ## The scan of a session -/

/-- A session that can be billed: usage and cost at each turn, of one task and of one price. -/
structure Consistent (session : List ModelTurn) : Prop where
  told : ∀ turn ∈ session, turn.told.isSome
  same : (session.filterMap ModelTurn.told).Pairwise fun a b => a.stamp = b.stamp ∧ a.price = b.price

theorem consistent_iff {session : List ModelTurn} : Consistent session ↔ (∀ turn ∈ session, turn.told.isSome) ∧
    (session.filterMap ModelTurn.told).Pairwise fun a b => a.stamp = b.stamp ∧ a.price = b.price :=
  ⟨fun h => ⟨h.told, h.same⟩, fun h => ⟨h.1, h.2⟩⟩

instance (session : List ModelTurn) : Decidable (Consistent session) := decidable_of_iff _ consistent_iff.symm

theorem consistent_nil : Consistent [] := ⟨fun _ h => absurd h List.not_mem_nil, List.Pairwise.nil⟩

theorem consistent_concat {session : List ModelTurn} {turn : ModelTurn} : Consistent (session ++ [turn]) ↔
    Consistent session ∧ ∃ t, turn.told = some t ∧
      ∀ earlier ∈ session.filterMap ModelTurn.told, earlier.stamp = t.stamp ∧ earlier.price = t.price := by
  rw [consistent_iff, consistent_iff, List.filterMap_append, List.pairwise_append]
  constructor
  · rintro ⟨htold, hfront, -, hcross⟩
    obtain ⟨t, ht⟩ := Option.isSome_iff_exists.mp (htold turn (List.mem_append_right _ List.mem_cons_self))
    refine ⟨⟨fun other hother => htold other (List.mem_append_left _ hother), hfront⟩, t, ht, ?_⟩
    intro earlier hearlier
    exact hcross earlier hearlier t (List.mem_filterMap.mpr ⟨turn, List.mem_cons_self, ht⟩)
  · rintro ⟨⟨htold, hfront⟩, t, ht, hsame⟩
    have hlast : [turn].filterMap ModelTurn.told = [t] := by rw [List.filterMap_cons, ht, List.filterMap_nil]
    rw [hlast]
    refine ⟨List.forall_mem_append.mpr ⟨htold, List.forall_mem_singleton.mpr (by rw [ht]; rfl)⟩, hfront,
      List.pairwise_singleton _ _, fun earlier hearlier u hu => ?_⟩
    rw [List.mem_singleton.mp hu]
    exact hsame earlier hearlier

/-- The amounts of few enough turns are small enough to be added. -/
structure Affordable (turns : List ModelTurn) : Prop where
  length : turns.length < 10 ^ 28
  amount : ∀ turn ∈ turns, ∀ t ∈ turn.told, t.amount.value ≤ 10 ^ Decimal.ETOP

section Session

variable {floats : FloatText φ} {recorder : Recorder} {python : Python φ} {turns : List ModelTurn}

theorem event_at_line (hreads : ReadsBack floats recorder python turns) {turn : ModelTurn} (hturn : turn ∈ turns) :
    event_at python ((event recorder turn).value.dumps floats 1) = sorted_fields (event_fields recorder turn) :=
  event_at_of_object (hreads.loads turn hturn)

theorem typed_line (hreads : ReadsBack floats recorder python turns) {turn : ModelTurn} (hturn : turn ∈ turns) :
    is_model_turn (event_at python ((event recorder turn).value.dumps floats 1)) = true := by
  unfold is_model_turn
  rw [event_at_line hreads hturn, event_type_read]
  rfl

def turn_lines (floats : FloatText φ) (recorder : Recorder) (session : List ModelTurn) : List (List Char) :=
  session.map fun turn => (event recorder turn).value.dumps floats 1

theorem sequences_lines (hreads : ReadsBack floats recorder python turns) {session : List ModelTurn}
    (hsession : session ⊆ turns) :
    sequences python (turn_lines floats recorder session) = session.map fun turn => (turn.sequence : ℤ) := by
  induction session with
  | nil => rfl
  | cons turn session ih =>
    obtain ⟨hturn, hrest⟩ := List.cons_subset.mp hsession
    have htail := ih hrest
    unfold sequences turn_lines at htail ⊢
    rw [List.map_cons, List.filterMap_cons, event_at_line hreads hturn, sequence_read, htail]
    rfl

theorem turns_in_lines (hreads : ReadsBack floats recorder python turns) {session : List ModelTurn}
    (hsession : session ⊆ turns) :
    turns_in python (turn_lines floats recorder session) = session.filterMap ModelTurn.told := by
  induction session with
  | nil => rfl
  | cons turn session ih =>
    obtain ⟨hturn, hrest⟩ := List.cons_subset.mp hsession
    have htail := ih hrest
    unfold turns_in turn_lines at htail ⊢
    rw [List.map_cons, List.filterMap_cons, List.filterMap_cons, typed_line hreads hturn, if_pos rfl,
      event_at_line hreads hturn, turn_read hreads hturn, htail]

theorem told_attempt {turn : ModelTurn} {t : Turn} (h : turn.told = some t) : t.attempt_id = turn.attempt_id := by
  unfold ModelTurn.told at h
  split at h
  · rw [← Option.some.inj h]
  · cases h

theorem told_amount {turn : ModelTurn} {t : Turn} (h : turn.told = some t) :
    t.amount.isFinite = true ∧ 0 ≤ t.amount.value := by
  unfold ModelTurn.told at h
  split at h
  case h_1 usage cost _ _ =>
    rw [← Option.some.inj h]
    exact ⟨rfl, (num_nonneg_iff _).mp cost.amount.nonneg⟩
  case h_2 => cases h

theorem valid_amount {terms : List Numeral} {a : Numeral} (h : a.isFinite = true) : ¬ Numeral.Invalid terms a := by
  cases a with
  | finite negative c e => rintro (h | ⟨_, h, -⟩) <;> cases h
  | infinity => cases h
  | nan => cases h

theorem conforms_line (hreads : ReadsBack floats recorder python turns) {front : List ModelTurn} {turn : ModelTurn}
    (hfront : front ⊆ turns) (hturn : turn ∈ turns) (hattempt : ∀ earlier ∈ front, earlier.attempt_id = turn.attempt_id)
    (hrises : ∀ earlier ∈ front, earlier.sequence < turn.sequence) :
    Conforms python (turn_lines floats recorder front) ((event recorder turn).value.dumps floats 1) ↔
      ∃ t, turn.told = some t ∧
        ∀ earlier ∈ front.filterMap ModelTurn.told, earlier.stamp = t.stamp ∧ earlier.price = t.price := by
  have hevent := event_at_line hreads hturn
  have htyped := typed_line hreads hturn
  constructor
  · intro h
    obtain ⟨t, ht, hsession, -⟩ := h.turn htyped
    rw [hevent, turn_read hreads hturn] at ht
    rw [turns_in_lines hreads hfront] at hsession
    exact ⟨t, ht, fun earlier hearlier => (hsession earlier hearlier).2⟩
  · rintro ⟨t, ht, hsame⟩
    refine ⟨?_, ?_, ?_, ?_, ?_, fun _ => ?_⟩
    · rw [hevent]
      exact hreads.loads turn hturn
    · rw [hevent]
      exact event_clean recorder turn
    · refine ⟨turn.sequence, by rw [hevent]; exact sequence_read recorder turn, ?_⟩
      rw [sequences_lines hreads hfront, List.forall_mem_map]
      exact fun earlier hearlier => by exact_mod_cast hrises earlier hearlier
    · rw [hevent, usable_read, ht]
      rfl
    · rw [hevent, event_type_read]
      rfl
    · refine ⟨t, by rw [hevent, turn_read hreads hturn, ht], ?_, valid_amount (told_amount ht).1⟩
      rw [turns_in_lines hreads hfront]
      intro earlier hearlier
      obtain ⟨other, hother, htold⟩ := List.mem_filterMap.mp hearlier
      refine ⟨?_, hsame earlier hearlier⟩
      rw [told_attempt htold, told_attempt ht, hattempt other hother]

/-- The turns of one attempt in the order of their sequences. -/
structure InOrder (session : List ModelTurn) : Prop where
  attempt : session.Pairwise fun a b => a.attempt_id = b.attempt_id
  sequence : session.Pairwise fun a b => a.sequence < b.sequence

theorem inOrder_concat {session : List ModelTurn} {turn : ModelTurn} (h : InOrder (session ++ [turn])) :
    InOrder session ∧ (∀ earlier ∈ session, earlier.attempt_id = turn.attempt_id) ∧
      ∀ earlier ∈ session, earlier.sequence < turn.sequence := by
  obtain ⟨hattempt, -, hsame⟩ := List.pairwise_append.mp h.attempt
  obtain ⟨hsequence, -, hless⟩ := List.pairwise_append.mp h.sequence
  exact ⟨⟨hattempt, hsequence⟩, fun earlier hearlier => hsame earlier hearlier turn List.mem_cons_self,
    fun earlier hearlier => hless earlier hearlier turn List.mem_cons_self⟩

theorem turn_lines_concat (session : List ModelTurn) (turn : ModelTurn) :
    turn_lines floats recorder (session ++ [turn]) =
      turn_lines floats recorder session ++ [(event recorder turn).value.dumps floats 1] := List.map_append

/-- **The lines of a session have the event schema exactly if it is coherent.** -/
theorem accepted_iff (hreads : ReadsBack floats recorder python turns) {session : List ModelTurn}
    (hsession : session ⊆ turns) (horder : InOrder session) :
    FailClosed.Accepted (Conforms python) (turn_lines floats recorder session) ↔ Consistent session := by
  induction session using List.reverseRecOn with
  | nil => exact iff_of_true FailClosed.accepted_nil consistent_nil
  | append_singleton session turn ih =>
    obtain ⟨hfront, hlast⟩ := List.append_subset.mp hsession
    obtain ⟨hkept, hattempt, hrises⟩ := inOrder_concat horder
    rw [turn_lines_concat, FailClosed.accepted_concat, consistent_concat, ih hfront hkept,
      conforms_line hreads hfront (hlast List.mem_cons_self) hattempt hrises]

theorem amounts_bounded (hafford : Affordable turns) {session : List ModelTurn} (hsession : session ⊆ turns) :
    ∀ x ∈ (session.filterMap ModelTurn.told).map fun t => t.amount.value, 0 ≤ x ∧ x ≤ 10 ^ Decimal.ETOP := by
  rw [List.forall_mem_map]
  intro t ht
  obtain ⟨turn, hturn, htold⟩ := List.mem_filterMap.mp ht
  exact ⟨(told_amount htold).2, hafford.amount turn (hsession hturn) t htold⟩

theorem fits_amount (hafford : Affordable turns) {front : List ModelTurn} {turn : ModelTurn} (hfront : front ⊆ turns)
    (hturn : turn ∈ turns) (hlength : front.length + 1 ≤ turns.length) {t : Turn} (ht : turn.told = some t) :
    ¬ Numeral.Overflows ((front.filterMap ModelTurn.told).map Turn.amount) t.amount := by
  rintro ⟨-, hover⟩
  have hterms := amounts_bounded hafford hfront
  have hcount : (front.filterMap ModelTurn.told).length ≤ front.length := List.length_filterMap_le _ _
  have hall := hafford.length
  obtain ⟨hnonneg, hsum⟩ := Decimal.roundedSum_le hterms (by rw [List.length_map]; omega) (by decide) (le_refl _)
  rw [List.map_map] at hover
  have hrounded : Decimal.roundedSum ((front.filterMap ModelTurn.told).map (Numeral.value ∘ Turn.amount)) =
    Decimal.roundedSum ((front.filterMap ModelTurn.told).map fun t => t.amount.value) := rfl
  rw [hrounded, abs_of_nonneg (add_nonneg hnonneg (told_amount ht).2)] at hover
  rw [List.length_map] at hsum
  have hlast : t.amount.value ≤ 10 ^ Decimal.ETOP := hafford.amount turn hturn t ht
  have hpow : (0 : ℚ) < 10 ^ Decimal.ETOP := Decimal.zpow_ten_pos _
  have hfew : ((front.filterMap ModelTurn.told).length + 1 : ℚ) ≤ 10 ^ 28 - 1 := by
    have hnat : (front.filterMap ModelTurn.told).length + 1 ≤ 10 ^ 28 - 1 := by omega
    have hcast : (((front.filterMap ModelTurn.told).length + 1 : ℕ) : ℚ) ≤ ((10 ^ 28 - 1 : ℕ) : ℚ) :=
      Nat.cast_le.mpr hnat
    push_cast at hcast
    linarith
  have htotal : ((front.filterMap ModelTurn.told).length + 1 : ℚ) * 10 ^ Decimal.ETOP ≤
    (10 ^ 28 - 1) * 10 ^ Decimal.ETOP := mul_le_mul_of_nonneg_right hfew hpow.le
  unfold Decimal.OVERFLOW at hover
  linarith

end Session

/-! ## What is recorded of a session -/

section Recorded

variable {floats : FloatText φ} {recorder : Recorder} {python : Python φ} {turns session : List ModelTurn}

theorem quiet_lines (hreads : ReadsBack floats recorder python turns) (hafford : Affordable turns)
    (hsession : session.Sublist turns) :
    FailClosed.Quiet (Conforms python) (Escapes python) (turn_lines floats recorder session) := by
  intro front line back hsplit _ hescapes
  obtain ⟨begun, rest, rfl, rfl, hrest⟩ := List.map_eq_append_iff.mp hsplit
  obtain ⟨turn, others, rfl, rfl, rfl⟩ := List.map_eq_cons_iff.mp hrest
  have hturn : turn ∈ turns := hsession.subset (List.mem_append_right _ List.mem_cons_self)
  have hbegun : begun ⊆ turns := fun other hother => hsession.subset (List.mem_append_left _ hother)
  have hevent := event_at_line hreads hturn
  have hloads := hreads.loads turn hturn
  have hread {read : Fields φ} (h : python.loads ((event recorder turn).value.dumps floats 1) = .value (.obj read)) :
      read = sorted_fields (event_fields recorder turn) := (event_at_of_object h).symm.trans hevent
  cases hescapes with
  | loads e h =>
    rw [hloads] at h
    cases h
  | too_deep read h deep =>
    have hdeep := hreads.too_deep turn hturn
    rw [hread h] at deep
    exact absurd (deep.symm.trans hdeep) (by decide)
  | untyped read h clean rises usable untyped =>
    rw [hread h, event_type_read] at untyped
    cases untyped
  | overflow read h clean rises usable typed overflowing =>
    obtain ⟨-, htokens, amount, hamount, hover⟩ := overflowing
    rw [hread h, usable_read] at usable
    obtain ⟨t, ht⟩ := Option.isSome_iff_exists.mp usable
    have hturn_of := turn_read hreads hturn
    rw [ht] at hturn_of
    rw [hread h, (turn_of_eq_some.mp hturn_of).2.2.2.1] at hamount
    rw [← Option.some.inj hamount] at hover
    have hamounts : amounts_in python (begun.map fun turn => (event recorder turn).value.dumps floats 1) =
        (begun.filterMap ModelTurn.told).map Turn.amount := congrArg _ (turns_in_lines hreads hbegun)
    rw [hamounts] at hover
    refine fits_amount hafford hbegun hturn ?_ ht hover
    have hlength := hsession.length_le
    rw [List.length_append, List.length_cons] at hlength
    omega

theorem told_ne_nil (hconsistent : Consistent session) (h : session ≠ []) : session.filterMap ModelTurn.told ≠ [] := by
  obtain ⟨turn, hturn⟩ := List.exists_mem_of_ne_nil session h
  obtain ⟨t, ht⟩ := Option.isSome_iff_exists.mp (hconsistent.told turn hturn)
  exact List.ne_nil_of_mem (List.mem_filterMap.mpr ⟨turn, hturn, ht⟩)

theorem told_price {turn : ModelTurn} {t : Turn} (h : turn.told = some t) :
    ∃ price_snapshot_id : Text 1 128, t.price.1 = price_snapshot_id.text := by
  unfold ModelTurn.told at h
  split at h
  case h_1 usage cost _ _ =>
    rw [← Option.some.inj h]
    exact ⟨cost.price_snapshot_id, rfl⟩
  case h_2 => cases h

theorem told_band {turn : ModelTurn} {t : Turn} (h : turn.told = some t) : t.price.2 ∈ ["peak", "off_peak"] := by
  unfold ModelTurn.told at h
  split at h
  case h_1 usage cost _ _ =>
    rw [← Option.some.inj h]
    exact band_known cost.price_band
  case h_2 => cases h

theorem told_tokens {turn : ModelTurn} {t : Turn} (h : turn.told = some t) :
    t.tokens.getD 0 0 = t.tokens.getD 3 0 + t.tokens.getD 4 0 ∧
      t.tokens.getD 5 0 = t.tokens.getD 0 0 + t.tokens.getD 1 0 ∧
      t.tokens.getD 2 0 ≤ t.tokens.getD 1 0 := by
  unfold ModelTurn.told at h
  split at h
  case h_1 usage cost _ _ =>
    rw [← Option.some.inj h]
    exact ⟨usage.prompt, usage.total, usage.reasoning⟩
  case h_2 => cases h

theorem record_coherent (hafford : Affordable turns) (hsession : session.Sublist turns) (hne : session ≠ [])
    (hconsistent : Consistent session) {scan : Scan} (hscan : Gathers (session.filterMap ModelTurn.told) scan) :
    ∃ record, scan.record = .ok (some record) := by
  obtain ⟨t, ht⟩ := List.exists_mem_of_ne_nil _ (told_ne_nil hconsistent hne)
  obtain ⟨turn, -, htold⟩ := List.mem_filterMap.mp ht
  obtain ⟨price_snapshot_id, hprice⟩ := told_price htold
  have hfinite := hscan.finite fun u hu => by
    obtain ⟨other, -, hother⟩ := List.mem_filterMap.mp hu
    exact (told_amount hother).1
  have hlength := hafford.length
  have hcount := (List.length_filterMap_le ModelTurn.told session).trans hsession.length_le
  have hnonneg := (Decimal.roundedSum_le (amounts_bounded hafford hsession.subset) (by rw [List.length_map]; omega)
    (by decide) (le_refl _)).1
  rw [← (hscan.cost hfinite).2.1, ← num_nonneg_iff] at hnonneg
  rw [record_eq hscan ht, parse_eq_some.mpr hprice]
  dsimp only
  rw [if_neg (not_not.mpr ⟨hfinite, hnonneg⟩)]
  exact ⟨_, rfl⟩

/-- **The lines of a session are scanned to its record, or to none where it is not coherent.** -/
theorem scan_recorded (hreads : ReadsBack floats recorder python turns) (hafford : Affordable turns)
    (hsession : session.Sublist turns) (horder : InOrder session)
    (hunbroken : ∀ turn ∈ turns, Unbroken (event recorder turn : Event φ)) :
    (session = [] ∨ ¬ Consistent session → scan_file python (session_lines floats recorder session) = .ok none) ∧
      (session ≠ [] → Consistent session → ∃ record,
        scan_file python (session_lines floats recorder session) = .ok (some record) ∧
        Reports (session.filterMap ModelTurn.told) record) := by
  have hlines : lines_in (session_lines floats recorder session) = turn_lines floats recorder session := by
    unfold lines_in session_lines turn_lines
    rw [unbroken_lines floats, List.map_map]
    · rfl
    · rw [List.forall_mem_map]
      exact fun turn hturn => hunbroken turn (hsession.subset hturn)
  obtain ⟨haccepted, hrefused⟩ :=
    FailClosed.scan_quiet scan_line_steps scanned_nil (quiet_lines hreads hafford hsession)
  rw [accepted_iff hreads hsession.subset horder, ← hlines] at haccepted hrefused
  constructor
  · rintro (rfl | hincoherent)
    · obtain ⟨last, hscan, hlast⟩ := haccepted consistent_nil
      have hgathers := hlast.gathers
      rw [hlines, turns_in_lines hreads hsession.subset] at hgathers
      exact (scan_file_eq _ hscan).trans (record_nil hgathers)
    · exact scan_file_eq _ (hrefused hincoherent)
  · intro hne hconsistent
    obtain ⟨last, hscan, hlast⟩ := haccepted hconsistent
    have hgathers := hlast.gathers
    rw [hlines, turns_in_lines hreads hsession.subset] at hgathers
    obtain ⟨record, hrecord⟩ := record_coherent hafford hsession hne hconsistent hgathers
    have hfile : scan_file python (session_lines floats recorder session) = .ok (some record) :=
      (scan_file_eq _ hscan).trans hrecord
    exact ⟨record, hfile, record_reports hgathers hrecord⟩

theorem additive_of_told {record : SpoolUsageRecord} (h : Reports (session.filterMap ModelTurn.told) record) :
    record.Additive := by
  have hcounts : ∀ t ∈ session.filterMap ModelTurn.told, t.tokens.getD 0 0 = t.tokens.getD 3 0 + t.tokens.getD 4 0 ∧
      t.tokens.getD 5 0 = t.tokens.getD 0 0 + t.tokens.getD 1 0 ∧ t.tokens.getD 2 0 ≤ t.tokens.getD 1 0 := by
    intro t ht
    obtain ⟨turn, -, htold⟩ := List.mem_filterMap.mp ht
    exact told_tokens htold
  have htokens := h.tokens
  generalize session.filterMap ModelTurn.told = told at hcounts htokens
  refine ⟨?_, ?_, ?_⟩
  · calc record.prompt_tokens = (told.map fun t => t.tokens.getD 0 0).sum := htokens 0
      _ = (told.map fun t => t.tokens.getD 3 0 + t.tokens.getD 4 0).sum :=
        congrArg List.sum (List.map_congr_left fun t ht => (hcounts t ht).1)
      _ = _ := by
        rw [List.sum_map_add, ← htokens 3, ← htokens 4]
        rfl
  · calc record.total_tokens = (told.map fun t => t.tokens.getD 5 0).sum := htokens 5
      _ = (told.map fun t => t.tokens.getD 0 0 + t.tokens.getD 1 0).sum :=
        congrArg List.sum (List.map_congr_left fun t ht => (hcounts t ht).2.1)
      _ = _ := by
        rw [List.sum_map_add, ← htokens 0, ← htokens 1]
        rfl
  · calc record.reasoning_tokens = (told.map fun t => t.tokens.getD 2 0).sum := htokens 2
      _ ≤ (told.map fun t => t.tokens.getD 1 0).sum := List.sum_le_sum fun t ht => (hcounts t ht).2.2
      _ = record.completion_tokens := (htokens 1).symm

end Recorded

/-! ## The spool directory -/

/-- The text of a spool file, with universal newlines, where no byte of it is replaced. -/
def read_text (file : List UInt8) : Option (List Char) :=
  (ofUtf8 file).map fun text => universalNewlines text.toList

/-- `sorted(spool_dir.glob("*.jsonl"))`. -/
def in_path_order (spool : SpoolDir) : List (UUID × List UInt8) :=
  spool.items.insertionSort fun a b => a.1.text ≤ b.1.text

def read_spool_dir (spool : SpoolDir) : Option (List (List Char)) :=
  (in_path_order spool).mapM fun file => read_text file.2

/-- The session that was recorded of an attempt can be billed. -/
def billable (kept : List ModelTurn) (attempt_id : UUID) : Bool :=
  decide (session_of kept attempt_id ≠ [] ∧ Consistent (session_of kept attempt_id))

/-- What a record tells of an attempt. -/
structure Bills (pydantic : Pydantic) (kept : List ModelTurn) (attempt_id : UUID) (record : SpoolUsageRecord) :
    Prop where
  attempt : record.attempt_id = attempt_id
  reports : Reports ((session_of kept attempt_id).filterMap ModelTurn.told) record
  additive : record.Additive
  imports : record.Storable → Imports pydantic record

section Directory

theorem forall₂_filterMap {α β : Type} {p : α → Bool} {Q : α → β → Prop} {as : List α} {results : List (Option β)}
    (h : List.Forall₂ (fun a result => (p a = false ∧ result = none) ∨ (p a = true ∧ ∃ b, result = some b ∧ Q a b))
      as results) : List.Forall₂ Q (as.filter p) (results.filterMap id) ∧
      results.countP Option.isNone = (as.filter fun a => !p a).length := by
  induction h with
  | nil => exact ⟨.nil, rfl⟩
  | @cons a result as results hhead _ ih =>
    rcases hhead with ⟨hp, rfl⟩ | ⟨hp, b, rfl, hQ⟩
    · rw [List.filter_cons_of_neg (by simp [hp]), List.filter_cons_of_pos (by simp [hp])]
      refine ⟨ih.1, ?_⟩
      rw [List.countP_cons_of_pos (by rfl), List.length_cons, ih.2]
    · rw [List.filter_cons_of_pos hp, List.filter_cons_of_neg (by simp [hp])]
      refine ⟨.cons hQ ih.1, ?_⟩
      rw [List.countP_cons_of_neg (by simp), ih.2]

variable {floats : FloatText φ} {recorder : Recorder} {python : Python φ} {turns : List ModelTurn}

theorem mem_in_path_order {spool : SpoolDir} {file : UUID × List UInt8} :
    file ∈ in_path_order spool ↔ spool.get? file.1 = some file.2 := by
  unfold in_path_order
  rw [List.mem_insertionSort, Dict.get?_eq_some]

/-- The text that is read of a file is what was written for its session. -/
theorem read_spool_dir_run (floats : FloatText φ) (recorder : Recorder) (turns : List ModelTurn) :
    read_spool_dir (SpoolTraceGateway.run floats recorder Dict.empty turns).1 =
      some (((in_path_order (SpoolTraceGateway.run floats recorder Dict.empty turns).1).map Prod.fst).map fun
        attempt_id =>
        session_lines floats recorder
          (session_of (SpoolTraceGateway.run floats recorder Dict.empty turns).2 attempt_id)) := by
  unfold read_spool_dir
  rw [mapM_eq_some, List.map_map, List.forall₂_map_right_iff, List.forall₂_same]
  intro file hfile
  have hfiles := run_files floats recorder turns Dict.empty file.1
  unfold file_of at hfiles
  rw [mem_in_path_order.mp hfile] at hfiles
  have hbytes : file.2 = utf8 (String.ofList (session_lines floats recorder
      (session_of (SpoolTraceGateway.run floats recorder Dict.empty turns).2 file.1))) := hfiles
  unfold read_text
  rw [hbytes, ofUtf8_utf8, Option.map_some, String.toList_ofList]
  exact congrArg some (universalNewlines_of_not_mem (return_not_mem floats _))

theorem inOrder_session {kept : List ModelTurn} (hkept : kept.Sublist turns)
    (hsequences : ∀ attempt_id, (session_of turns attempt_id).Pairwise fun a b => a.sequence < b.sequence)
    (attempt_id : UUID) : InOrder (session_of kept attempt_id) where
  attempt := by
    refine List.pairwise_iff_forall_sublist.mpr fun {a b} hsublist => ?_
    have hattempt {turn : ModelTurn} (h : turn ∈ [a, b]) : turn.attempt_id = attempt_id := by
      have hmem := List.mem_filter.mp (hsublist.subset h)
      simpa using hmem.2
    rw [hattempt List.mem_cons_self, hattempt (List.mem_cons_of_mem _ List.mem_cons_self)]
  sequence := (hsequences attempt_id).sublist (hkept.filter _)

theorem bills_of_reports {pydantic : Pydantic} {kept : List ModelTurn} {attempt_id : UUID} {record : SpoolUsageRecord}
    (hreports : Reports ((session_of kept attempt_id).filterMap ModelTurn.told) record) :
    Bills pydantic kept attempt_id record := by
  obtain ⟨t, ht⟩ := List.exists_mem_of_ne_nil _ hreports.nonempty
  obtain ⟨turn, hturn, htold⟩ := List.mem_filterMap.mp ht
  have hadditive := additive_of_told hreports
  have hband : t.price.2 = record.price_band := congrArg Prod.snd (hreports.identity t ht).2.2
  refine ⟨?_, hreports, hadditive, imports_of_additive hreports (hband ▸ told_band htold) hadditive⟩
  rw [← (hreports.identity t ht).1, told_attempt htold]
  simpa using (List.mem_filter.mp hturn).2

/-- **In whatever order the turns of all attempts come, each attempt whose recorded session is coherent is billed for
exactly the sum of its turns, and no other attempt is.** -/
theorem recorded_sessions (floats : FloatText φ) (recorder : Recorder) (python : Python φ) (pydantic : Pydantic)
    (turns : List ModelTurn) (hreads : ReadsBack floats recorder python turns) (hafford : Affordable turns)
    (hunbroken : ∀ turn ∈ turns, Unbroken (event recorder turn : Event φ))
    (hsequences : ∀ attempt_id, (session_of turns attempt_id).Pairwise fun a b => a.sequence < b.sequence) :
    ∃ files report,
      read_spool_dir (SpoolTraceGateway.run floats recorder Dict.empty turns).1 = some files ∧
      scan_spool_dir python (some files) = .ok report ∧
      List.Forall₂ (Bills pydantic (SpoolTraceGateway.run floats recorder Dict.empty turns).2)
        (((in_path_order (SpoolTraceGateway.run floats recorder Dict.empty turns).1).map Prod.fst).filter
          (billable (SpoolTraceGateway.run floats recorder Dict.empty turns).2)) report.records ∧
      report.files_skipped =
        (((in_path_order (SpoolTraceGateway.run floats recorder Dict.empty turns).1).map Prod.fst).filter fun
          attempt_id =>
          !billable (SpoolTraceGateway.run floats recorder Dict.empty turns).2 attempt_id).length ∧
      ∀ attempt_id, attempt_id ∈
        (in_path_order (SpoolTraceGateway.run floats recorder Dict.empty turns).1).map Prod.fst ↔
        ∃ turn ∈ turns, turn.attempt_id = attempt_id := by
  have hfiles := read_spool_dir_run floats recorder turns
  have hkept := run_kept floats recorder turns Dict.empty
  have hkeys := run_keys floats recorder turns Dict.empty
  generalize hrun : SpoolTraceGateway.run floats recorder Dict.empty turns = after at *
  have heach : ∀ attempt_id ∈ (in_path_order after.1).map Prod.fst, ∃ result,
      scan_file python (session_lines floats recorder (session_of after.2 attempt_id)) = .ok result ∧
        ((billable after.2 attempt_id = false ∧ result = none) ∨
          (billable after.2 attempt_id = true ∧
            ∃ record, result = some record ∧ Bills pydantic after.2 attempt_id record)) := by
    intro attempt_id _
    have hsession : (session_of after.2 attempt_id).Sublist turns := List.filter_sublist.trans hkept
    obtain ⟨hnone, hsome⟩ :=
      scan_recorded hreads hafford hsession (inOrder_session hkept hsequences attempt_id) hunbroken
    by_cases hbillable : session_of after.2 attempt_id ≠ [] ∧ Consistent (session_of after.2 attempt_id)
    · obtain ⟨record, hrecord, hreports⟩ := hsome hbillable.1 hbillable.2
      exact ⟨some record, hrecord, Or.inr ⟨decide_eq_true hbillable, record, rfl, bills_of_reports hreports⟩⟩
    · refine ⟨none, hnone ?_, Or.inl ⟨decide_eq_false hbillable, rfl⟩⟩
      rw [not_and_or, not_not] at hbillable
      exact hbillable
  obtain ⟨results, hresults, hall⟩ := mapM_forall₂ heach
  have hscan : scan_spool_dir python (some (((in_path_order after.1).map Prod.fst).map fun attempt_id =>
      session_lines floats recorder (session_of after.2 attempt_id))) =
        .ok ⟨results.filterMap id, results.length, results.countP Option.isNone⟩ := by
    unfold scan_spool_dir
    dsimp only
    rw [List.mapM_map]
    exact congrArg (fun scanned => scanned >>= fun results => (Except.ok
      ⟨results.filterMap id, results.length, results.countP Option.isNone⟩ : Except ScanError SpoolScanReport)) hresults
  obtain ⟨hrecords, hskipped⟩ := forall₂_filterMap hall
  refine ⟨_, _, hfiles, hscan, hrecords, hskipped, fun attempt_id => ?_⟩
  have hkey := hkeys attempt_id
  rw [show attempt_id ∈ (Dict.empty : SpoolDir).keys ↔ False from iff_of_false List.not_mem_nil id, false_or] at hkey
  rw [← hkey, Dict.mem_keys, List.mem_map]
  constructor
  · rintro ⟨file, hfile, rfl⟩
    exact ⟨file.2, mem_in_path_order.mp hfile⟩
  · rintro ⟨bytes, hbytes⟩
    exact ⟨(attempt_id, bytes), mem_in_path_order.mpr hbytes, rfl⟩

end Directory

/-! ## Three turns of two attempts -/

/-- The clock of `clockPython`. -/
def julyRecorder : Recorder := ⟨Orchestration.sampleLibrary, fun _ => "2026-07-01T00:00:00+00:00"⟩

def julyTurn : ModelTurn where
  run_scope := Orchestration.sampleScope .c Orchestration.bird_c
  attempt_id := 1
  sequence := 1
  actual_model := "deepseek-flash"
  finish_reason := .stop
  usage := .reported ⟨3, 1, 2, 4, 1, 7, by decide, by decide, by decide⟩
  cost := .estimated ⟨⟨"snapshot-of-july", by decide⟩, ⟨false, 25, -6, by decide, by decide⟩, .off_peak⟩
  recorded_at := 1782864000000000

/-- The turns of the second attempt come between those of the first. -/
def julyTurns : List ModelTurn := [julyTurn, { julyTurn with attempt_id := 2 }, { julyTurn with sequence := 2 }]

theorem clockPython_loads (line : List Char) : clockPython.loads line =
    ((JsonValue.loads FloatText.half line).map Loaded.value).getD .JSONDecodeError := rfl

theorem clockPython_uuid (text : String) : clockPython.uuid text = UUID.parse text := rfl

theorem clockPython_too_deep (v : JsonValue Unit) : clockPython.too_deep v = false := rfl

theorem clockPython_fromisoformat (text : String) : clockPython.fromisoformat text =
    if text = "2026-07-01T00:00:00+00:00" then some (1782864000000000, some 0) else none := rfl

theorem july_reads : ReadsBack FloatText.half julyRecorder clockPython julyTurns where
  loads turn _ := by
    rw [clockPython_loads, loads_event]
    rfl
  too_deep _ _ := clockPython_too_deep _
  uuid attempt_id := by
    rw [clockPython_uuid]
    exact Operations.UUID.parse_text attempt_id
  isoformat _ _ := (by decide : "2026-07-01T00:00:00+00:00" ≠ "")
  fromisoformat turn hturn := by
    have hrecorded : ∀ turn ∈ julyTurns, turn.recorded_at = 1782864000000000 := by
      simp only [julyTurns, julyTurn, List.forall_mem_cons, List.not_mem_nil, false_imp_iff, implies_true, and_self]
    refine ⟨1782864000000000, 0, ?_, by rw [hrecorded turn hturn]; rfl⟩
    rw [clockPython_fromisoformat]
    exact if_pos rfl

theorem july_affordable : Affordable julyTurns where
  length := by norm_num [julyTurns]
  amount turn hturn t ht := by
    have htold : ∀ turn ∈ julyTurns, ∀ t ∈ turn.told, t.amount = .finite false 25 (-6) := by
      simp only [julyTurns, List.forall_mem_cons]
      exact ⟨fun _ h => Option.some.inj h ▸ rfl, fun _ h => Option.some.inj h ▸ rfl, fun _ h => Option.some.inj h ▸ rfl,
        fun _ h => absurd h List.not_mem_nil⟩
    rw [htold turn hturn t ht]
    have hpow : (1 : ℚ) ≤ 10 ^ Decimal.ETOP := one_le_zpow₀ (by norm_num) (by decide)
    have hvalue : (Numeral.finite false 25 (-6)).value = 25 * 10 ^ (-6 : ℤ) := by
      change (Decimal.finite false 25 (-6)).value = _
      rw [Decimal.value_finite]
      simp
    refine le_trans ?_ hpow
    change (Numeral.finite false 25 (-6)).value ≤ 1
    rw [hvalue]
    norm_num

theorem july_unbroken : ∀ turn ∈ julyTurns, Unbroken (event julyRecorder turn : Event Unit) := by
  have hplain : ∀ turn ∈ julyTurns, ((event julyRecorder turn : Event Unit).value.strings.all fun e =>
      e.2.toList.all fun c => !decide (c.toNat ∈ [0x85, 0x2028, 0x2029])) = true := by
    decide +kernel
  intro turn hturn e he c hc
  have hchar := List.all_eq_true.mp (List.all_eq_true.mp (hplain turn hturn) e he) c hc
  simpa using hchar

theorem july_sequences (attempt_id : UUID) :
    (session_of julyTurns attempt_id).Pairwise fun a b => a.sequence < b.sequence := by
  have hpairs : julyTurns.Pairwise fun a b => a.attempt_id = b.attempt_id → a.sequence < b.sequence := by decide
  refine List.pairwise_filter.mpr (hpairs.imp fun h ha hb => h ?_)
  rw [of_decide_eq_true ha, of_decide_eq_true hb]

/-- The session of the first attempt is two turns, and both attempts are billed. -/
theorem recorded_sessions_july :
    (session_of julyTurns 1).length = 2 ∧ billable julyTurns 1 = true ∧ billable julyTurns 2 = true ∧
    ∃ files report,
      read_spool_dir (SpoolTraceGateway.run FloatText.half julyRecorder Dict.empty julyTurns).1 = some files ∧
      scan_spool_dir clockPython (some files) = .ok report ∧
      List.Forall₂ (Bills strictPydantic (SpoolTraceGateway.run FloatText.half julyRecorder Dict.empty julyTurns).2)
        (((in_path_order (SpoolTraceGateway.run FloatText.half julyRecorder Dict.empty julyTurns).1).map
          Prod.fst).filter
          (billable (SpoolTraceGateway.run FloatText.half julyRecorder Dict.empty julyTurns).2)) report.records :=
  let ⟨files, report, hfiles, hscan, hrecords, _⟩ := recorded_sessions FloatText.half julyRecorder clockPython
    strictPydantic julyTurns july_reads july_affordable july_unbroken july_sequences
  ⟨by decide, by decide +kernel, by decide +kernel, files, report, hfiles, hscan, hrecords⟩

end CommerceAgent.Evaluation
