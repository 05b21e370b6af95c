import CommerceAgent.Evaluation.Spool
import CommerceAgent.Evaluation.SpoolImporter
import CommerceAgent.Lib.FailClosed
import CommerceAgent.Lib.NumeralSum

/-!
# Scanning spool files

`_scan_file` and `scan_spool_dir`, and exactly when a scan fails closed with the exact totals.
-/

open CommerceAgent.Lib
open CommerceAgent.Operations (UUID Checked Text)

namespace CommerceAgent.Evaluation

/-! ## Python -/

/-- What leaves the scan of a file as an exception. -/
inductive ScanError where
  | ValueError
  | RecursionError
  | KeyError
  | AssertionError
  | Overflow
  | ValidationError
  | SpoolImportError (message : String)
  deriving DecidableEq

/-- What `json.loads` makes of a line. -/
inductive Loaded (φ : Type) where
  | value (value : JsonValue φ)
  | JSONDecodeError
  /-- An integer with too many digits, or a text that is nested too deep. -/
  | raised (error : ScanError)

/-- The functions of Python that the scan calls. The floats are those that `json.loads` reads. -/
structure Python (φ : Type) where
  loads : List Char → Loaded φ
  /-- `_reject_forbidden_keys` runs out of stack on the value. -/
  too_deep : JsonValue φ → Bool
  str : StrText φ
  /-- The digit that `Decimal` takes another character for, or a blank. -/
  unicode : Char → Option Char
  /-- `UUID(text)`. -/
  uuid : String → Option UUID
  /-- `datetime.fromisoformat(text)`: the local time, and the offset if there is one. -/
  fromisoformat : String → Option (Instant × Option Timedelta)

/-- A `dict[str, object]`. -/
abbrev Fields (φ : Type) := List (String × JsonValue φ)

def USAGE_KEYS : List String :=
  ["prompt_tokens", "completion_tokens", "reasoning_tokens", "cache_hit_tokens", "cache_miss_tokens", "total_tokens"]

def STAMP_KEYS : List String := ["task_id", "mode", "experiment_id"]

variable {φ : Type} (python : Python φ)

/-! ## Reading an event -/

/-- The dictionary under a key. -/
def dict (fields : Fields φ) (key : String) : Option (Fields φ) :=
  match fields.lookup key with
  | some (.obj kvs) => some kvs
  | _ => none

def parse_timestamp (value : Option (JsonValue φ)) : Option Instant :=
  match value with
  | some (.str text) =>
    if text = "" then none
    else (python.fromisoformat text).map fun parsed => parsed.1 - parsed.2.getD 0
  | _ => none

/-- `Decimal(str(amount))`, of a text or a number. -/
def amount_of (cost : Fields φ) : Option Numeral :=
  match cost.lookup "amount" with
  | some (.str text) => Numeral.read python.unicode text
  | some (.int n) => Numeral.read python.unicode (python.str.str (.int n))
  | some (.float x) => Numeral.read python.unicode (python.str.str (.float x))
  | _ => none

def usable_turn (event : Fields φ) : Bool :=
  (STAMP_KEYS ++ ["recorded_at"]).all (fun key => (event.lookup key).isSome) &&
    match dict event "payload" with
    | none => false
    | some payload =>
      match dict payload "usage", dict payload "cost" with
      | some usage, some cost => USAGE_KEYS.all (fun key => (usage.lookup key).isSome) && (amount_of python cost).isSome
      | _, _ => false

/-- `event["payload"]["usage"]`, of a usable turn. -/
def usage_of (event : Fields φ) : Fields φ := ((dict event "payload").bind fun payload => dict payload "usage").getD []

/-- `event["payload"]["cost"]`, of a usable turn. -/
def cost_of (event : Fields φ) : Fields φ := ((dict event "payload").bind fun payload => dict payload "cost").getD []

/-- `UUID(event.get("attempt_id"))`. -/
def attempt_of (event : Fields φ) : Option UUID :=
  match event.lookup "attempt_id" with
  | some (.str file_attempt) => python.uuid file_attempt
  | _ => none

/-- The values under `_STAMP_KEYS`. -/
structure Stamp where
  task_id : String
  mode : String
  experiment_id : String
  deriving DecidableEq

/-- `{key: str(event[key]) for key in _STAMP_KEYS}`, of a usable turn. -/
def stamp_of (event : Fields φ) : Stamp :=
  let text (key : String) : String := python.str.str ((event.lookup key).getD .null)
  ⟨text "task_id", text "mode", text "experiment_id"⟩

/-- A count, which is no `bool` and not negative. -/
def tokens_at (usage : Fields φ) (key : String) : Option ℕ :=
  match usage.lookup key with
  | some (.int (.ofNat n)) => some n
  | _ => none

/-- The counts of a usage, in the order of `_USAGE_KEYS`. -/
def tokens_of (usage : Fields φ) : Option (List ℕ) := USAGE_KEYS.mapM (tokens_at usage)

/-- The snapshot id and the band of a cost. -/
def price_of (cost : Fields φ) : Option (String × String) :=
  match cost.lookup "price_snapshot_id", cost.lookup "price_band" with
  | some (.str snapshot_id), some (.str band) =>
    if snapshot_id = "" ∨ band ∉ ["peak", "off_peak"] then none else some (snapshot_id, band)
  | _, _ => none

/-! ## Scanning -/

/-- The local variables of `_scan_file`. -/
structure Scan where
  total_tokens : List ℕ
  turns : ℕ
  cost_total : Numeral
  cost_meta : Option (String × String)
  first_at : Option Instant
  last_at : Option Instant
  /-- `attempt_id` and `stamp`, which are set together. -/
  identity : Option (UUID × Stamp)
  last_sequence : Option ℤ

def Scan.start : Scan where
  total_tokens := USAGE_KEYS.map fun _ => 0
  turns := 0
  cost_total := .finite false 0 0
  cost_meta := none
  first_at := none
  last_at := none
  identity := none
  last_sequence := none

/-- The part of the loop body that is for model turns, behind the checks of the sequence and the fields. -/
def scan_turn (scan : Scan) (event : Fields φ) : Except ScanError (Option Scan) :=
  match attempt_of python event with
  | none => .ok none
  | some parsed_attempt =>
    let identity := (parsed_attempt, stamp_of python event)
    if scan.identity.any (· ≠ identity) then .ok none
    else
      match tokens_of (usage_of event), amount_of python (cost_of event) with
      | some tokens, some amount =>
        match scan.cost_total.add amount with
        | .error .InvalidOperation => .ok none
        | .error .Overflow => .error .Overflow
        | .ok cost_total =>
          match price_of (cost_of event) with
          | none => .ok none
          | some price =>
            if scan.cost_meta.any (· ≠ price) then .ok none
            else
              match parse_timestamp python (event.lookup "recorded_at") with
              | none => .ok none
              | some recorded_at => .ok (some { scan with
                  total_tokens := List.zipWith (· + ·) scan.total_tokens tokens
                  turns := scan.turns + 1
                  cost_total
                  cost_meta := some price
                  first_at := some (scan.first_at.elim recorded_at (min · recorded_at))
                  last_at := some (scan.last_at.elim recorded_at (max · recorded_at))
                  identity := some identity })
      | _, _ => .ok none

/-- The loop body of `_scan_file`, on a line that is not blank. -/
def scan_line (scan : Scan) (line : List Char) : Except ScanError (Option Scan) :=
  match python.loads line with
  | .JSONDecodeError => .ok none
  | .raised e => .error e
  | .value (.obj event) =>
    if python.too_deep (.obj event) then .error .RecursionError
    else if reject_fields event then .ok none
    else
      match event.lookup "sequence" with
      | some (.int sequence) =>
        if scan.last_sequence.any (sequence ≤ ·) then .ok none
        else if ¬ usable_turn python event then .ok none
        else
          let scan := { scan with last_sequence := some sequence }
          match event.lookup "event_type" with
          | none => .error .KeyError
          | some event_type =>
            if ¬ isText (some event_type) "model_turn" then .ok (some scan) else scan_turn python scan event
      | _ => .ok none
  | .value _ => .ok none

/-- What `_scan_file` makes of the state behind the last line. -/
def Scan.record (scan : Scan) : Except ScanError (Option SpoolUsageRecord) :=
  match scan.identity with
  | none => .ok none
  | some (attempt_id, stamp) =>
    if scan.turns = 0 then .ok none
    else
      match scan.cost_meta with
      | none => .error .AssertionError
      | some (snapshot_id, band) =>
        match Checked.parse snapshot_id with
        | none => .error .ValidationError
        | some price_snapshot_id =>
          if ¬ (scan.cost_total.isFinite ∧ 0 ≤ scan.cost_total.decimal.num) then .error .ValidationError
          else .ok (some {
            attempt_id
            experiment_id := stamp.experiment_id
            task_id := stamp.task_id
            mode := stamp.mode
            turns := scan.turns
            prompt_tokens := scan.total_tokens.getD 0 0
            completion_tokens := scan.total_tokens.getD 1 0
            reasoning_tokens := scan.total_tokens.getD 2 0
            cache_hit_tokens := scan.total_tokens.getD 3 0
            cache_miss_tokens := scan.total_tokens.getD 4 0
            total_tokens := scan.total_tokens.getD 5 0
            cost_usd := scan.cost_total.decimal
            price_snapshot_id
            price_band := band
            first_recorded_at := scan.first_at
            last_recorded_at := scan.last_at })

/-- The lines of a file that the loop does not skip. -/
def lines_in (file : List Char) : List (List Char) := nonblank (splitlines file)

/-- `_scan_file`, on a file with this text. -/
def scan_file (file : List Char) : Except ScanError (Option SpoolUsageRecord) := do
  match ← FailClosed.scan (scan_line python) Scan.start (lines_in file) with
  | none => return none
  | some scan => scan.record

structure SpoolScanReport where
  records : List SpoolUsageRecord
  files_scanned : ℕ
  files_skipped : ℕ

/-- `scan_spool_dir`, on the files of a directory in the order of their paths, if it is one. -/
def scan_spool_dir (spool_dir : Option (List (List Char))) : Except ScanError SpoolScanReport :=
  match spool_dir with
  | none => .error (.SpoolImportError "spool_dir_missing")
  | some files => do
    let results ← files.mapM (scan_file python)
    return {
      records := results.filterMap id
      files_scanned := results.length
      files_skipped := results.countP Option.isNone }

/-! ## The event schema -/

/-- What a model turn tells. -/
structure Turn where
  attempt_id : UUID
  stamp : Stamp
  tokens : List ℕ
  amount : Numeral
  price : String × String
  recorded_at : Instant

/-- The model turn of an event, where no field of it is missing or malformed. -/
def turn_of (event : Fields φ) : Option Turn := do
  let attempt_id ← attempt_of python event
  let tokens ← tokens_of (usage_of event)
  let amount ← amount_of python (cost_of event)
  let price ← price_of (cost_of event)
  let recorded_at ← parse_timestamp python (event.lookup "recorded_at")
  some ⟨attempt_id, stamp_of python event, tokens, amount, price, recorded_at⟩

/-- The fields of the object on a line. -/
def event_at (line : List Char) : Fields φ :=
  match python.loads line with
  | .value (.obj event) => event
  | _ => []

def sequence_of (event : Fields φ) : Option ℤ :=
  match event.lookup "sequence" with
  | some (.int sequence) => some sequence
  | _ => none

def is_model_turn (event : Fields φ) : Bool := isText (event.lookup "event_type") "model_turn"

def sequences (lines : List (List Char)) : List ℤ := lines.filterMap fun line => sequence_of (event_at python line)

/-- The model turns on lines. -/
def turns_in (lines : List (List Char)) : List Turn :=
  lines.filterMap fun line =>
    if is_model_turn (event_at python line) then turn_of python (event_at python line) else none

def amounts_in (lines : List (List Char)) : List Numeral := (turns_in python lines).map Turn.amount

/-- An event comes behind the events of some lines. -/
def Rises (front : List (List Char)) (event : Fields φ) : Prop :=
  ∃ sequence, sequence_of event = some sequence ∧ ∀ earlier ∈ sequences python front, earlier < sequence

/-- Its model turn is of the session of the turns on the lines, and its amount can be added to theirs. -/
def Continues (front : List (List Char)) (event : Fields φ) : Prop :=
  ∃ turn, turn_of python event = some turn ∧
    (∀ earlier ∈ turns_in python front, earlier.attempt_id = turn.attempt_id ∧ earlier.stamp = turn.stamp ∧
      earlier.price = turn.price) ∧
    ¬ Numeral.Invalid (amounts_in python front) turn.amount

/-- **A line has the event schema**, behind lines that have it. -/
structure Conforms (front : List (List Char)) (line : List Char) : Prop where
  object : python.loads line = .value (.obj (event_at python line))
  clean : reject_fields (event_at python line) = false
  rises : Rises python front (event_at python line)
  usable : usable_turn python (event_at python line) = true
  typed : ((event_at python line).lookup "event_type").isSome
  turn : is_model_turn (event_at python line) → Continues python front (event_at python line)

/-- **A file has the event schema.** -/
def WellFormed (file : List Char) : Prop := FailClosed.Accepted (Conforms python) (lines_in file)

/-! ## Exact scans -/

/-- The counts of a record, in the order of `_USAGE_KEYS`. -/
def SpoolUsageRecord.tokens (record : SpoolUsageRecord) : List ℕ :=
  [record.prompt_tokens, record.completion_tokens, record.reasoning_tokens, record.cache_hit_tokens,
    record.cache_miss_tokens, record.total_tokens]

/-- **A record says what the model turns of a session say together.** -/
structure Summarises (session : List Turn) (record : SpoolUsageRecord) : Prop where
  turns : record.turns = session.length
  tokens : ∀ i, record.tokens.getD i 0 = (session.map fun turn => turn.tokens.getD i 0).sum
  finite : ∀ turn ∈ session, turn.amount.isFinite = true
  cost_usd : record.cost_usd.value = (session.map fun turn => turn.amount.value).sum
  identity : ∀ turn ∈ session, turn.attempt_id = record.attempt_id ∧
    turn.stamp = ⟨record.task_id, record.mode, record.experiment_id⟩ ∧
    turn.price = (record.price_snapshot_id.text, record.price_band)
  first_recorded_at : record.first_recorded_at = (session.map Turn.recorded_at).min?
  last_recorded_at : record.last_recorded_at = (session.map Turn.recorded_at).max?

/-- **A file is scanned exactly or not at all.** -/
structure ScansExactly (file : List Char) : Prop where
  returns : ∃ result, scan_file python file = .ok result
  closed : ¬ WellFormed python file → scan_file python file = .ok none
  reports : WellFormed python file → turns_in python (lines_in file) ≠ [] →
    ∃ record, scan_file python file = .ok (some record)
  exact : ∀ record, scan_file python file = .ok (some record) → Summarises (turns_in python (lines_in file)) record

/-! ## When a scan is exact -/

/-- A model turn of the session has an amount that is too large to be added. -/
structure Overflowing (front : List (List Char)) (event : Fields φ) : Prop where
  session : ∃ attempt_id, attempt_of python event = some attempt_id ∧
    ∀ earlier ∈ turns_in python front, earlier.attempt_id = attempt_id ∧ earlier.stamp = stamp_of python event
  tokens : (tokens_of (usage_of event)).isSome
  amount : ∃ amount, amount_of python (cost_of event) = some amount ∧
    Numeral.Overflows (amounts_in python front) amount

/-- A line on which the scan raises, behind lines that have the event schema. -/
inductive Escapes (front : List (List Char)) (line : List Char) : Prop where
  | loads (e : ScanError) (h : python.loads line = .raised e)
  | too_deep (event : Fields φ) (h : python.loads line = .value (.obj event)) (deep : python.too_deep (.obj event))
  /-- Only the type of the event is missing. -/
  | untyped (event : Fields φ) (h : python.loads line = .value (.obj event)) (clean : reject_fields event = false)
    (rises : Rises python front event) (usable : usable_turn python event) (untyped : event.lookup "event_type" = none)
  | overflow (event : Fields φ) (h : python.loads line = .value (.obj event)) (clean : reject_fields event = false)
    (rises : Rises python front event) (usable : usable_turn python event) (typed : is_model_turn event)
    (overflowing : Overflowing python front event)

/-- A session whose cost and price a record can hold. -/
structure Holdable (session : List Turn) : Prop where
  finite : ∀ turn ∈ session, turn.amount.isFinite = true
  /-- Rounding the partial sums to 28 digits loses nothing. -/
  exact : Decimal.roundedSum (session.map fun turn => turn.amount.value) =
    (session.map fun turn => turn.amount.value).sum
  nonneg : 0 ≤ (session.map fun turn => turn.amount.value).sum
  price : ∀ turn ∈ session, turn.price.1.length ≤ 128

/-- **The files that are scanned exactly.** -/
structure Fit (file : List Char) : Prop where
  quiet : ∀ front line back, lines_in file = front ++ line :: back →
    FailClosed.Accepted (Conforms python) front → ¬ Escapes python front line
  holdable : WellFormed python file → Holdable (turns_in python (lines_in file))

/-! ## One line -/

/-- **What the state of a scan tells of the turns behind it.** -/
structure Gathers (session : List Turn) (scan : Scan) : Prop where
  turns : scan.turns = session.length
  size : scan.total_tokens.length = 6
  tokens : ∀ i, scan.total_tokens.getD i 0 = (session.map fun turn => turn.tokens.getD i 0).sum
  cost_total : Numeral.Sums (session.map Turn.amount) scan.cost_total
  unset : session = [] → scan.identity = none ∧ scan.cost_meta = none
  set : ∀ turn ∈ session, scan.identity = some (turn.attempt_id, turn.stamp) ∧ scan.cost_meta = some turn.price
  first_at : scan.first_at = (session.map Turn.recorded_at).min?
  last_at : scan.last_at = (session.map Turn.recorded_at).max?

/-- What it tells of the lines. -/
structure Scanned (front : List (List Char)) (scan : Scan) : Prop where
  last_sequence : ∀ n, scan.last_sequence.any (n ≤ ·) = false ↔ ∀ earlier ∈ sequences python front, earlier < n
  gathers : Gathers (turns_in python front) scan

variable {python} {front : List (List Char)} {line : List Char} {scan : Scan} {event : Fields φ} {session : List Turn}

theorem gathers_nil : Gathers [] Scan.start where
  turns := rfl
  size := rfl
  tokens i := by
    change (List.replicate 6 0).getD i 0 = 0
    rw [List.getD_eq_getElem?_getD, List.getElem?_replicate]
    split_ifs <;> rfl
  cost_total := Numeral.sums_nil
  unset _ := ⟨rfl, rfl⟩
  set _ h := absurd h List.not_mem_nil
  first_at := rfl
  last_at := rfl

theorem scanned_nil : Scanned python [] Scan.start :=
  ⟨fun _ => ⟨fun _ _ h => absurd h List.not_mem_nil, fun _ => rfl⟩, gathers_nil⟩

theorem event_at_of_object (h : python.loads line = .value (.obj event)) : event_at python line = event := by
  unfold event_at
  rw [h]

theorem sequences_concat (front : List (List Char)) (line : List Char) :
    sequences python (front ++ [line]) = sequences python front ++ (sequence_of (event_at python line)).toList := by
  unfold sequences
  rw [List.filterMap_append, List.filterMap_cons, List.filterMap_nil]
  cases sequence_of (event_at python line) <;> rfl

theorem turns_in_concat_turn {turn : Turn} (htyped : is_model_turn (event_at python line) = true)
    (hturn : turn_of python (event_at python line) = some turn) :
    turns_in python (front ++ [line]) = turns_in python front ++ [turn] := by
  unfold turns_in
  rw [List.filterMap_append, List.filterMap_cons, if_pos htyped, hturn]
  rfl

theorem turns_in_concat_other (htyped : is_model_turn (event_at python line) = false) :
    turns_in python (front ++ [line]) = turns_in python front := by
  unfold turns_in
  rw [List.filterMap_append, List.filterMap_cons, htyped, if_neg Bool.false_ne_true]
  exact List.append_nil _

theorem any_ne_iff {α : Type} [DecidableEq α] {set : Option α} {f : Turn → α} {a : α}
    (hunset : session = [] → set = none) (hset : ∀ turn ∈ session, set = some (f turn)) :
    set.any (· ≠ a) = false ↔ ∀ turn ∈ session, f turn = a := by
  cases session with
  | nil =>
    rw [hunset rfl]
    exact ⟨fun _ _ h => absurd h List.not_mem_nil, fun _ => rfl⟩
  | cons turn session =>
    have hfirst := hset turn List.mem_cons_self
    rw [hfirst, Option.any_some, decide_eq_false_iff_not, not_not]
    constructor
    · rintro rfl other hother
      exact (Option.some.inj (hfirst.symm.trans (hset other hother))).symm
    · exact fun h => h turn List.mem_cons_self

theorem min?_concat (xs : List ℤ) (a : ℤ) : (xs ++ [a]).min? = some (xs.min?.elim a (min · a)) := by
  cases xs with
  | nil => rfl
  | cons x xs =>
    rw [List.cons_append, List.min?_cons', List.foldl_append]
    rfl

theorem max?_concat (xs : List ℤ) (a : ℤ) : (xs ++ [a]).max? = some (xs.max?.elim a (max · a)) := by
  cases xs with
  | nil => rfl
  | cons x xs =>
    rw [List.cons_append, List.max?_cons', List.foldl_append]
    rfl

theorem getD_zipWith_add {xs ys : List ℕ} (h : xs.length = ys.length) (i : ℕ) :
    (List.zipWith (· + ·) xs ys).getD i 0 = xs.getD i 0 + ys.getD i 0 := by
  simp only [List.getD_eq_getElem?_getD, List.getElem?_zipWith]
  by_cases hi : i < xs.length
  · rw [List.getElem?_eq_getElem hi, List.getElem?_eq_getElem (h ▸ hi)]
    rfl
  · rw [List.getElem?_eq_none (not_lt.mp hi), List.getElem?_eq_none (h ▸ not_lt.mp hi)]
    rfl

theorem length_tokens_of {usage : Fields φ} {tokens : List ℕ} (h : tokens_of usage = some tokens) :
    tokens.length = 6 := (mapM_eq_some.mp h).length_eq.symm

/-- The state behind a turn that is added. -/
def Scan.add (scan : Scan) (cost_total : Numeral) (turn : Turn) : Scan where
  total_tokens := List.zipWith (· + ·) scan.total_tokens turn.tokens
  turns := scan.turns + 1
  cost_total
  cost_meta := some turn.price
  first_at := some (scan.first_at.elim turn.recorded_at (min · turn.recorded_at))
  last_at := some (scan.last_at.elim turn.recorded_at (max · turn.recorded_at))
  identity := some (turn.attempt_id, turn.stamp)
  last_sequence := scan.last_sequence

theorem turn_of_eq_some {turn : Turn} : turn_of python event = some turn ↔
    attempt_of python event = some turn.attempt_id ∧ stamp_of python event = turn.stamp ∧
      tokens_of (usage_of event) = some turn.tokens ∧ amount_of python (cost_of event) = some turn.amount ∧
      price_of (cost_of event) = some turn.price ∧
      parse_timestamp python (event.lookup "recorded_at") = some turn.recorded_at := by
  unfold turn_of
  simp only [Option.bind_eq_bind, Option.bind_eq_some_iff]
  constructor
  · rintro ⟨attempt_id, hattempt, tokens, htokens, amount, hamount, price, hprice, recorded_at, hrecorded, hturn⟩
    cases hturn
    exact ⟨hattempt, rfl, htokens, hamount, hprice, hrecorded⟩
  · rintro ⟨hattempt, hstamp, htokens, hamount, hprice, hrecorded⟩
    exact ⟨_, hattempt, _, htokens, _, hamount, _, hprice, _, hrecorded, by rw [hstamp]⟩

/-- The outcomes of a turn, from the state behind some lines. -/
structure TurnSteps (python : Python φ) (front : List (List Char)) (scan : Scan) (event : Fields φ) : Prop where
  error : Overflowing python front event → scan_turn python scan event = .error .Overflow
  refused : ¬ Overflowing python front event → ¬ Continues python front event → scan_turn python scan event = .ok none
  next : ¬ Overflowing python front event → ∀ turn, turn_of python event = some turn → Continues python front event →
    ∃ cost_total, scan_turn python scan event = .ok (some (scan.add cost_total turn)) ∧
      Numeral.Sums (amounts_in python front ++ [turn.amount]) cost_total

theorem session_iff (h : Gathers session scan) (attempt_id : UUID) (stamp : Stamp) :
    scan.identity.any (· ≠ (attempt_id, stamp)) = false ↔
      ∀ earlier ∈ session, earlier.attempt_id = attempt_id ∧ earlier.stamp = stamp := by
  rw [any_ne_iff (f := fun turn => (turn.attempt_id, turn.stamp)) (fun hnil => (h.unset hnil).1)
    fun turn hturn => (h.set turn hturn).1]
  simp only [Prod.mk.injEq]

theorem price_iff (h : Gathers session scan) (price : String × String) :
    scan.cost_meta.any (· ≠ price) = false ↔ ∀ earlier ∈ session, earlier.price = price :=
  any_ne_iff (fun hnil => (h.unset hnil).2) fun turn hturn => (h.set turn hturn).2

theorem TurnSteps.of_refused (hexit : scan_turn python scan event = .ok none) (hover : ¬ Overflowing python front event)
    (hcontinues : ¬ Continues python front event) : TurnSteps python front scan event :=
  ⟨fun h => absurd h hover, fun _ _ => hexit, fun _ _ _ h => absurd h hcontinues⟩

theorem scan_turn_strange (h : Gathers (turns_in python front) scan)
    (hstrange : ¬ ∃ attempt_id, attempt_of python event = some attempt_id ∧
      ∀ earlier ∈ turns_in python front, earlier.attempt_id = attempt_id ∧ earlier.stamp = stamp_of python event) :
    TurnSteps python front scan event := by
  refine TurnSteps.of_refused ?_ (fun hover => hstrange hover.session) ?_
  · unfold scan_turn
    cases hattempt : attempt_of python event with
    | none => rfl
    | some attempt_id =>
      have hother : scan.identity.any (· ≠ (attempt_id, stamp_of python event)) = true := by
        rw [← Bool.not_eq_false, session_iff h]
        exact fun hsession => hstrange ⟨attempt_id, hattempt, hsession⟩
      dsimp only
      rw [if_pos hother]
  · rintro ⟨turn, hturn, hsession, -⟩
    obtain ⟨hattempt, hstamp, -⟩ := turn_of_eq_some.mp hturn
    refine hstrange ⟨turn.attempt_id, hattempt, fun earlier hearlier => ?_⟩
    rw [hstamp]
    exact ⟨(hsession earlier hearlier).1, (hsession earlier hearlier).2.1⟩

theorem scan_turn_eq (h : Gathers (turns_in python front) scan) {attempt_id : UUID}
    (hattempt : attempt_of python event = some attempt_id)
    (hsession : ∀ earlier ∈ turns_in python front, earlier.attempt_id = attempt_id ∧
      earlier.stamp = stamp_of python event)
    {tokens : List ℕ} (htokens : tokens_of (usage_of event) = some tokens)
    {amount : Numeral} (hamount : amount_of python (cost_of event) = some amount) :
    scan_turn python scan event =
      match scan.cost_total.add amount with
      | .error .InvalidOperation => .ok none
      | .error .Overflow => .error .Overflow
      | .ok cost_total =>
        match price_of (cost_of event), parse_timestamp python (event.lookup "recorded_at") with
        | some price, some recorded_at =>
          if scan.cost_meta.any (· ≠ price) then .ok none
          else .ok (some (scan.add cost_total
            ⟨attempt_id, stamp_of python event, tokens, amount, price, recorded_at⟩))
        | _, _ => .ok none := by
  unfold scan_turn
  rw [hattempt, htokens, hamount]
  dsimp only
  rw [(session_iff h attempt_id _).mpr hsession, if_neg Bool.false_ne_true]
  cases scan.cost_total.add amount with
  | error signal => cases signal <;> rfl
  | ok cost_total =>
    cases price_of (cost_of event) with
    | none => rfl
    | some price =>
      cases parse_timestamp python (event.lookup "recorded_at") with
      | none =>
        dsimp only
        split_ifs <;> rfl
      | some recorded_at => rfl

theorem scan_turn_steps (h : Gathers (turns_in python front) scan) (event : Fields φ) :
    TurnSteps python front scan event := by
  by_cases hsession : ∃ attempt_id, attempt_of python event = some attempt_id ∧
      ∀ earlier ∈ turns_in python front, earlier.attempt_id = attempt_id ∧ earlier.stamp = stamp_of python event
  case neg => exact scan_turn_strange h hsession
  obtain ⟨attempt_id, hattempt, hsame⟩ := hsession
  -- what is not read ends the scan
  have hunread (hread : tokens_of (usage_of event) = none ∨ amount_of python (cost_of event) = none) :
      TurnSteps python front scan event := by
    refine TurnSteps.of_refused ?_ ?_ ?_
    · unfold scan_turn
      rw [hattempt]
      dsimp only
      rw [(session_iff h attempt_id _).mpr hsame, if_neg Bool.false_ne_true]
      rcases hread with hread | hread
      · rw [hread]
      · rw [hread]
        cases tokens_of (usage_of event) <;> rfl
    · rintro ⟨-, htokens, amount, hamount, -⟩
      rcases hread with hread | hread
      · rw [hread] at htokens
        cases htokens
      · rw [hread] at hamount
        cases hamount
    · rintro ⟨turn, hturn, -⟩
      obtain ⟨-, -, htokens, hamount, -⟩ := turn_of_eq_some.mp hturn
      rcases hread with hread | hread
      · rw [hread] at htokens
        cases htokens
      · rw [hread] at hamount
        cases hamount
  cases htokens : tokens_of (usage_of event) with
  | none => exact hunread (Or.inl htokens)
  | some tokens =>
    cases hamount : amount_of python (cost_of event) with
    | none => exact hunread (Or.inr hamount)
    | some amount =>
      have heq := scan_turn_eq h hattempt hsame htokens hamount
      have hadds := Numeral.add_adds (a := amount) h.cost_total
      have hover : Overflowing python front event ↔ Numeral.Overflows (amounts_in python front) amount := by
        constructor
        · rintro ⟨-, -, other, hother, hover⟩
          rw [hamount] at hother
          cases hother
          exact hover
        · exact fun hover => ⟨⟨attempt_id, hattempt, hsame⟩, by rw [htokens]; rfl, amount, hamount, hover⟩
      refine ⟨fun hlarge => ?_, fun hroom hcontinues => ?_, fun hroom turn hturn hcontinues => ?_⟩
      · rw [heq, hadds.overflow (hover.mp hlarge)]
      · by_cases hvalid : Numeral.Invalid (amounts_in python front) amount
        · rw [heq, hadds.invalid hvalid]
        · obtain ⟨cost_total, hadd, -⟩ := hadds.sum hvalid fun hlarge => hroom (hover.mpr hlarge)
          rw [heq, hadd]
          dsimp only
          split
          case h_1 price recorded_at hprice hrecorded =>
            refine if_pos ?_
            rw [← Bool.not_eq_false, price_iff h]
            intro hmeta
            refine hcontinues ⟨⟨attempt_id, stamp_of python event, tokens, amount, price, recorded_at⟩, ?_, ?_, hvalid⟩
            · exact turn_of_eq_some.mpr ⟨hattempt, rfl, htokens, hamount, hprice, hrecorded⟩
            · exact fun earlier hearlier =>
                ⟨(hsame earlier hearlier).1, (hsame earlier hearlier).2, hmeta earlier hearlier⟩
          case h_2 => rfl
      · obtain ⟨hattempt', hstamp', htokens', hamount', hprice, hrecorded⟩ := turn_of_eq_some.mp hturn
        obtain ⟨other, hother, hsession, hvalid⟩ := hcontinues
        obtain rfl := Option.some.inj (hturn.symm.trans hother)
        obtain rfl := Option.some.inj (hamount.symm.trans hamount')
        obtain rfl := Option.some.inj (hattempt.symm.trans hattempt')
        obtain rfl := Option.some.inj (htokens.symm.trans htokens')
        obtain ⟨cost_total, hadd, hsums⟩ := hadds.sum hvalid fun hlarge => hroom (hover.mpr hlarge)
        have hmeta := (price_iff h turn.price).mpr fun earlier hearlier => (hsession earlier hearlier).2.2
        refine ⟨cost_total, ?_, hsums⟩
        rw [heq, hadd, hprice, hrecorded, hstamp']
        dsimp only
        rw [hmeta, if_neg Bool.false_ne_true]

theorem Gathers.add (h : Gathers session scan) {turn : Turn} (htokens : turn.tokens.length = 6)
    (hsession : ∀ earlier ∈ session, earlier.attempt_id = turn.attempt_id ∧ earlier.stamp = turn.stamp ∧
      earlier.price = turn.price)
    {cost_total : Numeral} (hcost : Numeral.Sums (session.map Turn.amount ++ [turn.amount]) cost_total) :
    Gathers (session ++ [turn]) (scan.add cost_total turn) where
  turns := by
    rw [List.length_append, ← h.turns]
    rfl
  size := by
    change (List.zipWith (· + ·) scan.total_tokens turn.tokens).length = 6
    rw [List.length_zipWith, h.size, htokens]
    rfl
  tokens i := by
    change (List.zipWith (· + ·) scan.total_tokens turn.tokens).getD i 0 = _
    rw [getD_zipWith_add (h.size.trans htokens.symm), h.tokens, List.map_append, List.sum_append, List.map_singleton,
      List.sum_singleton]
  cost_total := by rwa [List.map_append]
  unset hnil := absurd hnil (by simp)
  set := by
    refine List.forall_mem_append.mpr ⟨fun earlier hearlier => ?_, List.forall_mem_singleton.mpr ⟨rfl, rfl⟩⟩
    obtain ⟨hattempt, hstamp, hprice⟩ := hsession earlier hearlier
    rw [hattempt, hstamp, hprice]
    exact ⟨rfl, rfl⟩
  first_at := by
    rw [List.map_append, List.map_singleton, min?_concat, ← h.first_at]
    rfl
  last_at := by
    rw [List.map_append, List.map_singleton, max?_concat, ← h.last_at]
    rfl

theorem Gathers.with_sequence (h : Gathers session scan) (sequence : ℤ) :
    Gathers session { scan with last_sequence := some sequence } :=
  ⟨h.turns, h.size, h.tokens, h.cost_total, h.unset, h.set, h.first_at, h.last_at⟩

theorem sequence_of_eq_some {sequence : ℤ} :
    sequence_of event = some sequence ↔ event.lookup "sequence" = some (.int sequence) := by
  unfold sequence_of
  split
  · rename_i heq
    rw [heq]
    simp
  · rename_i hnot
    exact iff_of_false (by simp) fun h => hnot _ h

theorem scan_line_eligible (h : Scanned python front scan) (hloads : python.loads line = .value (.obj event))
    (hdeep : python.too_deep (.obj event) = false) (hclean : reject_fields event = false) {sequence : ℤ}
    (hsequence : sequence_of event = some sequence) (hrises : ∀ earlier ∈ sequences python front, earlier < sequence)
    (husable : usable_turn python event = true) :
    scan_line python scan line =
      match event.lookup "event_type" with
      | none => .error .KeyError
      | some event_type =>
        if ¬ isText (some event_type) "model_turn" then .ok (some { scan with last_sequence := some sequence })
        else scan_turn python { scan with last_sequence := some sequence } event := by
  unfold scan_line
  rw [hloads]
  dsimp only
  rw [hdeep, hclean, if_neg Bool.false_ne_true, if_neg Bool.false_ne_true, sequence_of_eq_some.mp hsequence]
  dsimp only
  rw [(h.last_sequence sequence).mpr hrises, if_neg Bool.false_ne_true, husable, if_neg (by simp)]

theorem scan_line_ineligible (h : Scanned python front scan) (hloads : python.loads line = .value (.obj event))
    (hdeep : python.too_deep (.obj event) = false)
    (hbad : ¬ (reject_fields event = false ∧ Rises python front event ∧ usable_turn python event = true)) :
    scan_line python scan line = .ok none := by
  unfold scan_line
  rw [hloads]
  dsimp only
  rw [hdeep, if_neg Bool.false_ne_true]
  by_cases hclean : reject_fields event = true
  · rw [if_pos hclean]
  rw [if_neg hclean]
  rw [Bool.not_eq_true] at hclean
  cases hsequence : sequence_of event with
  | none =>
    split
    · rename_i sequence heq
      rw [sequence_of_eq_some.mpr heq] at hsequence
      cases hsequence
    · rfl
  | some sequence =>
    rw [sequence_of_eq_some.mp hsequence]
    dsimp only
    by_cases hrises : scan.last_sequence.any (sequence ≤ ·) = true
    · rw [if_pos hrises]
    · rw [if_neg hrises]
      rw [Bool.not_eq_true, h.last_sequence] at hrises
      exact if_pos fun husable => hbad ⟨hclean, ⟨sequence, hsequence, hrises⟩, husable⟩

theorem scan_line_deep (scan : Scan) (hloads : python.loads line = .value (.obj event))
    (hdeep : python.too_deep (.obj event) = true) : scan_line python scan line = .error .RecursionError := by
  unfold scan_line
  rw [hloads]
  exact if_pos hdeep

theorem is_model_turn_of_lookup {event_type : JsonValue φ} (h : event.lookup "event_type" = some event_type) :
    isText (some event_type) "model_turn" = is_model_turn event := by
  unfold is_model_turn
  rw [h]

/-- **One line.** -/
theorem scan_line_steps : FailClosed.Steps (scan_line python) (Conforms python) (Escapes python) (Scanned python) where
  error := by
    intro front scan line hscan hescapes
    have hdeep {event : Fields φ} (hloads : python.loads line = .value (.obj event))
        (hrest : python.too_deep (.obj event) = false → ∃ e, scan_line python scan line = .error e) :
        ∃ e, scan_line python scan line = .error e := by
      cases hdeep : python.too_deep (.obj event) with
      | true => exact ⟨.RecursionError, scan_line_deep scan hloads hdeep⟩
      | false => exact hrest hdeep
    cases hescapes with
    | loads e hloads =>
      refine ⟨e, ?_⟩
      unfold scan_line
      rw [hloads]
    | too_deep event hloads deep => exact ⟨.RecursionError, scan_line_deep scan hloads deep⟩
    | untyped event hloads clean rises usable untyped =>
      refine hdeep hloads fun hshallow => ⟨.KeyError, ?_⟩
      obtain ⟨sequence, hsequence, hrises⟩ := rises
      rw [scan_line_eligible hscan hloads hshallow clean hsequence hrises usable, untyped]
    | overflow event hloads clean rises usable typed overflowing =>
      refine hdeep hloads fun hshallow => ⟨.Overflow, ?_⟩
      obtain ⟨sequence, hsequence, hrises⟩ := rises
      rw [scan_line_eligible hscan hloads hshallow clean hsequence hrises usable]
      cases htype : event.lookup "event_type" with
      | none =>
        unfold is_model_turn at typed
        rw [htype] at typed
        cases typed
      | some event_type =>
        dsimp only
        rw [is_model_turn_of_lookup htype, if_neg (not_not.mpr typed)]
        exact (scan_turn_steps (hscan.gathers.with_sequence sequence) event).error overflowing
  refused := by
    intro front scan line hscan hquiet hnot
    cases hloads : python.loads line with
    | JSONDecodeError =>
      unfold scan_line
      rw [hloads]
    | raised e => exact absurd (.loads e hloads) hquiet
    | value value =>
      cases value with
      | obj event =>
        have hevent := event_at_of_object hloads
        have hshallow : python.too_deep (.obj event) = false := by
          rw [← Bool.not_eq_true]
          exact fun hdeep => hquiet (.too_deep event hloads hdeep)
        by_cases heligible : reject_fields event = false ∧ Rises python front event ∧ usable_turn python event = true
        case neg => exact scan_line_ineligible hscan hloads hshallow heligible
        obtain ⟨hclean, hrises, husable⟩ := heligible
        obtain ⟨sequence, hsequence, hbehind⟩ := id hrises
        rw [scan_line_eligible hscan hloads hshallow hclean hsequence hbehind husable]
        cases htype : event.lookup "event_type" with
        | none => exact absurd (.untyped event hloads hclean hrises husable htype) hquiet
        | some event_type =>
          have hconforms (hturn : is_model_turn event → Continues python front event) : Conforms python front line := by
            rw [← hevent] at hloads hclean hrises husable htype hturn
            exact ⟨hloads, hclean, hrises, husable, by rw [htype]; rfl, hturn⟩
          dsimp only
          rw [is_model_turn_of_lookup htype]
          cases hturn : is_model_turn event with
          | false => exact absurd (hconforms fun h => by rw [hturn] at h; cases h) hnot
          | true =>
            rw [if_neg (by simp)]
            refine (scan_turn_steps (hscan.gathers.with_sequence sequence) event).refused ?_ ?_
            · exact fun hover => hquiet (.overflow event hloads hclean hrises husable hturn hover)
            · exact fun hcontinues => hnot (hconforms fun _ => hcontinues)
      | _ =>
        unfold scan_line
        rw [hloads]
  next := by
    intro front scan line hscan hquiet hconforms
    obtain ⟨hloads, hclean, hrises, husable, htyped, hturn⟩ := hconforms
    have hshallow : python.too_deep (.obj (event_at python line)) = false := by
      rw [← Bool.not_eq_true]
      exact fun hdeep => hquiet (.too_deep _ hloads hdeep)
    obtain ⟨sequence, hsequence, hbehind⟩ := id hrises
    obtain ⟨event_type, htype⟩ := Option.isSome_iff_exists.mp htyped
    rw [scan_line_eligible hscan hloads hshallow hclean hsequence hbehind husable, htype]
    dsimp only
    rw [is_model_turn_of_lookup htype]
    -- the sequence is the largest one
    have hlast (n : ℤ) : (some sequence).any (n ≤ ·) = false ↔
        ∀ earlier ∈ sequences python (front ++ [line]), earlier < n := by
      rw [sequences_concat, hsequence, Option.any_some, decide_eq_false_iff_not, not_le]
      constructor
      · intro hn
        refine List.forall_mem_append.mpr ⟨fun earlier hearlier => ?_, List.forall_mem_singleton.mpr hn⟩
        exact (hbehind earlier hearlier).trans hn
      · exact fun h => h sequence (List.mem_append_right _ List.mem_cons_self)
    cases hmodel : is_model_turn (event_at python line) with
    | false =>
      refine ⟨{ scan with last_sequence := some sequence }, if_pos (by simp), hlast, ?_⟩
      rw [turns_in_concat_other hmodel]
      exact hscan.gathers.with_sequence sequence
    | true =>
      rw [if_neg (by simp)]
      have hgathers := hscan.gathers.with_sequence sequence
      obtain ⟨turn, hread, hsession, hvalid⟩ := hturn hmodel
      have hroom : ¬ Overflowing python front (event_at python line) := fun hover =>
        hquiet (.overflow _ hloads hclean hrises husable hmodel hover)
      obtain ⟨cost_total, hstep, hcost⟩ :=
        (scan_turn_steps hgathers (event_at python line)).next hroom turn hread ⟨turn, hread, hsession, hvalid⟩
      refine ⟨_, hstep, hlast, ?_⟩
      rw [turns_in_concat_turn hmodel hread]
      exact hgathers.add (length_tokens_of (turn_of_eq_some.mp hread).2.2.1) hsession hcost

/-! ## The record -/

theorem record_nil (h : Gathers [] scan) : scan.record = .ok none := by
  unfold Scan.record
  rw [(h.unset rfl).1]

/-- The record of a session, unless it breaks its contract. -/
theorem record_eq (h : Gathers session scan) {turn : Turn} (hturn : turn ∈ session) :
    scan.record =
      match (Checked.parse turn.price.1 : Option (Text 1 128)) with
      | none => .error .ValidationError
      | some price_snapshot_id =>
        if ¬ (scan.cost_total.isFinite ∧ 0 ≤ scan.cost_total.decimal.num) then .error .ValidationError
        else .ok (some {
          attempt_id := turn.attempt_id
          experiment_id := turn.stamp.experiment_id
          task_id := turn.stamp.task_id
          mode := turn.stamp.mode
          turns := scan.turns
          prompt_tokens := scan.total_tokens.getD 0 0
          completion_tokens := scan.total_tokens.getD 1 0
          reasoning_tokens := scan.total_tokens.getD 2 0
          cache_hit_tokens := scan.total_tokens.getD 3 0
          cache_miss_tokens := scan.total_tokens.getD 4 0
          total_tokens := scan.total_tokens.getD 5 0
          cost_usd := scan.cost_total.decimal
          price_snapshot_id
          price_band := turn.price.2
          first_recorded_at := scan.first_at
          last_recorded_at := scan.last_at }) := by
  obtain ⟨hidentity, hmeta⟩ := h.set turn hturn
  have hturns : scan.turns ≠ 0 := by
    rw [h.turns]
    exact List.length_pos_of_mem hturn |>.ne'
  unfold Scan.record
  rw [hidentity, hmeta]
  exact if_neg hturns

theorem six_counts : ∀ counts : List ℕ, counts.length = 6 →
    [counts.getD 0 0, counts.getD 1 0, counts.getD 2 0, counts.getD 3 0, counts.getD 4 0, counts.getD 5 0] = counts
  | [_, _, _, _, _, _], _ => rfl

/-- The cost of a session is the rounded sum of its amounts, where it is finite. -/
theorem Gathers.cost (h : Gathers session scan) (hfinite : scan.cost_total.isFinite = true) :
    (∀ turn ∈ session, turn.amount.isFinite = true) ∧
      scan.cost_total.decimal.value = Decimal.roundedSum (session.map fun turn => turn.amount.value) ∧
      scan.cost_total.decimal.InContext := by
  have hsums := h.cost_total
  cases hcost : scan.cost_total with
  | infinity => rw [hcost] at hfinite; cases hfinite
  | nan => rw [hcost] at hfinite; cases hfinite
  | finite negative c e =>
    rw [hcost] at hsums
    obtain ⟨hall, hvalue, hcontext⟩ := hsums
    rw [List.map_map] at hvalue
    exact ⟨fun turn hturn => hall _ (List.mem_map_of_mem hturn), hvalue, hcontext⟩

theorem Gathers.finite (h : Gathers session scan) (hall : ∀ turn ∈ session, turn.amount.isFinite = true) :
    scan.cost_total.isFinite = true := by
  have hsums := h.cost_total
  have hfinite : ∀ amount ∈ session.map Turn.amount, amount.isFinite = true := List.forall_mem_map.mpr hall
  cases hcost : scan.cost_total with
  | finite => rfl
  | infinity negative =>
    rw [hcost] at hsums
    cases hfinite _ hsums.1
  | nan negative signaling payload =>
    rw [hcost] at hsums
    obtain ⟨-, amount, hamount, hnan⟩ := hsums
    rw [Numeral.isNan_of_isFinite (hfinite amount hamount)] at hnan
    cases hnan

theorem num_nonneg_iff (d : Decimal) : 0 ≤ d.num ↔ 0 ≤ d.value := by
  have hden : (0 : ℚ) < d.den := by exact_mod_cast d.den_pos
  unfold Decimal.value
  rw [le_div_iff₀ hden, zero_mul, Int.cast_nonneg_iff]

theorem parse_eq_some {ok : String → Bool} {text : String} {checked : Checked ok} :
    Checked.parse text = some checked ↔ text = checked.text := by
  constructor
  · intro h
    unfold Checked.parse at h
    split_ifs at h
    cases h
    rfl
  · rintro rfl
    exact Checked.parse_text checked

/-- What a record tells of the session of which it is made. -/
structure Reports (session : List Turn) (record : SpoolUsageRecord) : Prop where
  nonempty : session ≠ []
  turns : record.turns = session.length
  tokens : ∀ i, record.tokens.getD i 0 = (session.map fun turn => turn.tokens.getD i 0).sum
  finite : ∀ turn ∈ session, turn.amount.isFinite = true
  cost_usd : record.cost_usd.value = Decimal.roundedSum (session.map fun turn => turn.amount.value)
  nonneg : 0 ≤ record.cost_usd.num
  in_context : record.cost_usd.InContext
  identity : ∀ turn ∈ session, turn.attempt_id = record.attempt_id ∧
    turn.stamp = ⟨record.task_id, record.mode, record.experiment_id⟩ ∧
    turn.price = (record.price_snapshot_id.text, record.price_band)
  first_recorded_at : record.first_recorded_at = (session.map Turn.recorded_at).min?
  last_recorded_at : record.last_recorded_at = (session.map Turn.recorded_at).max?

theorem record_reports (h : Gathers session scan) {record : SpoolUsageRecord}
    (hrecord : scan.record = .ok (some record)) : Reports session record := by
  cases session with
  | nil =>
    rw [record_nil h] at hrecord
    cases hrecord
  | cons turn session =>
    rw [record_eq h List.mem_cons_self] at hrecord
    split at hrecord
    case h_1 => cases hrecord
    case h_2 price_snapshot_id hparse =>
      split_ifs at hrecord with hcost
      cases hrecord
      obtain ⟨hfinite, hvalue, hcontext⟩ := h.cost hcost.1
      refine ⟨List.cons_ne_nil _ _, h.turns, fun i => ?_, hfinite, hvalue, hcost.2, hcontext, fun other hother => ?_,
        h.first_at, h.last_at⟩
      · rw [← h.tokens, ← six_counts _ h.size]
        rfl
      · obtain ⟨hidentity, hmeta⟩ := h.set turn List.mem_cons_self
        obtain ⟨hidentity', hmeta'⟩ := h.set other hother
        obtain ⟨hattempt, hstamp⟩ := Prod.mk.inj (Option.some.inj (hidentity'.symm.trans hidentity))
        have hprice := Option.some.inj (hmeta'.symm.trans hmeta)
        refine ⟨hattempt, hstamp, ?_⟩
        rw [hprice, ← parse_eq_some.mp hparse]

theorem Reports.summarises {record : SpoolUsageRecord} (h : Reports session record)
    (hexact : Decimal.roundedSum (session.map fun turn => turn.amount.value) =
      (session.map fun turn => turn.amount.value).sum) : Summarises session record :=
  ⟨h.turns, h.tokens, h.finite, h.cost_usd.trans hexact, h.identity, h.first_recorded_at, h.last_recorded_at⟩

/-- A record that tells the exact cost is of a session that a record can hold. -/
theorem Reports.holdable {record : SpoolUsageRecord} (h : Reports session record)
    (hsummary : Summarises session record) : Holdable session where
  finite := h.finite
  exact := h.cost_usd.symm.trans hsummary.cost_usd
  nonneg := hsummary.cost_usd ▸ (num_nonneg_iff _).mp h.nonneg
  price turn hturn := by
    have hpasses := record.price_snapshot_id.passes
    rw [Bool.and_eq_true, decide_eq_true_iff, decide_eq_true_iff] at hpasses
    rw [(h.identity turn hturn).2.2]
    exact hpasses.2

theorem record_holdable (h : Gathers session scan) (hholdable : Holdable session)
    (hnamed : ∀ turn ∈ session, turn.price.1 ≠ "") (hturns : session ≠ []) :
    ∃ record, scan.record = .ok (some record) := by
  obtain ⟨turn, hturn⟩ := List.exists_mem_of_ne_nil session hturns
  have hfits : (decide (1 ≤ turn.price.1.length) && decide (turn.price.1.length ≤ 128)) = true := by
    rw [Bool.and_eq_true, decide_eq_true_iff, decide_eq_true_iff]
    refine ⟨Nat.one_le_iff_ne_zero.mpr fun hzero => hnamed turn hturn ?_, hholdable.price turn hturn⟩
    exact String.length_eq_zero_iff.mp hzero
  have hfinite := h.finite hholdable.finite
  have hcost : scan.cost_total.isFinite = true ∧ 0 ≤ scan.cost_total.decimal.num := by
    refine ⟨hfinite, (num_nonneg_iff _).mpr ?_⟩
    rw [(h.cost hfinite).2.1, hholdable.exact]
    exact hholdable.nonneg
  have hparse : Checked.parse turn.price.1 = some (⟨turn.price.1, hfits⟩ : Text 1 128) := parse_eq_some.mpr rfl
  rw [record_eq h hturn, hparse]
  dsimp only
  rw [if_neg (not_not.mpr hcost)]
  exact ⟨_, rfl⟩

/-! ## Files and directories -/

theorem price_of_eq_some {cost : Fields φ} {price : String × String} (h : price_of cost = some price) :
    price.1 ≠ "" ∧ price.2 ∈ ["peak", "off_peak"] := by
  unfold price_of at h
  split at h
  · split_ifs at h with hbad
    rw [← Option.some.inj h]
    rw [not_or, not_not] at hbad
    exact hbad
  · cases h

theorem priced_turns {lines : List (List Char)} {turn : Turn} (h : turn ∈ turns_in python lines) :
    turn.price.1 ≠ "" ∧ turn.price.2 ∈ ["peak", "off_peak"] := by
  obtain ⟨line, -, hline⟩ := List.mem_filterMap.mp h
  split_ifs at hline
  obtain ⟨-, -, -, -, hprice, -⟩ := turn_of_eq_some.mp hline
  exact price_of_eq_some hprice

theorem holdable_nil : Holdable [] where
  finite _ h := absurd h List.not_mem_nil
  exact := rfl
  nonneg := le_refl _
  price _ h := absurd h List.not_mem_nil

theorem scan_file_eq {result : Option Scan} (file : List Char)
    (h : FailClosed.scan (scan_line python) Scan.start (lines_in file) = .ok result) :
    scan_file python file = result.elim (.ok none) Scan.record := by
  unfold scan_file
  rw [h]
  cases result <;> rfl

/-- A file that has a record has the event schema, and the record tells of its turns. -/
theorem scan_file_some {file : List Char} {record : SpoolUsageRecord}
    (h : scan_file python file = .ok (some record)) :
    WellFormed python file ∧ Reports (turns_in python (lines_in file)) record := by
  have hquiet : FailClosed.Quiet (Conforms python) (Escapes python) (lines_in file) := by
    by_contra hloud
    obtain ⟨e, he⟩ := FailClosed.scan_loud scan_line_steps scanned_nil hloud
    unfold scan_file at h
    rw [he] at h
    cases h
  obtain ⟨haccepted, hrefused⟩ := FailClosed.scan_quiet scan_line_steps scanned_nil hquiet
  by_cases hformed : WellFormed python file
  · obtain ⟨last, hscan, hlast⟩ := haccepted hformed
    exact ⟨hformed, record_reports hlast.gathers ((scan_file_eq file hscan).symm.trans h)⟩
  · rw [scan_file_eq file (hrefused hformed)] at h
    cases h

/-- **A file is scanned exactly if it is fit, and only then.** -/
theorem scans_exactly_iff (file : List Char) : ScansExactly python file ↔ Fit python file := by
  have hsteps : FailClosed.Steps (scan_line python) (Conforms python) (Escapes python) (Scanned python) :=
    scan_line_steps
  constructor
  · rintro ⟨⟨result, hresult⟩, -, hreports, hexact⟩
    have hquiet : FailClosed.Quiet (Conforms python) (Escapes python) (lines_in file) := by
      by_contra hloud
      obtain ⟨e, he⟩ := FailClosed.scan_loud hsteps scanned_nil hloud
      unfold scan_file at hresult
      rw [he] at hresult
      cases hresult
    refine ⟨hquiet, fun hformed => ?_⟩
    by_cases hturns : turns_in python (lines_in file) = []
    · rw [hturns]
      exact holdable_nil
    · obtain ⟨record, hrecord⟩ := hreports hformed hturns
      exact (scan_file_some hrecord).2.holdable (hexact record hrecord)
  · rintro ⟨hquiet, hholdable⟩
    obtain ⟨haccepted, hrefused⟩ := FailClosed.scan_quiet hsteps scanned_nil hquiet
    by_cases hformed : WellFormed python file
    · obtain ⟨last, hscan, hlast⟩ := haccepted hformed
      have hrecord := scan_file_eq file hscan
      have hmade := record_holdable hlast.gathers (hholdable hformed) fun turn hturn => (priced_turns hturn).1
      refine ⟨?_, fun h => absurd hformed h, fun _ hturns => ?_, fun record hsome => ?_⟩
      · by_cases hturns : turns_in python (lines_in file) = []
        · rw [hrecord]
          exact ⟨none, record_nil (hturns ▸ hlast.gathers)⟩
        · obtain ⟨record, hsome⟩ := hmade hturns
          exact ⟨some record, hrecord.trans hsome⟩
      · obtain ⟨record, hsome⟩ := hmade hturns
        exact ⟨record, hrecord.trans hsome⟩
      · exact (scan_file_some hsome).2.summarises (hholdable hformed).exact
    · have hnone := scan_file_eq file (hrefused hformed)
      refine ⟨⟨none, hnone⟩, fun _ => hnone, fun h => absurd h hformed, fun record hsome => ?_⟩
      rw [hnone] at hsome
      cases hsome

variable (python)

/-- **No file of a directory aborts its scan, or changes what is reported of the others.** -/
structure ScansFailClosed (files : List (List Char)) : Prop where
  exactly : ∀ file ∈ files, ScansExactly python file
  /-- The report is put together from what each file has for itself. -/
  report : ∃ results report, List.Forall₂ (fun file result => scan_file python file = .ok result) files results ∧
    scan_spool_dir python (some files) = .ok report ∧ report.records = results.filterMap id ∧
    report.files_scanned = files.length ∧ report.files_skipped = results.countP Option.isNone

/-- **A directory is scanned fail-closed and exactly if each of its files is fit, and only then.** -/
theorem scans_fail_closed_iff (files : List (List Char)) :
    ScansFailClosed python files ↔ ∀ file ∈ files, Fit python file := by
  constructor
  · exact fun h file hfile => (scans_exactly_iff file).mp (h.exactly file hfile)
  · intro hfit
    have hexactly : ∀ file ∈ files, ScansExactly python file := fun file hfile =>
      (scans_exactly_iff file).mpr (hfit file hfile)
    obtain ⟨results, hresults, hall⟩ := mapM_forall₂ (f := scan_file python) (P := fun file result =>
      scan_file python file = .ok result) fun file hfile =>
        (hexactly file hfile).returns.imp fun result hresult => ⟨hresult, hresult⟩
    refine ⟨hexactly, results, ⟨results.filterMap id, results.length, results.countP Option.isNone⟩, hall, ?_, rfl,
      hall.length_eq.symm, rfl⟩
    unfold scan_spool_dir
    dsimp only
    rw [hresults]
    rfl

/-! ## An event without a type -/

/-- A reader of lines that are short, with the unused functions of the clock and the ids left out. -/
def shortPython : Python Unit where
  loads line := ((JsonValue.loads FloatText.half line).map Loaded.value).getD .JSONDecodeError
  too_deep _ := false
  str := strOnly
  unicode _ := none
  uuid _ := none
  fromisoformat _ := none

/-- A line with all that `_usable_turn` asks for. -/
def untypedLine : List Char :=
  (JsonValue.obj [("sequence", .int 1), ("task_id", .str "task-1"), ("mode", .str "c"),
    ("experiment_id", .str "experiment-1"), ("recorded_at", .str "2026-07-01T00:00:00+00:00"),
    ("payload", .obj [("usage", .obj (USAGE_KEYS.map fun key => (key, .int 0))),
      ("cost", .obj [("amount", .str "0")])])] : JsonValue Unit).dumps FloatText.half 1

/-- A usable line without an event type aborts the scan. -/
theorem untyped_line_raises : ¬ ScansFailClosed shortPython [untypedLine] := by
  intro h
  obtain ⟨result, hresult⟩ := (h.exactly untypedLine List.mem_cons_self).returns
  have hraises : (match scan_file shortPython untypedLine with
      | .error .KeyError => true
      | _ => false) = true := by decide +kernel
  rw [hresult] at hraises
  cases hraises

end CommerceAgent.Evaluation
