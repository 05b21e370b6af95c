import CommerceAgent.Evaluation.Contracts
import CommerceAgent.Lib.JsonLine
import CommerceAgent.Lib.Lines
import Mathlib.Data.List.Infix

/-!
# The spool and the event log

One JSON object a line. The writers end a line with `"\n"`, and the readers end it wherever `str.splitlines` does.
-/

open CommerceAgent.Lib
open CommerceAgent.Operations (UUID Text HexDigest)

namespace CommerceAgent.Evaluation

/-! ## Events -/

/-- A `dict[str, object]` of JSON values. -/
structure Event (φ : Type) where
  fields : List (String × JsonValue φ)
  distinct : (JsonValue.obj fields).Distinct

variable {φ : Type}

namespace Event

def value (event : Event φ) : JsonValue φ := .obj event.fields

/-- `json.dumps(event, ensure_ascii=False, sort_keys=True) + "\n"`. -/
def line (floats : FloatText φ) (event : Event φ) : List Char := event.value.dumps floats 1 ++ ['\n']

end Event

/-! ## Writing -/

inductive SpoolError where
  /-- `SpoolValidationError(reason_code)`. -/
  | validation (reason_code : String)
  /-- What Python or pydantic raises. -/
  | raised
  deriving DecidableEq

structure SpoolWriter where
  max_bytes : ℕ
  positive : 0 < max_bytes

def DEFAULT_MAX_BYTES : ℕ := 33554432

/-- `SpoolWriter.append`, on the bytes of the file. -/
def SpoolWriter.append (floats : FloatText φ) (writer : SpoolWriter) (file : List UInt8) (event : Event φ) :
    Except SpoolError (List UInt8) :=
  let encoded := utf8 (String.ofList (event.line floats))
  if writer.max_bytes < file.length + encoded.length then .error (.validation "spool_size_cap_exceeded")
  else .ok (file ++ encoded)

/-! ## Importing -/

/-- `str` of a JSON value. -/
structure StrText (φ : Type) where
  str : JsonValue φ → String
  str_str : ∀ s, str (.str s) = s

def FORBIDDEN_KEY_TOKENS : List String := ["sol_sql", "test_case", "gold", "evaluator"]

/-- A token is in `str(key).lower()`. The tokens have no letter that another character than its capital lowers to. -/
def forbidden (key : String) : Bool :=
  FORBIDDEN_KEY_TOKENS.any fun token => token.toList <:+: key.toList.map Char.toLower

mutual

/-- `_reject_forbidden_keys(value)` raises. -/
def reject_forbidden_keys : JsonValue φ → Bool
  | .obj kvs => reject_fields kvs
  | .arr xs => reject_items xs
  | _ => false

def reject_fields : List (String × JsonValue φ) → Bool
  | [] => false
  | (key, child) :: kvs => forbidden key || reject_forbidden_keys child || reject_fields kvs

def reject_items : List (JsonValue φ) → Bool
  | [] => false
  | child :: xs => reject_forbidden_keys child || reject_items xs

end

def REQUIRED : List String := ["run_scope_digest", "attempt_id", "phase", "sequence", "event_type", "payload"]

/-- `_parse_event(line)`: the fields of the event, and its sequence. -/
def parse_event (floats : FloatText φ) (line : List Char) : Except SpoolError (List (String × JsonValue φ) × ℤ) :=
  match JsonValue.loads floats line with
  | none => .error (.validation "spool_line_not_json")
  | some (.obj fields) =>
    if ¬ ∀ key ∈ REQUIRED, key ∈ fields.map Prod.fst then .error (.validation "spool_event_schema_invalid")
    else match fields.lookup "sequence" with
      | some (.int sequence) =>
        match fields.lookup "payload" with
        | some (.obj _) =>
          if reject_fields fields then .error (.validation "forbidden_payload_key") else .ok (fields, sequence)
        | _ => .error (.validation "spool_event_schema_invalid")
      | _ => .error (.validation "spool_event_schema_invalid")
  | some _ => .error (.validation "spool_line_not_object")

def isText (value : Option (JsonValue φ)) (text : String) : Bool :=
  match value with
  | some (.str s) => s = text
  | _ => false

/-- What the loop over the lines has gathered: with the last sequence of each phase and the count, the events. -/
structure Imported (φ : Type) where
  last_sequence : Dict String ℤ
  event_count : ℕ
  events : List (JsonValue φ)

/-- The loop body of `validate_and_import`. -/
def import_line (floats : FloatText φ) (python : StrText φ) (run_scope_digest : String) (attempt_id : UUID)
    (imported : Imported φ) (line : List Char) : Except SpoolError (Imported φ) :=
  if ¬ line.any (fun c => !isSpace c) then .ok imported
  else
    match parse_event floats line with
    | .error e => .error e
    | .ok (fields, sequence) =>
      if ¬ isText (fields.lookup "run_scope_digest") run_scope_digest then .error (.validation "spool_scope_mismatch")
      else if ¬ isText (fields.lookup "attempt_id") attempt_id.text then .error (.validation "spool_attempt_mismatch")
      else
        let phase := python.str ((fields.lookup "phase").getD .null)
        if (imported.last_sequence.get? phase).any fun last => sequence ≤ last then
          .error (.validation "spool_sequence_regression")
        else .ok {
          last_sequence := imported.last_sequence.set phase sequence
          event_count := imported.event_count + 1
          events := imported.events ++ [.obj fields] }

/-- The loop over the lines of the decoded file. -/
def import_lines (floats : FloatText φ) (python : StrText φ) (run_scope_digest : String) (attempt_id : UUID)
    (text : List Char) : Except SpoolError (Imported φ) :=
  (splitlines text).foldlM (import_line floats python run_scope_digest attempt_id) ⟨Dict.empty, 0, []⟩

structure SpoolReceipt where
  attempt_id : UUID
  event_count : ℕ
  spool_sha256 : HexDigest
  archive_path : Text 1 1024

structure SpoolImporter where
  archive_dir : String
  max_bytes : ℕ
  sha256 : List UInt8 → HexDigest

/-- `str(self._archive_dir / f"{attempt_id}.jsonl")`. -/
def SpoolImporter.archive_path (importer : SpoolImporter) (attempt_id : UUID) : String :=
  let name := attempt_id.text ++ ".jsonl"
  if importer.archive_dir = "." then name
  else if importer.archive_dir.toList.getLast? = some '/' then importer.archive_dir ++ name
  else importer.archive_dir ++ "/" ++ name

/-- `validate_and_import`, on a path where the file has these bytes, if it is there. -/
def SpoolImporter.validate_and_import (floats : FloatText φ) (python : StrText φ) (importer : SpoolImporter)
    (file : Option (List UInt8)) (run_scope_digest : String) (attempt_id : UUID) : Except SpoolError SpoolReceipt :=
  match file with
  | none => .error (.validation "spool_file_missing")
  | some raw =>
    if importer.max_bytes < raw.length then .error (.validation "spool_size_cap_exceeded")
    else match ofUtf8 raw with
      | none => .error .raised
      | some text =>
        match import_lines floats python run_scope_digest attempt_id text.toList with
        | .error e => .error e
        | .ok imported =>
          let path := importer.archive_path attempt_id
          if h : (decide (1 ≤ path.length) && decide (path.length ≤ 1024)) = true then
            .ok ⟨attempt_id, imported.event_count, importer.sha256 raw, ⟨path, h⟩⟩
          -- the file is moved, and the receipt refuses its path
          else .error .raised

/-! ## The event log -/

/-- `EvaluationEventLog.append`. -/
def log_append (floats : FloatText φ) (file : List UInt8) (event : Event φ) : List UInt8 :=
  file ++ utf8 (String.ofList (event.line floats))

/-- `EvaluationEventLog.read_all`, or nothing where it raises. -/
def read_all (floats : FloatText φ) (file : List UInt8) : Option (List (JsonValue φ)) := do
  let text ← ofUtf8 file
  (nonblank (splitlines (universalNewlines text.toList))).mapM (JsonValue.loads floats)

/-! ## The texts that the writers leave -/

variable (floats : FloatText φ)

theorem utf8_append (a b : List Char) :
    utf8 (String.ofList (a ++ b)) = utf8 (String.ofList a) ++ utf8 (String.ofList b) := by
  unfold utf8
  simp [String.ofList_append]

def lines_of (events : List (Event φ)) : List Char := events.flatMap (Event.line floats)

theorem lines_of_cons (event : Event φ) (events : List (Event φ)) :
    lines_of floats (event :: events) = event.line floats ++ lines_of floats events := rfl

theorem append_all {writer : SpoolWriter} {events : List (Event φ)} {file after : List UInt8}
    (h : events.foldlM (writer.append floats) file = .ok after) (hfile : file.length ≤ writer.max_bytes) :
    after = file ++ utf8 (String.ofList (lines_of floats events)) ∧ after.length ≤ writer.max_bytes := by
  induction events generalizing file with
  | nil =>
    cases h
    exact ⟨by simp [lines_of, utf8], hfile⟩
  | cons event events ih =>
    rw [List.foldlM_cons] at h
    unfold SpoolWriter.append at h
    dsimp only at h
    split_ifs at h with hcap
    · cases h
    · obtain ⟨hafter, hlength⟩ := ih h (by rw [List.length_append]; omega)
      refine ⟨?_, hlength⟩
      rw [hafter, lines_of_cons, utf8_append, List.append_assoc]

theorem append_within (writer : SpoolWriter) (events : List (Event φ)) (file : List UInt8)
    (h : (file ++ utf8 (String.ofList (lines_of floats events))).length ≤ writer.max_bytes) :
    events.foldlM (writer.append floats) file = .ok (file ++ utf8 (String.ofList (lines_of floats events))) := by
  induction events generalizing file with
  | nil => simp [lines_of, utf8, pure, Except.pure]
  | cons event events ih =>
    rw [lines_of_cons, utf8_append, ← List.append_assoc] at h ⊢
    have hfits : ¬ writer.max_bytes < file.length + (utf8 (String.ofList (event.line floats))).length := by
      rw [List.length_append, List.length_append] at h
      omega
    rw [List.foldlM_cons, SpoolWriter.append, if_neg hfits]
    exact ih _ h

theorem log_append_all (events : List (Event φ)) (file : List UInt8) :
    events.foldl (log_append floats) file = file ++ utf8 (String.ofList (lines_of floats events)) := by
  induction events generalizing file with
  | nil => simp [lines_of, utf8]
  | cons event events ih => rw [List.foldl_cons, ih, lines_of_cons, utf8_append, log_append, List.append_assoc]

/-! ## The lines that the readers see -/

/-- The characters that `json.dumps` keeps and `str.splitlines` ends a line at. -/
def Unbroken (event : Event φ) : Prop :=
  ∀ e ∈ event.value.strings, ∀ c ∈ e.2.toList, c.toNat ∉ [0x85, 0x2028, 0x2029]

theorem unbroken_iff {event : Event φ} :
    Unbroken event ↔ ∀ c ∈ event.value.dumps floats 1, isLineBreak c = false := by
  have hforeign {c : Char} (hc : isLineBreak c = true) : ¬ JsonValue.Printable c := by
    unfold isLineBreak at hc
    unfold JsonValue.Printable
    simp only [List.mem_cons, List.not_mem_nil, or_false, decide_eq_true_eq] at hc
    omega
  have hkept {c : Char} : (isLineBreak c = true ∧ 127 ≤ c.toNat) ↔ c.toNat ∈ [0x85, 0x2028, 0x2029] := by
    unfold isLineBreak
    simp only [List.mem_cons, List.not_mem_nil, or_false, decide_eq_true_eq]
    omega
  unfold Unbroken JsonValue.dumps
  constructor
  · intro h c hc
    by_contra hbreak
    rw [Bool.not_eq_false] at hbreak
    obtain ⟨hlow, e, he, hmem⟩ := (JsonValue.mem_write floats 1 (hforeign hbreak)).mp hc
    exact h e (JsonValue.mem_strings_sortKeys.mp he) c hmem (hkept.mp ⟨hbreak, hlow⟩)
  · intro h e he c hc hmem
    obtain ⟨hbreak, hlow⟩ := hkept.mpr hmem
    have hin := (JsonValue.mem_write floats 1 (hforeign hbreak)).mpr
      ⟨hlow, e, JsonValue.mem_strings_sortKeys.mpr he, hc⟩
    rw [h c hin] at hbreak
    cases hbreak

theorem dumps_braces (event : Event φ) : ∃ text, event.value.dumps floats 1 = '{' :: text ++ ['}'] :=
  JsonValue.write_obj_braces floats 1 _

theorem event_lines (event : Event φ) :
    (Unbroken event → nonblank (splitFrom [] (event.line floats)) = [event.value.dumps floats 1]) ∧
      (¬ Unbroken event → 1 < (nonblank (splitFrom [] (event.line floats))).length) := by
  obtain ⟨text, htext⟩ := dumps_braces floats event
  have hopen : isSpace '{' = false := by decide
  have hclose : isSpace '}' = false := by decide
  unfold Event.line
  rw [unbroken_iff floats]
  constructor
  · intro h
    rw [splitFrom_one h, htext]
    simp [nonblank, hopen]
  · intro h
    push Not at h
    obtain ⟨c, hc, hbreak⟩ := h
    rw [ne_eq, Bool.not_eq_false] at hbreak
    rw [htext] at hc ⊢
    refine broken_line ⟨c, ?_, hbreak⟩ hopen hclose
    have hne {d : Char} (hd : isSpace d = false) : c ≠ d := by
      rintro rfl
      rw [isLineBreak_of_isSpace hd] at hbreak
      cases hbreak
    simpa [hne hopen, hne hclose] using hc

theorem nonblank_lines (events : List (Event φ)) : nonblank (splitlines (lines_of floats events)) =
    events.flatMap fun event => nonblank (splitFrom [] (event.line floats)) := by
  induction events with
  | nil => rfl
  | cons event events ih =>
    rw [lines_of_cons, List.flatMap_cons, ← ih, Event.line, splitlines, List.append_assoc, List.singleton_append,
      splitFrom_line, nonblank_append]
    rfl

theorem unbroken_lines {events : List (Event φ)} (h : ∀ event ∈ events, Unbroken event) :
    nonblank (splitlines (lines_of floats events)) = events.map fun event => event.value.dumps floats 1 := by
  rw [nonblank_lines]
  induction events with
  | nil => rfl
  | cons event events ih =>
    rw [List.flatMap_cons, (event_lines floats event).1 (h event List.mem_cons_self),
      ih fun other hother => h other (List.mem_cons_of_mem _ hother)]
    rfl

theorem unbroken_of_length {events : List (Event φ)}
    (h : (nonblank (splitlines (lines_of floats events))).length = events.length) :
    ∀ event ∈ events, Unbroken event := by
  rw [nonblank_lines, List.length_flatMap] at h
  have hone (event : Event φ) : 1 ≤ (nonblank (splitFrom [] (event.line floats))).length := by
    by_cases hbroken : Unbroken event
    · rw [(event_lines floats event).1 hbroken]
      rfl
    · exact le_of_lt ((event_lines floats event).2 hbroken)
  have hle (events : List (Event φ)) :
      events.length ≤ (events.map fun event => (nonblank (splitFrom [] (event.line floats))).length).sum := by
    induction events with
    | nil => exact le_refl _
    | cons event events ih =>
      have := hone event
      simp only [List.map_cons, List.sum_cons, List.length_cons]
      omega
  intro event hevent
  by_contra hbroken
  have hmore := (event_lines floats event).2 hbroken
  obtain ⟨front, back, rfl⟩ := List.append_of_mem hevent
  have hfront := hle front
  have hback := hle back
  simp only [List.map_append, List.map_cons, List.sum_append, List.sum_cons, List.length_append, List.length_cons] at h
  omega

theorem loads_event (event : Event φ) :
    JsonValue.loads floats (event.value.dumps floats 1) = some event.value.sortKeys :=
  JsonValue.loads_dumps floats 1 event.distinct

/-! ## The event log -/

theorem return_not_mem (events : List (Event φ)) : '\r' ∉ lines_of floats events := by
  intro h
  obtain ⟨event, -, hmem⟩ := List.mem_flatMap.mp h
  unfold Event.line at hmem
  rcases List.mem_append.mp hmem with hmem | hmem
  · have hlow := ((JsonValue.mem_write floats 1 (by decide : ¬ JsonValue.Printable '\r')).mp hmem).1
    exact absurd hlow (by decide)
  · exact absurd hmem (by decide)

theorem mapM_length {α β : Type} {f : α → Option β} {xs : List α} {ys : List β} (h : xs.mapM f = some ys) :
    ys.length = xs.length := by
  induction xs generalizing ys with
  | nil =>
    cases h
    rfl
  | cons x xs ih =>
    rw [List.mapM_cons] at h
    obtain ⟨y, -, h⟩ := Option.bind_eq_some_iff.mp h
    obtain ⟨zs, hzs, h⟩ := Option.bind_eq_some_iff.mp h
    cases h
    rw [List.length_cons, List.length_cons, ih hzs]

theorem read_all_iff (events : List (Event φ)) :
    read_all floats (events.foldl (log_append floats) []) = some (events.map fun event => event.value.sortKeys) ↔
      ∀ event ∈ events, Unbroken event := by
  unfold read_all
  rw [log_append_all, List.nil_append, ofUtf8_utf8, Option.bind_eq_bind, Option.bind_some, String.toList_ofList,
    universalNewlines_of_not_mem (return_not_mem floats events)]
  constructor
  · intro h
    refine unbroken_of_length floats ?_
    rw [← mapM_length h, List.length_map]
  · intro h
    rw [unbroken_lines floats h]
    clear h
    induction events with
    | nil => rfl
    | cons event events ih =>
      rw [List.map_cons, List.mapM_cons, loads_event, ih]
      rfl

/-! ## The importer -/

/-- An event of this attempt that has what the importer asks for. -/
structure Admissible (run_scope_digest : String) (attempt_id : UUID) (event : Event φ) : Prop where
  run_scope_digest : event.fields.lookup "run_scope_digest" = some (.str run_scope_digest)
  attempt_id : event.fields.lookup "attempt_id" = some (.str attempt_id.text)
  phase : ∃ phase, event.fields.lookup "phase" = some (.str phase)
  sequence : ∃ sequence, event.fields.lookup "sequence" = some (.int sequence)
  event_type : ∃ event_type, event.fields.lookup "event_type" = some (.str event_type)
  payload : ∃ payload, event.fields.lookup "payload" = some (.obj payload)
  keys : ∀ e ∈ event.value.strings, e.1 = true → forbidden e.2 = false

/-- Within a phase the sequence grows. -/
def Grows (a b : Event φ) : Prop :=
  ∀ phase m n, a.fields.lookup "phase" = some (.str phase) → b.fields.lookup "phase" = some (.str phase) →
    a.fields.lookup "sequence" = some (.int m) → b.fields.lookup "sequence" = some (.int n) → m < n

theorem reject_items_eq (xs : List (JsonValue φ)) : reject_items xs = xs.any reject_forbidden_keys := by
  induction xs with
  | nil => rfl
  | cons x xs ih => rw [reject_items, ih, List.any_cons]

theorem reject_fields_eq (kvs : List (String × JsonValue φ)) :
    reject_fields kvs = kvs.any fun kv => forbidden kv.1 || reject_forbidden_keys kv.2 := by
  induction kvs with
  | nil => rfl
  | cons kv kvs ih => rw [reject_fields, ih, List.any_cons]

theorem reject_forbidden_keys_iff {v : JsonValue φ} :
    reject_forbidden_keys v = true ↔ ∃ e ∈ v.strings, e.1 = true ∧ forbidden e.2 = true := by
  induction v using JsonValue.parts_induction with
  | null | bool | int | float => simp [reject_forbidden_keys, JsonValue.strings]
  | str s => simp [reject_forbidden_keys, JsonValue.strings]
  | arr xs ih =>
    unfold reject_forbidden_keys JsonValue.strings
    rw [reject_items_eq, List.any_eq_true]
    simp only [JsonValue.mem_stringsOfItems]
    constructor
    · rintro ⟨x, hx, h⟩
      obtain ⟨e, he, hforbidden⟩ := (ih x hx).mp h
      exact ⟨e, ⟨x, hx, he⟩, hforbidden⟩
    · rintro ⟨e, ⟨x, hx, he⟩, hforbidden⟩
      exact ⟨x, hx, (ih x hx).mpr ⟨e, he, hforbidden⟩⟩
  | obj kvs ih =>
    unfold reject_forbidden_keys JsonValue.strings
    rw [reject_fields_eq, List.any_eq_true]
    simp only [JsonValue.mem_stringsOfFields, Bool.or_eq_true]
    constructor
    · rintro ⟨kv, hkv, h | h⟩
      · exact ⟨(true, kv.1), ⟨kv, hkv, Or.inl rfl⟩, rfl, h⟩
      · obtain ⟨e, he, hforbidden⟩ := (ih kv hkv).mp h
        exact ⟨e, ⟨kv, hkv, Or.inr he⟩, hforbidden⟩
    · rintro ⟨e, ⟨kv, hkv, rfl | he⟩, htrue, hforbidden⟩
      · exact ⟨kv, hkv, Or.inl hforbidden⟩
      · exact ⟨kv, hkv, Or.inr ((ih kv hkv).mpr ⟨e, he, htrue, hforbidden⟩)⟩

/-- The fields of an event, as they are read. -/
def Event.sorted (event : Event φ) : List (String × JsonValue φ) :=
  (JsonValue.sortFields event.fields).insertionSort JsonValue.key_le

theorem Event.lookup_sorted {event : Event φ} {key : String} {v : JsonValue φ} (h : event.fields.lookup key = some v) :
    event.sorted.lookup key = some v.sortKeys := by
  have hdistinct := event.distinct
  unfold JsonValue.Distinct at hdistinct
  exact JsonValue.lookup_sortedFields hdistinct.1 h

variable {run_scope_digest : String} {attempt_id : UUID}

theorem parse_dumps {event : Event φ} (h : Admissible run_scope_digest attempt_id event) {n : ℤ}
    (hn : event.fields.lookup "sequence" = some (.int n)) :
    parse_event floats (event.value.dumps floats 1) = .ok (event.sorted, n) := by
  obtain ⟨phase, hphase⟩ := h.phase
  obtain ⟨event_type, htype⟩ := h.event_type
  obtain ⟨payload, hpayload⟩ := h.payload
  have hkey {key : String} {v : JsonValue φ} (hlookup : event.fields.lookup key = some v) :
      key ∈ event.sorted.map Prod.fst := by
    obtain ⟨front, back, heq, -⟩ := List.lookup_eq_some_iff.mp (Event.lookup_sorted hlookup)
    rw [heq]
    simp
  have hrequired : ∀ key ∈ REQUIRED, key ∈ event.sorted.map Prod.fst := by
    unfold REQUIRED
    simp only [List.forall_mem_cons]
    exact ⟨hkey h.run_scope_digest, hkey h.attempt_id, hkey hphase, hkey hn, hkey htype, hkey hpayload, by simp⟩
  have hclean : reject_fields event.sorted = false := by
    by_contra hreject
    rw [Bool.not_eq_false] at hreject
    obtain ⟨e, he, htrue, hforbidden⟩ := (reject_forbidden_keys_iff (v := event.value.sortKeys)).mp hreject
    rw [h.keys e (JsonValue.mem_strings_sortKeys.mp he) htrue] at hforbidden
    cases hforbidden
  have hloads : JsonValue.loads floats (event.value.dumps floats 1) = some (.obj event.sorted) :=
    loads_event floats event
  unfold parse_event
  rw [hloads]
  dsimp only
  rw [if_neg (not_not.mpr hrequired), Event.lookup_sorted hn, Event.lookup_sorted hpayload]
  simp [JsonValue.sortKeys, hclean]

/-- One event is taken when its sequence is above the last one of its phase. -/
theorem import_dumps (python : StrText φ) {event : Event φ} (h : Admissible run_scope_digest attempt_id event)
    {phase : String} {n : ℤ} (hphase : event.fields.lookup "phase" = some (.str phase))
    (hn : event.fields.lookup "sequence" = some (.int n)) {imported : Imported φ}
    (habove : ∀ last, imported.last_sequence.get? phase = some last → last < n) :
    import_line floats python run_scope_digest attempt_id imported (event.value.dumps floats 1) = .ok
      ⟨imported.last_sequence.set phase n, imported.event_count + 1, imported.events ++ [event.value.sortKeys]⟩ := by
  obtain ⟨text, htext⟩ := dumps_braces floats event
  have hblank : ((event.value.dumps floats 1).any fun c => !isSpace c) = true := by
    rw [htext]
    simp [(by decide : isSpace '{' = false)]
  have hlast : ¬ ((imported.last_sequence.get? phase).any fun last => decide (n ≤ last)) = true := by
    intro hany
    obtain ⟨last, hget, hle⟩ := Option.any_eq_true .. |>.mp hany
    have := habove last hget
    rw [decide_eq_true_eq] at hle
    omega
  unfold import_line
  rw [if_neg (not_not.mpr hblank), parse_dumps floats h hn]
  dsimp only
  rw [Event.lookup_sorted h.run_scope_digest, Event.lookup_sorted h.attempt_id, Event.lookup_sorted hphase]
  simp only [JsonValue.sortKeys, isText, Option.getD_some, python.str_str, decide_true, not_true_eq_false, if_false]
  rw [if_neg hlast]
  rfl

theorem import_events (python : StrText φ) {events : List (Event φ)}
    (hadmissible : ∀ event ∈ events, Admissible run_scope_digest attempt_id event) (hgrows : events.Pairwise Grows)
    (imported : Imported φ) (habove : ∀ event ∈ events, ∀ phase n last,
      event.fields.lookup "phase" = some (.str phase) → event.fields.lookup "sequence" = some (.int n) →
        imported.last_sequence.get? phase = some last → last < n) :
    ∃ after, (events.map fun event => event.value.dumps floats 1).foldlM
        (import_line floats python run_scope_digest attempt_id) imported = .ok after ∧
      after.event_count = imported.event_count + events.length ∧
      after.events = imported.events ++ events.map fun event => event.value.sortKeys := by
  induction events generalizing imported with
  | nil => exact ⟨imported, rfl, rfl, by simp⟩
  | cons event events ih =>
    obtain ⟨hfirst, hrest⟩ := List.pairwise_cons.mp hgrows
    have hown := hadmissible event List.mem_cons_self
    obtain ⟨phase, hphase⟩ := hown.phase
    obtain ⟨n, hn⟩ := hown.sequence
    have hstep := import_dumps floats python hown hphase hn
      fun last hlast => habove event List.mem_cons_self phase n last hphase hn hlast
    rw [List.map_cons, List.foldlM_cons, hstep]
    obtain ⟨after, hafter, hcount, hevents⟩ := ih
      (fun other hother => hadmissible other (List.mem_cons_of_mem _ hother)) hrest
      ⟨imported.last_sequence.set phase n, imported.event_count + 1, imported.events ++ [event.value.sortKeys]⟩
      (fun other hother phase' m last hphase' hm hlast => by
      dsimp only at hlast
      by_cases hsame : phase' = phase
      · subst hsame
        rw [Dict.get?_set_self] at hlast
        cases hlast
        exact hfirst other hother phase' n m hphase hphase' hn hm
      · rw [Dict.get?_set_of_ne hsame] at hlast
        exact habove other (List.mem_cons_of_mem _ hother) phase' m last hphase' hm hlast)
    refine ⟨after, hafter, ?_, ?_⟩
    · rw [hcount, List.length_cons]
      dsimp only
      omega
    · rw [hevents, List.map_cons, List.append_assoc]
      rfl

theorem import_nonblank (python : StrText φ) (lines : List (List Char)) (imported : Imported φ) :
    lines.foldlM (import_line floats python run_scope_digest attempt_id) imported =
      (nonblank lines).foldlM (import_line floats python run_scope_digest attempt_id) imported := by
  induction lines generalizing imported with
  | nil => rfl
  | cons line lines ih =>
    by_cases hblank : (line.any fun c => !isSpace c) = true
    · rw [nonblank_cons_of_pos hblank, List.foldlM_cons, List.foldlM_cons]
      exact congrArg _ (funext fun imported => ih imported)
    · rw [nonblank_cons_of_neg hblank, List.foldlM_cons, import_line, if_pos hblank]
      exact ih imported

theorem import_line_count {python : StrText φ} {imported after : Imported φ} {line : List Char}
    (hline : (line.any fun c => !isSpace c) = true)
    (h : import_line floats python run_scope_digest attempt_id imported line = .ok after) :
    after.event_count = imported.event_count + 1 := by
  unfold import_line at h
  rw [if_neg (not_not.mpr hline)] at h
  split at h
  · cases h
  · dsimp only at h
    split_ifs at h
    cases h
    rfl

theorem import_count {python : StrText φ} {lines : List (List Char)} {imported after : Imported φ}
    (h : (nonblank lines).foldlM (import_line floats python run_scope_digest attempt_id) imported = .ok after) :
    after.event_count = imported.event_count + (nonblank lines).length := by
  have hnonblank : ∀ line ∈ nonblank lines, (line.any fun c => !isSpace c) = true := fun line hline =>
    (List.mem_filter.mp hline).2
  generalize nonblank lines = lines at *
  induction lines generalizing imported with
  | nil =>
    cases h
    rfl
  | cons line lines ih =>
    rw [List.foldlM_cons] at h
    cases hstep : import_line floats python run_scope_digest attempt_id imported line with
    | error e =>
      rw [hstep] at h
      cases h
    | ok next =>
      rw [hstep] at h
      have hcount := ih h fun line hline => hnonblank line (List.mem_cons_of_mem _ hline)
      rw [hcount, import_line_count floats (hnonblank line List.mem_cons_self) hstep, List.length_cons]
      omega

/-! ## The round trips -/

/-- The importer accepts the file, has parsed exactly these events, and counts them. -/
def Accepts (python : StrText φ) (importer : SpoolImporter) (file : List UInt8) (run_scope_digest : String)
    (attempt_id : UUID) (events : List (Event φ)) : Prop :=
  ∃ receipt text imported,
    importer.validate_and_import floats python (some file) run_scope_digest attempt_id = .ok receipt ∧
      receipt.event_count = events.length ∧ ofUtf8 file = some text ∧
    import_lines floats python run_scope_digest attempt_id text.toList = .ok imported ∧
    imported.events = events.map fun event => event.value.sortKeys

theorem archive_path_length (importer : SpoolImporter) (attempt_id : UUID) :
    1 ≤ (importer.archive_path attempt_id).length := by
  unfold SpoolImporter.archive_path
  dsimp only
  split_ifs
  all_goals
    simp only [String.length_append]
    have : ".jsonl".length = 6 := rfl
    omega

theorem accepts_iff (python : StrText φ) {writer : SpoolWriter} {importer : SpoolImporter}
    (hcap : importer.max_bytes = writer.max_bytes) {events : List (Event φ)} {file : List UInt8}
    (hwritten : events.foldlM (writer.append floats) [] = .ok file)
    (hadmissible : ∀ event ∈ events, Admissible run_scope_digest attempt_id event) (hgrows : events.Pairwise Grows) :
    Accepts floats python importer file run_scope_digest attempt_id events ↔
      (∀ event ∈ events, Unbroken event) ∧ (importer.archive_path attempt_id).length ≤ 1024 := by
  obtain ⟨hfile, hlength⟩ := append_all floats hwritten (Nat.zero_le _)
  rw [List.nil_append] at hfile
  have htext : ofUtf8 file = some (String.ofList (lines_of floats events)) := by rw [hfile, ofUtf8_utf8]
  have hsize : ¬ importer.max_bytes < file.length := by omega
  constructor
  · rintro ⟨receipt, text, imported, hreceipt, hcount, htext', himported, -⟩
    obtain rfl := Option.some.inj (htext'.symm.trans htext)
    unfold SpoolImporter.validate_and_import at hreceipt
    dsimp only at hreceipt
    rw [if_neg hsize, htext] at hreceipt
    dsimp only at hreceipt
    rw [himported] at hreceipt
    dsimp only at hreceipt
    split_ifs at hreceipt with hpath
    cases hreceipt
    rw [Bool.and_eq_true, decide_eq_true_eq, decide_eq_true_eq] at hpath
    refine ⟨unbroken_of_length floats ?_, hpath.2⟩
    unfold import_lines at himported
    rw [import_nonblank, String.toList_ofList] at himported
    have hlines := import_count floats himported
    dsimp only at hlines hcount
    omega
  · rintro ⟨hunbroken, hpath⟩
    obtain ⟨imported, himported, hcount, hevents⟩ := import_events floats python hadmissible hgrows ⟨Dict.empty, 0, []⟩
      fun _ _ _ _ _ _ _ h => by cases h
    have hlines : import_lines floats python run_scope_digest attempt_id
        (String.ofList (lines_of floats events)).toList = .ok imported := by
      unfold import_lines
      rw [import_nonblank, String.toList_ofList, unbroken_lines floats hunbroken]
      exact himported
    have hok : (decide (1 ≤ (importer.archive_path attempt_id).length) &&
        decide ((importer.archive_path attempt_id).length ≤ 1024)) = true := by
      rw [Bool.and_eq_true, decide_eq_true_eq, decide_eq_true_eq]
      exact ⟨archive_path_length importer attempt_id, hpath⟩
    refine ⟨⟨attempt_id, imported.event_count, importer.sha256 file, ⟨importer.archive_path attempt_id, hok⟩⟩, _,
      imported, ?_, ?_, htext, hlines, ?_⟩
    · unfold SpoolImporter.validate_and_import
      dsimp only
      rw [if_neg hsize, htext]
      dsimp only
      rw [hlines]
      dsimp only
      rw [dif_pos hok]
    · rw [hcount, Nat.zero_add]
    · rw [hevents, List.nil_append]

/-- **A spool and a log are read back exactly when no string in them ends a line.** -/
theorem spool_round_trip_iff (floats : FloatText φ) (python : StrText φ) (writer : SpoolWriter)
    (importer : SpoolImporter) (run_scope_digest : String) (attempt_id : UUID) (events logged : List (Event φ))
      (file : List UInt8)
    (hcap : importer.max_bytes = writer.max_bytes) (hwritten : events.foldlM (writer.append floats) [] = .ok file)
    (hadmissible : ∀ event ∈ events, Admissible run_scope_digest attempt_id event) (hgrows : events.Pairwise Grows) :
    (Accepts floats python importer file run_scope_digest attempt_id events ↔
      (∀ event ∈ events, Unbroken event) ∧ (importer.archive_path attempt_id).length ≤ 1024) ∧
    (read_all floats (logged.foldl (log_append floats) []) = some (logged.map fun event => event.value.sortKeys) ↔
      ∀ event ∈ logged, Unbroken event) :=
  ⟨accepts_iff floats python hcap hwritten hadmissible hgrows, read_all_iff floats logged⟩

/-! ## A next-line character in a payload -/

def strOnly : StrText Unit where
  str
    | .str s => s
    | _ => ""
  str_str _ := rfl

def spoolEvent (sequence : ℕ) (text : String) : Event Unit where
  fields := [("run_scope_digest", .str "scope"), ("attempt_id", .str (UUID.text 1)), ("phase", .str "turn"),
    ("sequence", .int sequence), ("event_type", .str "agent_event"), ("payload", .obj [("text", .str text)])]
  distinct := by
    simp [JsonValue.Distinct, JsonValue.DistinctFields]

theorem spoolEvent_admissible (sequence : ℕ) (text : String) : Admissible "scope" 1 (spoolEvent sequence text) where
  run_scope_digest := rfl
  attempt_id := rfl
  phase := ⟨_, rfl⟩
  sequence := ⟨_, rfl⟩
  event_type := ⟨_, rfl⟩
  payload := ⟨_, rfl⟩
  keys := by
    simp [spoolEvent, Event.value, JsonValue.strings, JsonValue.stringsOfFields]
    decide

def spoolFile (events : List (Event Unit)) : List UInt8 := utf8 (String.ofList (lines_of FloatText.half events))

def spoolWriter (events : List (Event Unit)) : SpoolWriter := ⟨(spoolFile events).length + 1, Nat.succ_pos _⟩

def spoolImporter (events : List (Event Unit)) : SpoolImporter :=
  ⟨"archive", (spoolFile events).length + 1, fun _ => HexDigest.ofNat 0⟩

theorem spool_written (events : List (Event Unit)) :
    events.foldlM ((spoolWriter events).append FloatText.half) [] = .ok (spoolFile events) :=
  append_within FloatText.half (spoolWriter events) events [] (Nat.le_succ _)

/-- Two turns, one of them with text beyond ASCII and a line feed. -/
def twoTurns : List (Event Unit) := [spoolEvent 0 "Umsätze\n北京", spoolEvent 1 "done"]

theorem twoTurns_unbroken : ∀ event ∈ twoTurns, Unbroken event := by
  have hall : (twoTurns.all fun event => event.value.strings.all fun e => e.2.toList.all fun c =>
      c.toNat != 0x85 && c.toNat != 0x2028 && c.toNat != 0x2029) = true := by decide +kernel
  intro event hevent e he c hc
  have hc := List.all_eq_true.mp (List.all_eq_true.mp (List.all_eq_true.mp hall event hevent) e he) c hc
  simpa [and_assoc] using hc

theorem twoTurns_grows : twoTurns.Pairwise Grows := by
  refine List.pairwise_pair.mpr ?_
  rintro phase m n - - ⟨⟩ ⟨⟩
  decide

/-- Both are read back. -/
theorem spool_round_trip_twoTurns :
    Accepts FloatText.half strOnly (spoolImporter twoTurns) (spoolFile twoTurns) "scope" 1 twoTurns ∧
    read_all FloatText.half (twoTurns.foldl (log_append FloatText.half) []) =
      some (twoTurns.map fun event => event.value.sortKeys) := by
  have hadmissible : ∀ event ∈ twoTurns, Admissible "scope" 1 event := by
    rintro event (_ | ⟨_, _ | ⟨_, ⟨⟩⟩⟩)
    · exact spoolEvent_admissible 0 _
    · exact spoolEvent_admissible 1 _
  obtain ⟨haccepts, hreads⟩ := spool_round_trip_iff FloatText.half strOnly (spoolWriter twoTurns)
    (spoolImporter twoTurns) "scope" 1 twoTurns twoTurns (spoolFile twoTurns) rfl (spool_written twoTurns) hadmissible
    twoTurns_grows
  exact ⟨haccepts.mpr ⟨twoTurns_unbroken, by decide +kernel⟩, hreads.mpr twoTurns_unbroken⟩

/-- An event with a next-line character. -/
def nextLine : List (Event Unit) := [spoolEvent 0 "a\u0085b"]

/-- A next-line character in a payload: the importer refuses the file, and the log is not read back. -/
theorem next_line_breaks :
    nextLine.foldlM ((spoolWriter nextLine).append FloatText.half) [] = .ok (spoolFile nextLine) ∧
    (∀ event ∈ nextLine, Admissible "scope" 1 event) ∧
    ¬ Accepts FloatText.half strOnly (spoolImporter nextLine) (spoolFile nextLine) "scope" 1 nextLine ∧
    read_all FloatText.half (nextLine.foldl (log_append FloatText.half) []) ≠
      some (nextLine.map fun event => event.value.sortKeys) := by
  have hadmissible : ∀ event ∈ nextLine, Admissible "scope" 1 event :=
    List.forall_mem_singleton.mpr (spoolEvent_admissible 0 _)
  have hbroken : ¬ ∀ event ∈ nextLine, Unbroken event := by
    intro h
    refine h _ (List.mem_singleton.mpr rfl) (false, "a\u0085b") ?_ (Char.ofNat 0x85) (by decide) (by decide)
    simp [spoolEvent, Event.value, JsonValue.strings, JsonValue.stringsOfFields]
  refine ⟨spool_written _, hadmissible, fun h => hbroken ?_, fun h => hbroken ?_⟩
  · exact ((accepts_iff FloatText.half strOnly rfl (spool_written _) hadmissible
      (List.pairwise_singleton _ _)).mp h).1
  · exact (read_all_iff FloatText.half _).mp h

end CommerceAgent.Evaluation
