import CommerceAgent.Lib.Dict
import CommerceAgent.Lib.JsonLine
import CommerceAgent.Lib.Raising
import Mathlib.Logic.Relation

/-!
# What a checkpoint may hold

`canonical_checkpoint_json` refuses a state with a forbidden key. It does not read the documents that the state
holds as texts.
-/

open CommerceAgent.Lib

namespace CommerceAgent.Orchestration.Checkpoint

/-! ## States -/

inductive Key (κ : Type) where
  | text (s : String)
  | other (k : κ)
  deriving DecidableEq

/-- A value of a state. A list may be a tuple. -/
inductive Value (κ ω : Type) where
  | str (s : String)
  | other (o : ω)
  | list (items : List (Value κ ω))
  | mapping (items : List (Key κ × Value κ ω))

variable {κ ω : Type}

namespace Value

theorem parts_induction {motive : Value κ ω → Prop} (str : ∀ s, motive (.str s)) (other : ∀ o, motive (.other o))
    (list : ∀ items, (∀ item ∈ items, motive item) → motive (.list items))
    (mapping : ∀ items, (∀ entry ∈ items, motive entry.2) → motive (.mapping items)) (value : Value κ ω) :
    motive value :=
  @Value.rec κ ω motive (fun items => ∀ item ∈ items, motive item) (fun items => ∀ entry ∈ items, motive entry.2)
    (fun entry => motive entry.2) str other list mapping (fun _ h => absurd h List.not_mem_nil)
    (fun _ _ hitem hitems _ h => (List.mem_cons.mp h).elim (fun heq => heq ▸ hitem) (hitems _))
    (fun _ h => absurd h List.not_mem_nil)
    (fun _ _ hentry hentries _ h => (List.mem_cons.mp h).elim (fun heq => heq ▸ hentry) (hentries _))
    (fun _ _ h => h) value

end Value

inductive Raised where
  /-- A `CheckpointIncompatible`. -/
  | incompatible (reason_code : String)
  /-- What `json.dumps` raises. -/
  | dumps
  deriving DecidableEq

/-- What the code uses of Python. -/
structure Python (κ ω : Type) where
  casefold : String → String
  /-- `str(key)`. -/
  str : κ → String
  /-- `json.dumps(state, ensure_ascii=False, sort_keys=True, separators=(",", ":"), allow_nan=False)`. -/
  dumps : Value κ ω → Option String
  /-- `json.loads(text)`. -/
  loads : String → Option (Value κ ω)

variable (python : Python κ ω)

def Key.str : Key κ → String
  | .text s => s
  | .other k => python.str k

def FORBIDDEN : List String := ["grant", "nonce", "signature", "hmac", "dsn", "seller_id", "reasoning_content"]

/-- `str(key).casefold() in forbidden`. -/
def Forbidden (key : Key κ) : Prop := python.casefold (key.str python) ∈ FORBIDDEN

instance : DecidablePred (Forbidden python) := fun _ => inferInstanceAs (Decidable (_ ∈ FORBIDDEN))

mutual

/-- `validate(value)` of `canonical_checkpoint_json`. -/
def validate : Value κ ω → Except Raised Unit
  | .mapping items => validate_items items
  | .list items => validate_list items
  | .str _ | .other _ => .ok ()

def validate_items : List (Key κ × Value κ ω) → Except Raised Unit
  | [] => .ok ()
  | (key, item) :: items => do
    if Forbidden python key then .error (.incompatible "sensitive_checkpoint_field")
    validate item
    validate_items items

def validate_list : List (Value κ ω) → Except Raised Unit
  | [] => .ok ()
  | item :: items => do
    validate item
    validate_list items

end

def canonical_checkpoint_json (state : Value κ ω) : Except Raised String := do
  validate python state
  match python.dumps state with
  | some text => .ok text
  | none => .error .dumps

def asValue (state : Dict String (Value κ ω)) : Value κ ω :=
  .mapping (state.items.map fun entry => (.text entry.1, entry.2))

/-- `_save_day4_state(request, state)`: the state that the graph is given. -/
def save_day4_state (state : Dict String (Value κ ω)) : Except Raised (Dict String (Value κ ω)) := do
  let _ ← canonical_checkpoint_json python (asValue state)
  return state

/-! ## Keys at any depth -/

/-- The name of a field that holds a document. -/
def IsDocumentField (field : String) : Prop := "_json".toList <:+ field.toList

instance : DecidablePred IsDocumentField := fun _ => inferInstanceAs (Decidable (_ <:+ _))

/-- A key occurs in a value, or in a document that it stores as a text, at any depth. -/
inductive Occurs (name : Key κ) : Value κ ω → Prop where
  | key {items item} (hmem : (name, item) ∈ items) : Occurs name (.mapping items)
  | entry {items key item} (hmem : (key, item) ∈ items) (hitem : Occurs name item) : Occurs name (.mapping items)
  | item {items item} (hmem : item ∈ items) (hitem : Occurs name item) : Occurs name (.list items)
  | document {items field text document} (hmem : (.text field, .str text) ∈ items) (hfield : IsDocumentField field)
      (hloads : python.loads text = some document) (hdocument : Occurs name document) : Occurs name (.mapping items)

/-- No forbidden key occurs. -/
def Clean (value : Value κ ω) : Prop := ∀ name, Occurs python name value → ¬Forbidden python name

/-- A document that a value stores as a text. -/
inductive Stores (document : Value κ ω) : Value κ ω → Prop where
  | field {items field text} (hmem : (.text field, .str text) ∈ items) (hfield : IsDocumentField field)
      (hloads : python.loads text = some document) : Stores document (.mapping items)
  | entry {items key item} (hmem : (key, item) ∈ items) (hitem : Stores document item) :
    Stores document (.mapping items)
  | item {items item} (hmem : item ∈ items) (hitem : Stores document item) : Stores document (.list items)

/-- A value and the documents in it, and the documents in these, pass the check. -/
def Passes (value : Value κ ω) : Prop :=
  ∀ document, Relation.ReflTransGen (fun value document => Stores python document value) value document →
    validate python document = .ok ()

/-! ## The check reaches the keys outside of the texts -/

variable {python}

theorem validate_items_ok {items : List (Key κ × Value κ ω)} :
    validate_items python items = .ok () ↔ ∀ entry ∈ items, ¬Forbidden python entry.1 ∧
      validate python entry.2 = .ok () := by
  induction items with
  | nil => exact iff_of_true (by rw [validate_items]) fun _ h => absurd h List.not_mem_nil
  | cons entry items ih =>
    obtain ⟨key, item⟩ := entry
    rw [validate_items, List.forall_mem_cons, ← ih]
    by_cases hkey : Forbidden python key
    · rw [if_pos hkey]
      exact iff_of_false (fun h => by cases h) fun h => h.1.1 hkey
    · rw [if_neg hkey]
      constructor
      · intro h
        obtain ⟨⟨⟩, hitem, hitems⟩ := except_bind_ok h
        exact ⟨⟨hkey, hitem⟩, hitems⟩
      · rintro ⟨⟨-, hitem⟩, hitems⟩
        rw [hitem, hitems]
        rfl

theorem validate_list_ok {items : List (Value κ ω)} :
    validate_list python items = .ok () ↔ ∀ item ∈ items, validate python item = .ok () := by
  induction items with
  | nil => exact iff_of_true (by rw [validate_list]) fun _ h => absurd h List.not_mem_nil
  | cons item items ih =>
    rw [validate_list, List.forall_mem_cons, ← ih]
    constructor
    · intro h
      obtain ⟨⟨⟩, hitem, hitems⟩ := except_bind_ok h
      exact ⟨hitem, hitems⟩
    · rintro ⟨hitem, hitems⟩
      rw [hitem, hitems]
      rfl

theorem validate_of_clean {value : Value κ ω} (h : Clean python value) : validate python value = .ok () := by
  induction value using Value.parts_induction with
  | str => rw [validate]
  | other => rw [validate]
  | list items ih =>
    rw [validate, validate_list_ok]
    exact fun item hitem => ih item hitem fun name hname => h name (.item hitem hname)
  | mapping items ih =>
    rw [validate, validate_items_ok]
    rintro ⟨key, item⟩ hentry
    exact ⟨h key (.key hentry), ih _ hentry fun name hname => h name (.entry hentry hname)⟩

theorem Stores.occurs {document value : Value κ ω} (h : Stores python document value) {name : Key κ}
    (hname : Occurs python name document) : Occurs python name value := by
  induction h with
  | field hmem hfield hloads => exact .document hmem hfield hloads hname
  | entry hmem _ ih => exact .entry hmem ih
  | item hmem _ ih => exact .item hmem ih

theorem Passes.stored {value document : Value κ ω} (h : Passes python value) (hstores : Stores python document value) :
    Passes python document := fun inner hinner => h inner (.head hstores hinner)

/-- A part of a value passes with it, when the documents of the part are documents of the value. -/
theorem Passes.part {value part : Value κ ω} (h : Passes python value) (hpart : validate python part = .ok ())
    (hstores : ∀ document, Stores python document part → Stores python document value) : Passes python part := by
  intro inner hinner
  cases Relation.ReflTransGen.cases_head hinner with
  | inl heq => exact heq ▸ hpart
  | inr hstep =>
    obtain ⟨document, hfirst, hrest⟩ := hstep
    exact h inner (.head (hstores document hfirst) hrest)

theorem Passes.clean {value : Value κ ω} (h : Passes python value) : Clean python value := by
  intro name hname
  induction hname with
  | key hmem =>
    have hvalid := h _ .refl
    rw [validate, validate_items_ok] at hvalid
    exact (hvalid _ hmem).1
  | entry hmem _ ih =>
    have hvalid := h _ .refl
    rw [validate, validate_items_ok] at hvalid
    exact ih (h.part (hvalid _ hmem).2 fun document hdocument => .entry hmem hdocument)
  | item hmem _ ih =>
    have hvalid := h _ .refl
    rw [validate, validate_list_ok] at hvalid
    exact ih (h.part (hvalid _ hmem) fun document hdocument => .item hmem hdocument)
  | document hmem hfield hloads _ ih => exact ih (h.stored (.field hmem hfield hloads))

/-- No forbidden key occurs in a value exactly when the value and its documents pass the check. -/
theorem clean_iff_passes {value : Value κ ω} : Clean python value ↔ Passes python value := by
  refine ⟨fun h document hdocument => ?_, Passes.clean⟩
  induction hdocument using Relation.ReflTransGen.head_induction_on with
  | refl => exact validate_of_clean h
  | head hstores _ ih => exact ih fun name hname => h name (hstores.occurs hname)

/-! ## Saved states -/

theorem save_day4_state_ok {state saved : Dict String (Value κ ω)} (h : save_day4_state python state = .ok saved) :
    saved = state ∧ validate python (asValue state) = .ok () := by
  obtain ⟨text, htext, hsaved⟩ := except_bind_ok h
  obtain ⟨⟨⟩, hvalid, -⟩ := except_bind_ok htext
  exact ⟨(Except.ok.inj hsaved).symm, hvalid⟩

/-! ## The states of the graph -/

/-- A number, a bool or `None`. -/
inductive Atom (φ : Type) where
  | none
  | bool (b : Bool)
  | int (n : ℤ)
  | float (x : φ)

variable {φ : Type}

namespace Value

mutual

/-- A value that `json.loads` gives. -/
def ofJson : JsonValue φ → Value κ (Atom φ)
  | .null => .other .none
  | .bool b => .other (.bool b)
  | .int n => .other (.int n)
  | .float x => .other (.float x)
  | .str s => .str s
  | .arr xs => .list (ofItems xs)
  | .obj kvs => .mapping (ofFields kvs)

def ofItems : List (JsonValue φ) → List (Value κ (Atom φ))
  | [] => []
  | x :: xs => ofJson x :: ofItems xs

def ofFields : List (String × JsonValue φ) → List (Key κ × Value κ (Atom φ))
  | [] => []
  | (k, v) :: kvs => (.text k, ofJson v) :: ofFields kvs

end

mutual

def toJson : Value Empty (Atom φ) → JsonValue φ
  | .other .none => .null
  | .other (.bool b) => .bool b
  | .other (.int n) => .int n
  | .other (.float x) => .float x
  | .str s => .str s
  | .list items => .arr (toItems items)
  | .mapping items => .obj (toFields items)

def toItems : List (Value Empty (Atom φ)) → List (JsonValue φ)
  | [] => []
  | item :: items => toJson item :: toItems items

def toFields : List (Key Empty × Value Empty (Atom φ)) → List (String × JsonValue φ)
  | [] => []
  | (.text k, item) :: items => (k, toJson item) :: toFields items

end

theorem ofItems_eq (xs : List (JsonValue φ)) : (ofItems xs : List (Value κ (Atom φ))) = xs.map ofJson := by
  induction xs with
  | nil => rfl
  | cons x xs ih => rw [ofItems, ih, List.map_cons]

theorem ofFields_eq (kvs : List (String × JsonValue φ)) :
    (ofFields kvs : List (Key κ × Value κ (Atom φ))) = kvs.map fun kv => (.text kv.1, ofJson kv.2) := by
  induction kvs with
  | nil => rfl
  | cons kv kvs ih => rw [ofFields, ih, List.map_cons]

/-- A text, an atom, or a list of texts. -/
def Flat : Value κ ω → Prop
  | .str _ | .other _ => True
  | .list items => ∀ item ∈ items, ∃ s, item = .str s
  | .mapping _ => False

theorem flat_str (s : String) : (str s : Value κ ω).Flat := trivial
theorem flat_other (o : ω) : (other o : Value κ ω).Flat := trivial

end Value

/-- A result of a query, with its rows. -/
structure EvidenceResult (φ : Type) where
  evidence_id : String
  columns : List String
  rows : List (Dict String (JsonValue φ))
  query_fingerprint : String

/-- `item.model_dump(mode="json")`. -/
def EvidenceResult.model_dump (result : EvidenceResult φ) : JsonValue φ :=
  .obj [("evidence_id", .str result.evidence_id), ("columns", .arr (result.columns.map .str)),
    ("rows", .arr (result.rows.map fun row => .obj row.items)), ("query_fingerprint", .str result.query_fingerprint)]

def query_evidence (results : List (EvidenceResult φ)) : JsonValue φ := .arr (results.map EvidenceResult.model_dump)

/-- The state that `_run_day4` saves after a query. -/
def after_query (floats : FloatText φ) (state : Dict String (Value κ (Atom φ))) (tool_call_count : ℤ)
    (pending_plan_step_ids : List String) (results : List (EvidenceResult φ)) : Dict String (Value κ (Atom φ)) :=
  (((((state.set "current_node" (.str "prepare_plan_step")).set "tool_call_count" (.other (.int tool_call_count))).set
    "pending_plan_step_ids" (.list (pending_plan_step_ids.map .str))).set "sql_candidate_json" (.other .none)).set
      "latest_error_json" (.other .none)).set "query_evidence_json"
        (.str (String.ofList (JsonValue.dumps floats 0 (query_evidence results))))

def STATE_FIELDS : List String :=
  ["state_schema_revision", "node_revision", "run_scope_json", "attempt_id", "current_node", "clarification_count",
    "replan_count", "repair_count", "model_call_count", "tool_call_count", "confirmed_facts_json",
    "investigation_plan_json", "pending_plan_step_ids", "sql_candidate_json", "query_evidence_json",
    "reconciliation_json", "proposal_refs_json", "terminal_json", "provider_history_json", "revisions_json",
    "prompt_policy_hash", "rendered_prompt_hash", "tool_hash", "context_hash", "config_hash", "history_json",
    "pending_tool_batch_json", "sql_candidate", "latest_error_json", "evidence_summaries", "final_output_json",
    "stop_reason_json", "request_json", "model_request_json", "tool_results_json", "last_evidence_digest",
    "cleanup_complete"]

theorem state_fields_nodup : STATE_FIELDS.Nodup := by decide +kernel

def ZERO_HASH : String := String.ofList (List.replicate 64 '0')

/-- The items of `_initial_state(request)`, of the texts that the request gives. -/
def initial_items (run_scope_json attempt_id confirmed_facts_json revisions_json config_hash request_json : String) :
    List (String × Value κ (Atom φ)) :=
  [("state_schema_revision", .str "retail-state-v2"), ("node_revision", .str "retail-nodes-v2"),
    ("run_scope_json", .str run_scope_json), ("attempt_id", .str attempt_id),
    ("current_node", .str "prepare_context"), ("clarification_count", .other (.int 0)),
    ("replan_count", .other (.int 0)), ("repair_count", .other (.int 0)), ("model_call_count", .other (.int 0)),
    ("tool_call_count", .other (.int 0)), ("confirmed_facts_json", .str confirmed_facts_json),
    ("investigation_plan_json", .other .none), ("pending_plan_step_ids", .list []),
    ("sql_candidate_json", .other .none), ("query_evidence_json", .str "[]"), ("reconciliation_json", .other .none),
    ("proposal_refs_json", .str "[]"), ("terminal_json", .other .none), ("provider_history_json", .str "[]"),
    ("revisions_json", .str revisions_json), ("prompt_policy_hash", .str ZERO_HASH),
    ("rendered_prompt_hash", .str ZERO_HASH), ("tool_hash", .str ZERO_HASH), ("context_hash", .str ZERO_HASH),
    ("config_hash", .str config_hash), ("history_json", .str "[]"), ("pending_tool_batch_json", .other .none),
    ("sql_candidate", .other .none), ("latest_error_json", .other .none), ("evidence_summaries", .list []),
    ("final_output_json", .other .none), ("stop_reason_json", .other .none), ("request_json", .str request_json),
    ("model_request_json", .other .none), ("tool_results_json", .str "[]"), ("last_evidence_digest", .other .none),
    ("cleanup_complete", .other (.bool false))]

def initial_state (run_scope_json attempt_id confirmed_facts_json revisions_json config_hash request_json : String) :
    Dict String (Value κ (Atom φ)) where
  items := initial_items run_scope_json attempt_id confirmed_facts_json revisions_json config_hash request_json
  nodup := state_fields_nodup

def OfGraph (state : Dict String (Value κ ω)) : Prop :=
  ∀ entry ∈ state.items, entry.1 ∈ STATE_FIELDS ∧ entry.2.Flat

theorem OfGraph.set {state : Dict String (Value κ ω)} (h : OfGraph state) {field : String} {value : Value κ ω}
    (hfield : field ∈ STATE_FIELDS) (hvalue : value.Flat) : OfGraph (state.set field value) := by
  rintro ⟨key, item⟩ hmem
  rw [← Dict.get?_eq_some, Dict.get?_set] at hmem
  split at hmem
  · rename_i hkey
    obtain rfl := Option.some.inj hmem
    exact ⟨hkey ▸ hfield, hvalue⟩
  · exact h _ (Dict.get?_eq_some.mp hmem)

theorem ofGraph_initial_state (run_scope_json attempt_id confirmed_facts_json revisions_json config_hash
    request_json : String) : OfGraph (initial_state run_scope_json attempt_id confirmed_facts_json revisions_json
      config_hash request_json : Dict String (Value κ (Atom φ))) := by
  have hflat : ∀ entry ∈ (initial_items run_scope_json attempt_id confirmed_facts_json revisions_json config_hash
      request_json : List (String × Value κ (Atom φ))), entry.2.Flat := by
    simp [initial_items, Value.Flat]
  exact fun entry hentry => ⟨List.mem_map_of_mem hentry, hflat entry hentry⟩

theorem Value.Flat.validate {value : Value κ ω} (h : value.Flat) : validate python value = .ok () := by
  cases value with
  | str s => rw [Checkpoint.validate]
  | other o => rw [Checkpoint.validate]
  | mapping items => exact h.elim
  | list items =>
    rw [Checkpoint.validate, validate_list_ok]
    intro item hitem
    obtain ⟨s, rfl⟩ := h item hitem
    rw [Checkpoint.validate]

theorem OfGraph.validate {state : Dict String (Value κ ω)} (h : OfGraph state)
    (hfold : ∀ field ∈ STATE_FIELDS, python.casefold field ∉ FORBIDDEN) : validate python (asValue state) = .ok () := by
  rw [asValue, Checkpoint.validate, validate_items_ok]
  intro entry hentry
  obtain ⟨item, hitem, rfl⟩ := List.mem_map.mp hentry
  obtain ⟨hfield, hflat⟩ := h item hitem
  exact ⟨hfold item.1 hfield, hflat.validate⟩

theorem OfGraph.after_query {state : Dict String (Value κ (Atom φ))} (h : OfGraph state) (floats : FloatText φ)
    (tool_call_count : ℤ) (pending_plan_step_ids : List String) (results : List (EvidenceResult φ)) :
    OfGraph (after_query floats state tool_call_count pending_plan_step_ids results) := by
  have hpending : (Value.list (pending_plan_step_ids.map Value.str) : Value κ (Atom φ)).Flat := by
    intro item hitem
    obtain ⟨s, -, rfl⟩ := List.mem_map.mp hitem
    exact ⟨s, rfl⟩
  unfold Checkpoint.after_query
  refine OfGraph.set ?_ (by decide) (Value.flat_str _)
  refine OfGraph.set ?_ (by decide) (Value.flat_other _)
  refine OfGraph.set ?_ (by decide) (Value.flat_other _)
  refine OfGraph.set ?_ (by decide) hpending
  refine OfGraph.set ?_ (by decide) (Value.flat_other _)
  exact OfGraph.set h (by decide) (Value.flat_str _)

theorem occurs_key {python : Python κ (Atom φ)} {kvs : List (String × JsonValue φ)} {k : String} {v : JsonValue φ}
    (hmem : (k, v) ∈ kvs) : Occurs python (.text k) (Value.ofJson (JsonValue.obj kvs).sortKeys) := by
  rw [JsonValue.sortKeys, Value.ofJson, Value.ofFields_eq]
  exact .key (List.mem_map_of_mem (JsonValue.mem_sortedFields.mpr ⟨(k, v), hmem, rfl⟩))

theorem occurs_field {python : Python κ (Atom φ)} {name : Key κ} {kvs : List (String × JsonValue φ)} {k : String}
    {v : JsonValue φ} (hmem : (k, v) ∈ kvs) (h : Occurs python name (Value.ofJson v.sortKeys)) :
    Occurs python name (Value.ofJson (JsonValue.obj kvs).sortKeys) := by
  rw [JsonValue.sortKeys, Value.ofJson, Value.ofFields_eq]
  exact .entry (List.mem_map_of_mem (JsonValue.mem_sortedFields.mpr ⟨(k, v), hmem, rfl⟩)) h

theorem occurs_item {python : Python κ (Atom φ)} {name : Key κ} {xs : List (JsonValue φ)} {x : JsonValue φ}
    (hmem : x ∈ xs) (h : Occurs python name (Value.ofJson x.sortKeys)) :
    Occurs python name (Value.ofJson (JsonValue.arr xs).sortKeys) := by
  rw [JsonValue.sortKeys, Value.ofJson, Value.ofItems_eq, JsonValue.sortItems_eq]
  exact .item (List.mem_map_of_mem (List.mem_map_of_mem hmem)) h

theorem evidence_field : IsDocumentField "query_evidence_json" := by decide

theorem column_occurs (floats : FloatText φ) {state : Dict String (Value κ (Atom φ))} {tool_call_count : ℤ}
    {pending_plan_step_ids : List String} {results : List (EvidenceResult φ)} {python : Python κ (Atom φ)}
    (hloads : python.loads (String.ofList (JsonValue.dumps floats 0 (query_evidence results))) =
      some (Value.ofJson (query_evidence results).sortKeys))
    {result : EvidenceResult φ} (hresult : result ∈ results) {row : Dict String (JsonValue φ)}
      (hrow : row ∈ result.rows)
    {column : String} (hcolumn : column ∈ row.keys) :
    Occurs python (.text column)
      (asValue (after_query floats state tool_call_count pending_plan_step_ids results)) := by
  obtain ⟨⟨column, cell⟩, hcell, rfl⟩ := List.mem_map.mp hcolumn
  have hfield : ("query_evidence_json", Value.str (String.ofList (JsonValue.dumps floats 0 (query_evidence results)))) ∈
      (after_query floats state tool_call_count pending_plan_step_ids results).items :=
    Dict.get?_eq_some.mp (Dict.get?_set_self _ _ _)
  refine .document (List.mem_map.mpr ⟨_, hfield, rfl⟩) evidence_field hloads ?_
  have hrows : ("rows", JsonValue.arr (result.rows.map fun row => .obj row.items)) ∈
      [("evidence_id", .str result.evidence_id), ("columns", .arr (result.columns.map .str)),
        ("rows", JsonValue.arr (result.rows.map fun row => .obj row.items)),
        ("query_fingerprint", .str result.query_fingerprint)] :=
    List.mem_cons_of_mem _ (List.mem_cons_of_mem _ List.mem_cons_self)
  exact occurs_item (List.mem_map_of_mem hresult) (occurs_field hrows
    (occurs_item (List.mem_map_of_mem hrow) (occurs_key hcell)))

/-- A saved state holds no forbidden key exactly when the documents that it stores as texts pass the check, as do
the documents in these. -/
theorem saved_state_clean_iff {state saved : Dict String (Value κ ω)} (h : save_day4_state python state = .ok saved) :
    Clean python (asValue saved) ↔ ∀ document, Relation.TransGen (fun value document => Stores python document value)
      (asValue state) document → validate python document = .ok () := by
  obtain ⟨rfl, hvalid⟩ := save_day4_state_ok h
  rw [clean_iff_passes]
  constructor
  · exact fun hpasses document hdocument => hpasses document hdocument.to_reflTransGen
  · intro hdocuments document hdocument
    obtain rfl | hstores := Relation.reflTransGen_iff_eq_or_transGen.mp hdocument
    · exact hvalid
    · exact hdocuments document hstores

theorem save_day4_state_accepts {state : Dict String (Value κ ω)} (hvalid : validate python (asValue state) = .ok ())
    {text : String} (hdumps : python.dumps (asValue state) = some text) : save_day4_state python state = .ok state := by
  unfold save_day4_state canonical_checkpoint_json
  rw [hvalid, ok_bind, hdumps]
  rfl

/-- Python on the states that JSON can write. -/
def json_python : Python Empty (Atom Unit) where
  casefold text := String.ofList (text.toList.map Char.toLower)
  str := Empty.elim
  dumps value := some (String.ofList (JsonValue.dumps .half 0 value.toJson))
  loads text := (JsonValue.loads .half text.toList).map Value.ofJson

theorem json_python_fields : ∀ field ∈ STATE_FIELDS, json_python.casefold field ∉ FORBIDDEN := by
  decide +kernel

def some_state : Dict String (Value Empty (Atom Unit)) :=
  initial_state "\x7b\x7d" "5e1cf4ad-6cd1-4c67-8f0e-4f2e6c8a9b10" "[]" "\x7b\x7d" ZERO_HASH "\x7b\x7d"

theorem json_python_loads {v : JsonValue Unit} (h : v.Distinct) :
    json_python.loads (String.ofList (JsonValue.dumps .half 0 v)) = some (Value.ofJson v.sortKeys) := by
  show Option.map _ (JsonValue.loads _ (String.ofList _).toList) = _
  rw [String.toList_ofList, JsonValue.loads_dumps .half 0 h]
  rfl

def seller_row : Dict String (JsonValue Unit) where
  items := [("seller_id", .str "3442f8959a84dea7ee197c632cb2df15")]
  nodup := List.nodup_singleton _

/-- The result of a query for the sellers. -/
def sellers : EvidenceResult Unit where
  evidence_id := "query:step-1"
  columns := ["seller_id"]
  rows := [seller_row]
  query_fingerprint := ZERO_HASH

theorem sellers_distinct : (query_evidence [sellers]).Distinct := by
  simp [query_evidence, sellers, seller_row, EvidenceResult.model_dump, JsonValue.Distinct, JsonValue.DistinctItems,
    JsonValue.DistinctFields]

def sellers_state : Dict String (Value Empty (Atom Unit)) := after_query .half some_state 2 [] [sellers]

theorem sellers_state_saved : save_day4_state json_python sellers_state = .ok sellers_state :=
  save_day4_state_accepts
    (((ofGraph_initial_state _ _ _ _ _ _).after_query .half 2 [] [sellers]).validate json_python_fields) rfl

theorem seller_id_occurs : Occurs json_python (.text "seller_id") (asValue sellers_state) :=
  column_occurs .half (json_python_loads sellers_distinct) (List.mem_singleton_self sellers)
    (List.mem_singleton_self seller_row) (List.mem_singleton_self "seller_id")

theorem forbidden_seller_id : Forbidden json_python (.text "seller_id") := by decide +kernel

/-- It stores a document that does not pass. -/
theorem saved_state_clean_iff_sellers :
    (Clean json_python (asValue sellers_state) ↔
      ∀ document, Relation.TransGen (fun value document => Stores json_python document value)
        (asValue sellers_state) document → validate json_python document = .ok ()) ∧
    ∃ document, Relation.TransGen (fun value document => Stores json_python document value)
      (asValue sellers_state) document ∧ validate json_python document ≠ .ok () := by
  have hiff := saved_state_clean_iff sellers_state_saved
  refine ⟨hiff, ?_⟩
  by_contra hno
  refine hiff.mpr (fun document hdocument => ?_) _ seller_id_occurs forbidden_seller_id
  by_contra hfails
  exact hno ⟨document, hdocument, hfails⟩

/-- The state that is saved after a query of the sellers keeps their ids under `seller_id`. -/
theorem sellers_kept :
    save_day4_state json_python sellers_state = .ok sellers_state ∧ ¬Clean json_python (asValue sellers_state) :=
  ⟨sellers_state_saved, fun hclean => hclean _ seller_id_occurs forbidden_seller_id⟩

end CommerceAgent.Orchestration.Checkpoint
