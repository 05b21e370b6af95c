import CommerceAgent.Context.Trimming

/-!
# Audit hashes

The hashes of a bundle determine what its request asks for, as far as the texts that are hashed do not collide.
-/

open CommerceAgent.Lib
open CommerceAgent.Operations (UUID Text Code HexDigest Checked Datetime second)
open CommerceAgent.Orchestration

namespace CommerceAgent.Context

open ContextBuilder JsonValue

variable {φ : Type}

/-! ## What a text says -/

theorem texts_inj {α : Type} {f : α → String} (hf : ∀ a b, f a = f b → a = b) {xs ys : List α}
    (h : (texts f xs : JsonValue φ).sortKeys = (texts f ys).sortKeys) : xs = ys :=
  sortKeys_arr_inj (fun x y hxy => hf x y (by simpa [JsonValue.sortKeys] using hxy)) h

theorem checked_or_null_inj {ok : String → Bool} {a b : Option (Checked ok)}
    (h : (or_null (fun text => .str text.text) a : JsonValue φ).sortKeys =
      (or_null (fun text => .str text.text) b).sortKeys) :
    a = b := by
  cases a <;> cases b <;> simp [or_null, JsonValue.sortKeys] at h
  · rfl
  · rw [Checked.ext h]

theorem utc_text_inj {a b : Datetime} (h : utc_text a = utc_text b) : a.instant = b.instant := by
  have hwall (value : Datetime) : (utc_text value).toList = Calendar.isoText (value.instant / second) ++
      ((if value.instant % second = 0 then [] else '.' :: fixedText 10 6 (value.instant % second)) ++ ['Z']) := by
    unfold utc_text Datetime.isoformat Datetime.utc
    simp
  have heq := congrArg String.toList h
  rw [hwall, hwall] at heq
  obtain ⟨hseconds, hfraction⟩ := Calendar.isoText_append_inj a.seconds_lt b.seconds_lt heq
  have hrest : a.instant % second = b.instant % second := by
    have hlt (value : Datetime) : value.instant % second < 10 ^ 6 := Nat.mod_lt _ (by decide)
    split_ifs at hfraction with ha hb hb
    · rw [ha, hb]
    · cases hfraction
    · cases hfraction
    · simp only [List.cons_append, List.cons.injEq, true_and] at hfraction
      exact fixedText_inj (by omega) (hlt a) (hlt b) (List.append_cancel_right hfraction)
  rw [← Nat.div_add_mod a.instant second, hseconds, hrest, Nat.div_add_mod]

theorem uuid_text_inj {a b : UUID} (h : a.text = b.text) : a = b :=
  Option.some.inj ((UUID.parse_text a).symm.trans ((congrArg UUID.parse h).trans (UUID.parse_text b)))

theorem Role.value_inj {a b : Role} (h : a.value = b.value) : a = b := by
  cases a <;> cases b <;> first | rfl | exact absurd h (by decide)

theorem status_value_inj {a b : ToolStatus} (h : status_value a = status_value b) : a = b := by
  cases a <;> cases b <;> first | rfl | exact absurd h (by decide)

theorem ChatMessage.to_json_inj {a b : ChatMessage} (h : (a.to_json : JsonValue φ).sortKeys = b.to_json.sortKeys) :
    a = b := by
  have hfields := sortKeys_obj_inj (by simp) (by simp) h
  simp [JsonValue.sortKeys] at hfields
  obtain ⟨hrole, hcontent⟩ := hfields
  cases a
  cases b
  simp only [ChatMessage.mk.injEq]
  exact ⟨Role.value_inj hrole, Checked.ext hcontent⟩

theorem ToolDefinition.to_json_inj {a b : ToolDefinition}
    (h : (a.to_json : JsonValue φ).sortKeys = b.to_json.sortKeys) :
    a = b := by
  have hfields := sortKeys_obj_inj (by simp) (by simp) h
  simp [JsonValue.sortKeys] at hfields
  obtain ⟨hname, hdescription, hparameters, hrevision, hcapability⟩ := hfields
  cases a
  cases b
  simp only [ToolDefinition.mk.injEq]
  exact ⟨Checked.ext hname, Checked.ext hdescription, Checked.ext hparameters, Checked.ext hrevision,
    Checked.ext hcapability⟩

theorem call_json_inj {a b : ToolCall} (h : (call_json a : JsonValue φ).sortKeys = (call_json b).sortKeys) : a = b := by
  have hfields := sortKeys_obj_inj (by simp) (by simp) h
  simp [JsonValue.sortKeys] at hfields
  obtain ⟨hid, hname, harguments⟩ := hfields
  cases a
  cases b
  simp only [ToolCall.mk.injEq]
  exact ⟨Checked.ext hid, Checked.ext hname, Checked.ext harguments⟩

theorem ToolResult.to_json_inj {a b : ToolResult} (h : (a.to_json : JsonValue φ).sortKeys = b.to_json.sortKeys) :
    a = b := by
  have hfields := sortKeys_obj_inj (by simp) (by simp) h
  simp only [List.map_cons, List.map_nil, List.cons.injEq, and_true] at hfields
  obtain ⟨hid, hname, hstatus, hcontent, hsummary, hdigest, hrefs, herror, hmode⟩ := hfields
  have hrefs := texts_inj (fun _ _ => id) hrefs
  have herror := checked_or_null_inj herror
  simp [JsonValue.sortKeys] at hid hname hstatus hcontent hsummary hdigest hmode
  have hraw : a.raw = b.raw := by
    cases ha : a.raw <;> cases hb : b.raw <;> first | rfl | simp [ha, hb] at hmode
  cases a
  cases b
  simp only [ToolResult.mk.injEq]
  exact ⟨Checked.ext hid, Checked.ext hname, status_value_inj hstatus, hcontent, Checked.ext hsummary,
    Checked.ext hdigest,
    hrefs, herror, hraw⟩

theorem ProviderTurnRef.to_json_inj {a b : ProviderTurnRef}
    (h : (a.to_json : JsonValue φ).sortKeys = b.to_json.sortKeys) :
    a.in_utc = b.in_utc := by
  have hfields := sortKeys_obj_inj (by simp) (by simp) h
  simp only [List.map_cons, List.map_nil, List.cons.injEq, and_true] at hfields
  obtain ⟨hturn, hscope, hattempt, hsequence, hpayload, hids, hweight, hexpires⟩ := hfields
  have hids := texts_inj (fun _ _ => id) hids
  simp [JsonValue.sortKeys] at hturn hscope hattempt hsequence hpayload hweight hexpires
  have hinstant := utc_text_inj hexpires
  cases a
  cases b
  simp only [ProviderTurnRef.in_utc, ProviderTurnRef.mk.injEq]
  dsimp only at hinstant
  exact ⟨uuid_text_inj hturn, Checked.ext hscope, uuid_text_inj hattempt, hsequence, Checked.ext hpayload, hids,
    hweight,
    by simp only [hinstant]⟩

theorem ConversationGroup.to_json_inj {a b : ConversationGroup}
    (h : (a.to_json : JsonValue φ).sortKeys = b.to_json.sortKeys) : a.in_utc = b.in_utc := by
  cases a with
  | assistant ref =>
    cases b with
    | assistant ref' =>
      have hfields := sortKeys_obj_inj (by simp) (by simp) h
      simp only [List.map_cons, List.map_nil, List.cons.injEq, and_true] at hfields
      exact congrArg ConversationGroup.assistant (ProviderTurnRef.to_json_inj hfields.2)
    | tool_exchange group => exact absurd (sortKeys_obj_length h) (by simp)
  | tool_exchange group =>
    cases b with
    | assistant ref => exact absurd (sortKeys_obj_length h) (by simp)
    | tool_exchange group' =>
      have hfields := sortKeys_obj_inj (by simp) (by simp) h
      simp only [List.map_cons, List.map_nil, List.cons.injEq, and_true] at hfields
      obtain ⟨-, href, hcalls, hresults⟩ := hfields
      have href := ProviderTurnRef.to_json_inj href
      have hcalls := sortKeys_arr_inj (fun _ _ => call_json_inj) hcalls
      have hresults := sortKeys_arr_inj (fun _ _ => ToolResult.to_json_inj) hresults
      simp only [ConversationGroup.in_utc, href, hcalls, hresults]

/-! ## Distinct keys -/

theorem map_distinct {α : Type} {f : α → JsonValue φ} (h : ∀ a, (f a).Distinct) (xs : List α) :
    DistinctItems (xs.map f) := by
  rw [distinctItems_iff]
  intro x hx
  obtain ⟨a, -, rfl⟩ := List.mem_map.mp hx
  exact h a

theorem texts_distinct {α : Type} (f : α → String) (xs : List α) : (texts f xs : JsonValue φ).Distinct := by
  unfold texts Distinct
  exact map_distinct (fun _ => by simp [Distinct]) xs

theorem or_null_distinct {α : Type} (f : α → String) (a : Option α) :
    (or_null (fun a => .str (f a)) a : JsonValue φ).Distinct := by
  cases a <;> trivial

theorem ChatMessage.distinct (message : ChatMessage) : (message.to_json : JsonValue φ).Distinct := by
  simp [to_json, Distinct, DistinctFields]

theorem ToolDefinition.distinct (tool : ToolDefinition) : (tool.to_json : JsonValue φ).Distinct := by
  simp [to_json, Distinct, DistinctFields]

theorem call_distinct (call : ToolCall) : (call_json call : JsonValue φ).Distinct := by
  simp [call_json, Distinct, DistinctFields]

theorem ToolResult.distinct (result : ToolResult) : (result.to_json : JsonValue φ).Distinct := by
  have hrefs := texts_distinct (φ := φ) id result.source_refs
  have herror := or_null_distinct (φ := φ) Checked.text result.error_class
  simp [to_json, Distinct, DistinctFields, hrefs, herror]

theorem ProviderTurnRef.distinct (ref : ProviderTurnRef) : (ref.to_json : JsonValue φ).Distinct := by
  have hids := texts_distinct (φ := φ) id ref.expected_tool_call_ids
  simp [to_json, Distinct, DistinctFields, hids]

theorem ConversationGroup.distinct (group : ConversationGroup) : (group.to_json : JsonValue φ).Distinct := by
  cases group with
  | assistant ref => simp [to_json, Distinct, DistinctFields, ref.distinct]
  | tool_exchange group =>
    have hcalls := map_distinct (φ := φ) call_distinct group.tool_calls
    have hresults := map_distinct (φ := φ) ToolResult.distinct group.tool_results
    simp [to_json, Distinct, DistinctFields, group.provider_turn_ref.distinct, hcalls, hresults]

theorem rendered_prompt_distinct (messages : List ChatMessage) :
    (rendered_prompt_json messages : JsonValue φ).Distinct := by
  have hmessages := map_distinct (φ := φ) ChatMessage.distinct messages
  simp [rendered_prompt_json, Distinct, DistinctFields, hmessages]

theorem catalog_distinct (profile : RunProfile φ) (tools : List ToolDefinition) :
    (catalog_json profile tools).Distinct := by
  have htools := map_distinct (φ := φ) ToolDefinition.distinct tools
  simp [catalog_json, Distinct, DistinctFields, htools]

theorem context_distinct (builder : ContextBuilder φ) (records : List ContextDatum) (history : List ConversationGroup)
    (trimming : TrimmingSummary) (latest_error : Option TypedErrorDatum) :
    (builder.context_json records history trimming latest_error).Distinct := by
  have hrow (source_ref : String) (revision : Option String) (digest : HexDigest) :
      (record_row source_ref revision digest : JsonValue φ).Distinct := by
    have hrevision := or_null_distinct (φ := φ) id revision
    simp only [id] at hrevision
    simp [record_row, Distinct, DistinctFields, hrevision]
  have hrecords : DistinctItems ((records.map fun datum =>
      record_row (φ := φ) datum.source_ref.text (datum.revision.map Checked.text) datum.digest) ++
        (latest_error.map fun error => record_row error.error_type none error.digest).toList) := by
    rw [distinctItems_iff]
    intro x hx
    rcases List.mem_append.mp hx with hx | hx
    · obtain ⟨datum, -, rfl⟩ := List.mem_map.mp hx
      exact hrow _ _ _
    · obtain ⟨error, -, rfl⟩ := Option.map_eq_some_iff.mp (Option.mem_toList.mp hx)
      exact hrow _ _ _
  have htrimming : (trimming.to_json : JsonValue φ).Distinct := by
    simp [TrimmingSummary.to_json, Distinct, DistinctFields, texts_distinct]
  simp [context_json, Distinct, DistinctFields, hrecords, htrimming, texts_distinct]

theorem config_distinct (profile : RunProfile φ) (requested_model : String) :
    (config_json profile requested_model).Distinct := by
  have hrule (rule : InferenceRule φ) : rule.to_json.Distinct := by
    have hinference : rule.inference.to_json.Distinct := by
      cases rule.inference <;> simp [InferenceConfig.to_json, Distinct, DistinctFields]
    simp [InferenceRule.to_json, Distinct, DistinctFields, hinference, texts_distinct]
  have hrules := map_distinct hrule profile.inference_rules
  simp [config_json, Distinct, DistinctFields, hrules]

/-! ## The hashes of a bundle -/

def ContextBuilder.asking (builder : ContextBuilder φ) (requested_model : String) : ContextBuilder φ :=
  { builder with requested_model := requested_model }

/-- A text that `build` hashes for a bundle. -/
inductive Hashed (builder : ContextBuilder φ) (request : ContextRequest φ) (bundle : PromptBundle φ) : String → Prop
  | config : Hashed builder request bundle (builder.python.canonical_json
      (config_json (builder.registry.profiles request.profile.key) builder.requested_model))
  | rendered_prompt : Hashed builder request bundle
      (builder.python.canonical_json (rendered_prompt_json bundle.model_request.messages))
  | catalog : Hashed builder request bundle (builder.python.canonical_json
      (catalog_json (builder.registry.profiles request.profile.key) bundle.model_request.tools))
  | group (group : ConversationGroup) (hgroup : group ∈ bundle.model_request.history) :
    Hashed builder request bundle (builder.python.canonical_json group.to_json)
  | context (evidence : List ContextDatum)
    (hevidence : evidence = request.evidence ∨ evidence = retained_evidence request.evidence) :
    Hashed builder request bundle (builder.python.canonical_json (builder.context_json
      (request.current_input :: request.confirmed_facts ++ evidence) bundle.model_request.history bundle.trimming
      request.latest_error))

theorem canonical_json_inj (python : Python φ) {v w : JsonValue φ} (hv : v.Distinct) (hw : w.Distinct)
    (h : python.canonical_json v = python.canonical_json w) : v.sortKeys = w.sortKeys :=
  dumps_inj python.floats hv hw (String.ofList_inj.mp h)

/-- Steps with equal tool sets share their inference settings. -/
def SharedSettings (profile : RunProfile φ) : Prop :=
  ∀ rule ∈ profile.inference_rules, ∀ other ∈ profile.inference_rules,
    (∀ name, name ∈ rule.tool_names ↔ name ∈ other.tool_names) → rule.inference = other.inference

theorem tool_names_of_step (registry : ProfileRegistry φ) {key : RunProfileKey} {step : PromptStep}
    {rule : InferenceRule φ}
    (hrule : (registry.profiles key).rule? step = some rule) :
    ((registry.tools_for_step key step).map fun tool => tool.name.text) = rule.tool_names := by
  have hmem : rule ∈ (registry.profiles key).inference_rules := List.mem_of_find?_eq_some hrule
  have hknown := registry.known_tools key rule hmem
  unfold ProfileRegistry.tools_for_step
  rw [hrule]
  dsimp only
  generalize rule.tool_names = names at hknown
  induction names with
  | nil => rfl
  | cons name names ih =>
    obtain ⟨tool, htool, hname⟩ := List.mem_map.mp (hknown name List.mem_cons_self)
    cases hfind : (registry.tools key).find? fun tool => tool.name.text = name with
    | none => exact absurd (decide_eq_true hname) (List.find?_eq_none.mp hfind tool htool)
    | some found =>
      have hfound := List.find?_some hfind
      rw [List.filterMap_cons, hfind, List.map_cons, ih fun name hname => hknown name (List.mem_cons_of_mem _ hname),
        of_decide_eq_true hfound]

/-- The two requests ask for the same. Groups are the same as Python compares them. -/
structure SameRequest (a b : ModelRequest φ) : Prop where
  messages : a.messages = b.messages
  history : a.history.map ConversationGroup.in_utc = b.history.map ConversationGroup.in_utc
  tools : a.tools = b.tools
  inference : a.inference = b.inference

theorem map_congr_of_map {α β γ : Type} {f f' : α → β} {g : α → γ} {xs ys : List α}
    (h : ∀ x ∈ xs, ∀ y ∈ ys, f x = f' y → g x = g y) (heq : xs.map f = ys.map f') : xs.map g = ys.map g := by
  induction xs generalizing ys with
  | nil =>
    cases ys with
    | nil => rfl
    | cons y ys => cases heq
  | cons x xs ih =>
    cases ys with
    | nil => cases heq
    | cons y ys =>
      simp only [List.map_cons, List.cons.injEq] at heq ⊢
      exact ⟨h x List.mem_cons_self y List.mem_cons_self heq.1,
        ih (fun x hx y hy => h x (List.mem_cons_of_mem _ hx) y (List.mem_cons_of_mem _ hy)) heq.2⟩

theorem Bundled.tool_names {builder : ContextBuilder φ} {request : ContextRequest φ} {bundle : PromptBundle φ}
    {profile : RunProfile φ} {rule : InferenceRule φ} {draft : Draft}
    (h : Bundled builder request bundle profile rule draft) :
    (bundle.model_request.tools.map fun tool => tool.name.text) = rule.tool_names := by
  have hchosen := h.chosen
  rw [h.tools]
  rw [h.registered] at hchosen ⊢
  rw [builder.registry.own_key]
  exact tool_names_of_step builder.registry hchosen

theorem hashes_determine (builder : ContextBuilder φ) (model₁ model₂ : String) (request₁ request₂ : ContextRequest φ)
    (bundle₁ bundle₂ : PromptBundle φ) (hprofile : request₁.profile = request₂.profile)
    (hsettings : SharedSettings (builder.registry.profiles request₁.profile.key))
    (hsha256 : ∀ a b, Hashed (builder.asking model₁) request₁ bundle₁ a →
      Hashed (builder.asking model₂) request₂ bundle₂ b →
      builder.python.sha256 a = builder.python.sha256 b → a = b)
    (hbuild₁ : (builder.asking model₁).build request₁ = .ok bundle₁)
    (hbuild₂ : (builder.asking model₂).build request₂ = .ok bundle₂) (hhashes : bundle₁.hashes = bundle₂.hashes) :
    SameRequest bundle₁.model_request bundle₂.model_request ∧ model₁ = model₂ := by
  obtain ⟨_, rule₁, draft₁, h₁⟩ := build_bundles hbuild₁
  obtain ⟨_, rule₂, draft₂, h₂⟩ := build_bundles hbuild₂
  obtain rfl := h₁.registered
  obtain rfl := h₂.registered
  have hinj {v w : JsonValue φ} (hv : v.Distinct) (hw : w.Distinct)
      (ha : Hashed (builder.asking model₁) request₁ bundle₁ (builder.python.canonical_json v))
      (hb : Hashed (builder.asking model₂) request₂ bundle₂ (builder.python.canonical_json w))
      (h : builder.python.sha256_canonical v = builder.python.sha256_canonical w) : v.sortKeys = w.sortKeys :=
    canonical_json_inj builder.python hv hw (hsha256 _ _ ha hb h)
  have hconfig : model₁ = model₂ := by
    have heq := hinj (config_distinct _ _) (config_distinct _ _) .config .config
      (h₁.config_hash.symm.trans ((congrArg PromptHashes.config_hash hhashes).trans h₂.config_hash))
    have hfields := sortKeys_obj_inj (by simp) (by simp) heq
    simp only [List.map_cons, List.cons.injEq] at hfields
    have hmodel := hfields.1
    simp only [JsonValue.sortKeys, JsonValue.str.injEq] at hmodel
    exact hmodel
  have hmessages : bundle₁.model_request.messages = bundle₂.model_request.messages := by
    have heq := hinj (rendered_prompt_distinct _) (rendered_prompt_distinct _) .rendered_prompt .rendered_prompt
      (h₁.rendered_prompt_hash.symm.trans
        ((congrArg PromptHashes.rendered_prompt_hash hhashes).trans h₂.rendered_prompt_hash))
    have hfields := sortKeys_obj_inj (by simp) (by simp) heq
    simp only [List.map_cons, List.cons.injEq] at hfields
    exact sortKeys_arr_inj (fun _ _ => ChatMessage.to_json_inj) hfields.1
  have htools : bundle₁.model_request.tools = bundle₂.model_request.tools := by
    have heq := hinj (catalog_distinct _ _) (catalog_distinct _ _) .catalog .catalog
      (h₁.tool_hash.symm.trans ((congrArg PromptHashes.tool_hash hhashes).trans h₂.tool_hash))
    have hfields := sortKeys_obj_inj (by simp) (by simp) heq
    simp only [List.map_cons, List.cons.injEq] at hfields
    exact sortKeys_arr_inj (fun _ _ => ToolDefinition.to_json_inj) hfields.2.2.1
  have hhistory : bundle₁.model_request.history.map ConversationGroup.in_utc =
      bundle₂.model_request.history.map ConversationGroup.in_utc := by
    have hcontext₁ := h₁.context_hash
    have hcontext₂ := h₂.context_hash
    rw [← h₁.history] at hcontext₁
    rw [← h₂.history] at hcontext₂
    have heq := hinj (context_distinct _ _ _ _ _) (context_distinct _ _ _ _ _) (.context _ h₁.evidence)
      (.context _ h₂.evidence)
      (hcontext₁.symm.trans ((congrArg PromptHashes.context_hash hhashes).trans hcontext₂))
    have hfields := sortKeys_obj_inj (by simp) (by simp) heq
    simp only [List.map_cons, List.cons.injEq] at hfields
    have hdigests : bundle₁.model_request.history.map (builder.asking model₁).group_digest =
        bundle₂.model_request.history.map (builder.asking model₂).group_digest := by
      refine texts_inj (φ := φ) (f := Checked.text) (fun _ _ => Checked.ext) ?_
      unfold texts
      rw [List.map_map, List.map_map]
      exact hfields.2.1
    refine map_congr_of_map (fun a ha b hb hdigest => ?_) hdigests
    exact ConversationGroup.to_json_inj (hinj a.distinct b.distinct (.group a ha) (.group b hb) hdigest)
  have hinference : bundle₁.model_request.inference = bundle₂.model_request.inference := by
    have hnames : rule₁.tool_names = rule₂.tool_names := by
      rw [← h₁.tool_names, ← h₂.tool_names, htools]
    have hmem₁ := List.mem_of_find?_eq_some h₁.chosen
    have hmem₂ := List.mem_of_find?_eq_some h₂.chosen
    rw [← hprofile] at hmem₂
    rw [h₁.inference, h₂.inference]
    exact hsettings rule₁ hmem₁ rule₂ hmem₂ fun name => by rw [hnames]
  exact ⟨⟨hmessages, hhistory, htools, hinference⟩, hconfig⟩

/-! ## One request, built twice -/

/-- The letter that tells the hashed texts apart: the first one of the first key. -/
def thirdLetter (text : String) : Char := text.toList.getD 2 'x'

def letterPython : Python Unit := { samplePython with sha256 := fun text => HexDigest.ofNat (thirdLetter text).toNat }

def letterBuilder : ContextBuilder Unit := { sampleBuilder with python := letterPython }

def letterRequest : ContextRequest Unit :=
  { helloRequest with
    run_scope := { helloRequest.run_scope with
      config_hash := letterBuilder.compute_config_hash (sampleProfile .bird_a) letterBuilder.requested_model }
    current_input := { hello with digest := letterPython.sha256 hello.content.text } }

theorem thirdLetter_obj {kvs : List (String × JsonValue Unit)} {k : String} (hmem : k ∈ kvs.map Prod.fst)
    (hleast : ∀ key ∈ kvs.map Prod.fst, k ≤ key) {c : Char}
      (hquote : Json.quote k = '"' :: c :: (Json.quote k).drop 2) :
    thirdLetter (letterPython.canonical_json (.obj kvs)) = c := by
  obtain ⟨rest, hrest⟩ := dumps_front letterPython.floats 0 hmem hleast
  unfold thirdLetter Python.canonical_json
  rw [String.toList_ofList, hrest, hquote]
  rfl

theorem letterRequest_built : ∃ bundle, letterBuilder.build letterRequest = .ok bundle ∧
    bundle.model_request.history = [] := by
  have hvalid : letterBuilder.validate_request letterRequest = .ok (sampleProfile .bird_a) := by
    have hsame : ¬ (letterBuilder.python.canonical_json
        (letterBuilder.registry.profiles letterRequest.profile.key).to_json ≠
          letterBuilder.python.canonical_json letterRequest.profile.to_json) := fun h => h rfl
    unfold validate_request
    dsimp only
    rw [if_neg hsame, if_neg (by decide), if_neg (by decide), if_neg (by decide)]
    rfl
  have hfits : Fits letterBuilder letterRequest (sampleProfile .bird_a) := by
    unfold Fits contents
    simp only [List.forall_mem_cons]
    refine ⟨by decide, by decide, ?_, by simp⟩
    unfold Python.canonical_json
    rw [String.length_ofList]
    decide +kernel
  obtain ⟨candidate, -, -, hafter, hhistory, -⟩ :=
    after_ok actRule.inference letterRequest.run_scope.config_hash (by decide) hfits rfl ⟨[], []⟩ (List.Sublist.refl _)
  have hwithin : ¬ Exceeds letterBuilder letterRequest (sampleProfile .bird_a) actRule.inference
      letterRequest.run_scope.config_hash ⟨letterRequest.history, letterRequest.evidence⟩ := by
    rintro ⟨tokens, htokens, hexceeds⟩
    obtain rfl := Except.ok.inj (htokens.symm.trans hafter)
    change 100 < candidate.history.length at hexceeds
    rw [hhistory] at hexceeds
    exact absurd hexceeds (Nat.not_lt_zero 100)
  obtain ⟨bundle, hbundle, huntrimmed⟩ :=
    build_untrimmed (by decide) hvalid (rfl : _ = some actRule) rfl hfits hwithin
  exact ⟨bundle, hbundle, huntrimmed.history⟩

/-- The text with a letter, of those that are hashed for the request. -/
def letterText (bundle : PromptBundle Unit) (letter : Char) : String :=
  letterPython.canonical_json <|
    if letter = 'b' then config_json (sampleProfile .bird_a) "model"
    else if letter = 'm' then rendered_prompt_json bundle.model_request.messages
    else if letter = 'c' then catalog_json (sampleProfile .bird_a) bundle.model_request.tools
    else letterBuilder.context_json [letterRequest.current_input] [] bundle.trimming none

theorem hashed_text {bundle : PromptBundle Unit} (hhistory : bundle.model_request.history = []) {a : String}
    (ha : Hashed letterBuilder letterRequest bundle a) : a = letterText bundle (thirdLetter a) := by
  cases ha with
  | config =>
    have hletter (profile : RunProfile Unit) (model : String) :
        thirdLetter (letterPython.canonical_json (config_json profile model)) = 'b' :=
      thirdLetter_obj (k := "budgets") (by simp) (by simp) rfl
    exact (congrArg (letterText bundle) (hletter _ _)).symm
  | rendered_prompt =>
    have hletter (messages : List ChatMessage) :
        thirdLetter (letterPython.canonical_json (rendered_prompt_json messages)) = 'm' :=
      thirdLetter_obj (k := "messages") (by simp) (by simp) rfl
    exact (congrArg (letterText bundle) (hletter _)).symm
  | catalog =>
    have hletter (profile : RunProfile Unit) (tools : List ToolDefinition) :
        thirdLetter (letterPython.canonical_json (catalog_json profile tools)) = 'c' :=
      thirdLetter_obj (k := "catalog_revision") (by simp) (by simp) rfl
    exact (congrArg (letterText bundle) (hletter _ _)).symm
  | group group hgroup =>
    rw [hhistory] at hgroup
    exact absurd hgroup List.not_mem_nil
  | context evidence hevidence =>
    obtain rfl : evidence = [] := hevidence.elim id id
    rw [hhistory]
    have hletter (records : List ContextDatum) (trimming : TrimmingSummary) :
        thirdLetter (letterPython.canonical_json (letterBuilder.context_json records [] trimming none)) = 'g' :=
      thirdLetter_obj (k := "groups") (by simp) (by simp) rfl
    exact (congrArg (letterText bundle) (hletter [letterRequest.current_input] bundle.trimming)).symm

theorem hashed_letter {bundle : PromptBundle Unit} (hhistory : bundle.model_request.history = []) {a b : String}
    (ha : Hashed letterBuilder letterRequest bundle a) (hb : Hashed letterBuilder letterRequest bundle b)
    (h : letterPython.sha256 a = letterPython.sha256 b) : a = b := by
  have hletter : thirdLetter a = thirdLetter b := by
    have htext := String.ofList_inj.mp (congrArg Checked.text h)
    have hlt (c : Char) : c.toNat < 16 ^ 64 := by
      have hsize : c.toNat < 2 ^ 32 := c.val.toNat_lt
      omega
    exact Char.toNat_inj.mp (fixedText_inj (by omega) (hlt _) (hlt _) htext)
  rw [hashed_text hhistory ha, hashed_text hhistory hb, hletter]

theorem hashes_determine_hello : ∃ bundle, letterBuilder.build letterRequest = .ok bundle ∧
    SameRequest bundle.model_request bundle.model_request ∧
      letterBuilder.requested_model = letterBuilder.requested_model := by
  obtain ⟨bundle, hbuild, hhistory⟩ := letterRequest_built
  have hsettings : SharedSettings (letterBuilder.registry.profiles letterRequest.profile.key) := by
    intro rule hrule other hother _
    rw [List.mem_singleton.mp hrule, List.mem_singleton.mp hother]
  exact ⟨bundle, hbuild, hashes_determine letterBuilder letterBuilder.requested_model letterBuilder.requested_model
    letterRequest letterRequest bundle bundle rfl hsettings (fun _ _ => hashed_letter hhistory) hbuild hbuild rfl⟩

end CommerceAgent.Context
