import CommerceAgent.Context.Builder
import CommerceAgent.Lib.Raising
import Mathlib.Data.List.Forall2

/-!
# Trimming

What one cut does to a request, and from it what a whole build leaves of it.
-/

open CommerceAgent.Lib
open CommerceAgent.Operations (UUID Text Code HexDigest Checked)
open CommerceAgent.Orchestration

namespace CommerceAgent.Context

open ContextBuilder

variable {φ : Type}

/-! ## Cuts -/

/-- One removal or summary, with the digests that it reports. -/
inductive Cut where
  | group (digest : HexDigest)
  | result (content_sha256 : HexDigest)
  | evidence (digests : List HexDigest)

def Cut.groups : Cut → List HexDigest
  | .group digest => [digest]
  | _ => []

def Cut.results : Cut → List HexDigest
  | .result content_sha256 => [content_sha256]
  | _ => []

def Cut.evidences : Cut → List HexDigest
  | .evidence digests => digests
  | _ => []

/-- No raw result is left. -/
def Spent (groups : List ConversationGroup) : Prop :=
  ∀ group ∈ groups, ∀ result ∈ group.results, result.raw = false

section Steps

variable (builder : ContextBuilder φ) (request : ContextRequest φ) (profile : RunProfile φ)
  (inference : InferenceConfig φ) (config_hash : HexDigest)

/-- The estimate of a draft is above the limit. -/
def Exceeds (draft : Draft) : Prop :=
  ∃ tokens, builder.after request profile inference config_hash draft = .ok tokens ∧ profile.input_token_limit < tokens

/-- A cut of a draft that is above the limit: first groups, then results, then evidence, and always the oldest. -/
inductive Step : Draft → Cut → Draft → Prop
  | drops (group : ConversationGroup) (history : List ConversationGroup) (evidence : List ContextDatum)
    (hexceeds : Exceeds builder request profile inference config_hash ⟨group :: history, evidence⟩)
    (hspare : profile.minimum_recent_groups < history.length + 1) :
    Step ⟨group :: history, evidence⟩ (.group (builder.group_digest group)) ⟨history, evidence⟩
  | summarizes (front back : List ConversationGroup) (exchange : ToolExchangeGroup) (before after : List ToolResult)
    (result : ToolResult) (evidence : List ContextDatum)
    (hexceeds : Exceeds builder request profile inference config_hash
      ⟨front ++ .tool_exchange { exchange with tool_results := before ++ result :: after } :: back, evidence⟩)
    (hlast : (front.length + 1 + back.length) ≤ profile.minimum_recent_groups) (hfront : Spent front)
    (hbefore : ∀ earlier ∈ before, earlier.raw = false) (hraw : result.raw = true) :
    Step ⟨front ++ .tool_exchange { exchange with tool_results := before ++ result :: after } :: back, evidence⟩
      (.result result.content_sha256)
      ⟨front ++ .tool_exchange { exchange with tool_results := before ++ builder.summarize_result result :: after } ::
        back,
        evidence⟩
  | dedups (history : List ConversationGroup) (evidence : List ContextDatum)
    (hexceeds : Exceeds builder request profile inference config_hash ⟨history, evidence⟩)
    (hlast : history.length ≤ profile.minimum_recent_groups) (hspent : Spent history) :
    Step ⟨history, evidence⟩ (.evidence (removed_evidence evidence)) ⟨history, retained_evidence evidence⟩

/-- The cuts that lead from a draft to another. -/
inductive Trims : Draft → List Cut → Draft → Prop
  | done (draft : Draft) : Trims draft [] draft
  | next {draft between after : Draft} {cuts : List Cut} {cut : Cut} (h : Trims draft cuts between)
    (hstep : Step builder request profile inference config_hash between cut after) : Trims draft (cuts ++ [cut]) after

end Steps

variable {builder : ContextBuilder φ} {request : ContextRequest φ} {profile : RunProfile φ}
  {inference : InferenceConfig φ} {config_hash : HexDigest}

theorem Trims.trans {a b c : Draft} {cuts cuts' : List Cut}
    (h : Trims builder request profile inference config_hash a cuts b)
    (h' : Trims builder request profile inference config_hash b cuts' c) :
    Trims builder request profile inference config_hash a (cuts ++ cuts') c := by
  induction h' with
  | done => rwa [List.append_nil]
  | next _ hstep ih =>
    rw [← List.append_assoc]
    exact Trims.next ih hstep

theorem Trims.single {a b : Draft} {cut : Cut} (h : Step builder request profile inference config_hash a cut b) :
    Trims builder request profile inference config_hash a [cut] b :=
  Trims.next (Trims.done a) h

theorem Trims.untrimmed {a b : Draft} {cuts : List Cut}
    (h : Trims builder request profile inference config_hash a cuts b)
    (hfits : ¬ Exceeds builder request profile inference config_hash a) : cuts = [] ∧ b = a := by
  induction h with
  | done => exact ⟨rfl, rfl⟩
  | next _ hstep ih =>
    obtain ⟨-, rfl⟩ := ih
    cases hstep with
    | drops _ _ _ hexceeds => exact absurd hexceeds hfits
    | summarizes _ _ _ _ _ _ _ hexceeds => exact absurd hexceeds hfits
    | dedups _ _ hexceeds => exact absurd hexceeds hfits

/-! ## What the cuts leave of the history -/

def Summarized (builder : ContextBuilder φ) (old new : ToolResult) : Prop :=
  new = old ∨ (old.raw = true ∧ new = builder.summarize_result old)

/-- A group as it was, but for summaries of its results. -/
inductive Shortened (builder : ContextBuilder φ) : ConversationGroup → ConversationGroup → Prop
  | assistant (ref : ProviderTurnRef) : Shortened builder (.assistant ref) (.assistant ref)
  | tool_exchange (ref : ProviderTurnRef) (calls : List ToolCall) (old new : List ToolResult)
    (hresults : List.Forall₂ (Summarized builder) old new) :
    Shortened builder (.tool_exchange ⟨ref, calls, old⟩) (.tool_exchange ⟨ref, calls, new⟩)

theorem Shortened.refl (group : ConversationGroup) : Shortened builder group group := by
  cases group with
  | assistant ref => exact Shortened.assistant ref
  | tool_exchange exchange =>
    exact Shortened.tool_exchange _ _ _ _ (List.forall₂_same.mpr fun _ _ => Or.inl rfl)

theorem Shortened.ref {old new : ConversationGroup} (h : Shortened builder old new) : new.ref = old.ref := by
  cases h <;> rfl

theorem Summarized.call_id {old new : ToolResult} (h : Summarized builder old new) :
    new.call_id = old.call_id ∧ new.name = old.name := by
  rcases h with rfl | ⟨-, rfl⟩ <;> exact ⟨rfl, rfl⟩

theorem map_of_forall₂ {α β : Type} {R : α → α → Prop} {f : α → β} (h : ∀ a b, R a b → f b = f a) {xs ys : List α}
    (hall : List.Forall₂ R xs ys) : ys.map f = xs.map f := by
  induction hall with
  | nil => rfl
  | cons hab _ ih => rw [List.map_cons, List.map_cons, h _ _ hab, ih]

theorem Shortened.closed {old new : ToolExchangeGroup}
    (h : Shortened builder (.tool_exchange old) (.tool_exchange new)) (hclosed : old.Closed) :
    new.Closed ∧ new.tool_calls = old.tool_calls := by
  cases h with
  | tool_exchange ref calls before after hresults =>
    refine ⟨⟨?_, hclosed.expected, ?_⟩, rfl⟩
    · rw [map_of_forall₂ (fun _ _ h => h.call_id.1) hresults]
      exact hclosed.ids
    · rw [map_of_forall₂ (fun _ _ h => h.call_id.2) hresults]
      exact hclosed.names

theorem Shortened.trans {a b c : ConversationGroup} (h : Shortened builder a b) (h' : Shortened builder b c) :
    Shortened builder a c := by
  have hresult {x y z : ToolResult} (h : Summarized builder x y) (h' : Summarized builder y z) :
    Summarized builder x z := by
    rcases h with rfl | ⟨hraw, rfl⟩
    · exact h'
    · rcases h' with rfl | ⟨hraw', -⟩
      · exact Or.inr ⟨hraw, rfl⟩
      · cases hraw'
  cases h with
  | assistant => exact h'
  | tool_exchange ref calls old between hresults =>
    cases h' with
    | tool_exchange _ _ _ new hresults' =>
      refine Shortened.tool_exchange ref calls old new ?_
      clear * - hresults hresults' hresult
      induction hresults generalizing new with
      | nil =>
        cases hresults'
        exact List.Forall₂.nil
      | cons hxy _ ih =>
        cases hresults' with
        | cons hyz hrest => exact List.Forall₂.cons (hresult hxy hyz) (ih _ hrest)

theorem shortened_trans {xs ys zs : List ConversationGroup} (h : List.Forall₂ (Shortened builder) xs ys)
    (h' : List.Forall₂ (Shortened builder) ys zs) : List.Forall₂ (Shortened builder) xs zs := by
  induction h generalizing zs with
  | nil =>
    cases h'
    exact List.Forall₂.nil
  | cons hxy _ ih =>
    cases h' with
    | cons hyz hrest => exact List.Forall₂.cons (hxy.trans hyz) (ih hrest)

theorem shortened_refl (groups : List ConversationGroup) : List.Forall₂ (Shortened builder) groups groups :=
  List.forall₂_same.mpr fun group _ => Shortened.refl group

/-- The digests of the raw results, in order. -/
def raw_digests (groups : List ConversationGroup) : List HexDigest :=
  groups.flatMap fun group => (group.results.filter ToolResult.raw).map ToolResult.content_sha256

theorem raw_digests_append (xs ys : List ConversationGroup) :
    raw_digests (xs ++ ys) = raw_digests xs ++ raw_digests ys := by
  simp [raw_digests]

theorem raw_digests_cons (group : ConversationGroup) (groups : List ConversationGroup) :
    raw_digests (group :: groups) =
      (group.results.filter ToolResult.raw).map ToolResult.content_sha256 ++ raw_digests groups := by
  simp [raw_digests]

theorem Spent.raw_digests {groups : List ConversationGroup} (h : Spent groups) : raw_digests groups = [] := by
  unfold Context.raw_digests
  rw [List.flatMap_eq_nil_iff]
  intro group hgroup
  rw [List.map_eq_nil_iff, List.filter_eq_nil_iff]
  intro result hresult
  rw [h group hgroup result hresult]
  exact Bool.false_ne_true

theorem filter_raw_nil {results : List ToolResult} (h : ∀ result ∈ results, result.raw = false) :
    results.filter ToolResult.raw = [] := by
  rw [List.filter_eq_nil_iff]
  intro result hresult
  rw [h result hresult]
  exact Bool.false_ne_true

/-- What is left of a history: a suffix of it, with the oldest raw results summarised. -/
structure Left (builder : ContextBuilder φ) (minimum : ℕ) (history : List ConversationGroup) (cuts : List Cut)
    (left dropped kept : List ConversationGroup) : Prop where
  suffix : history = dropped ++ kept
  shortened : List.Forall₂ (Shortened builder) kept left
  enough : min history.length minimum ≤ kept.length
  dropped_digests : dropped.map builder.group_digest = cuts.flatMap Cut.groups
  summarized_digests : raw_digests kept = cuts.flatMap Cut.results ++ raw_digests left

theorem Left.length {minimum : ℕ} {history left dropped kept : List ConversationGroup} {cuts : List Cut}
    (h : Left builder minimum history cuts left dropped kept) : kept.length = left.length :=
  h.shortened.length_eq

theorem Trims.left {a b : Draft} {cuts : List Cut} (h : Trims builder request profile inference config_hash a cuts b) :
    ∃ dropped kept, Left builder profile.minimum_recent_groups a.history cuts b.history dropped kept ∧
      (kept = b.history ∨ b.history.length ≤ profile.minimum_recent_groups) := by
  induction h with
  | done => exact ⟨[], _, ⟨rfl, shortened_refl _, min_le_left _ _, rfl, rfl⟩, Or.inl rfl⟩
  | next _ hstep ih =>
    obtain ⟨dropped, kept, hleft, hlast⟩ := ih
    cases hstep with
    | drops group history evidence hexceeds hspare =>
      obtain rfl : kept = group :: history := hlast.resolve_right (by
        rw [List.length_cons]
        omega)
      have hresults := hleft.summarized_digests
      rw [eq_comm, List.append_left_eq_self] at hresults
      refine ⟨dropped ++ [group], history, ⟨?_, shortened_refl _, ?_, ?_, ?_⟩, Or.inl rfl⟩
      · rw [hleft.suffix, List.append_assoc]
        rfl
      · exact (min_le_right _ _).trans (Nat.lt_succ_iff.mp hspare)
      · rw [List.map_append, hleft.dropped_digests, List.flatMap_append]
        rfl
      · rw [List.flatMap_append, hresults]
        rfl
    | summarizes front back exchange before after result evidence hexceeds hmin hfront hbefore hraw =>
      have hone : List.Forall₂ (Summarized builder) (before ++ result :: after)
          (before ++ builder.summarize_result result :: after) := by
        have hsame (results : List ToolResult) : List.Forall₂ (Summarized builder) results results :=
          List.forall₂_same.mpr fun _ _ => Or.inl rfl
        have hresult : Summarized builder result (builder.summarize_result result) := Or.inr ⟨hraw, rfl⟩
        exact List.rel_append (hsame before) (List.Forall₂.cons hresult (hsame after))
      have hshort := hleft.shortened
      refine ⟨dropped, kept, ⟨hleft.suffix, shortened_trans hshort ?_, hleft.enough, ?_, ?_⟩, Or.inr ?_⟩
      · refine List.rel_append (shortened_refl _) (List.Forall₂.cons ?_ (shortened_refl _))
        exact Shortened.tool_exchange _ _ _ _ hone
      · rw [List.flatMap_append, hleft.dropped_digests]
        exact (List.append_nil _).symm
      · rw [hleft.summarized_digests, List.flatMap_append]
        simp only [raw_digests_append, raw_digests_cons, hfront.raw_digests, ConversationGroup.results,
          List.filter_append,
          filter_raw_nil hbefore, List.filter_cons, hraw, List.nil_append, if_true]
        simp [Cut.results, summarize_result]
      · simp only [List.length_append, List.length_cons]
        omega
    | dedups history evidence hexceeds hmin hspent =>
      refine ⟨dropped, kept, ⟨hleft.suffix, hleft.shortened, hleft.enough, ?_, ?_⟩, Or.inr hmin⟩
      · rw [List.flatMap_append, hleft.dropped_digests]
        exact (List.append_nil _).symm
      · rw [List.flatMap_append, hleft.summarized_digests]
        simp [Cut.results]

/-! ## Evidence -/

theorem last_get (evidence : List ContextDatum) (n : ℕ) (last : Dict (DatumKind × DataNamespace × Text 1 512) ℕ)
    (key : DatumKind × DataNamespace × Text 1 512) :
    (∃ later j, (later, j) ∈ evidence.zipIdx n ∧ identity later = key ∧
      ((evidence.zipIdx n).foldl (fun last item => last.set (identity item.1) item.2) last).get? key = some j ∧
      ∀ item ∈ evidence.zipIdx n, identity item.1 = key → item.2 ≤ j) ∨
    ((∀ item ∈ evidence.zipIdx n, identity item.1 ≠ key) ∧
      ((evidence.zipIdx n).foldl (fun last item => last.set (identity item.1) item.2) last).get? key =
        last.get? key) := by
  induction evidence generalizing n last with
  | nil => exact Or.inr ⟨fun _ h => absurd h List.not_mem_nil, rfl⟩
  | cons datum evidence ih =>
    rw [List.zipIdx_cons, List.foldl_cons]
    rcases ih (n + 1) (last.set (identity datum) n) with ⟨later, j, hmem, hkey, hget, hlast⟩ | ⟨hnone, hget⟩
    · refine Or.inl ⟨later, j, List.mem_cons_of_mem _ hmem, hkey, hget, fun item hitem heq => ?_⟩
      rcases List.mem_cons.mp hitem with rfl | hitem
      · have := List.le_snd_of_mem_zipIdx hmem
        dsimp only at this ⊢
        omega
      · exact hlast item hitem heq
    · rw [hget]
      by_cases hsame : identity datum = key
      · subst hsame
        refine Or.inl ⟨datum, n, List.mem_cons_self, rfl, Dict.get?_set_self _ _ _, fun item hitem heq => ?_⟩
        rcases List.mem_cons.mp hitem with rfl | hitem
        · exact le_refl n
        · exact absurd heq (hnone item hitem)
      · refine Or.inr ⟨fun item hitem => ?_, Dict.get?_set_of_ne (Ne.symm hsame)⟩
        rcases List.mem_cons.mp hitem with rfl | hitem
        · exact hsame
        · exact hnone item hitem

/-- What is left of the evidence, and the digests of what is not: a datum goes only when a later one of its kind,
namespace and reference stays. -/
def Deduplicated (given kept : List ContextDatum) (digests : List HexDigest) : Prop :=
  ∃ keep : ContextDatum × ℕ → Bool, kept = (given.zipIdx.filter keep).map Prod.fst ∧
    digests = (given.zipIdx.filter fun item => !keep item).map (fun item => item.1.digest) ∧
    ∀ item ∈ given.zipIdx, keep item = false →
      ∃ later ∈ given.zipIdx, item.2 < later.2 ∧ identity later.1 = identity item.1 ∧ keep later = true

theorem Deduplicated.refl (evidence : List ContextDatum) : Deduplicated evidence evidence [] :=
  ⟨fun _ => true, by simp, by simp, fun _ _ h => by cases h⟩

theorem Deduplicated.sublist {given kept : List ContextDatum} {digests : List HexDigest}
    (h : Deduplicated given kept digests) : kept.Sublist given := by
  obtain ⟨keep, rfl, -, -⟩ := h
  have hsub := (List.filter_sublist (l := given.zipIdx) (p := keep)).map Prod.fst
  rwa [List.zipIdx_map_fst] at hsub

theorem deduplicated_retained (evidence : List ContextDatum) :
    Deduplicated evidence (retained_evidence evidence) (removed_evidence evidence) := by
  refine ⟨fun item => (last_by_identity evidence).get? (identity item.1) = some item.2, rfl, ?_,
    fun item hitem hdrop => ?_⟩
  · unfold removed_evidence
    simp
  · rw [decide_eq_false_iff_not] at hdrop
    rcases last_get evidence 0 Dict.empty (identity item.1) with ⟨later, j, hmem, hkey, hget, hlast⟩ | ⟨hnone, -⟩
    · refine ⟨(later, j), hmem, ?_, hkey, ?_⟩
      · have hle := hlast item hitem rfl
        have hne : item.2 ≠ j := by
          rintro rfl
          exact hdrop hget
        dsimp only
        omega
      · rw [decide_eq_true_eq]
        dsimp only
        rw [hkey]
        exact hget
    · exact absurd rfl (hnone item hitem)

/-! ## Less evidence makes a shorter message -/

theorem writeItems_sublist (floats : FloatText φ) {xs ys : List (JsonValue φ)} (h : xs.Sublist ys) :
    (JsonValue.writeItems floats 0 xs).length ≤ (JsonValue.writeItems floats 0 ys).length := by
  induction h with
  | slnil => exact le_refl _
  | cons y _ ih =>
    simp only [JsonValue.writeItems, List.length_cons, List.length_append]
    omega
  | cons_cons y _ ih =>
    simp only [JsonValue.writeItems, List.length_cons, List.length_append]
    omega

theorem write_arr_sublist (floats : FloatText φ) {xs ys : List (JsonValue φ)} (h : xs.Sublist ys) :
    (JsonValue.write floats 0 (.arr xs)).length ≤ (JsonValue.write floats 0 (.arr ys)).length := by
  have hlength (x : JsonValue φ) (xs : List (JsonValue φ)) :
      (JsonValue.write floats 0 (.arr (x :: xs))).length = (JsonValue.writeItems floats 0 (x :: xs)).length := by
    simp [JsonValue.write, JsonValue.writeItems, JsonValue.gap]
  have hpos (x : JsonValue φ) (xs : List (JsonValue φ)) : 2 ≤ (JsonValue.writeItems floats 0 (x :: xs)).length := by
    have hx := JsonValue.write_ne_nil floats 0 x
    simp only [JsonValue.writeItems, List.length_cons, List.length_append]
    omega
  have hitems := writeItems_sublist floats h
  cases xs with
  | nil =>
    cases ys with
    | nil => exact le_refl _
    | cons y ys =>
      rw [hlength]
      exact hpos y ys
  | cons x xs =>
    cases ys with
    | nil => cases h
    | cons y ys =>
      rw [hlength, hlength]
      exact hitems

theorem sortedItems_map (xs : List (JsonValue φ)) : (JsonValue.arr xs).sortKeys = .arr (xs.map JsonValue.sortKeys) := by
  rw [JsonValue.sortKeys, JsonValue.sortItems_eq]

theorem canonical_records (python : Python φ) (xs : List (JsonValue φ)) :
    (python.canonical_json (.obj [("records", .arr xs)])).toList =
      '{' :: (Json.quote "records" ++ ':' ::
        (JsonValue.write python.floats 0 (.arr (xs.map JsonValue.sortKeys)) ++ ['}'])) := by
  unfold Python.canonical_json JsonValue.dumps
  rw [String.toList_ofList, JsonValue.sortKeys]
  simp [JsonValue.sortFields, sortedItems_map, JsonValue.write, JsonValue.writeFields, JsonValue.gap]

/-- The messages of a request that are rendered fit a `ChatMessage`. -/
def Fits (builder : ContextBuilder φ) (request : ContextRequest φ) (profile : RunProfile φ) : Prop :=
  ∀ message ∈ builder.contents request profile request.evidence, 1 ≤ message.2.length ∧ message.2.length ≤ 262144

theorem chat_message_ok {message : Role × String} (h : 1 ≤ message.2.length ∧ message.2.length ≤ 262144) :
    ∃ chat, chat_message message = .ok chat ∧ (chat.role, chat.content.text) = message := by
  have hok : (decide (1 ≤ message.2.length) && decide (message.2.length ≤ 262144)) = true := by
    rw [Bool.and_eq_true, decide_eq_true_eq, decide_eq_true_eq]
    exact h
  refine ⟨⟨message.1, ⟨message.2, hok⟩⟩, ?_, rfl⟩
  unfold chat_message Checked.parse
  rw [dif_pos hok]

theorem messages_ok (hfits : Fits builder request profile) {evidence : List ContextDatum}
    (hsub : evidence.Sublist request.evidence) :
    ∃ messages, builder.messages request profile evidence = .ok messages ∧
      messages.map (fun chat => (chat.role, chat.content.text)) = builder.contents request profile evidence := by
  have hlength : ∀ message ∈ builder.contents request profile evidence,
      1 ≤ message.2.length ∧ message.2.length ≤ 262144 := by
    unfold Fits contents at *
    simp only [List.forall_mem_cons] at hfits ⊢
    refine ⟨hfits.1, hfits.2.1, ⟨?_, ?_⟩, hfits.2.2.2⟩
    · rw [← String.length_toList, canonical_records]
      simp
    · refine le_trans ?_ hfits.2.2.1.2
      rw [← String.length_toList, ← String.length_toList, canonical_records, canonical_records]
      simp only [List.length_cons, List.length_append]
      have hrecords : (records request evidence).Sublist (records request request.evidence) := by
        unfold records
        exact ((((List.Sublist.refl _).append hsub).cons_cons _).map _).append (List.Sublist.refl _)
      have := write_arr_sublist builder.python.floats (hrecords.map JsonValue.sortKeys)
      omega
  unfold messages
  generalize builder.contents request profile evidence = given at hlength
  induction given with
  | nil => exact ⟨[], rfl, rfl⟩
  | cons message given ih =>
    rw [List.forall_mem_cons] at hlength
    obtain ⟨chat, hchat, heq⟩ := chat_message_ok hlength.1
    obtain ⟨chats, hchats, hmap⟩ := ih hlength.2
    refine ⟨chat :: chats, ?_, ?_⟩
    · rw [List.mapM_cons, hchat, hchats]
      rfl
    · rw [List.map_cons, heq, hmap]

theorem after_ok (inference : InferenceConfig φ) (config_hash : HexDigest) (hconfigured : builder.Configured)
    (hfits : Fits builder request profile) (hrevision : builder.estimator.revision = profile.estimator_revision.text)
    (draft : Draft) (hsub : draft.evidence.Sublist request.evidence) :
    ∃ candidate, builder.model_request request profile inference draft config_hash = .ok candidate ∧
      builder.estimate candidate profile = .ok (builder.estimator.estimate candidate).input_tokens ∧
      builder.after request profile inference config_hash draft = .ok
        (builder.estimator.estimate candidate).input_tokens ∧
      candidate.history = draft.history ∧
      builder.messages request profile draft.evidence = .ok candidate.messages := by
  obtain ⟨messages, hmessages, -⟩ := messages_ok hfits hsub
  have hestimate (candidate : ModelRequest φ) :
      builder.estimate candidate profile = .ok (builder.estimator.estimate candidate).input_tokens := by
    unfold ContextBuilder.estimate
    dsimp only
    rw [builder.estimator.own_revision, if_neg (not_not.mpr hrevision)]
  unfold after model_request
  rw [hmessages, ok_bind, if_neg (not_not.mpr hconfigured)]
  exact ⟨_, rfl, hestimate _, hestimate _, rfl, rfl⟩

/-! ## The passes -/

section Passes

variable {evidence : List ContextDatum}

/-- A pass leads to a draft with an estimate, by cuts that touch no evidence. -/
structure Passed (builder : ContextBuilder φ) (request : ContextRequest φ) (profile : RunProfile φ)
    (inference : InferenceConfig φ) (config_hash : HexDigest) (draft after : Draft) (tokens : ℕ) (cuts : List Cut) :
    Prop where
  estimated : builder.after request profile inference config_hash after = .ok tokens
  trims : Trims builder request profile inference config_hash draft cuts after
  evidences : cuts.flatMap Cut.evidences = []

theorem Passed.done {draft : Draft} {tokens : ℕ}
    (h : builder.after request profile inference config_hash draft = .ok tokens) :
    Passed builder request profile inference config_hash draft draft tokens [] :=
  ⟨h, Trims.done draft, rfl⟩

theorem Passed.cut {a b c : Draft} {tokens : ℕ} {cuts : List Cut} {cut : Cut}
    (hstep : Step builder request profile inference config_hash a cut b) (hcut : cut.evidences = [])
    (h : Passed builder request profile inference config_hash b c tokens cuts) :
    Passed builder request profile inference config_hash a c tokens (cut :: cuts) :=
  ⟨h.estimated, (Trims.single hstep).trans h.trims, by rw [List.flatMap_cons, hcut, h.evidences]; rfl⟩

theorem Passed.trans {a b c : Draft} {tokens tokens' : ℕ} {cuts cuts' : List Cut}
    (h : Passed builder request profile inference config_hash a b tokens cuts)
    (h' : Passed builder request profile inference config_hash b c tokens' cuts') :
    Passed builder request profile inference config_hash a c tokens' (cuts ++ cuts') :=
  ⟨h'.estimated, h.trims.trans h'.trims, by rw [List.flatMap_append, h.evidences, h'.evidences]; rfl⟩

variable (hready : ∀ history, ∃ tokens,
  builder.after request profile inference config_hash ⟨history, evidence⟩ = .ok tokens)

include hready

theorem drop_groups_spec (history : List ConversationGroup) (tokens : ℕ) (removed : List HexDigest)
    (htokens : builder.after request profile inference config_hash ⟨history, evidence⟩ = .ok tokens) :
    ∃ left tokens' cuts, builder.drop_groups request profile inference config_hash evidence history tokens removed =
        .ok (left, tokens', removed ++ cuts.flatMap Cut.groups) ∧
      Passed builder request profile inference config_hash ⟨history, evidence⟩ ⟨left, evidence⟩ tokens' cuts ∧
      cuts.flatMap Cut.results = [] ∧
        (profile.input_token_limit < tokens' → left.length ≤ profile.minimum_recent_groups) := by
  induction history generalizing tokens removed with
  | nil => exact ⟨[], tokens, [], by simp [drop_groups], Passed.done htokens, rfl, fun _ => Nat.zero_le _⟩
  | cons group history ih =>
    unfold drop_groups
    by_cases hdrop : profile.input_token_limit < tokens ∧ profile.minimum_recent_groups < history.length + 1
    · obtain ⟨tokens', htokens'⟩ := hready history
      obtain ⟨left, final, cuts, hleft, hpassed, hresults, hlast⟩ :=
        ih tokens' (removed ++ [builder.group_digest group]) htokens'
      refine ⟨left, final, .group (builder.group_digest group) :: cuts, ?_, Passed.cut ?_ rfl hpassed, hresults, hlast⟩
      · rw [if_pos hdrop, htokens']
        change builder.drop_groups request profile inference config_hash evidence history tokens' _ = _
        rw [hleft, List.flatMap_cons, List.append_assoc]
        rfl
      · exact Step.drops group history evidence ⟨tokens, htokens, hdrop.1⟩ hdrop.2
    · rw [if_neg hdrop]
      refine ⟨group :: history, tokens, [], by simp, Passed.done htokens, rfl, fun hexceeds => ?_⟩
      rw [List.length_cons]
      by_contra hmany
      exact hdrop ⟨hexceeds, by omega⟩

theorem compress_results_spec (front back : List ConversationGroup) (exchange : ToolExchangeGroup)
    (hfront : Spent front)
    (results seen : List ToolResult) (tokens : ℕ) (compressed : List HexDigest)
    (hseen : ∀ result ∈ seen, result.raw = false)
    (hlast : profile.input_token_limit < tokens → front.length + 1 + back.length ≤ profile.minimum_recent_groups)
    (htokens : builder.after request profile inference config_hash
      ⟨front ++ .tool_exchange { exchange with tool_results := seen ++ results } :: back, evidence⟩ = .ok tokens) :
    ∃ left tokens' cuts, builder.compress_results request profile inference config_hash evidence
        (fun results => front ++ .tool_exchange { exchange with tool_results := results } :: back) seen results tokens
        compressed = .ok (left, tokens', compressed ++ cuts.flatMap Cut.results) ∧
      Passed builder request profile inference config_hash
        ⟨front ++ .tool_exchange { exchange with tool_results := seen ++ results } :: back, evidence⟩
        ⟨front ++ .tool_exchange { exchange with tool_results := left } :: back, evidence⟩ tokens' cuts ∧
      cuts.flatMap Cut.groups = [] ∧
      (profile.input_token_limit < tokens' → front.length + 1 + back.length ≤ profile.minimum_recent_groups ∧
        ∀ result ∈ left, result.raw = false) := by
  induction results generalizing seen tokens compressed with
  | nil =>
    rw [List.append_nil] at htokens
    refine ⟨seen, tokens, [], ?_, ?_, rfl, fun hexceeds => ⟨hlast hexceeds, hseen⟩⟩
    · unfold compress_results
      rw [List.flatMap_nil, List.append_nil]
    · rw [List.append_nil]
      exact Passed.done htokens
  | cons result results ih =>
    unfold compress_results
    by_cases hfits : tokens ≤ profile.input_token_limit
    · rw [if_pos hfits]
      exact ⟨_, tokens, [], by simp, Passed.done htokens, rfl, fun hexceeds => absurd hfits (by omega)⟩
    rw [if_neg hfits]
    have hexceeds : profile.input_token_limit < tokens := by omega
    by_cases hraw : result.raw = true
    · rw [if_neg (not_not.mpr hraw)]
      have hstep := Step.summarizes front back exchange seen results result evidence ⟨tokens, htokens, hexceeds⟩
        (hlast hexceeds) hfront hseen hraw
      obtain ⟨tokens', htokens'⟩ := hready (front ++ .tool_exchange
        { exchange with tool_results := seen ++ builder.summarize_result result :: results } :: back)
      have hseen' : ∀ earlier ∈ seen ++ [builder.summarize_result result], earlier.raw = false := by
        intro earlier hearlier
        rcases List.mem_append.mp hearlier with hearlier | hearlier
        · exact hseen earlier hearlier
        · rw [List.mem_singleton.mp hearlier]
          rfl
      have hassoc : seen ++ builder.summarize_result result :: results =
          seen ++ [builder.summarize_result result] ++ results := by simp
      obtain ⟨left, final, cuts, hleft, hpassed, hgroups, hspent⟩ :=
        ih (seen ++ [builder.summarize_result result]) tokens'
        (compressed ++ [result.content_sha256]) hseen' (fun _ => hlast hexceeds) (by rw [← hassoc]; exact htokens')
      refine ⟨left, final, .result result.content_sha256 :: cuts, ?_, Passed.cut hstep rfl ?_, hgroups, hspent⟩
      · dsimp only
        rw [htokens']
        change builder.compress_results request profile inference config_hash evidence _ _ results tokens' _ = _
        rw [hleft, List.flatMap_cons, List.append_assoc]
        rfl
      · rw [hassoc]
        exact hpassed
    · rw [if_pos hraw]
      have hassoc : seen ++ result :: results = seen ++ [result] ++ results := by simp
      have hseen' : ∀ earlier ∈ seen ++ [result], earlier.raw = false := by
        intro earlier hearlier
        rcases List.mem_append.mp hearlier with hearlier | hearlier
        · exact hseen earlier hearlier
        · rw [List.mem_singleton.mp hearlier]
          exact Bool.eq_false_iff.mpr hraw
      rw [hassoc] at htokens ⊢
      exact ih (seen ++ [result]) tokens compressed hseen' hlast htokens

theorem compress_groups_spec (groups seen : List ConversationGroup) (tokens : ℕ) (compressed : List HexDigest)
    (hseen : Spent seen)
    (hlast : profile.input_token_limit < tokens → seen.length + groups.length ≤ profile.minimum_recent_groups)
    (htokens : builder.after request profile inference config_hash ⟨seen ++ groups, evidence⟩ = .ok tokens) :
    ∃ left tokens' cuts, builder.compress_groups request profile inference config_hash evidence seen groups tokens
        compressed = .ok (left, tokens', compressed ++ cuts.flatMap Cut.results) ∧
      Passed builder request profile inference config_hash ⟨seen ++ groups, evidence⟩ ⟨left, evidence⟩ tokens' cuts ∧
      cuts.flatMap Cut.groups = [] ∧
      (profile.input_token_limit < tokens' → left.length ≤ profile.minimum_recent_groups ∧ Spent left) := by
  induction groups generalizing seen tokens compressed with
  | nil =>
    rw [List.append_nil] at htokens ⊢
    refine ⟨seen, tokens, [], ?_, Passed.done htokens, rfl, fun hexceeds => ⟨?_, hseen⟩⟩
    · unfold compress_groups
      rw [List.flatMap_nil, List.append_nil]
    · exact hlast hexceeds
  | cons group groups ih =>
    unfold compress_groups
    by_cases hfits : tokens ≤ profile.input_token_limit
    · rw [if_pos hfits]
      exact ⟨_, tokens, [], by simp, Passed.done htokens, rfl, fun hexceeds => absurd hfits (by omega)⟩
    rw [if_neg hfits]
    have hexceeds : profile.input_token_limit < tokens := by omega
    have hlength : seen.length + 1 + groups.length ≤ profile.minimum_recent_groups := by
      have := hlast hexceeds
      rw [List.length_cons] at this
      omega
    have hspent (group : ConversationGroup) (hgroup : ∀ result ∈ group.results, result.raw = false) :
        Spent (seen ++ [group]) := by
      intro other hother
      rcases List.mem_append.mp hother with hother | hother
      · exact hseen other hother
      · rw [List.mem_singleton.mp hother]
        exact hgroup
    have hassoc (group : ConversationGroup) : seen ++ group :: groups = seen ++ [group] ++ groups := by simp
    have hlength' (group : ConversationGroup) :
        (seen ++ [group]).length + groups.length ≤ profile.minimum_recent_groups := by
      rw [List.length_append, List.length_singleton]
      exact hlength
    cases group with
    | assistant ref =>
      rw [hassoc] at htokens ⊢
      exact ih (seen ++ [.assistant ref]) tokens compressed (hspent _ fun _ h => absurd h List.not_mem_nil)
        (fun _ => hlength' _) htokens
    | tool_exchange exchange =>
      obtain ⟨results, between, cuts, hresults, hpassed, hgroups, hdone⟩ := compress_results_spec hready seen groups
        exchange hseen exchange.tool_results [] tokens compressed (fun _ h => absurd h List.not_mem_nil)
        (fun _ => hlength) htokens
      dsimp only at hresults ⊢
      rw [hresults]
      change ∃ left tokens' cuts, builder.compress_groups request profile inference config_hash evidence
        (seen ++ [.tool_exchange { exchange with tool_results := results }]) groups between _ = _ ∧ _
      by_cases hmore : profile.input_token_limit < between
      · obtain ⟨left, final, cuts', hleft, hpassed', hgroups', hspent'⟩ := ih
          (seen ++ [.tool_exchange { exchange with tool_results := results }]) between
          (compressed ++ cuts.flatMap Cut.results)
            (hspent (.tool_exchange { exchange with tool_results := results }) (hdone hmore).2) (fun _ => hlength' _)
          (by rw [← hassoc]; exact hpassed.estimated)
        rw [← hassoc] at hpassed'
        refine ⟨left, final, cuts ++ cuts', ?_, hpassed.trans hpassed', ?_, hspent'⟩
        · rw [hleft, List.flatMap_append, List.append_assoc]
        · rw [List.flatMap_append, hgroups, hgroups', List.append_nil]
      · refine ⟨_, between, cuts, ?_, hpassed, hgroups, fun h => absurd h hmore⟩
        cases groups with
        | nil => rfl
        | cons group groups =>
          unfold compress_groups
          rw [if_pos (by omega)]
          simp

end Passes

/-! ## A whole build -/

/-- What a build leaves of a request. -/
structure Trimmed (builder : ContextBuilder φ) (request : ContextRequest φ) (profile : RunProfile φ)
    (inference : InferenceConfig φ) (bundle : PromptBundle φ) : Prop where
  /-- The estimate of what is returned is the one that is reported, and within the limit. -/
  fits : (builder.estimator.estimate bundle.model_request).input_tokens = bundle.estimated_input_tokens ∧
    bundle.estimated_input_tokens ≤ profile.input_token_limit
  trimmed : ∃ evidence cuts dropped kept,
    -- the cuts lead from the request to the bundle
    Trims builder request profile inference (builder.compute_config_hash profile builder.requested_model)
      ⟨request.history, request.evidence⟩ cuts ⟨bundle.model_request.history, evidence⟩ ∧
    Left builder profile.minimum_recent_groups request.history cuts bundle.model_request.history dropped kept ∧
    Deduplicated request.evidence evidence bundle.trimming.removed_evidence_digests ∧
    -- the current input, the confirmed facts and the error are rendered with what is left of the evidence
    builder.messages request profile evidence = .ok bundle.model_request.messages ∧
    -- the summary lists the cuts
    bundle.trimming.original_groups = request.history.length ∧
    bundle.trimming.retained_groups = bundle.model_request.history.length ∧
    bundle.trimming.removed_group_digests = cuts.flatMap Cut.groups ∧
    bundle.trimming.compressed_result_digests = cuts.flatMap Cut.results ∧
    bundle.trimming.removed_evidence_digests = cuts.flatMap Cut.evidences ∧
    -- what fits is not trimmed
    (bundle.trimming.estimated_before ≤ profile.input_token_limit → cuts = [] ∧
      bundle.model_request.history = request.history ∧ evidence = request.evidence)
  before : builder.after request profile inference (builder.compute_config_hash profile builder.requested_model)
    ⟨request.history, request.evidence⟩ = .ok bundle.trimming.estimated_before
  /-- Every exchange that is left is closed. -/
  closed : ∀ exchange, ConversationGroup.tool_exchange exchange ∈ bundle.model_request.history → exchange.Closed

theorem shortened_closed {kept left : List ConversationGroup} (h : List.Forall₂ (Shortened builder) kept left)
    (hkept : ∀ exchange, ConversationGroup.tool_exchange exchange ∈ kept → exchange.Closed) :
    ∀ exchange, ConversationGroup.tool_exchange exchange ∈ left → exchange.Closed := by
  induction h with
  | nil => exact fun _ h => absurd h List.not_mem_nil
  | cons hgroup _ ih =>
    intro exchange hmem
    rcases List.mem_cons.mp hmem with rfl | hmem
    · cases hgroup with
      | tool_exchange ref calls old new hresults =>
        exact ((Shortened.tool_exchange ref calls old new hresults).closed
          (hkept ⟨ref, calls, old⟩ List.mem_cons_self)).1
    · exact ih (fun exchange hexchange => hkept exchange (List.mem_cons_of_mem _ hexchange)) exchange hmem

theorem validate_request_ok (h : builder.validate_request request = .ok profile) :
    profile = builder.registry.profiles request.profile.key ∧
      request.step ∈ profile.inference_rules.map InferenceRule.step ∧
      builder.estimator.revision = profile.estimator_revision.text ∧
      ∀ group ∈ request.history, group.valid builder.python = true := by
  have hforM (groups : List ConversationGroup) (h : groups.forM (builder.validate_group request) = .ok ()) :
      ∀ group ∈ groups, group.valid builder.python = true := by
    induction groups with
    | nil => exact fun _ h => absurd h List.not_mem_nil
    | cons group groups ih =>
      change (builder.validate_group request group >>= fun _ => groups.forM (builder.validate_group request)) = _ at h
      obtain ⟨_, hgroup, hrest⟩ := except_bind_ok h
      rw [List.forall_mem_cons]
      refine ⟨?_, ih hrest⟩
      by_contra hinvalid
      unfold validate_group at hgroup
      rw [if_pos hinvalid] at hgroup
      cases hgroup
  unfold validate_request at h
  dsimp only at h
  split_ifs at h with hprofile hstep hscope hrevision
  obtain ⟨_, -, h⟩ := except_bind_ok h
  obtain ⟨_, -, h⟩ := except_bind_ok h
  obtain ⟨_, hgroups, h⟩ := except_bind_ok h
  obtain ⟨_, -, h⟩ := except_bind_ok h
  cases h
  exact ⟨rfl, hstep, not_not.mp hrevision, hforM _ hgroups⟩

theorem rule_of_step (h : request.step ∈ profile.inference_rules.map InferenceRule.step) :
    ∃ rule, profile.rule? request.step = some rule := by
  obtain ⟨rule, hrule, hstep⟩ := List.mem_map.mp h
  refine Option.isSome_iff_exists.mp (List.find?_isSome.mpr ⟨rule, hrule, ?_⟩)
  rw [decide_eq_true_eq]
  exact hstep

theorem kept_closed {python : Python φ} {groups : List ConversationGroup}
    (h : ∀ group ∈ groups, group.valid python = true) :
    ∀ exchange, ConversationGroup.tool_exchange exchange ∈ groups → exchange.Closed := by
  intro exchange hexchange
  have hvalid := h _ hexchange
  unfold ConversationGroup.valid at hvalid
  simp only [Bool.and_eq_true, decide_eq_true_eq] at hvalid
  exact hvalid.2

theorem bundle_ok {inference : InferenceConfig φ} {config_hash : HexDigest} (hconfigured : builder.Configured)
    (hfits : Fits builder request profile) (hrevision : builder.estimator.revision = profile.estimator_revision.text) (draft : Draft)
    (hsub : draft.evidence.Sublist request.evidence) (trimming : TrimmingSummary)
    (hafter : builder.after request profile inference config_hash draft = .ok trimming.estimated_after) :
    ∃ bundle, builder.bundle request profile inference draft config_hash trimming = .ok bundle ∧
      bundle.trimming = trimming ∧ bundle.model_request.history = draft.history ∧
      builder.messages request profile draft.evidence = .ok bundle.model_request.messages ∧
      (builder.estimator.estimate bundle.model_request).input_tokens = trimming.estimated_after := by
  obtain ⟨candidate, hcandidate, -, hestimate, hhistory, hmessages⟩ :=
    after_ok inference config_hash hconfigured hfits hrevision draft hsub
  have htokens : (builder.estimator.estimate candidate).input_tokens = trimming.estimated_after :=
    Except.ok.inj (hestimate.symm.trans hafter)
  have hfinal (hashes : PromptHashes) : builder.estimate { candidate with hashes := hashes } profile =
      .ok trimming.estimated_after := by
    unfold ContextBuilder.estimate
    dsimp only
    rw [builder.estimator.ignores_hashes, builder.estimator.own_revision, if_neg (not_not.mpr hrevision), htokens]
  unfold bundle final_request
  rw [hcandidate, ok_bind]
  dsimp only [pure, Except.pure]
  rw [ok_bind, hfinal, ok_bind, if_neg (not_not.mpr rfl)]
  refine ⟨_, rfl, rfl, hhistory, hmessages, ?_⟩
  dsimp only
  rw [builder.estimator.ignores_hashes, htokens]

theorem drop_duplicates_spec {inference : InferenceConfig φ} {config_hash : HexDigest}
    {left : List ConversationGroup} {tokens : ℕ}
    (hready : ∃ final, builder.after request profile inference config_hash
      ⟨left, retained_evidence request.evidence⟩ = .ok final)
    (htokens : builder.after request profile inference config_hash ⟨left, request.evidence⟩ = .ok tokens)
    (hspent : profile.input_token_limit < tokens → left.length ≤ profile.minimum_recent_groups ∧ Spent left) :
    ∃ evidence final cuts, builder.drop_duplicates request profile inference config_hash left tokens =
        .ok (evidence, final, cuts.flatMap Cut.evidences) ∧
      builder.after request profile inference config_hash ⟨left, evidence⟩ = .ok final ∧
      Trims builder request profile inference config_hash ⟨left, request.evidence⟩ cuts ⟨left, evidence⟩ ∧
      Deduplicated request.evidence evidence (cuts.flatMap Cut.evidences) ∧
      cuts.flatMap Cut.groups = [] ∧ cuts.flatMap Cut.results = [] ∧
      (profile.input_token_limit < final → evidence = retained_evidence request.evidence ∧
        left.length ≤ profile.minimum_recent_groups ∧ Spent left) := by
  unfold drop_duplicates
  by_cases hexceeds : profile.input_token_limit < tokens
  · obtain ⟨final, hfinal⟩ := hready
    have hstep := Step.dedups left request.evidence ⟨tokens, htokens, hexceeds⟩ (hspent hexceeds).1 (hspent hexceeds).2
    refine ⟨_, final, [.evidence (removed_evidence request.evidence)], ?_, hfinal, Trims.single hstep, ?_, rfl, rfl,
      fun _ => ⟨rfl, hspent hexceeds⟩⟩
    · rw [if_pos hexceeds]
      dsimp only
      rw [hfinal, ok_bind, List.flatMap_singleton]
      rfl
    · rw [List.flatMap_singleton]
      exact deduplicated_retained request.evidence
  · rw [if_neg hexceeds]
    exact ⟨_, tokens, [], rfl, htokens, Trims.done _, Deduplicated.refl _, rfl, rfl, fun h => absurd h hexceeds⟩

/-- What the three passes make of a request, with the estimates before and behind them. -/
structure Reduced (builder : ContextBuilder φ) (request : ContextRequest φ) (profile : RunProfile φ)
    (inference : InferenceConfig φ) (config_hash : HexDigest) (draft : Draft) (cuts : List Cut) (before final : ℕ) :
    Prop where
  estimated_before : builder.after request profile inference config_hash ⟨request.history, request.evidence⟩ = .ok before
  estimated_after : builder.after request profile inference config_hash draft = .ok final
  trims : Trims builder request profile inference config_hash ⟨request.history, request.evidence⟩ cuts draft
  evidence : Deduplicated request.evidence draft.evidence (cuts.flatMap Cut.evidences)
  exhausted : profile.input_token_limit < final → draft.evidence = retained_evidence request.evidence ∧
    draft.history.length ≤ profile.minimum_recent_groups ∧ Spent draft.history

def summary (request : ContextRequest φ) (draft : Draft) (cuts : List Cut) (before final : ℕ) : TrimmingSummary where
  original_groups := request.history.length
  retained_groups := draft.history.length
  removed_group_digests := cuts.flatMap Cut.groups
  compressed_result_digests := cuts.flatMap Cut.results
  removed_evidence_digests := cuts.flatMap Cut.evidences
  estimated_before := before
  estimated_after := final

theorem build_reduces {rule : InferenceRule φ} (hconfigured : builder.Configured)
    (hvalid : builder.validate_request request = .ok profile) (hrule : profile.rule? request.step = some rule)
    (hconfig : request.run_scope.config_hash = builder.compute_config_hash profile builder.requested_model)
    (hfits : Fits builder request profile) :
    ∃ draft cuts before final, Reduced builder request profile rule.inference
        (builder.compute_config_hash profile builder.requested_model) draft cuts before final ∧
      builder.build request = if profile.input_token_limit < final then .error ContextBudgetExceeded
        else builder.bundle request profile rule.inference draft
          (builder.compute_config_hash profile builder.requested_model) (summary request draft cuts before final) := by
  obtain ⟨-, -, hrevision, -⟩ := validate_request_ok hvalid
  have hready (evidence : List ContextDatum) (hsub : evidence.Sublist request.evidence)
    (history : List ConversationGroup) :
      ∃ tokens, builder.after request profile rule.inference
        (builder.compute_config_hash profile builder.requested_model) ⟨history, evidence⟩ = .ok tokens := by
    obtain ⟨_, -, -, h, -⟩ := after_ok rule.inference (builder.compute_config_hash profile builder.requested_model)
      hconfigured hfits hrevision ⟨history, evidence⟩ hsub
    exact ⟨_, h⟩
  have hself := hready request.evidence (List.Sublist.refl _)
  obtain ⟨before, hbefore⟩ := hself request.history
  obtain ⟨history, after, cuts, hdrop, hdropped, hresults, hminimum⟩ :=
    drop_groups_spec hself request.history before [] hbefore
  obtain ⟨left, tokens, cuts', hcompress, hcompressed, hgroups', hspent⟩ :=
    compress_groups_spec hself history [] after [] (fun _ h => absurd h List.not_mem_nil)
      (by simpa using hminimum) hdropped.estimated
  obtain ⟨evidence, final, cuts'', hdedup, hfinal, htrims, hevidence, hgroups'', hresults'', hexhausted⟩ :=
    drop_duplicates_spec (hready _ (deduplicated_retained request.evidence).sublist left) hcompressed.estimated hspent
  have hpassed := hdropped.trans hcompressed
  have hevidences : (cuts ++ cuts' ++ cuts'').flatMap Cut.evidences = cuts''.flatMap Cut.evidences := by
    rw [List.flatMap_append, hpassed.evidences, List.nil_append]
  refine ⟨⟨left, evidence⟩, cuts ++ cuts' ++ cuts'', before, final,
    ⟨hbefore, hfinal, hpassed.trims.trans htrims, hevidences ▸ hevidence, hexhausted⟩, ?_⟩
  have hsummary : summary request ⟨left, evidence⟩ (cuts ++ cuts' ++ cuts'') before final =
      ⟨request.history.length, left.length, [] ++ cuts.flatMap Cut.groups, [] ++ cuts'.flatMap Cut.results,
        cuts''.flatMap Cut.evidences, before, final⟩ := by
    unfold summary
    simp only [List.flatMap_append, hresults, hgroups', hgroups'', hresults'', hdropped.evidences,
      hcompressed.evidences, List.append_nil, List.nil_append]
  unfold build
  rw [hvalid, ok_bind, hrule]
  dsimp only
  rw [if_neg (not_not.mpr hconfig), hbefore, ok_bind, hdrop, ok_bind]
  dsimp only
  rw [hcompress, ok_bind]
  dsimp only
  rw [hdedup, ok_bind, hsummary]
  rfl

variable {draft : Draft} {cuts : List Cut} {before final : ℕ}

theorem Reduced.bundle_trimmed (hconfigured : builder.Configured)
    (hvalid : builder.validate_request request = .ok profile) (hfits : Fits builder request profile)
    (h : Reduced builder request profile inference (builder.compute_config_hash profile builder.requested_model) draft
      cuts before final) (hwithin : final ≤ profile.input_token_limit) :
    ∃ bundle, builder.bundle request profile inference draft
        (builder.compute_config_hash profile builder.requested_model) (summary request draft cuts before final) =
        .ok bundle ∧
      bundle.trimming = summary request draft cuts before final ∧ Trimmed builder request profile inference bundle := by
  obtain ⟨-, -, hrevision, hgroups⟩ := validate_request_ok hvalid
  obtain ⟨bundle, hbundle, htrimming, hhistory, hmessages, hestimate⟩ :=
    bundle_ok hconfigured hfits hrevision draft h.evidence.sublist (summary request draft cuts before final) h.estimated_after
  obtain ⟨dropped, kept, hleft, -⟩ := h.trims.left
  have hsuffix : request.history = dropped ++ kept := hleft.suffix
  have hclosed := shortened_closed hleft.shortened fun exchange hexchange =>
    kept_closed hgroups exchange (hsuffix ▸ List.mem_append_right _ hexchange)
  have hestimated := bundle.estimated
  rw [htrimming] at hestimated
  have hfits : bundle.estimated_input_tokens ≤ profile.input_token_limit := hestimated.trans_le hwithin
  have huntrimmed (hwithin : before ≤ profile.input_token_limit) :
      cuts = [] ∧ draft = ⟨request.history, request.evidence⟩ :=
    h.trims.untrimmed fun ⟨tokens, htokens, habove⟩ => by
      obtain rfl := Except.ok.inj (htokens.symm.trans h.estimated_before)
      omega
  refine ⟨bundle, hbundle, htrimming, ⟨hestimate.trans hestimated.symm, hfits⟩, ?_, ?_, ?_⟩
  · rw [htrimming, hhistory]
    refine ⟨draft.evidence, cuts, dropped, kept, h.trims, hleft, h.evidence, hmessages, rfl, rfl, rfl, rfl, rfl,
      fun hwithin => ?_⟩
    obtain ⟨hcuts, rfl⟩ := huntrimmed hwithin
    exact ⟨hcuts, rfl, rfl⟩
  · rw [htrimming]
    exact h.estimated_before
  · rw [hhistory]
    exact hclosed

/-- Nothing more may go, and the estimate is still above the limit. -/
def Exhausted (builder : ContextBuilder φ) (request : ContextRequest φ) (profile : RunProfile φ)
    (inference : InferenceConfig φ) (config_hash : HexDigest) : Prop :=
  ∃ cuts history, Trims builder request profile inference config_hash ⟨request.history, request.evidence⟩ cuts
      ⟨history, retained_evidence request.evidence⟩ ∧
    Exceeds builder request profile inference config_hash ⟨history, retained_evidence request.evidence⟩ ∧
    history.length ≤ profile.minimum_recent_groups ∧ Spent history

/-- A bundle of the whole request. -/
structure Untrimmed (builder : ContextBuilder φ) (request : ContextRequest φ) (profile : RunProfile φ)
    (bundle : PromptBundle φ) : Prop where
  history : bundle.model_request.history = request.history
  messages : builder.messages request profile request.evidence = .ok bundle.model_request.messages
  nothing_removed : bundle.trimming.removed_group_digests = [] ∧ bundle.trimming.compressed_result_digests = [] ∧
    bundle.trimming.removed_evidence_digests = []

theorem build_untrimmed {rule : InferenceRule φ} (hconfigured : builder.Configured)
    (hvalid : builder.validate_request request = .ok profile) (hrule : profile.rule? request.step = some rule)
    (hconfig : request.run_scope.config_hash = builder.compute_config_hash profile builder.requested_model)
    (hfits : Fits builder request profile)
    (hwithin : ¬ Exceeds builder request profile rule.inference request.run_scope.config_hash
      ⟨request.history, request.evidence⟩) :
    ∃ bundle, builder.build request = .ok bundle ∧ Untrimmed builder request profile bundle := by
  obtain ⟨draft, cuts, before, final, hreduced, hbuild⟩ := build_reduces hconfigured hvalid hrule hconfig hfits
  rw [hconfig] at hwithin
  obtain ⟨rfl, rfl⟩ := hreduced.trims.untrimmed hwithin
  have hbefore : before ≤ profile.input_token_limit :=
    Nat.not_lt.mp fun hover => hwithin ⟨before, hreduced.estimated_before, hover⟩
  have hfinal : final ≤ profile.input_token_limit :=
    Nat.not_lt.mp fun hover => hwithin ⟨final, hreduced.estimated_after, hover⟩
  obtain ⟨bundle, hbundle, htrimming, htrimmed⟩ := hreduced.bundle_trimmed hconfigured hvalid hfits hfinal
  obtain ⟨evidence, cuts, _, _, -, -, -, hmessages, -, -, -, -, -, huntrimmed⟩ := htrimmed.trimmed
  obtain ⟨-, hhistory, rfl⟩ := huntrimmed (by rw [htrimming]; exact hbefore)
  rw [hbuild, if_neg (Nat.not_lt.mpr hfinal)]
  refine ⟨bundle, hbundle, hhistory, hmessages, ?_⟩
  rw [htrimming]
  exact ⟨rfl, rfl, rfl⟩

/-- **A build gives up when nothing more may go, or trims the oldest first, as long as it must, and says so.** -/
theorem build_trims (builder : ContextBuilder φ) (request : ContextRequest φ) (profile : RunProfile φ)
    (hconfigured : builder.Configured) (hvalid : builder.validate_request request = .ok profile)
    (hconfig : request.run_scope.config_hash = builder.compute_config_hash profile builder.requested_model)
    (hfits : Fits builder request profile) :
    ∃ rule, profile.rule? request.step = some rule ∧
      ((builder.build request = .error ContextBudgetExceeded ∧
          Exhausted builder request profile rule.inference request.run_scope.config_hash) ∨
        ∃ bundle, builder.build request = .ok bundle ∧ Trimmed builder request profile rule.inference bundle) ∧
      (¬ Exceeds builder request profile rule.inference request.run_scope.config_hash
          ⟨request.history, request.evidence⟩ →
        ∃ bundle, builder.build request = .ok bundle ∧ Untrimmed builder request profile bundle) := by
  obtain ⟨rule, hrule⟩ := rule_of_step (validate_request_ok hvalid).2.1
  refine ⟨rule, hrule, ?_, build_untrimmed hconfigured hvalid hrule hconfig hfits⟩
  obtain ⟨draft, cuts, before, final, hreduced, hbuild⟩ := build_reduces hconfigured hvalid hrule hconfig hfits
  rw [hbuild, hconfig]
  by_cases hover : profile.input_token_limit < final
  · obtain ⟨hevidence, hlength, hspent⟩ := hreduced.exhausted hover
    obtain ⟨history, evidence⟩ := draft
    obtain rfl : evidence = retained_evidence request.evidence := hevidence
    rw [if_pos hover]
    exact Or.inl ⟨rfl, cuts, history, hreduced.trims, ⟨final, hreduced.estimated_after, hover⟩, hlength, hspent⟩
  · obtain ⟨bundle, hbundle, -, htrimmed⟩ := hreduced.bundle_trimmed hconfigured hvalid hfits (Nat.not_lt.mp hover)
    rw [if_neg hover]
    exact Or.inr ⟨bundle, hbundle, htrimmed⟩

/-! ## What a bundle holds -/

/-- Where the parts of a bundle come from. -/
structure Bundled (builder : ContextBuilder φ) (request : ContextRequest φ) (bundle : PromptBundle φ)
    (profile : RunProfile φ) (rule : InferenceRule φ) (draft : Draft) : Prop where
  registered : profile = builder.registry.profiles request.profile.key
  chosen : profile.rule? request.step = some rule
  config_hash : bundle.hashes.config_hash = builder.compute_config_hash profile builder.requested_model
  evidence : draft.evidence = request.evidence ∨ draft.evidence = retained_evidence request.evidence
  inference : bundle.model_request.inference = rule.inference
  messages : builder.messages request profile draft.evidence = .ok bundle.model_request.messages
  history : bundle.model_request.history = draft.history
  tools : bundle.model_request.tools = builder.registry.tools_for_step profile.key request.step
  rendered_prompt_hash : bundle.hashes.rendered_prompt_hash =
    builder.compute_rendered_prompt_hash bundle.model_request.messages
  tool_hash : bundle.hashes.tool_hash = builder.compute_tool_hash profile bundle.model_request.tools
  context_hash : bundle.hashes.context_hash = builder.compute_context_hash
    (request.current_input :: request.confirmed_facts ++ draft.evidence) draft.history bundle.trimming
      request.latest_error
  capability_revision : bundle.model_request.capability_revision = profile.capability_revision
  estimated : (builder.estimator.estimate bundle.model_request).input_tokens = bundle.estimated_input_tokens
  within : bundle.estimated_input_tokens ≤ profile.input_token_limit

theorem drop_duplicates_evidence {history : List ConversationGroup} {after final : ℕ} {evidence : List ContextDatum}
    {removed : List HexDigest}
    (h : builder.drop_duplicates request profile inference config_hash history after = .ok (evidence, final, removed)) :
    evidence = request.evidence ∨ evidence = retained_evidence request.evidence := by
  unfold drop_duplicates at h
  split_ifs at h
  · obtain ⟨tokens, -, h⟩ := except_bind_ok h
    cases h
    exact Or.inr rfl
  · cases h
    exact Or.inl rfl

theorem bundle_bundles {bundle : PromptBundle φ} {profile : RunProfile φ} {rule : InferenceRule φ} {draft : Draft}
    {trimming : TrimmingSummary} (hregistered : profile = builder.registry.profiles request.profile.key)
    (hrule : profile.rule? request.step = some rule)
    (hevidence : draft.evidence = request.evidence ∨ draft.evidence = retained_evidence request.evidence)
    (hwithin : trimming.estimated_after ≤ profile.input_token_limit)
    (h : builder.bundle request profile rule.inference draft
      (builder.compute_config_hash profile builder.requested_model) trimming = .ok bundle) :
    Bundled builder request bundle profile rule draft := by
  unfold ContextBuilder.bundle final_request model_request at h
  obtain ⟨final_request, hfinal, h⟩ := except_bind_ok h
  obtain ⟨provisional, hprovisional, hfinal⟩ := except_bind_ok hfinal
  obtain ⟨messages, hmessages, hprovisional⟩ := except_bind_ok hprovisional
  split_ifs at hprovisional
  cases hprovisional
  cases hfinal
  obtain ⟨estimated, hestimated, h⟩ := except_bind_ok h
  split_ifs at h with hsame
  cases h
  rw [ne_eq, not_not] at hsame
  unfold ContextBuilder.estimate at hestimated
  dsimp only at hestimated
  split_ifs at hestimated
  cases hestimated
  exact {
    registered := hregistered
    chosen := hrule
    config_hash := rfl
    evidence := hevidence
    inference := rfl
    messages := hmessages
    history := rfl
    tools := rfl
    rendered_prompt_hash := rfl
    tool_hash := rfl
    context_hash := rfl
    capability_revision := rfl
    estimated := hsame
    within := hwithin }

theorem build_bundles {bundle : PromptBundle φ} (h : builder.build request = .ok bundle) :
    ∃ profile rule draft, Bundled builder request bundle profile rule draft := by
  unfold build at h
  obtain ⟨profile, hprofile, h⟩ := except_bind_ok h
  split at h
  · cases h
  rename_i rule hrule
  dsimp only at h
  split_ifs at h
  obtain ⟨before, -, h⟩ := except_bind_ok h
  obtain ⟨⟨history, _, _⟩, -, h⟩ := except_bind_ok h
  obtain ⟨⟨left, _, _⟩, -, h⟩ := except_bind_ok h
  obtain ⟨⟨evidence, final, _⟩, hdedup, h⟩ := except_bind_ok h
  dsimp only at h
  split_ifs at h with hover
  exact ⟨profile, rule, ⟨left, evidence⟩,
    bundle_bundles (validate_request_ok hprofile).1 hrule (drop_duplicates_evidence hdedup) (Nat.not_lt.mp hover) h⟩

/-! ## A request of one line -/

def samplePython : Python Unit := ⟨FloatText.half, fun _ => HexDigest.ofNat 0, fun _ => false⟩

def sampleText : Text 1 128 := ⟨"v1", by decide⟩

def actRule : InferenceRule Unit := ⟨.bird_a_act, .non_thinking () 4096, [], List.nodup_nil⟩

def sampleProfile (key : RunProfileKey) : RunProfile Unit where
  key := key
  revision := sampleText
  prompt_policy_revision := sampleText
  tool_catalog_revision := sampleText
  allowed_namespaces := [.user_input]
  inference_rules := [actRule]
  input_token_limit := 100
  tool_result_max_bytes := 65536
  minimum_recent_groups := 2
  stop_reason_rules := []
  capability_revision := sampleText
  estimator_revision := sampleText
  canonicalization_revision := sampleText
  limits := by decide
  unique := by simp

def sampleRegistry : ProfileRegistry Unit where
  profiles := sampleProfile
  policies := ⟨[("common-envelope-v1", "common"), ("v1", "policy")], by decide⟩
  tools _ := []
  own_key _ := rfl
  known_policies _ := ⟨rfl, rfl⟩
  known_tools _ rule hrule name hname := by
    rw [List.mem_singleton.mp hrule] at hname
    exact absurd hname List.not_mem_nil
  unique_tools _ := List.nodup_nil

def sampleBuilder : ContextBuilder Unit where
  python := samplePython
  registry := sampleRegistry
  estimator := ⟨"v1", fun request => ⟨request.history.length, "v1"⟩, fun _ => rfl, fun _ _ => rfl⟩
  requested_model := "model"
  timeout_seconds := 60
  provider_user_id := "00000000000000000000000000000000"

def hello : ContextDatum :=
    ⟨.user_input, .user_input, ⟨"turn:1", by decide⟩, none, ⟨"good day", by decide⟩, HexDigest.ofNat 0⟩

def helloRequest : ContextRequest Unit where
  run_scope := sampleScope .a bird_a
  attempt_id := 1
  sequence := 0
  profile := sampleProfile .bird_a
  step := .bird_a_act
  current_input := hello
  confirmed_facts := []
  evidence := []
  latest_error := none
  history := []

/-! ## A request that is trimmed -/

def queryTurn : ProviderTurnRef where
  turn_id := 1
  scope_digest := HexDigest.ofNat 0
  attempt_id := 1
  sequence := 0
  payload_sha256 := HexDigest.ofNat 0
  expected_tool_call_ids := ["call-1"]
  token_weight := 1
  expires_at := .utc 1 (by decide)

def queryId : Text 1 128 := ⟨"call-1", by decide⟩
def queryName : Code 2 63 := ⟨"query", by decide⟩

def queryResult : ToolResult where
  call_id := queryId
  name := queryName
  status := .success
  content_json := "[1,1,1,1,1,1,1,1,1,1]"
  deterministic_summary := ⟨"ten rows", by decide⟩
  content_sha256 := HexDigest.ofNat 0
  source_refs := []
  error_class := none
  raw := true

def queryCall : ToolCall := ⟨queryId, queryName, ⟨"\x7b\"limit\":10\x7d", by decide⟩⟩

def queryExchange (sequence : ℕ) : ConversationGroup :=
  .tool_exchange ⟨{ queryTurn with sequence := sequence }, [queryCall], [queryResult]⟩

def answerTurn : ProviderTurnRef := { queryTurn with expected_tool_call_ids := [] }

def month : ContextDatum := { hello with source_ref := ⟨"turn:2", by decide⟩ }

def seller : ContextDatum := { hello with source_ref := ⟨"turn:3", by decide⟩ }

/-- A group counts twenty-two, a raw result twenty more, and fifteen characters of the messages one. -/
def weigh (request : ModelRequest Unit) : ℕ :=
  22 * request.history.length + 20 * ((request.history.flatMap ConversationGroup.results).filter ToolResult.raw).length +
    (request.messages.map fun message => message.content.text.length).sum / 15

def weighingBuilder : ContextBuilder Unit :=
  { sampleBuilder with estimator := ⟨"v1", fun request => ⟨weigh request, "v1"⟩, fun _ => rfl, fun _ _ => rfl⟩ }

/-- Three groups, and two things that are said twice. -/
def trimmedRequest : ContextRequest Unit :=
  { helloRequest with
    sequence := 3
    evidence := [month, seller, month, seller]
    history := [.assistant answerTurn, queryExchange 1, queryExchange 2] }


/-- How much of the evidence the messages say, in characters. -/
def said (evidence : List ContextDatum) : ℕ :=
  (weighingBuilder.contents trimmedRequest (sampleProfile .bird_a) evidence).map (fun message => message.2.length) |>.sum

/-- How long a datum is among the records. -/
def row_length (datum : ContextDatum) : ℕ :=
  (JsonValue.write samplePython.floats 0 (datum_row datum).sortKeys).length

theorem length_writeItems (datums : List ContextDatum) :
    (JsonValue.writeItems samplePython.floats 0 ((datums.map datum_row).map JsonValue.sortKeys)).length =
      1 + (datums.map fun datum => 1 + row_length datum).sum := by
  induction datums with
  | nil => rfl
  | cons datum datums ih =>
    have hgap : JsonValue.gap 0 = [] := rfl
    simp only [List.map_cons, List.sum_cons, JsonValue.writeItems, List.length_cons, List.length_append, ih, hgap,
      List.length_nil]
    unfold row_length
    omega

theorem records_length (evidence : List ContextDatum) :
    (samplePython.canonical_json (.obj [("records", .arr (records trimmedRequest evidence))])).length =
      13 + ((hello :: evidence).map fun datum => 1 + row_length datum).sum := by
  have hrecords : records trimmedRequest evidence = datum_row hello :: evidence.map datum_row :=
    List.append_nil _
  have hquote : (Json.quote "records").length = 9 := rfl
  rw [← String.length_toList, canonical_records, hrecords, List.map_cons, JsonValue.write, List.map_cons, List.sum_cons]
  simp only [List.length_cons, List.length_append, List.length_nil, hquote, length_writeItems]
  unfold row_length
  omega

theorem said_eq (evidence : List ContextDatum) :
    said evidence = 25 + ((hello :: evidence).map fun datum => 1 + row_length datum).sum := by
  have hpolicies : weighingBuilder.registry.policy_for (sampleProfile .bird_a).key = ("common", "policy") := rfl
  have hpython : weighingBuilder.python = samplePython := rfl
  have hcommon : "common".length = 6 := by decide
  have hpolicy : "policy".length = 6 := by decide
  unfold said contents
  rw [hpolicies, hpython]
  simp only [List.map_cons, List.map_nil, List.sum_cons, List.sum_nil, records_length, hcommon, hpolicy]
  omega

theorem row_lengths : row_length hello = 188 ∧ row_length month = 188 ∧ row_length seller = 188 := by
  unfold row_length
  decide +kernel

theorem said_twice : said [month, seller, month, seller] = 970 := by simp [said_eq, row_lengths]

theorem said_three : said [seller, month, seller] = 781 := by simp [said_eq, row_lengths]

theorem said_once : said [month, seller] = 592 := by simp [said_eq, row_lengths]

theorem trimmedRequest_fits : Fits weighingBuilder trimmedRequest (sampleProfile .bird_a) := by
  have hlength : (samplePython.canonical_json
      (.obj [("records", .arr (records trimmedRequest [month, seller, month, seller]))])).length = 958 := by
    simp [records_length, row_lengths]
  unfold Fits contents
  simp only [List.forall_mem_cons]
  refine ⟨by decide, by decide, ?_, by simp⟩
  change 1 ≤ (samplePython.canonical_json _).length ∧ (samplePython.canonical_json _).length ≤ 262144
  exact ⟨hlength ▸ by decide, hlength ▸ by decide⟩

theorem weigh_eq {request : ModelRequest Unit} {evidence : List ContextDatum}
    (hsub : evidence.Sublist trimmedRequest.evidence)
    (h : weighingBuilder.messages trimmedRequest (sampleProfile .bird_a) evidence = .ok request.messages) :
    weigh request = 22 * request.history.length +
      20 * ((request.history.flatMap ConversationGroup.results).filter ToolResult.raw).length + said evidence / 15 := by
  obtain ⟨messages, hmessages, hcontents⟩ := messages_ok trimmedRequest_fits hsub
  obtain rfl := Except.ok.inj (h.symm.trans hmessages)
  unfold weigh said
  rw [← hcontents, List.map_map]
  rfl

theorem weighed {draft : Draft} {tokens : ℕ} (hsub : draft.evidence.Sublist trimmedRequest.evidence)
    (h : weighingBuilder.after trimmedRequest (sampleProfile .bird_a) actRule.inference zero_hash draft = .ok tokens) :
    tokens = 22 * draft.history.length +
      20 * ((draft.history.flatMap ConversationGroup.results).filter ToolResult.raw).length +
      said draft.evidence / 15 := by
  have hconfigured : weighingBuilder.Configured := by decide
  obtain ⟨candidate, -, -, hafter, hhistory, hmessages⟩ :=
    after_ok actRule.inference zero_hash hconfigured trimmedRequest_fits rfl draft hsub
  obtain rfl := Except.ok.inj (h.symm.trans hafter)
  rw [← hhistory]
  exact weigh_eq hsub hmessages

theorem trimmedRequest_valid : weighingBuilder.validate_request trimmedRequest = .ok (sampleProfile .bird_a) := by
  have hsame : ¬ (weighingBuilder.python.canonical_json
    (weighingBuilder.registry.profiles trimmedRequest.profile.key).to_json ≠
      weighingBuilder.python.canonical_json trimmedRequest.profile.to_json) := fun h => h rfl
  have hvalid : ∀ group ∈ trimmedRequest.history, group.valid weighingBuilder.python = true ∧
      ¬ (group.ref.scope_digest ≠ weighingBuilder.scope_digest trimmedRequest.run_scope ∨
        group.ref.attempt_id ≠ trimmedRequest.attempt_id) := by
    decide +kernel
  have hown : ∀ group ∈ trimmedRequest.history, weighingBuilder.validate_group trimmedRequest group = .ok () := by
    intro group hgroup
    obtain ⟨hclosed, hself⟩ := hvalid group hgroup
    unfold validate_group
    rw [if_neg (not_not.mpr hclosed), if_neg hself]
  have hgroups : trimmedRequest.history.forM (weighingBuilder.validate_group trimmedRequest) = .ok () := by
    simp only [trimmedRequest, List.forall_mem_cons] at hown
    simp only [trimmedRequest, List.forM_eq_forM, List.forM_cons, List.forM_nil, hown]
    rfl
  unfold validate_request
  dsimp only
  rw [if_neg hsame, if_neg (by decide), if_neg (by decide), if_neg (by decide), hgroups]
  rfl

theorem spent_weight {history : List ConversationGroup} :
    Spent history ↔ ((history.flatMap ConversationGroup.results).filter ToolResult.raw).length = 0 := by
  unfold Spent
  rw [List.length_eq_zero_iff, List.filter_eq_nil_iff, List.forall_mem_flatMap]
  simp only [Bool.not_eq_true]

/-- The first group goes, both results are summarised, and then all that is said again goes at once. -/
theorem trimmedRequest_built : ∃ bundle, weighingBuilder.build trimmedRequest = .ok bundle ∧
    bundle.model_request.history.length = 2 ∧ Spent bundle.model_request.history ∧
    weighingBuilder.messages trimmedRequest (sampleProfile .bird_a) [month, seller] =
      .ok bundle.model_request.messages := by
  obtain ⟨draft, cuts, before, final, hreduced, hbuild⟩ :=
    build_reduces (by decide) trimmedRequest_valid (rfl : _ = some actRule) rfl trimmedRequest_fits
  have hretained : retained_evidence trimmedRequest.evidence = [month, seller] := rfl
  have hfinal := weighed hreduced.evidence.sublist hreduced.estimated_after
  have hwithin : final ≤ (sampleProfile .bird_a).input_token_limit := by
    by_contra hover
    obtain ⟨hevidence, hlength, hspent⟩ := hreduced.exhausted (Nat.not_le.mp hover)
    rw [hevidence, hretained, said_once, spent_weight.mp hspent] at hfinal
    change draft.history.length ≤ 2 at hlength
    change ¬ final ≤ 100 at hover
    omega
  obtain ⟨bundle, hbundle, -, htrimmed⟩ :=
    hreduced.bundle_trimmed (by decide) trimmedRequest_valid trimmedRequest_fits hwithin
  rw [hbundle, if_neg (Nat.not_lt.mpr hwithin)] at hbuild
  obtain ⟨_, _, _, kept, -, hleft, -⟩ := htrimmed.trimmed
  have hgroups : 2 ≤ bundle.model_request.history.length := hleft.enough.trans_eq hleft.length
  obtain ⟨profile, rule, draft, hbundled⟩ := build_bundles hbuild
  obtain rfl : profile = sampleProfile .bird_a := hbundled.registered
  have hsub : draft.evidence.Sublist trimmedRequest.evidence := by
    rcases hbundled.evidence with hevidence | hevidence
    · rw [hevidence]
    · rw [hevidence]
      exact (deduplicated_retained _).sublist
  have hweight := weigh_eq hsub hbundled.messages
  have hlimit : weigh bundle.model_request ≤ 100 := hbundled.estimated.trans_le hbundled.within
  rcases hbundled.evidence with hevidence | hevidence
  · rw [hevidence, show said trimmedRequest.evidence = 970 from said_twice] at hweight
    omega
  · rw [hevidence, hretained, said_once] at hweight
    refine ⟨bundle, hbuild, by omega, spent_weight.mpr (by omega), ?_⟩
    rw [← hretained, ← hevidence]
    exact hbundled.messages

/-- What is said twice goes at once, also where the rest of it would fit. -/
theorem removed_together : weighingBuilder.Configured ∧
    weighingBuilder.validate_request trimmedRequest = .ok (sampleProfile .bird_a) ∧
    Fits weighingBuilder trimmedRequest (sampleProfile .bird_a) ∧
    ∃ bundle, weighingBuilder.build trimmedRequest = .ok bundle ∧
      weighingBuilder.messages trimmedRequest (sampleProfile .bird_a) [month, seller] =
        .ok bundle.model_request.messages ∧
      ¬ Exceeds weighingBuilder trimmedRequest (sampleProfile .bird_a) actRule.inference zero_hash
        ⟨bundle.model_request.history, [seller, month, seller]⟩ := by
  obtain ⟨bundle, hbundle, hlength, hspent, hmessages⟩ := trimmedRequest_built
  refine ⟨by decide, trimmedRequest_valid, trimmedRequest_fits, bundle, hbundle, hmessages, ?_⟩
  rintro ⟨tokens, hafter, hexceeds⟩
  have htokens := weighed (List.sublist_cons_self month [seller, month, seller]) hafter
  rw [said_three, hlength, spent_weight.mp hspent] at htokens
  change 100 < tokens at hexceeds
  omega

theorem build_trims_weighed :
    (∃ bundle, weighingBuilder.build trimmedRequest = .ok bundle ∧ bundle.model_request.history.length = 2 ∧
      Spent bundle.model_request.history ∧
      weighingBuilder.messages trimmedRequest (sampleProfile .bird_a) [month, seller] =
        .ok bundle.model_request.messages) ∧
    ∃ rule, (sampleProfile .bird_a).rule? trimmedRequest.step = some rule ∧
      ((weighingBuilder.build trimmedRequest = .error ContextBudgetExceeded ∧
          Exhausted weighingBuilder trimmedRequest (sampleProfile .bird_a) rule.inference
            trimmedRequest.run_scope.config_hash) ∨
        ∃ bundle, weighingBuilder.build trimmedRequest = .ok bundle ∧
          Trimmed weighingBuilder trimmedRequest (sampleProfile .bird_a) rule.inference bundle) ∧
      (¬ Exceeds weighingBuilder trimmedRequest (sampleProfile .bird_a) rule.inference
          trimmedRequest.run_scope.config_hash ⟨trimmedRequest.history, trimmedRequest.evidence⟩ →
        ∃ bundle, weighingBuilder.build trimmedRequest = .ok bundle ∧
          Untrimmed weighingBuilder trimmedRequest (sampleProfile .bird_a) bundle) :=
  ⟨trimmedRequest_built, build_trims weighingBuilder trimmedRequest (sampleProfile .bird_a) (by decide)
    trimmedRequest_valid rfl trimmedRequest_fits⟩

end CommerceAgent.Context
