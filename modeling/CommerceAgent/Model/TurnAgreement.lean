import CommerceAgent.Context.Trimming
import CommerceAgent.Model.PostgresTurnStore

/-!
# Agreement of the turn stores

When the two stores answer alike, over whole runs. The live rows of the table are the items of the dictionary.
-/

open CommerceAgent.Lib
open CommerceAgent.Operations (UUID HexDigest Datetime second)
open CommerceAgent.Context (Python ProviderTurnRef or_null samplePython)

namespace CommerceAgent.TurnStore

variable {φ : Type}

/-! ## Runs -/

/-- The turn with its datetimes in UTC, which Python takes for the same turn. -/
def PrivateProviderTurn.in_utc (turn : PrivateProviderTurn) : PrivateProviderTurn :=
  { turn with
    created_at := timestamptz turn.created_at
    last_used_at := timestamptz turn.last_used_at
    absolute_expires_at := timestamptz turn.absolute_expires_at }

/-- The reference under another name of its turn. -/
def renamed_ref (rename : UUID → UUID) (ref : ProviderTurnRef) : ProviderTurnRef :=
  { ref with turn_id := rename ref.turn_id }

/-- An answer as a caller compares it, under other names for the turns. -/
def Answer.seen (rename : UUID → UUID) : Answer → Answer
  | .saved ref => .saved (renamed_ref rename ref.in_utc)
  | .resolved turn => .resolved turn.in_utc
  | .deleted => .deleted

def seen (rename : UUID → UUID) : Except ModelError Answer → Except String Answer
  | .error error => .error error.reason_code
  | .ok answer => .ok (answer.seen rename)

section Runs

variable {python : Python φ} (database : Database φ) (rename : UUID ↪ UUID)

def Call.renamed : Call φ python → Call φ python
  | .save turn turn_id => .save turn (rename turn_id)
  | .resolve ref now => .resolve (renamed_ref rename ref) now
  | .delete_attempt attempt now => .delete_attempt attempt now

/-- The two stores answer alike, call by call. PostgreSQL draws other names for the turns. -/
def Agree : InMemoryProviderTurnStore → PostgresProviderTurnStore φ → List (Call φ python) → Prop
  | _, _, [] => True
  | memory, postgres, call :: calls =>
    seen rename (memory.step python call).1 = seen id (postgres.step python database (call.renamed rename)).1 ∧
      Agree (memory.step python call).2 (postgres.step python database (call.renamed rename)).2 calls

/-- JSONB gives the tool calls of a turn back as they were. -/
def ReadsBack (python : Python φ) (turn : PrivateProviderTurn) : Prop :=
  ∀ calls ∈ turn.tool_calls python, python.canonical_json (database.jsonb (.arr calls)) = turn.tool_calls_json

/-- What a call must meet: a new turn can be stored and takes no place of a deleted one, a turn that is read was not
changed by JSONB, and no turn is renewed or deleted before it was created. -/
def Meets (memory : InMemoryProviderTurnStore) (postgres : PostgresProviderTurnStore φ) : Call φ python → Prop
  | .save turn _ => turn.1.compute_sha256 python = turn.1.payload_sha256 →
    storable python turn.1 = true ∧ ((∃ stored ∈ memory.turns.values, stored.key = turn.1.key) ∨
      ∀ row ∈ postgres.provider_turn, row.live = false → row.key ≠ turn.1.key)
  | .resolve ref now => ∀ turn ∈ memory.turns.get? ref.turn_id, ReadsBack database python turn ∧
    (turn.Bound ref → ¬ turn.Expired now → turn.created_at.instant ≤ now.instant)
  | .delete_attempt attempt now => ∀ turn ∈ memory.turns.values, turn.Of attempt → turn.created_at.instant ≤ now.instant

/-- Every call of a run meets its condition. -/
def AllMeet : InMemoryProviderTurnStore → PostgresProviderTurnStore φ → List (Call φ python) → Prop
  | _, _, [] => True
  | memory, postgres, call :: calls =>
    Meets database memory postgres call ∧
      AllMeet (memory.step python call).2 (postgres.step python database (call.renamed rename)).2 calls

end Runs

/-! ## The states of a run -/

/-- The live rows are the turns of the dictionary, each under its other name. -/
structure Same (python : Python φ) (database : Database φ) (rename : UUID ↪ UUID) (memory : InMemoryProviderTurnStore)
    (postgres : PostgresProviderTurnStore φ) : Prop where
  live : postgres.provider_turn.filter TurnRow.live =
    memory.turns.items.map fun item => TurnRow.new python database item.2 (rename item.1)
  ids : (postgres.provider_turn.map TurnRow.turn_id).Nodup
  valid : ∀ turn ∈ memory.turns.values, turn.valid python = true ∧ turn.compute_sha256 python = turn.payload_sha256

section Same

variable {python : Python φ} {database : Database φ} {rename : UUID ↪ UUID} {memory : InMemoryProviderTurnStore}
  {postgres : PostgresProviderTurnStore φ}

theorem Same.empty : Same python database rename .empty .empty :=
  ⟨rfl, List.nodup_nil, fun _ h => absurd h List.not_mem_nil⟩

theorem Same.row_mem (h : Same python database rename memory postgres) {turn_id : UUID} {turn : PrivateProviderTurn}
    (hget : memory.turns.get? turn_id = some turn) :
    TurnRow.new python database turn (rename turn_id) ∈ postgres.provider_turn := by
  have hmem : TurnRow.new python database turn (rename turn_id) ∈ postgres.provider_turn.filter TurnRow.live := by
    rw [h.live]
    exact List.mem_map.mpr ⟨(turn_id, turn), Dict.get?_eq_some.mp hget, rfl⟩
  exact (List.mem_filter.mp hmem).1

theorem Same.turn_of_row (h : Same python database rename memory postgres) {row : TurnRow φ}
    (hrow : row ∈ postgres.provider_turn) (hlive : row.live = true) :
    ∃ turn_id turn, memory.turns.get? turn_id = some turn ∧
      row = TurnRow.new python database turn (rename turn_id) := by
  have hmem := List.mem_filter.mpr ⟨hrow, hlive⟩
  rw [h.live] at hmem
  obtain ⟨item, hitem, rfl⟩ := List.mem_map.mp hmem
  exact ⟨item.1, item.2, Dict.get?_eq_some.mpr hitem, rfl⟩

theorem Same.found (h : Same python database rename memory postgres) {turn_id : UUID} {turn : PrivateProviderTurn}
    (hget : memory.turns.get? turn_id = some turn) :
    Table.select TurnRow.turn_id (rename turn_id) postgres.provider_turn =
      some (TurnRow.new python database turn (rename turn_id)) :=
  Table.select_of_mem h.ids (h.row_mem hget)

theorem Same.missing (h : Same python database rename memory postgres) {turn_id : UUID}
    (hget : memory.turns.get? turn_id = none) {row : TurnRow φ}
    (hrow : Table.select TurnRow.turn_id (rename turn_id) postgres.provider_turn = some row) : row.live = false := by
  obtain ⟨hmem, hid⟩ := Table.select_mem hrow
  by_contra hlive
  rw [Bool.not_eq_false] at hlive
  obtain ⟨other, turn, hother, rfl⟩ := h.turn_of_row hmem hlive
  obtain rfl := rename.injective hid
  rw [hget] at hother
  cases hother

/-! ## Rows and turns -/

theorem valid_times {turn : PrivateProviderTurn} (h : turn.valid python = true) :
    0 < turn.model.length ∧ turn.created_at.instant ≤ turn.last_used_at.instant ∧
      turn.absolute_expires_at.instant = turn.created_at.instant + ABSOLUTE_TTL := by
  unfold PrivateProviderTurn.valid at h
  simp only [Bool.and_eq_true, decide_eq_true_eq] at h
  exact ⟨h.1.1.1.1.1.1.1.1, h.1.2.1, h.1.2.2⟩

theorem valid_renewed {turn : PrivateProviderTurn} (h : turn.valid python = true) {now : Datetime}
    (hnow : turn.created_at.instant ≤ now.instant) : (turn.renew now).valid python = true := by
  unfold PrivateProviderTurn.renew
  unfold PrivateProviderTurn.valid at h ⊢
  simp only [Bool.and_eq_true, decide_eq_true_eq] at h ⊢
  exact ⟨⟨h.1.1, hnow, h.1.2.2⟩, h.2⟩

theorem tool_calls_of_valid {turn : PrivateProviderTurn} (h : turn.valid python = true) :
    ∃ calls, turn.tool_calls python = some calls := by
  unfold PrivateProviderTurn.valid at h
  cases hcalls : turn.tool_calls python with
  | none => simp [hcalls] at h
  | some calls => exact ⟨calls, rfl⟩

theorem new_checks (database : Database φ) {turn : PrivateProviderTurn} (h : turn.valid python = true)
    (turn_id : UUID) :
    (TurnRow.new python database turn turn_id).checks = true := by
  obtain ⟨hmodel, htimes, hexpiry⟩ := valid_times h
  unfold TurnRow.checks
  simp only [Bool.and_eq_true, decide_eq_true_eq]
  exact ⟨⟨⟨hmodel, htimes⟩, hexpiry⟩, rfl⟩

theorem jsonb_text (text : Option String) : database.jsonb (or_null .str text) = or_null .str text := by
  cases text <;> rfl

theorem text_or_null_or_null (text : Option String) : text_or_null (or_null .str text : JsonValue φ) = some text := by
  cases text <;> rfl

theorem turn_of_new (database : Database φ) {turn : PrivateProviderTurn} (h : turn.valid python = true)
    (hreads : ReadsBack database python turn)
    (turn_id : UUID) :
    (TurnRow.new python database turn turn_id).turn python
      (database.jsonb (turn.payload python)) = some turn.in_utc := by
  obtain ⟨calls, hcalls⟩ := tool_calls_of_valid h
  have hjson := hreads calls hcalls
  have hutc : turn.in_utc.valid python = true := h
  unfold PrivateProviderTurn.payload TurnRow.turn
  rw [hcalls, Option.getD_some, Database.jsonb, Database.jsonbFields, Database.jsonbFields, Database.jsonbFields,
    Database.jsonbFields, jsonb_text, jsonb_text]
  simp only [List.lookup_cons, String.reduceBEq, Option.bind_eq_bind, Option.bind_some, text_or_null_or_null, hjson]
  exact if_pos ⟨rfl, hutc⟩

/-! ## Steps -/

theorem update_turns_eq {p : TurnRow φ → Bool} {f : TurnRow φ → TurnRow φ} {rows after : List (TurnRow φ)}
    (h : update_turns p f rows = .ok after) : after = Table.update p f rows := by
  unfold update_turns at h
  split_ifs at h
  cases h
  rfl

/-- The names of the table are those of before, and at most the one that the call draws. -/
theorem step_ids (database : Database φ) (postgres : PostgresProviderTurnStore φ) (call : Call φ python) :
    ((postgres.step python database call).2.provider_turn.map TurnRow.turn_id).Sublist
      (postgres.provider_turn.map TurnRow.turn_id ++ call.drawn.toList) := by
  cases call with
  | save turn turn_id =>
    unfold PostgresProviderTurnStore.step PostgresProviderTurnStore.save insert_turn Call.drawn
    dsimp only
    split_ifs
    · exact List.sublist_append_left _ _
    · exact List.sublist_append_left _ _
    · exact List.sublist_append_left _ _
    · dsimp only
      unfold Table.insert
      rw [List.map_append]
      rfl
  | resolve ref now =>
    have hkept : (postgres.provider_turn.map TurnRow.turn_id).Sublist
      (postgres.provider_turn.map TurnRow.turn_id ++ []) :=
      List.sublist_append_left _ _
    unfold PostgresProviderTurnStore.step PostgresProviderTurnStore.resolve
    dsimp only
    split
    · exact hkept
    · split
      · split
        · exact hkept
        · split_ifs
          · exact hkept
          · exact hkept
          · split
            · exact hkept
            · rename_i rows hrows
              have hids : rows.map TurnRow.turn_id = postgres.provider_turn.map TurnRow.turn_id := by
                rw [update_turns_eq hrows]
                exact Table.map_update (TurnRow.renew_turn_id now) _
              dsimp only
              rw [hids]
              exact hkept
          · exact hkept
      · exact hkept
  | delete_attempt attempt now =>
    have hkept : (postgres.provider_turn.map TurnRow.turn_id).Sublist
      (postgres.provider_turn.map TurnRow.turn_id ++ []) :=
      List.sublist_append_left _ _
    unfold PostgresProviderTurnStore.step PostgresProviderTurnStore.delete_attempt
    dsimp only
    split
    · exact hkept
    · rename_i rows hrows
      have hids : rows.map TurnRow.turn_id = postgres.provider_turn.map TurnRow.turn_id := by
        rw [update_turns_eq hrows]
        exact Table.map_update (TurnRow.delete_turn_id now) _
      dsimp only
      rw [hids]
      exact hkept

/-- Both stores answer a call alike, and stay the same. -/
structure StepAgrees (python : Python φ) (database : Database φ) (rename : UUID ↪ UUID)
    (memory : InMemoryProviderTurnStore) (postgres : PostgresProviderTurnStore φ) (call : Call φ python) : Prop where
  answer : seen rename (memory.step python call).1 = seen id (postgres.step python database (call.renamed rename)).1
  live : (postgres.step python database (call.renamed rename)).2.provider_turn.filter TurnRow.live =
    (memory.step python call).2.turns.items.map fun item => TurnRow.new python database item.2 (rename item.1)
  valid : ∀ turn ∈ (memory.step python call).2.turns.values,
    turn.valid python = true ∧ turn.compute_sha256 python = turn.payload_sha256

theorem Same.fails (h : Same python database rename memory postgres) {call : Call φ python} (error : ModelError)
    (hmemory : memory.step python call = (.error error, memory))
    (hpostgres : postgres.step python database (call.renamed rename) = (.error error, postgres)) :
    StepAgrees python database rename memory postgres call := by
  constructor
  · rw [hmemory, hpostgres]
    rfl
  · rw [hmemory, hpostgres]
    exact h.live
  · rw [hmemory]
    exact h.valid

theorem Same.save (h : Same python database rename memory postgres)
    (turn : {turn : PrivateProviderTurn // turn.valid python = true}) (turn_id : UUID)
    (hfresh : rename turn_id ∉ postgres.provider_turn.map TurnRow.turn_id)
    (hmeets : Meets database memory postgres (.save turn turn_id)) :
    StepAgrees python database rename memory postgres (.save turn turn_id) := by
  by_cases hdigest : turn.1.compute_sha256 python = turn.1.payload_sha256
  case neg =>
    refine h.fails (.state "state_digest_mismatch") ?_ ?_
    · exact if_pos hdigest
    · exact if_pos hdigest
  obtain ⟨hstorable, hspent⟩ := hmeets hdigest
  have hchecks := new_checks database turn.2 (rename turn_id)
  have hother : ¬ (¬ storable python turn.1 = true ∨
      ¬ (TurnRow.new python database turn.1 (rename turn_id)).checks = true) := by
    rw [hstorable, hchecks]
    decide
  by_cases hduplicate : ∃ stored ∈ memory.turns.values, stored.key = turn.1.key
  · obtain ⟨stored, hstored, hkey⟩ := hduplicate
    obtain ⟨item, hitem, rfl⟩ := List.mem_map.mp hstored
    have hrow := h.row_mem (Dict.get?_eq_some.mpr hitem)
    refine h.fails (.state "state_sequence_duplicate") ?_ ?_
    · unfold InMemoryProviderTurnStore.step InMemoryProviderTurnStore.save
      dsimp only
      rw [if_neg (not_not.mpr hdigest), if_pos ⟨_, hstored, hkey⟩]
    · unfold PostgresProviderTurnStore.step PostgresProviderTurnStore.save insert_turn
      dsimp only [Call.renamed]
      rw [if_neg (not_not.mpr hdigest), if_neg hother, if_pos ⟨_, hrow, Or.inr hkey⟩]
  · have hnone : ¬ ∃ other ∈ postgres.provider_turn, other.turn_id = rename turn_id ∨
        other.key = (TurnRow.new python database turn.1 (rename turn_id)).key := by
      rintro ⟨row, hrow, hid | hkey⟩
      · exact hfresh (List.mem_map.mpr ⟨row, hrow, hid⟩)
      · cases hlive : row.live with
        | true =>
          obtain ⟨other, stored, hget, rfl⟩ := h.turn_of_row hrow hlive
          exact hduplicate ⟨stored, List.mem_map.mpr ⟨_, Dict.get?_eq_some.mp hget, rfl⟩, hkey⟩
        | false => exact (hspent.resolve_left hduplicate) row hrow hlive hkey
    have hkeys : turn_id ∉ memory.turns.keys := by
      intro hmem
      obtain ⟨stored, hget⟩ := Dict.mem_keys.mp hmem
      exact hfresh (List.mem_map.mpr ⟨_, h.row_mem hget, rfl⟩)
    have hmemory : memory.step python (.save turn turn_id) =
        (.ok (.saved (turn.1.ref turn_id)), ⟨memory.turns.set turn_id turn.1⟩) := by
      unfold InMemoryProviderTurnStore.step InMemoryProviderTurnStore.save
      dsimp only
      rw [if_neg (not_not.mpr hdigest), if_neg hduplicate]
    have hpostgres : postgres.step python database (Call.renamed rename (.save turn turn_id)) =
        (.ok (.saved (turn.1.ref (rename turn_id))),
          ⟨postgres.provider_turn ++ [TurnRow.new python database turn.1 (rename turn_id)]⟩) := by
      unfold PostgresProviderTurnStore.step PostgresProviderTurnStore.save insert_turn
      dsimp only [Call.renamed]
      rw [if_neg (not_not.mpr hdigest), if_neg hother, if_neg hnone]
      rfl
    constructor
    · rw [hmemory, hpostgres]
      rfl
    · rw [hmemory, hpostgres, List.filter_append, h.live, Dict.set_items hkeys, List.map_append]
      rfl
    · rw [hmemory, Dict.values_set hkeys]
      intro stored hstored
      rcases List.mem_append.mp hstored with hstored | hstored
      · exact h.valid stored hstored
      · rw [List.mem_singleton.mp hstored]
        exact ⟨turn.2, hdigest⟩

theorem in_utc_bound {turn : PrivateProviderTurn} {ref : ProviderTurnRef} : turn.in_utc.Bound ref ↔ turn.Bound ref :=
  ⟨fun h => ⟨h.1, h.2, h.3, h.4, h.5, h.6, h.7⟩, fun h => ⟨h.1, h.2, h.3, h.4, h.5, h.6, h.7⟩⟩

theorem renamed_bound (rename : UUID → UUID) {turn : PrivateProviderTurn} {ref : ProviderTurnRef} :
    turn.Bound (renamed_ref rename ref) ↔ turn.Bound ref :=
  ⟨fun h => ⟨h.1, h.2, h.3, h.4, h.5, h.6, h.7⟩, fun h => ⟨h.1, h.2, h.3, h.4, h.5, h.6, h.7⟩⟩

theorem resolve_live {turn_id : UUID} {turn : PrivateProviderTurn} (ref : ProviderTurnRef) (now : Datetime)
    (hrow : Table.select TurnRow.turn_id turn_id postgres.provider_turn =
      some (TurnRow.new python database turn turn_id))
    (hvalid : turn.valid python = true) (hdigest : turn.compute_sha256 python = turn.payload_sha256)
    (hreads : ReadsBack database python turn) (hid : ref.turn_id = turn_id) :
    postgres.resolve python ref now =
      if ¬ turn.Bound ref then (.error (.state "state_binding_mismatch"), postgres)
      else if turn.Expired now then (.error (.state "state_expired"), postgres)
      else match renew_turn ref now postgres.provider_turn with
        | .error _ => (.error (.transport "state_read_failed"), postgres)
        | .ok rows => (.ok (.resolved (turn.in_utc.renew now)), ⟨rows⟩) := by
  have hturn := turn_of_new database hvalid hreads turn_id
  have hutc : turn.in_utc.compute_sha256 python = turn.in_utc.payload_sha256 := hdigest
  unfold PostgresProviderTurnStore.resolve
  rw [hid, hrow]
  unfold TurnRow.new at hturn ⊢
  dsimp only
  rw [hturn]
  dsimp only
  rw [if_neg (not_not.mpr hutc)]
  by_cases hbound : turn.Bound ref
  · have hbound' : turn.in_utc.Bound ref := in_utc_bound.mpr hbound
    rw [if_neg (not_not.mpr hbound), if_neg (not_not.mpr hbound')]
    rfl
  · have hbound' : ¬ turn.in_utc.Bound ref := fun h => hbound (in_utc_bound.mp h)
    rw [if_pos hbound, if_pos hbound']

theorem Same.renewed (h : Same python database rename memory postgres) {turn_id : UUID} {turn : PrivateProviderTurn}
    (hget : memory.turns.get? turn_id = some turn) {ref : ProviderTurnRef} (hid : ref.turn_id = rename turn_id)
    (hscope : ref.scope_digest = turn.scope_digest) (hattempt : ref.attempt_id = turn.attempt_id) {now : Datetime}
    (hnow : turn.created_at.instant ≤ now.instant) :
    ∃ rows, renew_turn ref now postgres.provider_turn = .ok rows ∧ rows.filter TurnRow.live =
      (memory.turns.set turn_id (turn.renew now)).items.map fun item =>
        TurnRow.new python database item.2 (rename item.1) := by
  have hitem := Dict.get?_eq_some.mp hget
  have hvalid := (h.valid turn (List.mem_map.mpr ⟨_, hitem, rfl⟩)).1
  have hkept : ¬ ∃ row ∈ postgres.provider_turn, row.renews ref ∧ ¬ (row.renew now).checks := by
    rintro ⟨row, hrow, hrenews, hchecks⟩
    unfold TurnRow.renews at hrenews
    simp only [Bool.and_eq_true, decide_eq_true_eq] at hrenews
    obtain ⟨other, stored, hother, rfl⟩ := h.turn_of_row hrow hrenews.1.2
    obtain rfl := rename.injective (hrenews.1.1.1.1.trans hid)
    obtain rfl := Option.some.inj (hget.symm.trans hother)
    exact hchecks (new_checks database (valid_renewed hvalid hnow) (rename other))
  have hkeys : turn_id ∈ memory.turns.items.map Prod.fst := List.mem_map.mpr ⟨_, hitem, rfl⟩
  refine ⟨_, if_neg hkept, ?_⟩
  rw [Table.filter_update (TurnRow.renew_live now), h.live]
  unfold Dict.set Table.update
  dsimp only
  rw [Dict.put_of_mem memory.turns.nodup hkeys, List.map_map, List.map_map]
  refine List.map_congr_left fun item hmem => ?_
  obtain ⟨other, stored⟩ := item
  rw [Function.comp_apply, Function.comp_apply]
  by_cases hother : other = turn_id
  · subst hother
    obtain rfl := Option.some.inj (hget.symm.trans (Dict.get?_eq_some.mpr hmem))
    have hrenews : (TurnRow.new python database turn (rename other)).renews ref = true := by
      unfold TurnRow.renews
      simp only [Bool.and_eq_true, decide_eq_true_eq]
      exact ⟨⟨⟨⟨hid.symm, hscope.symm⟩, hattempt.symm⟩, rfl⟩, rfl⟩
    rw [if_pos hrenews, if_pos rfl]
    rfl
  · have hrenews : ¬ (TurnRow.new python database stored (rename other)).renews ref = true := by
      unfold TurnRow.renews
      simp only [Bool.and_eq_true, decide_eq_true_eq]
      intro hrenews
      exact hother (rename.injective (hrenews.1.1.1.1.trans hid))
    rw [if_neg hrenews, if_neg hother]

theorem Same.resolve (h : Same python database rename memory postgres) (ref : ProviderTurnRef) (now : Datetime)
    (hmeets : Meets database memory postgres (.resolve ref now : Call φ python)) :
    StepAgrees python database rename memory postgres (.resolve ref now) := by
  cases hget : memory.turns.get? ref.turn_id with
  | none =>
    refine h.fails (.state "state_not_found") ?_ ?_
    · change memory.resolve ref now = _
      unfold InMemoryProviderTurnStore.resolve
      rw [hget]
    · change postgres.resolve python _ now = _
      unfold PostgresProviderTurnStore.resolve renamed_ref
      dsimp only
      cases hrow : Table.select TurnRow.turn_id (rename ref.turn_id) postgres.provider_turn with
      | none => rfl
      | some row =>
        have hdead := h.missing hget hrow
        unfold TurnRow.live at hdead
        obtain ⟨terminal_at, hterminal⟩ := Option.isSome_iff_exists.mp (Option.isNone_eq_false_iff.mp hdead)
        dsimp only
        rw [hterminal]
  | some turn =>
    obtain ⟨hreads, hcreated⟩ := hmeets turn hget
    have hmem : turn ∈ memory.turns.values := List.mem_map.mpr ⟨_, Dict.get?_eq_some.mp hget, rfl⟩
    obtain ⟨hvalid, hdigest⟩ := h.valid turn hmem
    have hmemory : memory.step python (.resolve ref now) = if ¬ turn.Bound ref then
        (.error (.state "state_binding_mismatch"), memory)
        else if turn.Expired now then (.error (.state "state_expired"), memory)
        else (.ok (.resolved (turn.renew now)),
          ⟨memory.turns.set ref.turn_id (turn.renew now)⟩) := by
      change memory.resolve ref now = _
      unfold InMemoryProviderTurnStore.resolve
      rw [hget]
    have hpostgres := resolve_live (renamed_ref rename ref) now (h.found hget) hvalid hdigest hreads rfl
    change postgres.step python database (Call.renamed rename (.resolve ref now)) = _ at hpostgres
    by_cases hbound : turn.Bound ref
    case neg =>
      rw [if_pos hbound] at hmemory
      rw [if_pos fun h => hbound ((renamed_bound rename).mp h)] at hpostgres
      exact h.fails _ hmemory hpostgres
    rw [if_neg (not_not.mpr hbound)] at hmemory
    rw [if_neg (not_not.mpr ((renamed_bound rename).mpr hbound))] at hpostgres
    by_cases hexpired : turn.Expired now
    case pos =>
      rw [if_pos hexpired] at hmemory hpostgres
      exact h.fails _ hmemory hpostgres
    rw [if_neg hexpired] at hmemory hpostgres
    have hnow := hcreated hbound hexpired
    have hrenewed := (renamed_bound rename).mpr hbound
    obtain ⟨rows, hrows, hlive⟩ := h.renewed hget rfl hrenewed.scope hrenewed.attempt hnow
    rw [hrows] at hpostgres
    constructor
    · rw [hmemory, hpostgres]
      rfl
    · rw [hmemory, hpostgres]
      exact hlive
    · rw [hmemory]
      intro stored hstored
      obtain ⟨⟨other, stored⟩, hitem, rfl⟩ := List.mem_map.mp hstored
      have hitem := Dict.get?_eq_some.mpr hitem
      rw [Dict.get?_set] at hitem
      split_ifs at hitem
      · cases hitem
        exact ⟨valid_renewed hvalid hnow, hdigest⟩
      · exact h.valid _ (List.mem_map.mpr ⟨_, Dict.get?_eq_some.mp hitem, rfl⟩)

theorem Same.delete_attempt (h : Same python database rename memory postgres) (attempt : AttemptRef) (now : Datetime)
    (hmeets : Meets database memory postgres (.delete_attempt attempt now : Call φ python)) :
    StepAgrees python database rename memory postgres (.delete_attempt attempt now) := by
  have hdeletes (turn : PrivateProviderTurn) (turn_id : UUID) :
      (TurnRow.new python database turn turn_id).deletes attempt = decide (turn.Of attempt) := by
    rw [Bool.eq_iff_iff, decide_eq_true_eq]
    unfold TurnRow.deletes PrivateProviderTurn.Of
    simp only [Bool.and_eq_true, decide_eq_true_eq]
    exact and_iff_left rfl
  have hkept : ¬ ∃ row ∈ postgres.provider_turn, row.deletes attempt ∧ ¬ (row.delete now).checks := by
    rintro ⟨row, hrow, hmatch, hchecks⟩
    have hlive : row.live = true := by
      unfold TurnRow.deletes at hmatch
      exact (Bool.and_eq_true_iff.mp hmatch).2
    obtain ⟨turn_id, turn, hget, rfl⟩ := h.turn_of_row hrow hlive
    have hturn : turn ∈ memory.turns.values := List.mem_map.mpr ⟨_, Dict.get?_eq_some.mp hget, rfl⟩
    rw [hdeletes, decide_eq_true_eq] at hmatch
    obtain ⟨hmodel, htimes, hexpiry⟩ := valid_times (h.valid turn hturn).1
    refine hchecks ?_
    unfold TurnRow.checks
    simp only [Bool.and_eq_true, decide_eq_true_eq]
    exact ⟨⟨⟨hmodel, htimes⟩, hexpiry⟩, decide_eq_true (hmeets turn hturn hmatch)⟩
  have hpostgres : postgres.step python database (Call.renamed rename (.delete_attempt attempt now)) =
      (.ok .deleted, ⟨Table.update (TurnRow.deletes attempt) (TurnRow.delete now) postgres.provider_turn⟩) := by
    change postgres.delete_attempt attempt now = _
    unfold PostgresProviderTurnStore.delete_attempt delete_turns update_turns
    rw [if_neg hkept]
  constructor
  · rw [hpostgres]
    rfl
  · rw [hpostgres]
    dsimp only
    rw [Table.filter_update_out (TurnRow.delete_live now), h.live, List.filter_map]
    refine congrArg (List.map _) (List.filter_congr fun item _ => ?_)
    rw [Function.comp_apply, hdeletes, decide_not]
  · intro turn hturn
    obtain ⟨item, hitem, rfl⟩ := List.mem_map.mp hturn
    exact h.valid _ (List.mem_map.mpr ⟨item, (List.mem_filter.mp hitem).1, rfl⟩)

/-! ## Whole runs -/

theorem drawn_renamed (call : Call φ python) : (call.renamed rename).drawn = call.drawn.map rename := by
  cases call <;> rfl

theorem Same.step (h : Same python database rename memory postgres) (call : Call φ python)
    (hfresh : (postgres.provider_turn.map TurnRow.turn_id ++ (call.drawn.map rename).toList).Nodup)
    (hmeets : Meets database memory postgres call) : StepAgrees python database rename memory postgres call := by
  cases call with
  | save turn turn_id =>
    refine h.save turn turn_id (fun hmem => ?_) hmeets
    exact (List.disjoint_of_nodup_append hfresh) hmem (List.mem_singleton.mpr rfl)
  | resolve ref now => exact h.resolve ref now hmeets
  | delete_attempt attempt now => exact h.delete_attempt attempt now hmeets

theorem Same.run {calls : List (Call φ python)} (h : Same python database rename memory postgres)
    (hfresh : (postgres.provider_turn.map TurnRow.turn_id ++ (calls.filterMap Call.drawn).map rename).Nodup)
    (hmeets : AllMeet database rename memory postgres calls) : Agree database rename memory postgres calls := by
  induction calls generalizing memory postgres with
  | nil => trivial
  | cons call calls ih =>
    obtain ⟨hcall, hmeets⟩ := hmeets
    have hsplit : (((call :: calls).filterMap Call.drawn).map rename) =
        (call.drawn.map rename).toList ++ (calls.filterMap Call.drawn).map rename := by
      cases hdrawn : call.drawn with
      | none => rw [List.filterMap_cons_none hdrawn]; rfl
      | some turn_id => rw [List.filterMap_cons_some hdrawn]; rfl
    rw [hsplit, ← List.append_assoc] at hfresh
    have hstep := h.step call (List.nodup_append.mp hfresh).1 hcall
    have hids := step_ids database postgres (call.renamed rename)
    rw [drawn_renamed] at hids
    have hafter := hfresh.sublist (hids.append (List.Sublist.refl _))
    exact ⟨hstep.answer, ih ⟨hstep.live, (List.nodup_append.mp hafter).1, hstep.valid⟩ hafter hmeets⟩

end Same

/-- Runs whose calls all meet their condition are answered alike by the two stores. -/
theorem stores_agree {python : Python φ} (database : Database φ) (rename : UUID ↪ UUID) (calls : List (Call φ python))
    (hfresh : (calls.filterMap Call.drawn).Nodup) (hmeets : AllMeet database rename .empty .empty calls) :
    Agree database rename .empty .empty calls :=
  Same.empty.run (hfresh.map rename.injective) hmeets

/-! ## An attempt that is deleted and starts again -/

def sampleDatabase : Database Unit := ⟨fun x => .float x⟩

def morningTurn : PrivateProviderTurn where
  scope_digest := HexDigest.ofNat 0
  attempt_id := 1
  sequence := 0
  model := "model"
  content := some "good morning"
  reasoning_content := none
  tool_calls_json := "[]"
  payload_sha256 := HexDigest.ofNat 0
  expected_tool_call_ids := []
  token_weight := 1
  created_at := .utc 3 (by decide)
  last_used_at := .utc 3 (by decide)
  absolute_expires_at := .utc (3 + ABSOLUTE_TTL) (by decide)

def secondTurn : PrivateProviderTurn := { morningTurn with sequence := 1 }

theorem morningTurn_valid : morningTurn.valid samplePython = true := by decide +kernel
theorem secondTurn_valid : secondTurn.valid samplePython = true := by decide +kernel

/-- The turn of an attempt is read, the attempt is deleted, and a turn is saved. -/
def restart (last : {turn : PrivateProviderTurn // turn.valid samplePython = true}) : List (Call Unit samplePython) :=
  [.save ⟨morningTurn, morningTurn_valid⟩ 1, .resolve (morningTurn.ref 1) (.utc 5 (by decide)),
    .delete_attempt ⟨HexDigest.ofNat 0, 1⟩ (.utc 5 (by decide)), .save last 2]

theorem restart_agrees :
    Agree sampleDatabase (Function.Embedding.refl UUID) .empty .empty (restart ⟨secondTurn, secondTurn_valid⟩) := by
  refine stores_agree sampleDatabase (Function.Embedding.refl UUID) (restart ⟨secondTurn, secondTurn_valid⟩) (by decide)
    ⟨fun _ => ⟨by decide +kernel, .inr ?_⟩, ?_, ?_, fun _ => ⟨by decide +kernel, .inr ?_⟩, trivial⟩
  · intro row hrow
    cases hrow
  · intro turn hturn
    obtain rfl : morningTurn = turn := Option.some.inj hturn
    refine ⟨?_, fun _ _ => by decide⟩
    intro calls hcalls
    obtain rfl : [] = calls := Option.some.inj hcalls
    rfl
  · intro turn hturn _
    obtain rfl : turn = morningTurn.renew (.utc 5 (by decide)) := List.mem_singleton.mp hturn
    decide
  · intro row hrow _ hkey
    obtain rfl : row = _ := List.mem_singleton.mp hrow
    cases hkey

/-- The table remembers the deleted turn, and the dictionary forgets it. -/
theorem restart_differs : ((restart ⟨morningTurn, morningTurn_valid⟩).filterMap Call.drawn).Nodup ∧
    ¬ Agree sampleDatabase (Function.Embedding.refl UUID) .empty .empty (restart ⟨morningTurn, morningTurn_valid⟩) := by
  refine ⟨by decide, fun h => ?_⟩
  have hlast := h.2.2.2.1
  have hpostgres : seen (Function.Embedding.refl UUID) (Except.ok (.saved (morningTurn.ref 2))) =
      .error "state_sequence_duplicate" := hlast
  cases hpostgres

end CommerceAgent.TurnStore
