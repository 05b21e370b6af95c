import CommerceAgent.Model.TurnAgreement
import Mathlib.Data.List.Induction

/-!
# The life of a private turn

A turn lives from its save to the deletion of its attempt, and each successful resolve is a use of it.
The in-memory store resolves exactly the bound references of living turns that are not expired.
-/

open CommerceAgent.Lib
open CommerceAgent.Operations (UUID HexDigest Datetime second)
open CommerceAgent.Context (Python ProviderTurnRef samplePython)

namespace CommerceAgent.TurnStore

variable {φ : Type} {python : Python φ}

/-! ## Histories -/

/-- A call with its answer. -/
structure Event (φ : Type) (python : Python φ) where
  call : Call φ python
  answer : Except ModelError Answer

namespace Event

variable (event : Event φ python)

/-- The turn that was saved, under its name. -/
def saved : Option (UUID × PrivateProviderTurn) :=
  match event.call, event.answer with
  | .save turn turn_id, .ok _ => some (turn_id, turn.1)
  | _, _ => none

/-- The turn that was resolved, and when. -/
def used : Option (UUID × Datetime) :=
  match event.call, event.answer with
  | .resolve ref now, .ok _ => some (ref.turn_id, now)
  | _, _ => none

/-- The attempt of the turn is deleted. -/
def Deletes (turn : PrivateProviderTurn) : Prop :=
  match event.call with
  | .delete_attempt attempt _ => turn.Of attempt
  | _ => False

end Event

def Call.now : Call φ python → Option Datetime
  | .save _ _ => none
  | .resolve _ now => some now
  | .delete_attempt _ now => some now

/-- The clock does not go back. -/
def Monotone (calls : List (Call φ python)) : Prop :=
  (calls.filterMap Call.now).Pairwise fun earlier later => earlier.instant ≤ later.instant

/-- What a call makes of a store and its history. -/
def InMemoryProviderTurnStore.extend (state : InMemoryProviderTurnStore × List (Event φ python))
    (call : Call φ python) :
    InMemoryProviderTurnStore × List (Event φ python) :=
  ((state.1.step python call).2, state.2 ++ [⟨call, (state.1.step python call).1⟩])

/-- The store after the calls, and what was answered. -/
def InMemoryProviderTurnStore.run (calls : List (Call φ python)) : InMemoryProviderTurnStore × List (Event φ python) :=
  calls.foldl extend (empty, [])

/-! ## Lives -/

/-- The turn was saved under the name, under which no other was saved since. -/
def SavedUnder (history : List (Event φ python)) (turn_id : UUID) (turn : PrivateProviderTurn)
    (since : List (Event φ python)) : Prop :=
  ∃ before event, history = before ++ event :: since ∧ event.saved = some (turn_id, turn) ∧
    ∀ later ∈ since, ∀ other, later.saved ≠ some (turn_id, other)

structure Lives (history : List (Event φ python)) (turn_id : UUID) (turn : PrivateProviderTurn)
    (since : List (Event φ python)) : Prop where
  saved : SavedUnder history turn_id turn since
  kept : ∀ event ∈ since, ¬ event.Deletes turn

/-- The last successful resolve, or what the turn was saved with. -/
def last_use (turn_id : UUID) (turn : PrivateProviderTurn) (since : List (Event φ python)) : Datetime :=
  match ((since.filterMap Event.used).filter fun use => use.1 = turn_id).getLast? with
  | some use => use.2
  | none => turn.last_used_at

/-- The reference is bound to a turn that lives and is not expired. -/
def Usable (history : List (Event φ python)) (ref : ProviderTurnRef) (now : Datetime) (turn : PrivateProviderTurn) :
    Prop :=
  ∃ since, Lives history ref.turn_id turn since ∧ turn.Bound ref ∧
    now.instant < turn.absolute_expires_at.instant ∧
    now.instant ≤ (last_use ref.turn_id turn since).instant + IDLE_TTL

/-- What the calls of a run come to. -/
structure LifeCycle (calls : List (Call φ python)) : Prop where
  /-- A usable reference is resolved to the turn with its payload. -/
  resolved : ∀ ref now turn, Usable (InMemoryProviderTurnStore.run calls).2 ref now turn →
    ((InMemoryProviderTurnStore.run calls).1.resolve ref now).1 = .ok (.resolved (turn.renew now))
  /-- No other reference is resolved. -/
  refused : ∀ ref now, (¬ ∃ turn, Usable (InMemoryProviderTurnStore.run calls).2 ref now turn) →
    ∃ error, ((InMemoryProviderTurnStore.run calls).1.resolve ref now).1 = .error error
  /-- A deleted turn is not resolved again. -/
  deleted : ∀ before attempt now after, calls = before ++ .delete_attempt attempt now :: after →
    ∀ turn_id turn since, Lives (InMemoryProviderTurnStore.run before).2 turn_id turn since → turn.Of attempt →
    (∀ call ∈ after, call.drawn ≠ some turn_id) → ∀ ref now', ref.turn_id = turn_id →
    ∃ error, ((InMemoryProviderTurnStore.run calls).1.resolve ref now').1 = .error error
  /-- An expired turn is not resolved again. -/
  expired : ∀ before ref now after, calls = before ++ .resolve ref now :: after →
    ((InMemoryProviderTurnStore.run before).1.resolve ref now).1 = .error (.state "state_expired") →
    (∀ call ∈ after, call.drawn ≠ some ref.turn_id) → ∀ ref' now', ref'.turn_id = ref.turn_id →
    (∀ instant ∈ calls.filterMap Call.now, instant.instant ≤ now'.instant) →
    ∃ error, ((InMemoryProviderTurnStore.run calls).1.resolve ref' now').1 = .error error
  /-- A deletion removes the turns of its attempt, and no other. -/
  removes : ∀ attempt turn_id turn,
    ((InMemoryProviderTurnStore.run calls).1.delete_attempt attempt).2.turns.get? turn_id = some turn ↔
      (InMemoryProviderTurnStore.run calls).1.turns.get? turn_id = some turn ∧ ¬ turn.Of attempt
  /-- An attempt holds one turn for each sequence number. -/
  one : ∀ turn_id turn_id' turn turn', (InMemoryProviderTurnStore.run calls).1.turns.get? turn_id = some turn →
    (InMemoryProviderTurnStore.run calls).1.turns.get? turn_id' = some turn' → turn.key = turn'.key → turn_id = turn_id'

/-! ## The last event of a history -/

variable {history : List (Event φ python)} {event : Event φ python} {turn_id : UUID} {turn : PrivateProviderTurn}
  {since : List (Event φ python)}

theorem savedUnder_append : SavedUnder (history ++ [event]) turn_id turn since ↔
    (event.saved = some (turn_id, turn) ∧ since = []) ∨
      ((∀ other, event.saved ≠ some (turn_id, other)) ∧
        ∃ earlier, since = earlier ++ [event] ∧ SavedUnder history turn_id turn earlier) := by
  constructor
  · rintro ⟨before, first, hsplit, hsaved, hlater⟩
    rcases List.eq_nil_or_concat since with rfl | ⟨earlier, last, rfl⟩
    · obtain ⟨-, hevent⟩ := List.append_inj' hsplit rfl
      obtain rfl := List.singleton_inj.mp hevent
      exact Or.inl ⟨hsaved, rfl⟩
    · rw [List.concat_eq_append, ← List.cons_append, ← List.append_assoc] at hsplit
      obtain ⟨rfl, hevent⟩ := List.append_inj' hsplit rfl
      obtain rfl := List.singleton_inj.mp hevent
      rw [List.concat_eq_append] at hlater ⊢
      refine Or.inr ⟨hlater event (List.mem_append_right _ List.mem_cons_self), earlier, rfl, before, first, rfl,
        hsaved, ?_⟩
      exact fun later hmem => hlater later (List.mem_append_left _ hmem)
  · rintro (⟨hsaved, rfl⟩ | ⟨hother, earlier, rfl, before, first, rfl, hsaved, hlater⟩)
    · exact ⟨history, event, rfl, hsaved, fun _ h => absurd h List.not_mem_nil⟩
    · refine ⟨before, first, by rw [List.append_assoc, List.cons_append], hsaved, fun later hmem => ?_⟩
      rcases List.mem_append.mp hmem with hmem | hmem
      · exact hlater later hmem
      · obtain rfl := List.mem_singleton.mp hmem
        exact hother

theorem lives_append : Lives (history ++ [event]) turn_id turn since ↔
    (event.saved = some (turn_id, turn) ∧ since = []) ∨
      ((∀ other, event.saved ≠ some (turn_id, other)) ∧ ¬ event.Deletes turn ∧
        ∃ earlier, since = earlier ++ [event] ∧ Lives history turn_id turn earlier) := by
  constructor
  · rintro ⟨hsaved, hkept⟩
    rcases savedUnder_append.mp hsaved with h | ⟨hother, earlier, rfl, hearlier⟩
    · exact Or.inl h
    · refine Or.inr ⟨hother, hkept event (List.mem_append_right _ List.mem_cons_self), earlier, rfl, hearlier, ?_⟩
      exact fun later hmem => hkept later (List.mem_append_left _ hmem)
  · rintro (⟨hsaved, rfl⟩ | ⟨hother, hdeletes, earlier, rfl, hearlier, hkept⟩)
    · exact ⟨savedUnder_append.mpr (Or.inl ⟨hsaved, rfl⟩), fun _ h => absurd h List.not_mem_nil⟩
    · refine ⟨savedUnder_append.mpr (Or.inr ⟨hother, earlier, rfl, hearlier⟩), fun later hmem => ?_⟩
      rcases List.mem_append.mp hmem with hmem | hmem
      · exact hkept later hmem
      · obtain rfl := List.mem_singleton.mp hmem
        exact hdeletes

theorem last_use_append_used {now : Datetime} (h : event.used = some (turn_id, now)) :
    last_use turn_id turn (since ++ [event]) = now := by
  unfold last_use
  rw [List.filterMap_append, List.filter_append, List.filterMap_cons_some h, List.filterMap_nil,
    List.filter_cons_of_pos (by simp), List.filter_nil, List.getLast?_append, List.getLast?_singleton, Option.some_or]

theorem last_use_append (h : ∀ now, event.used ≠ some (turn_id, now)) :
    last_use turn_id turn (since ++ [event]) = last_use turn_id turn since := by
  have hnone : ([event].filterMap Event.used).filter (fun use => use.1 = turn_id) = [] := by
    cases hused : event.used with
    | none => rw [List.filterMap_cons_none hused, List.filterMap_nil, List.filter_nil]
    | some use =>
      have hne : use.1 ≠ turn_id := by
        rintro rfl
        exact h use.2 hused
      rw [List.filterMap_cons_some hused, List.filterMap_nil, List.filter_cons_of_neg (by simpa using hne),
        List.filter_nil]
  unfold last_use
  rw [List.filterMap_append, List.filter_append, hnone, List.append_nil]

/-! ## The store and its history -/

namespace InMemoryProviderTurnStore

variable {store : InMemoryProviderTurnStore} {call : Call φ python} {calls : List (Call φ python)}

theorem run_append (calls : List (Call φ python)) (call : Call φ python) :
    run (calls ++ [call]) = extend (run calls) call := by
  unfold run
  rw [List.foldl_append, List.foldl_cons, List.foldl_nil]

/-- The stored turns are the living ones, with the time of their last use. -/
def Keeps (store : InMemoryProviderTurnStore) (history : List (Event φ python)) : Prop :=
  ∀ turn_id stored, store.turns.get? turn_id = some stored ↔
    ∃ turn since, Lives history turn_id turn since ∧ stored = turn.renew (last_use turn_id turn since)

/-- A call that neither saves, uses nor deletes a turn leaves its life as it was. -/
theorem lives_same (hsaved : ∀ turn, event.saved ≠ some (turn_id, turn)) (hdeletes : ∀ turn, ¬ event.Deletes turn)
    (hused : ∀ now, event.used ≠ some (turn_id, now)) (stored : PrivateProviderTurn) :
    (∃ turn since, Lives (history ++ [event]) turn_id turn since ∧ stored = turn.renew (last_use turn_id turn since)) ↔
      ∃ turn since, Lives history turn_id turn since ∧ stored = turn.renew (last_use turn_id turn since) := by
  constructor
  · rintro ⟨turn, since, hlives, rfl⟩
    rcases lives_append.mp hlives with ⟨h, -⟩ | ⟨-, -, earlier, rfl, hearlier⟩
    · exact absurd h (hsaved turn)
    · exact ⟨turn, earlier, hearlier, by rw [last_use_append hused]⟩
  · rintro ⟨turn, since, hlives, rfl⟩
    exact ⟨turn, since ++ [event], lives_append.mpr (Or.inr ⟨hsaved, hdeletes turn, since, rfl, hlives⟩),
      by rw [last_use_append hused]⟩

theorem Keeps.unchanged (h : Keeps store history) (hsaved : event.saved = none)
    (hdeletes : ∀ turn, ¬ event.Deletes turn)
    (hused : event.used = none) : Keeps store (history ++ [event]) := by
  intro turn_id stored
  rw [h turn_id stored, lives_same (by simp [hsaved]) hdeletes (by simp [hused])]

theorem Keeps.save (h : Keeps store history) {turn : {turn : PrivateProviderTurn // turn.valid python = true}}
    {turn_id : UUID} {answer : Answer} :
    Keeps ⟨store.turns.set turn_id turn.1⟩ (history ++ [⟨.save turn turn_id, .ok answer⟩]) := by
  intro other stored
  have hdeletes : ∀ other, ¬ (⟨.save turn turn_id, .ok answer⟩ : Event φ python).Deletes other := fun _ h => h
  have hused : ∀ id now, (⟨.save turn turn_id, .ok answer⟩ : Event φ python).used ≠ some (id, now) := by
    simp [Event.used]
  rw [Dict.get?_set]
  by_cases hid : other = turn_id
  · subst hid
    rw [if_pos rfl]
    constructor
    · intro hstored
      obtain rfl := Option.some.inj hstored
      exact ⟨turn.1, [], lives_append.mpr (Or.inl ⟨rfl, rfl⟩), rfl⟩
    · rintro ⟨turn', since, hlives, rfl⟩
      rcases lives_append.mp hlives with ⟨hsaved, rfl⟩ | ⟨hother, -⟩
      · obtain ⟨-, rfl⟩ := Prod.mk.inj (Option.some.inj hsaved)
        rfl
      · exact absurd rfl (hother turn.1)
  · rw [if_neg hid, h other stored, lives_same _ hdeletes (hused other)]
    intro turn' hsaved
    exact hid (Prod.mk.inj (Option.some.inj hsaved)).1.symm

theorem Keeps.resolve (h : Keeps store history) {ref : ProviderTurnRef} {now : Datetime} {stored : PrivateProviderTurn}
    (hget : store.turns.get? ref.turn_id = some stored) {answer : Answer} :
    Keeps ⟨store.turns.set ref.turn_id (stored.renew now)⟩ (history ++ [⟨.resolve ref now, .ok answer⟩]) := by
  intro other stored'
  have hsaved : ∀ id turn, (⟨.resolve ref now, .ok answer⟩ : Event φ python).saved ≠ some (id, turn) := by
    simp [Event.saved]
  have hdeletes : ∀ turn, ¬ (⟨.resolve ref now, .ok answer⟩ : Event φ python).Deletes turn := fun _ h => h
  have hlast (turn : PrivateProviderTurn) (since : List (Event φ python)) :
      last_use ref.turn_id turn (since ++ [⟨.resolve ref now, .ok answer⟩]) = now := last_use_append_used rfl
  rw [Dict.get?_set]
  by_cases hid : other = ref.turn_id
  · subst hid
    rw [if_pos rfl]
    obtain ⟨turn, since, hlives, rfl⟩ := (h _ _).mp hget
    constructor
    · intro hstored
      obtain rfl := Option.some.inj hstored
      refine ⟨turn, since ++ [_], lives_append.mpr (Or.inr ⟨hsaved _, hdeletes turn, since, rfl, hlives⟩), ?_⟩
      rw [hlast]
      rfl
    · rintro ⟨turn', since', hlives', rfl⟩
      rcases lives_append.mp hlives' with ⟨h, -⟩ | ⟨-, -, earlier, rfl, hearlier⟩
      · exact absurd h (hsaved _ turn')
      · have hsame := (h ref.turn_id _).mpr ⟨turn', earlier, hearlier, rfl⟩
        rw [hget] at hsame
        rw [hlast]
        exact congrArg (fun stored => some (stored.renew now)) (Option.some.inj hsame)
  · rw [if_neg hid, h other stored', lives_same (hsaved other) hdeletes]
    intro now' hused
    exact hid (Prod.mk.inj (Option.some.inj hused)).1.symm

theorem get?_delete (attempt : AttemptRef) {stored : PrivateProviderTurn} :
    (store.delete_attempt attempt).2.turns.get? turn_id = some stored ↔
      store.turns.get? turn_id = some stored ∧ ¬ stored.Of attempt := by
  unfold delete_attempt Dict.filter
  rw [Dict.get?_eq_some, Dict.get?_eq_some, List.mem_filter, decide_eq_true_iff]

theorem Keeps.delete (h : Keeps store history) (attempt : AttemptRef) (now : Datetime)
    (answer : Except ModelError Answer) :
    Keeps (store.delete_attempt attempt).2 (history ++ [⟨.delete_attempt attempt now, answer⟩]) := by
  intro turn_id stored
  have hsaved : ∀ id turn, (⟨.delete_attempt attempt now, answer⟩ : Event φ python).saved ≠ some (id, turn) := by
    simp [Event.saved]
  have hused : ∀ id now', (⟨.delete_attempt attempt now, answer⟩ : Event φ python).used ≠ some (id, now') := by
    simp [Event.used]
  rw [get?_delete, h turn_id stored]
  constructor
  · rintro ⟨⟨turn, since, hlives, rfl⟩, hother⟩
    exact ⟨turn, since ++ [_], lives_append.mpr (Or.inr ⟨hsaved _, hother, since, rfl, hlives⟩),
      by rw [last_use_append (hused _)]⟩
  · rintro ⟨turn, since, hlives, rfl⟩
    rcases lives_append.mp hlives with ⟨h, -⟩ | ⟨-, hother, earlier, rfl, hearlier⟩
    · exact absurd h (hsaved _ turn)
    · exact ⟨⟨turn, earlier, hearlier, by rw [last_use_append (hused _)]⟩, hother⟩

theorem resolve_cases (store : InMemoryProviderTurnStore) (ref : ProviderTurnRef) (now : Datetime) :
    (∃ error, store.resolve ref now = (.error error, store)) ∨
      ∃ stored, store.turns.get? ref.turn_id = some stored ∧ stored.Bound ref ∧ ¬ stored.Expired now ∧
        store.resolve ref now =
          (.ok (.resolved (stored.renew now)), ⟨store.turns.set ref.turn_id (stored.renew now)⟩) := by
  unfold resolve
  cases hget : store.turns.get? ref.turn_id with
  | none => exact Or.inl ⟨_, rfl⟩
  | some stored =>
    dsimp only
    by_cases hbound : stored.Bound ref
    · by_cases hexpired : stored.Expired now
      · rw [if_neg (not_not.mpr hbound), if_pos hexpired]
        exact Or.inl ⟨_, rfl⟩
      · rw [if_neg (not_not.mpr hbound), if_neg hexpired]
        exact Or.inr ⟨stored, rfl, hbound, hexpired, rfl⟩
    · rw [if_pos hbound]
      exact Or.inl ⟨_, rfl⟩

/-- A save is refused without a change, or stores a turn with a new key. -/
theorem save_cases (python : Python φ) (store : InMemoryProviderTurnStore) (turn : PrivateProviderTurn)
    (turn_id : UUID) :
    (∃ error, store.save python turn turn_id = (.error error, store)) ∨
      (∀ stored ∈ store.turns.values, stored.key ≠ turn.key) ∧
        store.save python turn turn_id = (.ok (.saved (turn.ref turn_id)), ⟨store.turns.set turn_id turn⟩) := by
  unfold save
  by_cases hdigest : turn.compute_sha256 python ≠ turn.payload_sha256
  · rw [if_pos hdigest]
    exact Or.inl ⟨_, rfl⟩
  · by_cases hduplicate : ∃ stored ∈ store.turns.values, stored.key = turn.key
    · rw [if_neg hdigest, if_pos hduplicate]
      exact Or.inl ⟨_, rfl⟩
    · rw [if_neg hdigest, if_neg hduplicate]
      exact Or.inr ⟨fun stored hmem hkey => hduplicate ⟨stored, hmem, hkey⟩, rfl⟩

theorem Keeps.step (h : Keeps store history) (call : Call φ python) :
    Keeps (store.step python call).2 (history ++ [⟨call, (store.step python call).1⟩]) := by
  cases call with
  | save turn turn_id =>
    unfold InMemoryProviderTurnStore.step
    dsimp only
    rcases store.save_cases python turn.1 turn_id with ⟨error, hstep⟩ | ⟨-, hstep⟩
    · rw [hstep]
      exact h.unchanged rfl (fun _ h => h) rfl
    · rw [hstep]
      exact h.save
  | resolve ref now =>
    unfold InMemoryProviderTurnStore.step
    dsimp only
    rcases store.resolve_cases ref now with ⟨error, hstep⟩ | ⟨stored, hget, -, -, hstep⟩
    · rw [hstep]
      exact h.unchanged rfl (fun _ h => h) rfl
    · rw [hstep]
      exact h.resolve hget
  | delete_attempt attempt now => exact h.delete attempt now _

theorem keeps_run (calls : List (Call φ python)) : Keeps (run calls).1 (run calls).2 := by
  induction calls using List.reverseRecOn with
  | nil =>
    intro turn_id stored
    refine iff_of_false (by simp [run, empty, Dict.get?_empty]) ?_
    rintro ⟨turn, since, ⟨⟨before, event, hsplit, -⟩, -⟩, -⟩
    cases before <;> cases hsplit
  | append_singleton calls call ih =>
    rw [run_append]
    exact ih.step call

/-! ## One turn for each sequence number -/

/-- No two stored turns have one key. -/
def OneEach (store : InMemoryProviderTurnStore) : Prop :=
  ∀ turn_id turn_id' turn turn', store.turns.get? turn_id = some turn → store.turns.get? turn_id' = some turn' →
    turn.key = turn'.key → turn_id = turn_id'

theorem mem_values {stored : PrivateProviderTurn} (h : store.turns.get? turn_id = some stored) :
    stored ∈ store.turns.values :=
  List.mem_map.mpr ⟨(turn_id, stored), Dict.get?_eq_some.mp h, rfl⟩

theorem OneEach.save (h : OneEach store) {turn : PrivateProviderTurn}
    (hnew : ∀ stored ∈ store.turns.values, stored.key ≠ turn.key) (turn_id : UUID) :
    OneEach ⟨store.turns.set turn_id turn⟩ := by
  intro id id' first second hfirst hsecond hkey
  rw [Dict.get?_set] at hfirst hsecond
  split_ifs at hfirst hsecond with hid hid' hid'
  · rw [hid, hid']
  · obtain rfl := Option.some.inj hfirst
    exact absurd hkey.symm (hnew second (mem_values hsecond))
  · obtain rfl := Option.some.inj hsecond
    exact absurd hkey (hnew first (mem_values hfirst))
  · exact h id id' first second hfirst hsecond hkey

theorem OneEach.renew (h : OneEach store) {stored : PrivateProviderTurn} (hget : store.turns.get? turn_id = some stored)
    (now : Datetime) : OneEach ⟨store.turns.set turn_id (stored.renew now)⟩ := by
  -- the renewed turn has the key of the stored one
  have hold (id : UUID) (turn : PrivateProviderTurn)
      (hturn : (store.turns.set turn_id (stored.renew now)).get? id = some turn) :
      ∃ old, store.turns.get? id = some old ∧ old.key = turn.key := by
    rw [Dict.get?_set] at hturn
    split_ifs at hturn with hid
    · obtain rfl := Option.some.inj hturn
      exact ⟨stored, hid ▸ hget, rfl⟩
    · exact ⟨turn, hturn, rfl⟩
  intro id id' first second hfirst hsecond hkey
  obtain ⟨old, hgetOld, hkeyOld⟩ := hold id first hfirst
  obtain ⟨old', hgetOld', hkeyOld'⟩ := hold id' second hsecond
  exact h id id' old old' hgetOld hgetOld' (hkeyOld.trans (hkey.trans hkeyOld'.symm))

theorem OneEach.step (h : OneEach store) (call : Call φ python) : OneEach (store.step python call).2 := by
  cases call with
  | save turn turn_id =>
    unfold InMemoryProviderTurnStore.step
    dsimp only
    rcases store.save_cases python turn.1 turn_id with ⟨error, hstep⟩ | ⟨hnew, hstep⟩
    · rwa [hstep]
    · rw [hstep]
      exact h.save hnew turn_id
  | resolve ref now =>
    unfold InMemoryProviderTurnStore.step
    dsimp only
    rcases store.resolve_cases ref now with ⟨error, hstep⟩ | ⟨stored, hget, -, -, hstep⟩
    · rwa [hstep]
    · rw [hstep]
      exact h.renew hget now
  | delete_attempt attempt now =>
    intro id id' first second hfirst hsecond hkey
    exact h id id' first second ((get?_delete attempt).mp hfirst).1 ((get?_delete attempt).mp hsecond).1 hkey

theorem oneEach_run (calls : List (Call φ python)) : OneEach (run calls).1 := by
  induction calls using List.reverseRecOn with
  | nil =>
    intro turn_id _ turn _ hget _ _
    cases hget
  | append_singleton calls call ih =>
    rw [run_append]
    exact ih.step call

/-! ## Turns that are gone -/

/-- No resolve at a later time finds a turn under the name. -/
def Gone (store : InMemoryProviderTurnStore) (turn_id : UUID) (Later : Datetime → Prop) : Prop :=
  ∀ stored, store.turns.get? turn_id = some stored → ∀ now, Later now → stored.Expired now

variable {Later : Datetime → Prop}

theorem Gone.refuses (h : Gone store turn_id Later) {ref : ProviderTurnRef} (href : ref.turn_id = turn_id)
    {now : Datetime}
    (hnow : Later now) : ∃ error, (store.resolve ref now).1 = .error error := by
  rcases store.resolve_cases ref now with ⟨error, hstep⟩ | ⟨stored, hget, -, hfresh, -⟩
  · exact ⟨error, by rw [hstep]⟩
  · exact absurd (h stored (href ▸ hget) now hnow) hfresh

theorem Gone.step (h : Gone store turn_id Later) (hdrawn : call.drawn ≠ some turn_id)
    (hnow : ∀ now, call.now = some now → Later now) : Gone (store.step python call).2 turn_id Later := by
  cases call with
  | save turn other =>
    have hother : turn_id ≠ other := fun heq => hdrawn (congrArg some heq.symm)
    unfold InMemoryProviderTurnStore.step
    dsimp only
    rcases store.save_cases python turn.1 other with ⟨error, hstep⟩ | ⟨-, hstep⟩
    · rwa [hstep]
    · rw [hstep]
      intro stored hget
      rw [Dict.get?_set, if_neg hother] at hget
      exact h stored hget
  | resolve ref now =>
    unfold InMemoryProviderTurnStore.step
    dsimp only
    rcases store.resolve_cases ref now with ⟨error, hstep⟩ | ⟨stored, hget, -, hfresh, hstep⟩
    · rwa [hstep]
    · rw [hstep]
      have hother : turn_id ≠ ref.turn_id := by
        rintro rfl
        exact hfresh (h stored hget now (hnow now rfl))
      intro other hgetOther
      rw [Dict.get?_set, if_neg hother] at hgetOther
      exact h other hgetOther
  | delete_attempt attempt now =>
    intro stored hget
    exact h stored ((get?_delete attempt).mp hget).1

theorem Gone.run {first : List (Call φ python)} (h : Gone (run first).1 turn_id Later) {after : List (Call φ python)}
    (hdrawn : ∀ call ∈ after, call.drawn ≠ some turn_id) (hnow : ∀ now ∈ after.filterMap Call.now, Later now) :
    Gone (InMemoryProviderTurnStore.run (first ++ after)).1 turn_id Later := by
  induction after using List.reverseRecOn with
  | nil => rwa [List.append_nil]
  | append_singleton after call ih =>
    rw [← List.append_assoc, run_append]
    refine Gone.step (ih ?_ ?_) ?_ ?_
    · exact fun other hmem => hdrawn other (List.mem_append_left _ hmem)
    · intro now hmem
      apply hnow
      rw [List.filterMap_append]
      exact List.mem_append_left _ hmem
    · exact hdrawn call (List.mem_append_right _ List.mem_cons_self)
    · intro now hcall
      apply hnow
      rw [List.filterMap_append, List.filterMap_cons_some hcall]
      exact List.mem_append_right _ List.mem_cons_self

theorem gone_delete (h : Keeps store history) (attempt : AttemptRef) (hlives : Lives history turn_id turn since)
    (hturn : turn.Of attempt) : Gone (store.delete_attempt attempt).2 turn_id fun _ => True := by
  intro stored hget
  obtain ⟨hstored, hother⟩ := (get?_delete attempt).mp hget
  -- the stored turn is the one that lives
  have hsame := (h turn_id _).mpr ⟨turn, since, hlives, rfl⟩
  rw [hstored] at hsame
  obtain rfl := Option.some.inj hsame
  exact absurd hturn hother

theorem gone_expired {ref : ProviderTurnRef} {now : Datetime}
    (h : (store.resolve ref now).1 = .error (.state "state_expired")) :
    Gone (store.resolve ref now).2 ref.turn_id fun later => now.instant ≤ later.instant := by
  rcases store.resolve_cases ref now with ⟨error, hstep⟩ | ⟨_, -, -, -, hstep⟩
  · rw [hstep]
    intro stored hget later hlater
    have hexpired : stored.Expired now := by
      unfold resolve at h
      rw [hget] at h
      by_contra hfresh
      dsimp only at h
      rw [if_neg hfresh] at h
      split_ifs at h
      simp at h
    rcases hexpired with habsolute | hidle
    · exact Or.inl (habsolute.trans hlater)
    · exact Or.inr (hidle.trans_le hlater)
  · rw [hstep] at h
    cases h

/-! ## The life cycle -/

theorem resolved (calls : List (Call φ python)) {ref : ProviderTurnRef} {now : Datetime} {turn : PrivateProviderTurn}
    (h : Usable (run calls).2 ref now turn) : ((run calls).1.resolve ref now).1 = .ok (.resolved (turn.renew now)) := by
  obtain ⟨since, hlives, hbound, habsolute, hidle⟩ := h
  have hget := (keeps_run calls ref.turn_id _).mpr ⟨turn, since, hlives, rfl⟩
  have hrenewed : (turn.renew (last_use ref.turn_id turn since)).Bound ref :=
    ⟨hbound.scope, hbound.attempt, hbound.sequence, hbound.payload_digest, hbound.expected_tool_calls,
      hbound.token_weight,
      hbound.expiry⟩
  have hfresh : ¬ (turn.renew (last_use ref.turn_id turn since)).Expired now := by
    rintro (hlate | hlate)
    · exact absurd habsolute (not_lt.mpr hlate)
    · exact absurd hidle (not_le.mpr hlate)
  unfold resolve
  rw [hget]
  dsimp only
  rw [if_neg (not_not.mpr hrenewed), if_neg hfresh]
  rfl

theorem refused (calls : List (Call φ python)) {ref : ProviderTurnRef} {now : Datetime}
    (h : ¬ ∃ turn, Usable (run calls).2 ref now turn) : ∃ error, ((run calls).1.resolve ref now).1 = .error error := by
  rcases (run calls).1.resolve_cases ref now with ⟨error, hstep⟩ | ⟨stored, hget, hbound, hfresh, -⟩
  · exact ⟨error, by rw [hstep]⟩
  · obtain ⟨turn, since, hlives, rfl⟩ := (keeps_run calls ref.turn_id stored).mp hget
    refine absurd ⟨turn, since, hlives, ?_, ?_, ?_⟩ h
    · exact ⟨hbound.scope, hbound.attempt, hbound.sequence, hbound.payload_digest, hbound.expected_tool_calls,
        hbound.token_weight, hbound.expiry⟩
    · exact not_le.mp fun hlate => hfresh (Or.inl hlate)
    · exact not_lt.mp fun hlate => hfresh (Or.inr hlate)

theorem run_split (before : List (Call φ python)) (call : Call φ python) (after : List (Call φ python)) :
    before ++ call :: after = (before ++ [call]) ++ after := by
  rw [List.append_assoc, List.singleton_append]

theorem deleted {before after : List (Call φ python)} {attempt : AttemptRef} {now : Datetime}
    (hlives : Lives (run before).2 turn_id turn since) (hturn : turn.Of attempt)
    (hdrawn : ∀ call ∈ after, call.drawn ≠ some turn_id) :
    Gone (run (before ++ .delete_attempt attempt now :: after)).1 turn_id fun _ => True := by
  rw [run_split]
  refine Gone.run ?_ hdrawn fun _ _ => trivial
  rw [run_append]
  exact gone_delete (keeps_run before) attempt hlives hturn

theorem filterMap_now (ref : ProviderTurnRef) (now : Datetime) (after : List (Call φ python)) :
    (.resolve ref now :: after).filterMap Call.now = now :: after.filterMap Call.now :=
  List.filterMap_cons_some rfl

theorem expired {before after : List (Call φ python)} {ref : ProviderTurnRef} {now : Datetime}
    (hclock : Monotone (before ++ .resolve ref now :: after))
    (h : ((run before).1.resolve ref now).1 = .error (.state "state_expired"))
    (hdrawn : ∀ call ∈ after, call.drawn ≠ some ref.turn_id) :
    Gone (run (before ++ .resolve ref now :: after)).1 ref.turn_id fun later => now.instant ≤ later.instant := by
  rw [run_split]
  refine Gone.run ?_ hdrawn ?_
  · rw [run_append]
    exact gone_expired h
  · unfold Monotone at hclock
    rw [List.filterMap_append, filterMap_now] at hclock
    exact (List.pairwise_cons.mp (List.pairwise_append.mp hclock).2.1).1

/-- A run on a clock that does not go back keeps the life cycle. -/
theorem turn_life_cycle (calls : List (Call φ python)) (hclock : Monotone calls) : LifeCycle calls where
  resolved _ _ _ := resolved calls
  refused _ _ := refused calls
  deleted := by
    rintro before attempt now after rfl turn_id turn since hlives hturn hdrawn ref now' href
    exact (deleted hlives hturn hdrawn).refuses href trivial
  expired := by
    rintro before ref now after rfl h hdrawn ref' now' href hlast
    refine (expired hclock h hdrawn).refuses href (hlast now ?_)
    rw [List.filterMap_append, filterMap_now]
    exact List.mem_append_right _ List.mem_cons_self
  removes attempt _ _ := get?_delete attempt
  one := oneEach_run calls

theorem turn_life_cycle_restart : Monotone (restart ⟨secondTurn, secondTurn_valid⟩) ∧
    LifeCycle (restart ⟨secondTurn, secondTurn_valid⟩) :=
  have hclock : Monotone (restart ⟨secondTurn, secondTurn_valid⟩) :=
    List.Pairwise.cons (by simp [Call.now]) (List.pairwise_singleton _ _)
  ⟨hclock, turn_life_cycle (restart ⟨secondTurn, secondTurn_valid⟩) hclock⟩

end InMemoryProviderTurnStore

end CommerceAgent.TurnStore
