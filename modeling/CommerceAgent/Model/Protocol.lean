import CommerceAgent.Model.Gateway
import Mathlib.Data.List.Basic

/-!
# The protocol of a completion

Posts, attempt summaries, hooks, the private turn and the ambiguity of the charge, for
every behaviour of the transport and of the store.
-/

open CommerceAgent.Lib
open CommerceAgent.Lib.Flow (Meets Ends)
open CommerceAgent.Operations (UUID Text Code HexDigest Checked)
open CommerceAgent.Orchestration

namespace CommerceAgent.Model

abbrev GatewayLog := Log Op Ans

/-! ## What a log shows -/

/-- A hook, or a post, in the order of the attempts. -/
inductive Mark where
  | sent (attempt_number : ℕ)
  | posted
  | recorded (attempt_number : ℕ)
  deriving DecidableEq

def mark : Event Op Ans → Option Mark
  | ⟨.before_send attempt_number _, _⟩ => some (.sent attempt_number)
  | ⟨.post _, _⟩ => some .posted
  | ⟨.after_attempt summary, _⟩ => some (.recorded summary.attempt_number)
  | _ => none

/-- What came from outside: the transport's answers and the store's. -/
inductive Received where
  | posted (answer : PostAnswer)
  | saved (answer : Except StoreFailure UUID)

def Received.isPosted : Received → Bool
  | .posted _ => true
  | .saved _ => false

def receive : Event Op Ans → Option Received
  | ⟨.post _, answer⟩ => some (.posted answer)
  | ⟨.save _, answer⟩ => some (.saved answer)
  | _ => none

def summary_of : Event Op Ans → Option ModelAttemptSummary
  | ⟨.after_attempt summary, _⟩ => some summary
  | _ => none

def tick : Event Op Ans → Option Instant
  | ⟨.now, instant⟩ => some instant
  | _ => none

def isPost : Event Op Ans → Bool
  | ⟨.post _, _⟩ => true
  | _ => false

def marks (log : GatewayLog) : List Mark := log.filterMap mark
def received (log : GatewayLog) : List Received := log.filterMap receive
def summaries (log : GatewayLog) : List ModelAttemptSummary := log.filterMap summary_of
def ticks (log : GatewayLog) : List Instant := log.filterMap tick
def posts (log : GatewayLog) : ℕ := log.countP isPost

def ClockForward (log : GatewayLog) : Prop := (ticks log).Pairwise (· ≤ ·)

/-- The marks of `n` whole attempts. -/
def rounds (n : ℕ) : List Mark := (List.range' 1 n).flatMap fun k => [.sent k, .posted, .recorded k]

/-! ## The protocol -/

/-- **The protocol** of one completion. -/
structure KeepsProtocol (gateway : Gateway) (result : Except Failure Completion) (log : GatewayLog) : Prop where
  counts : posts log = (summaries log).length
  bound : posts log ≤ gateway.retry.maximum_attempts
  numbers : (summaries log).map ModelAttemptSummary.attempt_number = List.range' 1 (summaries log).length
  hooks : marks log = rounds (posts log)
  terminal : ∀ before summary after, log = before ++ ⟨.after_attempt summary, ()⟩ :: after →
    summary.retryable = false → posts after = 0
  stored : (∃ turn turn_id, ⟨.save turn, .ok turn_id⟩ ∈ log) ↔ ∃ response, result = .ok response
  charge : ∀ e, result = .error (.gateway e) →
    (e.charge_ambiguous = true ↔ ∃ summary ∈ summaries log, summary.charge_ambiguous = true)

/-- A system fingerprint that a model response has room for. -/
def fingerprint_fits (payload : Value) : Bool :=
  match payload.get? "system_fingerprint" with
  | none | some .null => true
  | some (.str text) => 1 ≤ text.length && text.length ≤ 256
  | some _ => false

namespace Gateway

variable (gateway : Gateway)

/-- An attempt that may have been charged, and may be tried again. -/
def unsettled : PostAnswer → Bool
  | .transport_error connect => !connect
  | .response status _ (.json payload) =>
    status < 400 && finish_reason payload = some .insufficient_system_resource && (gateway.usage payload).isSome
  | .response _ _ .malformed => false

/-- As the last answer, it ends the call with an error that leaves no doubt about its own charge. -/
def settles (attempts : ℕ) : Received → Bool
  | .posted (.transport_error connect) => connect
  | .posted (.response status _ _) =>
    400 ≤ status && (!retryable_status status || gateway.retry.maximum_attempts ≤ attempts)
  | .saved (.error (.state ..)) => true
  | .saved _ => false

/-- What came from outside, where the protocol is kept. -/
structure Regular (script : List Received) : Prop where
  statuses : ∀ status retry_after body, .posted (.response status retry_after body) ∈ script → status < 600
  fingerprint : ∀ before status retry_after payload turn_id,
    script = before ++ [.posted (.response status retry_after (.json payload)), .saved (.ok turn_id)] →
    fingerprint_fits payload = true
  charge : ∀ last ∈ script.getLast?, gateway.settles (script.countP Received.isPosted) last = true →
    ∀ answer, .posted answer ∈ script → gateway.unsettled answer = false

variable {gateway}

end Gateway

/-! ## One more event -/

variable {log : GatewayLog}

theorem marks_append (log tail : GatewayLog) : marks (log ++ tail) = marks log ++ marks tail := List.filterMap_append
theorem received_append (log tail : GatewayLog) : received (log ++ tail) = received log ++ received tail :=
  List.filterMap_append
theorem summaries_append (log tail : GatewayLog) : summaries (log ++ tail) = summaries log ++ summaries tail :=
  List.filterMap_append
theorem ticks_append (log tail : GatewayLog) : ticks (log ++ tail) = ticks log ++ ticks tail := List.filterMap_append
theorem posts_append (log tail : GatewayLog) : posts (log ++ tail) = posts log + posts tail := List.countP_append

theorem rounds_succ (n : ℕ) : rounds (n + 1) = rounds n ++ [.sent (n + 1), .posted, .recorded (n + 1)] := by
  unfold rounds
  rw [List.range'_concat, List.flatMap_append, Nat.mul_comm, Nat.mul_one, Nat.add_comm 1 n]
  rfl

/-- A log of whole attempts, and then of the save, if there was one. -/
structure Rounds (answers : List PostAnswer) (saved : Option (Except StoreFailure UUID))
    (attempts : List ModelAttemptSummary) (log : GatewayLog) : Prop where
  marked : marks log = rounds attempts.length
  recorded : summaries log = attempts
  numbers : attempts.map ModelAttemptSummary.attempt_number = List.range' 1 attempts.length
  posted : posts log = attempts.length
  answered : received log = answers.map .posted ++ (saved.map .saved).toList

variable {gateway : Gateway} {answers : List PostAnswer} {saved : Option (Except StoreFailure UUID)}
  {attempts : List ModelAttemptSummary} {result : Except Failure Completion}

theorem Rounds.other (h : Rounds answers saved attempts log) {e : Event Op Ans} (hmark : mark e = none)
    (hsummary : summary_of e = none) (hpost : isPost e = false) (hreceive : receive e = none) :
    Rounds answers saved attempts (log ++ [e]) := by
  refine ⟨?_, ?_, h.numbers, ?_, ?_⟩
  · rw [marks_append, h.marked]
    simp only [marks, List.filterMap_cons, List.filterMap_nil, hmark, List.append_nil]
  · rw [summaries_append, h.recorded]
    simp only [summaries, List.filterMap_cons, List.filterMap_nil, hsummary, List.append_nil]
  · rw [posts_append, h.posted]
    simp only [posts, List.countP_singleton, hpost, Bool.false_eq_true, if_false, Nat.add_zero]
  · rw [received_append, h.answered]
    simp only [received, List.filterMap_cons, List.filterMap_nil, hreceive, List.append_nil]

theorem Rounds.save (h : Rounds answers none attempts log) (turn : PrivateProviderTurn)
    (answer : Except StoreFailure UUID) : Rounds answers (some answer) attempts (log ++ [⟨.save turn, answer⟩]) := by
  refine ⟨?_, ?_, h.numbers, ?_, ?_⟩
  · rw [marks_append, h.marked]
    exact List.append_nil _
  · rw [summaries_append, h.recorded]
    exact List.append_nil _
  · rw [posts_append, h.posted]
    rfl
  · rw [received_append, h.answered, Option.map_none, Option.toList_none, List.append_nil]
    rfl

/-! ## What the protocol comes to -/

theorem saved_mem {turn_id : UUID} :
    (∃ turn, ⟨.save turn, .ok turn_id⟩ ∈ log) ↔ .saved (.ok turn_id) ∈ received log := by
  unfold received
  rw [List.mem_filterMap]
  constructor
  · rintro ⟨turn, hmem⟩
    exact ⟨_, hmem, rfl⟩
  · rintro ⟨⟨op, answer⟩, hmem, heq⟩
    cases op with
    | save turn =>
      simp only [receive, Option.some.injEq, Received.saved.injEq] at heq
      exact ⟨turn, heq ▸ hmem⟩
    | _ => cases heq

theorem Rounds.stored (h : Rounds answers saved attempts log) :
    (∃ turn turn_id, ⟨.save turn, .ok turn_id⟩ ∈ log) ↔ ∃ turn_id, saved = some (.ok turn_id) := by
  have hmem : ∀ turn_id, Received.saved (.ok turn_id) ∈ received log ↔ saved = some (.ok turn_id) := by
    intro turn_id
    rw [h.answered, List.mem_append]
    constructor
    · rintro (hmem | hmem)
      · obtain ⟨a, -, heq⟩ := List.mem_map.mp hmem
        cases heq
      · rw [Option.mem_toList, Option.map_eq_some_iff] at hmem
        obtain ⟨a, ha, heq⟩ := hmem
        rw [ha, Received.saved.inj heq]
    · rintro rfl
      exact .inr List.mem_cons_self
  constructor
  · rintro ⟨turn, turn_id, hin⟩
    exact ⟨turn_id, (hmem turn_id).mp (saved_mem.mp ⟨turn, hin⟩)⟩
  · rintro ⟨turn_id, hs⟩
    obtain ⟨turn, hin⟩ := saved_mem.mpr ((hmem turn_id).mpr hs)
    exact ⟨turn, turn_id, hin⟩

theorem recorded_mem {log : GatewayLog} {n : ℕ} (h : .recorded n ∈ marks log) : summaries log ≠ [] := by
  obtain ⟨⟨op, answer⟩, hmem, heq⟩ := List.mem_filterMap.mp h
  cases op with
  | after_attempt summary => exact List.ne_nil_of_mem (List.mem_filterMap.mpr ⟨_, hmem, rfl⟩)
  | _ => cases heq

theorem posts_eq (log : GatewayLog) : posts log = (marks log).count .posted := by
  unfold posts marks
  induction log with
  | nil => rfl
  | cons e log ih =>
    obtain ⟨op, answer⟩ := e
    cases op <;> simp [List.countP_cons, List.filterMap_cons, isPost, mark, ih]

theorem isPosted_count (log : GatewayLog) : (received log).countP Received.isPosted = posts log := by
  unfold posts received
  induction log with
  | nil => rfl
  | cons e log ih =>
    obtain ⟨op, answer⟩ := e
    cases op <;> simp [List.countP_cons, List.filterMap_cons, isPost, receive, Received.isPosted, ih]

theorem Rounds.last (h : Rounds answers saved attempts log) {before after : GatewayLog} {summary : ModelAttemptSummary}
    (hlog : log = before ++ ⟨.after_attempt summary, ()⟩ :: after) (hlast : summaries after = []) : posts after = 0 := by
  have hmarks := h.marked
  have hne : attempts ≠ [] := by
    rw [← h.recorded, hlog, summaries_append]
    exact List.append_ne_nil_of_right_ne_nil _ (List.cons_ne_nil _ _)
  obtain ⟨n, hn⟩ := Nat.exists_eq_succ_of_ne_zero (List.length_pos_iff.mpr hne).ne'
  rw [hn, Nat.succ_eq_add_one, rounds_succ, hlog, marks_append] at hmarks
  have hempty : marks after = [] := by
    by_contra hsome
    -- the marks end with a record, which would be one of `after`
    have hrecorded : (marks after).getLast hsome = .recorded (n + 1) := by
      have hlast? : (marks (before ++ [⟨.after_attempt summary, ()⟩]) ++ marks after).getLast? =
          some (.recorded (n + 1)) := by
        rw [← marks_append, List.append_assoc, List.singleton_append, marks_append, hmarks]
        simp
      rw [List.getLast?_append_of_ne_nil _ hsome, List.getLast?_eq_some_getLast hsome, Option.some.injEq] at hlast?
      exact hlast?
    exact recorded_mem (hrecorded ▸ List.getLast_mem hsome) hlast
  rw [posts_eq, hempty]
  rfl

theorem Rounds.keepsProtocol_iff (h : Rounds answers saved attempts log)
    (hbound : attempts.length ≤ gateway.retry.maximum_attempts)
    (hretry : ∀ summary ∈ attempts.dropLast, summary.retryable = true) :
    KeepsProtocol gateway result log ↔
      ((∃ turn_id, saved = some (.ok turn_id)) ↔ ∃ response, result = .ok response) ∧
      ∀ e, result = .error (.gateway e) →
        (e.charge_ambiguous = true ↔ ∃ summary ∈ attempts, summary.charge_ambiguous = true) := by
  constructor
  · rintro ⟨-, -, -, -, -, hstored, hcharge⟩
    rw [h.stored] at hstored
    rw [h.recorded] at hcharge
    exact ⟨hstored, hcharge⟩
  · rintro ⟨hstored, hcharge⟩
    refine ⟨?_, ?_, ?_, ?_, ?_, ?_, ?_⟩
    · rw [h.posted, h.recorded]
    · rwa [h.posted]
    · rw [h.recorded]
      exact h.numbers
    · rw [h.marked, h.posted]
    · intro before summary after hlog hfinal
      refine h.last hlog ?_
      by_contra hmore
      have hin : summary ∈ attempts.dropLast := by
        rw [← h.recorded, hlog, summaries_append]
        change summary ∈ (summaries before ++ summary :: summaries after).dropLast
        rw [List.dropLast_append_of_ne_nil (List.cons_ne_nil _ _), List.dropLast_cons_of_ne_nil hmore]
        simp
      rw [hretry summary hin] at hfinal
      cases hfinal
    · rw [h.stored]
      exact hstored
    · rw [h.recorded]
      exact hcharge

end CommerceAgent.Model
