import CommerceAgent.Model.Protocol

/-!
# The attempts of a completion

Attempt after attempt keeps the rounds of the protocol, and the way the last one ends
decides whether the whole completion keeps it.
-/

open CommerceAgent.Lib
open CommerceAgent.Lib.Flow (Meets Ends)
open CommerceAgent.Operations (UUID Text Code HexDigest Checked)
open CommerceAgent.Orchestration

namespace CommerceAgent.Model

/-- The attempts that are over, of which each could be tried again. -/
structure Tried (gateway : Gateway) (answers : List PostAnswer) (attempts : List ModelAttemptSummary) : Prop where
  retryable : ∀ summary ∈ attempts, summary.retryable = true
  statuses : ∀ status retry_after body, .response status retry_after body ∈ answers → status < 600
  ambiguous : (∃ summary ∈ attempts, summary.charge_ambiguous = true) ↔ ∃ answer ∈ answers, gateway.unsettled answer = true

/-- The last attempt, on record. -/
structure Over (gateway : Gateway) (answers : List PostAnswer) (answer : PostAnswer)
    (saved : Option (Except StoreFailure UUID)) (attempts : List ModelAttemptSummary) (summary : ModelAttemptSummary)
    (log : GatewayLog) : Prop where
  tried : Tried gateway answers attempts
  less : attempts.length < gateway.retry.maximum_attempts
  status : ∀ status retry_after body, answer = .response status retry_after body → status < 600
  log : Rounds (answers ++ [answer]) saved (attempts ++ [summary]) log

variable {gateway : Gateway} {answers : List PostAnswer} {answer : PostAnswer}
  {saved : Option (Except StoreFailure UUID)} {attempts : List ModelAttemptSummary} {summary : ModelAttemptSummary}
  {log : GatewayLog} {result : Except Failure Completion}

/-- The last that came from outside. -/
def lastReceived (answer : PostAnswer) (saved : Option (Except StoreFailure UUID)) : Received :=
  (saved.map .saved).getD (.posted answer)

theorem Over.getLast? (h : Over gateway answers answer saved attempts summary log) :
    (received log).getLast? = some (lastReceived answer saved) := by
  rw [h.log.answered, List.map_append]
  cases saved <;> simp [lastReceived]

theorem Over.posted_mem (h : Over gateway answers answer saved attempts summary log) (a : PostAnswer) :
    .posted a ∈ received log ↔ a ∈ answers ++ [answer] := by
  rw [h.log.answered, List.mem_append, List.mem_map]
  constructor
  · rintro (⟨a', hmem, heq⟩ | hmem)
    · rwa [← Received.posted.inj heq]
    · cases saved with
      | none => cases hmem
      | some r => cases List.mem_singleton.mp hmem
  · exact fun hmem => .inl ⟨a, hmem, rfl⟩

theorem Over.keepsProtocol_iff (h : Over gateway answers answer saved attempts summary log) :
    KeepsProtocol gateway result log ↔
      ((∃ turn_id, saved = some (.ok turn_id)) ↔ ∃ response, result = .ok response) ∧
      ∀ e, result = .error (.gateway e) →
        (e.charge_ambiguous = true ↔
          (∃ a ∈ answers, gateway.unsettled a = true) ∨ summary.charge_ambiguous = true) := by
  have hbound : (attempts ++ [summary]).length ≤ gateway.retry.maximum_attempts := by
    rw [List.length_append]
    exact h.less
  have hretry : ∀ s ∈ (attempts ++ [summary]).dropLast, s.retryable = true := by
    rw [List.dropLast_concat]
    exact h.tried.retryable
  rw [h.log.keepsProtocol_iff hbound hretry, ← h.tried.ambiguous]
  simp only [List.mem_append, List.mem_singleton, or_and_right, exists_or, exists_eq_left]

theorem Over.regular_iff (h : Over gateway answers answer saved attempts summary log) :
    gateway.Regular (received log) ↔
      (∀ status retry_after payload turn_id, answer = .response status retry_after (.json payload) →
        saved = some (.ok turn_id) → fingerprint_fits payload = true) ∧
      (gateway.settles (attempts.length + 1) (lastReceived answer saved) = true →
        ∀ a ∈ answers ++ [answer], gateway.unsettled a = false) := by
  have hposts : (received log).countP Received.isPosted = attempts.length + 1 := by
    rw [isPosted_count, h.log.posted, List.length_append]
    rfl
  constructor
  · rintro ⟨-, hfits, hcharge⟩
    refine ⟨?_, fun hsettles a ha => ?_⟩
    · rintro status retry_after payload turn_id rfl rfl
      refine hfits (answers.map .posted) status retry_after payload turn_id ?_
      rw [h.log.answered, List.map_append, List.append_assoc]
      rfl
    · refine hcharge _ h.getLast? ?_ a ((h.posted_mem a).mpr ha)
      rwa [hposts]
  · rintro ⟨hfits, hcharge⟩
    refine ⟨fun status retry_after body hmem => ?_, ?_, fun last hlast hsettles a ha => ?_⟩
    · rcases List.mem_append.mp ((h.posted_mem _).mp hmem) with hmem | hmem
      · exact h.tried.statuses status retry_after body hmem
      · exact h.status status retry_after body (List.mem_singleton.mp hmem).symm
    · intro before status retry_after payload turn_id heq
      rw [h.log.answered, List.map_append, List.append_assoc] at heq
      cases saved with
      | none =>
        -- the log would end with a post
        have hlast := congrArg List.getLast? heq
        simp at hlast
      | some r =>
        have hpair : [Received.posted answer, .saved r] =
            [.posted (.response status retry_after (.json payload)), .saved (.ok turn_id)] :=
          (List.append_inj' heq rfl).2
        simp only [List.cons.injEq, Received.posted.injEq, Received.saved.injEq, and_true] at hpair
        exact hfits status retry_after payload turn_id hpair.1 (by rw [hpair.2])
    · rw [h.getLast?, Option.mem_some_iff] at hlast
      rw [hposts, ← hlast] at hsettles
      exact hcharge hsettles a ((h.posted_mem a).mp ha)

theorem Over.settled (h : Over gateway answers answer saved attempts summary log) {e : ModelGatewayError}
    (he : e.charge_ambiguous = false) (hsummary : summary.charge_ambiguous = false)
    (hanswer : gateway.unsettled answer = false) (hsaved : ∀ turn_id, saved ≠ some (.ok turn_id))
    (hsettles : gateway.settles (attempts.length + 1) (lastReceived answer saved) = true) :
    KeepsProtocol gateway (.error (.gateway e)) log ↔ gateway.Regular (received log) := by
  rw [h.keepsProtocol_iff, h.regular_iff]
  constructor
  · rintro ⟨-, hcharge⟩
    refine ⟨fun _ _ _ turn_id _ hs => absurd hs (hsaved turn_id), fun _ a ha => ?_⟩
    rcases List.mem_append.mp ha with ha | ha
    · by_contra hunsettled
      rw [Bool.not_eq_false] at hunsettled
      have := (hcharge e rfl).mpr (.inl ⟨a, ha, hunsettled⟩)
      rw [he] at this
      cases this
    · rwa [List.mem_singleton.mp ha]
  · rintro ⟨-, hcharge⟩
    refine ⟨⟨fun ⟨turn_id, hs⟩ => absurd hs (hsaved turn_id), fun ⟨_, hr⟩ => by cases hr⟩, ?_⟩
    rintro e' ⟨⟩
    rw [he, hsummary]
    refine ⟨nofun, ?_⟩
    rintro (⟨a, ha, hunsettled⟩ | hs)
    · rw [hcharge hsettles a (List.mem_append_left _ ha)] at hunsettled
      cases hunsettled
    · cases hs

/-- The last attempt is in doubt, or the call ends with an exception of the language. -/
theorem Over.open (h : Over gateway answers answer saved attempts summary log) {failure : Failure}
    (he : ∀ e, failure = .gateway e → e.charge_ambiguous = true ∧ summary.charge_ambiguous = true)
    (hsaved : ∀ turn_id, saved ≠ some (.ok turn_id))
    (hsettles : gateway.settles (attempts.length + 1) (lastReceived answer saved) = false) :
    KeepsProtocol gateway (.error failure) log ↔ gateway.Regular (received log) := by
  rw [h.keepsProtocol_iff, h.regular_iff]
  refine iff_of_true ⟨⟨fun ⟨turn_id, hs⟩ => absurd hs (hsaved turn_id), fun ⟨_, hr⟩ => by cases hr⟩, ?_⟩
    ⟨fun _ _ _ turn_id _ hs => absurd hs (hsaved turn_id), fun hs => by rw [hsettles] at hs; cases hs⟩
  intro e hfailure
  obtain ⟨hflag, hsummary⟩ := he e (Except.error.inj hfailure)
  exact ⟨fun _ => .inr hsummary, fun _ => hflag⟩

theorem Over.kept {turn_id : UUID} (h : Over gateway answers answer (some (.ok turn_id)) attempts summary log)
    {status : ℕ} {retry_after : Option String} {payload : Value}
    (hanswer : answer = .response status retry_after (.json payload))
    (hresult : (∃ response, result = .ok response) ↔ fingerprint_fits payload = true)
    (herror : ∀ e, result ≠ .error (.gateway e)) : KeepsProtocol gateway result log ↔ gateway.Regular (received log) := by
  rw [h.keepsProtocol_iff, h.regular_iff]
  constructor
  · rintro ⟨hstored, -⟩
    have hfits := hresult.mp (hstored.mp ⟨turn_id, rfl⟩)
    refine ⟨fun status' retry_after' payload' _ heq _ => ?_, nofun⟩
    rw [hanswer] at heq
    simp only [PostAnswer.response.injEq, Body.json.injEq] at heq
    rwa [← heq.2.2]
  · rintro ⟨hfits, -⟩
    exact ⟨iff_of_true ⟨turn_id, rfl⟩ (hresult.mpr (hfits status retry_after payload turn_id hanswer rfl)),
      fun e he => absurd he (herror e)⟩

/-! ## The attempt in progress -/

/-- Between two attempts. -/
structure Ready (gateway : Gateway) (answers : List PostAnswer) (attempts : List ModelAttemptSummary)
    (log : GatewayLog) : Prop where
  tried : Tried gateway answers attempts
  less : attempts.length < gateway.retry.maximum_attempts
  log : Rounds answers none attempts log

/-- The answer to the post is here, and the attempt is not yet on record. -/
structure Posted (gateway : Gateway) (answers : List PostAnswer) (answer : PostAnswer)
    (attempts : List ModelAttemptSummary) (sent_at completed_at : Instant) (log : GatewayLog) : Prop where
  tried : Tried gateway answers attempts
  less : attempts.length < gateway.retry.maximum_attempts
  marked : marks log = rounds attempts.length ++ [.sent (attempts.length + 1), .posted]
  recorded : summaries log = attempts
  numbers : attempts.map ModelAttemptSummary.attempt_number = List.range' 1 attempts.length
  posted : posts log = attempts.length + 1
  answered : received log = (answers ++ [answer]).map .posted
  ordered : ClockForward log → sent_at ≤ completed_at

theorem Ready.posted (h : Ready gateway answers attempts log) (sent_at completed_at : Instant) (body : Value)
    (answer : PostAnswer) :
    Posted gateway answers answer attempts sent_at completed_at
      (log ++ [⟨.now, sent_at⟩] ++ [⟨.before_send (attempts.length + 1) sent_at, ()⟩] ++ [⟨.post body, answer⟩] ++
        [⟨.now, completed_at⟩]) := by
  refine ⟨h.tried, h.less, ?_, ?_, h.log.numbers, ?_, ?_, ?_⟩
  · simp only [marks_append, h.log.marked, List.append_assoc]
    rfl
  · simp only [summaries_append, h.log.recorded, List.append_assoc]
    exact List.append_nil _
  · simp only [posts_append, h.log.posted]
    rfl
  · simp only [received_append, h.log.answered, List.append_assoc, List.map_append]
    rfl
  · intro hclock
    unfold ClockForward at hclock
    simp only [ticks_append, List.append_assoc] at hclock
    have hticks : [sent_at, completed_at].Pairwise (· ≤ ·) := (List.pairwise_append.mp hclock).2.1
    exact (List.pairwise_cons.mp hticks).1 _ List.mem_cons_self

/-- The run is regular exactly if it keeps the protocol. -/
def Decided (gateway : Gateway) (result : Except Failure Completion) (log : GatewayLog) : Prop :=
  ClockForward log → (KeepsProtocol gateway result log ↔ gateway.Regular (received log))

namespace Posted

variable {sent_at completed_at : Instant}

end Posted

/-! ## After an attempt -/

namespace Over

theorem other (h : Over gateway answers answer saved attempts summary log) {e : Event Op Ans} (hmark : mark e = none)
    (hsummary : summary_of e = none) (hpost : isPost e = false) (hreceive : receive e = none) :
    Over gateway answers answer saved attempts summary (log ++ [e]) :=
  ⟨h.tried, h.less, h.status, h.log.other hmark hsummary hpost hreceive⟩

end Over

/-! ## One attempt -/

namespace Posted

variable {sent_at completed_at : Instant} {request : CompletionRequest}
  {retry : List ModelAttemptSummary → Call Completion}

end Posted

/-! ## The output of an attempt -/

theorem Over.save (h : Over gateway answers answer none attempts summary log) (turn : PrivateProviderTurn)
    (stored : Except StoreFailure UUID) :
    Over gateway answers answer (some stored) attempts summary (log ++ [⟨.save turn, stored⟩]) :=
  ⟨h.tried, h.less, h.status, h.log.save turn stored⟩

theorem Over.response (h : Over gateway answers answer saved attempts summary log) {usage : Usage}
    (houtcome : summary.outcome = .success) (husage : summary.usage = usage) :
    (1 ≤ (attempts ++ [summary]).length ∧ (attempts ++ [summary]).length ≤ 3) ∧
      (attempts ++ [summary]).map ModelAttemptSummary.attempt_number =
        List.range' 1 (attempts ++ [summary]).length ∧
      ∀ last ∈ (attempts ++ [summary]).getLast?, last.outcome = .success ∧ last.usage = usage := by
  refine ⟨?_, h.log.numbers, ?_⟩
  · have hless := h.less
    have hthree := gateway.retry.attempts_bound.2
    rw [List.length_append, List.length_singleton]
    omega
  · rw [List.getLast?_concat]
    rintro last ⟨⟩
    exact ⟨houtcome, husage⟩

namespace Posted

variable {sent_at completed_at : Instant} {request : CompletionRequest} {status : ℕ} {retry_after : Option String}

end Posted

/-! ## The loop -/

theorem Tried.nil : Tried gateway [] [] := by
  refine ⟨fun _ h => absurd h List.not_mem_nil, fun _ _ _ h => absurd h List.not_mem_nil, ?_⟩
  simp only [List.not_mem_nil, false_and, exists_false]

theorem Rounds.unsent (h : Rounds [] none [] log) {failure : Failure}
    (hsettled : ∀ e, failure = .gateway e → e.charge_ambiguous = false) :
    KeepsProtocol gateway (.error failure) log ↔ gateway.Regular (received log) := by
  have hreceived : received log = [] := h.answered
  rw [h.keepsProtocol_iff (Nat.zero_le _) fun _ h => absurd h List.not_mem_nil]
  refine iff_of_true ⟨iff_of_false (fun ⟨_, hs⟩ => nomatch hs) (fun ⟨_, hr⟩ => nomatch hr), ?_⟩ ⟨?_, ?_, ?_⟩
  · rintro e ⟨⟩
    rw [hsettled e rfl]
    exact iff_of_false nofun (fun ⟨_, hmem, _⟩ => nomatch hmem)
  · rw [hreceived]
    exact nofun
  · intro before status retry_after payload turn_id heq
    rw [hreceived] at heq
    exact absurd heq.symm (List.append_ne_nil_of_right_ne_nil _ (List.cons_ne_nil _ _))
  · rw [hreceived]
    exact nofun

end CommerceAgent.Model
