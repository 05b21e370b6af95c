import CommerceAgent.Model.Attempts

/-!
# A whole completion

When the protocol is kept, in terms of what came from outside.
-/

open CommerceAgent.Lib
open CommerceAgent.Operations (UUID Text Code HexDigest Checked)
open CommerceAgent.Orchestration

namespace CommerceAgent.Model

def sampleGateway : Gateway where
  library := sampleLibrary
  decimal _ := .invalid
  lax_int
    | .int n => some n
    | _ => none
  capability := {
    revision := ⟨"deepseek-1", by decide⟩
    requested_model := ⟨"model", by decide⟩
    response_model := ⟨"model", by decide⟩
    thinking_efforts := []
    tool_calling := true
    output_token_limit := 100 }
  retry := ⟨1, 1, 2, one_pos, one_pos, by decide⟩

def sampleRequest : CompletionRequest where
  run_scope := sampleScope .a bird_a
  attempt_id := 1
  sequence := 0
  hashes := ⟨HexDigest.ofNat 0, HexDigest.ofNat 0, HexDigest.ofNat 0, HexDigest.ofNat 0, HexDigest.ofNat 0⟩
  inference := .non_thinking 0 100
  messages := [⟨.user, ⟨"hello", by decide⟩⟩]
  history := []
  tools := []
  capability_revision := ⟨"deepseek-1", by decide⟩
  provider_user_id := "user"
  has_message := List.cons_ne_nil _ _

/-- No post gets through: the first fails as given, the others to connect. -/
def unreachable (connect : Bool) : Env Op Ans
  | _, .resolve _ => .error (.exception "OperationalError")
  | _, .now => (0 : ℤ)
  | _, .before_send .. => ()
  | log, .post _ => .transport_error (connect || 0 < posts log)
  | _, .after_attempt _ => ()
  | _, .jitter => (0 : ℚ)
  | _, .sleep _ => ()
  | _, .save _ => .error (.exception "OperationalError")

def failed (attempt_number : ℕ) (h : 1 ≤ attempt_number ∧ attempt_number ≤ 3) (connect : Bool) : ModelAttemptSummary where
  attempt_number := attempt_number
  sent_at := 0
  completed_at := 0
  outcome := .transport_error
  http_status := none
  retryable := true
  charge_ambiguous := !connect
  usage := Gateway.attempt_failed
  number_bound := h
  status_bound := fun _ h => nomatch h
  ordered := le_refl 0

end CommerceAgent.Model
