import CommerceAgent.Lib.DecimalContext
import CommerceAgent.Lib.Numerals
import CommerceAgent.Model.Gateway

/-!
# Retry decisions

`RetryPolicy.decision` in the arithmetic of the decimal context. `unicode` reads the characters of a header that are
not ASCII.
-/

open CommerceAgent.Lib

namespace CommerceAgent.Retry

inductive Raised where
  | InvalidOperation
  | Overflow
  | ValidationError
  deriving DecidableEq, Repr

structure RetryDecision where
  should_retry : Bool
  delay_seconds : Decimal
  finite : delay_seconds.isFinite = true
  nonneg : 0 ≤ delay_seconds.value

/-- `RetryDecision(should_retry=..., delay_seconds=...)`. -/
def RetryDecision.build (should_retry : Bool) (delay_seconds : Decimal) : Except Raised RetryDecision :=
  if h : delay_seconds.isFinite = true ∧ 0 ≤ delay_seconds.value then .ok ⟨should_retry, delay_seconds, h.1, h.2⟩
  else .error .ValidationError

structure RetryPolicy where
  base_delay_seconds : Decimal
  maximum_delay_seconds : Decimal
  maximum_attempts : ℕ
  base_finite : base_delay_seconds.isFinite = true
  base_positive : 0 < base_delay_seconds.value
  maximum_finite : maximum_delay_seconds.isFinite = true
  maximum_positive : 0 < maximum_delay_seconds.value
  attempts_bound : 1 ≤ maximum_attempts ∧ maximum_attempts ≤ 3

/-- A decimal that is neither infinite nor a NaN. -/
abbrev FiniteDecimal := {d : Decimal // d.isFinite = true}

/-! ## The decision -/

/-- `parsed >= 0`. -/
def at_least_zero : Numeral → Except Raised Bool
  | .finite negative coefficient exponent => .ok (0 ≤ (Decimal.finite negative coefficient exponent).value)
  | .infinity negative => .ok (!negative)
  | .nan .. => .error .InvalidOperation

/-- The delay that the header asks for. -/
def requested (unicode : Char → Option Char) : Option String → Except Raised (Option Decimal)
  | none => .ok none
  | some retry_after => do
    let parsed := (Numeral.read unicode retry_after).getD (.finite true 1 0)
    let nonnegative ← at_least_zero parsed
    .ok (if nonnegative && parsed.decimal.isFinite then some parsed.decimal else none)

/-- `Decimal(2) ** exponent`, of no more than 28 digits. -/
def power_of_two (exponent : ℕ) : Decimal := .finite false (2 ^ exponent) 0

/-- `max(a, b)`. -/
def larger (a b : Decimal) : Decimal := if a.value < b.value then b else a

/-- `min(a, b)`. -/
def smaller (a b : Decimal) : Decimal := if b.value < a.value then b else a

/-- A result of the context. -/
def arithmetic : Option Decimal → Except Raised Decimal
  | some d => .ok d
  | none => .error .Overflow

namespace RetryPolicy

variable (policy : RetryPolicy) (unicode : Char → Option Char)

def backoff (attempt_number : ℕ+) (jitter : FiniteDecimal) : Except Raised Decimal := do
  let delay ← arithmetic (policy.base_delay_seconds.mul (power_of_two (attempt_number - 1)))
  arithmetic (delay.add (larger .zero jitter))

def decision (attempt_number : ℕ+) (retry_after : Option String) (jitter : FiniteDecimal) :
    Except Raised RetryDecision :=
  if policy.maximum_attempts ≤ attempt_number then RetryDecision.build false .zero
  else do
    let delay ← match ← requested unicode retry_after with
      | some delay => .ok delay
      | none => policy.backoff attempt_number jitter
    RetryDecision.build true (smaller delay policy.maximum_delay_seconds)

end RetryPolicy

/-! ## Headers -/

variable {unicode : Char → Option Char}

/-- The header is a finite decimal that is not negative. -/
def Finite (unicode : Char → Option Char) (retry_after : String) : Prop :=
  ∃ negative coefficient exponent, Numeral.read unicode retry_after = some (.finite negative coefficient exponent) ∧
    0 ≤ (Decimal.finite negative coefficient exponent).value

/-- The header is a NaN, with or without a payload. -/
def NotANumber (unicode : Char → Option Char) (retry_after : String) : Prop :=
  ∃ negative signaling payload, Numeral.read unicode retry_after = some (.nan negative signaling payload)

theorem requested_of_finite {retry_after : String} (h : Finite unicode retry_after) :
    ∃ delay, requested unicode (some retry_after) = .ok (some delay) ∧ delay.isFinite = true ∧ 0 ≤ delay.value := by
  obtain ⟨negative, coefficient, exponent, hread, hnonneg⟩ := h
  refine ⟨.finite negative coefficient exponent, ?_, rfl, hnonneg⟩
  unfold requested
  dsimp only
  rw [hread]
  simp [at_least_zero, hnonneg, Numeral.decimal, Decimal.isFinite, bind, Except.bind]

theorem requested_of_nan {retry_after : String} (h : NotANumber unicode retry_after) :
    requested unicode (some retry_after) = .error .InvalidOperation := by
  obtain ⟨negative, signaling, payload, hread⟩ := h
  unfold requested
  dsimp only
  rw [hread]
  rfl

theorem requested_of_other {retry_after : String} (hfinite : ¬ Finite unicode retry_after)
    (hnan : ¬ NotANumber unicode retry_after) : requested unicode (some retry_after) = .ok none := by
  unfold requested
  dsimp only
  cases hread : Numeral.read unicode retry_after with
  | none => simp [at_least_zero, Decimal.value, Decimal.num, Decimal.den, bind, Except.bind]
  | some parsed =>
    cases parsed with
    | finite negative coefficient exponent =>
      have hnegative : ¬ 0 ≤ (Decimal.finite negative coefficient exponent).value :=
        fun h => hfinite ⟨negative, coefficient, exponent, hread, h⟩
      simp [at_least_zero, hnegative, bind, Except.bind]
    | infinity negative => simp [at_least_zero, Numeral.decimal, Decimal.isFinite, bind, Except.bind]
    | nan negative signaling payload => exact absurd ⟨negative, signaling, payload, hread⟩ hnan

/-! ## Back-off -/

theorem larger_zero (jitter : FiniteDecimal) :
    (larger .zero jitter).isFinite = true ∧ (larger .zero jitter).value = max 0 jitter.1.value := by
  unfold larger
  rw [Decimal.value_zero]
  split_ifs with h
  · exact ⟨jitter.2, (max_eq_right h.le).symm⟩
  · exact ⟨rfl, by rw [Decimal.value_zero, max_eq_left (not_lt.mp h)]⟩

theorem value_power_of_two (exponent : ℕ) : (power_of_two exponent).value = 2 ^ exponent := by
  unfold power_of_two
  rw [Decimal.value_finite]
  simp

theorem smaller_spec {a b : Decimal} (ha : a.isFinite = true) (hb : b.isFinite = true) :
    (smaller a b).isFinite = true ∧ (smaller a b).value = min a.value b.value := by
  unfold smaller
  split_ifs with h
  · exact ⟨hb, (min_eq_right h.le).symm⟩
  · exact ⟨ha, (min_eq_left (not_lt.mp h)).symm⟩

namespace RetryPolicy

variable (policy : RetryPolicy)

def exponential (attempt_number : ℕ+) : ℚ := policy.base_delay_seconds.value * 2 ^ (attempt_number - 1 : ℕ)

/-- Neither the product nor the sum of the back-off overflows. -/
structure Held (attempt_number : ℕ+) (jitter : FiniteDecimal) : Prop where
  product : policy.exponential attempt_number < Decimal.OVERFLOW
  sum : Decimal.nearest (policy.exponential attempt_number) + max 0 jitter.1.value < Decimal.OVERFLOW

theorem exponential_pos (attempt_number : ℕ+) : 0 < policy.exponential attempt_number :=
  mul_pos policy.base_positive (by positivity)

/-- The back-off is a finite number that is not negative, unless it overflows. -/
theorem backoff_cases (attempt_number : ℕ+) (jitter : FiniteDecimal) :
    (¬ policy.Held attempt_number jitter ∧ policy.backoff attempt_number jitter = .error .Overflow) ∨
      (policy.Held attempt_number jitter ∧ ∃ delay, policy.backoff attempt_number jitter = .ok delay ∧
        delay.isFinite = true ∧ 0 ≤ delay.value ∧ delay.value =
          Decimal.nearest (Decimal.nearest (policy.exponential attempt_number) + max 0 jitter.1.value)) := by
  have hproduct := Decimal.mul_rounds policy.base_finite (b := power_of_two (attempt_number - 1)) rfl
  have hpos := (policy.exponential_pos attempt_number).le
  have hnearest := Decimal.nearest_nonneg hpos
  have hexact : policy.base_delay_seconds.value * (power_of_two (attempt_number - 1)).value =
      policy.exponential attempt_number := by
    rw [value_power_of_two]
    rfl
  rw [hexact] at hproduct
  obtain ⟨hjitter, hvalue⟩ := larger_zero jitter
  unfold backoff
  cases hmul : policy.base_delay_seconds.mul (power_of_two (attempt_number - 1)) with
  | none =>
    have hover := hproduct.raises.mp hmul
    rw [abs_of_nonneg hpos] at hover
    exact Or.inl ⟨fun h => absurd h.product (not_lt.mpr hover), rfl⟩
  | some delay =>
    have hroom : policy.exponential attempt_number < Decimal.OVERFLOW := by
      rw [← abs_of_nonneg hpos, ← not_le, ← hproduct.raises, hmul]
      exact Option.some_ne_none delay
    obtain ⟨hdelay, hdelayValue⟩ := hproduct.value delay hmul
    have hsum := Decimal.add_rounds hdelay hjitter
    rw [hdelayValue, hvalue] at hsum
    have htotal : 0 ≤ Decimal.nearest (policy.exponential attempt_number) + max 0 jitter.1.value :=
      add_nonneg hnearest (le_max_left 0 _)
    change (_ ∧ arithmetic (delay.add (larger .zero jitter)) = _) ∨ (_ ∧ ∃ result,
      arithmetic (delay.add (larger .zero jitter)) = _ ∧ _)
    cases hadd : delay.add (larger .zero jitter) with
    | none =>
      have hover := hsum.raises.mp hadd
      rw [abs_of_nonneg htotal] at hover
      exact Or.inl ⟨fun h => absurd h.sum (not_lt.mpr hover), rfl⟩
    | some result =>
      obtain ⟨hresult, hresultValue⟩ := hsum.value result hadd
      refine Or.inr ⟨⟨hroom, ?_⟩, result, rfl, hresult, ?_, hresultValue⟩
      · rw [← abs_of_nonneg htotal, ← not_le, ← hsum.raises, hadd]
        exact Option.some_ne_none result
      · rw [hresultValue]
        exact Decimal.nearest_nonneg htotal

/-! ## Every decision -/

variable (unicode : Char → Option Char)

/-- What a caller relies on. -/
structure Sound (attempt_number : ℕ+) (retry_after : Option String) (jitter : FiniteDecimal)
    (decided : RetryDecision) : Prop where
  retries : decided.should_retry = true ↔ attempt_number < policy.maximum_attempts
  bounded : decided.should_retry = true →
    0 ≤ decided.delay_seconds.value ∧ decided.delay_seconds.value ≤ policy.maximum_delay_seconds.value
  /-- A header that is not a finite decimal from 0 is as good as none. -/
  passed_over : (∀ header, retry_after = some header → ¬ Finite unicode header) →
    policy.decision unicode attempt_number none jitter = .ok decided

/-- The decision is made, and is sound. -/
def Correct (attempt_number : ℕ+) (retry_after : Option String) (jitter : FiniteDecimal) : Prop :=
  ∃ decided, policy.decision unicode attempt_number retry_after jitter = .ok decided ∧
    policy.Sound unicode attempt_number retry_after jitter decided

variable {policy unicode} {attempt_number : ℕ+} {retry_after : Option String} {jitter : FiniteDecimal}

theorem decision_last (unicode : Char → Option Char) (jitter : FiniteDecimal)
    (h : policy.maximum_attempts ≤ attempt_number) :
    ∃ decided, decided.should_retry = false ∧
      ∀ retry_after, policy.decision unicode attempt_number retry_after jitter = .ok decided := by
  refine ⟨⟨false, .zero, rfl, Decimal.value_zero.ge⟩, rfl, fun retry_after => ?_⟩
  unfold decision
  rw [if_pos h]
  exact dif_pos ⟨rfl, Decimal.value_zero.ge⟩

theorem decision_of_delay (jitter : FiniteDecimal) (h : attempt_number < policy.maximum_attempts) {delay : Decimal}
    (hfinite : delay.isFinite = true) (hnonneg : 0 ≤ delay.value)
    (hdelay : requested unicode retry_after = .ok (some delay) ∨
      (requested unicode retry_after = .ok none ∧ policy.backoff attempt_number jitter = .ok delay)) :
    ∃ decided, policy.decision unicode attempt_number retry_after jitter = .ok decided ∧ decided.should_retry = true ∧
      decided.delay_seconds.value = min delay.value policy.maximum_delay_seconds.value := by
  obtain ⟨hsmaller, hvalue⟩ := smaller_spec hfinite policy.maximum_finite
  have hfits : 0 ≤ (smaller delay policy.maximum_delay_seconds).value := by
    rw [hvalue]
    exact le_min hnonneg policy.maximum_positive.le
  refine ⟨⟨true, _, hsmaller, hfits⟩, ?_, rfl, hvalue⟩
  have hbuild : RetryDecision.build true
    (smaller delay policy.maximum_delay_seconds) = .ok ⟨true, _, hsmaller, hfits⟩ :=
    dif_pos ⟨hsmaller, hfits⟩
  unfold decision
  rw [if_neg (not_le.mpr h)]
  rcases hdelay with hdelay | ⟨hnone, hdelay⟩
  · rw [hdelay]
    exact hbuild
  · rw [hnone]
    change (policy.backoff attempt_number jitter >>= fun delay =>
      RetryDecision.build true (smaller delay policy.maximum_delay_seconds)) = _
    rw [hdelay]
    exact hbuild

theorem decision_of_error {raised : Raised} (h : attempt_number < policy.maximum_attempts)
    (herror : requested unicode retry_after = .error raised ∨
      (requested unicode retry_after = .ok none ∧ policy.backoff attempt_number jitter = .error raised)) :
    policy.decision unicode attempt_number retry_after jitter = .error raised := by
  unfold decision
  rw [if_neg (not_le.mpr h)]
  rcases herror with herror | ⟨hnone, herror⟩
  · rw [herror]
    rfl
  · rw [hnone]
    change (policy.backoff attempt_number jitter >>= fun delay =>
      RetryDecision.build true (smaller delay policy.maximum_delay_seconds)) = _
    rw [herror]
    rfl

theorem decision_congr {other : Option String} (h : requested unicode retry_after = requested unicode other) :
    policy.decision unicode attempt_number retry_after jitter =
      policy.decision unicode attempt_number other jitter := by
  unfold decision
  rw [h]

/-- No more attempts are due, or the header gives the delay, or the header is not a NaN and the back-off fits. -/
def Meets (policy : RetryPolicy) (unicode : Char → Option Char) (attempt_number : ℕ+) (retry_after : Option String)
    (jitter : FiniteDecimal) : Prop :=
  policy.maximum_attempts ≤ attempt_number ∨ (∃ header, retry_after = some header ∧ Finite unicode header) ∨
    ((∀ header, retry_after = some header → ¬ NotANumber unicode header) ∧ policy.Held attempt_number jitter)

theorem Sound.of_delay {decided : RetryDecision} {delay : ℚ} (h : attempt_number < policy.maximum_attempts)
    (hretry : decided.should_retry = true)
    (hdelay : decided.delay_seconds.value = min delay policy.maximum_delay_seconds.value)
    (hpassed : (∀ header, retry_after = some header → ¬ Finite unicode header) →
      policy.decision unicode attempt_number none jitter = .ok decided) :
    policy.Sound unicode attempt_number retry_after jitter decided where
  retries := iff_of_true hretry h
  bounded _ := ⟨decided.nonneg, hdelay ▸ min_le_right _ _⟩
  passed_over := hpassed

theorem correct_of_passed_over (h : attempt_number < policy.maximum_attempts)
    (hnone : requested unicode retry_after = .ok none) :
    policy.Correct unicode attempt_number retry_after jitter ↔ policy.Held attempt_number jitter := by
  have hsame : policy.decision unicode attempt_number retry_after jitter =
      policy.decision unicode attempt_number none jitter := decision_congr hnone
  rcases policy.backoff_cases attempt_number jitter with ⟨hover, herror⟩ | ⟨hheld, delay, hbackoff, hfinite, hnonneg, -⟩
  · refine iff_of_false ?_ hover
    rintro ⟨decided, hdecided, -⟩
    rw [decision_of_error h (Or.inr ⟨hnone, herror⟩)] at hdecided
    cases hdecided
  · obtain ⟨decided, hdecided, hretry, hdelay⟩ := decision_of_delay jitter h hfinite hnonneg (Or.inr ⟨hnone, hbackoff⟩)
    exact iff_of_true ⟨decided, hdecided, .of_delay h hretry hdelay fun _ => hsame.symm.trans hdecided⟩ hheld

/-- The decision is sound except for a header that is a NaN and a back-off that overflows. -/
theorem decision_correct (policy : RetryPolicy) (unicode : Char → Option Char) (attempt_number : ℕ+)
    (retry_after : Option String) (jitter : FiniteDecimal) :
    policy.Correct unicode attempt_number retry_after jitter ↔
      policy.Meets unicode attempt_number retry_after jitter := by
  unfold Meets
  rcases le_or_gt policy.maximum_attempts (attempt_number : ℕ) with hlast | hmore
  · obtain ⟨decided, hretry, hdecided⟩ := decision_last unicode jitter hlast
    refine iff_of_true ⟨decided, hdecided retry_after, ?_, ?_, fun _ => hdecided none⟩ (Or.inl hlast)
    · exact iff_of_false (by simp [hretry]) (not_lt.mpr hlast)
    · simp [hretry]
  · rw [or_iff_right (not_le.mpr hmore)]
    cases retry_after with
    | none =>
      rw [correct_of_passed_over hmore rfl]
      simp
    | some header =>
      simp only [Option.some.injEq, exists_eq_left', forall_eq']
      by_cases hfinite : Finite unicode header
      · obtain ⟨delay, hrequested, hdelay, hnonneg⟩ := requested_of_finite hfinite
        obtain ⟨decided, hdecided, hretry, hvalue⟩ := decision_of_delay jitter hmore hdelay hnonneg (Or.inl hrequested)
        refine iff_of_true ⟨decided, hdecided, .of_delay hmore hretry hvalue fun hother => ?_⟩ (Or.inl hfinite)
        exact absurd hfinite (hother header rfl)
      · rw [or_iff_right hfinite]
        by_cases hnan : NotANumber unicode header
        · refine iff_of_false ?_ fun h => h.1 hnan
          rintro ⟨decided, hdecided, -⟩
          rw [decision_of_error hmore (Or.inl (requested_of_nan hnan))] at hdecided
          cases hdecided
        · rw [correct_of_passed_over hmore (requested_of_other hfinite hnan)]
          exact (and_iff_right hnan).symm

/-- `RetryPolicy()`. -/
def standard : RetryPolicy where
  base_delay_seconds := .finite false 5 (-1)
  maximum_delay_seconds := .finite false 30 0
  maximum_attempts := 3
  base_finite := rfl
  base_positive := by
    rw [Decimal.value_finite]
    norm_num
  maximum_finite := rfl
  maximum_positive := by
    rw [Decimal.value_finite]
    norm_num
  attempts_bound := by decide

/-- The comparison with a NaN is outside of the `try`. -/
theorem nan_raises : standard.decision (fun _ => none) 1 (some "NaN") ⟨.zero, rfl⟩ = .error .InvalidOperation ∧
    ¬ standard.Correct (fun _ => none) 1 (some "NaN") ⟨.zero, rfl⟩ := by
  have hread : Numeral.read (fun _ => none) "NaN" = some (.nan false false 0) := by decide +kernel
  have herror : standard.decision (fun _ => none) 1 (some "NaN") ⟨.zero, rfl⟩ = .error .InvalidOperation :=
    decision_of_error (by decide) (Or.inl (requested_of_nan ⟨false, false, 0, hread⟩))
  refine ⟨herror, ?_⟩
  rintro ⟨decided, hdecided, -⟩
  cases herror.symm.trans hdecided

/-! ## The gateway -/

/-- The policy of a gateway that reckons in rationals. -/
def rational (policy : RetryPolicy) : Model.RetryPolicy where
  base_delay_seconds := policy.base_delay_seconds.value
  maximum_delay_seconds := policy.maximum_delay_seconds.value
  maximum_attempts := policy.maximum_attempts
  base_positive := policy.base_positive
  maximum_positive := policy.maximum_positive
  attempts_bound := policy.attempts_bound

/-- What a gateway makes of a numeral. -/
def parsed : Option Numeral → Model.ParsedDecimal
  | none => .invalid
  | some (.nan ..) => .nan
  | some (.infinity _) => .infinite
  | some (.finite negative coefficient exponent) => .finite (Decimal.finite negative coefficient exponent).value

/-- The answer of a decision to a gateway. -/
def answer : Except Raised RetryDecision → Except Model.Failure (Option ℚ)
  | .error _ => .error (.exception "InvalidOperation")
  | .ok decided => .ok (if decided.should_retry then some decided.delay_seconds.value else none)

theorem answer_of_delay (jitter : FiniteDecimal) (h : attempt_number < policy.maximum_attempts) {delay : Decimal}
    (hfinite : delay.isFinite = true) (hnonneg : 0 ≤ delay.value)
    (hdelay : requested unicode retry_after = .ok (some delay) ∨
      (requested unicode retry_after = .ok none ∧ policy.backoff attempt_number jitter = .ok delay)) :
    answer (policy.decision unicode attempt_number retry_after jitter) =
      .ok (some (min delay.value policy.maximum_delay_seconds.value)) := by
  obtain ⟨decided, hdecided, hretry, hvalue⟩ := decision_of_delay jitter h hfinite hnonneg hdelay
  rw [hdecided, ← hvalue]
  exact congrArg Except.ok (if_pos hretry)

/-- Where nothing is rounded the gateway decides like the policy. -/
theorem gateway_decision {gateway : Model.Gateway} (hpolicy : gateway.retry = policy.rational)
    (hdecimal : ∀ text, gateway.decimal text = parsed (Numeral.read unicode text))
    (hproduct : Decimal.Representable (policy.exponential attempt_number))
    (hsum : Decimal.Representable (policy.exponential attempt_number + max 0 jitter.1.value)) :
    gateway.decision attempt_number retry_after jitter.1.value =
      answer (policy.decision unicode attempt_number retry_after jitter) := by
  have hpos := (policy.exponential_pos attempt_number).le
  obtain ⟨hroom, hsame⟩ := Decimal.nearest_exact hproduct
  obtain ⟨hroomSum, hsameSum⟩ := Decimal.nearest_exact hsum
  rw [abs_of_nonneg hpos] at hroom
  rw [abs_of_nonneg (add_nonneg hpos (le_max_left 0 _))] at hroomSum
  obtain ⟨delay, hbackoff, hfinite, hnonneg, hvalue⟩ : ∃ delay, policy.backoff attempt_number jitter = .ok delay ∧
      delay.isFinite = true ∧ 0 ≤ delay.value ∧
        delay.value = policy.exponential attempt_number + max 0 jitter.1.value := by
    rcases policy.backoff_cases attempt_number jitter with ⟨hover, -⟩ | ⟨-, delay, h, hfinite, hnonneg, hvalue⟩
    · exact absurd ⟨hroom, by rwa [hsame]⟩ hover
    · exact ⟨delay, h, hfinite, hnonneg, by rw [hvalue, hsame, hsameSum]⟩
  unfold Model.Gateway.decision
  rw [hpolicy]
  rcases le_or_gt policy.maximum_attempts (attempt_number : ℕ) with hlast | hmore
  · obtain ⟨decided, hretry, hdecided⟩ := decision_last unicode jitter hlast
    rw [hdecided retry_after]
    exact (if_pos hlast).trans (congrArg Except.ok (if_neg (by simp [hretry])).symm)
  · refine (if_neg (not_le.mpr hmore)).trans ?_
    -- the delay of a header that is passed over
    have hpassed (header : Option String) (h : requested unicode header = .ok none) :
        answer (policy.decision unicode attempt_number header jitter) = .ok (some (min
          (policy.exponential attempt_number + max 0 jitter.1.value) policy.maximum_delay_seconds.value)) := by
      rw [← hvalue]
      exact answer_of_delay jitter hmore hfinite hnonneg (Or.inr ⟨h, hbackoff⟩)
    cases retry_after with
    | none => exact (hpassed none rfl).symm
    | some header =>
      rw [Option.map_some, hdecimal]
      by_cases hnumber : Finite unicode header
      · obtain ⟨requestedDelay, hrequested, hrequestedFinite, hrequestedNonneg⟩ := requested_of_finite hnumber
        rw [answer_of_delay jitter hmore hrequestedFinite hrequestedNonneg (Or.inl hrequested)]
        obtain ⟨negative, coefficient, exponent, hread, hzero⟩ := hnumber
        obtain rfl : Decimal.finite negative coefficient exponent = requestedDelay := by
          unfold requested at hrequested
          dsimp only at hrequested
          rw [hread] at hrequested
          simpa [at_least_zero, hzero, Numeral.decimal, Decimal.isFinite, bind, Except.bind] using hrequested
        rw [hread]
        exact congrArg (fun delay => Except.ok (some (min delay policy.maximum_delay_seconds.value))) (if_pos hzero)
      · by_cases hnan : NotANumber unicode header
        · rw [decision_of_error hmore (Or.inl (requested_of_nan hnan))]
          obtain ⟨negative, signaling, payload, hread⟩ := hnan
          rw [hread]
          rfl
        · rw [hpassed (some header) (requested_of_other hnumber hnan)]
          cases hread : Numeral.read unicode header with
          | none => rfl
          | some numeral =>
            cases numeral with
            | finite negative coefficient exponent =>
              have hnegative : ¬ 0 ≤ (Decimal.finite negative coefficient exponent).value :=
                fun h => hnumber ⟨negative, coefficient, exponent, hread, h⟩
              exact congrArg (fun delay => Except.ok (some (min delay policy.maximum_delay_seconds.value)))
                (if_neg hnegative)
            | infinity negative => rfl
            | nan negative signaling payload => exact absurd ⟨negative, signaling, payload, hread⟩ hnan

end RetryPolicy

end CommerceAgent.Retry
