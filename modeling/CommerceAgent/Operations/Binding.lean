import CommerceAgent.Operations.Canonical

/-!
# What a payload digest stands for

An approval and an idempotency key are bound to the canonical bytes of a command. They
stand for one command, except that commands which agree as written share their bytes.
-/

open CommerceAgent.Lib

namespace CommerceAgent.Operations

variable (crypto : Crypto)

/-- Two commands with the same canonical bytes are the same command. -/
def BindsCommand (c₁ c₂ : OperationCommand) (v₁ v₂ : TargetVersions) : Prop :=
  ∀ p₁ p₂, canonical_command crypto c₁ v₁ = .ok p₁ → canonical_command crypto c₂ v₂ = .ok p₂ →
    p₁.canonical_bytes = p₂.canonical_bytes → c₁.same c₂ ∧ v₁ = v₂

theorem same_canonical_bytes_iff {c₁ c₂ : OperationCommand} {v₁ v₂ : TargetVersions} {p₁ p₂ : CanonicalPayload}
    (h₁ : canonical_command crypto c₁ v₁ = .ok p₁) (h₂ : canonical_command crypto c₂ v₂ = .ok p₂) :
    p₁.canonical_bytes = p₂.canonical_bytes ↔ v₁ = v₂ ∧ c₁.agreeAsWritten c₂ := by
  rw [canonical_command_ok] at h₁ h₂
  injection h₁ with h₁
  injection h₂ with h₂
  rw [← h₁, ← h₂]
  exact canonical_bytes_inj

/-- The payload binds two commands exactly when they do not differ in the part of a
second, or behind the fourth decimal place, alone. -/
theorem canonical_command_binds_iff (c₁ c₂ : OperationCommand) (v₁ v₂ : TargetVersions) :
    BindsCommand crypto c₁ c₂ v₁ v₂ ↔ (v₁ = v₂ → c₁.agreeAsWritten c₂ → c₁.same c₂) := by
  constructor
  · intro h hv hc
    have hbytes := (same_canonical_bytes_iff crypto (canonical_command_ok crypto c₁ v₁)
      (canonical_command_ok crypto c₂ v₂)).mpr ⟨hv, hc⟩
    exact (h _ _ (canonical_command_ok ..) (canonical_command_ok ..) hbytes).1
  · intro h p₁ p₂ h₁ h₂ hbytes
    obtain ⟨hv, hc⟩ := (same_canonical_bytes_iff crypto h₁ h₂).mp hbytes
    exact ⟨h hv hc, hv⟩

/-! ## Two rules with one payload -/

/-- Hashes and identifiers that are all the same. -/
def sampleCrypto : Crypto := ⟨fun _ => HexDigest.ofNat 0, fun _ _ => HexDigest.ofNat 0, fun _ => 0, fun _ => 0⟩

theorem query_kind : matchesPattern lowerCase nameChar 1 63 "query" = true := by decide

def sampleSource : Text 1 256 := ⟨"q1", by decide⟩

def sampleEvidence : EvidenceRefs where
  items := [{ kind := ⟨"query", query_kind⟩, ref := sampleSource, digest := HexDigest.ofNat 1 }]
  size := by decide
  unique := by decide

/-- A metric alert rule with the given threshold. -/
def sampleRule (threshold : Decimal) (h : validate_finite_decimal threshold) : OperationCommand where
  command := .create_and_enable_metric_alert_rule
    { alert_backtest_ref := ⟨1, HexDigest.ofNat 2⟩
      metric_ref := ⟨⟨"late_delivery_rate", by decide⟩, ⟨"r1", by decide⟩⟩
      grain := ⟨"seller", by decide⟩
      window := .week
      comparator := .greater_than
      threshold := threshold
      minimum_denominator := 1
      filter_refs := ⟨[], by decide, by decide⟩
      evidence_refs := sampleEvidence
      minimum := by decide }
  valid := h

def newRule : TargetVersions := ⟨[("metric_alert_rule", 0)], rule_sorted⟩

/-- A rule at 0.500001 and a rule at 0.500002 have one payload. -/
theorem canonical_command_merges :
    ¬ ∀ (crypto : Crypto) (c₁ c₂ : OperationCommand) (v₁ v₂ : TargetVersions),
      BindsCommand crypto c₁ c₂ v₁ v₂ := by
  intro h
  let low := sampleRule (.finite false 500001 (-6)) (by decide)
  let high := sampleRule (.finite false 500002 (-6)) (by decide)
  have hbytes := (same_canonical_bytes_iff sampleCrypto (canonical_command_ok sampleCrypto low newRule)
    (canonical_command_ok sampleCrypto high newRule)).mpr ⟨rfl, by decide⟩
  have hsame := (h sampleCrypto low high newRule newRule _ _ (canonical_command_ok ..) (canonical_command_ok ..) hbytes).1
  simp [low, high, OperationCommand.same, sampleRule, Command.map, Decimal.value, Decimal.num, Decimal.den] at hsame

end CommerceAgent.Operations
