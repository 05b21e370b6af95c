import CommerceAgent.Lib.DecimalContext
import CommerceAgent.Lib.Numerals

/-!
# Sums of numerals

An addition signals at a signaling NaN, at infinities of both signs and at an overflow. A quiet NaN hides the infinities
behind it.
-/

namespace CommerceAgent.Lib

/-- The sum of the numbers in their order, each partial sum rounded to 28 digits. -/
def Decimal.roundedSum (values : List ℚ) : ℚ := values.foldl (fun total x => nearest (total + x)) 0

theorem Decimal.roundedSum_concat (values : List ℚ) (x : ℚ) :
    roundedSum (values ++ [x]) = nearest (roundedSum values + x) := by
  unfold roundedSum
  rw [List.foldl_append]
  rfl

namespace Numeral

/-- The traps of the default context that an addition can meet. -/
inductive Signal where
  | InvalidOperation
  | Overflow
  deriving DecidableEq

def isSignaling : Numeral → Bool
  | .nan _ signaling _ => signaling
  | _ => false

def isNan : Numeral → Bool
  | .nan .. => true
  | _ => false

def isFinite : Numeral → Bool
  | .finite .. => true
  | _ => false

def value (n : Numeral) : ℚ := n.decimal.value

theorem inLimits_of_inContext {negative : Bool} {c : ℕ} {e : ℤ} (h : (Decimal.finite negative c e).InContext) :
    inLimits c e = true := by
  obtain ⟨hlow, hhigh⟩ := h
  have htiny : Decimal.ETINY = -1000026 := rfl
  unfold inLimits
  rw [Bool.and_eq_true, decide_eq_true_iff, decide_eq_true_iff]
  exact ⟨by omega, hhigh.trans (by norm_num)⟩

/-- A decimal that is no infinity. -/
def ofDecimal : Decimal → Numeral
  | .finite negative coefficient exponent => .finite negative coefficient exponent
  | .special => .nan false false 0

/-- `a + b`. -/
def add (a b : Numeral) : Except Signal Numeral :=
  if a.isSignaling || b.isSignaling then .error .InvalidOperation
  else
    match a, b with
    | .nan negative _ payload, _ => .ok (.nan negative false (payload % 10 ^ 28))
    | _, .nan negative _ payload => .ok (.nan negative false (payload % 10 ^ 28))
    | .infinity negative, .infinity negative' =>
      if negative = negative' then .ok (.infinity negative) else .error .InvalidOperation
    | .infinity negative, .finite .. => .ok (.infinity negative)
    | .finite .., .infinity negative => .ok (.infinity negative)
    | .finite negative c e, .finite negative' d f =>
      match (Decimal.finite negative c e).add (.finite negative' d f) with
      | none => .error .Overflow
      | some sum => .ok (ofDecimal sum)

/-! ## What a sum tells of its terms -/

/-- An addition to the sum of some terms is an invalid operation. -/
def Invalid (terms : List Numeral) (a : Numeral) : Prop :=
  a.isSignaling = true ∨
    ∃ negative, a = .infinity negative ∧ .infinity (!negative) ∈ terms ∧ ∀ b ∈ terms, b.isNan = false

def Overflows (terms : List Numeral) (a : Numeral) : Prop :=
  (∀ b ∈ terms ++ [a], b.isFinite = true) ∧
    Decimal.OVERFLOW ≤ |Decimal.roundedSum (terms.map value) + a.value|

/-- The sum of the terms, if no addition signals. -/
def Sums (terms : List Numeral) : Numeral → Prop
  | .nan _ signaling _ => signaling = false ∧ ∃ b ∈ terms, b.isNan = true
  | .infinity negative =>
    .infinity negative ∈ terms ∧ .infinity (!negative) ∉ terms ∧ ∀ b ∈ terms, b.isNan = false
  | .finite negative c e =>
    (∀ b ∈ terms, b.isFinite = true) ∧ (Decimal.finite negative c e).value = Decimal.roundedSum (terms.map value) ∧
      (Decimal.finite negative c e).InContext

theorem sums_nil : Sums [] (.finite false 0 0) :=
  ⟨fun _ h => absurd h List.not_mem_nil, Decimal.value_zero, by decide, by decide⟩

variable {terms : List Numeral} {a : Numeral}

/-- The sum of what is added to no signal, or the signal. -/
structure Adds (terms : List Numeral) (total a : Numeral) : Prop where
  invalid : Invalid terms a → total.add a = .error .InvalidOperation
  overflow : Overflows terms a → total.add a = .error .Overflow
  sum : ¬ Invalid terms a → ¬ Overflows terms a → ∃ sum, total.add a = .ok sum ∧ Sums (terms ++ [a]) sum

theorem isNan_of_isFinite (h : a.isFinite = true) : a.isNan = false := by
  cases a with
  | finite => rfl
  | infinity => rfl
  | nan => cases h

theorem Overflows.not_invalid (h : Overflows terms a) : ¬ Invalid terms a := by
  have ha : a.isFinite = true := h.1 a (List.mem_append_right _ List.mem_cons_self)
  rintro (hsignaling | ⟨negative, rfl, -⟩)
  · cases a with
    | finite => cases hsignaling
    | infinity => cases hsignaling
    | nan => cases ha
  · cases ha

theorem not_overflows {b : Numeral} (hb : b ∈ terms ++ [a]) (h : b.isFinite = false) : ¬ Overflows terms a := by
  intro hover
  rw [hover.1 b hb] at h
  cases h

theorem adds_signaling (total : Numeral) (ha : a.isSignaling = true) : Adds terms total a := by
  have hadd : total.add a = .error .InvalidOperation := by
    unfold add
    rw [ha, Bool.or_true, if_pos rfl]
  exact ⟨fun _ => hadd, fun h => absurd (Or.inl ha) h.not_invalid, fun h => absurd (Or.inl ha) h⟩

theorem adds_sum {total : Numeral} (sum : Numeral) (hvalid : ¬ Invalid terms a) (hroom : ¬ Overflows terms a)
    (hadd : total.add a = .ok sum) (hsum : Sums (terms ++ [a]) sum) : Adds terms total a :=
  ⟨fun h => absurd h hvalid, fun h => absurd h hroom, fun _ _ => ⟨sum, hadd, hsum⟩⟩

theorem adds_nan {negative signaling : Bool} {payload : ℕ} (hsum : Sums terms (.nan negative signaling payload))
    (ha : a.isSignaling = false) : Adds terms (.nan negative signaling payload) a := by
  obtain ⟨rfl, b, hb, hnan⟩ := hsum
  have hb' : b ∈ terms ++ [a] := List.mem_append_left _ hb
  refine adds_sum (.nan negative false (payload % 10 ^ 28)) ?_ (not_overflows hb' ?_) ?_ ⟨rfl, b, hb', hnan⟩
  · rintro (h | ⟨-, -, -, hnone⟩)
    · rw [ha] at h
      cases h
    · rw [hnone b hb] at hnan
      cases hnan
  · cases b <;> first | rfl | cases hnan
  · unfold add
    rw [ha]
    rfl

theorem adds_term_nan {total : Numeral} {negative : Bool} {payload : ℕ} (htotal : total.isNan = false) :
    Adds terms total (.nan negative false payload) := by
  have hmem : Numeral.nan negative false payload ∈ terms ++ [.nan negative false payload] :=
    List.mem_append_right _ List.mem_cons_self
  refine adds_sum (.nan negative false (payload % 10 ^ 28)) ?_ (not_overflows hmem rfl) ?_ ⟨rfl, _, hmem, rfl⟩
  · rintro (h | ⟨_, h, -⟩) <;> cases h
  · cases total with
    | nan => cases htotal
    | infinity => rfl
    | finite => rfl

theorem adds_infinity {negative : Bool} (hsum : Sums terms (.infinity negative)) (ha : a.isSignaling = false) :
    Adds terms (.infinity negative) a := by
  obtain ⟨hmem, hother, hnone⟩ := hsum
  have hmem' : Numeral.infinity negative ∈ terms ++ [a] := List.mem_append_left _ hmem
  have hroom : ¬ Overflows terms a := not_overflows hmem' rfl
  cases a with
  | nan negative' signaling payload =>
    cases ha
    exact adds_term_nan rfl
  | finite negative' c e =>
    refine adds_sum (.infinity negative) ?_ hroom rfl ⟨hmem', ?_, ?_⟩
    · rintro (h | ⟨_, h, -⟩) <;> cases h
    · simpa using hother
    · exact List.forall_mem_append.mpr ⟨hnone, List.forall_mem_singleton.mpr rfl⟩
  | infinity negative' =>
    by_cases hsame : negative = negative'
    · subst hsame
      refine adds_sum (.infinity negative) ?_ hroom (if_pos rfl) ⟨hmem', ?_, ?_⟩
      · rintro (h | ⟨_, h, hin, -⟩)
        · cases h
        · cases h
          exact hother hin
      · simpa using hother
      · exact List.forall_mem_append.mpr ⟨hnone, List.forall_mem_singleton.mpr rfl⟩
    · have hsign : negative = !negative' := by
        cases negative <;> cases negative' <;> first | rfl | exact absurd rfl hsame
      have hinvalid : Invalid terms (.infinity negative') := Or.inr ⟨negative', rfl, hsign ▸ hmem, hnone⟩
      exact ⟨fun _ => if_neg hsame, fun h => absurd hinvalid h.not_invalid, fun h => absurd hinvalid h⟩

theorem adds_finite {negative : Bool} {c : ℕ} {e : ℤ} (hsum : Sums terms (.finite negative c e))
    (ha : a.isSignaling = false) : Adds terms (.finite negative c e) a := by
  obtain ⟨hfinite, hvalue, -⟩ := hsum
  have hnan : ∀ b ∈ terms, b.isNan = false := fun b hb => isNan_of_isFinite (hfinite b hb)
  have hinfinity (negative : Bool) : Numeral.infinity negative ∉ terms := fun hmem => by
    have := hfinite _ hmem
    cases this
  cases a with
  | nan negative' signaling payload =>
    cases ha
    exact adds_term_nan rfl
  | infinity negative' =>
    have hmem : Numeral.infinity negative' ∈ terms ++ [.infinity negative'] :=
      List.mem_append_right _ List.mem_cons_self
    refine adds_sum (.infinity negative') ?_ (not_overflows hmem rfl) rfl ⟨hmem, ?_, ?_⟩
    · rintro (h | ⟨_, h, hin, -⟩)
      · cases h
      · exact hinfinity _ hin
    · simpa using hinfinity _
    · exact List.forall_mem_append.mpr ⟨hnan, List.forall_mem_singleton.mpr rfl⟩
  | finite negative' d f =>
    have hvalid : ¬ Invalid terms (.finite negative' d f) := by
      rintro (h | ⟨_, h, -⟩) <;> cases h
    have hall : ∀ b ∈ terms ++ [.finite negative' d f], b.isFinite = true :=
      List.forall_mem_append.mpr ⟨hfinite, List.forall_mem_singleton.mpr rfl⟩
    have hrounds := Decimal.add_rounds (a := .finite negative c e) (b := .finite negative' d f) rfl rfl
    rw [hvalue] at hrounds
    have hadd : (Numeral.finite negative c e).add (.finite negative' d f) =
        match (Decimal.finite negative c e).add (.finite negative' d f) with
        | none => .error .Overflow
        | some sum => .ok (ofDecimal sum) := rfl
    rw [show (Decimal.finite negative' d f).value = (Numeral.finite negative' d f).value from rfl] at hrounds
    cases hresult : (Decimal.finite negative c e).add (.finite negative' d f) with
    | none =>
      rw [hresult] at hadd
      have hover : Overflows terms (.finite negative' d f) := ⟨hall, hrounds.raises.mp hresult⟩
      exact ⟨fun h => absurd h hvalid, fun _ => hadd, fun _ h => absurd hover h⟩
    | some sum =>
      rw [hresult] at hadd
      obtain ⟨hsumFinite, hsumValue⟩ := hrounds.value sum hresult
      refine adds_sum _ hvalid (fun hover => ?_) hadd ?_
      · rw [hrounds.raises.mpr hover.2] at hresult
        cases hresult
      · cases sum with
        | special => cases hsumFinite
        | finite =>
          refine ⟨hall, ?_, Decimal.add_inContext hresult⟩
          rw [List.map_append, List.map_singleton, Decimal.roundedSum_concat]
          exact hsumValue

/-- **An addition signals exactly at an invalid operation and at an overflow, and else gives the sum.** -/
theorem add_adds {total : Numeral} (hsum : Sums terms total) : Adds terms total a := by
  cases ha : a.isSignaling with
  | true => exact adds_signaling total ha
  | false =>
    cases total with
    | nan => exact adds_nan hsum ha
    | infinity => exact adds_infinity hsum ha
    | finite => exact adds_finite hsum ha

end Numeral

end CommerceAgent.Lib
