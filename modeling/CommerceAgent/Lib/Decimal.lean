import CommerceAgent.Lib.Text
import Mathlib.Algebra.Order.Field.Rat
import Mathlib.Algebra.Order.Field.Basic
import Mathlib.Tactic.FieldSimp
import Mathlib.Tactic.Positivity

/-!
# Decimal numbers

A number is a sign, a coefficient and an exponent, so one value has many forms.
`quantize` rounds half to even, and `fixedPoint` is the text with a fixed number of places.
-/

namespace CommerceAgent.Lib

inductive Decimal where
  | finite (negative : Bool) (coefficient : ℕ) (exponent : ℤ)
  | special
  deriving DecidableEq, Repr

namespace Decimal

/-! ## Value -/

def num : Decimal → ℤ
  | .finite negative coefficient exponent =>
    (if negative then -1 else 1) * (coefficient * 10 ^ exponent.toNat : ℕ)
  | .special => 0

def den : Decimal → ℕ
  | .finite _ _ exponent => 10 ^ (-exponent).toNat
  | .special => 1

def isFinite : Decimal → Bool
  | .finite .. => true
  | .special => false

/-- The number that a finite decimal stands for. -/
def value (d : Decimal) : ℚ := d.num / d.den

theorem den_pos (d : Decimal) : 0 < d.den := by
  cases d <;> simp [den]

/-- The digits after the point: `max(0, -exponent)`. -/
def places : Decimal → ℕ
  | .finite _ _ exponent => (-exponent).toNat
  | .special => 0

/-- `0 <= value <= 1`. -/
def inUnit (d : Decimal) : Prop := 0 ≤ d.num ∧ d.num ≤ d.den

instance (d : Decimal) : Decidable d.inUnit := inferInstanceAs (Decidable (_ ∧ _))

theorem inUnit_iff (d : Decimal) : d.inUnit ↔ 0 ≤ d.value ∧ d.value ≤ 1 := by
  have hden : (0 : ℚ) < d.den := by exact_mod_cast d.den_pos
  rw [value, le_div_iff₀ hden, zero_mul, div_le_one hden]
  constructor
  · rintro ⟨h₀, h₁⟩
    exact ⟨by exact_mod_cast h₀, by exact_mod_cast h₁⟩
  · rintro ⟨h₀, h₁⟩
    exact ⟨by exact_mod_cast h₀, by exact_mod_cast h₁⟩

/-! ## Rounding -/

def roundHalfEven (n d : ℕ) : ℕ :=
  if 2 * (n % d) < d ∨ (2 * (n % d) = d ∧ n / d % 2 = 0) then n / d else n / d + 1

/-- The coefficient at `scale` places. -/
def rescale (scale : ℕ) (coefficient : ℕ) (exponent : ℤ) : ℕ :=
  if 0 ≤ exponent + scale then coefficient * 10 ^ (exponent + scale).toNat
  else roundHalfEven coefficient (10 ^ (-(exponent + scale)).toNat)

/-- `quantize` to `scale` places in the default context: at most 28 digits. -/
def quantize (scale : ℕ) : Decimal → Option Decimal
  | .finite negative coefficient exponent =>
    if rescale scale coefficient exponent < 10 ^ 28 then
      some (.finite negative (rescale scale coefficient exponent) (-scale))
    else none
  | .special => none

/-- `format(d, ".<scale>f")` of a decimal that has `scale` places. -/
def fixedPoint (scale : ℕ) (negative : Bool) (coefficient : ℕ) : List Char :=
  (if negative then ['-'] else []) ++ Nat.toDigits 10 (coefficient / 10 ^ scale) ++
    '.' :: fixedText 10 scale (coefficient % 10 ^ scale)

theorem fixedPoint_inj {scale : ℕ} {a b : Bool} {n m : ℕ} (h : fixedPoint scale a n = fixedPoint scale b m) :
    a = b ∧ n = m := by
  have digits (k l : ℕ) (r s : List Char)
      (hk : Nat.toDigits 10 k ++ '.' :: r = Nat.toDigits 10 l ++ '.' :: s) : k = l ∧ r = s := by
    obtain ⟨rfl, hrest⟩ := toDigits_append_inj (by simp) (by simp) hk
    exact ⟨rfl, by simpa using hrest⟩
  have parts (h' : n / 10 ^ scale = m / 10 ^ scale ∧
      fixedText 10 scale (n % 10 ^ scale) = fixedText 10 scale (m % 10 ^ scale)) : n = m := by
    have hmod := fixedText_inj (by omega) (Nat.mod_lt _ (by positivity)) (Nat.mod_lt _ (by positivity)) h'.2
    rw [← Nat.div_add_mod n (10 ^ scale), ← Nat.div_add_mod m (10 ^ scale), h'.1, hmod]
  simp only [fixedPoint, List.append_assoc] at h
  cases a <;> cases b <;> simp only [Bool.false_eq_true, if_false, if_true, List.nil_append, List.cons_append,
    List.cons.injEq, true_and] at h
  · exact ⟨rfl, parts (digits _ _ _ _ h)⟩
  · exact absurd h minus_not_toDigits
  · exact absurd h.symm minus_not_toDigits
  · exact ⟨rfl, parts (digits _ _ _ _ h)⟩

/-- Reads `fixedPoint` text. -/
def readFixedPoint (cs : List Char) : Option Decimal := do
  let negative := cs.head? = some '-'
  let cs := if negative then cs.tail else cs
  let whole := cs.takeWhile Char.isDigit
  let fraction ← match cs.dropWhile Char.isDigit with
    | '.' :: fraction => some fraction
    | _ => none
  let n ← digitsValue whole
  let m ← digitsValue fraction
  some (.finite negative (n * 10 ^ fraction.length + m) (-fraction.length))

theorem takeWhile_digits (ds r : List Char) (hds : ∀ c ∈ ds, c.isDigit = true) :
    (ds ++ '.' :: r).takeWhile Char.isDigit = ds ∧ (ds ++ '.' :: r).dropWhile Char.isDigit = '.' :: r := by
  induction ds with
  | nil => exact ⟨rfl, rfl⟩
  | cons d ds ih =>
    have hd : d.isDigit = true := hds d (by simp)
    obtain ⟨h₁, h₂⟩ := ih fun c hc => hds c (by simp [hc])
    simp [hd, h₁, h₂]

theorem readFixedPoint_fixedPoint {scale : ℕ} (hs : 0 < scale) (negative : Bool) (n : ℕ) :
    readFixedPoint (fixedPoint scale negative n) = some (.finite negative n (-scale)) := by
  obtain ⟨hw, hf⟩ := takeWhile_digits (Nat.toDigits 10 (n / 10 ^ scale)) (fixedText 10 scale (n % 10 ^ scale))
    fun _ => isDigit_of_mem_toDigits
  have hwhole : digitsValue (Nat.toDigits 10 (n / 10 ^ scale)) = some (n / 10 ^ scale) := by
    rw [digitsValue, if_pos ⟨Nat.toDigits_ne_nil, List.all_eq_true.mpr fun _ => isDigit_of_mem_toDigits⟩,
      Nat.ofDigitChars_ten_toDigits]
  have hfraction := digitsValue_fixedText hs (Nat.mod_lt n (by positivity : 0 < 10 ^ scale))
  have hhead : (Nat.toDigits 10 (n / 10 ^ scale) ++ '.' :: fixedText 10 scale (n % 10 ^ scale)).head? ≠ some '-' := by
    intro h
    obtain ⟨r, hr⟩ := List.head?_eq_some_iff.mp h
    exact minus_not_toDigits hr
  have hsum : n / 10 ^ scale * 10 ^ scale + n % 10 ^ scale = n := Nat.div_add_mod' n _
  cases negative
  · simp only [readFixedPoint, fixedPoint, Bool.false_eq_true, if_false, List.nil_append, hhead, hw, hf, hwhole,
      hfraction, length_fixedText, Option.bind_eq_bind, Option.bind_some, hsum, decide_false]
  · simp only [readFixedPoint, fixedPoint, if_true, List.cons_append, List.nil_append, List.head?_cons,
      List.tail_cons, hw, hf, hwhole, hfraction, length_fixedText, Option.bind_eq_bind, Option.bind_some, hsum,
      decide_true]

/-! ## Rounding and value -/

theorem roundHalfEven_mul (k : ℕ) {d : ℕ} (hd : 0 < d) : roundHalfEven (k * d) d = k := by
  rw [roundHalfEven, Nat.mul_mod_left, Nat.mul_div_cancel _ hd, if_pos (.inl (by omega))]

theorem roundHalfEven_le {n d k : ℕ} (hd : 0 < d) (h : n ≤ k * d) : roundHalfEven n d ≤ k := by
  rcases h.eq_or_lt with rfl | hlt
  · exact (roundHalfEven_mul k hd).le
  · have : n / d < k := (Nat.div_lt_iff_lt_mul hd).mpr hlt
    unfold roundHalfEven
    split_ifs <;> omega

theorem rescale_le {negative : Bool} {coefficient : ℕ} {exponent : ℤ} (scale : ℕ)
    (h : (finite negative coefficient exponent).inUnit) : rescale scale coefficient exponent ≤ 10 ^ scale := by
  have hle : coefficient * 10 ^ exponent.toNat ≤ 10 ^ (-exponent).toNat := by
    obtain ⟨h₀, h₁⟩ := h
    simp only [num, den] at h₀ h₁
    cases negative <;> simp only [Bool.false_eq_true, if_false, if_true, one_mul, neg_mul] at h₀ h₁
    · exact_mod_cast h₁
    · have hz : coefficient * 10 ^ exponent.toNat = 0 := by omega
      omega
  unfold rescale
  split_ifs with hscale
  · rcases le_or_gt 0 exponent with hexp | hexp
    · have hone : (-exponent).toNat = 0 := by omega
      rw [show (exponent + scale).toNat = exponent.toNat + scale by omega, pow_add, ← mul_assoc]
      calc coefficient * 10 ^ exponent.toNat * 10 ^ scale
          ≤ 10 ^ (-exponent).toNat * 10 ^ scale := Nat.mul_le_mul_right _ hle
        _ = 10 ^ scale := by rw [hone, pow_zero, one_mul]
    · have hzero : exponent.toNat = 0 := by omega
      rw [hzero, pow_zero, mul_one] at hle
      calc coefficient * 10 ^ (exponent + scale).toNat
          ≤ 10 ^ (-exponent).toNat * 10 ^ (exponent + scale).toNat := Nat.mul_le_mul_right _ hle
        _ = 10 ^ scale := by rw [← pow_add]; congr 1; omega
  · have hzero : exponent.toNat = 0 := by omega
    rw [hzero, pow_zero, mul_one] at hle
    refine roundHalfEven_le (by positivity) (hle.trans_eq ?_)
    rw [← pow_add]
    congr 1
    omega

/-- The sign, and the coefficient at `scale` places. -/
def rounded (scale : ℕ) : Decimal → Bool × ℕ
  | .finite negative coefficient exponent => (negative, rescale scale coefficient exponent)
  | .special => (false, 0)

/-- The decimal at `scale` places. -/
def atScale (scale : ℕ) : Decimal → Decimal
  | .finite negative coefficient exponent => .finite negative (rescale scale coefficient exponent) (-scale)
  | .special => .special

/-- No digit behind the last of the `scale` places. -/
def exactAt (scale : ℕ) : Decimal → Prop
  | .finite _ coefficient exponent => 10 ^ (-(exponent + scale)).toNat ∣ coefficient
  | .special => True

instance (scale : ℕ) : (d : Decimal) → Decidable (d.exactAt scale)
  | .finite _ coefficient exponent => inferInstanceAs (Decidable (10 ^ (-(exponent + scale)).toNat ∣ coefficient))
  | .special => .isTrue trivial

theorem value_eq_iff (negative : Bool) (c d : ℕ) (e f : ℤ) :
    (finite negative c e).value = (finite negative d f).value ↔
      c * 10 ^ e.toNat * 10 ^ (-f).toNat = d * 10 ^ f.toNat * 10 ^ (-e).toNat := by
  have hpow (n : ℕ) : ((10 ^ n : ℕ) : ℚ) ≠ 0 := by positivity
  simp only [value, num, den]
  rw [div_eq_div_iff (hpow _) (hpow _)]
  cases negative
  · simp only [Bool.false_eq_true, if_false, one_mul]
    exact_mod_cast Iff.rfl
  · simp only [if_true, neg_mul, one_mul, Int.cast_neg, neg_inj]
    exact_mod_cast Iff.rfl

theorem value_atScale (scale : ℕ) (d : Decimal) : (d.atScale scale).value = d.value ↔ d.exactAt scale := by
  cases d with
  | special => simp [atScale, exactAt]
  | finite negative c e =>
    have hscale : (-(-(scale : ℤ))).toNat = scale ∧ (-(scale : ℤ)).toNat = 0 := by omega
    rw [atScale, exactAt, value_eq_iff, hscale.1, hscale.2, pow_zero, mul_one]
    by_cases he : 0 ≤ e + scale
    · have hzero : (-(e + scale)).toNat = 0 := by omega
      have hpow : 10 ^ (e + scale).toNat * 10 ^ (-e).toNat = 10 ^ e.toNat * 10 ^ scale := by
        rw [← pow_add, ← pow_add]
        congr 1
        omega
      rw [rescale, if_pos he, hzero, pow_zero, mul_assoc, hpow, mul_assoc]
      simp
    · obtain ⟨k, hk⟩ : ∃ k : ℕ, -(e + scale) = k := ⟨_, (Int.toNat_of_nonneg (by omega)).symm⟩
      have hpow : (-e).toNat = k + scale ∧ e.toNat = 0 := by omega
      rw [rescale, if_neg he, hk, Int.toNat_natCast, hpow.1, hpow.2, pow_zero, mul_one, pow_add, ← mul_assoc,
        Nat.mul_left_inj (by positivity)]
      constructor
      · intro h
        exact ⟨_, by rw [mul_comm]; exact h.symm⟩
      · rintro ⟨m, rfl⟩
        rw [mul_comm (10 ^ k) m, roundHalfEven_mul m (by positivity)]

end Decimal

end CommerceAgent.Lib
