import CommerceAgent.Lib.Decimal
import Mathlib.Data.Rat.Floor
import Mathlib.Data.Int.Log
import Mathlib.Tactic.Linarith
import Mathlib.Tactic.Ring

/-!
# Rounding half to even

`roundEven` is the nearest integer, the even one of two. A number is rounded to a number of places, or to a number of
significant digits.
-/

namespace CommerceAgent.Lib

def roundEven (x : ℚ) : ℤ :=
  if 2 * (x - ⌊x⌋) < 1 ∨ (2 * (x - ⌊x⌋) = 1 ∧ ⌊x⌋ % 2 = 0) then ⌊x⌋ else ⌊x⌋ + 1

/-- To `places` digits behind the point. -/
def toPlaces (places : ℤ) (x : ℚ) : ℚ := roundEven (x * 10 ^ places) / 10 ^ places

/-- To `digits` significant digits. -/
def toDigits (digits : ℕ) (x : ℚ) : ℚ := toPlaces (digits - 1 - Int.log 10 |x|) x

@[simp] theorem roundEven_intCast (n : ℤ) : roundEven n = n := by
  unfold roundEven
  rw [Int.floor_intCast, sub_self, mul_zero, if_pos (Or.inl one_pos)]

theorem abs_roundEven_sub_le (x : ℚ) : |(roundEven x : ℚ) - x| ≤ 1 / 2 := by
  have hfloor := Int.floor_le x
  have hlt := Int.lt_floor_add_one x
  unfold roundEven
  split_ifs with h
  · have hhalf : 2 * (x - ⌊x⌋) ≤ 1 := h.elim le_of_lt fun h => le_of_eq h.1
    rw [abs_le]
    constructor <;> linarith
  · have hhalf : 1 ≤ 2 * (x - ⌊x⌋) := not_lt.mp fun hlt => h (Or.inl hlt)
    push_cast
    rw [abs_le]
    constructor <;> linarith

theorem roundEven_neg (x : ℚ) : roundEven (-x) = -roundEven x := by
  by_cases hint : x = ⌊x⌋
  · rw [hint, ← Int.cast_neg, roundEven_intCast, roundEven_intCast]
  have hfloor : (⌊x⌋ : ℚ) < x := lt_of_le_of_ne (Int.floor_le x) (Ne.symm hint)
  have hlt := Int.lt_floor_add_one x
  have hneg : ⌊-x⌋ = -⌊x⌋ - 1 := by
    rw [Int.floor_eq_iff]
    push_cast
    constructor <;> linarith
  unfold roundEven
  rw [hneg]
  push_cast
  split_ifs with hright hleft hleft
  · exfalso
    rcases hright with hright | ⟨hright, heven⟩ <;> rcases hleft with hleft | ⟨hleft, heven'⟩
    · linarith
    · linarith
    · linarith
    · omega
  · ring
  · ring
  · exfalso
    rw [not_or, not_and_or, not_lt] at hright hleft
    have hhalf : 2 * (x - ⌊x⌋) = 1 := by linarith [hright.1, hleft.1]
    have hodd := hleft.2.resolve_left (not_not.mpr hhalf)
    have heven := hright.2.resolve_left (not_not.mpr (by linarith))
    omega

theorem toPlaces_neg (places : ℤ) (x : ℚ) : toPlaces places (-x) = -toPlaces places x := by
  unfold toPlaces
  rw [neg_mul, roundEven_neg, Int.cast_neg, neg_div]

theorem roundEven_div (n : ℕ) {d : ℕ} (hd : 0 < d) : roundEven (n / d) = Decimal.roundHalfEven n d := by
  have hdq : (0 : ℚ) < d := by exact_mod_cast hd
  have hfloor : ⌊(n / d : ℚ)⌋ = (n / d : ℕ) := Rat.floor_natCast_div_natCast n d
  have hrest : (n / d : ℚ) - (n / d : ℕ) = (n % d : ℕ) / d := by
    have hsum : ((d * (n / d) + n % d : ℕ) : ℚ) = n := by rw [Nat.div_add_mod]
    push_cast at hsum
    field_simp
    linarith
  have hbelow : 2 * ((n % d : ℕ) / d : ℚ) < 1 ↔ 2 * (n % d) < d := by
    rw [← mul_div_assoc, div_lt_one hdq]
    exact_mod_cast Iff.rfl
  have hhalf : 2 * ((n % d : ℕ) / d : ℚ) = 1 ↔ 2 * (n % d) = d := by
    rw [← mul_div_assoc, div_eq_one_iff_eq hdq.ne']
    exact_mod_cast Iff.rfl
  have heven : ((n / d : ℕ) : ℤ) % 2 = 0 ↔ n / d % 2 = 0 := by omega
  unfold roundEven Decimal.roundHalfEven
  rw [hfloor, Int.cast_natCast, hrest]
  simp only [hbelow, hhalf, heven]
  split_ifs
  · rfl
  · push_cast
    rfl

theorem abs_toPlaces_sub_le (places : ℤ) (x : ℚ) : |toPlaces places x - x| ≤ 1 / 2 / 10 ^ places := by
  have hpow : (0 : ℚ) < 10 ^ places := zpow_pos (by norm_num) places
  have hmove : toPlaces places x - x = (roundEven (x * 10 ^ places) - x * 10 ^ places) / 10 ^ places := by
    unfold toPlaces
    field_simp
  rw [hmove, abs_div, abs_of_pos hpow]
  exact div_le_div_of_nonneg_right (abs_roundEven_sub_le _) hpow.le

theorem abs_toDigits_sub_le (digits : ℕ) {x : ℚ} (h : |x| ≤ 1) :
    |toDigits digits x - x| ≤ 1 / 2 / 10 ^ ((digits : ℤ) - 1) := by
  have hlog : Int.log 10 |x| ≤ 0 := by
    rw [Int.log_of_right_le_one 10 h]
    omega
  refine (abs_toPlaces_sub_le _ x).trans ?_
  refine div_le_div_of_nonneg_left (by norm_num) (zpow_pos (by norm_num) _) ?_
  exact zpow_le_zpow_right₀ (by norm_num) (by omega)

namespace Decimal

/-! ## Decimals -/

theorem zpow_toNat (e : ℤ) : (10 : ℚ) ^ e = 10 ^ e.toNat / 10 ^ (-e).toNat := by
  rw [← zpow_natCast, ← zpow_natCast, ← zpow_sub₀ (by norm_num)]
  congr 1
  omega

theorem value_finite (negative : Bool) (coefficient : ℕ) (exponent : ℤ) :
    (finite negative coefficient exponent).value =
      (if negative then -1 else 1) * (coefficient * 10 ^ exponent) := by
  rw [zpow_toNat]
  unfold value num den
  cases negative <;> simp [mul_div_assoc, neg_div]

theorem value_int (n : ℤ) : (finite (n < 0) n.natAbs 0).value = n := by
  rw [value_finite, zpow_zero, mul_one, Nat.cast_natAbs, Int.cast_abs]
  rcases lt_or_ge n 0 with hneg | hpos
  · rw [if_pos (decide_eq_true hneg), abs_of_neg (by exact_mod_cast hneg), neg_mul, one_mul, neg_neg]
  · rw [if_neg (by simpa using hpos), abs_of_nonneg (by exact_mod_cast hpos), one_mul]

theorem rescale_eq (scale coefficient : ℕ) (exponent : ℤ) :
    (rescale scale coefficient exponent : ℤ) = roundEven (coefficient * 10 ^ exponent * 10 ^ (scale : ℤ)) := by
  rw [mul_assoc, ← zpow_add₀ (by norm_num)]
  unfold rescale
  split_ifs with h
  · have hpow : (10 : ℚ) ^ (exponent + scale) = (10 ^ (exponent + scale).toNat : ℕ) := by
      have hzero : (-(exponent + scale)).toNat = 0 := by omega
      rw [zpow_toNat, hzero, pow_zero, div_one]
      push_cast
      rfl
    rw [hpow, ← Nat.cast_mul]
    exact (roundEven_intCast _).symm
  · have hpow : (10 : ℚ) ^ (exponent + scale) = 1 / (10 ^ (-(exponent + scale)).toNat : ℕ) := by
      have hzero : (exponent + scale).toNat = 0 := by omega
      rw [zpow_toNat, hzero]
      simp
    rw [hpow, mul_one_div, roundEven_div _ (by positivity)]

theorem value_rescale (scale coefficient : ℕ) (exponent : ℤ) :
    (finite false (rescale scale coefficient exponent) (-scale)).value =
      toPlaces scale (finite false coefficient exponent).value := by
  have hcast : (rescale scale coefficient exponent : ℚ) = (rescale scale coefficient exponent : ℤ) := by simp
  rw [value_finite, value_finite, hcast, rescale_eq, if_neg (by simp), one_mul, one_mul, zpow_neg, ← div_eq_mul_inv]
  rfl

theorem quantize_unit (scale : ℕ) {coefficient : ℕ} {exponent : ℤ} (hunit : (finite false coefficient exponent).inUnit)
    (hscale : scale < 28) : ∃ value, (finite false coefficient exponent).quantize scale = some value ∧
      value.value = toPlaces scale (finite false coefficient exponent).value := by
  refine ⟨finite false (rescale scale coefficient exponent) (-scale), if_pos ?_, value_rescale scale _ _⟩
  calc rescale scale coefficient exponent ≤ 10 ^ scale := rescale_le scale hunit
    _ < 10 ^ 28 := Nat.pow_lt_pow_right (by norm_num) hscale

/-- `Decimal(n) / Decimal(d)`: the quotient to 28 digits. -/
def divide (n d : ℕ) : Decimal :=
  let shift : ℤ := 27 - Int.log 10 (n / d : ℚ)
  .finite false (roundHalfEven (n * 10 ^ shift.toNat) (d * 10 ^ (-shift).toNat)) (-shift)

theorem value_divide (n : ℕ) {d : ℕ} (hd : 0 < d) : (divide n d).value = toDigits 28 (n / d) := by
  have hdq : (0 : ℚ) < d := by exact_mod_cast hd
  have habs : |(n / d : ℚ)| = n / d := abs_of_nonneg (by positivity)
  unfold divide toDigits toPlaces
  dsimp only
  rw [value_finite, habs, if_neg (by simp), one_mul]
  have hshift : ((28 : ℕ) : ℤ) - 1 - Int.log 10 (n / d : ℚ) = 27 - Int.log 10 (n / d : ℚ) := by norm_num
  rw [hshift]
  generalize 27 - Int.log 10 (n / d : ℚ) = shift
  have hround := roundEven_div (n * 10 ^ shift.toNat) (d := d * 10 ^ (-shift).toNat) (by positivity)
  have hquotient : ((n * 10 ^ shift.toNat : ℕ) : ℚ) / (d * 10 ^ (-shift).toNat : ℕ) = n / d * 10 ^ shift := by
    rw [zpow_toNat]
    push_cast
    field_simp
  rw [hquotient] at hround
  rw [hround, zpow_neg, ← div_eq_mul_inv]
  rfl

theorem divide_inUnit {n d : ℕ} (hd : 0 < d) (hle : n ≤ d) : (divide n d).inUnit := by
  have hlog : Int.log 10 (n / d : ℚ) ≤ 0 := by
    have hone : (n / d : ℚ) ≤ 1 := by
      rw [div_le_one (by exact_mod_cast hd)]
      exact_mod_cast hle
    rw [Int.log_of_right_le_one 10 hone]
    omega
  have hshift : (0 : ℤ) ≤ 27 - Int.log 10 (n / d : ℚ) := by omega
  unfold divide inUnit num den
  dsimp only
  generalize 27 - Int.log 10 (n / d : ℚ) = shift at hshift
  have hneg : (-shift).toNat = 0 := by omega
  rw [hneg, pow_zero, mul_one, mul_one, neg_neg, if_neg (by simp), one_mul]
  refine ⟨Int.natCast_nonneg _, ?_⟩
  exact_mod_cast roundHalfEven_le hd (by rw [mul_comm]; exact Nat.mul_le_mul_left _ hle)

def negative : Decimal → Bool
  | .finite negative _ _ => negative
  | .special => false

theorem toPlaces_finite (negative : Bool) (coefficient : ℕ) (exponent : ℤ) (scale : ℕ) :
    toPlaces scale (finite negative coefficient exponent).value =
      (if negative then -1 else 1) * ((rescale scale coefficient exponent : ℤ) / 10 ^ (scale : ℤ)) := by
  rw [value_finite, rescale_eq]
  cases negative
  · rw [if_neg (by simp), one_mul, one_mul]
    rfl
  · rw [if_pos rfl, neg_one_mul, neg_one_mul, toPlaces_neg]
    rfl

end Decimal

end CommerceAgent.Lib
