import CommerceAgent.Lib.DecimalSum

/-!
# The decimal context

A result of 28 digits at most is the nearest one that there is, and a result that is not below `OVERFLOW` raises.
-/

namespace CommerceAgent.Lib

/-- Below an even number is what is rounded below it. -/
theorem roundEven_lt_iff {n : ℤ} (heven : n % 2 = 0) (x : ℚ) : roundEven x < n ↔ x < n - 1 / 2 := by
  have hnear := abs_le.mp (abs_roundEven_sub_le x)
  constructor
  · intro hlt
    have hle : (roundEven x : ℚ) ≤ n - 1 := by exact_mod_cast Int.le_sub_one_of_lt hlt
    refine lt_of_le_of_ne (by linarith) ?_
    rintro rfl
    -- half way to an even number
    have hfloor : ⌊(n - 1 / 2 : ℚ)⌋ = n - 1 := by
      rw [Int.floor_eq_iff]
      push_cast
      constructor <;> linarith
    have hround : roundEven (n - 1 / 2 : ℚ) = n := by
      unfold roundEven
      rw [hfloor, if_neg]
      · ring
      · push_cast
        rintro (h | ⟨-, h⟩)
        · linarith
        · omega
    exact hlt.ne hround
  · intro hlt
    have hround : (roundEven x : ℚ) < n := by linarith
    exact_mod_cast hround

theorem log_natCast_mul_zpow {c : ℕ} (hc : c ≠ 0) (e : ℤ) : Int.log 10 (c * 10 ^ e : ℚ) = Nat.log 10 c + e := by
  have hten : (0 : ℚ) < 10 ^ e := zpow_pos (by norm_num) e
  have hpos : (0 : ℚ) < c * 10 ^ e := mul_pos (by exact_mod_cast Nat.pos_of_ne_zero hc) hten
  refine le_antisymm (Int.lt_add_one_iff.mp ?_) ?_
  · rw [← Int.lt_zpow_iff_log_lt (by norm_num) hpos]
    have hlt : (c : ℚ) < (10 ^ (Nat.log 10 c + 1) : ℕ) := by exact_mod_cast Nat.lt_pow_succ_log_self (by norm_num) c
    calc (c * 10 ^ e : ℚ) < (10 ^ (Nat.log 10 c + 1) : ℕ) * 10 ^ e := mul_lt_mul_of_pos_right hlt hten
      _ = ((10 : ℕ) : ℚ) ^ (Nat.log 10 c + e + 1 : ℤ) := by
        push_cast
        rw [← zpow_natCast, ← zpow_add₀ (by norm_num)]
        congr 1
        push_cast
        ring
  · rw [← Int.zpow_le_iff_le_log (by norm_num) hpos]
    have hle : ((10 ^ Nat.log 10 c : ℕ) : ℚ) ≤ c := by exact_mod_cast Nat.pow_log_le_self 10 hc
    calc ((10 : ℕ) : ℚ) ^ (Nat.log 10 c + e : ℤ) = (10 ^ Nat.log 10 c : ℕ) * 10 ^ e := by
          push_cast
          rw [zpow_add₀ (by norm_num), zpow_natCast]
      _ ≤ c * 10 ^ e := mul_le_mul_of_nonneg_right hle hten.le

theorem toPlaces_intCast_mul (n : ℤ) (exponent : ℤ) : toPlaces (-exponent) (n * 10 ^ exponent) = n * 10 ^ exponent := by
  have hcancel : (n * 10 ^ exponent * 10 ^ (-exponent) : ℚ) = n := by
    rw [mul_assoc, ← zpow_add₀ (by norm_num), add_neg_cancel, zpow_zero, mul_one]
  unfold toPlaces
  rw [hcancel, roundEven_intCast, zpow_neg, div_inv_eq_mul]

namespace Decimal

/-- The least number that is rounded to one with too large an exponent. -/
def OVERFLOW : ℚ := (10 ^ 28 - 1 / 2) * 10 ^ ETOP

/-- The nearest number with 28 digits, or with the least exponent. -/
def nearest (x : ℚ) : ℚ := toPlaces (min (27 - Int.log 10 |x|) (-ETINY)) x

theorem nearest_zero : nearest 0 = 0 := by
  unfold nearest toPlaces
  rw [zero_mul, ← Int.cast_zero, roundEven_intCast, Int.cast_zero, zero_div]

theorem nearest_neg (x : ℚ) : nearest (-x) = -nearest x := by
  unfold nearest
  rw [abs_neg, toPlaces_neg]

theorem nearest_nonneg {x : ℚ} (h : 0 ≤ x) : 0 ≤ nearest x := by
  have hround (places : ℤ) : 0 ≤ toPlaces places x := by
    have hpow : (0 : ℚ) < 10 ^ places := zpow_pos (by norm_num) places
    have hnear := (abs_le.mp (abs_roundEven_sub_le (x * 10 ^ places))).1
    have hscaled : 0 ≤ x * 10 ^ places := mul_nonneg h hpow.le
    have hlow : (-1 : ℚ) < roundEven (x * 10 ^ places) := by linarith
    have hint : (0 : ℤ) ≤ roundEven (x * 10 ^ places) := by
      have hlt : (-1 : ℤ) < roundEven (x * 10 ^ places) := by exact_mod_cast hlow
      omega
    exact div_nonneg (by exact_mod_cast hint) hpow.le
  exact hround _

theorem OVERFLOW_pos : 0 < OVERFLOW := mul_pos (by norm_num) (zpow_ten_pos ETOP)

/-- A number of the grid that ends at `least` overflows when it is rounded up to a 29th digit at the last exponent. -/
theorem overflow_iff {x : ℚ} {least : ℤ} (hleast : least ≤ ETOP) (hbelow : x < 10 ^ (28 + least)) :
    OVERFLOW ≤ x ↔ least = ETOP ∧ 10 ^ 28 ≤ roundEven (x * 10 ^ (-least)) := by
  have hdown : x * 10 ^ (-least) * 10 ^ least = x := by
    rw [mul_assoc, ← zpow_add₀ (by norm_num), neg_add_cancel, zpow_zero, mul_one]
  have hsplit : (10 : ℚ) ^ (28 + least) = 10 ^ 28 * 10 ^ least := by
    rw [zpow_add₀ (by norm_num)]
    norm_cast
  have hedge := roundEven_lt_iff (n := 10 ^ 28) (by norm_num) (x * 10 ^ (-least))
  rw [← not_lt, ← not_lt, hedge]
  push_cast
  have htop (h : least = ETOP) : x < OVERFLOW ↔ x * 10 ^ (-least) < 10 ^ 28 - 1 / 2 := by
    unfold OVERFLOW
    rw [← h]
    conv_lhs => rw [← hdown]
    exact mul_lt_mul_iff_left₀ (zpow_ten_pos least)
  rcases hleast.lt_or_eq with hlt | heq
  · have hroom : x < OVERFLOW := by
      calc x < 10 ^ (28 + least) := hbelow
        _ ≤ 10 ^ (27 + ETOP) := zpow_le_zpow_right₀ (by norm_num) (by omega)
        _ = 10 ^ 27 * 10 ^ ETOP := by
          rw [zpow_add₀ (by norm_num)]
          norm_cast
        _ ≤ (10 ^ 28 - 1 / 2) * 10 ^ ETOP := mul_le_mul_of_nonneg_right (by norm_num) (zpow_ten_pos ETOP).le
    exact iff_of_false (not_not.mpr hroom) fun h => hlt.ne h.1
  · rw [htop heq]
    exact ⟨fun h => ⟨heq, h⟩, fun h => h.2⟩

variable {c : ℕ} {e least : ℤ}

theorem roundEven_scaled (c : ℕ) (h : e < least) :
    roundEven (c * 10 ^ e * 10 ^ (-least) : ℚ) = roundHalfEven c (10 ^ (least - e).toNat) := by
  have hpow : ((10 ^ (least - e).toNat : ℕ) : ℚ) = 10 ^ (least - e) := by
    push_cast
    rw [← zpow_natCast, Int.toNat_of_nonneg (by omega)]
  have hscaled : (c * 10 ^ e * 10 ^ (-least) : ℚ) = c / (10 ^ (least - e).toNat : ℕ) := by
    rw [hpow, mul_assoc, ← zpow_add₀ (by norm_num), div_eq_mul_inv, ← zpow_neg]
    congr 2
    ring
  rw [hscaled, roundEven_div c (by positivity)]

theorem toPlaces_scaled (c : ℕ) (h : e < least) :
    toPlaces (-least) (c * 10 ^ e : ℚ) = roundHalfEven c (10 ^ (least - e).toNat) * 10 ^ least := by
  unfold toPlaces
  rw [roundEven_scaled c h, zpow_neg, div_inv_eq_mul, Int.cast_natCast]

theorem roundEven_le_of_below {x : ℚ} (h : x < 10 ^ (28 + least)) : roundEven (x * 10 ^ (-least)) ≤ 10 ^ 28 := by
  have hlt : x * 10 ^ (-least) < 10 ^ 28 := by
    rw [zpow_neg, ← div_eq_mul_inv, div_lt_iff₀ (zpow_ten_pos least)]
    refine h.trans_eq ?_
    rw [zpow_add₀ (by norm_num)]
    norm_cast
  have hnear := (abs_le.mp (abs_roundEven_sub_le (x * 10 ^ (-least)))).2
  have hround : (roundEven (x * 10 ^ (-least)) : ℚ) < 10 ^ 28 + 1 := by linarith
  exact Int.lt_add_one_iff.mp (by exact_mod_cast hround)

theorem cut_cases (negative : Bool) (hleast : least ≤ ETOP) (hbelow : (c * 10 ^ e : ℚ) < 10 ^ (28 + least))
    (h : e < least) {result : Option Decimal}
    (hresult : result =
      if roundHalfEven c (10 ^ (least - e).toNat) < 10 ^ 28 then
        some (finite negative (roundHalfEven c (10 ^ (least - e).toNat)) least)
      else if ETOP < least + 1 then none else some (finite negative (10 ^ 27) (least + 1))) :
    (OVERFLOW ≤ (c * 10 ^ e : ℚ) ∧ result = none) ∨
      ((c * 10 ^ e : ℚ) < OVERFLOW ∧ ∃ d g, result = some (finite negative d g) ∧
        (d * 10 ^ g : ℚ) = toPlaces (-least) (c * 10 ^ e)) := by
  have hover := overflow_iff hleast hbelow
  have hfew := roundEven_le_of_below hbelow
  rw [roundEven_scaled c h] at hover hfew
  rw [hresult, toPlaces_scaled c h]
  generalize roundHalfEven c (10 ^ (least - e).toNat) = rounded at hover hfew
  by_cases hdigits : rounded < 10 ^ 28
  · rw [if_pos hdigits]
    refine Or.inr ⟨not_le.mp fun hle => ?_, rounded, least, rfl, rfl⟩
    exact absurd hdigits (not_lt.mpr (by exact_mod_cast (hover.mp hle).2))
  · have hmany : 10 ^ 28 ≤ rounded := not_lt.mp hdigits
    rw [if_neg hdigits]
    by_cases htop : ETOP < least + 1
    · rw [if_pos htop]
      exact Or.inl ⟨hover.mpr ⟨by omega, by exact_mod_cast hmany⟩, rfl⟩
    · rw [if_neg htop]
      refine Or.inr ⟨not_le.mp fun hle => ?_, 10 ^ 27, least + 1, rfl, ?_⟩
      · have heq := (hover.mp hle).1
        omega
      · have heq : rounded = 10 ^ 28 := le_antisymm (by exact_mod_cast hfew) hmany
        rw [heq, zpow_add_one₀ (by norm_num)]
        push_cast
        ring

theorem kept_cases (hleast : least ≤ ETOP) (hbelow : (c * 10 ^ e : ℚ) < 10 ^ (28 + least)) (h : least ≤ e) :
    (c * 10 ^ e : ℚ) < OVERFLOW ∧ (c * 10 ^ e : ℚ) = toPlaces (-least) (c * 10 ^ e) := by
  have hgrid : (c * 10 ^ e : ℚ) = ((c * 10 ^ (e - least).toNat : ℕ) : ℤ) * 10 ^ least := by
    push_cast
    rw [mul_assoc, ← zpow_natCast, Int.toNat_of_nonneg (by omega), ← zpow_add₀ (by norm_num), sub_add_cancel]
  have hover := overflow_iff hleast hbelow
  rw [hgrid] at hover hbelow ⊢
  rw [toPlaces_intCast_mul]
  refine ⟨not_le.mp fun hle => ?_, rfl⟩
  obtain ⟨-, hmany⟩ := hover.mp hle
  rw [mul_assoc, ← zpow_add₀ (by norm_num), add_neg_cancel, zpow_zero, mul_one, roundEven_intCast] at hmany
  rw [zpow_add₀ (by norm_num), mul_lt_mul_iff_left₀ (zpow_ten_pos least)] at hbelow
  exact absurd hmany (not_le.mpr (by exact_mod_cast hbelow))

theorem fix_cases (negative : Bool) (c : ℕ) (e : ℤ) :
    (OVERFLOW ≤ (c * 10 ^ e : ℚ) ∧ fix negative c e = none) ∨
      ((c * 10 ^ e : ℚ) < OVERFLOW ∧ ∃ d g, fix negative c e = some (finite negative d g) ∧
        (d * 10 ^ g : ℚ) = nearest (c * 10 ^ e)) := by
  by_cases hzero : c = 0
  · refine Or.inr ?_
    unfold fix
    rw [if_pos hzero, hzero, Nat.cast_zero, zero_mul, nearest_zero]
    exact ⟨OVERFLOW_pos, 0, _, rfl, by simp⟩
  have hlog := log_natCast_mul_zpow hzero e
  have hpos : (0 : ℚ) < c * 10 ^ e := mul_pos (by exact_mod_cast Nat.pos_of_ne_zero hzero) (zpow_ten_pos e)
  have hhigh : (c * 10 ^ e : ℚ) < 10 ^ (Nat.log 10 c + e + 1 : ℤ) := by
    have hlt := (Int.lt_zpow_iff_log_lt (b := 10) (by norm_num) hpos).mpr (Int.lt_add_one_iff.mpr hlog.le)
    exact_mod_cast hlt
  have hlow : (10 : ℚ) ^ (Nat.log 10 c + e : ℤ) ≤ c * 10 ^ e := by
    have hle := (Int.zpow_le_iff_le_log (b := 10) (by norm_num) hpos).mpr hlog.ge
    exact_mod_cast hle
  unfold fix
  rw [if_neg hzero]
  dsimp only
  by_cases hlarge : ETOP < Nat.log 10 c + 1 + e - 28
  · refine Or.inl ⟨?_, if_pos hlarge⟩
    calc OVERFLOW ≤ 10 ^ 28 * 10 ^ ETOP := mul_le_mul_of_nonneg_right (by norm_num) (zpow_ten_pos ETOP).le
      _ = 10 ^ (28 + ETOP) := by
        rw [zpow_add₀ (by norm_num)]
        norm_cast
      _ ≤ 10 ^ (Nat.log 10 c + e : ℤ) := zpow_le_zpow_right₀ (by norm_num) (by omega)
      _ ≤ c * 10 ^ e := hlow
  rw [if_neg hlarge]
  have hplaces : min (27 - Int.log 10 |(c * 10 ^ e : ℚ)|) (-ETINY) = -max (Nat.log 10 c + 1 + e - 28 : ℤ) ETINY := by
    rw [abs_of_pos hpos, hlog, max_def, min_def]
    split_ifs <;> omega
  have hleast : max (Nat.log 10 c + 1 + e - 28 : ℤ) ETINY ≤ ETOP := max_le (not_lt.mp hlarge) (by decide)
  have hbelow : (c * 10 ^ e : ℚ) < 10 ^ (28 + max (Nat.log 10 c + 1 + e - 28 : ℤ) ETINY) := by
    refine hhigh.trans_le (zpow_le_zpow_right₀ (by norm_num) ?_)
    have hmax := le_max_left (Nat.log 10 c + 1 + e - 28 : ℤ) ETINY
    omega
  unfold nearest
  rw [hplaces]
  generalize max (Nat.log 10 c + 1 + e - 28 : ℤ) ETINY = least at hleast hbelow
  rcases lt_or_ge e least with hcut | hkept
  · rw [if_pos hcut]
    exact cut_cases negative hleast hbelow hcut rfl
  · rw [if_neg hkept.not_gt]
    obtain ⟨hroom, hvalue⟩ := kept_cases hleast hbelow hkept
    exact Or.inr ⟨hroom, c, e, rfl, hvalue⟩

/-! ## Sums and products -/

/-- What the context makes of an exact result. -/
structure Rounds (exact : ℚ) (result : Option Decimal) : Prop where
  raises : result = none ↔ OVERFLOW ≤ |exact|
  value : ∀ d, result = some d → d.isFinite = true ∧ d.value = nearest exact

theorem fix_rounds (negative : Bool) (c : ℕ) (e : ℤ) : Rounds (finite negative c e).value (fix negative c e) := by
  have habs : |(finite negative c e).value| = c * 10 ^ e := by
    have hpos : (0 : ℚ) ≤ c * 10 ^ e := mul_nonneg (Nat.cast_nonneg c) (zpow_ten_pos e).le
    rw [value_finite, abs_mul, abs_of_nonneg hpos]
    cases negative <;> simp
  have hnearest : nearest (finite negative c e).value = (if negative then -1 else 1) * nearest (c * 10 ^ e) := by
    rw [value_finite]
    cases negative
    · rw [if_neg (by simp), one_mul, one_mul]
    · rw [if_pos rfl, neg_one_mul, neg_one_mul, nearest_neg]
  rcases fix_cases negative c e with ⟨hover, hnone⟩ | ⟨hroom, d, g, hsome, hvalue⟩
  · refine ⟨iff_of_true hnone (habs ▸ hover), ?_⟩
    simp [hnone]
  · refine ⟨iff_of_false (by simp [hsome]) (not_le.mpr (habs ▸ hroom)), ?_⟩
    intro r hr
    obtain rfl := Option.some.inj (hsome.symm.trans hr)
    exact ⟨rfl, by rw [value_finite, hvalue, hnearest]⟩

theorem nearest_exact {x : ℚ} (h : Representable x) : |x| < OVERFLOW ∧ nearest x = x := by
  obtain ⟨m, e, hm, hlow, hhigh, rfl⟩ := h
  have hvalue : (finite (m < 0) m.natAbs e).value = m * 10 ^ e := by
    have hint := value_int m
    rw [value_finite, zpow_zero, mul_one] at hint
    rw [value_finite, ← mul_assoc, hint]
  have hcast : (m.natAbs * 10 ^ e : ℚ) = (m.natAbs : ℤ) * 10 ^ e := by rw [Int.cast_natCast]
  obtain ⟨r, hr, -, hexact⟩ := fix_exact (m < 0) ⟨m.natAbs, e, hm, hlow, hhigh, hcast⟩
  have hrounds := fix_rounds (m < 0) m.natAbs e
  rw [hvalue] at hrounds hexact
  refine ⟨?_, (hrounds.value r hr).2.symm.trans hexact⟩
  rw [← not_le, ← hrounds.raises, hr]
  exact Option.some_ne_none r

/-- `a * b`. -/
def mul : Decimal → Decimal → Option Decimal
  | .finite negative c e, .finite negative' d f => fix (negative != negative') (c * d) (e + f)
  | _, _ => none

variable {a b : Decimal}

theorem mul_rounds (ha : a.isFinite = true) (hb : b.isFinite = true) : Rounds (a.value * b.value) (a.mul b) := by
  cases a with
  | special => cases ha
  | finite negative c e =>
    cases b with
    | special => cases hb
    | finite negative' d f =>
      have hvalue : (finite negative c e).value * (finite negative' d f).value =
          (finite (negative != negative') (c * d) (e + f)).value := by
        rw [value_finite, value_finite, value_finite, zpow_add₀ (by norm_num)]
        cases negative <;> cases negative' <;> push_cast <;> simp <;> ring
      rw [hvalue]
      exact fix_rounds _ _ _

theorem add_rounds (ha : a.isFinite = true) (hb : b.isFinite = true) : Rounds (a.value + b.value) (a.add b) := by
  obtain ⟨negative, c, e, hadd, hvalue⟩ := add_fix ha hb
  rw [hadd, ← hvalue]
  exact fix_rounds negative c e

/-! ## Results of the context -/

/-- A number whose exponents the context allows. -/
def InContext : Decimal → Prop
  | .finite _ c e => ETINY ≤ e ∧ (if c = 0 then e else e + Nat.log 10 c) ≤ 999999
  | .special => False

theorem log_lt_of_lt_pow {n : ℕ} (h : c < 10 ^ (n + 1)) : Nat.log 10 c ≤ n := by
  by_cases hzero : c = 0
  · simp [hzero]
  · exact Nat.lt_succ_iff.mp ((Nat.log_lt_iff_lt_pow (by norm_num) hzero).mpr h)

theorem fix_inContext {negative : Bool} {r : Decimal} (h : fix negative c e = some r) : r.InContext := by
  have hlast {d : ℕ} {f : ℤ} (hlow : ETINY ≤ f) (hhigh : f ≤ ETOP) (hd : Nat.log 10 d ≤ 27) :
      (finite negative d f).InContext := by
    have htop : ETOP = 999972 := rfl
    refine ⟨hlow, ?_⟩
    split_ifs <;> omega
  unfold fix at h
  dsimp only at h
  split_ifs at h with hzero hlarge hcut hround htop
  · cases h
    refine ⟨le_max_left _ _, ?_⟩
    rw [if_pos rfl]
    exact max_le (by decide) (min_le_right _ _)
  · cases h
    exact hlast (le_max_right _ _) (max_le (not_lt.mp hlarge) (by decide)) (log_lt_of_lt_pow hround)
  · cases h
    exact hlast (by have := le_max_right (Nat.log 10 c + 1 + e - 28 : ℤ) ETINY; omega) (not_lt.mp htop)
      (log_lt_of_lt_pow (by norm_num))
  · cases h
    have hlow := (le_max_right (Nat.log 10 c + 1 + e - 28 : ℤ) ETINY).trans (not_lt.mp hcut)
    have htop : ETOP = 999972 := rfl
    refine ⟨hlow, ?_⟩
    rw [if_neg hzero]
    omega

theorem add_inContext {r : Decimal} (h : a.add b = some r) : r.InContext := by
  cases a with
  | special => cases h
  | finite =>
    cases b with
    | special => cases h
    | finite => exact fix_inContext h

end Decimal

end CommerceAgent.Lib
