import CommerceAgent.Lib.Rounding

/-!
# Sums of decimals

Addition rounds its result to 28 digits. A sum is exact when the sums of all selections of its terms have no more.
-/

namespace CommerceAgent.Lib.Decimal

/-! ## The context -/

/-- The least exponent of a result. -/
def ETINY : ℤ := -1000026

/-- The largest exponent of a result with 28 digits. -/
def ETOP : ℤ := 999972

/-- The result for an exact one, rounded half to even; an overflow has none. -/
def fix (negative : Bool) (coefficient : ℕ) (exponent : ℤ) : Option Decimal :=
  if coefficient = 0 then some (.finite negative 0 (max ETINY (min exponent 999999)))
  else
    -- the exponent at which the coefficient has 28 digits
    let least := Nat.log 10 coefficient + 1 + exponent - 28
    if ETOP < least then none
    else
      let least := max least ETINY
      if exponent < least then
        let coefficient := roundHalfEven coefficient (10 ^ (least - exponent).toNat)
        if coefficient < 10 ^ 28 then some (.finite negative coefficient least)
        else if ETOP < least + 1 then none
        else some (.finite negative (10 ^ 27) (least + 1))
      else some (.finite negative coefficient exponent)

/-- The coefficient with its sign, at an exponent that is not larger. -/
def coefficientAt (exponent : ℤ) (negative : Bool) (coefficient : ℕ) (own : ℤ) : ℤ :=
  (if negative then -1 else 1) * (coefficient * 10 ^ (own - exponent).toNat : ℕ)

/-- `a + b`. -/
def add : Decimal → Decimal → Option Decimal
  | .finite negative c e, .finite negative' d f =>
    let exponent := min e f
    let sum := coefficientAt exponent negative c e + coefficientAt exponent negative' d f
    fix (if sum = 0 then negative && negative' else sum < 0) sum.natAbs exponent
  | _, _ => none

/-- `-a`, of a number that is subtracted. -/
def copy_negate : Decimal → Decimal
  | .finite negative c e => .finite (!negative) c e
  | .special => .special

/-- `a - b`. -/
def sub (a b : Decimal) : Option Decimal := a.add b.copy_negate

def abs : Decimal → Option Decimal
  | .finite _ c e => fix false c e
  | .special => none

/-- `Decimal(0)`. -/
def zero : Decimal := .finite false 0 0

/-- `sum(values, start=Decimal(0))`. -/
def sum (values : List Decimal) : Option Decimal := values.foldlM add zero

/-! ## Exact results -/

/-- A number that the context can hold. -/
def Representable (x : ℚ) : Prop :=
  ∃ (m : ℤ) (e : ℤ), m.natAbs < 10 ^ 28 ∧ ETINY ≤ e ∧ e ≤ ETOP ∧ x = m * 10 ^ e

theorem zpow_ten_pos (e : ℤ) : (0 : ℚ) < 10 ^ e := zpow_pos (by norm_num) e

theorem coefficient_shift {c m : ℕ} {e f : ℤ} (h : (c * 10 ^ e : ℚ) = m * 10 ^ f) (hle : e ≤ f) :
    c = m * 10 ^ (f - e).toNat := by
  have hsplit : (10 : ℚ) ^ f = 10 ^ (f - e).toNat * 10 ^ e := by
    rw [← zpow_natCast, ← zpow_add₀ (by norm_num)]
    congr 1
    omega
  rw [hsplit, ← mul_assoc] at h
  have hcast := mul_right_cancel₀ (zpow_ten_pos e).ne' h
  exact_mod_cast hcast

/-- A number with 28 digits at an exponent does not reach the power behind them. -/
theorem log_add_lt {c m : ℕ} {e f : ℤ} (h : (c * 10 ^ e : ℚ) = m * 10 ^ f) (hc : c ≠ 0) (hm : m < 10 ^ 28) :
    Nat.log 10 c + e < 28 + f := by
  have hten : (1 : ℚ) < 10 := by norm_num
  rw [← zpow_lt_zpow_iff_right₀ hten]
  have hlow : ((10 ^ Nat.log 10 c : ℕ) : ℚ) ≤ c := by exact_mod_cast Nat.pow_log_le_self 10 hc
  have hhigh : (m : ℚ) < (10 ^ 28 : ℕ) := by exact_mod_cast hm
  calc (10 : ℚ) ^ (Nat.log 10 c + e : ℤ) = (10 ^ Nat.log 10 c : ℕ) * 10 ^ e := by
        rw [zpow_add₀ (by norm_num), zpow_natCast]
        push_cast
        rfl
    _ ≤ c * 10 ^ e := mul_le_mul_of_nonneg_right hlow (zpow_ten_pos e).le
    _ = m * 10 ^ f := h
    _ < (10 ^ 28 : ℕ) * 10 ^ f := mul_lt_mul_of_pos_right hhigh (zpow_ten_pos f)
    _ = (10 : ℚ) ^ (28 + f) := by
        rw [zpow_add₀ (by norm_num)]
        norm_num

theorem fix_eq (negative : Bool) {c m : ℕ} {e f : ℤ} (h : (c * 10 ^ e : ℚ) = m * 10 ^ f) (hm : m < 10 ^ 28)
    (hlow : ETINY ≤ f) (hhigh : f ≤ ETOP) :
    ∃ d g, fix negative c e = some (finite negative d g) ∧ (d * 10 ^ g : ℚ) = c * 10 ^ e := by
  unfold fix
  by_cases hzero : c = 0
  · rw [if_pos hzero, hzero]
    exact ⟨_, _, rfl, by simp⟩
  · have hlog := log_add_lt h hzero hm
    rw [if_neg hzero]
    dsimp only
    rw [if_neg (by omega)]
    have hleast : max (Nat.log 10 c + 1 + e - 28 : ℤ) ETINY ≤ f := max_le (by omega) hlow
    have hmax := le_max_left (Nat.log 10 c + 1 + e - 28 : ℤ) ETINY
    generalize max (Nat.log 10 c + 1 + e - 28 : ℤ) ETINY = least at hleast hmax
    rcases lt_or_ge e least with hround | hkept
    · have hshift : c = m * 10 ^ (f - least).toNat * 10 ^ (least - e).toNat := by
        rw [coefficient_shift h (by omega), mul_assoc, ← pow_add]
        congr 2
        omega
      generalize m * 10 ^ (f - least).toNat = d at hshift
      have hdigits : d < 10 ^ 28 := by
        have hlt : d * 10 ^ (least - e).toNat < 10 ^ 28 * 10 ^ (least - e).toNat := by
          calc d * 10 ^ (least - e).toNat = c := hshift.symm
            _ < 10 ^ (Nat.log 10 c + 1) := Nat.lt_pow_succ_log_self (by norm_num) c
            _ ≤ 10 ^ (28 + (least - e).toNat) := Nat.pow_le_pow_right (by norm_num) (by omega)
            _ = 10 ^ 28 * 10 ^ (least - e).toNat := pow_add _ _ _
        exact Nat.lt_of_mul_lt_mul_right hlt
      have hvalue : (d * 10 ^ least : ℚ) = c * 10 ^ e := by
        have hpow : (10 : ℚ) ^ least = 10 ^ (least - e).toNat * 10 ^ e := by
          rw [← zpow_natCast, ← zpow_add₀ (by norm_num)]
          congr 1
          omega
        rw [hpow, ← mul_assoc]
        congr 1
        exact_mod_cast hshift.symm
      rw [if_pos hround, hshift, roundHalfEven_mul d (by positivity), if_pos hdigits, ← hshift]
      exact ⟨d, least, rfl, hvalue⟩
    · rw [if_neg hkept.not_gt]
      exact ⟨c, e, rfl, rfl⟩

theorem fix_exact (negative : Bool) {c : ℕ} {e : ℤ} (h : Representable (c * 10 ^ e)) :
    ∃ r, fix negative c e = some r ∧ r.isFinite = true ∧ r.value = (finite negative c e).value := by
  obtain ⟨m, f, hm, hlow, hhigh, hvalue⟩ := h
  have hpos : (0 : ℚ) ≤ m := by
    refine nonneg_of_mul_nonneg_left ?_ (zpow_ten_pos f)
    rw [← hvalue]
    exact mul_nonneg (Nat.cast_nonneg c) (zpow_ten_pos e).le
  have hcast : (m.natAbs : ℚ) = m := by
    rw [Nat.cast_natAbs, Int.cast_abs, abs_of_nonneg hpos]
  rw [← hcast] at hvalue
  obtain ⟨d, g, hfix, hsame⟩ := fix_eq negative hvalue hm hlow hhigh
  refine ⟨_, hfix, rfl, ?_⟩
  rw [value_finite, value_finite, hsame]

theorem Representable.neg {x : ℚ} (h : Representable x) : Representable (-x) := by
  obtain ⟨m, e, hm, hlow, hhigh, rfl⟩ := h
  exact ⟨-m, e, by rwa [Int.natAbs_neg], hlow, hhigh, by push_cast; ring⟩

theorem Representable.abs {x : ℚ} (h : Representable x) : Representable |x| := by
  rcases abs_choice x with hx | hx
  · rwa [hx]
  · rw [hx]
    exact h.neg

/-! ## Exact sums -/

theorem value_coefficientAt {exponent own : ℤ} (hle : exponent ≤ own) (negative : Bool) (c : ℕ) :
    (coefficientAt exponent negative c own * 10 ^ exponent : ℚ) = (finite negative c own).value := by
  have hpow : (10 : ℚ) ^ own = 10 ^ (own - exponent).toNat * 10 ^ exponent := by
    rw [← zpow_natCast, ← zpow_add₀ (by norm_num)]
    congr 1
    omega
  rw [value_finite, hpow]
  unfold coefficientAt
  cases negative <;> push_cast <;> simp [mul_assoc]

theorem add_fix {a b : Decimal} (ha : a.isFinite = true) (hb : b.isFinite = true) :
    ∃ negative c e, a.add b = fix negative c e ∧ (finite negative c e).value = a.value + b.value := by
  cases a with
  | special => cases ha
  | finite negative c e =>
    cases b with
    | special => cases hb
    | finite negative' d f =>
      have hleft := value_coefficientAt (min_le_left e f) negative c
      have hright := value_coefficientAt (min_le_right e f) negative' d
      unfold add
      dsimp only
      rw [← hleft, ← hright, ← add_mul, ← Int.cast_add]
      generalize coefficientAt (min e f) negative c e + coefficientAt (min e f) negative' d f = sum
      refine ⟨_, _, _, rfl, ?_⟩
      rw [value_finite, ← mul_assoc]
      congr 1
      rcases lt_trichotomy sum 0 with hneg | rfl | hpos
      · rw [if_neg hneg.ne, if_pos (decide_eq_true hneg), Nat.cast_natAbs, Int.cast_abs,
          abs_of_neg (by exact_mod_cast hneg)]
        ring
      · simp
      · rw [if_neg hpos.ne', if_neg (by simpa using hpos.le), Nat.cast_natAbs, Int.cast_abs,
          abs_of_pos (by exact_mod_cast hpos), one_mul]

theorem add_exact {a b : Decimal} (ha : a.isFinite = true) (hb : b.isFinite = true)
    (h : Representable (a.value + b.value)) :
    ∃ r, a.add b = some r ∧ r.isFinite = true ∧ r.value = a.value + b.value := by
  obtain ⟨negative, c, e, hadd, hvalue⟩ := add_fix ha hb
  have habs : (c * 10 ^ e : ℚ) = |a.value + b.value| := by
    have hpos : (0 : ℚ) ≤ c * 10 ^ e := mul_nonneg (Nat.cast_nonneg c) (zpow_ten_pos e).le
    rw [← hvalue, value_finite, abs_mul, abs_of_nonneg hpos]
    cases negative <;> simp
  obtain ⟨r, hr, hfinite, hrvalue⟩ := fix_exact negative (habs ▸ h.abs)
  exact ⟨r, hadd.trans hr, hfinite, hrvalue.trans hvalue⟩

theorem value_copy_negate (a : Decimal) : a.copy_negate.value = -a.value := by
  cases a with
  | special => simp [copy_negate, value, num]
  | finite negative c e =>
    unfold copy_negate
    rw [value_finite, value_finite]
    cases negative <;> simp

theorem abs_sub_exact {a b : Decimal} (ha : a.isFinite = true) (hb : b.isFinite = true)
    (h : Representable (a.value - b.value)) :
    ∃ difference, (a.sub b).bind abs = some difference ∧ difference.value = |a.value - b.value| := by
  have hnegate : b.copy_negate.isFinite = true := by
    cases b with
    | special => cases hb
    | finite => rfl
  rw [sub_eq_add_neg, ← value_copy_negate] at h ⊢
  obtain ⟨r, hr, hfinite, hvalue⟩ := add_exact ha hnegate h
  unfold sub
  rw [hr, Option.bind_some]
  rw [← hvalue] at h ⊢
  cases r with
  | special => cases hfinite
  | finite negative c e =>
    have habs : (c * 10 ^ e : ℚ) = |(finite negative c e).value| := by
      have hpos : (0 : ℚ) ≤ c * 10 ^ e := mul_nonneg (Nat.cast_nonneg c) (zpow_ten_pos e).le
      rw [value_finite, abs_mul, abs_of_nonneg hpos]
      cases negative <;> simp
    obtain ⟨d, hd, -, hdvalue⟩ := fix_exact false (habs ▸ h.abs)
    refine ⟨d, hd, ?_⟩
    rw [hdvalue, ← habs, value_finite, if_neg (by simp), one_mul]

/-- The sums of all selections of the terms can be held. -/
def SumsHeld (terms : List ℚ) : Prop := ∀ part : List ℚ, part.Sublist terms → Representable part.sum

theorem foldlM_add_exact (acc : Decimal) (hacc : acc.isFinite = true) {values : List Decimal}
    (hfinite : ∀ a ∈ values, a.isFinite = true)
    (h : ∀ part, part <+: values → Representable (acc.value + (part.map value).sum)) :
    ∃ total, values.foldlM add acc = some total ∧ total.isFinite = true ∧
      total.value = acc.value + (values.map value).sum := by
  induction values generalizing acc with
  | nil => exact ⟨acc, rfl, hacc, by simp⟩
  | cons a values ih =>
    obtain ⟨hfirst, hrest⟩ := List.forall_mem_cons.mp hfinite
    have hadd := h [a] (List.prefix_append [a] values)
    rw [List.map_singleton, List.sum_singleton] at hadd
    obtain ⟨next, hnext, hnextFinite, hvalue⟩ := add_exact hacc hfirst hadd
    obtain ⟨total, htotal, htotalFinite, hsum⟩ := ih next hnextFinite hrest fun part hpart => by
      have hcons := h (a :: part) ((List.prefix_cons_inj a).mpr hpart)
      rwa [List.map_cons, List.sum_cons, ← add_assoc, ← hvalue] at hcons
    refine ⟨total, ?_, htotalFinite, ?_⟩
    · rw [List.foldlM_cons, hnext]
      exact htotal
    · rw [hsum, hvalue, List.map_cons, List.sum_cons, add_assoc]

theorem value_zero : zero.value = 0 := by
  unfold zero
  rw [value_finite]
  simp

theorem sum_exact {values terms : List Decimal} (h : SumsHeld (values.map value)) (hperm : terms.Perm values)
    (hfinite : ∀ a ∈ values, a.isFinite = true) :
    ∃ total, sum terms = some total ∧ total.isFinite = true ∧ total.value = (values.map value).sum := by
  obtain ⟨total, htotal, htotalFinite, hsum⟩ :=
    foldlM_add_exact zero rfl (fun a ha => hfinite a (hperm.mem_iff.mp ha)) fun part hpart => by
      obtain ⟨own, hown, hsub⟩ := hpart.sublist.subperm.trans hperm.subperm
      rw [value_zero, zero_add, ← (hown.map value).sum_eq]
      exact h (own.map value) (hsub.map value)
  refine ⟨total, htotal, htotalFinite, ?_⟩
  rw [hsum, value_zero, zero_add, (hperm.map value).sum_eq]

theorem sumsHeld_of_naturals {ns : List ℕ} (h : ns.sum < 10 ^ 28) : SumsHeld (ns.map Nat.cast) := by
  intro part hpart
  obtain ⟨own, hown, rfl⟩ := List.sublist_map_iff.mp hpart
  have hle : own.sum ≤ ns.sum := hown.sum_le_sum fun n _ => Nat.zero_le n
  refine ⟨own.sum, 0, by omega, by decide, by decide, ?_⟩
  rw [zpow_zero, mul_one, Int.cast_natCast]
  exact (map_list_sum (Nat.castAddMonoidHom ℚ) own).symm

end CommerceAgent.Lib.Decimal
