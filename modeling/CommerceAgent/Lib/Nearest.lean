import CommerceAgent.Lib.NumeralSum
import Mathlib.Algebra.Order.Floor.Ring

/-!
# The nearest decimal

Rounding to 28 digits keeps the order. So a rounded sum stays below what as many of its largest term would be.
-/

namespace CommerceAgent.Lib

theorem floor_le_roundEven (x : ℚ) : ⌊x⌋ ≤ roundEven x := by
  unfold roundEven
  split_ifs <;> omega

theorem roundEven_le_floor_add_one (x : ℚ) : roundEven x ≤ ⌊x⌋ + 1 := by
  unfold roundEven
  split_ifs <;> omega

theorem roundEven_mono {x y : ℚ} (h : x ≤ y) : roundEven x ≤ roundEven y := by
  rcases (Int.floor_le_floor h).lt_or_eq with hlt | heq
  · have hx := roundEven_le_floor_add_one x
    have hy := floor_le_roundEven y
    omega
  · by_cases hdown : roundEven x = ⌊x⌋
    · rw [hdown, heq]
      exact floor_le_roundEven y
    · -- `x` is rounded up, and `y` is not closer to the same floor
      have hup : ¬ (2 * (x - ⌊x⌋) < 1 ∨ (2 * (x - ⌊x⌋) = 1 ∧ ⌊x⌋ % 2 = 0)) := fun hnear => hdown (if_pos hnear)
      have hy : ¬ (2 * (y - ⌊y⌋) < 1 ∨ (2 * (y - ⌊y⌋) = 1 ∧ ⌊y⌋ % 2 = 0)) := by
        rw [← heq]
        rintro (hlt | ⟨hhalf, heven⟩)
        · exact hup (Or.inl (by linarith))
        · rcases (show 2 * (x - ⌊x⌋) ≤ 1 by linarith).lt_or_eq with hlt | hsame
          · exact hup (Or.inl hlt)
          · exact hup (Or.inr ⟨hsame, heven⟩)
      unfold roundEven
      rw [if_neg hup, if_neg hy, heq]

theorem toPlaces_mono (places : ℤ) {x y : ℚ} (h : x ≤ y) : toPlaces places x ≤ toPlaces places y := by
  have hpow : (0 : ℚ) < 10 ^ places := zpow_pos (by norm_num) places
  have hround : roundEven (x * 10 ^ places) ≤ roundEven (y * 10 ^ places) :=
    roundEven_mono (mul_le_mul_of_nonneg_right h hpow.le)
  exact div_le_div_of_nonneg_right (by exact_mod_cast hround) hpow.le

theorem toPlaces_ten_pow {places k : ℤ} (h : -places ≤ k) : toPlaces places (10 ^ k) = 10 ^ k := by
  have hsplit : (10 : ℚ) ^ k = ((10 ^ (k + places).toNat : ℤ) : ℚ) * 10 ^ (-places) := by
    push_cast
    rw [← zpow_natCast, ← zpow_add₀ (by norm_num), Int.toNat_of_nonneg (by omega), add_neg_cancel_right]
  have hkept := toPlaces_intCast_mul (10 ^ (k + places).toNat) (-places)
  rw [neg_neg] at hkept
  rw [hsplit]
  exact hkept

namespace Decimal

/-- The places behind the point that are kept of a number. -/
def placesOf (x : ℚ) : ℤ := min (27 - Int.log 10 |x|) (-ETINY)

theorem nearest_eq (x : ℚ) : nearest x = toPlaces (placesOf x) x := rfl

theorem nearest_mono_of_pos {x y : ℚ} (hx : 0 < x) (h : x ≤ y) : nearest x ≤ nearest y := by
  have hy : 0 < y := lt_of_lt_of_le hx h
  rw [nearest_eq, nearest_eq]
  rcases (Int.log_mono_right hx h : Int.log 10 x ≤ Int.log 10 y).lt_or_eq with hlt | heq
  · by_cases htiny : Int.log 10 y ≤ 27 + ETINY
    · -- both are rounded at the least exponent
      have hsame : placesOf x = placesOf y := by
        unfold placesOf
        rw [abs_of_pos hx, abs_of_pos hy]
        omega
      rw [hsame]
      exact toPlaces_mono _ h
    · -- a power of ten between them is kept by both
      have hxtop : x ≤ 10 ^ Int.log 10 y := by
        have hbelow := Int.lt_zpow_succ_log_self (by norm_num : 1 < 10) x
        push_cast at hbelow
        refine hbelow.le.trans (zpow_le_zpow_right₀ (by norm_num) ?_)
        omega
      have hybottom : (10 : ℚ) ^ Int.log 10 y ≤ y := by
        have habove := Int.zpow_log_le_self (b := 10) (by norm_num) hy
        push_cast at habove
        exact habove
      have hxkept := toPlaces_mono (placesOf x) hxtop
      have hykept := toPlaces_mono (placesOf y) hybottom
      rw [toPlaces_ten_pow] at hxkept hykept
      · exact hxkept.trans hykept
      · unfold placesOf ETINY
        rw [abs_of_pos hy]
        unfold ETINY at htiny
        omega
      · unfold placesOf ETINY
        rw [abs_of_pos hx]
        unfold ETINY at htiny
        omega
  · have hsame : placesOf x = placesOf y := by
      unfold placesOf
      rw [abs_of_pos hx, abs_of_pos hy, heq]
    rw [hsame]
    exact toPlaces_mono _ h

/-- **Rounding to 28 digits keeps the order.** -/
theorem nearest_mono {x y : ℚ} (h : x ≤ y) : nearest x ≤ nearest y := by
  rcases lt_or_ge 0 x with hx | hx
  · exact nearest_mono_of_pos hx h
  · have hlow : nearest x ≤ 0 := by
      have hnonneg := nearest_nonneg (neg_nonneg.mpr hx)
      rw [nearest_neg] at hnonneg
      linarith
    rcases lt_or_ge y 0 with hy | hy
    · have hmirror := nearest_mono_of_pos (neg_pos.mpr hy) (neg_le_neg h)
      rw [nearest_neg, nearest_neg] at hmirror
      linarith
    · exact hlow.trans (nearest_nonneg hy)

theorem nearest_le {x bound : ℚ} (h : x ≤ bound) (hbound : Representable bound) : nearest x ≤ bound :=
  (nearest_mono h).trans_eq (nearest_exact hbound).2

theorem representable_natCast_mul {n : ℕ} (hn : n < 10 ^ 28) {k : ℤ} (hlow : ETINY ≤ k) (hhigh : k ≤ ETOP) :
    Representable (n * 10 ^ k) := ⟨n, k, by simpa using hn, hlow, hhigh, by simp⟩

/-- **A rounded sum of terms up to a power of ten is not above what as many of that power are.** -/
theorem roundedSum_le {values : List ℚ} {k : ℤ} (hterms : ∀ x ∈ values, 0 ≤ x ∧ x ≤ 10 ^ k)
    (hlength : values.length < 10 ^ 28) (hlow : ETINY ≤ k) (hhigh : k ≤ ETOP) :
    0 ≤ roundedSum values ∧ roundedSum values ≤ values.length * 10 ^ k := by
  induction values using List.reverseRecOn with
  | nil => exact ⟨le_refl _, by simp [roundedSum]⟩
  | append_singleton values x ih =>
    rw [List.length_append, List.length_singleton] at hlength
    obtain ⟨hnonneg, hle⟩ := ih (fun y hy => hterms y (List.mem_append_left _ hy)) (by omega)
    obtain ⟨hx, hxle⟩ := hterms x (List.mem_append_right _ List.mem_cons_self)
    rw [roundedSum_concat, List.length_append, List.length_singleton]
    refine ⟨nearest_nonneg (add_nonneg hnonneg hx), nearest_le ?_ (representable_natCast_mul hlength hlow hhigh)⟩
    push_cast
    rw [add_mul, one_mul]
    exact add_le_add hle hxle

end Decimal

end CommerceAgent.Lib
