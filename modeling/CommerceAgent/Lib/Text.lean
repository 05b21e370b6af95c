import Mathlib.Tactic.Common
import Mathlib.Tactic.Ring
import Mathlib.Data.List.Basic

/-!
# Numbers as text

Decimal and fixed-width digit strings. Each writer is injective, also with more text
behind it, as long as that text does not begin with a digit.
-/

namespace CommerceAgent.Lib

/-- The UTF-8 bytes of a text. -/
def utf8 (s : String) : List UInt8 := s.toUTF8.data.toList

theorem utf8_inj {s t : String} : utf8 s = utf8 t ↔ s = t := by
  constructor
  · intro h
    exact String.toByteArray_inj.mp (ByteArray.ext (Array.toList_inj.mp h))
  · rintro rfl
    rfl

/-- The text that bytes write in UTF-8, if they do. -/
def ofUtf8 (bytes : List UInt8) : Option String := String.fromUTF8? ⟨bytes.toArray⟩

@[simp] theorem ofUtf8_utf8 (s : String) : ofUtf8 (utf8 s) = some s := by
  have hbytes : (⟨(utf8 s).toArray⟩ : ByteArray) = s.toUTF8 := rfl
  rw [ofUtf8, hbytes, String.fromUTF8?]
  exact dif_pos s.isValidUTF8

/-- Text that does not begin with a digit. -/
def Stop (r : List Char) : Prop := ∀ c, r.head? = some c → c.isDigit = false

@[simp] theorem stop_nil : Stop [] := by simp [Stop]

@[simp] theorem stop_cons (c : Char) (r : List Char) : Stop (c :: r) ↔ c.isDigit = false := by
  simp [Stop]

/-! ## Decimal digits -/

theorem isDigit_of_mem_toDigits {n : ℕ} {c : Char} (h : c ∈ Nat.toDigits 10 n) : c.isDigit = true :=
  Nat.isDigit_of_mem_toDigits (by omega) (by omega) h

theorem toDigits_inj {n m : ℕ} (h : Nat.toDigits 10 n = Nat.toDigits 10 m) : n = m := by
  have := congrArg (Nat.ofDigitChars 10 · 0) h
  simpa only [Nat.ofDigitChars_ten_toDigits] using this

theorem digits_append_inj {xs ys r s : List Char} (hx : ∀ c ∈ xs, c.isDigit = true)
    (hy : ∀ c ∈ ys, c.isDigit = true) (hr : Stop r) (hs : Stop s) (h : xs ++ r = ys ++ s) :
    xs = ys ∧ r = s := by
  induction xs generalizing ys with
  | nil =>
    cases ys with
    | nil => exact ⟨rfl, h⟩
    | cons y ys =>
      rw [List.nil_append, List.cons_append] at h
      have hd := hr y (by rw [h, List.head?_cons])
      rw [hy y (by simp)] at hd
      cases hd
  | cons x xs ih =>
    cases ys with
    | nil =>
      rw [List.nil_append, List.cons_append] at h
      have hd := hs x (by rw [← h, List.head?_cons])
      rw [hx x (by simp)] at hd
      cases hd
    | cons y ys =>
      simp only [List.cons_append, List.cons.injEq] at h
      obtain ⟨rfl, h⟩ := h
      have := ih (fun c hc => hx c (by simp [hc])) (fun c hc => hy c (by simp [hc])) h
      simp_all

theorem toDigits_append_inj {n m : ℕ} {r s : List Char} (hr : Stop r) (hs : Stop s)
    (h : Nat.toDigits 10 n ++ r = Nat.toDigits 10 m ++ s) : n = m ∧ r = s := by
  obtain ⟨hd, rfl⟩ := digits_append_inj (fun _ => isDigit_of_mem_toDigits)
    (fun _ => isDigit_of_mem_toDigits) hr hs h
  exact ⟨toDigits_inj hd, rfl⟩

/-- An integer in decimal. -/
def intText : ℤ → List Char
  | .ofNat n => Nat.toDigits 10 n
  | .negSucc n => '-' :: Nat.toDigits 10 (n + 1)

theorem minus_not_toDigits {n : ℕ} {r s : List Char} : Nat.toDigits 10 n ++ r ≠ '-' :: s := by
  intro h
  obtain ⟨c, cs, hc⟩ := List.exists_cons_of_ne_nil (Nat.toDigits_ne_nil (b := 10) (n := n))
  have hd : c.isDigit = true := isDigit_of_mem_toDigits (n := n) (by simp [hc])
  rw [hc, List.cons_append, List.cons.injEq] at h
  rw [h.1] at hd
  exact absurd hd (by decide)

theorem intText_append_inj {a b : ℤ} {r s : List Char} (hr : Stop r) (hs : Stop s)
    (h : intText a ++ r = intText b ++ s) : a = b ∧ r = s := by
  cases a with
  | ofNat n =>
    cases b with
    | ofNat m =>
      obtain ⟨rfl, rfl⟩ := toDigits_append_inj hr hs h
      exact ⟨rfl, rfl⟩
    | negSucc m => exact absurd h minus_not_toDigits
  | negSucc n =>
    cases b with
    | ofNat m => exact absurd h.symm minus_not_toDigits
    | negSucc m =>
      simp only [intText, List.cons_append, List.cons.injEq, true_and] at h
      obtain ⟨hnm, rfl⟩ := toDigits_append_inj hr hs h
      obtain rfl : n = m := by omega
      exact ⟨rfl, rfl⟩

/-! ## Fixed width -/

/-- The last `w` digits of `n` in base `b`. -/
def fixedText (b : ℕ) : ℕ → ℕ → List Char
  | 0, _ => []
  | w + 1, n => fixedText b w (n / b) ++ [(n % b).digitChar]

@[simp] theorem length_fixedText (b w n : ℕ) : (fixedText b w n).length = w := by
  induction w generalizing n with
  | zero => rfl
  | succ w ih => simp [fixedText, ih]

theorem digitChar_inj {n m : ℕ} (hn : n < 16) (hm : m < 16) (h : n.digitChar = m.digitChar) : n = m := by
  revert h
  have : ∀ n < 16, ∀ m < 16, n.digitChar = m.digitChar → n = m := by decide
  exact this n hn m hm

theorem fixedText_inj {b w n m : ℕ} (hb : b ≤ 16) (hn : n < b ^ w) (hm : m < b ^ w)
    (h : fixedText b w n = fixedText b w m) : n = m := by
  induction w generalizing n m with
  | zero => simp_all
  | succ w ih =>
    have hpos : 0 < b := Nat.pos_of_ne_zero (by rintro rfl; simp at hn)
    simp only [fixedText] at h
    obtain ⟨hdiv, hmod⟩ := List.append_inj' h rfl
    have hq : n / b = m / b :=
      ih (Nat.div_lt_of_lt_mul (by rwa [mul_comm, ← pow_succ]))
        (Nat.div_lt_of_lt_mul (by rwa [mul_comm, ← pow_succ])) hdiv
    have hr : n % b = m % b := by
      have h₁ := Nat.mod_lt n hpos
      have h₂ := Nat.mod_lt m hpos
      exact digitChar_inj (by omega) (by omega) (by simpa using hmod)
    rw [← Nat.div_add_mod n b, ← Nat.div_add_mod m b, hq, hr]

theorem isDigit_of_mem_fixedText {w n : ℕ} {c : Char} (h : c ∈ fixedText 10 w n) : c.isDigit = true := by
  induction w generalizing n with
  | zero => simp [fixedText] at h
  | succ w ih =>
    simp only [fixedText, List.mem_append, List.mem_singleton] at h
    rcases h with h | rfl
    · exact ih h
    · simpa using Nat.mod_lt n (by omega)

theorem ofDigitChars_fixedText (w n : ℕ) :
    Nat.ofDigitChars 10 (fixedText 10 w n) 0 = n % 10 ^ w := by
  induction w generalizing n with
  | zero => simp [fixedText, Nat.ofDigitChars, Nat.mod_one]
  | succ w ih =>
    have hd : (n % 10).digitChar.toNat - 48 = n % 10 :=
      Nat.toNat_digitChar_sub_48_of_lt_ten (Nat.mod_lt n (by omega))
    rw [fixedText, Nat.ofDigitChars_append, ih]
    simp only [Nat.ofDigitChars, List.foldl_cons, List.foldl_nil]
    have hz : '0'.toNat = 48 := rfl
    rw [hz, hd, pow_succ, mul_comm (10 ^ w), Nat.mod_mul]
    ring

/-- The number that a run of digits writes. -/
def digitsValue (cs : List Char) : Option ℕ :=
  if cs ≠ [] ∧ cs.all Char.isDigit then some (Nat.ofDigitChars 10 cs 0) else none

theorem digitsValue_fixedText {w n : ℕ} (hw : 0 < w) (hn : n < 10 ^ w) :
    digitsValue (fixedText 10 w n) = some n := by
  have hne : fixedText 10 w n ≠ [] := by
    rw [← List.length_pos_iff, length_fixedText]
    exact hw
  rw [digitsValue, if_pos ⟨hne, List.all_eq_true.mpr fun _ => isDigit_of_mem_fixedText⟩, ofDigitChars_fixedText,
    Nat.mod_eq_of_lt hn]

/-! ## Hexadecimal -/

def hexDigitValue (c : Char) : Option ℕ :=
  if c.isDigit then some (c.toNat - 48)
  else if 'a' ≤ c ∧ c ≤ 'f' then some (c.toNat - 87)
  else none

/-- The number that lower-case hexadecimal digits write. -/
def hexValue (cs : List Char) : Option ℕ :=
  cs.foldl (fun acc c => do return (← acc) * 16 + (← hexDigitValue c)) (some 0)

theorem hexDigitValue_digitChar {n : ℕ} (hn : n < 16) : hexDigitValue n.digitChar = some n := by
  have key : ∀ n < 16, hexDigitValue n.digitChar = some n := by decide
  exact key n hn

theorem hexValue_fixedText (w n : ℕ) : hexValue (fixedText 16 w n) = some (n % 16 ^ w) := by
  induction w generalizing n with
  | zero => simp [fixedText, hexValue, Nat.mod_one]
  | succ w ih =>
    have hlast (cs : List Char) (c : Char) :
        hexValue (cs ++ [c]) = do return (← hexValue cs) * 16 + (← hexDigitValue c) := by
      simp [hexValue]
    rw [fixedText, hlast, ih]
    simp only [hexDigitValue_digitChar (Nat.mod_lt n (by omega)),
      Option.bind_eq_bind, Option.bind_some, Option.pure_def, Option.some.injEq]
    rw [pow_succ, mul_comm (16 ^ w), Nat.mod_mul]
    ring

theorem mem_fixedText_sixteen {w n : ℕ} {c : Char} (h : c ∈ fixedText 16 w n) :
    c ∈ "0123456789abcdef".toList := by
  have key : ∀ n < 16, n.digitChar ∈ "0123456789abcdef".toList := by decide
  induction w generalizing n with
  | zero => simp [fixedText] at h
  | succ w ih =>
    simp only [fixedText, List.mem_append, List.mem_singleton] at h
    rcases h with h | rfl
    · exact ih h
    · exact key _ (Nat.mod_lt n (by omega))

end CommerceAgent.Lib
