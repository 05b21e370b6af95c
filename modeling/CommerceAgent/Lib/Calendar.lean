import CommerceAgent.Lib.Text

/-!
# Instants as calendar text

The proleptic Gregorian calendar, as `datetime` computes it, with days counted from 0 at
0001-01-01, and the text `YYYY-MM-DDTHH:MM:SS` of a second.
-/

namespace CommerceAgent.Lib.Calendar

def isLeap (y : ℕ) : Bool := y % 4 = 0 ∧ (y % 100 ≠ 0 ∨ y % 400 = 0)

def daysInMonth (leap : Bool) (m : ℕ) : ℕ :=
  [0, 31, if leap then 29 else 28, 31, 30, 31, 30, 31, 31, 30, 31, 30, 31].getD m 0

def daysBeforeMonth (leap : Bool) (m : ℕ) : ℕ :=
  [0, 0, 31, 59, 90, 120, 151, 181, 212, 243, 273, 304, 334].getD m 0 + if 2 < m ∧ leap then 1 else 0

def daysBeforeYear (y : ℕ) : ℕ := (y - 1) * 365 + (y - 1) / 4 - (y - 1) / 100 + (y - 1) / 400

/-- `_ymd2ord`, from 0. -/
def ymd2ord (y m d : ℕ) : ℕ := daysBeforeYear y + daysBeforeMonth (isLeap y) m + d - 1

/-- The month and the day of day `n` of a year. -/
def monthDay (leap : Bool) (n : ℕ) : ℕ × ℕ :=
  let month := (n + 50) / 32
  let preceding := daysBeforeMonth leap month
  if preceding > n then (month - 1, n - (preceding - daysInMonth leap (month - 1)) + 1)
  else (month, n - preceding + 1)

/-- `_ord2ymd`, from 0. -/
def ord2ymd (n : ℕ) : ℕ × ℕ × ℕ :=
  let n400 := n / 146097
  let n100 := n % 146097 / 36524
  let n4 := n % 146097 % 36524 / 1461
  let n1 := n % 146097 % 36524 % 1461 / 365
  let rest := n % 146097 % 36524 % 1461 % 365
  let year := n400 * 400 + 1 + n100 * 100 + n4 * 4 + n1
  if n1 = 4 ∨ n100 = 4 then (year - 1, 12, 31)
  else (year, monthDay (n1 = 3 ∧ (n4 ≠ 24 ∨ n100 = 3)) rest)

/-- The days that the calendar can name: 0001-01-01 to 9999-12-31. -/
def maxDays : ℕ := 3652059

/-! ## Round trip -/

theorem monthDay_spec (leap : Bool) {n : ℕ} (hn : n < if leap then 366 else 365) :
    daysBeforeMonth leap (monthDay leap n).1 + (monthDay leap n).2 = n + 1 ∧
      (monthDay leap n).1 ≤ 12 ∧ 1 ≤ (monthDay leap n).2 ∧ (monthDay leap n).2 ≤ 31 := by
  have key : ∀ leap : Bool, ∀ n < if leap then 366 else 365,
      daysBeforeMonth leap (monthDay leap n).1 + (monthDay leap n).2 = n + 1 ∧
        (monthDay leap n).1 ≤ 12 ∧ 1 ≤ (monthDay leap n).2 ∧ (monthDay leap n).2 ≤ 31 := by
    decide +kernel
  exact key leap n hn

theorem isLeap_iff (y : ℕ) : isLeap y = true ↔ y % 4 = 0 ∧ (y % 100 ≠ 0 ∨ y % 400 = 0) := by
  simp [isLeap]

theorem isLeap_cycle {a b c e : ℕ} (hb : b < 4) (hc : c < 25) (he : e < 4) :
    isLeap (a * 400 + 1 + b * 100 + c * 4 + e) = decide (e = 3 ∧ (c ≠ 24 ∨ b = 3)) := by
  rw [Bool.eq_iff_iff, isLeap_iff, decide_eq_true_iff]
  omega

theorem daysBeforeYear_cycle {a b c e : ℕ} (hb : b < 4) (hc : c < 25) (he : e < 4) :
    daysBeforeYear (a * 400 + 1 + b * 100 + c * 4 + e) = 146097 * a + 36524 * b + 1461 * c + 365 * e := by
  have h₁ : (a * 400 + 1 + b * 100 + c * 4 + e - 1) = a * 400 + b * 100 + c * 4 + e := by omega
  have h₄ : (a * 400 + b * 100 + c * 4 + e) / 4 = a * 100 + b * 25 + c := by omega
  have h₁₀₀ : (a * 400 + b * 100 + c * 4 + e) / 100 = a * 4 + b := by omega
  have h₄₀₀ : (a * 400 + b * 100 + c * 4 + e) / 400 = a := by omega
  rw [daysBeforeYear, h₁, h₄, h₁₀₀, h₄₀₀]
  omega

theorem ymd2ord_ord2ymd (n : ℕ) : ymd2ord (ord2ymd n).1 (ord2ymd n).2.1 (ord2ymd n).2.2 = n := by
  obtain ⟨a, ha⟩ : ∃ a, n / 146097 = a := ⟨_, rfl⟩
  obtain ⟨b, hb⟩ : ∃ b, n % 146097 / 36524 = b := ⟨_, rfl⟩
  obtain ⟨c, hc⟩ : ∃ c, n % 146097 % 36524 / 1461 = c := ⟨_, rfl⟩
  obtain ⟨e, he⟩ : ∃ e, n % 146097 % 36524 % 1461 / 365 = e := ⟨_, rfl⟩
  obtain ⟨r, hr⟩ : ∃ r, n % 146097 % 36524 % 1461 % 365 = r := ⟨_, rfl⟩
  have hn : n = 146097 * a + 36524 * b + 1461 * c + 365 * e + r := by omega
  simp only [ord2ymd, ha, hb, hc, he, hr]
  split_ifs with hend
  · -- the last day of a leap year that closes a cycle
    by_cases h4 : b = 4
    · have hz : c = 0 ∧ e = 0 ∧ r = 0 := by omega
      have hy : a * 400 + 1 + b * 100 + c * 4 + e - 1 = a * 400 + 1 + 3 * 100 + 24 * 4 + 3 := by omega
      have hleap : isLeap (a * 400 + 1 + 3 * 100 + 24 * 4 + 3) = true := by
        rw [isLeap_cycle (by omega) (by omega) (by omega)]
        decide
      simp only [hy]
      rw [ymd2ord, hleap, daysBeforeYear_cycle (by omega) (by omega) (by omega),
        show daysBeforeMonth true 12 = 335 from rfl]
      omega
    · have hz : e = 4 ∧ r = 0 ∧ c < 24 ∨ e = 4 ∧ r = 0 ∧ c = 24 ∧ b = 3 := by omega
      have hy : a * 400 + 1 + b * 100 + c * 4 + e - 1 = a * 400 + 1 + b * 100 + c * 4 + 3 := by omega
      have hleap : isLeap (a * 400 + 1 + b * 100 + c * 4 + 3) = true := by
        rw [isLeap_cycle (by omega) (by omega) (by omega), decide_eq_true_iff]
        omega
      simp only [hy]
      rw [ymd2ord, hleap, daysBeforeYear_cycle (by omega) (by omega) (by omega),
        show daysBeforeMonth true 12 = 335 from rfl]
      omega
  · have hbound : b < 4 ∧ c < 25 ∧ e < 4 ∧ r < 365 := by omega
    have hleap := isLeap_cycle (a := a) hbound.1 hbound.2.1 hbound.2.2.1
    have hm := monthDay_spec (decide (e = 3 ∧ (c ≠ 24 ∨ b = 3))) (n := r) (by split_ifs <;> omega)
    simp only
    rw [ymd2ord, hleap, daysBeforeYear_cycle (by omega) (by omega) (by omega)]
    omega

theorem ord2ymd_bounds {n : ℕ} (hn : n < maxDays) :
    (ord2ymd n).1 < 10 ^ 4 ∧ (ord2ymd n).2.1 < 10 ^ 2 ∧ (ord2ymd n).2.2 < 10 ^ 2 := by
  have hmax : n < 3652059 := hn
  simp only [ord2ymd]
  split_ifs with hend
  · simp only
    omega
  · have hm := monthDay_spec
      (decide (n % 146097 % 36524 % 1461 / 365 = 3 ∧ (n % 146097 % 36524 / 1461 ≠ 24 ∨ n % 146097 / 36524 = 3)))
      (n := n % 146097 % 36524 % 1461 % 365) (by split_ifs <;> omega)
    simp only
    omega

/-! ## The text of a second -/

def dateText (day : ℕ) : List Char :=
  let (y, m, d) := ord2ymd day
  fixedText 10 4 y ++ '-' :: fixedText 10 2 m ++ '-' :: fixedText 10 2 d

def timeText (second : ℕ) : List Char :=
  fixedText 10 2 (second / 3600) ++ ':' :: fixedText 10 2 (second / 60 % 60) ++
    ':' :: fixedText 10 2 (second % 60)

/-- `isoformat(timespec="seconds")` of a second since 0001-01-01, without its offset. -/
def isoText (second : ℕ) : List Char := dateText (second / 86400) ++ 'T' :: timeText (second % 86400)

/-- A number of `w` digits, and the text behind it. -/
def readNumber (w : ℕ) (cs : List Char) : Option (ℕ × List Char) :=
  (digitsValue (cs.take w)).map fun n => (n, cs.drop w)

def expect (c : Char) : List Char → Option (List Char)
  | d :: cs => if d = c then some cs else none
  | [] => none

theorem readNumber_fixedText {w n : ℕ} (hw : 0 < w) (hn : n < 10 ^ w) (r : List Char) :
    readNumber w (fixedText 10 w n ++ r) = some (n, r) := by
  rw [readNumber, List.take_left' (length_fixedText ..), List.drop_left' (length_fixedText ..),
    digitsValue_fixedText hw hn]
  rfl

@[simp] theorem expect_cons (c : Char) (r : List Char) : expect c (c :: r) = some r := by
  simp [expect]

/-- The second that a text writes, and the text behind it. -/
def readIso (cs : List Char) : Option (ℕ × List Char) := do
  let (y, cs) ← readNumber 4 cs
  let (m, cs) ← readNumber 2 (← expect '-' cs)
  let (d, cs) ← readNumber 2 (← expect '-' cs)
  let (h, cs) ← readNumber 2 (← expect 'T' cs)
  let (mi, cs) ← readNumber 2 (← expect ':' cs)
  let (s, cs) ← readNumber 2 (← expect ':' cs)
  some (ymd2ord y m d * 86400 + h * 3600 + mi * 60 + s, cs)

theorem readIso_isoText {second : ℕ} (h : second < maxDays * 86400) (r : List Char) :
    readIso (isoText second ++ r) = some (second, r) := by
  obtain ⟨hy, hm, hd⟩ := ord2ymd_bounds (n := second / 86400) ((Nat.div_lt_iff_lt_mul (by omega)).mpr h)
  have hhour : second % 86400 / 3600 < 10 ^ 2 := by omega
  have hmin : second % 86400 / 60 % 60 < 10 ^ 2 := by omega
  have hsec : second % 86400 % 60 < 10 ^ 2 := by omega
  simp only [readIso, isoText, dateText, timeText, List.append_assoc, List.cons_append,
    readNumber_fixedText (w := 4) (by omega) hy, readNumber_fixedText (w := 2) (by omega) hm,
    readNumber_fixedText (w := 2) (by omega) hd, readNumber_fixedText (w := 2) (by omega) hhour,
    readNumber_fixedText (w := 2) (by omega) hmin, readNumber_fixedText (w := 2) (by omega) hsec,
    expect_cons, Option.bind_eq_bind, Option.bind_some, ymd2ord_ord2ymd, Option.some.injEq, Prod.mk.injEq,
    and_true]
  omega

theorem isoText_append_inj {s t : ℕ} {p q : List Char} (hs : s < maxDays * 86400) (ht : t < maxDays * 86400)
    (h : isoText s ++ p = isoText t ++ q) : s = t ∧ p = q := by
  have := congrArg readIso h
  simpa only [readIso_isoText hs, readIso_isoText ht, Option.some.injEq, Prod.mk.injEq] using this

end CommerceAgent.Lib.Calendar
