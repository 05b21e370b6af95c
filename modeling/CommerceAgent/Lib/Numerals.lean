import CommerceAgent.Lib.Rounding
import Mathlib.Data.List.DropRight
import Mathlib.Tactic.IntervalCases

/-!
# Numerals

The texts that a decimal constructor reads: digits with a point and an exponent, an infinity, or a NaN with its payload.
-/

namespace CommerceAgent.Lib

inductive Numeral where
  | finite (negative : Bool) (coefficient : ℕ) (exponent : ℤ)
  | infinity (negative : Bool)
  | nan (negative signaling : Bool) (payload : ℕ)
  deriving DecidableEq, Repr

namespace Numeral

def decimal : Numeral → Decimal
  | .finite negative coefficient exponent => .finite negative coefficient exponent
  | .infinity _ => .special
  | .nan .. => .special

/-! ## Reading -/

/-- The blanks of ASCII. -/
def blank (c : Char) : Bool := [9, 10, 11, 12, 13, 28, 29, 30, 31, 32].elem c.toNat

/-- The text in ASCII, without underscores. `unicode` gives the digit that another character is, or a blank. -/
def ascii (unicode : Char → Option Char) (text : String) : Option (List Char) :=
  (text.toList.mapM fun c => if c.toNat < 128 then some c else unicode c).map fun cs =>
    ((cs.dropWhile blank).rdropWhile blank).filter (· ≠ '_')

/-- A coefficient and an exponent that no context has to round. -/
def inLimits (coefficient : ℕ) (exponent : ℤ) : Bool :=
  -1999999999999999997 ≤ exponent &&
    (if coefficient = 0 then exponent else exponent + Nat.log 10 coefficient) ≤ 999999999999999999

def readNatural (cs : List Char) : Option ℕ :=
  if cs ≠ [] ∧ cs.all Char.isDigit then some (Nat.ofDigitChars 10 cs 0) else none

def readSigned : List Char → Option ℤ
  | '-' :: cs => (readNatural cs).map fun n => -(n : ℤ)
  | '+' :: cs => (readNatural cs).map Int.ofNat
  | cs => (readNatural cs).map Int.ofNat

/-- What comes behind the digits: nothing, or an exponent. -/
def readExponent : List Char → Option ℤ
  | [] => some 0
  | c :: cs => if c = 'e' ∨ c = 'E' then readSigned cs else none

/-- A number of its digits before and behind the point, of which there is one at least, and what follows them. -/
def assemble (negative : Bool) (whole fraction rest : List Char) : Option Numeral :=
  if whole = [] ∧ fraction = [] then none
  else do
    let exponent ← readExponent rest
    let coefficient := Nat.ofDigitChars 10 (whole ++ fraction) 0
    let exponent := exponent - fraction.length
    if inLimits coefficient exponent then some (.finite negative coefficient exponent) else none

def readFinite (negative : Bool) (cs : List Char) : Option Numeral :=
  let whole := cs.takeWhile Char.isDigit
  match cs.dropWhile Char.isDigit with
  | '.' :: rest => assemble negative whole (rest.takeWhile Char.isDigit) (rest.dropWhile Char.isDigit)
  | rest => assemble negative whole [] rest

def readUnsigned (negative : Bool) (cs : List Char) : Option Numeral :=
  let lower := String.ofList (cs.map Char.toLower)
  if lower = "inf" ∨ lower = "infinity" then some (.infinity negative)
  else if lower.toList.take 3 = "nan".toList then
    if (cs.drop 3).all Char.isDigit then some (.nan negative false (Nat.ofDigitChars 10 (cs.drop 3) 0)) else none
  else if lower.toList.take 4 = "snan".toList then
    if (cs.drop 4).all Char.isDigit then some (.nan negative true (Nat.ofDigitChars 10 (cs.drop 4) 0)) else none
  else readFinite negative cs

/-- `Decimal(text)`. -/
def read (unicode : Char → Option Char) (text : String) : Option Numeral :=
  match ascii unicode text with
  | none => none
  | some ('-' :: cs) => readUnsigned true cs
  | some ('+' :: cs) => readUnsigned false cs
  | some cs => readUnsigned false cs

/-! ## Integers -/

/-- A character that reading keeps. -/
def Plain (c : Char) : Prop := c.toNat < 128 ∧ blank c = false ∧ c ≠ '_'

theorem digit_range {c : Char} (h : c.isDigit = true) : 48 ≤ c.toNat ∧ c.toNat ≤ 57 := by
  unfold Char.isDigit at h
  rw [Bool.and_eq_true, decide_eq_true_iff, decide_eq_true_iff] at h
  exact h

/-- A character of the text of a decimal. -/
def Printed (c : Char) : Prop := 43 ≤ c.toNat ∧ c.toNat ≤ 69

theorem Printed.plain {c : Char} (h : Printed c) : Plain c := by
  obtain ⟨hlow, hhigh⟩ := h
  refine ⟨by omega, ?_, ?_⟩
  · unfold blank
    generalize c.toNat = n at hlow hhigh
    interval_cases n <;> rfl
  · rintro rfl
    exact absurd hhigh (by decide)

theorem digit_printed {c : Char} (h : c.isDigit = true) : Printed c := by
  obtain ⟨hlow, hhigh⟩ := digit_range h
  exact ⟨by omega, by omega⟩

theorem digit_plain {c : Char} (h : c.isDigit = true) : Plain c := (digit_printed h).plain

theorem digit_toLower {c : Char} (h : c.isDigit = true) : c.toLower = c := by
  obtain ⟨-, hhigh⟩ := digit_range h
  unfold Char.toLower
  refine dif_neg fun hupper => ?_
  have hletter : 65 ≤ c.toNat := hupper.1
  omega

theorem mapM_eq_self {f : Char → Option Char} {cs : List Char} (h : ∀ c ∈ cs, f c = some c) : cs.mapM f = some cs := by
  induction cs with
  | nil => rfl
  | cons c cs ih =>
    rw [List.mapM_cons, h c List.mem_cons_self, ih fun d hd => h d (List.mem_cons_of_mem _ hd)]
    rfl

theorem ascii_plain (unicode : Char → Option Char) {cs : List Char} (h : ∀ c ∈ cs, Plain c) :
    ascii unicode (String.ofList cs) = some cs := by
  have hmap : cs.mapM (fun c => if c.toNat < 128 then some c else unicode c) = some cs :=
    mapM_eq_self fun c hc => if_pos (h c hc).1
  have hleft : cs.dropWhile blank = cs := by
    rw [List.dropWhile_eq_self_iff]
    intro hpos
    rw [(h _ (List.getElem_mem hpos)).2.1]
    simp
  have hright : cs.rdropWhile blank = cs := by
    rw [List.rdropWhile_eq_self_iff]
    intro hne
    rw [(h _ (List.getLast_mem hne)).2.1]
    simp
  have hfilter : cs.filter (· ≠ '_') = cs := List.filter_eq_self.mpr fun c hc => decide_eq_true (h c hc).2.2
  unfold ascii
  rw [String.toList_ofList, hmap, Option.map_some, hleft, hright, hfilter]

theorem readFinite_toDigits (negative : Bool) {n : ℕ} (hlimit : Nat.log 10 n < 4300) :
    readFinite negative (Nat.toDigits 10 n) = some (.finite negative n 0) := by
  have hdigit : ∀ c ∈ Nat.toDigits 10 n, c.isDigit = true := fun _ => isDigit_of_mem_toDigits
  have htake : (Nat.toDigits 10 n).takeWhile Char.isDigit = Nat.toDigits 10 n := List.takeWhile_eq_self_iff.mpr hdigit
  have hdrop : (Nat.toDigits 10 n).dropWhile Char.isDigit = [] := List.dropWhile_eq_nil_iff.mpr hdigit
  have hne : Nat.toDigits 10 n ≠ [] := Nat.toDigits_ne_nil
  have hlimits : inLimits n 0 = true := by
    unfold inLimits
    rw [Bool.and_eq_true, decide_eq_true_iff, decide_eq_true_iff]
    split_ifs <;> omega
  have hvalue : Nat.ofDigitChars 10 (Nat.toDigits 10 n) 0 = n := Nat.ofDigitChars_ten_toDigits
  unfold readFinite
  rw [htake, hdrop]
  change assemble negative (Nat.toDigits 10 n) [] [] = _
  unfold assemble
  rw [if_neg fun h => hne h.1, List.append_nil, hvalue]
  exact if_pos hlimits

theorem readUnsigned_digit (negative : Bool) {c : Char} (hc : c.isDigit = true) (cs : List Char) :
    readUnsigned negative (c :: cs) = readFinite negative (c :: cs) := by
  have hlower : (String.ofList ((c :: cs).map Char.toLower)).toList = c :: cs.map Char.toLower := by
    rw [String.toList_ofList, List.map_cons, digit_toLower hc]
  have hword {word : String} {d : Char} {ds : List Char} (hds : word.toList = d :: ds) (hd : d.isDigit = false) :
      String.ofList ((c :: cs).map Char.toLower) ≠ word := by
    intro heq
    rw [heq, hds] at hlower
    rw [(List.cons.inj hlower).1, hc] at hd
    cases hd
  have hfront (n : ℕ) {word : String} {d : Char} {ds : List Char} (hds : word.toList = d :: ds)
      (hd : d.isDigit = false) : (c :: cs.map Char.toLower).take (n + 1) ≠ word.toList := by
    rw [List.take_succ_cons, hds]
    intro heq
    rw [← (List.cons.inj heq).1, hc] at hd
    cases hd
  unfold readUnsigned
  dsimp only
  rw [hlower, if_neg (not_or.mpr ⟨hword (by decide : "inf".toList = ['i', 'n', 'f']) (by decide),
    hword (by decide : "infinity".toList = ['i', 'n', 'f', 'i', 'n', 'i', 't', 'y']) (by decide)⟩),
    if_neg (hfront 2 (by decide : "nan".toList = ['n', 'a', 'n']) (by decide)),
    if_neg (hfront 3 (by decide : "snan".toList = ['s', 'n', 'a', 'n']) (by decide))]

theorem readUnsigned_toDigits (negative : Bool) {n : ℕ} (hlimit : Nat.log 10 n < 4300) :
    readUnsigned negative (Nat.toDigits 10 n) = some (.finite negative n 0) := by
  obtain ⟨c, cs, hcs⟩ := List.exists_cons_of_ne_nil (Nat.toDigits_ne_nil (b := 10) (n := n))
  have hc : c.isDigit = true := isDigit_of_mem_toDigits (n := n) (by rw [hcs]; exact List.mem_cons_self)
  rw [← readFinite_toDigits negative hlimit, hcs, readUnsigned_digit negative hc]

theorem read_intText (unicode : Char → Option Char) {n : ℤ} (hlimit : Nat.log 10 n.natAbs < 4300) :
    read unicode (String.ofList (intText n)) = some (.finite (n < 0) n.natAbs 0) := by
  have hplain (m : ℕ) : ∀ c ∈ Nat.toDigits 10 m, Plain c := fun c hc => digit_plain (isDigit_of_mem_toDigits hc)
  cases n with
  | ofNat m =>
    obtain ⟨c, cs, hcs⟩ := List.exists_cons_of_ne_nil (Nat.toDigits_ne_nil (b := 10) (n := m))
    have hc : c.isDigit = true := isDigit_of_mem_toDigits (n := m) (by rw [hcs]; exact List.mem_cons_self)
    have hread : readUnsigned false (Nat.toDigits 10 m) = some (.finite false m 0) := readUnsigned_toDigits false hlimit
    have hsign : (Int.ofNat m < 0 : Bool) = false := decide_eq_false (by simp)
    rw [hsign]
    unfold read intText
    dsimp only
    rw [ascii_plain unicode (hplain m)]
    rw [hcs] at hread ⊢
    split
    case h_1 heq => cases heq
    case h_2 heq =>
      obtain ⟨rfl, -⟩ := List.cons.inj (Option.some.inj heq)
      exact absurd hc (by decide)
    case h_3 heq =>
      obtain ⟨rfl, -⟩ := List.cons.inj (Option.some.inj heq)
      exact absurd hc (by decide)
    case h_4 heq =>
      obtain rfl := Option.some.inj heq
      exact hread
  | negSucc m =>
    have hminus : ∀ c ∈ '-' :: Nat.toDigits 10 (m + 1), Plain c :=
      List.forall_mem_cons.mpr ⟨⟨by decide, by decide, by decide⟩, hplain (m + 1)⟩
    unfold read intText
    dsimp only
    rw [ascii_plain unicode hminus]
    have hsign : (Int.negSucc m < 0 : Bool) = true := decide_eq_true (Int.negSucc_lt_zero m)
    rw [hsign]
    exact readUnsigned_toDigits true hlimit

end Numeral

/-! ## Writing -/

/-- `str(value)`, of a number that is not special. -/
def Decimal.text : Decimal → String
  | .finite negative coefficient exponent =>
    let digits := Nat.toDigits 10 coefficient
    let left : ℤ := exponent + digits.length
    -- the digits before the point
    let point : ℤ := if exponent ≤ 0 ∧ -6 < left then left else 1
    let number :=
      if point ≤ 0 then '0' :: '.' :: (List.replicate (-point).toNat '0' ++ digits)
      else if digits.length ≤ point then digits ++ List.replicate (point.toNat - digits.length) '0'
      else digits.take point.toNat ++ '.' :: digits.drop point.toNat
    let power := if left = point then [] else 'E' ::
      (if point ≤ left then '+' :: intText (left - point) else intText (left - point))
    String.ofList ((if negative then ['-'] else []) ++ number ++ power)
  | .special => "NaN"

/-! ## Reading what is written -/

namespace Numeral

theorem readNatural_toDigits (n : ℕ) : readNatural (Nat.toDigits 10 n) = some n := by
  unfold readNatural
  rw [if_pos ⟨Nat.toDigits_ne_nil, List.all_eq_true.mpr fun _ => isDigit_of_mem_toDigits⟩,
    Nat.ofDigitChars_ten_toDigits]

/-- The exponent that is written behind a number, where it is not zero. -/
def power (n : ℤ) : List Char := if n = 0 then [] else 'E' :: (if 0 ≤ n then '+' :: intText n else intText n)

theorem readExponent_power (n : ℤ) : readExponent (power n) = some n := by
  unfold power
  by_cases hzero : n = 0
  · rw [if_pos hzero, hzero]
    rfl
  · rw [if_neg hzero]
    cases n with
    | ofNat m =>
      rw [if_pos (show 0 ≤ Int.ofNat m from Int.natCast_nonneg m)]
      change (readNatural (Nat.toDigits 10 m)).map Int.ofNat = _
      rw [readNatural_toDigits]
      rfl
    | negSucc m =>
      rw [if_neg (not_le.mpr (Int.negSucc_lt_zero m))]
      change (readNatural (Nat.toDigits 10 (m + 1))).map (fun n => -(n : ℤ)) = _
      rw [readNatural_toDigits]
      rfl

theorem power_printed {n : ℤ} : ∀ c ∈ power n, Printed c := by
  have hdigits (m : ℕ) : ∀ c ∈ Nat.toDigits 10 m, Printed c := fun c hc => digit_printed (isDigit_of_mem_toDigits hc)
  unfold power
  split_ifs with hzero hsign
  · exact fun c hc => absurd hc List.not_mem_nil
  · obtain ⟨m, rfl⟩ := Int.eq_ofNat_of_zero_le hsign
    exact List.forall_mem_cons.mpr ⟨⟨by decide, by decide⟩,
      List.forall_mem_cons.mpr ⟨⟨by decide, by decide⟩, hdigits m⟩⟩
  · obtain ⟨m, rfl⟩ := Int.eq_negSucc_of_lt_zero (not_le.mp hsign)
    exact List.forall_mem_cons.mpr ⟨⟨by decide, by decide⟩,
      List.forall_mem_cons.mpr ⟨⟨by decide, by decide⟩, hdigits (m + 1)⟩⟩

theorem power_front (n : ℤ) : power n = [] ∨ ∃ r, power n = 'E' :: r := by
  unfold power
  split_ifs
  · exact Or.inl rfl
  · exact Or.inr ⟨_, rfl⟩
  · exact Or.inr ⟨_, rfl⟩

theorem takeWhile_power {digits : List Char} (h : ∀ c ∈ digits, c.isDigit = true) (n : ℤ) :
    (digits ++ power n).takeWhile Char.isDigit = digits ∧ (digits ++ power n).dropWhile Char.isDigit = power n := by
  rw [List.takeWhile_append_of_pos h, List.dropWhile_append_of_pos h]
  rcases power_front n with heq | ⟨r, heq⟩
  · rw [heq]
    exact ⟨List.append_nil _, rfl⟩
  · rw [heq]
    exact ⟨List.append_nil _, rfl⟩

variable (negative : Bool) {whole fraction : List Char} {c : ℕ} {e n : ℤ}

theorem readFinite_whole (hwhole : ∀ d ∈ whole, d.isDigit = true) :
    readFinite negative (whole ++ power n) = assemble negative whole [] (power n) := by
  obtain ⟨htake, hdrop⟩ := takeWhile_power hwhole n
  unfold readFinite
  dsimp only
  rw [htake, hdrop]
  rcases power_front n with heq | ⟨r, heq⟩
  · rw [heq]
  · rw [heq]
    rfl

theorem readFinite_point (hwhole : ∀ d ∈ whole, d.isDigit = true) (hfraction : ∀ d ∈ fraction, d.isDigit = true) :
    readFinite negative (whole ++ '.' :: (fraction ++ power n)) = assemble negative whole fraction (power n) := by
  obtain ⟨htake, hdrop⟩ := takeWhile_power hfraction n
  have hwholeTake : (whole ++ '.' :: (fraction ++ power n)).takeWhile Char.isDigit = whole := by
    rw [List.takeWhile_append_of_pos hwhole]
    exact List.append_nil _
  have hwholeDrop : (whole ++ '.' :: (fraction ++ power n)).dropWhile Char.isDigit = '.' :: (fraction ++ power n) := by
    rw [List.dropWhile_append_of_pos hwhole]
    rfl
  unfold readFinite
  dsimp only
  rw [hwholeTake, hwholeDrop]
  change assemble negative whole ((fraction ++ power n).takeWhile Char.isDigit)
    ((fraction ++ power n).dropWhile Char.isDigit) = _
  rw [htake, hdrop]

theorem assemble_power (hne : whole ≠ []) (hvalue : Nat.ofDigitChars 10 (whole ++ fraction) 0 = c)
    (hexponent : n - fraction.length = e) (hlimits : inLimits c e = true) :
    assemble negative whole fraction (power n) = some (.finite negative c e) := by
  unfold assemble
  rw [if_neg fun h => hne h.1, readExponent_power]
  change (if inLimits (Nat.ofDigitChars 10 (whole ++ fraction) 0) (n - fraction.length) = true then _ else _) = _
  rw [hvalue, hexponent, if_pos hlimits]

theorem read_signed (unicode : Char → Option Char) {d : Char} {body : List Char} (hd : d.isDigit = true)
    (hplain : ∀ c ∈ d :: body, Plain c) :
    read unicode (String.ofList ((if negative then ['-'] else []) ++ d :: body)) = readFinite negative (d :: body) := by
  cases negative with
  | true =>
    have hminus : ∀ c ∈ '-' :: d :: body, Plain c :=
      List.forall_mem_cons.mpr ⟨⟨by decide, by decide, by decide⟩, hplain⟩
    rw [if_pos rfl, List.singleton_append]
    unfold read
    rw [ascii_plain unicode hminus]
    exact readUnsigned_digit true hd body
  | false =>
    rw [if_neg Bool.false_ne_true, List.nil_append]
    unfold read
    rw [ascii_plain unicode hplain]
    split
    case h_1 heq => cases heq
    case h_2 heq =>
      obtain ⟨rfl, -⟩ := List.cons.inj (Option.some.inj heq)
      exact absurd hd (by decide)
    case h_3 heq =>
      obtain ⟨rfl, -⟩ := List.cons.inj (Option.some.inj heq)
      exact absurd hd (by decide)
    case h_4 heq =>
      obtain rfl := Option.some.inj heq
      exact readUnsigned_digit false hd body

/-- The digits of a number with the point among them, or before or behind them. -/
def number (point : ℤ) (digits : List Char) : List Char :=
  if point ≤ 0 then '0' :: '.' :: (List.replicate (-point).toNat '0' ++ digits)
  else if digits.length ≤ point then digits ++ List.replicate (point.toNat - digits.length) '0'
  else digits.take point.toNat ++ '.' :: digits.drop point.toNat

theorem text_eq (c : ℕ) (e : ℤ) : ∃ point : ℤ,
    (Decimal.finite negative c e).text = String.ofList ((if negative then ['-'] else []) ++
      number point (Nat.toDigits 10 c) ++ power (e + (Nat.toDigits 10 c).length - point)) ∧
    ((Nat.toDigits 10 c).length ≤ point → (Nat.toDigits 10 c).length = point) := by
  have hlength : 0 < (Nat.toDigits 10 c).length := List.length_pos_of_ne_nil Nat.toDigits_ne_nil
  refine ⟨if e ≤ 0 ∧ -6 < e + (Nat.toDigits 10 c).length then e + (Nat.toDigits 10 c).length else 1, ?_, ?_⟩
  · unfold Decimal.text power number
    dsimp only
    generalize (if e ≤ 0 ∧ -6 < e + ((Nat.toDigits 10 c).length : ℤ) then e + ((Nat.toDigits 10 c).length : ℤ) else 1) =
      point
    simp only [sub_eq_zero, sub_nonneg]
  · split_ifs <;> omega

/-- The body of a number: digits that begin it, and what is read from it. -/
structure Body (negative : Bool) (c : ℕ) (e : ℤ) (cs : List Char) : Prop where
  front : ∃ d r, cs = d :: r ∧ d.isDigit = true
  printed : ∀ d ∈ cs, Printed d
  read : readFinite negative cs = some (.finite negative c e)

theorem body_number (hlimits : inLimits c e = true) {point : ℤ}
    (hpoint : (Nat.toDigits 10 c).length ≤ point → (Nat.toDigits 10 c).length = point) :
    Body negative c e (number point (Nat.toDigits 10 c) ++ power (e + (Nat.toDigits 10 c).length - point)) := by
  have hdigits : ∀ d ∈ Nat.toDigits 10 c, d.isDigit = true := fun _ => isDigit_of_mem_toDigits
  have hvalue : Nat.ofDigitChars 10 (Nat.toDigits 10 c) 0 = c := Nat.ofDigitChars_ten_toDigits
  have hne : Nat.toDigits 10 c ≠ [] := Nat.toDigits_ne_nil
  generalize Nat.toDigits 10 c = digits at hpoint hdigits hvalue hne
  have hdot : Printed '.' := ⟨by decide, by decide⟩
  have hlength : 0 < digits.length := List.length_pos_of_ne_nil hne
  unfold number
  split_ifs with hbefore hbehind
  · have hzeros : ∀ d ∈ List.replicate (-point).toNat '0', d.isDigit = true := fun d hd => by
      rw [List.eq_of_mem_replicate hd]
      rfl
    have hfraction := List.forall_mem_append.mpr ⟨hzeros, hdigits⟩
    have hzero : ∀ d ∈ ['0'], d.isDigit = true := List.forall_mem_singleton.mpr rfl
    refine ⟨⟨'0', _, rfl, rfl⟩, ?_, ?_⟩
    · refine List.forall_mem_append.mpr ⟨?_, power_printed⟩
      exact List.forall_mem_cons.mpr ⟨digit_printed rfl, List.forall_mem_cons.mpr ⟨hdot, fun d hd =>
        digit_printed (hfraction d hd)⟩⟩
    · change readFinite negative (['0'] ++ '.' :: ((List.replicate (-point).toNat '0' ++ digits) ++ power _)) = _
      rw [readFinite_point negative hzero hfraction]
      refine assemble_power negative (by simp) ?_ ?_ hlimits
      · rw [List.singleton_append, Nat.ofDigitChars_cons, Nat.ofDigitChars_append, Nat.ofDigitChars_replicate_zero]
        exact hvalue
      · rw [List.length_append, List.length_replicate]
        omega
  · have hnone : point.toNat - digits.length = 0 := by
      have := hpoint hbehind
      omega
    rw [hnone, List.replicate_zero, List.append_nil]
    obtain ⟨d, r, rfl⟩ := List.exists_cons_of_ne_nil hne
    refine ⟨⟨d, _, rfl, hdigits d List.mem_cons_self⟩, ?_, ?_⟩
    · exact List.forall_mem_append.mpr ⟨fun d hd => digit_printed (hdigits d hd), power_printed⟩
    · rw [readFinite_whole negative hdigits]
      refine assemble_power negative hne (by rwa [List.append_nil]) ?_ hlimits
      have := hpoint hbehind
      rw [List.length_nil]
      omega
  · have hwhole : ∀ d ∈ digits.take point.toNat, d.isDigit = true := fun d hd => hdigits d (List.mem_of_mem_take hd)
    have hfraction : ∀ d ∈ digits.drop point.toNat, d.isDigit = true := fun d hd =>
      hdigits d (List.mem_of_mem_drop hd)
    have hwholeNe : digits.take point.toNat ≠ [] := by
      intro hnil
      have := congrArg List.length hnil
      rw [List.length_take, List.length_nil] at this
      omega
    rw [List.append_assoc, List.cons_append]
    refine ⟨?_, ?_, ?_⟩
    · obtain ⟨d, r, hfront⟩ := List.exists_cons_of_ne_nil hwholeNe
      exact ⟨d, _, by rw [hfront]; rfl, hwhole d (by rw [hfront]; exact List.mem_cons_self)⟩
    · refine List.forall_mem_append.mpr ⟨fun d hd => digit_printed (hwhole d hd), List.forall_mem_cons.mpr ⟨hdot, ?_⟩⟩
      exact List.forall_mem_append.mpr ⟨fun d hd => digit_printed (hfraction d hd), power_printed⟩
    · rw [readFinite_point negative hwhole hfraction]
      refine assemble_power negative hwholeNe (by rwa [List.take_append_drop]) ?_ hlimits
      rw [List.length_drop]
      omega

/-- **What `str` writes of a decimal is read as the decimal.** -/
theorem read_text (unicode : Char → Option Char) (hlimits : inLimits c e = true) :
    read unicode (Decimal.finite negative c e).text = some (.finite negative c e) := by
  obtain ⟨point, htext, hpoint⟩ := text_eq negative c e
  obtain ⟨⟨d, r, hfront, hd⟩, hprinted, hread⟩ := body_number negative hlimits hpoint
  rw [htext, List.append_assoc]
  rw [hfront] at hprinted hread ⊢
  rw [read_signed negative unicode hd fun c hc => (hprinted c hc).plain, hread]

theorem text_printed (hlimits : inLimits c e = true) : ∀ d ∈ (Decimal.finite negative c e).text.toList, Printed d := by
  obtain ⟨point, htext, hpoint⟩ := text_eq negative c e
  rw [htext, List.append_assoc, String.toList_ofList]
  refine List.forall_mem_append.mpr ⟨?_, (body_number negative hlimits hpoint).printed⟩
  cases negative with
  | true => exact List.forall_mem_singleton.mpr ⟨by decide, by decide⟩
  | false => exact fun d hd => absurd hd List.not_mem_nil

end Numeral

end CommerceAgent.Lib
