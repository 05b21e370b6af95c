import Mathlib.Tactic.Common
import Mathlib.Data.List.Basic

/-!
# URL-safe base64

`decode` is lenient, as `binascii.a2b_base64` is: it skips what is not in the alphabet,
and stops at the padding. It inverts `encode` without its padding.
-/

namespace CommerceAgent.Lib.Base64

def alphabet : List Char :=
  "ABCDEFGHIJKLMNOPQRSTUVWXYZabcdefghijklmnopqrstuvwxyz0123456789-_".toList

def digit (v : ℕ) : Char := alphabet.getD v 'A'

/-- The value of a character, also in the standard alphabet. -/
def valueOf (c : Char) : Option ℕ :=
  if c = '+' then some 62 else if c = '/' then some 63 else alphabet.idxOf? c

/-- `base64.urlsafe_b64encode(…).rstrip("=")`. -/
def encode : List UInt8 → List Char
  | a :: b :: c :: rest =>
    digit (a.toNat / 4) :: digit (a.toNat % 4 * 16 + b.toNat / 16) ::
      digit (b.toNat % 16 * 4 + c.toNat / 64) :: digit (c.toNat % 64) :: encode rest
  | [a, b] =>
    [digit (a.toNat / 4), digit (a.toNat % 4 * 16 + b.toNat / 16), digit (b.toNat % 16 * 4)]
  | [a] => [digit (a.toNat / 4), digit (a.toNat % 4 * 16)]
  | [] => []

/-- `binascii.a2b_base64`, with the place in a group of four, the bits left over and the
padding seen. -/
def a2b : List Char → ℕ → ℕ → ℕ → Option (List UInt8)
  | [], quad, _, _ => if quad = 0 then some [] else none
  | c :: cs, quad, left, pads =>
    if c = '=' then
      if 2 ≤ quad ∧ 4 ≤ quad + (pads + 1) then some []
      else a2b cs quad left (if 2 ≤ quad then pads + 1 else pads)
    else
      match valueOf c with
      | none => a2b cs quad left pads
      | some v =>
        match quad with
        | 0 => a2b cs 1 v 0
        | 1 => (a2b cs 2 (v % 16) 0).map (UInt8.ofNat (left * 4 + v / 16) :: ·)
        | 2 => (a2b cs 3 (v % 4) 0).map (UInt8.ofNat (left * 16 + v / 4) :: ·)
        | _ => (a2b cs 0 0 0).map (UInt8.ofNat (left * 64 + v) :: ·)

/-- `text + "=" * (-len(text) % 4)`. -/
def pad (cs : List Char) : List Char := cs ++ List.replicate ((4 - cs.length % 4) % 4) '='

/-- `base64.urlsafe_b64decode` of the padded text, which must be ASCII. -/
def decode (cs : List Char) : Option (List UInt8) :=
  if cs.all fun c => c.toNat < 128 then a2b (pad cs) 0 0 0 else none

/-! ## Round trip -/

theorem digit_spec {v : ℕ} (hv : v < 64) :
    digit v ≠ '=' ∧ valueOf (digit v) = some v ∧ (digit v).toNat < 128 := by
  have key : ∀ v < 64, digit v ≠ '=' ∧ valueOf (digit v) = some v ∧ (digit v).toNat < 128 := by decide +kernel
  exact key v hv

theorem a2b_digit {v quad left pads : ℕ} (hv : v < 64) (cs : List Char) :
    a2b (digit v :: cs) quad left pads =
      match quad with
      | 0 => a2b cs 1 v 0
      | 1 => (a2b cs 2 (v % 16) 0).map (UInt8.ofNat (left * 4 + v / 16) :: ·)
      | 2 => (a2b cs 3 (v % 4) 0).map (UInt8.ofNat (left * 16 + v / 4) :: ·)
      | _ => (a2b cs 0 0 0).map (UInt8.ofNat (left * 64 + v) :: ·) := by
  obtain ⟨hne, hval, -⟩ := digit_spec hv
  rw [a2b, if_neg hne, hval]

theorem ofNat_eq {a : UInt8} {n : ℕ} (h : n = a.toNat) : UInt8.ofNat n = a := by
  rw [h, UInt8.ofNat_toNat]

theorem a2b_encode (bs : List UInt8) :
    a2b (encode bs ++ List.replicate ((4 - (encode bs).length % 4) % 4) '=') 0 0 0 = some bs := by
  induction bs using encode.induct with
  | case1 a b c rest ih =>
    have ha := a.toNat_lt
    have hb := b.toNat_lt
    have hc := c.toNat_lt
    have hlen : (encode (a :: b :: c :: rest)).length % 4 = (encode rest).length % 4 := by
      simp only [encode, List.length_cons]
      omega
    rw [hlen]
    simp (disch := omega) only [encode, List.cons_append, a2b_digit, ih, Option.map_some, Option.some.injEq,
      List.cons.injEq, and_true]
    exact ⟨ofNat_eq (by omega), ofNat_eq (by omega), ofNat_eq (by omega)⟩
  | case2 a b =>
    have ha := a.toNat_lt
    have hb := b.toNat_lt
    have hpad : a2b ['='] 3 (b.toNat % 16 * 4 % 4) 0 = some [] := by simp [a2b]
    simp (disch := omega) only [encode, List.cons_append, List.nil_append, a2b_digit, List.length_cons,
      List.length_nil, List.replicate, hpad, Option.map_some, Option.some.injEq, List.cons.injEq, and_true]
    exact ⟨ofNat_eq (by omega), ofNat_eq (by omega)⟩
  | case3 a =>
    have ha := a.toNat_lt
    have hpad : a2b ['=', '='] 2 (a.toNat % 4 * 16 % 16) 0 = some [] := by simp [a2b]
    simp (disch := omega) only [encode, List.cons_append, List.nil_append, a2b_digit, List.length_cons,
      List.length_nil, List.replicate, hpad, Option.map_some, Option.some.injEq, List.cons.injEq, and_true]
    exact ofNat_eq (by omega)
  | case4 => rfl

theorem ascii_encode (bs : List UInt8) : ∀ c ∈ encode bs, c.toNat < 128 := by
  have hdigit {v : ℕ} (hv : v < 64) : (digit v).toNat < 128 := (digit_spec hv).2.2
  induction bs using encode.induct with
  | case1 a b c rest ih =>
    have ha := a.toNat_lt
    have hb := b.toNat_lt
    have hc := c.toNat_lt
    simp only [encode, List.forall_mem_cons]
    exact ⟨hdigit (by omega), hdigit (by omega), hdigit (by omega), hdigit (by omega), ih⟩
  | case2 a b =>
    have ha := a.toNat_lt
    have hb := b.toNat_lt
    simp only [encode, List.forall_mem_cons]
    exact ⟨hdigit (by omega), hdigit (by omega), hdigit (by omega), by simp⟩
  | case3 a =>
    have ha := a.toNat_lt
    simp only [encode, List.forall_mem_cons]
    exact ⟨hdigit (by omega), hdigit (by omega), by simp⟩
  | case4 => simp [encode]

theorem decode_encode (bs : List UInt8) : decode (encode bs) = some bs := by
  have hall : ((encode bs).all fun c => c.toNat < 128) = true := by simpa using ascii_encode bs
  rw [decode, if_pos hall, pad, a2b_encode]

theorem length_encode (bs : List UInt8) : (encode bs).length = (bs.length * 4 + 2) / 3 := by
  induction bs using encode.induct with
  | case1 a b c rest ih =>
    simp only [encode, List.length_cons, ih]
    omega
  | case2 | case3 | case4 => simp [encode]

end CommerceAgent.Lib.Base64
