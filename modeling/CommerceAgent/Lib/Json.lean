import CommerceAgent.Lib.Text
import Mathlib.Data.List.Sort
import Mathlib.Data.String.Basic

/-!
# JSON values and their compact text

`dumps` is the text with sorted keys and without blanks. Two values with the same text
have the same sorted form, so what a reader can look up in the one it finds in the other.
-/

namespace CommerceAgent.Lib

inductive Json where
  | null
  | bool (b : Bool)
  | num (n : ℤ)
  | str (s : String)
  | arr (xs : List Json)
  | obj (kvs : List (String × Json))
  deriving Inhabited

namespace Json

/-! ## Text -/

def hexDigits (n : ℕ) : List Char := fixedText 16 4 n

/-- The characters that `json.dumps` escapes, when it keeps the text outside ASCII. -/
def escape (c : Char) : List Char :=
  if c = '"' then ['\\', '"']
  else if c = '\\' then ['\\', '\\']
  else if c = '\n' then ['\\', 'n']
  else if c = '\r' then ['\\', 'r']
  else if c = '\t' then ['\\', 't']
  else if c = Char.ofNat 12 then ['\\', 'f']
  else if c = Char.ofNat 8 then ['\\', 'b']
  else if c.toNat < 32 then '\\' :: 'u' :: hexDigits c.toNat
  else [c]

def quote (s : String) : List Char := '"' :: (s.toList.flatMap escape ++ ['"'])

mutual

/-- `json.dumps(…, ensure_ascii=False, separators=(",", ":"))`. -/
def write : Json → List Char
  | .null => ['n', 'u', 'l', 'l']
  | .bool true => ['t', 'r', 'u', 'e']
  | .bool false => ['f', 'a', 'l', 's', 'e']
  | .num n => intText n
  | .str s => quote s
  | .arr [] => ['[', ']']
  | .arr (x :: xs) => '[' :: (write x ++ writeItems xs)
  | .obj [] => ['{', '}']
  | .obj ((k, v) :: kvs) => '{' :: (quote k ++ ':' :: (write v ++ writeFields kvs))

def writeItems : List Json → List Char
  | [] => [']']
  | x :: xs => ',' :: (write x ++ writeItems xs)

def writeFields : List (String × Json) → List Char
  | [] => ['}']
  | (k, v) :: kvs => ',' :: (quote k ++ ':' :: (write v ++ writeFields kvs))

end

/-! ## The text determines the value -/

theorem hexDigits_inj {n m : ℕ} (hn : n < 32) (hm : m < 32) (h : hexDigits n = hexDigits m) : n = m :=
  fixedText_inj (by omega) (by omega) (by omega) h

/-- What follows the backslash of an escape, and tells the escapes apart. -/
def escapeCode (c : Char) : Option Char := (escape c)[1]?

theorem escape_cases (c : Char) :
    (escape c = [c] ∧ c ≠ '"' ∧ c ≠ '\\') ∨
    (∃ d, escape c = ['\\', d] ∧ d ≠ 'u' ∧
      ((d = '"' ∧ c = '"') ∨ (d = '\\' ∧ c = '\\') ∨ (d = 'n' ∧ c = '\n') ∨ (d = 'r' ∧ c = '\r') ∨
        (d = 't' ∧ c = '\t') ∨ (d = 'f' ∧ c = Char.ofNat 12) ∨ (d = 'b' ∧ c = Char.ofNat 8))) ∨
    (escape c = '\\' :: 'u' :: hexDigits c.toNat ∧ c.toNat < 32) := by
  unfold escape
  split_ifs with h₁ h₂ h₃ h₄ h₅ h₆ h₇ h₈
  · exact .inr (.inl ⟨_, rfl, by decide, by simp [h₁]⟩)
  · exact .inr (.inl ⟨_, rfl, by decide, by simp [h₂]⟩)
  · exact .inr (.inl ⟨_, rfl, by decide, by simp [h₃]⟩)
  · exact .inr (.inl ⟨_, rfl, by decide, by simp [h₄]⟩)
  · exact .inr (.inl ⟨_, rfl, by decide, by simp [h₅]⟩)
  · exact .inr (.inl ⟨_, rfl, by decide, by simp [h₆]⟩)
  · exact .inr (.inl ⟨_, rfl, by decide, by simp [h₇]⟩)
  · exact .inr (.inr ⟨rfl, h₈⟩)
  · exact .inl ⟨rfl, h₁, h₂⟩

/-- An escape is never the closing quote. -/
theorem escape_ne_quote (c : Char) (r s : List Char) : escape c ++ r ≠ '"' :: s := by
  rcases escape_cases c with ⟨he, hq, -⟩ | ⟨d, he, -, -⟩ | ⟨he, -⟩ <;> rw [he] <;> simp_all

theorem escape_append_inj {c d : Char} {r s : List Char} (h : escape c ++ r = escape d ++ s) :
    c = d ∧ r = s := by
  rcases escape_cases c with ⟨hc, hcq, hcb⟩ | ⟨x, hc, hxu, hx⟩ | ⟨hc, hclt⟩ <;>
    rcases escape_cases d with ⟨hd, hdq, hdb⟩ | ⟨y, hd, hyu, hy⟩ | ⟨hd, hdlt⟩ <;>
    rw [hc, hd] at h <;>
    simp only [List.cons_append, List.nil_append, List.cons.injEq, true_and] at h
  · exact h
  · exact absurd h.1 hcb
  · exact absurd h.1 hcb
  · exact absurd h.1.symm hdb
  · obtain ⟨rfl, rfl⟩ := h
    rcases hx with ⟨rfl, rfl⟩ | ⟨rfl, rfl⟩ | ⟨rfl, rfl⟩ | ⟨rfl, rfl⟩ | ⟨rfl, rfl⟩ | ⟨rfl, rfl⟩ | ⟨rfl, rfl⟩ <;>
      simp_all
  · exact absurd h.1 hxu
  · exact absurd h.1.symm hdb
  · exact absurd h.1.symm hyu
  · obtain ⟨hhex, rfl⟩ := List.append_inj h (by simp [hexDigits])
    exact ⟨Char.toNat_inj.mp (hexDigits_inj hclt hdlt hhex), rfl⟩

theorem escapes_append_inj {xs ys r s : List Char}
    (h : xs.flatMap escape ++ '"' :: r = ys.flatMap escape ++ '"' :: s) : xs = ys ∧ r = s := by
  induction xs generalizing ys with
  | nil =>
    cases ys with
    | nil => simpa using h
    | cons y ys =>
      simp only [List.flatMap_nil, List.nil_append, List.flatMap_cons, List.append_assoc] at h
      exact absurd h.symm (escape_ne_quote _ _ _)
  | cons x xs ih =>
    cases ys with
    | nil =>
      simp only [List.flatMap_nil, List.nil_append, List.flatMap_cons, List.append_assoc] at h
      exact absurd h (escape_ne_quote _ _ _)
    | cons y ys =>
      simp only [List.flatMap_cons, List.append_assoc] at h
      obtain ⟨rfl, hrest⟩ := escape_append_inj h
      obtain ⟨rfl, rfl⟩ := ih hrest
      exact ⟨rfl, rfl⟩

theorem quote_append_inj {a b : String} {r s : List Char} (h : quote a ++ r = quote b ++ s) :
    a = b ∧ r = s := by
  simp only [quote, List.cons_append, List.append_assoc, List.nil_append, List.cons.injEq, true_and] at h
  obtain ⟨hab, rfl⟩ := escapes_append_inj h
  exact ⟨String.toList_inj.mp hab, rfl⟩

/-- What the first character of a text says about the value. -/
def shapeOf (c : Char) : ℕ :=
  if c = 'n' then 0 else if c = 't' then 1 else if c = 'f' then 2 else if c = '"' then 4
  else if c = '[' then 5 else if c = '{' then 6 else 3

def shape : Json → ℕ
  | .null => 0
  | .bool true => 1
  | .bool false => 2
  | .num _ => 3
  | .str _ => 4
  | .arr _ => 5
  | .obj _ => 6

theorem shapeOf_digit {c : Char} (h : c.isDigit = true) : shapeOf c = 3 := by
  unfold shapeOf
  split_ifs <;> simp_all

theorem write_head (j : Json) : ∃ c r, write j = c :: r ∧ shapeOf c = j.shape := by
  match j with
  | .null | .bool true | .bool false | .str _ | .arr [] | .arr (_ :: _) | .obj [] | .obj ((_, _) :: _) =>
    exact ⟨_, _, rfl, rfl⟩
  | .num (.negSucc n) => exact ⟨_, _, rfl, rfl⟩
  | .num (.ofNat n) =>
    obtain ⟨c, r, hc⟩ := List.exists_cons_of_ne_nil (Nat.toDigits_ne_nil (b := 10) (n := n))
    have hd : c.isDigit = true := isDigit_of_mem_toDigits (n := n) (by simp [hc])
    exact ⟨c, r, by simp [write, intText, hc], shapeOf_digit hd⟩

theorem shape_eq {a b : Json} {r s : List Char} (h : write a ++ r = write b ++ s) : a.shape = b.shape := by
  obtain ⟨c, _, ha, hc⟩ := write_head a
  obtain ⟨d, _, hb, hd⟩ := write_head b
  rw [ha, hb, List.cons_append, List.cons_append, List.cons.injEq] at h
  rw [← hc, ← hd, h.1]

theorem write_ne_close {j : Json} {c : Char} {r s : List Char} (hc : c = ']' ∨ c = '}') :
    write j ++ r ≠ c :: s := by
  intro h
  obtain ⟨d, t, hw, hd⟩ := write_head j
  rw [hw, List.cons_append, List.cons.injEq] at h
  obtain ⟨rfl, -⟩ := h
  rcases hc with rfl | rfl
  all_goals
    cases j with
    | num n =>
      cases n with
      | ofNat n =>
        have : ∀ x ∈ write (.num (.ofNat n)), x.isDigit = true := fun x hx => isDigit_of_mem_toDigits hx
        have := this _ (by rw [hw]; exact List.mem_cons_self)
        simp at this
      | negSucc n => simp [write, intText] at hw
    | bool b => cases b <;> simp [shape, shapeOf] at hd
    | _ => simp [shape, shapeOf] at hd

theorem stop_writeItems (xs : List Json) (r : List Char) : Stop (writeItems xs ++ r) := by
  cases xs <;> simp [writeItems]

theorem stop_writeFields (kvs : List (String × Json)) (r : List Char) : Stop (writeFields kvs ++ r) := by
  match kvs with
  | [] | (_, _) :: _ => simp [writeFields]

mutual

theorem write_append_inj (a b : Json) {r s : List Char} (hr : Stop r) (hs : Stop s)
    (h : write a ++ r = write b ++ s) : a = b ∧ r = s := by
  have hshape := shape_eq h
  match a, b with
  | .null, .null | .bool true, .bool true | .bool false, .bool false =>
    simpa [write] using h
  | .num n, .num m =>
    obtain ⟨rfl, rfl⟩ := intText_append_inj hr hs h
    exact ⟨rfl, rfl⟩
  | .str x, .str y =>
    obtain ⟨rfl, rfl⟩ := quote_append_inj h
    exact ⟨rfl, rfl⟩
  | .arr [], .arr [] => simpa [write] using h
  | .arr (x :: xs), .arr (y :: ys) =>
    simp only [write, List.cons_append, List.append_assoc, List.cons.injEq, true_and] at h
    obtain ⟨rfl, hitems⟩ := write_append_inj x y (stop_writeItems _ _) (stop_writeItems _ _) h
    obtain ⟨rfl, rfl⟩ := writeItems_append_inj xs ys hitems
    exact ⟨rfl, rfl⟩
  | .arr [], .arr (y :: ys) =>
    simp only [write, List.cons_append, List.append_assoc, List.cons.injEq, true_and, List.nil_append] at h
    exact absurd h.symm (write_ne_close (.inl rfl))
  | .arr (x :: xs), .arr [] =>
    simp only [write, List.cons_append, List.append_assoc, List.cons.injEq, true_and, List.nil_append] at h
    exact absurd h (write_ne_close (.inl rfl))
  | .obj [], .obj [] => simpa [write] using h
  | .obj ((k, v) :: kvs), .obj ((l, w) :: lws) =>
    simp only [write, List.cons_append, List.append_assoc, List.cons.injEq, true_and] at h
    obtain ⟨rfl, hvalue⟩ := quote_append_inj h
    simp only [List.cons.injEq, true_and] at hvalue
    obtain ⟨rfl, hfields⟩ := write_append_inj v w (stop_writeFields _ _) (stop_writeFields _ _) hvalue
    obtain ⟨rfl, rfl⟩ := writeFields_append_inj kvs lws hfields
    exact ⟨rfl, rfl⟩
  | .obj [], .obj ((l, w) :: lws) => simp [write, quote] at h
  | .obj ((k, v) :: kvs), .obj [] => simp [write, quote] at h

theorem writeItems_append_inj (xs ys : List Json) {r s : List Char}
    (h : writeItems xs ++ r = writeItems ys ++ s) : xs = ys ∧ r = s := by
  match xs, ys with
  | [], [] => simpa [writeItems] using h
  | [], _ :: _ => simp [writeItems] at h
  | _ :: _, [] => simp [writeItems] at h
  | x :: xs, y :: ys =>
    simp only [writeItems, List.cons_append, List.append_assoc, List.cons.injEq, true_and] at h
    obtain ⟨rfl, hitems⟩ := write_append_inj x y (stop_writeItems _ _) (stop_writeItems _ _) h
    obtain ⟨rfl, rfl⟩ := writeItems_append_inj xs ys hitems
    exact ⟨rfl, rfl⟩

theorem writeFields_append_inj (kvs lws : List (String × Json)) {r s : List Char}
    (h : writeFields kvs ++ r = writeFields lws ++ s) : kvs = lws ∧ r = s := by
  match kvs, lws with
  | [], [] => simpa [writeFields] using h
  | [], (_, _) :: _ => simp [writeFields] at h
  | (_, _) :: _, [] => simp [writeFields] at h
  | (k, v) :: kvs, (l, w) :: lws =>
    simp only [writeFields, List.cons_append, List.append_assoc, List.cons.injEq, true_and] at h
    obtain ⟨rfl, hvalue⟩ := quote_append_inj h
    simp only [List.cons.injEq, true_and] at hvalue
    obtain ⟨rfl, hfields⟩ := write_append_inj v w (stop_writeFields _ _) (stop_writeFields _ _) hvalue
    obtain ⟨rfl, rfl⟩ := writeFields_append_inj kvs lws hfields
    exact ⟨rfl, rfl⟩

end

theorem write_inj {a b : Json} (h : write a = write b) : a = b :=
  (write_append_inj a b stop_nil stop_nil (by simpa using h)).1

instance : DecidableEq Json := fun a b =>
  decidable_of_iff (write a = write b) ⟨write_inj, congrArg write⟩

/-! ## Sorted keys -/

/-- The order of `sort_keys`. -/
def keyLe (a b : String × Json) : Prop := a.1 ≤ b.1

instance : DecidableRel keyLe := fun a b => inferInstanceAs (Decidable (a.1 ≤ b.1))

instance : Std.Total keyLe := ⟨fun a b => le_total a.1 b.1⟩

instance : IsTrans _ keyLe := ⟨fun _ _ _ hab hbc => String.le_trans hab hbc⟩

mutual

def sortKeys : Json → Json
  | .arr xs => .arr (sortItems xs)
  | .obj kvs => .obj ((sortFields kvs).insertionSort keyLe)
  | .null => .null
  | .bool b => .bool b
  | .num n => .num n
  | .str s => .str s

def sortItems : List Json → List Json
  | [] => []
  | x :: xs => sortKeys x :: sortItems xs

def sortFields : List (String × Json) → List (String × Json)
  | [] => []
  | (k, v) :: kvs => (k, sortKeys v) :: sortFields kvs

end

@[simp] theorem sortKeys_null : null.sortKeys = .null := rfl
@[simp] theorem sortKeys_bool (b : Bool) : (bool b).sortKeys = .bool b := rfl
@[simp] theorem sortKeys_num (n : ℤ) : (num n).sortKeys = .num n := rfl
@[simp] theorem sortKeys_str (s : String) : (str s).sortKeys = .str s := rfl

/-- `json.dumps(…, ensure_ascii=False, sort_keys=True, separators=(",", ":"))`. -/
def dumps (j : Json) : String := String.ofList (write j.sortKeys)

theorem dumps_inj {a b : Json} : dumps a = dumps b ↔ a.sortKeys = b.sortKeys := by
  constructor
  · intro h
    exact write_inj (String.ofList_inj.mp h)
  · intro h
    rw [dumps, dumps, h]

@[simp] theorem sortItems_eq (xs : List Json) : sortItems xs = xs.map sortKeys := by
  induction xs with
  | nil => rfl
  | cons x xs ih => simp [sortItems, ih]

@[simp] theorem sortFields_eq (kvs : List (String × Json)) :
    sortFields kvs = kvs.map fun kv => (kv.1, kv.2.sortKeys) := by
  induction kvs with
  | nil => rfl
  | cons kv kvs ih => simp [sortFields, ih]

/-! ## Looking up a field -/

/-- The value of a key. -/
def get? (key : String) : Json → Option Json
  | .obj kvs => kvs.lookup key
  | _ => none

def keys : Json → List String
  | .obj kvs => kvs.map Prod.fst
  | _ => []

theorem lookup_eq_some_iff {kvs : List (String × Json)} (hnd : (kvs.map Prod.fst).Nodup) {k : String}
    {v : Json} : kvs.lookup k = some v ↔ (k, v) ∈ kvs := by
  induction kvs with
  | nil => simp
  | cons kv kvs ih =>
    obtain ⟨l, w⟩ := kv
    simp only [List.map_cons, List.nodup_cons, List.mem_map, Prod.exists, exists_and_right, exists_eq_right,
      not_exists] at hnd
    simp only [List.lookup_cons, List.mem_cons, Prod.mk.injEq]
    by_cases hkl : k = l
    · subst hkl
      simp only [BEq.rfl, Option.some.injEq, true_and]
      constructor
      · rintro rfl
        exact .inl rfl
      · rintro (rfl | hmem)
        · rfl
        · exact absurd hmem (hnd.1 v)
    · have hbeq : (k == l) = false := by simpa using hkl
      simp [hbeq, hkl, ih hnd.2]

theorem lookup_perm {kvs lws : List (String × Json)} (hnd : (kvs.map Prod.fst).Nodup)
    (hp : kvs.Perm lws) (k : String) : kvs.lookup k = lws.lookup k := by
  have hnd' : (lws.map Prod.fst).Nodup := (hp.map Prod.fst).nodup_iff.mp hnd
  ext v
  rw [lookup_eq_some_iff hnd, lookup_eq_some_iff hnd', hp.mem_iff]

theorem lookup_map (kvs : List (String × Json)) (k : String) :
    (kvs.map fun kv => (kv.1, kv.2.sortKeys)).lookup k = (kvs.lookup k).map sortKeys := by
  induction kvs with
  | nil => rfl
  | cons kv kvs ih =>
    obtain ⟨l, v⟩ := kv
    by_cases hkl : k = l
    · simp [hkl]
    · have hbeq : (k == l) = false := by simpa using hkl
      simp [List.lookup_cons, hbeq, ih]

/-- Sorting does not change what a key stands for. -/
theorem get?_sortKeys {kvs : List (String × Json)} (hnd : (kvs.map Prod.fst).Nodup) (k : String) :
    (Json.obj kvs).sortKeys.get? k = (kvs.lookup k).map sortKeys := by
  have hnd' : ((kvs.map fun kv => (kv.1, kv.2.sortKeys)).map Prod.fst).Nodup := by
    simpa [List.map_map, Function.comp_def] using hnd
  rw [sortKeys, sortFields_eq, get?, ← lookup_map]
  exact (lookup_perm hnd' (List.perm_insertionSort keyLe _).symm k).symm

theorem sortKeys_obj_of_keys {kvs : List (String × Json)} (h : (kvs.map Prod.fst).Pairwise (· < ·)) :
    (Json.obj kvs).sortKeys = .obj (kvs.map fun kv => (kv.1, kv.2.sortKeys)) := by
  have hle : (kvs.map fun kv => (kv.1, kv.2.sortKeys)).Pairwise keyLe :=
    List.pairwise_map.mpr ((List.pairwise_map.mp h).imp fun {a b} (hab : a.1 < b.1) => (le_of_lt hab : a.1 ≤ b.1))
  rw [sortKeys, sortFields_eq, List.Pairwise.insertionSort_eq hle]

theorem sortKeys_obj_of_sorted {kvs : List (String × Json)} (h : kvs.Pairwise fun a b => a.1 < b.1)
    (hv : ∀ kv ∈ kvs, kv.2.sortKeys = kv.2) : (Json.obj kvs).sortKeys = .obj kvs := by
  have hmap : kvs.map (fun kv => (kv.1, kv.2.sortKeys)) = kvs := by
    conv_rhs => rw [← List.map_id kvs]
    refine List.map_congr_left fun kv hkv => ?_
    rw [hv kv hkv, id]
  rw [sortKeys_obj_of_keys (List.pairwise_map.mpr h), hmap]

/-! ## Codecs -/

/-- A type with a JSON form that can be read back, whatever the order of the keys. -/
class Codec (α : Type) where
  toJson : α → Json
  ofJson : Json → Option α
  ofJson_toJson : ∀ a, ofJson (toJson a).sortKeys = some a

export Codec (toJson ofJson)

attribute [simp] Codec.ofJson_toJson

/-- The value of a key, read. -/
def field {α : Type} [Codec α] (key : String) (j : Json) : Option α := (j.get? key).bind ofJson

instance : Codec String where
  toJson := .str
  ofJson
    | .str s => some s
    | _ => none
  ofJson_toJson _ := rfl

@[simp] theorem ofJson_str (s : String) : (ofJson (.str s) : Option String) = some s := rfl

instance : Codec ℤ where
  toJson := .num
  ofJson
    | .num n => some n
    | _ => none
  ofJson_toJson _ := rfl

/-- A list, item by item. -/
def listOfJson {α : Type} [Codec α] : Json → Option (List α)
  | .arr xs => xs.mapM ofJson
  | _ => none

instance {α : Type} [Codec α] : Codec (List α) where
  toJson xs := .arr (xs.map toJson)
  ofJson := listOfJson
  ofJson_toJson xs := by
    simp only [sortKeys, sortItems_eq, listOfJson, List.map_map]
    induction xs with
    | nil => rfl
    | cons x xs ih => simp [ih]

/-- A value that no type writes as `null`. -/
class NeverNull (α : Type) [Codec α] : Prop where
  ne_null : ∀ a : α, (toJson a).sortKeys ≠ .null

instance {α : Type} [Codec α] [NeverNull α] : Codec (Option α) where
  toJson
    | none => .null
    | some a => toJson a
  ofJson
    | .null => some none
    | j => (ofJson j).map some
  ofJson_toJson
    | none => rfl
    | some a => by
      have hnn := NeverNull.ne_null a
      have hrt := Codec.ofJson_toJson a
      generalize (toJson a).sortKeys = j at hnn hrt
      cases j <;> simp_all

end Json

end CommerceAgent.Lib
