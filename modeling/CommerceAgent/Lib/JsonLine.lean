import CommerceAgent.Lib.Dict
import CommerceAgent.Lib.JsonRead
import Mathlib.Data.List.TakeWhile

/-!
# JSON on one line

`json.dumps`, floats included, with any number of blanks after its separators, and the reader of it. A text
that it writes has a line break only where a string of the value has one that JSON does not escape.
-/

namespace CommerceAgent.Lib

inductive JsonValue (φ : Type) where
  | null
  | bool (b : Bool)
  | int (n : ℤ)
  | float (x : φ)
  | str (s : String)
  | arr (xs : List (JsonValue φ))
  | obj (kvs : List (String × JsonValue φ))

namespace JsonValue

theorem parts_induction {φ : Type} {motive : JsonValue φ → Prop} (null : motive .null) (bool : ∀ b, motive (.bool b))
    (int : ∀ n, motive (.int n)) (float : ∀ x, motive (.float x)) (str : ∀ s, motive (.str s))
    (arr : ∀ xs, (∀ x ∈ xs, motive x) → motive (.arr xs)) (obj : ∀ kvs, (∀ kv ∈ kvs, motive kv.2) → motive (.obj kvs))
    (v : JsonValue φ) : motive v :=
  @JsonValue.rec φ motive (fun xs => ∀ x ∈ xs, motive x) (fun kvs => ∀ kv ∈ kvs, motive kv.2) (fun kv => motive kv.2)
    null bool int float str arr obj (fun _ h => absurd h List.not_mem_nil)
    (fun _ _ hx hxs _ h => (List.mem_cons.mp h).elim (fun heq => heq ▸ hx) (hxs _))
    (fun _ h => absurd h List.not_mem_nil)
    (fun _ _ hkv hkvs _ h => (List.mem_cons.mp h).elim (fun heq => heq ▸ hkv) (hkvs _)) (fun _ _ h => h) v

open Json (readString quote escape skipBlank Follows)

/-! ## Numbers -/

/-- The digits at the front of a text, after an optional sign. -/
def readWhole : List Char → Option (List Char × List Char)
  | '-' :: r => (readUnsigned r).map fun (ds, r) => ('-' :: ds, r)
  | r => readUnsigned r
where
  readUnsigned (cs : List Char) : Option (List Char × List Char) :=
    let ds := cs.takeWhile Char.isDigit
    if ds = [] ∨ (ds.head? = some '0' ∧ ds ≠ ['0']) then none else some (ds, cs.dropWhile Char.isDigit)

def readFraction : List Char → Option (List Char × List Char)
  | '.' :: r =>
    if r.takeWhile Char.isDigit = [] then none else some ('.' :: r.takeWhile Char.isDigit, r.dropWhile Char.isDigit)
  | r => some ([], r)

def readSign : List Char → List Char × List Char
  | '+' :: r => (['+'], r)
  | '-' :: r => (['-'], r)
  | r => ([], r)

def readExponent : List Char → Option (List Char × List Char)
  | 'e' :: r => readPower 'e' (readSign r)
  | 'E' :: r => readPower 'E' (readSign r)
  | r => some ([], r)
where
  readPower (e : Char) (signed : List Char × List Char) : Option (List Char × List Char) :=
    let ds := signed.2.takeWhile Char.isDigit
    if ds = [] then none else some (e :: (signed.1 ++ ds), signed.2.dropWhile Char.isDigit)

/-- The text of a number, whether it is a float, and what follows. -/
def readNumber (cs : List Char) : Option (List Char × Bool × List Char) := do
  let (whole, r) ← readWhole cs
  let (fraction, r) ← readFraction r
  let (exponent, r) ← readExponent r
  some (whole ++ fraction ++ exponent, fraction ≠ [] || exponent ≠ [], r)

def intOfText : List Char → ℤ
  | '-' :: ds => -(Nat.ofDigitChars 10 ds 0 : ℤ)
  | ds => Nat.ofDigitChars 10 ds 0

end JsonValue

/-- `float.__repr__` and `float`, of finite floats. -/
structure FloatText (φ : Type) where
  repr : φ → List Char
  float : List Char → φ
  /-- It has a fraction or an exponent. -/
  written : ∀ x r, Json.Follows r → JsonValue.readNumber (repr x ++ r) = some (repr x, true, r)
  float_repr : ∀ x, float (repr x) = x

namespace JsonValue

open Json (readString quote escape skipBlank Follows)

variable {φ : Type} (floats : FloatText φ) (blanks : ℕ)

/-! ## Writing -/

/-- What stands after a separator. -/
def gap : List Char := List.replicate blanks ' '

mutual

/-- `json.dumps(…, ensure_ascii=False)`, with one blank after a separator or without one. -/
def write : JsonValue φ → List Char
  | .null => ['n', 'u', 'l', 'l']
  | .bool true => ['t', 'r', 'u', 'e']
  | .bool false => ['f', 'a', 'l', 's', 'e']
  | .int n => intText n
  | .float x => floats.repr x
  | .str s => quote s
  | .arr [] => ['[', ']']
  | .arr (x :: xs) => '[' :: (write x ++ writeItems xs)
  | .obj [] => ['{', '}']
  | .obj ((k, v) :: kvs) => '{' :: (quote k ++ ':' :: (gap blanks ++ (write v ++ writeFields kvs)))

def writeItems : List (JsonValue φ) → List Char
  | [] => [']']
  | x :: xs => ',' :: (gap blanks ++ (write x ++ writeItems xs))

def writeFields : List (String × JsonValue φ) → List Char
  | [] => ['}']
  | (k, v) :: kvs => ',' :: (gap blanks ++ (quote k ++ ':' :: (gap blanks ++ (write v ++ writeFields kvs))))

end

/-- The order of `sort_keys`. -/
def key_le (a b : String × JsonValue φ) : Prop := a.1 ≤ b.1

instance : DecidableRel (key_le : String × JsonValue φ → _ → Prop) := fun a b => inferInstanceAs (Decidable (a.1 ≤ b.1))

mutual

/-- The value with the keys of its objects in order. Two dicts are equal when they agree in this form. -/
def sortKeys : JsonValue φ → JsonValue φ
  | .arr xs => .arr (sortItems xs)
  | .obj kvs => .obj ((sortFields kvs).insertionSort key_le)
  | .null => .null
  | .bool b => .bool b
  | .int n => .int n
  | .float x => .float x
  | .str s => .str s

def sortItems : List (JsonValue φ) → List (JsonValue φ)
  | [] => []
  | x :: xs => sortKeys x :: sortItems xs

def sortFields : List (String × JsonValue φ) → List (String × JsonValue φ)
  | [] => []
  | (k, v) :: kvs => (k, sortKeys v) :: sortFields kvs

end

/-- `json.dumps(…, ensure_ascii=False, sort_keys=True)`. -/
def dumps (v : JsonValue φ) : List Char := write floats blanks v.sortKeys

theorem writeFields_last (kvs : List (String × JsonValue φ)) :
    ∃ front, writeFields floats blanks kvs = front ++ ['}'] := by
  induction kvs with
  | nil => exact ⟨[], rfl⟩
  | cons kv kvs ih =>
    obtain ⟨front, hfront⟩ := ih
    exact ⟨',' :: (gap blanks ++ (quote kv.1 ++ ':' :: (gap blanks ++ (write floats blanks kv.2 ++ front)))), by
      simp [writeFields, hfront]⟩

theorem write_obj_braces (kvs : List (String × JsonValue φ)) :
    ∃ text, write floats blanks (.obj kvs) = '{' :: text ++ ['}'] := by
  match kvs with
  | [] => exact ⟨[], rfl⟩
  | (k, v) :: kvs =>
    obtain ⟨front, hfront⟩ := writeFields_last floats blanks kvs
    exact ⟨quote k ++ ':' :: (gap blanks ++ (write floats blanks v ++ front)), by simp [write, hfront]⟩

/-! ## Reading -/

mutual

/-- A value at the front of a text. The fuel bounds the depth and the width of it. -/
def readValue : ℕ → List Char → Option (JsonValue φ × List Char)
  | 0, _ => none
  | n + 1, cs =>
    match skipBlank cs with
    | 'n' :: 'u' :: 'l' :: 'l' :: r => some (.null, r)
    | 't' :: 'r' :: 'u' :: 'e' :: r => some (.bool true, r)
    | 'f' :: 'a' :: 'l' :: 's' :: 'e' :: r => some (.bool false, r)
    | '"' :: r => (readString r).map fun (s, r) => (.str (String.ofList s), r)
    | '[' :: r =>
      match skipBlank r with
      | ']' :: r => some (.arr [], r)
      | r => (readItems n r).map fun (xs, r) => (.arr xs, r)
    | '{' :: r =>
      match skipBlank r with
      | '}' :: r => some (.obj [], r)
      -- of two items with one key the last one counts
      | r => (readFields n r).map fun (kvs, r) => (.obj (kvs.foldl (fun items kv => Dict.put kv.1 kv.2 items) []), r)
    | r => (readNumber r).map fun (text, isFloat, r) =>
      (if isFloat then .float (floats.float text) else .int (intOfText text), r)

def readItems : ℕ → List Char → Option (List (JsonValue φ) × List Char)
  | 0, _ => none
  | n + 1, cs => do
    let (x, r) ← readValue n cs
    match skipBlank r with
    | ',' :: r => (readItems n r).map fun (xs, r) => (x :: xs, r)
    | ']' :: r => some ([x], r)
    | _ => none

def readFields : ℕ → List Char → Option (List (String × JsonValue φ) × List Char)
  | 0, _ => none
  | n + 1, cs =>
    match skipBlank cs with
    | '"' :: r => do
      let (k, r) ← readString r
      match skipBlank r with
      | ':' :: r => do
        let (v, r) ← readValue n r
        match skipBlank r with
        | ',' :: r => (readFields n r).map fun (kvs, r) => ((String.ofList k, v) :: kvs, r)
        | '}' :: r => some ([(String.ofList k, v)], r)
        | _ => none
      | _ => none
    | _ => none

end

def loads (cs : List Char) : Option (JsonValue φ) := do
  let (v, r) ← readValue floats (cs.length + 1) cs
  if skipBlank r = [] then some v else none

/-! ## Distinct keys -/

mutual

/-- No object repeats a key, as no dict does. -/
def Distinct : JsonValue φ → Prop
  | .arr xs => DistinctItems xs
  | .obj kvs => (kvs.map Prod.fst).Nodup ∧ DistinctFields kvs
  | _ => True

def DistinctItems : List (JsonValue φ) → Prop
  | [] => True
  | x :: xs => Distinct x ∧ DistinctItems xs

def DistinctFields : List (String × JsonValue φ) → Prop
  | [] => True
  | (_, v) :: kvs => Distinct v ∧ DistinctFields kvs

end

theorem distinctItems_iff {xs : List (JsonValue φ)} : DistinctItems xs ↔ ∀ x ∈ xs, x.Distinct := by
  induction xs with
  | nil => simp [DistinctItems]
  | cons x xs ih => simp [DistinctItems, ih]

theorem distinctFields_iff {kvs : List (String × JsonValue φ)} : DistinctFields kvs ↔ ∀ kv ∈ kvs, kv.2.Distinct := by
  induction kvs with
  | nil => simp [DistinctFields]
  | cons kv kvs ih => simp [DistinctFields, ih]

theorem sortItems_eq (xs : List (JsonValue φ)) : sortItems xs = xs.map sortKeys := by
  induction xs with
  | nil => rfl
  | cons x xs ih => simp [sortItems, ih]

theorem sortFields_eq (kvs : List (String × JsonValue φ)) :
    sortFields kvs = kvs.map fun kv => (kv.1, kv.2.sortKeys) := by
  induction kvs with
  | nil => rfl
  | cons kv kvs ih => simp [sortFields, ih]

theorem mem_sortedFields {kvs : List (String × JsonValue φ)} {kv : String × JsonValue φ} :
    kv ∈ (sortFields kvs).insertionSort key_le ↔ ∃ item ∈ kvs, (item.1, item.2.sortKeys) = kv := by
  rw [(List.perm_insertionSort key_le _).mem_iff, sortFields_eq, List.mem_map]

theorem keys_sortedFields (kvs : List (String × JsonValue φ)) :
    (((sortFields kvs).insertionSort key_le).map Prod.fst).Perm (kvs.map Prod.fst) := by
  have h := (List.perm_insertionSort key_le (sortFields kvs)).map Prod.fst
  rw [sortFields_eq, List.map_map] at h
  rwa [sortFields_eq]

theorem Distinct.sortKeys {v : JsonValue φ} (h : v.Distinct) : v.sortKeys.Distinct := by
  induction v using parts_induction with
  | null | bool | int | float | str => trivial
  | arr xs ih =>
    unfold Distinct at h
    unfold JsonValue.sortKeys Distinct
    rw [sortItems_eq, distinctItems_iff]
    rintro _ hx
    obtain ⟨x, hmem, rfl⟩ := List.mem_map.mp hx
    exact ih x hmem (distinctItems_iff.mp h x hmem)
  | obj kvs ih =>
    unfold Distinct at h
    unfold JsonValue.sortKeys Distinct
    refine ⟨(keys_sortedFields kvs).nodup_iff.mpr h.1, distinctFields_iff.mpr fun kv hkv => ?_⟩
    obtain ⟨item, hmem, rfl⟩ := mem_sortedFields.mp hkv
    exact ih item hmem (distinctFields_iff.mp h.2 item hmem)

theorem lookup_of_mem {α : Type} {kvs : List (String × α)} (hnd : (kvs.map Prod.fst).Nodup) {k : String} {a : α}
    (h : (k, a) ∈ kvs) : kvs.lookup k = some a := by
  induction kvs with
  | nil => exact absurd h List.not_mem_nil
  | cons kv kvs ih =>
    rw [List.map_cons, List.nodup_cons] at hnd
    rcases List.mem_cons.mp h with rfl | h
    · simp
    · have hne : (k == kv.1) = false := by
        rw [beq_eq_false_iff_ne]
        rintro rfl
        exact hnd.1 (List.mem_map.mpr ⟨_, h, rfl⟩)
      rw [List.lookup_cons, hne]
      exact ih hnd.2 h

/-- What a key stands for when the keys are in order. -/
theorem lookup_sortedFields {kvs : List (String × JsonValue φ)} (hnd : (kvs.map Prod.fst).Nodup) {k : String}
    {v : JsonValue φ} (h : kvs.lookup k = some v) :
    ((sortFields kvs).insertionSort key_le).lookup k = some v.sortKeys := by
  obtain ⟨front, back, rfl, -⟩ := List.lookup_eq_some_iff.mp h
  refine lookup_of_mem ((keys_sortedFields _).nodup_iff.mpr hnd) (mem_sortedFields.mpr ⟨(k, v), ?_, rfl⟩)
  exact List.mem_append_right _ List.mem_cons_self

theorem lookup_sorted {kvs : List (String × JsonValue φ)} (hnd : (kvs.map Prod.fst).Nodup) (k : String) :
    ((sortFields kvs).insertionSort key_le).lookup k = (kvs.lookup k).map JsonValue.sortKeys := by
  cases h : kvs.lookup k with
  | some v => exact lookup_sortedFields hnd h
  | none =>
    rw [List.lookup_eq_none_iff] at h
    refine List.lookup_eq_none_iff.mpr fun kv hkv => ?_
    obtain ⟨item, hitem, rfl⟩ := mem_sortedFields.mp hkv
    exact h item hitem

/-! ## It reads what was written -/

theorem takeWhile_digits {ds r : List Char} (hds : ∀ c ∈ ds, c.isDigit = true) (hr : Stop r) :
    (ds ++ r).takeWhile Char.isDigit = ds ∧ (ds ++ r).dropWhile Char.isDigit = r := by
  rw [List.takeWhile_append_of_pos hds, List.dropWhile_append_of_pos hds]
  cases r with
  | nil => simp
  | cons c r => simp [(stop_cons c r).mp hr]

theorem readFraction_of_follows {r : List Char} (h : Follows r) : readFraction r = some ([], r) := by
  cases r with
  | nil => rfl
  | cons c r => rcases h c rfl with rfl | rfl | rfl <;> rfl

theorem readExponent_of_follows {r : List Char} (h : Follows r) : readExponent r = some ([], r) := by
  cases r with
  | nil => rfl
  | cons c r => rcases h c rfl with rfl | rfl | rfl <;> rfl

theorem readUnsigned_toDigits (n : ℕ) {r : List Char} (hr : Stop r) :
    readWhole.readUnsigned (Nat.toDigits 10 n ++ r) = some (Nat.toDigits 10 n, r) := by
  obtain ⟨htake, hdrop⟩ := takeWhile_digits (fun c hc => isDigit_of_mem_toDigits (n := n) hc) hr
  have hlead : ¬((Nat.toDigits 10 n).head? = some '0' ∧ Nat.toDigits 10 n ≠ ['0']) := by
    rintro ⟨hhead, hne⟩
    rw [Json.toDigits_head_zero hhead] at hne
    exact hne rfl
  unfold readWhole.readUnsigned
  simp only [htake, hdrop]
  rw [if_neg (by simp [Nat.toDigits_ne_nil, hlead])]

theorem readWhole_intText (i : ℤ) {r : List Char} (hr : Stop r) : readWhole (intText i ++ r) = some (intText i, r) := by
  cases i with
  | ofNat n =>
    have hne : ∀ s, Nat.toDigits 10 n ++ r ≠ '-' :: s := fun s => minus_not_toDigits
    rw [intText, readWhole.eq_2 _ fun s => hne s, readUnsigned_toDigits n hr]
  | negSucc n =>
    rw [intText, List.cons_append, readWhole, readUnsigned_toDigits _ hr]
    rfl

theorem readNumber_intText (i : ℤ) {r : List Char} (hr : Follows r) :
    readNumber (intText i ++ r) = some (intText i, false, r) := by
  unfold readNumber
  rw [readWhole_intText i hr.stop]
  simp [readFraction_of_follows hr, readExponent_of_follows hr]

theorem intOfText_intText (i : ℤ) : intOfText (intText i) = i := by
  cases i with
  | ofNat n =>
    have hne : ∀ s, Nat.toDigits 10 n ≠ '-' :: s := fun s h => by
      have := minus_not_toDigits (n := n) (r := []) (s := s)
      simp [h] at this
    rw [intText, intOfText.eq_2 _ fun s => hne s, Nat.ofDigitChars_ten_toDigits]
    rfl
  | negSucc n =>
    rw [intText, intOfText, Nat.ofDigitChars_ten_toDigits]
    rfl

theorem readNumber_head {cs : List Char} {number : List Char × Bool × List Char} (h : readNumber cs = some number) :
    ∃ c s, cs = c :: s ∧ (c.isDigit = true ∨ c = '-') := by
  unfold readNumber at h
  obtain ⟨whole, hwhole, -⟩ := Option.bind_eq_some_iff.mp h
  have hunsigned (cs : List Char) (whole : List Char × List Char) (h : readWhole.readUnsigned cs = some whole) :
      ∃ c s, cs = c :: s ∧ c.isDigit = true := by
    cases cs with
    | nil => simp [readWhole.readUnsigned] at h
    | cons c s =>
      refine ⟨c, s, rfl, ?_⟩
      by_contra hdigit
      simp [readWhole.readUnsigned, hdigit] at h
  unfold readWhole at hwhole
  split at hwhole
  · exact ⟨_, _, rfl, Or.inr rfl⟩
  · obtain ⟨c, s, rfl, hdigit⟩ := hunsigned _ _ hwhole
    exact ⟨c, s, rfl, Or.inl hdigit⟩

theorem blank_of_number {c : Char} (h : c.isDigit = true ∨ c = '-') : Json.isBlank c = false := by
  rcases h with h | rfl
  · unfold Json.isBlank
    by_contra hb
    simp only [Bool.not_eq_false, Bool.or_eq_true, decide_eq_true_eq] at hb
    rcases hb with ((rfl | rfl) | rfl) | rfl <;> cases h
  · rfl

theorem readValue_number {cs text r : List Char} {isFloat : Bool} (n : ℕ)
    (h : readNumber cs = some (text, isFloat, r)) :
    readValue floats (n + 1) cs = some (if isFloat then .float (floats.float text) else .int (intOfText text), r) := by
  obtain ⟨c, s, rfl, hfront⟩ := readNumber_head h
  rw [readValue, Json.skipBlank_cons (blank_of_number hfront)]
  split
  all_goals first
    | rename_i heq
      obtain ⟨rfl, -⟩ := List.cons.inj heq
      simp at hfront
    | rw [h]
      rfl

theorem write_ne_nil (v : JsonValue φ) : 0 < (write floats blanks v).length := by
  match v with
  | .null | .bool true | .bool false | .str _ | .arr [] | .arr (_ :: _) | .obj [] | .obj ((_, _) :: _) =>
    simp [write, quote]
  | .int i =>
    obtain ⟨c, s, hc, -⟩ := readNumber_head (readNumber_intText i (r := []) nofun)
    rw [List.append_nil] at hc
    simp [write, hc]
  | .float x =>
    obtain ⟨c, s, hc, -⟩ := readNumber_head (floats.written x [] nofun)
    rw [List.append_nil] at hc
    simp [write, hc]

theorem write_front (v : JsonValue φ) : ∃ c s, write floats blanks v = c :: s ∧ Json.isBlank c = false ∧ c ≠ ']' := by
  have hnumber {c : Char} (h : c.isDigit = true ∨ c = '-') : Json.isBlank c = false ∧ c ≠ ']' :=
    ⟨blank_of_number h, fun heq => by simp [heq] at h⟩
  match v with
  | .null | .bool true | .bool false | .str _ | .arr [] | .arr (_ :: _) | .obj [] | .obj ((_, _) :: _) =>
    exact ⟨_, _, rfl, rfl, by simp⟩
  | .int i =>
    obtain ⟨c, s, hc, hfront⟩ := readNumber_head (readNumber_intText i (r := []) nofun)
    rw [List.append_nil] at hc
    exact ⟨c, s, hc, hnumber hfront⟩
  | .float x =>
    obtain ⟨c, s, hc, hfront⟩ := readNumber_head (floats.written x [] nofun)
    rw [List.append_nil] at hc
    exact ⟨c, s, hc, hnumber hfront⟩

theorem skipBlank_write (v : JsonValue φ) (r : List Char) :
    skipBlank (write floats blanks v ++ r) = write floats blanks v ++ r := by
  obtain ⟨c, s, hc, hblank, -⟩ := write_front floats blanks v
  rw [hc, List.cons_append, Json.skipBlank_cons hblank]

theorem write_ne_close (v : JsonValue φ) (r s : List Char) : write floats blanks v ++ r ≠ ']' :: s := by
  obtain ⟨c, t, hc, -, hne⟩ := write_front floats blanks v
  rw [hc, List.cons_append]
  intro heq
  exact hne (List.cons.inj heq).1

theorem follows_writeItems (xs : List (JsonValue φ)) (r : List Char) : Follows (writeItems floats blanks xs ++ r) := by
  cases xs <;> simp [writeItems, Follows]

theorem follows_writeFields (kvs : List (String × JsonValue φ)) (r : List Char) :
    Follows (writeFields floats blanks kvs ++ r) := by
  match kvs with
  | [] | (_, _) :: _ => simp [writeFields, Follows]

def ReadsBack (v : JsonValue φ) : Prop :=
  ∀ n r, (write floats blanks v).length < n → Follows r → readValue floats n (write floats blanks v ++ r) = some (v, r)

/-! Blanks in front change nothing. -/

theorem skipBlank_gap (cs : List Char) : skipBlank (gap blanks ++ cs) = skipBlank cs := by
  unfold gap
  induction blanks with
  | zero => rfl
  | succ blanks ih => rw
    [List.replicate_succ, List.cons_append, skipBlank, List.dropWhile_cons_of_pos rfl, ← skipBlank, ih]

theorem readValue_gap (n : ℕ) (cs : List Char) : readValue floats n (gap blanks ++ cs) = readValue floats n cs := by
  cases n with
  | zero => rfl
  | succ n => rw [readValue, readValue, skipBlank_gap]

theorem readItems_gap (n : ℕ) (cs : List Char) : readItems floats n (gap blanks ++ cs) = readItems floats n cs := by
  cases n with
  | zero => rfl
  | succ n => rw [readItems, readItems, readValue_gap]

theorem readFields_gap (n : ℕ) (cs : List Char) : readFields floats n (gap blanks ++ cs) = readFields floats n cs := by
  cases n with
  | zero => rfl
  | succ n => rw [readFields, readFields, skipBlank_gap]

theorem readItems_write (xs : List (JsonValue φ)) (x : JsonValue φ) (hxs : ∀ y ∈ x :: xs, ReadsBack floats blanks y)
    (n : ℕ)
    (r : List Char) (hn : (write floats blanks x ++ writeItems floats blanks xs).length < n) :
    readItems floats n (write floats blanks x ++ writeItems floats blanks xs ++ r) = some (x :: xs, r) := by
  induction xs generalizing x n with
  | nil =>
    obtain ⟨n, rfl⟩ : ∃ m, n = m + 1 := ⟨n - 1, by omega⟩
    have hx := hxs x List.mem_cons_self n (writeItems floats blanks [] ++ r) (by simp [writeItems] at hn ⊢; omega)
      (follows_writeItems floats blanks [] r)
    rw [readItems, List.append_assoc, hx]
    rfl
  | cons y ys ih =>
    obtain ⟨n, rfl⟩ : ∃ m, n = m + 1 := ⟨n - 1, by omega⟩
    have hx := hxs x List.mem_cons_self n (writeItems floats blanks (y :: ys) ++ r)
      (by simp [writeItems] at hn ⊢; omega)
      (follows_writeItems floats blanks (y :: ys) r)
    have hpos := write_ne_nil floats blanks x
    have hys := ih y (fun z hz => hxs z (List.mem_cons_of_mem _ hz)) n (by simp [writeItems] at hn ⊢; omega)
    rw [List.append_assoc] at hys
    rw [readItems, List.append_assoc, hx]
    simp only [writeItems, List.cons_append, Option.bind_eq_bind, Option.bind_some,
      Json.skipBlank_cons (rfl : Json.isBlank ',' = false), List.append_assoc, readItems_gap, hys, Option.map_some]

theorem readFields_write (kvs : List (String × JsonValue φ)) (k : String) (v : JsonValue φ)
    (hv : ∀ kv ∈ (k, v) :: kvs, ReadsBack floats blanks kv.2) (n : ℕ) (r : List Char)
    (hn : (quote k ++ ':' :: (gap blanks ++ (write floats blanks v ++ writeFields floats blanks kvs))).length < n) :
    readFields floats n (quote k ++ ':' :: (gap blanks ++ (write floats blanks v ++ writeFields floats blanks kvs)) ++
      r) =
      some ((k, v) :: kvs, r) := by
  induction kvs generalizing k v n with
  | nil =>
    obtain ⟨n, rfl⟩ : ∃ m, n = m + 1 := ⟨n - 1, by omega⟩
    have hvalue := hv (k, v) List.mem_cons_self n (writeFields floats blanks [] ++ r) (by simp [quote] at hn ⊢; omega)
      (follows_writeFields floats blanks [] r)
    have hk := Json.readString_quote k
      (':' :: (gap blanks ++ (write floats blanks v ++ (writeFields floats blanks [] ++ r))))
    rw [readFields, quote]
    simp only [List.cons_append, List.append_assoc] at hk ⊢
    simp only [Json.skipBlank_cons (rfl : Json.isBlank '"' = false), hk, Option.bind_eq_bind, Option.bind_some,
      Json.skipBlank_cons (rfl : Json.isBlank ':' = false), readValue_gap, hvalue]
    simp [writeFields, Json.skipBlank_cons (rfl : Json.isBlank '}' = false)]
  | cons kv kvs ih =>
    obtain ⟨l, w⟩ := kv
    obtain ⟨n, rfl⟩ : ∃ m, n = m + 1 := ⟨n - 1, by omega⟩
    have hvalue := hv (k, v) List.mem_cons_self n (writeFields floats blanks ((l, w) :: kvs) ++ r)
      (by simp [quote] at hn ⊢; omega) (follows_writeFields floats blanks ((l, w) :: kvs) r)
    have hk := Json.readString_quote k
      (':' :: (gap blanks ++ (write floats blanks v ++ (writeFields floats blanks ((l, w) :: kvs) ++ r))))
    have hkvs := ih l w (fun z hz => hv z (List.mem_cons_of_mem _ hz)) n (by simp [writeFields, quote] at hn ⊢; omega)
    rw [readFields, quote]
    simp only [List.cons_append, List.append_assoc] at hk hkvs ⊢
    simp only [Json.skipBlank_cons (rfl : Json.isBlank '"' = false), hk, Option.bind_eq_bind, Option.bind_some,
      Json.skipBlank_cons (rfl : Json.isBlank ':' = false), readValue_gap, hvalue]
    simp only [writeFields, List.cons_append, List.append_assoc, Json.skipBlank_cons (rfl : Json.isBlank ',' = false),
      readFields_gap, hkvs, Option.map_some, String.ofList_toList]

theorem dict_of_items (items : List (String × JsonValue φ)) (kvs : List (String × JsonValue φ))
    (h : ((items ++ kvs).map Prod.fst).Nodup) :
    kvs.foldl (fun items kv => Dict.put kv.1 kv.2 items) items = items ++ kvs := by
  induction kvs generalizing items with
  | nil => simp
  | cons kv kvs ih =>
    have hnot : kv.1 ∉ items.map Prod.fst := by
      rw [List.map_append, List.map_cons, List.nodup_middle, List.nodup_cons] at h
      exact fun hmem => h.1 (List.mem_append_left _ hmem)
    have hitems : items ++ kv :: kvs = items ++ [(kv.1, kv.2)] ++ kvs := by simp
    rw [hitems] at h ⊢
    rw [List.foldl_cons, Dict.put_of_notMem hnot, ih _ h]

theorem readValue_write {v : JsonValue φ} (h : v.Distinct) : ReadsBack floats blanks v := by
  induction v using parts_induction with
  | null =>
    intro n r hn hr
    obtain ⟨n, rfl⟩ : ∃ m, n = m + 1 := ⟨n - 1, by omega⟩
    rfl
  | bool b =>
    intro n r hn hr
    obtain ⟨n, rfl⟩ : ∃ m, n = m + 1 := ⟨n - 1, by omega⟩
    cases b <;> rfl
  | int i =>
    intro n r hn hr
    obtain ⟨n, rfl⟩ : ∃ m, n = m + 1 := ⟨n - 1, by omega⟩
    rw [write, readValue_number floats n (readNumber_intText i hr), intOfText_intText]
    rfl
  | float x =>
    intro n r hn hr
    obtain ⟨n, rfl⟩ : ∃ m, n = m + 1 := ⟨n - 1, by omega⟩
    rw [write, readValue_number floats n (floats.written x r hr), floats.float_repr]
    rfl
  | str s =>
    intro n r hn hr
    obtain ⟨n, rfl⟩ : ∃ m, n = m + 1 := ⟨n - 1, by omega⟩
    rw [write, quote, List.cons_append, readValue, Json.skipBlank_cons rfl]
    simp only [Json.readString_quote, Option.map_some, String.ofList_toList]
  | arr xs ih =>
    intro n r hn hr
    obtain ⟨n, rfl⟩ : ∃ m, n = m + 1 := ⟨n - 1, by omega⟩
    unfold Distinct at h
    rw [distinctItems_iff] at h
    match xs with
    | [] => rfl
    | x :: xs =>
      have hitems := readItems_write floats blanks xs x (fun y hy => ih y hy (h y hy)) n r
        (by simp [write] at hn ⊢; omega)
      have hskip := skipBlank_write floats blanks x (writeItems floats blanks xs ++ r)
      rw [← List.append_assoc] at hskip
      rw [write, List.cons_append, readValue, Json.skipBlank_cons rfl]
      simp only [hskip]
      split
      · rename_i heq
        rw [List.append_assoc] at heq
        exact absurd heq (write_ne_close floats blanks x _ _)
      · rw [hitems]
        rfl
  | obj kvs ih =>
    intro n r hn hr
    obtain ⟨n, rfl⟩ : ∃ m, n = m + 1 := ⟨n - 1, by omega⟩
    unfold Distinct at h
    rw [distinctFields_iff] at h
    match kvs with
    | [] => rfl
    | (k, v) :: kvs =>
      have hfields := readFields_write floats blanks kvs k v (fun kv hkv => ih kv hkv (h.2 kv hkv)) n r
        (by simp [write] at hn ⊢; omega)
      rw [write, List.cons_append, readValue, Json.skipBlank_cons rfl]
      simp only [quote, List.cons_append] at hfields ⊢
      simp only [Json.skipBlank_cons (rfl : Json.isBlank '"' = false)]
      split
      · rename_i heq
        cases (List.cons.inj heq).1
      · rw [hfields, Option.map_some]
        have hitems := dict_of_items [] ((k, v) :: kvs) h.1
        rw [hitems]
        rfl

theorem loads_dumps {v : JsonValue φ} (h : v.Distinct) : loads floats (dumps floats blanks v) = some v.sortKeys := by
  have hread := readValue_write floats blanks h.sortKeys ((dumps floats blanks v).length + 1) []
    (Nat.lt_succ_self _) nofun
  rw [List.append_nil] at hread
  unfold loads
  rw [dumps] at hread ⊢
  rw [hread]
  rfl

/-! ## Equal texts -/

theorem dumps_inj (floats : FloatText φ) {blanks : ℕ} {v w : JsonValue φ} (hv : v.Distinct) (hw : w.Distinct)
    (h : dumps floats blanks v = dumps floats blanks w) : v.sortKeys = w.sortKeys :=
  Option.some.inj ((loads_dumps floats blanks hv).symm.trans
    ((congrArg (loads floats) h).trans (loads_dumps floats blanks hw)))

/-- Items with the same distinct keys are the same when they are in some order. -/
theorem eq_of_perm {α : Type} {kvs kws : List (String × α)} (hnd : (kvs.map Prod.fst).Nodup)
    (hkeys : kvs.map Prod.fst = kws.map Prod.fst) (h : kvs.Perm kws) : kvs = kws := by
  induction kvs generalizing kws with
  | nil => exact (List.nil_perm.mp h).symm
  | cons kv kvs ih =>
    cases kws with
    | nil => cases hkeys
    | cons kw kws =>
      simp only [List.map_cons, List.cons.injEq] at hkeys
      rw [List.map_cons, List.nodup_cons] at hnd
      have hmem : kv ∈ kw :: kws := h.subset List.mem_cons_self
      rcases List.mem_cons.mp hmem with rfl | hmem
      · rw [ih hnd.2 hkeys.2 ((List.perm_cons kv).mp h)]
      · refine absurd ?_ hnd.1
        rw [hkeys.2]
        exact List.mem_map_of_mem hmem

theorem sortKeys_obj_inj {kvs kws : List (String × JsonValue φ)} (hnd : (kvs.map Prod.fst).Nodup)
    (hkeys : kvs.map Prod.fst = kws.map Prod.fst) (h : (obj kvs).sortKeys = (obj kws).sortKeys) :
    kvs.map (fun kv => kv.2.sortKeys) = kws.map fun kv => kv.2.sortKeys := by
  have hfst (kvs : List (String × JsonValue φ)) : (sortFields kvs).map Prod.fst = kvs.map Prod.fst := by
    rw [sortFields_eq, List.map_map]
    rfl
  rw [sortKeys, sortKeys] at h
  have hperm : (sortFields kvs).Perm (sortFields kws) :=
    (List.perm_insertionSort key_le _).symm.trans ((JsonValue.obj.inj h) ▸ List.perm_insertionSort key_le _)
  have heq := eq_of_perm (by rwa [hfst]) (by rw [hfst, hfst, hkeys]) hperm
  rw [sortFields_eq, sortFields_eq] at heq
  have hsnd := congrArg (List.map Prod.snd) heq
  rwa [List.map_map, List.map_map] at hsnd

instance : Std.Total (key_le : String × JsonValue φ → _ → Prop) := ⟨fun a b => le_total a.1 b.1⟩

instance : IsTrans _ (key_le : String × JsonValue φ → _ → Prop) := ⟨fun _ _ _ hab hbc => String.le_trans hab hbc⟩

theorem sortKeys_sortKeys (v : JsonValue φ) : v.sortKeys.sortKeys = v.sortKeys := by
  induction v using parts_induction with
  | null | bool | int | float | str => rfl
  | arr xs ih =>
    rw [sortKeys, sortKeys, sortItems_eq, sortItems_eq, List.map_map]
    exact congrArg arr (List.map_congr_left ih)
  | obj kvs ih =>
    have hsame : sortFields ((sortFields kvs).insertionSort key_le) = (sortFields kvs).insertionSort key_le := by
      rw [sortFields_eq]
      conv_rhs => rw [← List.map_id ((sortFields kvs).insertionSort key_le)]
      refine List.map_congr_left fun kv hkv => ?_
      obtain ⟨item, hitem, rfl⟩ := mem_sortedFields.mp hkv
      rw [ih item hitem, id]
    rw [sortKeys, sortKeys, hsame, (List.pairwise_insertionSort key_le _).insertionSort_eq]

theorem dumps_front (floats : FloatText φ) (blanks : ℕ) {kvs : List (String × JsonValue φ)} {k : String}
    (hmem : k ∈ kvs.map Prod.fst) (hleast : ∀ key ∈ kvs.map Prod.fst, k ≤ key) :
    ∃ rest, dumps floats blanks (obj kvs) = '{' :: (Json.quote k ++ rest) := by
  have hkeys := keys_sortedFields kvs
  have hsorted := List.pairwise_insertionSort key_le (sortFields kvs)
  unfold dumps
  rw [sortKeys]
  cases hitems : (sortFields kvs).insertionSort key_le with
  | nil =>
    rw [hitems] at hkeys
    exact absurd (hkeys.symm.subset hmem) List.not_mem_nil
  | cons kv items =>
    rw [hitems] at hkeys hsorted
    have hfirst : kv.1 = k := by
      refine String.le_antisymm ?_ (hleast kv.1 (hkeys.subset List.mem_cons_self))
      obtain ⟨item, hitem, rfl⟩ := List.mem_map.mp (hkeys.symm.subset hmem)
      rcases List.mem_cons.mp hitem with rfl | hitem
      · exact String.le_refl _
      · exact (List.pairwise_cons.mp hsorted).1 item hitem
    obtain ⟨key, value⟩ := kv
    rw [← hfirst, write]
    exact ⟨_, rfl⟩

theorem sortKeys_obj_length {kvs kws : List (String × JsonValue φ)} (h : (obj kvs).sortKeys = (obj kws).sortKeys) :
    kvs.length = kws.length := by
  rw [sortKeys, sortKeys] at h
  have hlength := congrArg List.length (JsonValue.obj.inj h)
  rwa [List.length_insertionSort, List.length_insertionSort, sortFields_eq, sortFields_eq, List.length_map,
    List.length_map] at hlength

theorem sortKeys_arr_inj {α : Type} {f : α → JsonValue φ} {xs ys : List α}
    (hf : ∀ x y, (f x).sortKeys = (f y).sortKeys → x = y)
    (h : (arr (xs.map f)).sortKeys = (arr (ys.map f)).sortKeys) : xs = ys := by
  rw [sortKeys, sortKeys, sortItems_eq, sortItems_eq, List.map_map, List.map_map] at h
  exact List.map_injective_iff.mpr (fun x y hxy => hf x y hxy) (JsonValue.arr.inj h)

/-! ## The strings of a value, and the characters of its text -/

mutual

/-- The keys (`true`) and the texts (`false`) of a value, at every depth. -/
def strings : JsonValue φ → List (Bool × String)
  | .str s => [(false, s)]
  | .arr xs => stringsOfItems xs
  | .obj kvs => stringsOfFields kvs
  | _ => []

def stringsOfItems : List (JsonValue φ) → List (Bool × String)
  | [] => []
  | x :: xs => strings x ++ stringsOfItems xs

def stringsOfFields : List (String × JsonValue φ) → List (Bool × String)
  | [] => []
  | (k, v) :: kvs => (true, k) :: (strings v ++ stringsOfFields kvs)

end

theorem mem_stringsOfItems {xs : List (JsonValue φ)} {e : Bool × String} :
    e ∈ stringsOfItems xs ↔ ∃ x ∈ xs, e ∈ x.strings := by
  induction xs with
  | nil => simp [stringsOfItems]
  | cons x xs ih => simp [stringsOfItems, ih]

theorem mem_stringsOfFields {kvs : List (String × JsonValue φ)} {e : Bool × String} :
    e ∈ stringsOfFields kvs ↔ ∃ kv ∈ kvs, e = (true, kv.1) ∨ e ∈ kv.2.strings := by
  induction kvs with
  | nil => simp [stringsOfFields]
  | cons kv kvs ih => simp [stringsOfFields, ih, or_assoc]

theorem mem_strings_sortKeys {v : JsonValue φ} {e : Bool × String} : e ∈ v.sortKeys.strings ↔ e ∈ v.strings := by
  induction v using parts_induction with
  | null | bool | int | float | str => rfl
  | arr xs ih =>
    unfold sortKeys strings
    rw [sortItems_eq, mem_stringsOfItems, mem_stringsOfItems]
    constructor
    · rintro ⟨_, hmem, he⟩
      obtain ⟨x, hx, rfl⟩ := List.mem_map.mp hmem
      exact ⟨x, hx, (ih x hx).mp he⟩
    · rintro ⟨x, hx, he⟩
      exact ⟨x.sortKeys, List.mem_map_of_mem hx, (ih x hx).mpr he⟩
  | obj kvs ih =>
    unfold sortKeys strings
    rw [mem_stringsOfFields, mem_stringsOfFields]
    constructor
    · rintro ⟨_, hmem, he⟩
      obtain ⟨kv, hkv, rfl⟩ := mem_sortedFields.mp hmem
      exact ⟨kv, hkv, he.imp_right (ih kv hkv).mp⟩
    · rintro ⟨kv, hkv, he⟩
      exact ⟨(kv.1, kv.2.sortKeys), mem_sortedFields.mpr ⟨kv, hkv, rfl⟩, he.imp_right (ih kv hkv).mpr⟩

/-- A printable character of ASCII. -/
def Printable (c : Char) : Prop := 32 ≤ c.toNat ∧ c.toNat < 127

instance (c : Char) : Decidable (Printable c) := inferInstanceAs (Decidable (_ ∧ _))

theorem all_printable {cs : List Char} (h : cs.all (fun c => decide (Printable c)) = true) {c : Char} (hc : c ∈ cs) :
    Printable c :=
  of_decide_eq_true (List.all_eq_true.mp h c hc)

theorem printable_digit {c : Char} (h : c.isDigit = true) : Printable c := by
  unfold Char.isDigit at h
  simp only [Bool.and_eq_true, decide_eq_true_eq] at h
  have hlow : (48 : ℕ) ≤ c.toNat := h.1
  have hhigh : c.toNat ≤ 57 := h.2
  constructor <;> omega

theorem printable_takeWhile {cs : List Char} {c : Char} (h : c ∈ cs.takeWhile Char.isDigit) : Printable c :=
  printable_digit (List.mem_takeWhile_imp h)

theorem printable_escape {c d : Char} (h : d ∈ escape c) : Printable d ∨ (d = c ∧ 127 ≤ c.toNat) := by
  have hhex {x : Char} (hx : x ∈ "0123456789abcdef".toList) : Printable x := all_printable (by decide) hx
  unfold escape at h
  split_ifs at h with h₁ h₂ h₃ h₄ h₅ h₆ h₇ h₈
  case neg =>
    rw [List.mem_singleton] at h
    subst h
    by_cases hlt : d.toNat < 127
    · exact Or.inl ⟨by omega, hlt⟩
    · exact Or.inr ⟨rfl, by omega⟩
  all_goals
    left
    simp only [List.mem_cons, List.not_mem_nil, or_false] at h
    rcases h with rfl | rfl | h
  all_goals first
    | decide
    | exact hhex (mem_fixedText_sixteen h)

theorem printable_unsigned {cs : List Char} {whole : List Char × List Char}
    (h : readWhole.readUnsigned cs = some whole) : ∀ c ∈ whole.1, Printable c := by
  unfold readWhole.readUnsigned at h
  dsimp only at h
  split_ifs at h
  cases h
  exact fun c hc => printable_takeWhile hc

theorem printable_whole {cs : List Char} {whole : List Char × List Char} (h : readWhole cs = some whole) :
    ∀ c ∈ whole.1, Printable c := by
  unfold readWhole at h
  split at h
  · obtain ⟨digits, hdigits, rfl⟩ := Option.map_eq_some_iff.mp h
    intro c hc
    rcases List.mem_cons.mp hc with rfl | hc
    · decide
    · exact printable_unsigned hdigits c hc
  · exact printable_unsigned h

theorem printable_fraction {cs : List Char} {fraction : List Char × List Char} (h : readFraction cs = some fraction) :
    ∀ c ∈ fraction.1, Printable c := by
  unfold readFraction at h
  split at h
  · split_ifs at h
    cases h
    intro c hc
    rcases List.mem_cons.mp hc with rfl | hc
    · decide
    · exact printable_takeWhile hc
  · cases h
    exact fun c hc => absurd hc List.not_mem_nil

theorem printable_power {e : Char} (he : Printable e) {cs : List Char} {power : List Char × List Char}
    (h : readExponent.readPower e (readSign cs) = some power) : ∀ c ∈ power.1, Printable c := by
  have hsign : ∀ c ∈ (readSign cs).1, Printable c := by
    unfold readSign
    split
    · simpa using (by decide : Printable '+')
    · simpa using (by decide : Printable '-')
    · simp
  unfold readExponent.readPower at h
  dsimp only at h
  split_ifs at h
  cases h
  intro c hc
  rcases List.mem_cons.mp hc with rfl | hc
  · exact he
  · rcases List.mem_append.mp hc with hc | hc
    · exact hsign c hc
    · exact printable_takeWhile hc

theorem printable_exponent {cs : List Char} {exponent : List Char × List Char} (h : readExponent cs = some exponent) :
    ∀ c ∈ exponent.1, Printable c := by
  unfold readExponent at h
  split at h
  · exact printable_power (by decide) h
  · exact printable_power (by decide) h
  · cases h
    exact fun c hc => absurd hc List.not_mem_nil

theorem printable_number {cs : List Char} {number : List Char × Bool × List Char} (h : readNumber cs = some number) :
    ∀ c ∈ number.1, Printable c := by
  unfold readNumber at h
  obtain ⟨whole, hwhole, h⟩ := Option.bind_eq_some_iff.mp h
  obtain ⟨fraction, hfraction, h⟩ := Option.bind_eq_some_iff.mp h
  obtain ⟨exponent, hexponent, h⟩ := Option.bind_eq_some_iff.mp h
  cases h
  intro c hc
  simp only [List.mem_append] at hc
  rcases hc with (hc | hc) | hc
  · exact printable_whole hwhole c hc
  · exact printable_fraction hfraction c hc
  · exact printable_exponent hexponent c hc

section Foreign

variable {c : Char} (hc : ¬ Printable c)
include hc

theorem foreign_ne {d : Char} (hd : Printable d) : c ≠ d := by
  rintro rfl
  exact hc hd

theorem notMem_gap : c ∉ gap blanks := fun h =>
  hc (List.eq_of_mem_replicate h ▸ (by decide : Printable ' '))

theorem mem_quote {s : String} : c ∈ quote s ↔ 127 ≤ c.toNat ∧ c ∈ s.toList := by
  have hquote := foreign_ne hc (by decide : Printable '"')
  unfold quote
  simp only [List.mem_cons, List.mem_append, List.mem_flatMap, hquote, List.not_mem_nil, or_false, false_or]
  constructor
  · rintro ⟨x, hx, hmem⟩
    rcases printable_escape hmem with hprintable | ⟨rfl, hx'⟩
    · exact absurd hprintable hc
    · exact ⟨hx', hx⟩
  · rintro ⟨hlow, hmem⟩
    refine ⟨c, hmem, ?_⟩
    unfold escape
    have hne (d : Char) (hd : d.toNat < 127) : c ≠ d := by
      rintro rfl
      omega
    rw [if_neg hquote, if_neg (hne _ (by decide)), if_neg (hne _ (by decide)), if_neg (hne _ (by decide)),
      if_neg (hne _ (by decide)), if_neg (hne _ (by decide)), if_neg (hne _ (by decide)), if_neg (by omega)]
    exact List.mem_singleton.mpr rfl

theorem mem_writeItems {xs : List (JsonValue φ)} :
    c ∈ writeItems floats blanks xs ↔ ∃ x ∈ xs, c ∈ write floats blanks x := by
  induction xs with
  | nil => simp [writeItems, foreign_ne hc (by decide : Printable ']')]
  | cons x xs ih =>
    simp [writeItems, foreign_ne hc (by decide : Printable ','), notMem_gap blanks hc, ih]

theorem mem_writeFields {kvs : List (String × JsonValue φ)} :
    c ∈ writeFields floats blanks kvs ↔ ∃ kv ∈ kvs, c ∈ quote kv.1 ∨ c ∈ write floats blanks kv.2 := by
  induction kvs with
  | nil => simp [writeFields, foreign_ne hc (by decide : Printable '}')]
  | cons kv kvs ih =>
    simp [writeFields, foreign_ne hc (by decide : Printable ','), notMem_gap blanks hc,
      foreign_ne hc (by decide : Printable ':'), ih, or_assoc]

/-- A character that is not printable is in the text only where a string has it, unescaped. -/
theorem mem_write {v : JsonValue φ} : c ∈ write floats blanks v ↔ 127 ≤ c.toNat ∧ ∃ e ∈ v.strings, c ∈ e.2.toList := by
  induction v using parts_induction with
  | null =>
    have hnot : c ∉ ['n', 'u', 'l', 'l'] := fun h => hc (all_printable (by decide) h)
    simpa [write, strings] using hnot
  | bool b =>
    have hnot : c ∉ ['t', 'r', 'u', 'e', 'f', 'a', 'l', 's', 'e'] := fun h =>
      hc (all_printable (by decide) h)
    simp only [List.mem_cons, List.not_mem_nil, or_false, not_or] at hnot
    cases b <;> simp [write, strings, hnot]
  | int i =>
    have hnot : c ∉ intText i := fun h => hc (printable_number (readNumber_intText i (r := []) nofun) c h)
    simp [write, strings, hnot]
  | float x =>
    have hnot : c ∉ floats.repr x := fun h => hc (printable_number (floats.written x [] nofun) c h)
    simp [write, strings, hnot]
  | str s => simp [write, strings, mem_quote hc]
  | arr xs ih =>
    have harr : c ∈ write floats blanks (.arr xs) ↔ ∃ x ∈ xs, c ∈ write floats blanks x := by
      match xs with
      | [] => simp [write, foreign_ne hc (by decide : Printable '['), foreign_ne hc (by decide : Printable ']')]
      | x :: xs => simp [write, mem_writeItems floats blanks hc, foreign_ne hc (by decide : Printable '[')]
    rw [harr, strings]
    simp only [mem_stringsOfItems]
    constructor
    · rintro ⟨x, hx, hmem⟩
      obtain ⟨hlow, e, he, hce⟩ := (ih x hx).mp hmem
      exact ⟨hlow, e, ⟨x, hx, he⟩, hce⟩
    · rintro ⟨hlow, e, ⟨x, hx, he⟩, hce⟩
      exact ⟨x, hx, (ih x hx).mpr ⟨hlow, e, he, hce⟩⟩
  | obj kvs ih =>
    have hobj : c ∈ write floats blanks (.obj kvs) ↔ ∃ kv ∈ kvs, c ∈ quote kv.1 ∨ c ∈ write floats blanks kv.2 := by
      match kvs with
      | [] => simp [write, foreign_ne hc (by decide : Printable '{'), foreign_ne hc (by decide : Printable '}')]
      | (k, v) :: kvs =>
        simp [write, mem_writeFields floats blanks hc, foreign_ne hc (by decide : Printable '{'),
          foreign_ne hc (by decide : Printable ':'), notMem_gap blanks hc, or_assoc]
    rw [hobj, strings]
    simp only [mem_stringsOfFields, mem_quote hc]
    constructor
    · rintro ⟨kv, hkv, ⟨hlow, hmem⟩ | hmem⟩
      · exact ⟨hlow, (true, kv.1), ⟨kv, hkv, Or.inl rfl⟩, hmem⟩
      · obtain ⟨hlow, e, he, hce⟩ := (ih kv hkv).mp hmem
        exact ⟨hlow, e, ⟨kv, hkv, Or.inr he⟩, hce⟩
    · rintro ⟨hlow, e, ⟨kv, hkv, he⟩, hce⟩
      rcases he with rfl | he
      · exact ⟨kv, hkv, Or.inl ⟨hlow, hce⟩⟩
      · exact ⟨kv, hkv, Or.inr ((ih kv hkv).mpr ⟨hlow, e, he, hce⟩)⟩

end Foreign

end JsonValue

open JsonValue in
/-- The floats of one value, `0.5`. -/
def FloatText.half : FloatText Unit where
  repr _ := ['0', '.', '5']
  float _ := ()
  written _ r hr := by
    have htake := takeWhile_digits (List.all_eq_true.mp (by decide : ['5'].all Char.isDigit = true)) hr.stop
    have hexp := readExponent_of_follows hr
    rw [List.singleton_append] at htake
    simp [readNumber, readWhole, readWhole.readUnsigned, readFraction, htake, hexp]
  float_repr _ := rfl

end CommerceAgent.Lib
