import CommerceAgent.Lib.Json

/-!
# Reading JSON

`loads` reads the texts of integers, strings, arrays and objects, and reads back what
`dumps` writes. Numbers with a fraction or an exponent are outside `Json`.
-/

namespace CommerceAgent.Lib.Json

/-! ## The reader -/

def isBlank (c : Char) : Bool := c = ' ' || c = '\t' || c = '\n' || c = '\r'

def skipBlank (cs : List Char) : List Char := cs.dropWhile isBlank

/-- The character that a single letter after a backslash stands for. -/
def unescape (c : Char) : Option Char :=
  if c = '"' then some '"'
  else if c = '\\' then some '\\'
  else if c = '/' then some '/'
  else if c = 'n' then some '\n'
  else if c = 'r' then some '\r'
  else if c = 't' then some '\t'
  else if c = 'f' then some (Char.ofNat 12)
  else if c = 'b' then some (Char.ofNat 8)
  else none

/-- A string up to its closing quote, and what follows. -/
def readString : List Char → Option (List Char × List Char)
  | [] => none
  | '"' :: r => some ([], r)
  | '\\' :: 'u' :: a :: b :: c :: d :: r => do
    let n ← hexValue [a, b, c, d]
    let (s, r) ← readString r
    if n.isValidChar then some (Char.ofNat n :: s, r) else none
  | '\\' :: e :: r => do
    let c ← unescape e
    let (s, r) ← readString r
    some (c :: s, r)
  | c :: r =>
    if c.toNat < 32 then none
    else do
      let (s, r) ← readString r
      some (c :: s, r)

/-- The digits at the front of a text, without a leading zero. -/
def readDigits (cs : List Char) : Option (ℕ × List Char) :=
  let ds := cs.takeWhile Char.isDigit
  let r := cs.dropWhile Char.isDigit
  if ds = [] ∨ (ds.head? = some '0' ∧ ds ≠ ['0']) ∨ (r.head?.any fun c => c = '.' || c = 'e' || c = 'E') then none
  else some (Nat.ofDigitChars 10 ds 0, r)

def readInt : List Char → Option (ℤ × List Char)
  | '-' :: r => (readDigits r).map fun (n, r) => (-n, r)
  | r => (readDigits r).map fun (n, r) => (n, r)

mutual

/-- A value at the front of a text. The fuel bounds the depth and the width of it. -/
def readValue : ℕ → List Char → Option (Json × List Char)
  | 0, _ => none
  | n + 1, cs =>
    match skipBlank cs with
    | 'n' :: 'u' :: 'l' :: 'l' :: r => some (.null, r)
    | 't' :: 'r' :: 'u' :: 'e' :: r => some (.bool true, r)
    | 'f' :: 'a' :: 'l' :: 's' :: 'e' :: r => some (.bool false, r)
    | '"' :: r => (readString r).map fun (s, r) => (.str (String.ofList s), r)
    | '[' :: r =>
      match skipBlank r with
      | ']' :: r => some (.arr [], r)
      | r => (readItems n r).map fun (xs, r) => (.arr xs, r)
    | '{' :: r =>
      match skipBlank r with
      | '}' :: r => some (.obj [], r)
      | r => (readFields n r).map fun (kvs, r) => (.obj kvs, r)
    | r => (readInt r).map fun (i, r) => (.num i, r)

def readItems : ℕ → List Char → Option (List Json × List Char)
  | 0, _ => none
  | n + 1, cs => do
    let (x, r) ← readValue n cs
    match skipBlank r with
    | ',' :: r => (readItems n r).map fun (xs, r) => (x :: xs, r)
    | ']' :: r => some ([x], r)
    | _ => none

def readFields : ℕ → List Char → Option (List (String × Json) × List Char)
  | 0, _ => none
  | n + 1, cs =>
    match skipBlank cs with
    | '"' :: r => do
      let (k, r) ← readString r
      match skipBlank r with
      | ':' :: r => do
        let (v, r) ← readValue n r
        match skipBlank r with
        | ',' :: r => (readFields n r).map fun (kvs, r) => ((String.ofList k, v) :: kvs, r)
        | '}' :: r => some ([(String.ofList k, v)], r)
        | _ => none
      | _ => none
    | _ => none

end

/-- `json.loads`, of a text. -/
def loads (s : String) : Option Json := do
  let (j, r) ← readValue (s.toList.length + 1) s.toList
  if skipBlank r = [] then some j else none

/-! ## It reads what was written -/

theorem skipBlank_cons {c : Char} (h : isBlank c = false) (r : List Char) : skipBlank (c :: r) = c :: r := by
  simp [skipBlank, h]

theorem readString_escape (c : Char) (r : List Char) :
    readString (escape c ++ r) = (readString r).map fun (s, r) => (c :: s, r) := by
  rcases escape_cases c with ⟨he, hq, hb⟩ | ⟨d, he, hu, hd⟩ | ⟨he, hlt⟩
  · rw [he, List.singleton_append]
    have hge : ¬ c.toNat < 32 := by
      intro hlt
      have : (escape c).length = 1 := by rw [he]; rfl
      revert this
      unfold escape
      split_ifs <;> simp_all [hexDigits]
    rw [readString.eq_5 c r (by simpa using hq) (by simp_all) (by simp_all), if_neg hge]
    cases readString r <;> rfl
  · rw [he]
    rcases hd with ⟨rfl, rfl⟩ | ⟨rfl, rfl⟩ | ⟨rfl, rfl⟩ | ⟨rfl, rfl⟩ | ⟨rfl, rfl⟩ | ⟨rfl, rfl⟩ | ⟨rfl, rfl⟩ <;>
      simp [readString, unescape] <;> cases readString r <;> rfl
  · rw [he]
    have hhex : hexValue (hexDigits c.toNat) = some c.toNat := by
      rw [hexDigits, hexValue_fixedText, Nat.mod_eq_of_lt (by omega)]
    obtain ⟨x, y, z, w, hxyz⟩ : ∃ x y z w, hexDigits c.toNat = [x, y, z, w] := by
      have hlen : (hexDigits c.toNat).length = 4 := by simp [hexDigits]
      obtain ⟨x, rest, hx, hrest⟩ := List.length_eq_succ_iff.mp hlen
      obtain ⟨y, z, w, rfl⟩ := List.length_eq_three.mp hrest
      exact ⟨x, y, z, w, hx.symm⟩
    rw [hxyz] at hhex ⊢
    have hvalid : c.toNat.isValidChar := c.valid
    simp only [List.cons_append, List.nil_append, readString, hhex, Option.bind_eq_bind, Option.bind_some, hvalid,
      if_true, Char.ofNat_toNat]
    cases readString r <;> rfl

theorem readString_escapes (xs r : List Char) : readString (xs.flatMap escape ++ '"' :: r) = some (xs, r) := by
  induction xs with
  | nil => simp [readString]
  | cons x xs ih => rw [List.flatMap_cons, List.append_assoc, readString_escape, ih]; rfl

theorem readString_quote (s : String) (r : List Char) :
    readString ((s.toList.flatMap escape ++ ['"']) ++ r) = some (s.toList, r) := by
  rw [List.append_assoc]
  exact readString_escapes _ _

theorem toDigits_head_zero {n : ℕ} (h : (Nat.toDigits 10 n).head? = some '0') : n = 0 := by
  induction n using Nat.strongRecOn with
  | ind n ih =>
    by_cases hlt : n < 10
    · rw [Nat.toDigits_of_lt_base hlt, List.head?_cons, Option.some.injEq] at h
      exact digitChar_inj (by omega) (by omega) h
    · rw [Nat.toDigits_of_base_le (by omega) (by omega), List.head?_append_of_ne_nil _ Nat.toDigits_ne_nil] at h
      have := ih (n / 10) (by omega) h
      omega

theorem readDigits_toDigits {n : ℕ} {r : List Char} (hr : Stop r)
    (hpoint : r.head?.any (fun c => c = '.' || c = 'e' || c = 'E') = false) :
    readDigits (Nat.toDigits 10 n ++ r) = some (n, r) := by
  have htake : (Nat.toDigits 10 n ++ r).takeWhile Char.isDigit = Nat.toDigits 10 n := by
    rw [List.takeWhile_append_of_pos fun c hc => isDigit_of_mem_toDigits hc]
    cases r with
    | nil => simp
    | cons c r => simp [(stop_cons c r).mp hr]
  have hdrop : (Nat.toDigits 10 n ++ r).dropWhile Char.isDigit = r := by
    rw [List.dropWhile_append_of_pos fun c hc => isDigit_of_mem_toDigits hc]
    cases r with
    | nil => rfl
    | cons c r => simp [(stop_cons c r).mp hr]
  have hlead : ¬((Nat.toDigits 10 n).head? = some '0' ∧ Nat.toDigits 10 n ≠ ['0']) := by
    rintro ⟨hhead, hne⟩
    rw [toDigits_head_zero hhead] at hne
    exact hne rfl
  unfold readDigits
  simp only [htake, hdrop, hpoint]
  rw [if_neg (by simp [Nat.toDigits_ne_nil, hlead]), Nat.ofDigitChars_ten_toDigits]

/-- What may follow a value in a written text. -/
def Follows (r : List Char) : Prop := ∀ c, r.head? = some c → c = ',' ∨ c = ']' ∨ c = '}'

theorem Follows.stop {r : List Char} (h : Follows r) : Stop r := by
  intro c hc
  rcases h c hc with rfl | rfl | rfl <;> rfl

theorem Follows.point {r : List Char} (h : Follows r) :
    r.head?.any (fun c => c = '.' || c = 'e' || c = 'E') = false := by
  cases r with
  | nil => rfl
  | cons c r => rcases h c rfl with rfl | rfl | rfl <;> rfl

theorem follows_writeItems (xs : List Json) (r : List Char) : Follows (writeItems xs ++ r) := by
  cases xs <;> simp [writeItems, Follows]

theorem follows_writeFields (kvs : List (String × Json)) (r : List Char) : Follows (writeFields kvs ++ r) := by
  match kvs with
  | [] | (_, _) :: _ => simp [writeFields, Follows]

theorem readInt_intText (i : ℤ) {r : List Char} (hr : Follows r) : readInt (intText i ++ r) = some (i, r) := by
  cases i with
  | ofNat n =>
    have hne : ∀ s, Nat.toDigits 10 n ++ r ≠ '-' :: s := fun s => minus_not_toDigits
    rw [intText, readInt.eq_2 _ fun s => hne s, readDigits_toDigits hr.stop hr.point]
    rfl
  | negSucc n =>
    rw [intText, List.cons_append, readInt, readDigits_toDigits hr.stop hr.point]
    rfl

theorem readValue_int (n : ℕ) (i : ℤ) {r : List Char} (hr : Follows r) :
    readValue (n + 1) (intText i ++ r) = some (.num i, r) := by
  obtain ⟨c, s, hc, hfront⟩ : ∃ c s, intText i = c :: s ∧ (c.isDigit = true ∨ c = '-') := by
    cases i with
    | ofNat n =>
      obtain ⟨c, s, hc⟩ := List.exists_cons_of_ne_nil (Nat.toDigits_ne_nil (b := 10) (n := n))
      exact ⟨c, s, hc, .inl (isDigit_of_mem_toDigits (n := n) (by simp [hc]))⟩
    | negSucc n => exact ⟨'-', _, rfl, .inr rfl⟩
  have hread := readInt_intText i hr
  rw [hc, List.cons_append] at hread ⊢
  have hblank : isBlank c = false := by
    rcases hfront with h | rfl
    · unfold isBlank
      by_contra hb
      simp only [Bool.not_eq_false, Bool.or_eq_true, decide_eq_true_eq] at hb
      rcases hb with ((rfl | rfl) | rfl) | rfl <;> cases h
    · rfl
  rw [readValue, skipBlank_cons hblank]
  split
  all_goals first
    | rename_i heq
      obtain ⟨rfl, -⟩ := List.cons.inj heq
      simp at hfront
    | rw [hread]
      rfl

theorem write_ne_nil (j : Json) : 0 < (write j).length := by
  obtain ⟨c, r, hw, -⟩ := write_head j
  simp [hw]

theorem skipBlank_write (j : Json) (r : List Char) : skipBlank (write j ++ r) = write j ++ r := by
  match j with
  | .null | .bool true | .bool false | .str _ | .arr [] | .arr (_ :: _) | .obj [] | .obj ((_, _) :: _) => rfl
  | .num (.negSucc n) => rfl
  | .num (.ofNat n) =>
    obtain ⟨c, s, hc⟩ := List.exists_cons_of_ne_nil (Nat.toDigits_ne_nil (b := 10) (n := n))
    have hd : c.isDigit = true := isDigit_of_mem_toDigits (n := n) (by simp [hc])
    have hblank : isBlank c = false := by
      by_contra hb
      simp only [isBlank, Bool.not_eq_false, Bool.or_eq_true, decide_eq_true_eq] at hb
      rcases hb with ((rfl | rfl) | rfl) | rfl <;> cases hd
    rw [write, intText, hc, List.cons_append, skipBlank_cons hblank]

def ReadsBack (j : Json) : Prop :=
  ∀ n r, (write j).length < n → Follows r → readValue n (write j ++ r) = some (j, r)

mutual

theorem readValue_write (j : Json) : ReadsBack j := by
  intro n r hn hr
  obtain ⟨n, rfl⟩ : ∃ m, n = m + 1 := ⟨n - 1, by omega⟩
  match j with
  | .null | .bool true | .bool false | .arr [] | .obj [] => rfl
  | .num i => exact readValue_int n i hr
  | .str s =>
    rw [write, quote, List.cons_append, readValue, skipBlank_cons rfl]
    simp only [readString_quote, Option.map_some, String.ofList_toList]
  | .arr (x :: xs) =>
    have hlen : (write x ++ writeItems xs).length < n := by simp [write] at hn ⊢; omega
    have hitems := readItems_write x (readValue_write x) xs n r hlen
    have hskip : skipBlank (write x ++ writeItems xs ++ r) = write x ++ writeItems xs ++ r := by
      rw [List.append_assoc, skipBlank_write]
    rw [write, List.cons_append, readValue, skipBlank_cons rfl]
    simp only [hskip]
    split
    · rename_i heq
      rw [List.append_assoc] at heq
      exact absurd heq (write_ne_close (.inl rfl))
    · rw [hitems]
      rfl
  | .obj ((k, v) :: kvs) =>
    have hlen : (quote k ++ ':' :: (write v ++ writeFields kvs)).length < n := by simp [write] at hn ⊢; omega
    have hfields := readFields_write k v (readValue_write v) kvs n r hlen
    rw [write, List.cons_append, readValue, skipBlank_cons rfl]
    simp only [quote, List.cons_append] at hfields ⊢
    simp only [skipBlank_cons (rfl : isBlank '"' = false)]
    split
    · rename_i heq
      cases (List.cons.inj heq).1
    · rw [hfields]
      rfl

theorem readItems_write (x : Json) (hx : ReadsBack x) (xs : List Json) (n : ℕ) (r : List Char)
    (hn : (write x ++ writeItems xs).length < n) :
    readItems n (write x ++ writeItems xs ++ r) = some (x :: xs, r) := by
  obtain ⟨n, rfl⟩ : ∃ m, n = m + 1 := ⟨n - 1, by omega⟩
  rw [List.length_append] at hn
  have hx := hx n (writeItems xs ++ r)
    (by cases xs <;> simp [writeItems] at hn ⊢ <;> omega) (follows_writeItems xs r)
  rw [readItems, List.append_assoc, hx]
  match xs with
  | [] => rfl
  | y :: ys =>
    have hpos := write_ne_nil x
    have hys := readItems_write y (readValue_write y) ys n r (by simp [writeItems] at hn ⊢; omega)
    simp only [writeItems, List.cons_append, Option.bind_eq_bind, Option.bind_some,
      skipBlank_cons (rfl : isBlank ',' = false), hys, Option.map_some]

theorem readFields_write (k : String) (v : Json) (hv : ReadsBack v) (kvs : List (String × Json)) (n : ℕ)
    (r : List Char) (hn : (quote k ++ ':' :: (write v ++ writeFields kvs)).length < n) :
    readFields n (quote k ++ ':' :: (write v ++ writeFields kvs) ++ r) = some ((k, v) :: kvs, r) := by
  obtain ⟨n, rfl⟩ : ∃ m, n = m + 1 := ⟨n - 1, by omega⟩
  have hv := hv n (writeFields kvs ++ r)
    (by simp [quote] at hn ⊢; omega) (follows_writeFields kvs r)
  have hk := readString_quote k (':' :: (write v ++ (writeFields kvs ++ r)))
  rw [readFields, quote]
  simp only [List.cons_append, List.append_assoc] at hk ⊢
  simp only [skipBlank_cons (rfl : isBlank '"' = false), hk, Option.bind_eq_bind, Option.bind_some,
    skipBlank_cons (rfl : isBlank ':' = false), hv]
  match kvs with
  | [] => simp [writeFields, skipBlank_cons (rfl : isBlank '}' = false)]
  | (l, w) :: lws =>
    have hlws := readFields_write l w (readValue_write w) lws n r (by simp [writeFields, quote] at hn ⊢; omega)
    simp only [List.cons_append, List.append_assoc] at hlws
    simp only [writeFields, List.cons_append, List.append_assoc, skipBlank_cons (rfl : isBlank ',' = false), hlws,
      Option.map_some, String.ofList_toList]

end

theorem loads_dumps (j : Json) : loads j.dumps = some j.sortKeys := by
  have hread := readValue_write j.sortKeys ((write j.sortKeys).length + 1) [] (by omega) fun c hc => by cases hc
  rw [List.append_nil] at hread
  rw [loads, dumps, String.toList_ofList, hread]
  rfl

end CommerceAgent.Lib.Json
