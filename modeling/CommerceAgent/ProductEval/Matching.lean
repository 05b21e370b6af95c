import CommerceAgent.Lib.Rounding
import CommerceAgent.ProductEval.Scoring

/-!
# Matching tables

Two tables match when one mapping of the columns and one pairing of the rows pair cells that agree. The scoring compares
texts, which tell zeros of opposite signs apart, and take two NaNs for equal.
-/

open CommerceAgent.Lib

namespace CommerceAgent.ProductEval

variable (library : ScoringLibrary)

/-! ## Agreement -/

def finite_number : Numeral → Option ℚ
  | .finite negative coefficient exponent => some (Decimal.finite negative coefficient exponent).value
  | _ => none

def Cell.number : Cell → Option ℚ
  | .int n => some n
  | value => (Numeral.read library.unicode value.written).bind finite_number

/-- Cells that are not null agree under a kind. -/
def ValuesAgree (reference agent : Cell) : Kind → Prop
  | .number => ∃ x y, reference.number library = some x ∧ agent.number library = some y ∧ toPlaces 6 x = toPlaces 6 y
  | .bool => ∃ b, reference = .bool b ∧ agent = .bool b
  | .text => reference.written = agent.written

def CellsAgree (kind : Kind) (reference agent : Cell) : Prop :=
  (reference = .null ∧ agent = .null) ∨ (reference ≠ .null ∧ agent ≠ .null ∧ ValuesAgree library reference agent kind)

def RowsPaired (cells : Kind → Cell → Cell → Prop) (kinds : List Kind) (reference agent : List Cell) : Prop :=
  List.Forall₂ (fun entry value => cells entry.1 entry.2 value) (kinds.zip reference) agent

/-- The rows of the tables are paired, in their order or in any. -/
def TablesPaired (cells : Kind → Cell → Cell → Prop) (kinds : List Kind) (ordered : Bool)
    (reference agent : List (List Cell)) (mapping : List ℕ) : Prop :=
  ∃ paired : List (List Cell), (if ordered then paired = agent else paired.Perm agent) ∧
    List.Forall₂ (fun row cells' => cells'.length = mapping.length ∧
      RowsPaired cells kinds row (rearranged mapping cells'))
      reference paired

/-- Each column has the cells of one kind. -/
def Fits (kinds : List Kind) (width : ℕ) (reference : List (List Cell)) : Prop :=
  kinds.length = width ∧ ∀ index < width, ∀ value ∈ column reference index,
    value ≠ .null → kinds[index]? = some (cell_kind value)

def AnyMapping (cells : Kind → Cell → Cell → Prop) (kinds : List Kind) (ordered : Bool) (width : ℕ)
    (reference agent : List (List Cell)) : Prop :=
  ∃ mapping : List ℕ, mapping.Perm (List.range width) ∧ TablesPaired cells kinds ordered reference agent mapping

/-- What the comparison is to find. -/
def Matches (ordered : Bool) (width : ℕ) (reference agent : List (List Cell)) : Prop :=
  (agent = [] ∧ reference = []) ∨
    ∃ kinds, Fits kinds width reference ∧ AnyMapping (CellsAgree library) kinds ordered width reference agent

/-! ## Cells that are compared wrongly -/

/-- A number that has no text with six places. -/
def Unquantizable : Numeral → Prop
  | .finite _ coefficient exponent => 10 ^ 28 ≤ Decimal.rescale 6 coefficient exponent
  | .infinity _ => True
  | .nan _ signaling _ => signaling = true

def CellRaises (entry : Kind × Cell) : Prop :=
  entry.2 ≠ .null ∧
    match entry.1 with
    | .number => ∃ number, numeric library entry.2 = some number ∧ Unquantizable number
    | .bool => False
    | .text => entry.2.Long

def CellUnreadable (entry : Kind × Cell) : Prop :=
  entry.2 ≠ .null ∧
    match entry.1 with
    | .number => numeric library entry.2 = none
    | .bool => ∀ b, entry.2 ≠ .bool b
    | .text => False

/-- The sign, which a zero has as well. -/
def Cell.minus (value : Cell) : Bool :=
  match numeric library value with
  | some (.finite negative _ _) => negative
  | _ => false

/-- Equal numbers that have different texts, or none. -/
def ToldApart (kind : Kind) (reference agent : Cell) : Prop :=
  kind = .number ∧ (reference.Long ∨ agent.Long ∨ reference.minus library ≠ agent.minus library)

/-- NaNs with the same text. -/
def SameNan (kind : Kind) (reference agent : Cell) : Prop :=
  kind = .number ∧ reference ≠ .null ∧ agent ≠ .null ∧ ∃ negative payload payload',
    numeric library reference = some (.nan negative false payload) ∧
    numeric library agent = some (.nan negative false payload') ∧ payload % 10 ^ 28 = payload' % 10 ^ 28

/-- What is taken for agreement. -/
def CellsAlike (kind : Kind) (reference agent : Cell) : Prop :=
  (CellsAgree library kind reference agent ∧ ¬ ToldApart library kind reference agent) ∨
    SameNan library kind reference agent

def RowRaises (kinds : List Kind) (cells : List Cell) : Prop :=
  ∃ entry, Reached (CellUnreadable library) (kinds.zip cells) entry ∧ CellRaises library entry

def RowUnreadable (kinds : List Kind) (cells : List Cell) :
    Prop := ∃ entry ∈ kinds.zip cells, CellUnreadable library entry

/-- A cell that raises comes before the first cell that is not read. -/
def TableRaises (kinds : List Kind) (rows : List (List Cell)) : Prop :=
  ∃ cells, Reached (RowUnreadable library kinds) rows cells ∧ RowRaises library kinds cells

/-- When tables of the same shape are compared as they should be. -/
structure Compared (kinds : List Kind) (ordered : Bool) (width : ℕ) (reference agent : List (List Cell)) : Prop where
  reference_reads : ¬ TableRaises library kinds reference
  agent_reads : (∀ cells ∈ reference, ¬ RowUnreadable library kinds cells) →
    ∀ mapping, Reached (TablesPaired (CellsAlike library) kinds ordered reference agent)
      (permutations (List.range width)) mapping → ¬ TableRaises library kinds (agent.map (rearranged mapping))
  told_apart : AnyMapping (CellsAgree library) kinds ordered width reference agent →
    AnyMapping (CellsAlike library) kinds ordered width reference agent
  same_nan : AnyMapping (CellsAlike library) kinds ordered width reference agent →
    AnyMapping (CellsAgree library) kinds ordered width reference agent

/-- When a comparison is right. -/
def Sound (ordered : Bool) (width : ℕ) (reference agent : List (List Cell)) : Prop :=
  ∀ kinds, reference ≠ [] → reference.length = agent.length → (∀ cells ∈ agent, cells.length = width) →
    reference_column_kinds reference width = some kinds → Compared library kinds ordered width reference agent

/-! ## Texts of numbers -/

variable {library} {kind : Kind} {reference agent : Cell}

def nanText (negative : Bool) (payload : ℕ) : List Char :=
  (if negative then ['-'] else []) ++ 'N' :: 'a' :: 'N' ::
    (if payload % 10 ^ 28 = 0 then [] else Nat.toDigits 10 (payload % 10 ^ 28))

theorem format_finite {coefficient : ℕ} {exponent : ℤ} (negative : Bool)
    (h : Decimal.rescale 6 coefficient exponent < 10 ^ 28) : format_quantized (.finite negative coefficient exponent) =
      .ok (String.ofList (Decimal.fixedPoint 6 negative (Decimal.rescale 6 coefficient exponent))) :=
  if_pos h

theorem format_nan (negative : Bool) (payload : ℕ) :
    format_quantized (.nan negative false payload) = .ok (String.ofList (nanText negative payload)) := rfl

theorem format_error {number : Numeral} (h : Unquantizable number) :
    format_quantized number = .error .InvalidOperation := by
  cases number with
  | finite negative coefficient exponent => exact if_neg (not_lt.mpr h)
  | infinity => rfl
  | nan negative signaling payload =>
    obtain rfl : signaling = true := h
    rfl

theorem format_ok {number : Numeral} (h : ¬ Unquantizable number) : ∃ text, format_quantized number = .ok text := by
  cases number with
  | finite negative coefficient exponent => exact ⟨_, format_finite negative (not_le.mp h)⟩
  | infinity => exact absurd trivial h
  | nan negative signaling payload =>
    obtain rfl : signaling = false := Bool.eq_false_iff.mpr h
    exact ⟨_, format_nan negative payload⟩

theorem nanText_inj {a b : Bool} {n m : ℕ} (h : nanText a n = nanText b m) : a = b ∧ n % 10 ^ 28 = m % 10 ^ 28 := by
  have hdigits (k : ℕ) (hk : k ≠ 0) : Nat.toDigits 10 k ≠ [] := Nat.toDigits_ne_nil
  have htail (h' : (if n % 10 ^ 28 = 0 then [] else Nat.toDigits 10 (n % 10 ^ 28)) =
      if m % 10 ^ 28 = 0 then [] else Nat.toDigits 10 (m % 10 ^ 28)) : n % 10 ^ 28 = m % 10 ^ 28 := by
    split_ifs at h' with hn hm hm
    · rw [hn, hm]
    · exact absurd h'.symm (hdigits _ hm)
    · exact absurd h' (hdigits _ hn)
    · exact toDigits_inj h'
  unfold nanText at h
  cases a <;> cases b
  · exact ⟨rfl, htail (by simpa using h)⟩
  · simp at h
  · simp at h
  · exact ⟨rfl, htail (by simpa using h)⟩

theorem notMem_fixedPoint {c : Char} (hdigit : c.isDigit = false) (hminus : c ≠ '-') (hpoint : c ≠ '.')
    (negative : Bool)
    (n : ℕ) : c ∉ Decimal.fixedPoint 6 negative n := by
  have hne {d : Char} (hd : d.isDigit = true) : c ≠ d := by
    rintro rfl
    rw [hdigit] at hd
    cases hd
  intro h
  unfold Decimal.fixedPoint at h
  rcases List.mem_append.mp h with h | h
  · rcases List.mem_append.mp h with h | h
    · cases negative <;> simp [hminus] at h
    · exact hne (isDigit_of_mem_toDigits h) rfl
  · rcases List.mem_cons.mp h with h | h
    · exact hpoint h
    · exact hne (isDigit_of_mem_fixedText h) rfl

theorem fixedPoint_ne_nanText {negative negative' : Bool} {n payload : ℕ} :
    Decimal.fixedPoint 6 negative n ≠ nanText negative' payload := by
  intro h
  refine notMem_fixedPoint (c := 'N') (by decide) (by decide) (by decide) negative n ?_
  rw [h]
  unfold nanText
  exact List.mem_append_right _ List.mem_cons_self

def SameText : Numeral → Numeral → Prop
  | .finite negative c e, .finite negative' d f => negative = negative' ∧ Decimal.rescale 6 c e = Decimal.rescale 6 d f
  | .nan negative _ n, .nan negative' _ m => negative = negative' ∧ n % 10 ^ 28 = m % 10 ^ 28
  | _, _ => False

theorem format_eq_iff {n m : Numeral} (hn : ¬ Unquantizable n) (hm : ¬ Unquantizable m) :
    format_quantized n = format_quantized m ↔ SameText n m := by
  have htexts {xs ys : List Char} :
      (Except.ok (String.ofList xs) : Except Raised String) = .ok (String.ofList ys) ↔ xs = ys := by
    rw [Except.ok.injEq, String.ofList_inj]
  cases n with
  | infinity => exact absurd trivial hn
  | finite a c e =>
    rw [format_finite a (not_le.mp hn)]
    cases m with
    | infinity => exact absurd trivial hm
    | finite b d f =>
      rw [format_finite b (not_le.mp hm), htexts]
      exact ⟨Decimal.fixedPoint_inj, fun h => by rw [h.1, h.2]⟩
    | nan b signaling payload =>
      obtain rfl : signaling = false := Bool.eq_false_iff.mpr hm
      rw [format_nan, htexts]
      exact ⟨fun h => absurd h fixedPoint_ne_nanText, False.elim⟩
  | nan a signaling payload =>
    obtain rfl : signaling = false := Bool.eq_false_iff.mpr hn
    rw [format_nan]
    cases m with
    | infinity => exact absurd trivial hm
    | finite b d f =>
      rw [format_finite b (not_le.mp hm), htexts]
      exact ⟨fun h => absurd h.symm fixedPoint_ne_nanText, False.elim⟩
    | nan b signaling payload' =>
      obtain rfl : signaling = false := Bool.eq_false_iff.mpr hm
      rw [format_nan, htexts]
      refine ⟨nanText_inj, fun ⟨hsign, hpayload⟩ => ?_⟩
      unfold nanText
      rw [hsign, hpayload]

theorem rounded_eq_of_sign {negative : Bool} {c d : ℕ} {e f : ℤ} :
    toPlaces 6 (Decimal.finite negative c e).value = toPlaces 6 (Decimal.finite negative d f).value ↔
      Decimal.rescale 6 c e = Decimal.rescale 6 d f := by
  have hpow : (10 : ℚ) ^ ((6 : ℕ) : ℤ) ≠ 0 := zpow_ne_zero _ (by norm_num)
  have hsign : (if negative then -1 else 1 : ℚ) ≠ 0 := by cases negative <;> norm_num
  rw [show (6 : ℤ) = (6 : ℕ) from rfl, Decimal.toPlaces_finite, Decimal.toPlaces_finite, mul_right_inj' hsign,
    div_left_inj' hpow, Int.cast_inj, Int.natCast_inj]

/-! ## Cells in normal form -/

theorem numeric_long (h : reference.Long) : numeric library reference = none := by
  unfold numeric str
  rw [if_pos h]

theorem numeric_short (h : ¬ reference.Long) :
    numeric library reference = Numeral.read library.unicode reference.written := by
  unfold numeric str
  rw [if_neg h]

theorem number_eq (h : ¬ reference.Long) :
    reference.number library = (numeric library reference).bind finite_number := by
  rw [numeric_short h]
  cases reference with
  | int n =>
    have hread := Numeral.read_intText library.unicode (not_le.mp h)
    unfold Cell.written
    dsimp only
    rw [hread, Option.bind_some]
    exact congrArg some (Decimal.value_int n).symm
  | null => rfl
  | bool b => rfl
  | decimal s => rfl
  | float s => rfl
  | text s => rfl

def normal (library : ScoringLibrary) (entry : Kind × Cell) : Option String :=
  match normalize_cell library entry.1 entry.2 with
  | .ok (some text) => text
  | _ => none

theorem normalize_null (kind : Kind) : normalize_cell library kind .null = .ok (some none) := if_pos rfl

theorem normalize_number (hnull : reference ≠ .null) {number : Numeral} (h : numeric library reference = some number) :
    normalize_cell library .number reference = (format_quantized number).map fun text => some (some text) := by
  unfold normalize_cell
  rw [if_neg hnull]
  dsimp only
  rw [h]

theorem normalize_no_number (hnull : reference ≠ .null) (h : numeric library reference = none) :
    normalize_cell library .number reference = .ok none := by
  unfold normalize_cell
  rw [if_neg hnull]
  dsimp only
  rw [h]

theorem normalize_bool (b : Bool) :
    normalize_cell library .bool (.bool b) = .ok (some (some (if b then "True" else "False"))) := rfl

theorem normalize_no_bool (hnull : reference ≠ .null) (h : ∀ b, reference ≠ .bool b) :
    normalize_cell library .bool reference = .ok none := by
  unfold normalize_cell
  rw [if_neg hnull]
  cases reference with
  | bool b => exact absurd rfl (h b)
  | _ => rfl

theorem normalize_text (hnull : reference ≠ .null) (h : ¬ reference.Long) :
    normalize_cell library .text reference = .ok (some (some reference.written)) := by
  unfold normalize_cell str
  rw [if_neg hnull, if_neg h]
  rfl

theorem normalize_long (hnull : reference ≠ .null) (h : reference.Long) :
    normalize_cell library .text reference = .error .ValueError := by
  unfold normalize_cell str
  rw [if_neg hnull, if_pos h]
  rfl

theorem normal_of {text : Option String} (h : normalize_cell library kind reference = .ok (some text)) :
    normalize_cell library kind reference = .ok (some (normal library (kind, reference))) := by
  unfold normal
  rw [h]

theorem normalize_cell_steps (entry : Kind × Cell) :
    Steps (fun entry : Kind × Cell => normalize_cell library entry.1 entry.2) (CellRaises library)
      (CellUnreadable library) (normal library) entry := by
  obtain ⟨kind, value⟩ := entry
  by_cases hnull : value = .null
  · subst hnull
    exact ⟨fun h => absurd rfl h.1, fun _ h => absurd rfl h.1, fun _ _ => normal_of (normalize_null kind)⟩
  cases kind with
  | number =>
    cases hnumber : numeric library value with
    | none =>
      refine ⟨fun ⟨_, number, hread, _⟩ => ?_, fun _ _ => normalize_no_number hnull hnumber, fun _ h => ?_⟩
      · rw [show numeric library value = some number from hread] at hnumber
        cases hnumber
      · exact absurd ⟨hnull, hnumber⟩ h
    | some number =>
      refine ⟨fun ⟨_, number', hread, hraises⟩ => ?_, fun _ h => ?_, fun h _ => ?_⟩
      · obtain rfl := Option.some.inj (hnumber.symm.trans hread)
        exact ⟨.InvalidOperation, by dsimp only; rw [normalize_number hnull hnumber, format_error hraises]; rfl⟩
      · rw [show numeric library value = none from h.2] at hnumber
        cases hnumber
      · obtain ⟨text, htext⟩ := format_ok fun hraises => h ⟨hnull, number, hnumber, hraises⟩
        have hnormal := normalize_number hnull hnumber
        rw [htext] at hnormal
        exact normal_of hnormal
  | bool =>
    refine ⟨fun h => h.2.elim, fun _ h => normalize_no_bool hnull h.2, fun _ h => ?_⟩
    cases value with
    | bool b => exact normal_of (normalize_bool b)
    | _ => exact absurd ⟨hnull, by simp⟩ h
  | text =>
    refine ⟨fun h => ⟨.ValueError, normalize_long hnull h.2⟩, fun _ h => h.2.elim, fun h _ => ?_⟩
    exact normal_of (normalize_text hnull fun hlong => h ⟨hnull, hlong⟩)

/-! ## Equal normal forms -/

theorem short_of_numeric {number : Numeral} (h : numeric library reference = some number) : ¬ reference.Long := by
  intro hlong
  rw [numeric_long hlong] at h
  cases h

/-- Numbers with equal texts agree, unless they are NaNs. -/
theorem alike_number (hreference : reference ≠ .null) (hagent : agent ≠ .null) {n m : Numeral}
    (hn : numeric library reference = some n) (hm : numeric library agent = some m) (hquantized : ¬ Unquantizable n)
    (hquantized' : ¬ Unquantizable m) : CellsAlike library .number reference agent ↔ SameText n m := by
  have hshort := short_of_numeric hn
  have hshort' := short_of_numeric hm
  have hagree : CellsAgree library .number reference agent ↔
      ∃ x y, finite_number n = some x ∧ finite_number m = some y ∧ toPlaces 6 x = toPlaces 6 y := by
    unfold CellsAgree ValuesAgree
    rw [number_eq hshort, number_eq hshort', hn, hm]
    simp [hreference, hagent]
  have hsame : SameNan library .number reference agent ↔ ∃ negative payload payload',
      n = .nan negative false payload ∧ m = .nan negative false payload' ∧ payload % 10 ^ 28 = payload' % 10 ^ 28 := by
    unfold SameNan
    rw [hn, hm]
    simp [hreference, hagent]
  have hapart : ToldApart library .number reference agent ↔ reference.minus library ≠ agent.minus library := by
    unfold ToldApart
    simp [hshort, hshort']
  unfold CellsAlike
  rw [hagree, hsame, hapart]
  unfold Cell.minus
  rw [hn, hm]
  cases n with
  | infinity => exact absurd trivial hquantized
  | finite a c e =>
    cases m with
    | infinity => exact absurd trivial hquantized'
    | finite b d f =>
      constructor
      · rintro (⟨⟨x, y, hx, hy, hround⟩, hsign⟩ | ⟨_, _, _, hnan, -⟩)
        · obtain rfl := Option.some.inj hx
          obtain rfl := Option.some.inj hy
          obtain rfl : a = b := not_not.mp hsign
          exact ⟨rfl, rounded_eq_of_sign.mp hround⟩
        · cases hnan
      · rintro ⟨rfl, hunits⟩
        exact Or.inl ⟨⟨_, _, rfl, rfl, rounded_eq_of_sign.mpr hunits⟩, not_not.mpr rfl⟩
    | nan b signaling payload => simp [finite_number, SameText]
  | nan a signaling payload =>
    obtain rfl : signaling = false := Bool.eq_false_iff.mpr hquantized
    cases m with
    | infinity => exact absurd trivial hquantized'
    | finite b d f => simp [finite_number, SameText]
    | nan b signaling payload' =>
      obtain rfl : signaling = false := Bool.eq_false_iff.mpr hquantized'
      constructor
      · rintro (⟨⟨x, y, hx, -⟩, -⟩ | ⟨_, _, _, hnan, hnan', hpayload⟩)
        · cases hx
        · cases hnan
          cases hnan'
          exact ⟨rfl, hpayload⟩
      · rintro ⟨rfl, hpayload⟩
        exact Or.inr ⟨_, _, _, rfl, rfl, hpayload⟩

/-- A cell with a normal form. -/
def Readable (library : ScoringLibrary) (entry : Kind × Cell) : Prop :=
  ¬ CellRaises library entry ∧ ¬ CellUnreadable library entry

theorem Readable.normalize (h : Readable library (kind, reference)) :
    normalize_cell library kind reference = .ok (some (normal library (kind, reference))) :=
  (normalize_cell_steps (kind, reference)).some h.1 h.2

theorem Readable.number (h : Readable library (.number, reference)) (hnull : reference ≠ .null) :
    ∃ number, numeric library reference = some number ∧ ¬ Unquantizable number := by
  cases hnumber : numeric library reference with
  | none => exact absurd ⟨hnull, hnumber⟩ h.2
  | some number => exact ⟨number, rfl, fun hraises => h.1 ⟨hnull, number, hnumber, hraises⟩⟩

theorem Readable.bool (h : Readable library (.bool, reference)) (hnull : reference ≠ .null) :
    ∃ b, reference = .bool b := by
  by_contra hno
  exact h.2 ⟨hnull, fun b hb => hno ⟨b, hb⟩⟩

theorem normal_eq_of_normalize {text : Option String} (h : normalize_cell library kind reference = .ok (some text)) :
    normal library (kind, reference) = text := by
  unfold normal
  rw [h]

theorem normal_null (kind : Kind) : normal library (kind, .null) = none := normal_eq_of_normalize (normalize_null kind)

theorem normal_number (hnull : reference ≠ .null) {number : Numeral} (h : numeric library reference = some number)
    {text : String} (htext : format_quantized number = .ok text) : normal library (.number, reference) = some text := by
  have hnormalize := normalize_number hnull h
  rw [htext] at hnormalize
  exact normal_eq_of_normalize hnormalize

theorem Readable.text (h : Readable library (kind, reference)) (hnull : reference ≠ .null) :
    ∃ text, normal library (kind, reference) = some text := by
  cases kind with
  | number =>
    obtain ⟨number, hnumber, hquantized⟩ := h.number hnull
    obtain ⟨text, htext⟩ := format_ok hquantized
    exact ⟨text, normal_number hnull hnumber htext⟩
  | bool =>
    obtain ⟨b, rfl⟩ := h.bool hnull
    exact ⟨_, normal_eq_of_normalize (normalize_bool b)⟩
  | text => exact ⟨_, normal_eq_of_normalize (normalize_text hnull fun hlong => h.1 ⟨hnull, hlong⟩)⟩

theorem alike_of_kind (hkind : kind ≠ .number) :
    CellsAlike library kind reference agent ↔ CellsAgree library kind reference agent := by
  unfold CellsAlike ToldApart SameNan
  simp [hkind]

theorem not_alike_null (hagent : agent ≠ .null) : ¬ CellsAlike library kind .null agent := by
  rintro (⟨⟨-, hnull⟩ | ⟨hnull, -⟩, -⟩ | ⟨-, hnull, -⟩)
  · exact hagent hnull
  · exact hnull rfl
  · exact hnull rfl

theorem not_alike_of_null (hreference : reference ≠ .null) : ¬ CellsAlike library kind reference .null := by
  rintro (⟨⟨hnull, -⟩ | ⟨-, hnull, -⟩, -⟩ | ⟨-, -, hnull, -⟩)
  · exact hreference hnull
  · exact hnull rfl
  · exact hnull rfl

theorem alike_nulls (kind : Kind) : CellsAlike library kind .null .null := by
  refine Or.inl ⟨Or.inl ⟨rfl, rfl⟩, ?_⟩
  rintro ⟨-, hlong | hlong | hsign⟩
  · exact hlong
  · exact hlong
  · exact hsign rfl

theorem normal_eq_iff (hreference : Readable library (kind, reference)) (hagent : Readable library (kind, agent)) :
    normal library (kind, reference) = normal library (kind, agent) ↔ CellsAlike library kind reference agent := by
  by_cases hnull : reference = .null
  · subst hnull
    rw [normal_null]
    by_cases hnull' : agent = .null
    · subst hnull'
      rw [normal_null]
      exact iff_of_true rfl (alike_nulls kind)
    · obtain ⟨text, htext⟩ := hagent.text hnull'
      rw [htext]
      exact iff_of_false (by simp) (not_alike_null hnull')
  by_cases hnull' : agent = .null
  · subst hnull'
    obtain ⟨text, htext⟩ := hreference.text hnull
    rw [htext, normal_null]
    exact iff_of_false (by simp) (not_alike_of_null hnull)
  cases kind with
  | number =>
    obtain ⟨n, hn, hquantized⟩ := hreference.number hnull
    obtain ⟨m, hm, hquantized'⟩ := hagent.number hnull'
    obtain ⟨text, htext⟩ := format_ok hquantized
    obtain ⟨text', htext'⟩ := format_ok hquantized'
    rw [normal_number hnull hn htext, normal_number hnull' hm htext',
      alike_number hnull hnull' hn hm hquantized hquantized',
      ← format_eq_iff hquantized hquantized', htext, htext', Except.ok.injEq, Option.some.injEq]
  | bool =>
    obtain ⟨b, rfl⟩ := hreference.bool hnull
    obtain ⟨b', rfl⟩ := hagent.bool hnull'
    rw [normal_eq_of_normalize (normalize_bool b), normal_eq_of_normalize (normalize_bool b'),
      alike_of_kind (by simp)]
    cases b <;> cases b' <;> simp [CellsAgree, ValuesAgree]
  | text =>
    rw [normal_eq_of_normalize (normalize_text hnull fun hlong => hreference.1 ⟨hnull, hlong⟩),
      normal_eq_of_normalize (normalize_text hnull' fun hlong => hagent.1 ⟨hnull', hlong⟩), alike_of_kind (by simp)]
    simp [CellsAgree, ValuesAgree, hnull, hnull']

theorem CellsAlike.symm (h : CellsAlike library kind reference agent) : CellsAlike library kind agent reference := by
  rcases h with ⟨hagree, hapart⟩ | ⟨hkind, hnull, hnull', negative, n, m, hn, hm, hpayload⟩
  · refine Or.inl ⟨?_, fun ⟨hkind, hsome⟩ => hapart ⟨hkind, ?_⟩⟩
    · rcases hagree with ⟨hnull, hnull'⟩ | ⟨hnull, hnull', hvalues⟩
      · exact Or.inl ⟨hnull', hnull⟩
      · refine Or.inr ⟨hnull', hnull, ?_⟩
        cases kind with
        | number =>
          obtain ⟨x, y, hx, hy, hround⟩ := hvalues
          exact ⟨y, x, hy, hx, hround.symm⟩
        | bool =>
          obtain ⟨b, hb, hb'⟩ := hvalues
          exact ⟨b, hb', hb⟩
        | text => exact Eq.symm hvalues
    · rcases hsome with hlong | hlong | hsign
      · exact Or.inr (Or.inl hlong)
      · exact Or.inl hlong
      · exact Or.inr (Or.inr hsign.symm)
  · exact Or.inr ⟨hkind, hnull', hnull, negative, m, n, hm, hn, hpayload.symm⟩

theorem CellsAlike.readable (h : CellsAlike library kind reference agent) :
    ¬ CellUnreadable library (kind, reference) := by
  rintro ⟨hnull, hunread⟩
  rcases h with ⟨⟨hnull', -⟩ | ⟨-, -, hvalues⟩, hapart⟩ | ⟨rfl, -, -, _, _, _, hnan, -⟩
  · exact hnull hnull'
  · cases kind with
    | number =>
      obtain ⟨x, -, hx, -⟩ := hvalues
      have hshort : ¬ reference.Long := fun hlong => hapart ⟨rfl, Or.inl hlong⟩
      rw [number_eq hshort, show numeric library reference = none from hunread] at hx
      cases hx
    | bool =>
      obtain ⟨b, hb, -⟩ := hvalues
      exact hunread b hb
    | text => exact hunread
  · rw [show numeric library reference = none from hunread] at hnan
    cases hnan

/-! ## Rows -/

variable {kinds : List Kind} {row row' : List Cell}

theorem row_normal (kinds : List Kind) (row : List Cell) :
    (∀ entry ∈ kinds.zip row, Readable library entry) ↔ ¬ RowRaises library kinds row ∧
      ¬ RowUnreadable library kinds row := by
  constructor
  · intro h
    exact ⟨fun ⟨entry, hreached, hraises⟩ => (h entry hreached.mem).1 hraises,
      fun ⟨entry, hmem, hunread⟩ => (h entry hmem).2 hunread⟩
  · rintro ⟨hraises, hunread⟩ entry hmem
    have hgo : ∀ other ∈ kinds.zip row, ¬ CellUnreadable library other := fun other hother hstop =>
      hunread ⟨other, hother, hstop⟩
    exact ⟨fun hraise => hraises ⟨entry, reached_of_mem hgo hmem, hraise⟩, hgo entry hmem⟩

def normalRow (library : ScoringLibrary) (kinds : List Kind) (row : List Cell) : List (Option String) :=
  (kinds.zip row).map (normal library)

theorem normalize_row_steps (hlength : row.length = kinds.length) :
    Steps (normalize_row library kinds) (RowRaises library kinds) (RowUnreadable library kinds)
      (normalRow library kinds) row := by
  classical
  have hunfold : normalize_row library kinds row =
      collect (fun entry : Kind × Cell => normalize_cell library entry.1 entry.2) (kinds.zip row) :=
    if_neg (not_not.mpr hlength)
  have hsteps : ∀ entry ∈ kinds.zip row,
      Steps (fun entry : Kind × Cell => normalize_cell library entry.1 entry.2) (CellRaises library)
        (CellUnreadable library) (normal library) entry := fun entry _ => normalize_cell_steps entry
  refine ⟨fun ⟨entry, hreached, hraises⟩ => ?_, fun hraises hstop => ?_, fun hraises hgo => ?_⟩
  · rw [hunfold]
    exact collect_error hsteps hreached hraises
  · rw [hunfold, collect_ok hsteps fun entry hreached hraise => hraises ⟨entry, hreached, hraise⟩]
    exact congrArg Except.ok (if_pos hstop)
  · rw [hunfold, collect_ok hsteps fun entry hreached hraise => hraises ⟨entry, hreached, hraise⟩]
    exact congrArg Except.ok (if_neg hgo)

theorem normalRow_eq_iff (hlength : row.length = kinds.length) (hlength' : row'.length = kinds.length)
    (hrow : ∀ entry ∈ kinds.zip row, Readable library entry)
      (hrow' : ∀ entry ∈ kinds.zip row', Readable library entry) :
    normalRow library kinds row = normalRow library kinds row' ↔ RowsPaired (CellsAlike library) kinds row row' := by
  unfold normalRow RowsPaired
  induction kinds generalizing row row' with
  | nil =>
    obtain rfl := List.length_eq_zero_iff.mp hlength
    obtain rfl := List.length_eq_zero_iff.mp hlength'
    exact iff_of_true rfl .nil
  | cons kind kinds ih =>
    obtain ⟨value, row, rfl⟩ := List.exists_cons_of_length_eq_add_one hlength
    obtain ⟨value', row', rfl⟩ := List.exists_cons_of_length_eq_add_one hlength'
    rw [List.zip_cons_cons, List.zip_cons_cons, List.map_cons, List.map_cons, List.cons.injEq, List.forall₂_cons]
    have hfirst := normal_eq_iff (hrow _ List.mem_cons_self) (hrow' _ List.mem_cons_self)
    have hrest := ih (Nat.succ.inj hlength) (Nat.succ.inj hlength')
      (fun entry hentry => hrow entry (List.mem_cons_of_mem _ hentry))
      fun entry hentry => hrow' entry (List.mem_cons_of_mem _ hentry)
    rw [hfirst, hrest]

theorem RowsPaired.readable (h : RowsPaired (CellsAlike library) kinds row row') (hlength : row.length = kinds.length) :
    ¬ RowUnreadable library kinds row ∧ ¬ RowUnreadable library kinds row' := by
  unfold RowsPaired at h
  unfold RowUnreadable
  induction kinds generalizing row row' with
  | nil => simp
  | cons kind kinds ih =>
    obtain ⟨value, row, rfl⟩ := List.exists_cons_of_length_eq_add_one hlength
    cases h with
    | cons hfirst hrest =>
      obtain ⟨hread, hread'⟩ := ih hrest (Nat.succ.inj hlength)
      simp only [List.zip_cons_cons, List.mem_cons, exists_eq_or_imp, not_or]
      exact ⟨⟨hfirst.readable, hread⟩, hfirst.symm.readable, hread'⟩

end CommerceAgent.ProductEval
