import CommerceAgent.Lib.DecimalContext
import CommerceAgent.Operations.Contracts
import CommerceAgent.ProductEval.ResultsMatch

/-!
# The digest of a result

`result_digest` writes each cell as a text, sorts the rows and hashes them. The text of a null is that of the text
"null", and a zero that is not a decimal keeps its own.
-/

open CommerceAgent.Lib
open CommerceAgent.Operations (HexDigest)

namespace CommerceAgent.ProductEval

variable (library : ScoringLibrary)

/-! ## The digest -/

/-- `bool(number)`. -/
def truthy : Numeral → Bool
  | .finite _ coefficient _ => coefficient ≠ 0
  | _ => true

/-- The text of a cell. The text of a decimal is that of the number it is. -/
def digest_cell (value : Cell) : Except Raised String :=
  match value with
  | .decimal text =>
    match Numeral.read library.unicode text with
    | some number => format_quantized number
    | none => .error .InvalidOperation
  | .null => .ok "null"
  | .text s => .ok s
  | _ =>
    match numeric library value with
    | some number => if truthy number then format_quantized number else str value
    | none => str value

/-- `json.dumps(cells, ensure_ascii=False)`. -/
def row_key (cells : List String) : String := dumps (cells.map some)

/-- `json.dumps(normalized, ensure_ascii=False, separators=(",", ":"))`. -/
def encode (normalized : List (List String)) : String :=
  String.ofList (JsonValue.dumps FloatText.half 0 (.arr (normalized.map fun cells => .arr (cells.map .str))))

/-- What is hashed. -/
def encoded (rows : List (Dict String Cell)) : Except Raised String :=
  (rows.mapM fun row => (Dict.values row).mapM (digest_cell library)).map fun normalized =>
    encode (normalized.insertionSort (row_key · ≤ row_key ·))

/-- `result_digest(rows)`; `sha256` is the digest of a text in UTF-8. -/
def result_digest (sha256 : String → HexDigest) (rows : List (Dict String Cell)) : Except Raised HexDigest :=
  (encoded library rows).map sha256

/-! ## Tables -/

/-- A decimal is finite, and so is a float, whose zeros have two texts. -/
def Cell.Proper : Cell → Prop
  | .decimal s => ∃ negative coefficient exponent,
    Numeral.read library.unicode s = some (.finite negative coefficient exponent)
  | .float s => ∃ negative coefficient exponent,
    Numeral.read library.unicode s = some (.finite negative coefficient exponent) ∧
      (coefficient = 0 → s = "0.0" ∨ s = "-0.0")
  | .null | .bool _ | .int _ | .text _ => True

/-- A cell of a column: a null, or of the kind of the column. -/
def CellFits (kind : Kind) (value : Cell) : Prop := value = .null ∨ (cell_kind value = kind ∧ Cell.Proper library value)

/-- Rows with the same columns, each with cells of one kind. -/
structure ResultTable (columns : List (String × Kind)) where
  rows : List (Dict String Cell)
  keys : ∀ row ∈ rows, row.keys = columns.map Prod.fst
  fits : ∀ row ∈ rows, List.Forall₂ (CellFits library) (columns.map Prod.snd) row.values

/-- A zero that is not a decimal is written as it is. -/
def Cell.zero_text (value : Cell) : Option String :=
  match value with
  | .decimal _ => none
  | _ =>
    match numeric library value with
    | some (.finite _ 0 _) => some value.written
    | _ => none

def CellsCollide (kind : Kind) (value other : Cell) : Prop :=
  (CellsAgree library kind value other ∧
    (kind = .number → value.minus library = other.minus library ∧ value.zero_text library = other.zero_text library)) ∨
  (value = .null ∧ other = .text "null") ∨ (value = .text "null" ∧ other = .null)

/-- The rows are the same ones, up to their order. -/
def SameRows (cells : Kind → Cell → Cell → Prop) (kinds : List Kind) (rows rows' : List (List Cell)) : Prop :=
  ∃ paired : List (List Cell), paired.Perm rows' ∧ List.Forall₂ (RowsPaired cells kinds) rows paired

/-- A number that has no text with six places. -/
def Cell.Large (value : Cell) : Prop :=
  cell_kind value = .number ∧ ∃ x, value.number library = some x ∧ 10 ^ 22 - 1 / 2 / 10 ^ 6 ≤ |x|

namespace ResultTable

variable {library} {columns : List (String × Kind)}

def cells (table : ResultTable library columns) : List (List Cell) := table.rows.map Dict.values

/-- The digests are equal exactly when the rows are the same. -/
def Canonical (sha256 : String → HexDigest) (table other : ResultTable library columns) : Prop :=
  ∃ digest digest', result_digest library sha256 table.rows = .ok digest ∧
    result_digest library sha256 other.rows = .ok digest' ∧
    (digest = digest' ↔ SameRows (CellsAgree library) (columns.map Prod.snd) table.cells other.cells)

/-- When the digests tell tables apart as they should. -/
structure Told (table other : ResultTable library columns) : Prop where
  small : ∀ row ∈ table.cells ++ other.cells, ∀ value ∈ row, ¬ value.Large library
  zeros : SameRows (CellsAgree library) (columns.map Prod.snd) table.cells other.cells →
    SameRows (CellsCollide library) (columns.map Prod.snd) table.cells other.cells
  nulls : SameRows (CellsCollide library) (columns.map Prod.snd) table.cells other.cells →
    SameRows (CellsAgree library) (columns.map Prod.snd) table.cells other.cells

end ResultTable

/-! ## Texts of cells -/

variable {library} {kind : Kind} {value other : Cell} {negative : Bool} {coefficient : ℕ} {exponent : ℤ}

/-- A number that `str` writes. -/
structure IsNumber (library : ScoringLibrary) (value : Cell) (negative : Bool) (coefficient : ℕ) (exponent : ℤ) :
    Prop where
  kind : cell_kind value = .number
  short : ¬ value.Long
  reads : numeric library value = some (.finite negative coefficient exponent)
  zero : ∀ text, value.zero_text library = some text → coefficient = 0 ∧ (text = "0" ∨ text = "0.0" ∨ text = "-0.0")
  digest : digest_cell library value =
    match value.zero_text library with
    | some text => .ok text
    | none => format_quantized (.finite negative coefficient exponent)

theorem isNumber_int {n : ℤ} (hshort : ¬ (Cell.int n).Long) : IsNumber library (.int n) (n < 0) n.natAbs 0 := by
  have hreads : numeric library (.int n) = some (.finite (n < 0) n.natAbs 0) := by
    rw [numeric_short hshort]
    exact Numeral.read_intText library.unicode (not_le.mp hshort)
  have hzero : (Cell.int n).zero_text library = if n = 0 then some "0" else none := by
    unfold Cell.zero_text
    dsimp only
    rw [hreads]
    by_cases hn : n = 0
    · subst hn
      rfl
    · rw [if_neg hn]
      split
      case h_1 heq =>
        have hnone : n.natAbs = 0 := by simpa using (Numeral.finite.inj (Option.some.inj heq)).2.1
        exact absurd (Int.natAbs_eq_zero.mp hnone) hn
      case h_2 => rfl
  refine ⟨rfl, hshort, hreads, ?_, ?_⟩
  · intro text htext
    rw [hzero] at htext
    split_ifs at htext with hn
    exact ⟨by simp [hn], Or.inl (Option.some.inj htext).symm⟩
  · unfold digest_cell
    dsimp only
    rw [hreads, hzero]
    by_cases hn : n = 0
    · subst hn
      rfl
    · have htruthy : truthy (.finite (n < 0) n.natAbs 0) = true := by simpa [truthy] using hn
      rw [if_neg hn]
      exact if_pos htruthy

theorem isNumber_float {s : String} (hreads : numeric library (.float s) = some (.finite negative coefficient exponent))
    (hzero : coefficient = 0 → s = "0.0" ∨ s = "-0.0") :
      IsNumber library (.float s) negative coefficient exponent := by
  have htext : (Cell.float s).zero_text library = if coefficient = 0 then some s else none := by
    unfold Cell.zero_text
    dsimp only
    rw [hreads]
    by_cases hc : coefficient = 0
    · subst hc
      rfl
    · rw [if_neg hc]
      split
      case h_1 heq => exact absurd (Numeral.finite.inj (Option.some.inj heq)).2.1 hc
      case h_2 => rfl
  refine ⟨rfl, id, hreads, ?_, ?_⟩
  · intro text h
    rw [htext] at h
    split_ifs at h with hc
    obtain rfl := Option.some.inj h
    exact ⟨hc, Or.inr (hzero hc)⟩
  · unfold digest_cell
    dsimp only
    rw [hreads, htext]
    by_cases hc : coefficient = 0
    · subst hc
      rfl
    · have htruthy : truthy (.finite negative coefficient exponent) = true := by simpa [truthy] using hc
      rw [if_neg hc]
      exact if_pos htruthy

theorem number_cases (h : CellFits library .number value) (hnull : value ≠ .null) :
    value.Long ∨ ∃ negative coefficient exponent, IsNumber library value negative coefficient exponent := by
  obtain ⟨hkind, hproper⟩ := h.resolve_left hnull
  by_cases hlong : value.Long
  · exact Or.inl hlong
  refine Or.inr ?_
  cases value with
  | null => exact absurd rfl hnull
  | bool b => cases hkind
  | text s => cases hkind
  | int n => exact ⟨_, _, _, isNumber_int hlong⟩
  | float s =>
    obtain ⟨negative, coefficient, exponent, hread, hzero⟩ := hproper
    exact ⟨negative, coefficient, exponent, isNumber_float ((numeric_short hlong).trans hread) hzero⟩
  | decimal s =>
    obtain ⟨negative, coefficient, exponent, hread⟩ := hproper
    refine ⟨negative, coefficient, exponent, rfl, hlong, (numeric_short hlong).trans hread, nofun, ?_⟩
    unfold digest_cell
    dsimp only
    rw [hread]
    rfl

/-! ## Numbers that are too large -/

theorem large_of_long (h : value.Long) : value.Large library := by
  cases value with
  | int n =>
    have hlog : 4300 ≤ Nat.log 10 n.natAbs := h
    have hne : n.natAbs ≠ 0 := by
      intro hzero
      rw [hzero, Nat.log_zero_right] at hlog
      omega
    have hpow : 10 ^ 22 ≤ n.natAbs := Nat.pow_le_of_le_log hne (by omega)
    have hcast : (10 ^ 22 : ℚ) ≤ |(n : ℚ)| := by
      rw [← Int.cast_abs, Int.abs_eq_natAbs, Int.cast_natCast]
      exact_mod_cast hpow
    exact ⟨rfl, n, rfl, by linarith⟩
  | null | bool _ | decimal _ | float _ | text _ => cases h

theorem IsNumber.number (h : IsNumber library value negative coefficient exponent) :
    value.number library = some (Decimal.finite negative coefficient exponent).value := by
  rw [number_eq h.short, h.reads]
  rfl

theorem IsNumber.large_iff (h : IsNumber library value negative coefficient exponent) :
    value.Large library ↔ 10 ^ 28 ≤ Decimal.rescale 6 coefficient exponent := by
  have habs : |(Decimal.finite negative coefficient exponent).value| = coefficient * 10 ^ exponent := by
    have hpos : (0 : ℚ) ≤ coefficient * 10 ^ exponent :=
      mul_nonneg (Nat.cast_nonneg _) (zpow_nonneg (by norm_num) _)
    rw [Decimal.value_finite, abs_mul, abs_of_nonneg hpos]
    cases negative <;> simp
  have hround := roundEven_lt_iff (n := 10 ^ 28) (by norm_num) (coefficient * 10 ^ exponent * 10 ^ (6 : ℤ))
  have hrescale := Decimal.rescale_eq 6 coefficient exponent
  rw [show ((6 : ℕ) : ℤ) = 6 from rfl] at hrescale
  rw [← hrescale] at hround
  have hunits : (Decimal.rescale 6 coefficient exponent : ℤ) < 10 ^ 28 ↔
      Decimal.rescale 6 coefficient exponent < 10 ^ 28 := by exact_mod_cast Iff.rfl
  have hplaces : (10 : ℚ) ^ (6 : ℤ) = 10 ^ 6 := by norm_cast
  rw [hunits, hplaces] at hround
  unfold Cell.Large
  rw [h.number, and_iff_right h.kind]
  simp only [Option.some.injEq, exists_eq_left']
  rw [habs, ← not_lt, ← not_lt (b := 10 ^ 28), not_iff_not, hround]
  push_cast
  constructor <;> intro hlt <;> linarith

def cell_text (library : ScoringLibrary) (value : Cell) : String :=
  match digest_cell library value with
  | .ok text => text
  | .error _ => ""

theorem cell_text_of {text : String} (h : digest_cell library value = .ok text) : cell_text library value = text := by
  unfold cell_text
  rw [h]

theorem kind_of_large (h : CellFits library kind value) (hlarge : value.Large library) :
    CellFits library .number value ∧ value ≠ .null := by
  have hnull : value ≠ .null := by
    rintro rfl
    cases hlarge.1
  obtain ⟨-, hproper⟩ := h.resolve_left hnull
  exact ⟨Or.inr ⟨hlarge.1, hproper⟩, hnull⟩

theorem digest_large (h : CellFits library kind value) (hlarge : value.Large library) :
    ∃ raised, digest_cell library value = .error raised := by
  obtain ⟨hnumber, hnull⟩ := kind_of_large h hlarge
  rcases number_cases hnumber hnull with hlong | ⟨negative, coefficient, exponent, hvalue⟩
  · refine ⟨.ValueError, ?_⟩
    cases value with
    | int n =>
      unfold digest_cell
      dsimp only
      rw [numeric_long hlong]
      exact if_pos hlong
    | null | bool _ | decimal _ | float _ | text _ => cases hlong
  · refine ⟨.InvalidOperation, ?_⟩
    have hunits := hvalue.large_iff.mp hlarge
    rw [hvalue.digest]
    cases hzero : value.zero_text library with
    | none => exact if_neg (not_lt.mpr hunits)
    | some text =>
      -- a zero is not large
      obtain ⟨rfl, -⟩ := hvalue.zero text hzero
      have hrescale : Decimal.rescale 6 0 exponent = 0 := by
        unfold Decimal.rescale Decimal.roundHalfEven
        simp
      rw [hrescale] at hunits
      exact absurd hunits (by norm_num)

theorem number_text (h : IsNumber library value negative coefficient exponent) (hsmall : ¬ value.Large library) :
    digest_cell library value = .ok
      ((value.zero_text library).getD
        (String.ofList (Decimal.fixedPoint 6 negative (Decimal.rescale 6 coefficient exponent)))) := by
  rw [h.large_iff, not_le] at hsmall
  rw [h.digest]
  cases value.zero_text library with
  | none => exact format_finite negative hsmall
  | some text => rfl

theorem digest_bool (library : ScoringLibrary) (b : Bool) :
    digest_cell library (.bool b) = .ok (if b then "True" else "False") := by
  have hread : numeric library (.bool b) = none := by cases b <;> rfl
  unfold digest_cell
  dsimp only
  rw [hread]
  exact if_neg id

theorem digest_small (h : CellFits library kind value) (hsmall : ¬ value.Large library) :
    digest_cell library value = .ok (cell_text library value) := by
  have hof {text : String} (h : digest_cell library value = .ok text) :
      digest_cell library value = .ok (cell_text library value) := by rw [cell_text_of h, h]
  by_cases hnull : value = .null
  · subst hnull
    exact hof rfl
  obtain ⟨rfl, hproper⟩ := h.resolve_left hnull
  cases hkind : cell_kind value with
  | number =>
    rcases number_cases (Or.inr ⟨hkind, hproper⟩) hnull with hlong | ⟨negative, coefficient, exponent, hvalue⟩
    · exact absurd (large_of_long hlong) hsmall
    · exact hof (number_text hvalue hsmall)
  | bool =>
    cases value with
    | bool b => exact hof (digest_bool library b)
    | null | int _ | decimal _ | float _ | text _ => cases hkind
  | text =>
    cases value with
    | text s => exact hof rfl
    | null => exact absurd rfl hnull
    | bool _ | int _ | decimal _ | float _ => cases hkind

/-! ## Cells with one text -/

theorem cell_text_number (h : IsNumber library value negative coefficient exponent) (hsmall : ¬ value.Large library) :
    cell_text library value = (value.zero_text library).getD
      (String.ofList (Decimal.fixedPoint 6 negative (Decimal.rescale 6 coefficient exponent))) :=
  cell_text_of (number_text h hsmall)

theorem fixedPoint_ne_zero (negative : Bool) (n : ℕ) {text : String} (h : text = "0" ∨ text = "0.0" ∨ text = "-0.0") :
    text ≠ String.ofList (Decimal.fixedPoint 6 negative n) := by
  have hlong : 7 ≤ (String.ofList (Decimal.fixedPoint 6 negative n)).length := by
    rw [String.length_ofList]
    unfold Decimal.fixedPoint
    simp only [List.length_append, List.length_cons, length_fixedText]
    omega
  rintro rfl
  rcases h with h | h | h
  all_goals
    rw [h] at hlong
    exact absurd hlong (by decide)

theorem number_text_ne_null (h : IsNumber library value negative coefficient exponent)
    (hsmall : ¬ value.Large library) : cell_text library value ≠ "null" := by
  rw [cell_text_number h hsmall]
  cases hzero : value.zero_text library with
  | none =>
    intro htext
    have hmem : 'n' ∈ (String.ofList
      (Decimal.fixedPoint 6 negative (Decimal.rescale 6 coefficient exponent))).toList := by
      rw [show String.ofList _ = "null" from htext]
      decide
    rw [String.toList_ofList] at hmem
    exact notMem_fixedPoint (by decide) (by decide) (by decide) _ _ hmem
  | some text =>
    obtain ⟨-, rfl | rfl | rfl⟩ := h.zero text hzero
    all_goals
      rw [Option.getD_some]
      decide

/-- Only a text is written like a null. -/
theorem text_eq_null (h : CellFits library kind value) (hnull : value ≠ .null) (hsmall : ¬ value.Large library) :
    cell_text library value = "null" ↔ value = .text "null" := by
  obtain ⟨rfl, hproper⟩ := h.resolve_left hnull
  cases hkind : cell_kind value with
  | number =>
    rcases number_cases (Or.inr ⟨hkind, hproper⟩) hnull with hlong | ⟨negative, coefficient, exponent, hvalue⟩
    · exact absurd (large_of_long hlong) hsmall
    · refine iff_of_false (number_text_ne_null hvalue hsmall) ?_
      rintro rfl
      cases hkind
  | bool =>
    cases value with
    | bool b =>
      rw [cell_text_of (digest_bool library b)]
      exact iff_of_false (by cases b <;> decide) (by simp)
    | null | int _ | decimal _ | float _ | text _ => cases hkind
  | text =>
    cases value with
    | text s =>
      rw [cell_text_of (show digest_cell library (.text s) = .ok s from rfl)]
      simp
    | null => exact absurd rfl hnull
    | bool _ | int _ | decimal _ | float _ => cases hkind

theorem zero_text_eq {text : String} (h : value.zero_text library = some text) : value.written = text := by
  unfold Cell.zero_text at h
  split at h
  · cases h
  · split at h
    · exact Option.some.inj h
    · cases h

theorem IsNumber.minus (h : IsNumber library value negative coefficient exponent) : value.minus library = negative := by
  unfold Cell.minus
  rw [h.reads]

theorem numbers_agree {negative' : Bool} {coefficient' : ℕ} {exponent' : ℤ} (hnull : value ≠ .null)
    (hnull' : other ≠ .null) (h : IsNumber library value negative coefficient exponent)
    (h' : IsNumber library other negative' coefficient' exponent') : CellsAgree library .number value other ↔
      toPlaces 6 (Decimal.finite negative coefficient exponent).value =
        toPlaces 6 (Decimal.finite negative' coefficient' exponent').value := by
  unfold CellsAgree ValuesAgree
  rw [h.number, h'.number]
  simp [hnull, hnull']

/-- Numbers have one text when they are equal, with one sign, and with zeros of one form. -/
theorem numbers_collide {negative' : Bool} {coefficient' : ℕ} {exponent' : ℤ} (hnull : value ≠ .null)
    (hnull' : other ≠ .null) (h : IsNumber library value negative coefficient exponent)
    (h' : IsNumber library other negative' coefficient' exponent') (hsmall : ¬ value.Large library)
    (hsmall' : ¬ other.Large library) : cell_text library value = cell_text library other ↔
      CellsAgree library .number value other ∧ value.minus library = other.minus library ∧
        value.zero_text library = other.zero_text library := by
  rw [cell_text_number h hsmall, cell_text_number h' hsmall', numbers_agree hnull hnull' h h', h.minus, h'.minus]
  cases hzero : value.zero_text library with
  | none =>
    cases hzero' : other.zero_text library with
    | none =>
      rw [Option.getD_none, Option.getD_none, String.ofList_inj]
      constructor
      · intro htext
        obtain ⟨rfl, hunits⟩ := Decimal.fixedPoint_inj htext
        exact ⟨rounded_eq_of_sign.mpr hunits, rfl, rfl⟩
      · rintro ⟨hvalue, rfl, -⟩
        rw [rounded_eq_of_sign.mp hvalue]
    | some text' =>
      refine iff_of_false ?_ fun h => by cases h.2.2
      exact (fixedPoint_ne_zero _ _ (h'.zero text' hzero').2).symm
  | some text =>
    obtain ⟨rfl, htext⟩ := h.zero text hzero
    cases hzero' : other.zero_text library with
    | none =>
      refine iff_of_false ?_ fun h => by cases h.2.2
      exact fixedPoint_ne_zero _ _ htext
    | some text' =>
      obtain ⟨rfl, -⟩ := h'.zero text' hzero'
      constructor
      · intro hsame
        obtain rfl : text = text' := hsame
        -- one text is read as one number
        have hreads : numeric library value = numeric library other := by
          rw [numeric_short h.short, numeric_short h'.short, zero_text_eq hzero, zero_text_eq hzero']
        rw [h.reads, h'.reads] at hreads
        obtain ⟨rfl, -, rfl⟩ := Numeral.finite.inj (Option.some.inj hreads)
        exact ⟨rfl, rfl, rfl⟩
      · rintro ⟨-, -, hsame⟩
        exact Option.some.inj hsame

theorem collide_iff (h : CellFits library kind value) (h' : CellFits library kind other)
    (hsmall : ¬ value.Large library)
    (hsmall' : ¬ other.Large library) :
      cell_text library value = cell_text library other ↔ CellsCollide library kind value other := by
  have hnullText : cell_text library .null = "null" := cell_text_of rfl
  unfold CellsCollide
  by_cases hnull : value = .null
  · subst hnull
    by_cases hnull' : other = .null
    · subst hnull'
      exact iff_of_true rfl (Or.inl ⟨Or.inl ⟨rfl, rfl⟩, fun _ => ⟨rfl, rfl⟩⟩)
    · rw [hnullText, eq_comm, text_eq_null h' hnull' hsmall']
      constructor
      · exact fun heq => Or.inr (Or.inl ⟨rfl, heq⟩)
      · rintro (⟨⟨-, heq⟩ | ⟨hne, -⟩, -⟩ | ⟨-, heq⟩ | ⟨heq, -⟩)
        · exact absurd heq hnull'
        · exact absurd rfl hne
        · exact heq
        · cases heq
  · by_cases hnull' : other = .null
    · subst hnull'
      rw [hnullText, text_eq_null h hnull hsmall]
      constructor
      · exact fun heq => Or.inr (Or.inr ⟨heq, rfl⟩)
      · rintro (⟨⟨heq, -⟩ | ⟨-, hne, -⟩, -⟩ | ⟨heq, -⟩ | ⟨heq, -⟩)
        · exact absurd heq hnull
        · exact absurd rfl hne
        · exact absurd heq hnull
        · exact heq
    · have hplain : ∀ P : Prop,
        (P ∨ (value = .null ∧ other = .text "null") ∨ (value = .text "null" ∧ other = .null)) ↔ P := by
        intro P
        simp [hnull, hnull']
      rw [hplain]
      obtain ⟨rfl, hproper⟩ := h.resolve_left hnull
      obtain ⟨hkind', hproper'⟩ := h'.resolve_left hnull'
      cases hkind : cell_kind value with
      | number =>
        rw [hkind] at hkind'
        rcases number_cases (Or.inr ⟨hkind, hproper⟩) hnull with hlong | ⟨negative, coefficient, exponent, hvalue⟩
        · exact absurd (large_of_long hlong) hsmall
        rcases number_cases (Or.inr ⟨hkind', hproper'⟩) hnull' with hlong | ⟨negative', coefficient', exponent', hother⟩
        · exact absurd (large_of_long hlong) hsmall'
        rw [numbers_collide hnull hnull' hvalue hother hsmall hsmall']
        exact and_congr_right fun _ => ⟨fun h _ => h, fun h => h rfl⟩
      | bool =>
        cases value with
        | bool b =>
          cases other with
          | bool b' =>
            rw [cell_text_of (digest_bool library b), cell_text_of (digest_bool library b')]
            cases b <;> cases b' <;> simp [CellsAgree, ValuesAgree]
          | null | int _ | decimal _ | float _ | text _ => cases hkind'
        | null | int _ | decimal _ | float _ | text _ => cases hkind
      | text =>
        cases value with
        | text s =>
          cases other with
          | text s' =>
            rw [cell_text_of (show digest_cell library (.text s) = .ok s from rfl),
              cell_text_of (show digest_cell library (.text s') = .ok s' from rfl)]
            simp [CellsAgree, ValuesAgree, Cell.written]
          | null => exact absurd rfl hnull'
          | bool _ | int _ | decimal _ | float _ => cases hkind'
        | null => exact absurd rfl hnull
        | bool _ | int _ | decimal _ | float _ => cases hkind

/-! ## Rows and tables -/

def row_text (library : ScoringLibrary) (row : List Cell) : List String := row.map (cell_text library)

theorem row_collide_iff {kinds : List Kind} {row row' : List Cell} (h : List.Forall₂ (CellFits library) kinds row)
    (h' : List.Forall₂ (CellFits library) kinds row') (hsmall : ∀ value ∈ row, ¬ value.Large library)
    (hsmall' : ∀ value ∈ row', ¬ value.Large library) :
      row_text library row = row_text library row' ↔ RowsPaired (CellsCollide library) kinds row row' := by
  unfold row_text RowsPaired
  induction h generalizing row' with
  | nil =>
    cases h'
    exact iff_of_true rfl .nil
  | @cons kind value kinds row hfirst _ ih =>
    cases h' with
    | @cons _ value' _ row' hfirst' hrest' =>
      rw [List.forall_mem_cons] at hsmall hsmall'
      rw [List.zip_cons_cons, List.map_cons, List.map_cons, List.cons.injEq, List.forall₂_cons,
        collide_iff hfirst hfirst' hsmall.1 hsmall'.1, ih hrest' hsmall.2 hsmall'.2]

theorem row_key_injective : Function.Injective row_key := by
  intro cells cells' h
  exact List.map_injective_iff.mpr (Option.some_injective String) (dumps_injective h)

theorem encode_injective : Function.Injective encode := by
  intro rows rows' h
  have hdistinct (rows : List (List String)) :
      (JsonValue.arr (φ := Unit) (rows.map fun cells => .arr (cells.map .str))).Distinct := by
    refine JsonValue.distinctItems_iff.mpr fun value hvalue => ?_
    obtain ⟨cells, -, rfl⟩ := List.mem_map.mp hvalue
    refine JsonValue.distinctItems_iff.mpr fun cell hcell => ?_
    obtain ⟨s, -, rfl⟩ := List.mem_map.mp hcell
    trivial
  refine JsonValue.sortKeys_arr_inj (fun cells cells' hcells => ?_)
    (JsonValue.dumps_inj FloatText.half (hdistinct rows) (hdistinct rows') (String.ofList_injective h))
  refine JsonValue.sortKeys_arr_inj (fun s s' hs => ?_) hcells
  unfold JsonValue.sortKeys at hs
  exact JsonValue.str.inj hs

namespace ResultTable

variable {columns : List (String × Kind)} (table other : ResultTable library columns)

/-- No cell of the table raises. -/
def Small : Prop := ∀ row ∈ table.cells, ∀ value ∈ row, ¬ value.Large library

theorem fits_cells : ∀ row ∈ table.cells, List.Forall₂ (CellFits library) (columns.map Prod.snd) row := by
  intro row hrow
  obtain ⟨fields, hfields, rfl⟩ := List.mem_map.mp hrow
  exact table.fits fields hfields

theorem fits_cell {row : List Cell} (hrow : row ∈ table.cells) {value : Cell} (hvalue : value ∈ row) :
    ∃ kind, CellFits library kind value := by
  obtain ⟨index, hindex, rfl⟩ := List.mem_iff_getElem.mp hvalue
  have hall := List.forall₂_iff_get.mp (table.fits_cells row hrow)
  exact ⟨_, hall.2 index (by rw [hall.1]; exact hindex) hindex⟩

theorem encoded_small (h : table.Small) : encoded library table.rows =
    .ok (encode ((table.cells.map (row_text library)).insertionSort (row_key · ≤ row_key ·))) := by
  have hrows : table.rows.mapM (fun row => (Dict.values row).mapM (digest_cell library)) =
      .ok (table.rows.map fun row => row_text library row.values) := by
    refine mapM_ok fun row hrow => mapM_ok fun value hvalue => ?_
    have hmem : row.values ∈ table.cells := List.mem_map_of_mem hrow
    obtain ⟨kind, hfits⟩ := table.fits_cell hmem hvalue
    exact digest_small hfits (h _ hmem value hvalue)
  unfold encoded
  rw [hrows]
  unfold cells
  rw [List.map_map]
  rfl

theorem encoded_large (h : ¬ table.Small) : ∃ raised, encoded library table.rows = .error raised := by
  obtain ⟨row, hrow, value, hvalue, hlarge⟩ : ∃ row ∈ table.cells, ∃ value ∈ row, value.Large library := by
    simpa [Small] using h
  obtain ⟨kind, hfits⟩ := table.fits_cell hrow hvalue
  obtain ⟨raised, hraised⟩ := digest_large hfits hlarge
  obtain ⟨_, _, raised, -, hcells⟩ := mapM_error hvalue hraised
  obtain ⟨fields, hfields, rfl⟩ := List.mem_map.mp hrow
  obtain ⟨_, _, raised, -, hrows⟩ :=
    mapM_error (f := fun row => (Dict.values row).mapM (digest_cell library)) hfields hcells
  refine ⟨raised, ?_⟩
  unfold encoded
  rw [hrows]
  rfl

theorem texts_eq_iff (h : table.Small) (h' : other.Small) :
    (table.cells.map (row_text library)).Perm (other.cells.map (row_text library)) ↔
      SameRows (CellsCollide library) (columns.map Prod.snd) table.cells other.cells := by
  rw [perm_map_iff]
  refine exists_congr fun paired => and_congr_right fun hpaired => ?_
  have hrow {row row' : List Cell} (hrow : row ∈ table.cells) (hrow' : row' ∈ paired) :
      row_text library row = row_text library row' ↔
        RowsPaired (CellsCollide library) (columns.map Prod.snd) row row' :=
    row_collide_iff (table.fits_cells row hrow) (other.fits_cells row' (hpaired.mem_iff.mp hrow')) (h row hrow)
      (h' row' (hpaired.mem_iff.mp hrow'))
  rw [← List.forall₂_eq_eq_eq, List.forall₂_map_left_iff, List.forall₂_map_right_iff, List.forall₂_iff_zip,
    List.forall₂_iff_zip]
  refine and_congr_right fun _ => forall_congr' fun row => forall_congr' fun row' => forall_congr' fun hzip => ?_
  exact hrow (List.of_mem_zip hzip).1 (List.of_mem_zip hzip).2

theorem small_append :
    (∀ row ∈ table.cells ++ other.cells, ∀ value ∈ row, ¬ value.Large library) ↔ table.Small ∧ other.Small := by
  unfold Small
  rw [List.forall_mem_append]

/-- The digest tells tables apart as the scoring does, but for large numbers, forms of zero and the text of null. -/
theorem result_digest_canonical (sha256 : String → HexDigest)
    (hsha256 : ∀ text text', encoded library table.rows = .ok text → encoded library other.rows = .ok text' →
      sha256 text = sha256 text' → text = text') :
    table.Canonical sha256 other ↔ table.Told other := by
  by_cases hsmall : table.Small ∧ other.Small
  · obtain ⟨h, h'⟩ := hsmall
    have hencoded := table.encoded_small h
    have hencoded' := other.encoded_small h'
    have hdigest : result_digest library sha256 table.rows = .ok (sha256 _) := congrArg (Except.map sha256) hencoded
    have hdigest' : result_digest library sha256 other.rows = .ok (sha256 _) := congrArg (Except.map sha256) hencoded'
    have hsame := hsha256 _ _ hencoded hencoded'
    have htexts : sha256 (encode ((table.cells.map (row_text library)).insertionSort (row_key · ≤ row_key ·))) =
        sha256 (encode ((other.cells.map (row_text library)).insertionSort (row_key · ≤ row_key ·))) ↔
          SameRows (CellsCollide library) (columns.map Prod.snd) table.cells other.cells := by
      rw [← table.texts_eq_iff other h h', ← insertionSort_key_inj row_key_injective, ← encode_injective.eq_iff]
      exact ⟨hsame, fun heq => by rw [heq]⟩
    constructor
    · rintro ⟨digest, digest', hd, hd', hiff⟩
      obtain rfl := Except.ok.inj (hdigest.symm.trans hd)
      obtain rfl := Except.ok.inj (hdigest'.symm.trans hd')
      rw [htexts] at hiff
      exact ⟨(table.small_append other).mpr ⟨h, h'⟩, hiff.mpr, hiff.mp⟩
    · intro htold
      exact ⟨_, _, hdigest, hdigest', htexts.trans ⟨htold.nulls, htold.zeros⟩⟩
  · refine iff_of_false ?_ fun htold => hsmall ((table.small_append other).mp htold.small)
    rintro ⟨digest, digest', hd, hd', -⟩
    have hno (t : ResultTable library columns) {d : HexDigest} (hd : result_digest library sha256 t.rows = .ok d) :
        t.Small := by
      by_contra hlarge
      obtain ⟨raised, hraised⟩ := t.encoded_large hlarge
      unfold result_digest at hd
      rw [hraised] at hd
      cases hd
    exact hsmall ⟨hno table hd, hno other hd'⟩

/-! ## Tables of one column -/

def total (kind : Kind) (values : List Cell) (h : ∀ value ∈ values, CellFits asciiOnly kind value) :
    ResultTable asciiOnly [("total", kind)] where
  rows := totals values
  keys row hrow := by
    obtain ⟨value, -, rfl⟩ := List.mem_map.mp hrow
    rfl
  fits row hrow := by
    obtain ⟨value, hvalue, rfl⟩ := List.mem_map.mp hrow
    exact .cons (h value hvalue) .nil

/-- The digests of a few texts. -/
def someSha256 (text : String) : HexDigest :=
  if text = "[[\"null\"]]" then .ofNat 0x090fb012c703574128661feaf475854f772d8ae70c80f5173dd73bb67a03bfd1
  else if text = "[[\"0\"]]" then .ofNat 0xaa6885079e7ed8ca6ff962f5c1f6d44f5dd0ba9e476e9158ae65d99a02203c3b
  else if text = "[[\"0.0\"]]" then .ofNat 0x52701b39bd1fae23f72d49e6d1620b279ef40954e30949f8ec2c6b51c7a8fb64
  else .ofNat 0xf0db7c55c340cc7e6a86decb4d1bd15efd488c707cf354dcf0827a372d0d9f1c

def nulls : ResultTable asciiOnly [("total", .text)] := total .text [.null] (by simp [CellFits])

def nullTexts : ResultTable asciiOnly [("total", .text)] :=
  total .text [.text "null"] (by simp [CellFits, cell_kind, Cell.Proper])

def zeros : ResultTable asciiOnly [("total", .number)] :=
  total .number [.int 0] (by simp [CellFits, cell_kind, Cell.Proper])

theorem read_zero : Numeral.read asciiOnly.unicode "0.0" = some (.finite false 0 (-1)) := by decide +kernel

def floatZeros : ResultTable asciiOnly [("total", .number)] :=
  total .number [.float "0.0"] fun value hvalue => by
    obtain rfl := List.mem_singleton.mp hvalue
    exact Or.inr ⟨rfl, false, 0, -1, read_zero, fun _ => Or.inl rfl⟩

theorem encoded_text {rows : List (Dict String Cell)} {text : String}
    (h : (encoded asciiOnly rows).toOption = some text) : encoded asciiOnly rows = .ok text := by
  cases hencoded : encoded asciiOnly rows with
  | error raised =>
    rw [hencoded] at h
    cases h
  | ok text' =>
    rw [hencoded] at h
    exact congrArg Except.ok (Option.some.inj h)

/-- A null has the digest of the text, and the zeros of two types have not one digest. -/
theorem null_and_zero_digests : ¬ nulls.Canonical someSha256 nullTexts ∧ ¬ zeros.Canonical someSha256 floatZeros := by
  have hnull : encoded asciiOnly nulls.rows = .ok "[[\"null\"]]" := encoded_text (by decide +kernel)
  have htext : encoded asciiOnly nullTexts.rows = .ok "[[\"null\"]]" := encoded_text (by decide +kernel)
  have hzero : encoded asciiOnly zeros.rows = .ok "[[\"0\"]]" := encoded_text (by decide +kernel)
  have hfloat : encoded asciiOnly floatZeros.rows = .ok "[[\"0.0\"]]" := encoded_text (by decide +kernel)
  constructor
  · rintro ⟨digest, digest', hd, hd', hiff⟩
    unfold result_digest at hd hd'
    rw [hnull] at hd
    rw [htext] at hd'
    obtain ⟨paired, hpaired, hrows⟩ := hiff.mp (Except.ok.inj (hd.symm.trans hd'))
    obtain rfl : paired = [[.text "null"]] := List.perm_singleton.mp hpaired
    cases hrows with
    | cons hrow _ =>
      cases hrow with
      | cons hcell _ =>
        rcases hcell with ⟨-, h⟩ | ⟨h, -⟩
        · cases h
        · exact h rfl
  · rintro ⟨digest, digest', hd, hd', hiff⟩
    unfold result_digest at hd hd'
    rw [hzero] at hd
    rw [hfloat] at hd'
    have hsame : SameRows (CellsAgree asciiOnly) [.number] zeros.cells floatZeros.cells := by
      refine ⟨[[.float "0.0"]], .refl _,
        .cons (.cons (Or.inr ⟨by simp, by simp, 0, _, by simp [Cell.number], ?_, rfl⟩) .nil) .nil⟩
      unfold Cell.number
      dsimp only
      rw [show Cell.written (.float "0.0") = "0.0" from rfl, read_zero]
      simp [finite_number, Decimal.value_finite]
    have heq := hiff.mpr hsame
    obtain rfl := Except.ok.inj hd
    obtain rfl := Except.ok.inj hd'
    exact absurd heq (by decide +kernel)

def prices : ResultTable asciiOnly [("total", .number)] :=
  total .number [.decimal "1.20", .null] fun value hvalue => by
    have hread : Numeral.read asciiOnly.unicode "1.20" = some (.finite false 120 (-2)) := by decide +kernel
    rcases List.mem_pair.mp hvalue with rfl | rfl
    · exact Or.inr ⟨rfl, false, 120, -2, hread⟩
    · exact Or.inl rfl

def pricesAgain : ResultTable asciiOnly [("total", .number)] :=
  total .number [.null, .decimal "1.2"] fun value hvalue => by
    have hread : Numeral.read asciiOnly.unicode "1.2" = some (.finite false 12 (-1)) := by decide +kernel
    rcases List.mem_pair.mp hvalue with rfl | rfl
    · exact Or.inl rfl
    · exact Or.inr ⟨rfl, false, 12, -1, hread⟩

theorem result_digest_prices : prices.Canonical someSha256 pricesAgain ↔ prices.Told pricesAgain := by
  have hprices : encoded asciiOnly prices.rows = .ok "[[\"1.200000\"],[\"null\"]]" := encoded_text (by decide +kernel)
  have hagain : encoded asciiOnly pricesAgain.rows = .ok "[[\"1.200000\"],[\"null\"]]" :=
    encoded_text (by decide +kernel)
  refine result_digest_canonical prices pricesAgain someSha256 fun text text' h h' _ => ?_
  exact (Except.ok.inj (hprices.symm.trans h)).symm.trans (Except.ok.inj (hagain.symm.trans h'))

end ResultTable

end CommerceAgent.ProductEval
