import CommerceAgent.Lib.DecimalSum
import CommerceAgent.Lib.Dict
import CommerceAgent.Lib.Numerals
import CommerceAgent.Lib.Raising
import CommerceAgent.Operations.Contracts

/-!
# Reconciliation

The rules that compare totals add the cells of a column as decimals. A total is exact as long as no sum of its cells
has more than 28 digits.
-/

open CommerceAgent.Lib
open CommerceAgent.Operations (Name HexDigest)

namespace CommerceAgent.QueryEngine

/-! ## Contracts -/

/-- A cell; a float is held as its shortest text. -/
inductive QueryScalar where
  | null
  | bool (b : Bool)
  | int (n : ℤ)
  | float (text : String)
  | str (s : String)
  deriving DecidableEq

structure EvidenceResult where
  evidence_id : String
  columns : List String
  rows : List (Dict String QueryScalar)
  query_fingerprint : HexDigest
  unique : columns.Nodup
  shape : ∀ row ∈ rows, ∀ column, column ∈ row.keys ↔ column ∈ columns

structure TotalRule where
  parent_ref : String
  child_ref : String
  column : String

structure DecimalToleranceRule where
  left_ref : String
  right_ref : String
  column : String
  absolute_tolerance : Decimal
  finite : absolute_tolerance.isFinite = true
  positive : 0 ≤ absolute_tolerance.num
  places : absolute_tolerance.exactAt 6

/-- The rules that add numbers. -/
inductive Rule where
  | total (rule : TotalRule)
  | decimal_tolerance (rule : DecimalToleranceRule)

structure ReconciliationRequest where
  evidence : List EvidenceResult
  rules : List Rule
  unique : (evidence.map EvidenceResult.evidence_id).Nodup

inductive Raised where
  | contract (reason_code message : String)
  | exception (name : String)
  deriving DecidableEq

def ReconciliationContractError (reason_code message : String) : Raised := .contract reason_code message

structure ReconciliationCheck where
  rule_type : String
  passed : Bool
  reason_code : String
  actual_digest : HexDigest
  expected_digest : HexDigest
  deriving DecidableEq

structure ReconciliationResult where
  passed : Bool
  checks : List ReconciliationCheck

/-! ## Totals -/

/-- Digits and blanks beyond ASCII, and the digest of a text as JSON. -/
structure EngineLibrary where
  unicode : Char → Option Char
  digest : String → HexDigest

/-- The types that cells have. -/
inductive ScalarType where
  | bool
  | int
  | float
  | str
  deriving DecidableEq

def QueryScalar.type : QueryScalar → Option ScalarType
  | .null => none
  | .bool _ => some .bool
  | .int _ => some .int
  | .float _ => some .float
  | .str _ => some .str

/-- `str(item)`; an integer of more than 4300 digits has no text. -/
def QueryScalar.text : QueryScalar → Except Raised String
  | .null => .ok "None"
  | .bool b => .ok (if b then "True" else "False")
  | .int n => if Nat.log 10 n.natAbs < 4300 then .ok (String.ofList (intText n)) else .error (.exception "ValueError")
  | .float text => .ok text
  | .str s => .ok s

/-- The cells of a column, which each row has. -/
def EvidenceResult.cells (evidence : EvidenceResult) (column : String) : List QueryScalar :=
  evidence.rows.filterMap fun row => row.get? column

/-- The cells are of different types, or of one that is not added. -/
def type_invalid (raw : List QueryScalar) : Bool :=
  1 < (raw.filterMap QueryScalar.type).dedup.length ||
    raw.any fun item => item.type = none || item.type = some .bool || item.type = some .float

variable (library : EngineLibrary)

/-- `Decimal(str(item))`. -/
def to_decimal (item : QueryScalar) : Except Raised Decimal := do
  let text ← item.text
  match Numeral.read library.unicode text with
  | some numeral => .ok numeral.decimal
  | none => .error (ReconciliationContractError "decimal_invalid" "Evidence decimal is invalid")

def decimal_total (evidence : EvidenceResult) (column : String) : Except Raised Decimal :=
  if column ∉ evidence.columns then .error (ReconciliationContractError "column_missing" "Evidence column is absent")
  else if type_invalid (evidence.cells column) then
    .error (ReconciliationContractError "scalar_type_invalid" "Evidence scalar type is invalid")
  else do
    let values ← (evidence.cells column).mapM (to_decimal library)
    if values.any fun item => !item.isFinite then
      .error (ReconciliationContractError "decimal_not_finite" "Evidence decimal must be finite")
    else
      match Decimal.sum values with
      | some total => .ok total
      | none => .error (.exception "Overflow")

/-! ## Rules -/

/-- `indexed[reference]`. -/
def find_evidence (evidence : List EvidenceResult) (reference : String) : Except Raised EvidenceResult :=
  match evidence.find? fun item => item.evidence_id = reference with
  | some item => .ok item
  | none => .error (ReconciliationContractError "evidence_not_found" "Referenced evidence is absent")

def check (rule_type : String) (passed : Bool) (reason actual expected : String) : ReconciliationCheck where
  rule_type := rule_type
  passed := passed
  reason_code := if passed then "reconciled" else reason
  actual_digest := library.digest actual
  expected_digest := library.digest expected

def total_of (evidence : List EvidenceResult) (reference column : String) : Except Raised Decimal := do
  let item ← find_evidence evidence reference
  decimal_total library item column

def reconcile_total (rule : TotalRule) (evidence : List EvidenceResult) : Except Raised ReconciliationCheck := do
  let parent ← total_of library evidence rule.parent_ref rule.column
  let children ← total_of library evidence rule.child_ref rule.column
  return check library "total" (parent.value == children.value) "total_mismatch" children.text parent.text

def reconcile_decimal (rule : DecimalToleranceRule) (evidence : List EvidenceResult) :
    Except Raised ReconciliationCheck := do
  let left ← total_of library evidence rule.left_ref rule.column
  let right ← total_of library evidence rule.right_ref rule.column
  match (left.sub right).bind Decimal.abs with
  | some difference =>
    return check library "decimal_tolerance" (difference.value ≤ rule.absolute_tolerance.value)
      "decimal_tolerance_failed" difference.text rule.absolute_tolerance.text
  | none => .error (.exception "Overflow")

def reconcile_rule (evidence : List EvidenceResult) : Rule → Except Raised ReconciliationCheck
  | .total rule => reconcile_total library rule evidence
  | .decimal_tolerance rule => reconcile_decimal library rule evidence

def reconcile (request : ReconciliationRequest) : Except Raised ReconciliationResult := do
  let checks ← request.rules.mapM (reconcile_rule library request.evidence)
  return ⟨checks.all ReconciliationCheck.passed, checks⟩

/-! ## Exact totals -/

/-- The number that a cell stands for. -/
def QueryScalar.value : QueryScalar → ℚ
  | .int n => n
  | .str s => ((Numeral.read library.unicode s).map fun numeral => numeral.decimal.value).getD 0
  | .null => 0
  | .bool _ => 0
  | .float _ => 0

/-- The exact sum of a column. -/
def exact_total (evidence : List EvidenceResult) (reference column : String) : ℚ :=
  match evidence.find? fun item => item.evidence_id = reference with
  | some item => ((item.cells column).map (QueryScalar.value library)).sum
  | none => 0

/-- What a rule asks of the exact sums. -/
def Rule.Holds (evidence : List EvidenceResult) : Rule → Prop
  | .total rule =>
    exact_total library evidence rule.parent_ref rule.column = exact_total library evidence rule.child_ref rule.column
  | .decimal_tolerance rule =>
    |exact_total library evidence rule.left_ref rule.column - exact_total library evidence rule.right_ref rule.column| ≤
      rule.absolute_tolerance.value

/-- The integers of a column have texts, and the sums of its cells have 28 digits at most. -/
structure ColumnHeld (item : EvidenceResult) (column : String) : Prop where
  short : ∀ n, QueryScalar.int n ∈ item.cells column → Nat.log 10 n.natAbs < 4300
  sums : Decimal.SumsHeld ((item.cells column).map (QueryScalar.value library))

def ReferenceHeld (evidence : List EvidenceResult) (reference column : String) : Prop :=
  ∀ item ∈ evidence, item.evidence_id = reference → ColumnHeld library item column

/-- No addition that a rule asks for is rounded. -/
def Rule.Held (evidence : List EvidenceResult) : Rule → Prop
  | .total rule =>
    ReferenceHeld library evidence rule.parent_ref rule.column ∧
      ReferenceHeld library evidence rule.child_ref rule.column
  | .decimal_tolerance rule =>
    ReferenceHeld library evidence rule.left_ref rule.column ∧
      ReferenceHeld library evidence rule.right_ref rule.column ∧
      Decimal.Representable
        (exact_total library evidence rule.left_ref rule.column - exact_total library evidence rule.right_ref
          rule.column)

/-! ## Columns that can be added -/

/-- The cells of a column are numbers of one type. -/
structure Clean (item : EvidenceResult) (column : String) : Prop where
  present : column ∈ item.columns
  typed : type_invalid (item.cells column) = false
  reads : ∀ cell ∈ item.cells column,
    ∃ d, to_decimal library cell = .ok d ∧ d.isFinite = true ∧ d.value = cell.value library

variable {library} {item item' : EvidenceResult} {column : String} {cell : QueryScalar}

variable (library) in
theorem to_decimal_cases (htype : cell.type = some .int ∨ cell.type = some .str)
    (hshort : ∀ n, cell = .int n → Nat.log 10 n.natAbs < 4300) :
    (∃ d, to_decimal library cell = .ok d ∧ d.value = cell.value library) ∨
      to_decimal library cell = .error
        (ReconciliationContractError "decimal_invalid" "Evidence decimal is invalid") := by
  cases cell with
  | null => simp [QueryScalar.type] at htype
  | bool => simp [QueryScalar.type] at htype
  | float => simp [QueryScalar.type] at htype
  | int n =>
    refine Or.inl ⟨.finite (n < 0) n.natAbs 0, ?_, ?_⟩
    · unfold to_decimal QueryScalar.text
      dsimp only
      rw [if_pos (hshort n rfl), ok_bind, Numeral.read_intText _ (hshort n rfl)]
      rfl
    · exact Decimal.value_int n
  | str s =>
    unfold to_decimal QueryScalar.text QueryScalar.value
    dsimp only
    rw [ok_bind]
    cases Numeral.read library.unicode s with
    | none => exact Or.inr rfl
    | some numeral => exact Or.inl ⟨_, rfl, rfl⟩

theorem typed_cells (h : type_invalid (item.cells column) = false) (hcell : cell ∈ item.cells column) :
    cell.type = some .int ∨ cell.type = some .str := by
  unfold type_invalid at h
  rw [Bool.or_eq_false_iff, List.any_eq_false] at h
  have hnone := h.2 cell hcell
  cases cell with
  | null => simp [QueryScalar.type] at hnone
  | bool => simp [QueryScalar.type] at hnone
  | float => simp [QueryScalar.type] at hnone
  | int => exact Or.inl rfl
  | str => exact Or.inr rfl

def cell_decimal (library : EngineLibrary) (cell : QueryScalar) : Decimal :=
  match to_decimal library cell with
  | .ok d => d
  | .error _ => .special

theorem cell_decimal_ok {d : Decimal} (h : to_decimal library cell = .ok d) : cell_decimal library cell = d := by
  unfold cell_decimal
  rw [h]

theorem clean_of_no_contract (hshort : ∀ n, QueryScalar.int n ∈ item.cells column → Nat.log 10 n.natAbs < 4300)
    (h : ∀ reason message, decimal_total library item column ≠ .error (.contract reason message)) :
    Clean library item column := by
  unfold decimal_total at h
  by_cases hpresent : column ∈ item.columns
  case neg =>
    rw [if_pos hpresent] at h
    exact absurd rfl (h _ _)
  rw [if_neg (not_not.mpr hpresent)] at h
  by_cases htyped : type_invalid (item.cells column) = true
  case pos =>
    rw [if_pos htyped] at h
    exact absurd rfl (h _ _)
  rw [if_neg htyped] at h
  have htyped := Bool.eq_false_iff.mpr htyped
  have hcases (cell : QueryScalar) (hcell : cell ∈ item.cells column) :=
    to_decimal_cases library (typed_cells htyped hcell) fun n hn => hshort n (hn ▸ hcell)
  have hreads : ∀ cell ∈ item.cells column, ∃ d, to_decimal library cell = .ok d ∧ d.value = cell.value library := by
    intro cell hcell
    refine (hcases cell hcell).resolve_right fun herror => ?_
    obtain ⟨other, hother, e, he, hmap⟩ := mapM_error hcell herror
    rw [hmap, error_bind] at h
    rcases hcases other hother with ⟨d, hd, -⟩ | herror'
    · rw [hd] at he
      cases he
    · rw [herror'] at he
      obtain rfl := Except.error.inj he
      exact h _ _ rfl
  refine ⟨hpresent, htyped, fun cell hcell => ?_⟩
  obtain ⟨d, hd, hvalue⟩ := hreads cell hcell
  refine ⟨d, hd, ?_, hvalue⟩
  have hall : ∀ other ∈ item.cells column, to_decimal library other = .ok (cell_decimal library other) := by
    intro other hother
    obtain ⟨e, he, -⟩ := hreads other hother
    rw [cell_decimal_ok he, he]
  rw [mapM_ok hall, ok_bind] at h
  by_contra hspecial
  have hany : ((item.cells column).map (cell_decimal library)).any (fun item => !item.isFinite) = true := by
    refine List.any_eq_true.mpr ⟨d, List.mem_map.mpr ⟨cell, hcell, cell_decimal_ok hd⟩, ?_⟩
    rw [Bool.eq_false_iff.mpr hspecial]
    rfl
  rw [if_pos hany] at h
  exact h _ _ rfl

theorem Clean.total (h : Clean library item column)
    (hsums : Decimal.SumsHeld ((item.cells column).map (QueryScalar.value library))) : ∃ total,
    decimal_total library item column = .ok total ∧ total.isFinite = true ∧
      total.value = ((item.cells column).map (QueryScalar.value library)).sum := by
  have hall : ∀ cell ∈ item.cells column, to_decimal library cell = .ok (cell_decimal library cell) := by
    intro cell hcell
    obtain ⟨d, hd, -⟩ := h.reads cell hcell
    rw [cell_decimal_ok hd, hd]
  have hfinite : ∀ d ∈ (item.cells column).map (cell_decimal library), d.isFinite = true := by
    intro d hd
    obtain ⟨cell, hcell, rfl⟩ := List.mem_map.mp hd
    obtain ⟨d, hd, hfin, -⟩ := h.reads cell hcell
    rwa [cell_decimal_ok hd]
  have hvalues : ((item.cells column).map (cell_decimal library)).map Decimal.value =
      (item.cells column).map (QueryScalar.value library) := by
    rw [List.map_map]
    refine List.map_congr_left fun cell hcell => ?_
    obtain ⟨d, hd, -, hvalue⟩ := h.reads cell hcell
    rw [Function.comp_apply, cell_decimal_ok hd, hvalue]
  have hspecial : ¬ ((item.cells column).map (cell_decimal library)).any (fun item => !item.isFinite) = true := by
    intro hany
    obtain ⟨d, hd, hnot⟩ := List.any_eq_true.mp hany
    rw [hfinite d hd] at hnot
    cases hnot
  rw [← hvalues] at hsums ⊢
  obtain ⟨total, htotal, htotalFinite, hsum⟩ := Decimal.sum_exact hsums (.refl _) hfinite
  refine ⟨total, ?_, htotalFinite, hsum⟩
  unfold decimal_total
  rw [if_neg (not_not.mpr h.present), if_neg (by rw [h.typed]; simp), mapM_ok hall, ok_bind, if_neg hspecial, htotal]

/-! ## The order of the rows -/

/-- The same evidence, with its rows in another order. -/
structure Reordered (item item' : EvidenceResult) : Prop where
  evidence_id : item'.evidence_id = item.evidence_id
  columns : item'.columns = item.columns
  rows : item'.rows.Perm item.rows

theorem Reordered.cells (h : Reordered item item') (column : String) : (item'.cells column).Perm (item.cells column) :=
  h.rows.filterMap _

theorem type_invalid_perm {raw raw' : List QueryScalar} (h : raw'.Perm raw) : type_invalid raw' = type_invalid raw := by
  unfold type_invalid
  rw [((h.filterMap QueryScalar.type).dedup).length_eq, h.any_eq]

theorem Clean.reordered (h : Clean library item column) (hsame : Reordered item item') :
    Clean library item' column where
  present := by rw [hsame.columns]; exact h.present
  typed := by rw [type_invalid_perm (hsame.cells column)]; exact h.typed
  reads := fun cell hcell => h.reads cell ((hsame.cells column).mem_iff.mp hcell)

theorem SumsHeld.perm {terms terms' : List ℚ} (h : Decimal.SumsHeld terms) (hperm : terms'.Perm terms) :
    Decimal.SumsHeld terms' := by
  intro part hpart
  obtain ⟨own, hown, hsub⟩ := hpart.subperm.trans hperm.subperm
  rw [← hown.sum_eq]
  exact h own hsub

variable {evidence evidence' : List EvidenceResult} {reference : String} {rule : Rule}

theorem Reordered.refl (item : EvidenceResult) : Reordered item item := ⟨rfl, rfl, .refl _⟩

theorem find_reordered (h : List.Forall₂ Reordered evidence evidence')
    (hfind : (evidence.find? fun item => item.evidence_id = reference) = some item) :
    ∃ item', (evidence'.find? fun item => item.evidence_id = reference) = some item' ∧ Reordered item item' := by
  induction h with
  | nil => cases hfind
  | @cons first first' evidence evidence' hfirst hrest ih =>
    rw [List.find?_cons] at hfind ⊢
    rw [hfirst.evidence_id]
    cases hid : decide (first.evidence_id = reference) with
    | true =>
      rw [hid] at hfind
      obtain rfl := Option.some.inj hfind
      exact ⟨first', rfl, hfirst⟩
    | false =>
      rw [hid] at hfind
      exact ih hfind

theorem total_of_exact (hheld : ReferenceHeld library evidence reference column)
    (hno : ∀ reason message, total_of library evidence reference column ≠ .error (.contract reason message))
    (hsame : List.Forall₂ Reordered evidence evidence') : ∃ total,
    total_of library evidence' reference column = .ok total ∧ total.isFinite = true ∧
      total.value = exact_total library evidence reference column := by
  unfold total_of find_evidence at hno
  unfold exact_total
  cases hfind : evidence.find? fun item => item.evidence_id = reference with
  | none =>
    rw [hfind] at hno
    exact absurd rfl (hno _ _)
  | some item =>
    rw [hfind] at hno
    have hcolumn := hheld item (List.mem_of_find?_eq_some hfind) (by simpa using List.find?_some hfind)
    have hclean := clean_of_no_contract hcolumn.short hno
    obtain ⟨item', hfind', hreordered⟩ := find_reordered hsame hfind
    have hperm := (hreordered.cells column).map (QueryScalar.value library)
    obtain ⟨total, htotal, hfinite, hsum⟩ := (hclean.reordered hreordered).total (SumsHeld.perm hcolumn.sums hperm)
    refine ⟨total, ?_, hfinite, hsum.trans hperm.sum_eq⟩
    unfold total_of find_evidence
    rw [hfind']
    exact htotal

/-! ## Exact checks -/

def Rule.type : Rule → String
  | .total _ => "total"
  | .decimal_tolerance _ => "decimal_tolerance"

def Rule.reason : Rule → String
  | .total _ => "total_mismatch"
  | .decimal_tolerance _ => "decimal_tolerance_failed"

/-- What a check says of a rule. -/
structure Says (rule : Rule) (holds : Prop) (check : ReconciliationCheck) : Prop where
  rule_type : check.rule_type = rule.type
  passed : check.passed = true ↔ holds
  reason_code : check.reason_code = if check.passed then "reconciled" else rule.reason

theorem no_contract_of_bind {α β : Type} {x : Except Raised α} {f : α → Except Raised β}
    (h : ∀ reason message, x >>= f ≠ .error (.contract reason message)) :
    ∀ reason message, x ≠ .error (.contract reason message) := by
  rintro reason message rfl
  exact h reason message rfl

theorem rule_exact (hheld : rule.Held library evidence)
    (hno : ∀ reason message, reconcile_rule library evidence rule ≠ .error (.contract reason message))
    (hsame : List.Forall₂ Reordered evidence evidence') : ∃ check,
    reconcile_rule library evidence' rule = .ok check ∧ Says rule (rule.Holds library evidence) check := by
  have hself : List.Forall₂ Reordered evidence evidence := List.forall₂_same.mpr fun item _ => .refl item
  cases rule with
  | total rule =>
    unfold reconcile_rule reconcile_total at hno ⊢
    dsimp only at hno ⊢
    have hparent := no_contract_of_bind hno
    obtain ⟨parent, hok, -⟩ := total_of_exact hheld.1 hparent hself
    rw [hok, ok_bind] at hno
    have hchild := no_contract_of_bind hno
    obtain ⟨parent', hparentOk, -, hparentValue⟩ := total_of_exact hheld.1 hparent hsame
    obtain ⟨children', hchildOk, -, hchildValue⟩ := total_of_exact hheld.2 hchild hsame
    rw [hparentOk, ok_bind, hchildOk, ok_bind]
    refine ⟨_, rfl, rfl, ?_, rfl⟩
    unfold check Rule.Holds
    dsimp only
    rw [beq_iff_eq, hparentValue, hchildValue]
  | decimal_tolerance rule =>
    unfold reconcile_rule reconcile_decimal at hno ⊢
    dsimp only at hno ⊢
    have hleft := no_contract_of_bind hno
    obtain ⟨left, hok, -⟩ := total_of_exact hheld.1 hleft hself
    rw [hok, ok_bind] at hno
    have hright := no_contract_of_bind hno
    obtain ⟨left', hleftOk, hleftFinite, hleftValue⟩ := total_of_exact hheld.1 hleft hsame
    obtain ⟨right', hrightOk, hrightFinite, hrightValue⟩ := total_of_exact hheld.2.1 hright hsame
    obtain ⟨difference, hdifference, hvalue⟩ : ∃ difference, (left'.sub right').bind Decimal.abs = some difference ∧
        difference.value = |left'.value - right'.value| :=
      Decimal.abs_sub_exact hleftFinite hrightFinite (by rw [hleftValue, hrightValue]; exact hheld.2.2)
    rw [hleftOk, ok_bind, hrightOk, ok_bind, hdifference]
    refine ⟨_, rfl, rfl, ?_, rfl⟩
    unfold check Rule.Holds
    dsimp only
    rw [decide_eq_true_iff, hvalue, hleftValue, hrightValue]

def ReconciliationCheck.outcome (check : ReconciliationCheck) : String × Bool × String :=
  (check.rule_type, check.passed, check.reason_code)

theorem Says.outcome {holds : Prop} {check check' : ReconciliationCheck} (h : Says rule holds check)
    (h' : Says rule holds check') : check'.outcome = check.outcome := by
  have hpassed : check'.passed = check.passed := Bool.eq_iff_iff.mpr (h'.passed.trans h.passed.symm)
  unfold ReconciliationCheck.outcome
  rw [h'.rule_type, h.rule_type, h'.reason_code, h.reason_code, hpassed]

theorem outcomes_eq {holds : Rule → Prop} {rules : List Rule} {checks checks' : List ReconciliationCheck}
    (h : List.Forall₂ (fun rule check => Says rule (holds rule) check) rules checks)
    (h' : List.Forall₂ (fun rule check => Says rule (holds rule) check) rules checks') :
    checks'.map ReconciliationCheck.outcome = checks.map ReconciliationCheck.outcome := by
  induction h generalizing checks' with
  | nil =>
    cases h'
    rfl
  | cons hfirst _ ih =>
    cases h' with
    | cons hfirst' hrest' => rw [List.map_cons, List.map_cons, hfirst.outcome hfirst', ih hrest']

theorem reconcile_says {request request' : ReconciliationRequest}
    (hheld : ∀ rule ∈ request.rules, rule.Held library request.evidence)
    (hno : ∀ reason message, reconcile library request ≠ .error (.contract reason message))
    (hrules : request'.rules = request.rules) (hsame : List.Forall₂ Reordered request.evidence request'.evidence) :
    ∃ result, reconcile library request' = .ok result ∧
      List.Forall₂ (fun rule check => Says rule (rule.Holds library request.evidence) check) request.rules
        result.checks := by
  have hself : List.Forall₂ Reordered request.evidence request.evidence := List.forall₂_same.mpr fun item _ =>
    .refl item
  have hclean : ∀ rule ∈ request.rules, ∀ reason message,
      reconcile_rule library request.evidence rule ≠ .error (.contract reason message) := by
    intro rule hrule reason message herror
    obtain ⟨other, hother, e, he, hmap⟩ := mapM_error hrule herror
    have hnot : ∀ reason message,
      reconcile_rule library request.evidence other ≠ .error (.contract reason message) := by
      intro reason message hcontract
      rw [he] at hcontract
      refine hno reason message ?_
      unfold reconcile
      rw [hmap, error_bind, Except.error.inj hcontract]
    obtain ⟨check, hok, -⟩ := rule_exact (hheld other hother) hnot hself
    rw [hok] at he
    cases he
  obtain ⟨checks, hchecks, hall⟩ := mapM_forall₂ fun rule hrule =>
    rule_exact (hheld rule hrule) (hclean rule hrule) hsame
  refine ⟨⟨checks.all ReconciliationCheck.passed, checks⟩, ?_, hall⟩
  unfold reconcile
  rw [hrules, hchecks, ok_bind]
  rfl

/-- Where no addition is rounded and no contract error is raised, each check passes exactly when the exact sums satisfy
its rule, and the order of the rows does not matter. -/
theorem totals_exact (library : EngineLibrary) (request : ReconciliationRequest)
    (hno : ∀ reason message, reconcile library request ≠ .error (.contract reason message))
    (hheld : ∀ rule ∈ request.rules, rule.Held library request.evidence) :
    ∃ result, reconcile library request = .ok result ∧
      List.Forall₂ (fun rule check => check.passed = true ↔ rule.Holds library request.evidence)
        request.rules result.checks ∧
      ∀ request' : ReconciliationRequest, request'.rules = request.rules →
        List.Forall₂ Reordered request.evidence request'.evidence →
        ∃ result', reconcile library request' = .ok result' ∧
          result'.checks.map ReconciliationCheck.outcome = result.checks.map ReconciliationCheck.outcome := by
  have hself : List.Forall₂ Reordered request.evidence request.evidence := List.forall₂_same.mpr fun item _ =>
    .refl item
  obtain ⟨result, hok, hsays⟩ := reconcile_says hheld hno rfl hself
  refine ⟨result, hok, hsays.imp fun _ _ h => h.passed, fun request' hrules hsame => ?_⟩
  obtain ⟨result', hok', hsays'⟩ := reconcile_says hheld hno hrules hsame
  exact ⟨result', hok', outcomes_eq hsays hsays'⟩

/-! ## Two totals -/

def sampleEngine : EngineLibrary := ⟨fun _ => none, fun _ => HexDigest.ofNat 0⟩

/-- A column of integers. -/
def amounts (evidence_id : String) (ns : List ℤ) : EvidenceResult where
  evidence_id := evidence_id
  columns := ["amount"]
  rows := ns.map fun n => Dict.empty.set "amount" (.int n)
  query_fingerprint := HexDigest.ofNat 0
  unique := List.nodup_singleton _
  shape := by
    intro row hrow column
    obtain ⟨n, -, rfl⟩ := List.mem_map.mp hrow
    rfl

/-- A total over two columns of integers. -/
def totalRequest (parent children : List ℤ) : ReconciliationRequest where
  evidence := [amounts "parent" parent, amounts "children" children]
  rules := [.total ⟨"parent", "children", "amount"⟩]
  unique := by simp [amounts]

theorem cells_amounts (evidence_id : String) (ns : List ℤ) : (amounts evidence_id ns).cells "amount" = ns.map .int := by
  unfold EvidenceResult.cells amounts
  rw [List.filterMap_map, ← List.filterMap_eq_map]
  rfl

theorem amounts_held {evidence_id : String} (ns : List ℕ) (hsum : ns.sum < 10 ^ 28) :
    ColumnHeld library (amounts evidence_id (ns.map Nat.cast)) "amount" where
  short := by
    intro n hn
    rw [cells_amounts, List.map_map] at hn
    obtain ⟨m, hm, hmn⟩ := List.mem_map.mp hn
    obtain rfl : (m : ℤ) = n := QueryScalar.int.inj hmn
    have hlt : m < 10 ^ 28 := (List.single_le_sum (fun _ _ => Nat.zero_le _) m hm).trans_lt hsum
    rw [Int.natAbs_natCast]
    rcases Nat.eq_zero_or_pos m with rfl | hpos
    · rw [Nat.log_zero_right]
      norm_num
    · exact (Nat.log_lt_of_lt_pow hpos.ne' hlt).trans (by norm_num)
  sums := by
    rw [cells_amounts, List.map_map, List.map_map]
    have hvalues : (QueryScalar.value library ∘ QueryScalar.int) ∘ (Nat.cast : ℕ → ℤ) = (Nat.cast : ℕ → ℚ) := by
      funext n
      exact Int.cast_natCast n
    rw [hvalues]
    exact Decimal.sumsHeld_of_naturals hsum

theorem amounts_reordered (evidence_id : String) {ns ns' : List ℤ} (h : ns'.Perm ns) :
    Reordered (amounts evidence_id ns) (amounts evidence_id ns') := ⟨rfl, rfl, h.map _⟩

theorem small_totals_exact : ∃ result, reconcile sampleEngine (totalRequest [3] [1, 2]) = .ok result ∧
    List.Forall₂ (fun rule check => check.passed = true ↔ rule.Holds sampleEngine (totalRequest [3] [1, 2]).evidence)
      (totalRequest [3] [1, 2]).rules result.checks ∧
    ∃ result', reconcile sampleEngine (totalRequest [3] [2, 1]) = .ok result' ∧
      result'.checks.map ReconciliationCheck.outcome = result.checks.map ReconciliationCheck.outcome := by
  have hok : (reconcile sampleEngine (totalRequest [3] [1, 2])).isOk = true := by decide +kernel
  have hparent : ColumnHeld sampleEngine (amounts "parent" [3]) "amount" := amounts_held [3] (by decide)
  have hchildren : ColumnHeld sampleEngine (amounts "children" [1, 2]) "amount" := amounts_held [1, 2] (by decide)
  have hheld (reference : String) : ReferenceHeld sampleEngine (totalRequest [3] [1, 2]).evidence reference "amount" :=
    fun item hitem _ => by
      rcases List.mem_pair.mp hitem with rfl | rfl
      · exact hparent
      · exact hchildren
  obtain ⟨result, hresult, hchecks, horder⟩ := totals_exact sampleEngine (totalRequest [3] [1, 2])
    (fun _ _ h => by rw [h] at hok; cases hok)
    (fun rule hrule => by
      obtain rfl := List.mem_singleton.mp hrule
      exact ⟨hheld _, hheld _⟩)
  refine ⟨result, hresult, hchecks, horder (totalRequest [3] [2, 1]) rfl ?_⟩
  exact .cons (.refl _) (.cons (amounts_reordered _ (.swap 1 2 [])) .nil)

/-- One is lost in a total of 29 digits. -/
theorem large_total_rounded :
    (reconcile sampleEngine (totalRequest [10 ^ 28, 1] [10 ^ 28])).map ReconciliationResult.passed = .ok true ∧
      ¬ (Rule.total ⟨"parent", "children", "amount"⟩).Holds sampleEngine
        (totalRequest [10 ^ 28, 1] [10 ^ 28]).evidence := by
  refine ⟨by decide +kernel, ?_⟩
  unfold Rule.Holds
  decide +kernel

end CommerceAgent.QueryEngine
