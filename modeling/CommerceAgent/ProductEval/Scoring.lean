import CommerceAgent.Lib.Dict
import CommerceAgent.Lib.JsonLine
import CommerceAgent.Lib.Numerals
import CommerceAgent.Lib.Permutations
import CommerceAgent.Lib.Raising

/-!
# Scoring of an answer

The rows of an answer are compared with the rows of a reference. The columns of the answer may stand in any order, which
is the same for all its rows.
-/

open CommerceAgent.Lib

namespace CommerceAgent.ProductEval

/-- A cell; a decimal and a float are held as the text that `str` gives. -/
inductive Cell where
  | null
  | bool (b : Bool)
  | int (n : ℤ)
  | decimal (text : String)
  | float (text : String)
  | text (s : String)
  deriving DecidableEq

inductive Kind where
  | bool
  | number
  | text
  deriving DecidableEq

inductive Raised where
  | KeyError
  | ValueError
  | InvalidOperation
  deriving DecidableEq

/-- Digits and blanks beyond ASCII, as a decimal reads them. -/
structure ScoringLibrary where
  unicode : Char → Option Char

/-! ## Cells -/

/-- An integer with more digits than `str` writes. -/
def Cell.Long : Cell → Prop
  | .int n => 4300 ≤ Nat.log 10 n.natAbs
  | _ => False

instance : DecidablePred Cell.Long
  | .int n => inferInstanceAs (Decidable (4300 ≤ Nat.log 10 n.natAbs))
  | .null | .bool _ | .decimal _ | .float _ | .text _ => .isFalse id

def Cell.written : Cell → String
  | .null => "None"
  | .bool b => if b then "True" else "False"
  | .int n => String.ofList (intText n)
  | .decimal s => s
  | .float s => s
  | .text s => s

def str (value : Cell) : Except Raised String := if value.Long then .error .ValueError else .ok value.written

variable (library : ScoringLibrary)

def numeric (value : Cell) : Option Numeral :=
  match str value with
  | .ok text => Numeral.read library.unicode text
  | .error _ => none

def cell_kind : Cell → Kind
  | .bool _ => .bool
  | .int _ => .number
  | .decimal _ => .number
  | .float _ => .number
  | .text _ => .text
  | .null => .text

/-- `format(number.quantize(_QUANT), "f")`; a NaN keeps 28 digits of its payload. -/
def format_quantized : Numeral → Except Raised String
  | .finite negative coefficient exponent =>
    let units := Decimal.rescale 6 coefficient exponent
    if units < 10 ^ 28 then .ok (String.ofList (Decimal.fixedPoint 6 negative units)) else .error .InvalidOperation
  | .infinity _ => .error .InvalidOperation
  | .nan _ true _ => .error .InvalidOperation
  | .nan negative false payload =>
    let digits := if payload % 10 ^ 28 = 0 then [] else Nat.toDigits 10 (payload % 10 ^ 28)
    .ok (String.ofList ((if negative then ['-'] else []) ++ 'N' :: 'a' :: 'N' :: digits))

/-! ## Columns and rows -/

/-- The kind of the cells that are not null; the result is `none` when they are of two kinds. -/
def column_kind (kind : Option Kind) : List Cell → Option (Option Kind)
  | [] => some kind
  | value :: cells =>
    if value = .null then column_kind kind cells
    else if kind = none ∨ kind = some (cell_kind value) then column_kind (some (cell_kind value)) cells
    else none

def column (rows : List (List Cell)) (index : ℕ) : List Cell := rows.filterMap fun row => row[index]?

def reference_column_kinds (reference_positional : List (List Cell)) (width : ℕ) : Option (List Kind) :=
  (List.range width).mapM fun index =>
    (column_kind none (column reference_positional index)).map (·.getD .text)

/-- A cell in normal form, which a null has as well; `none` is a cell that has no normal form. -/
def normalize_cell (kind : Kind) (value : Cell) : Except Raised (Option (Option String)) :=
  if value = .null then .ok (some none)
  else
    match kind with
    | .number =>
      match numeric library value with
      | none => .ok none
      | some number => (format_quantized number).map fun text => some (some text)
    | .bool =>
      match value with
      | .bool _ => (str value).map fun text => some (some text)
      | _ => .ok none
    | .text => (str value).map fun text => some (some text)

def normalize_row (kinds : List Kind) (cells : List Cell) : Except Raised (Option (List (Option String))) :=
  if cells.length ≠ kinds.length then .error .ValueError
  else collect (fun entry : Kind × Cell => normalize_cell library entry.1 entry.2) (kinds.zip cells)

def canonical_reference_rows (rows : List (Dict String Cell)) (columns : List String) :
    Except Raised (List (List Cell)) :=
  rows.mapM fun row => columns.mapM fun column =>
    match row.get? column with
    | some value => .ok value
    | none => .error .KeyError

/-- `json.dumps(row, ensure_ascii=False)`. -/
def dumps (row : List (Option String)) : String :=
  String.ofList (JsonValue.dumps FloatText.half 1 (.arr (row.map fun cell => cell.elim .null .str)))

/-! ## The comparison -/

/-- The cells of a row in the order of a column mapping. -/
def rearranged {α : Type} (permutation : List ℕ) (agent_cells : List α) : List α :=
  permutation.filterMap fun position => agent_cells[position]?

def rows_equal (ordered : Bool) (normalized_reference normalized_agent : List (List (Option String))) : Bool :=
  if ordered then normalized_reference = normalized_agent
  else
    (normalized_reference.map dumps).insertionSort (· ≤ ·) = (normalized_agent.map dumps).insertionSort (· ≤ ·)

/-- One column mapping is tried. The rows end at the first that has no normal form. -/
def mapping_matches (kinds : List Kind) (ordered : Bool) (normalized_reference : List (List (Option String)))
    (agent_positional : List (List Cell)) (permutation : List ℕ) : Except Raised Bool := do
  match ← collect (normalize_row library kinds) (agent_positional.map (rearranged permutation)) with
  | none => return false
  | some normalized_agent => return rows_equal ordered normalized_reference normalized_agent

def results_match (agent_rows reference_rows : List (Dict String Cell)) (reference_columns : List String)
    (ordered : Bool) : Except Raised Bool :=
  if reference_rows = [] then .ok (agent_rows = [])
  else if agent_rows = [] then .ok false
  else if reference_rows.length ≠ agent_rows.length then .ok false
  else do
    let reference_positional ← canonical_reference_rows reference_rows reference_columns
    let agent_positional := agent_rows.map Dict.values
    let width := reference_columns.length
    if agent_positional.any fun cells => cells.length ≠ width then return false
    else
      match reference_column_kinds reference_positional width with
      | none => return false
      | some kinds =>
        match ← collect (normalize_row library kinds) reference_positional with
        | none => return false
        | some normalized_reference =>
          (permutations (List.range width)).anyM
            (mapping_matches library kinds ordered normalized_reference agent_positional)

end CommerceAgent.ProductEval
