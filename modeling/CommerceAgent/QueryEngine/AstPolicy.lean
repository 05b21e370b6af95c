import CommerceAgent.Lib.Tree

/-!
# The SQL policy

`AstPolicy.validate`: what it asks of a parsed statement, in the order of the source. The parser and the scopes are the
library's.
-/

open CommerceAgent.Lib

namespace CommerceAgent.QueryEngine

/-! ## The reviewed relations -/

/-- The tables of a schema with their columns. -/
abbrev Relations := List (String × List String)

def RETAIL_TABLE_COLUMNS : Relations :=
  [("customers", ["customer_id", "customer_unique_id", "customer_zip_code_prefix", "customer_city", "customer_state"]),
    ("orders", ["order_id", "customer_id", "order_status", "order_purchase_timestamp", "order_approved_at",
      "order_delivered_carrier_date", "order_delivered_customer_date", "order_estimated_delivery_date"]),
    ("order_items", ["order_id", "order_item_id", "product_id", "seller_id", "shipping_limit_date", "price",
      "freight_value"]),
    ("order_payments", ["order_id", "payment_sequential", "payment_type", "payment_installments", "payment_value"]),
    ("order_reviews", ["review_row_id", "review_id", "order_id", "review_score", "review_comment_title",
      "review_comment_message", "review_creation_date", "review_answer_timestamp"]),
    ("products", ["product_id", "product_category_name", "product_name_lenght", "product_description_lenght",
      "product_photos_qty", "product_weight_g", "product_length_cm", "product_height_cm", "product_width_cm"]),
    ("sellers", ["seller_id", "seller_zip_code_prefix", "seller_city", "seller_state"]),
    ("product_category_name_translation", ["product_category_name", "product_category_name_english"])]

def OPS_READ_TABLE_COLUMNS : Relations :=
  [("investigation_tasks", ["task_ref", "status", "assignee_ref", "version", "evidence_summary"]),
    ("risk_annotations", ["risk_ref", "seller_ref", "status", "observed_from", "observed_to", "metric_ref",
      "metric_value"]),
    ("enabled_metric_alert_rules", ["rule_ref", "metric_ref", "metric_revision", "grain", "comparator", "threshold",
      "window", "version"]),
    ("enabled_metric_alert_hits", ["hit_ref", "rule_ref", "window_start", "window_end", "value", "coverage"])]

def ALLOWED_RELATIONS : List (String × Relations) :=
  [("retail", RETAIL_TABLE_COLUMNS), ("ops_read", OPS_READ_TABLE_COLUMNS)]

abbrev ColumnRef := String × String

/-- The two ends of each edge. -/
def ALLOWED_JOIN_EDGES : List (ColumnRef × ColumnRef) :=
  [(("orders", "customer_id"), ("customers", "customer_id")), (("order_items", "order_id"), ("orders", "order_id")),
    (("order_items", "product_id"), ("products", "product_id")),
      (("order_items", "seller_id"), ("sellers", "seller_id")),
    (("order_payments", "order_id"), ("orders", "order_id")), (("order_reviews", "order_id"), ("orders", "order_id")),
    (("products", "product_category_name"), ("product_category_name_translation", "product_category_name"))]

def ALLOWED_FUNCTIONS : List String :=
  ["AVG", "COALESCE", "COUNT", "EXTRACT", "LOWER", "MAX", "MIN", "NULLIF", "ROUND", "SUM", "TIMESTAMP_TRUNC", "UPPER"]

def RAW_IDENTITY_COLUMNS : List String := ["seller_id", "customer_id", "customer_unique_id", "order_id"]

/-! ## Parsed statements -/

/-- The classes of nodes that the policy tells apart, with what it reads of them besides their children. -/
inductive NodeKind where
  | Select
  | Subquery
  | Window
  | Alias
  | Star
  | EQ
  | And
  | Or
  | Not
  | With (recursive : Bool)
  | Join (kind : String)
  | Delete
  | Insert
  | Update
  | Merge
  | Into
  | Lock
  /-- Another function, by its SQL name, and whether it is an `AggFunc`. -/
  | Func (sql_name : String) (agg_func : Bool)
  /-- The integer that the literal is, if it is one. -/
  | Literal (is_int : Option ℤ)
  | Column (table name : String)
  | other (name : String)
  deriving DecidableEq

/-- A node of the statement. The children under a name are the node or the nodes of the argument of that name. -/
abbrev Expression := LabelTree NodeKind

/-- `isinstance(node, exp.Func)` and no boolean operator. -/
def function? (node : Expression) : Option String :=
  match node.label with
  | .Func sql_name _ => some sql_name
  | _ => none

def is_agg_func (node : Expression) : Bool :=
  match node.label with
  | .Func _ agg_func => agg_func
  | _ => false

def is_count (node : Expression) : Bool := function? node = some "COUNT"

/-- `exp.Column`, as its table and its name. -/
def column? (node : Expression) : Option (String × String) :=
  match node.label with
  | .Column table name => some (table, name)
  | _ => none

/-- Its `this` is a star: `column.is_star`, of a column. -/
def is_star (node : Expression) : Bool := (node.get? "this").any fun this => this.label = .Star

/-- `projection.this if isinstance(projection, exp.Alias) else projection`. -/
def unaliased (projection : Expression) : Expression :=
  if projection.label = .Alias then (projection.get? "this").getD projection else projection

inductive Source where
  | table (catalog db name : String)
  | scope (named_selects : List String)
  | other

/-- A scope of the statement, as `traverse_scope` makes it. -/
structure Scope where
  sources : List (String × Source)
  columns : List Expression
  expression : Expression

structure SqlPolicyViolation where
  reason_code : String
  message : String
  deriving DecidableEq

/-- An exception of the library. -/
inductive SqlglotError where
  | ParseError
  | other
  deriving DecidableEq

/-- The library: whether a text has a semicolon among its tokens, the statements of a text, the scopes of one. -/
structure Sqlglot where
  has_semicolon : String → Except SqlglotError Bool
  parse : String → Except SqlglotError (List (Option Expression))
  traverse_scope : Expression → Except SqlglotError (List Scope)

/-- What leaves `validate` as an exception. -/
inductive Rejected where
  | violation (violation : SqlPolicyViolation)
  | library (error : SqlglotError)
  deriving DecidableEq

/-- `raise SqlPolicyViolation(reason_code, message)`, unless something holds. -/
def require (ok : Bool) (reason_code message : String) : Except Rejected Unit :=
  if ok then .ok () else .error (.violation ⟨reason_code, message⟩)

structure ValidatedQuery where
  sql : String
  is_aggregate : Bool

/-- `text.upper()`, of an ASCII text. -/
def upper (text : String) : String := String.ofList (text.toList.map Char.toUpper)

/-! ## Scopes -/

/-- `source_columns` and `source_tables`, for one source. -/
structure SourceInfo where
  alias_name : String
  columns : List String
  table : Option String

def scope_source (alias_name : String) : Source → Except Rejected SourceInfo
  | .table catalog db name => do
    require (catalog = "") "catalog_denied" "Catalogs are not allowed"
    let schema_name := if db = "" then "retail" else db
    match ALLOWED_RELATIONS.lookup schema_name with
    | none => .error (.violation ⟨"schema_denied", "Schema is not allowed"⟩)
    | some relations =>
      match relations.lookup name with
      | none => .error (.violation ⟨"table_denied", "Table is not allowed"⟩)
      | some columns =>
        .ok ⟨alias_name, columns, some (if schema_name = "retail" then name else s!"{schema_name}.{name}")⟩
  | .scope named_selects => .ok ⟨alias_name, named_selects, none⟩
  | .other => .error (.violation ⟨"source_denied", "Query source is not understood"⟩)

def scope_sources (scope : Scope) : Except Rejected (List SourceInfo) :=
  scope.sources.mapM fun source => scope_source source.1 source.2

/-- `source_columns.get(name)`. -/
def source_columns (sources : List SourceInfo) (name : String) : Option (List String) :=
  (sources.find? (·.alias_name = name)).map SourceInfo.columns

/-- `source_tables.get(name)`. -/
def source_table (sources : List SourceInfo) (name : String) : Option String :=
  (sources.find? (·.alias_name = name)).bind SourceInfo.table

def validate_scope_columns (scope : Scope) (sources : List SourceInfo) : Except Rejected Unit :=
  scope.columns.forM fun column =>
    match column? column with
    | none => .ok ()
    | some (table, name) =>
      if is_star column then .ok ()
      else if table ≠ "" then
        require (((source_columns sources table).getD []).elem name) "column_denied" "Column is not allowed"
      else
        require ((sources.filter (·.columns.elem name)).length = 1) "column_ambiguous" "Column is missing or ambiguous"

def validate_direct_stars (scope : Scope) (sources : List SourceInfo) : Except Rejected Unit :=
  (scope.expression.items "expressions").forM fun projection =>
    require (!((unaliased projection).label = .Star && sources.length ≠ 1)) "star_ambiguous"
      "Unqualified star requires one source"

def identity_leaks (node : Expression) : Bool :=
  LabelTree.search (fun current => (column? current).any fun column => RAW_IDENTITY_COLUMNS.elem column.2)
    (fun current _ => !is_count current && (column? current).isNone) [node]

/-- A star, or a column that is one. -/
def is_any_star (node : Expression) : Bool := node.label = .Star || ((column? node).isSome && is_star node)

def contains_nested_star (projection : Expression) : Bool :=
  !is_any_star projection &&
    LabelTree.search is_any_star (fun current name => !(is_count current && is_star current && name = "this"))
      [projection]

/-- One round of `_validate_identity_projections`. -/
def validate_identity_projection (sources : List SourceInfo) (projection : Expression) : Except Rejected Unit := do
  let projected := unaliased projection
  require (!identity_leaks projected) "identity_projection_denied" "Raw identity projection is not allowed"
  require (!contains_nested_star projected) "identity_projection_denied"
    "Expression-wrapped star projection is not allowed"
  require (!(projected.label = .Star && sources.any fun source => source.columns.any RAW_IDENTITY_COLUMNS.elem))
    "identity_projection_denied" "Raw identity star projection is not allowed"
  match column? projected with
  | some (table, _) =>
    if is_star projected then do
      require (!((source_columns sources table).getD []).any RAW_IDENTITY_COLUMNS.elem) "identity_projection_denied"
        "Raw identity star projection is not allowed"
      require (source_columns sources table).isSome "star_denied" "Qualified star source is not allowed"
  | none => .ok ()

def validate_identity_projections (scope : Scope) (sources : List SourceInfo) : Except Rejected Unit :=
  (scope.expression.items "expressions").forM (validate_identity_projection sources)

def and_terms (condition : Expression) : List Expression :=
  if condition.label = .And then
    match _hthis : condition.get? "this", _hexpression : condition.get? "expression" with
    | some this, some expression => and_terms this ++ and_terms expression
    | _, _ => [condition]
  else [condition]
termination_by condition.size
decreasing_by
  · exact LabelTree.size_get? _hthis
  · exact LabelTree.size_get? _hexpression

def column_ref (sources : List SourceInfo) (column : Option Expression) : Option ColumnRef :=
  match column.bind column? with
  | some (table, name) => if table = "" then none else (source_table sources table).map fun table_name =>
    (table_name, name)
  | none => none

/-- `frozenset({left, right}) in ALLOWED_JOIN_EDGES`. -/
def is_reviewed (left right : ColumnRef) : Bool :=
  ALLOWED_JOIN_EDGES.any fun edge => edge = (left, right) || edge = (right, left)

/-- One term of a join's condition. -/
def validate_term (sources : List SourceInfo) (term : Expression) : Except Rejected Unit := do
  require (term.label = .EQ) "join_condition" "JOIN condition is not reviewed"
  match column_ref sources (term.get? "this"), column_ref sources (term.get? "expression") with
  | some left, some right => require (is_reviewed left right) "join_edge" "JOIN edge is not reviewed"
  | _, _ => .error (.violation ⟨"join_edge", "JOIN edge is not reviewed"⟩)

/-- One round of `_validate_joins`. -/
def validate_join (sources : List SourceInfo) (join : Expression) : Except Rejected Unit := do
  match join.label with
  | .Join kind => require (upper kind ≠ "CROSS") "cross_join" "CROSS JOIN is not allowed"
  | _ => .ok ()
  match join.get? "on" with
  | none => .error (.violation ⟨"join_without_on", "JOIN requires ON"⟩)
  | some condition => (and_terms condition).forM (validate_term sources)

def validate_joins (scope : Scope) (sources : List SourceInfo) : Except Rejected Unit :=
  (scope.expression.items "joins").forM (validate_join sources)

/-- The body of the loop over the scopes. -/
def validate_scope (scope : Scope) : Except Rejected Unit := do
  let sources ← scope_sources scope
  validate_scope_columns scope sources
  validate_direct_stars scope sources
  validate_joins scope sources
  validate_identity_projections scope sources

/-! ## The statement -/

def validate_functions (statement : Expression) : Except Rejected Unit :=
  statement.subtrees.forM fun node =>
    match function? node with
    | some sql_name => require (ALLOWED_FUNCTIONS.elem (upper sql_name)) "function_denied" "Function is not allowed"
    | none => .ok ()

/-- What ends the search for an aggregate. -/
def is_boundary (node : Expression) : Bool := [NodeKind.Subquery, .Select, .Window].elem node.label

def projection_is_aggregate (projection : Expression) : Bool :=
  LabelTree.search (fun node => !is_boundary node && is_agg_func node) (fun node _ => !is_boundary node) [projection]

/-- `limit.expression.is_int`, and its integer. -/
def limit_value (statement : Expression) : Option ℤ :=
  match (statement.get? "limit").bind fun limit => limit.get? "expression" with
  | some value =>
    match value.label with
    | .Literal is_int => is_int
    | _ => none
  | none => none

def validate_limit (statement : Expression) (is_aggregate : Bool) : Except Rejected Unit :=
  if is_aggregate then .ok ()
  else
    match limit_value statement with
    | none => .error (.violation ⟨"detail_limit", "Detail query requires an integer LIMIT"⟩)
    | some parsed_limit =>
      require (1 ≤ parsed_limit ∧ parsed_limit ≤ 1000) "detail_limit" "Detail LIMIT must be between 1 and 1000"

/-- The classes that a statement must not have a node of, with their names. -/
def denied_nodes : List (NodeKind × String) :=
  [(.Delete, "Delete"), (.Insert, "Insert"), (.Update, "Update"), (.Merge, "Merge"), (.Into, "Into"), (.Lock, "Lock")]

def validate_statement (sqlglot : Sqlglot) (statement : Expression) : Except Rejected Bool := do
  require (statement.label = .Select) "root_not_select" "Only SELECT is allowed"
  denied_nodes.forM fun denied =>
    require (!statement.subtrees.any fun node => node.label = denied.1) "denied_ast_node" denied.2
  require (!(statement.get? "with_").any fun with_expression => with_expression.label = .With true) "recursive_cte"
    "Recursive CTE is not allowed"
  let is_aggregate := (statement.items "expressions").any projection_is_aggregate || (statement.get? "group").isSome
  let scopes ← (sqlglot.traverse_scope statement).mapError Rejected.library
  scopes.forM validate_scope
  validate_functions statement
  validate_limit statement is_aggregate
  return is_aggregate

/-- `except ParseError`. -/
def parse_error : SqlglotError → Rejected
  | .ParseError => .violation ⟨"parse_error", "SQL could not be parsed"⟩
  | error => .library error

/-- The statements of a text, behind the check of its semicolons. -/
def parsed (sqlglot : Sqlglot) (sql : String) : Except Rejected (List (Option Expression)) := do
  let has_semicolon ← (sqlglot.has_semicolon sql).mapError parse_error
  require (!has_semicolon) "multiple_statements" "Semicolons are not allowed"
  (sqlglot.parse sql).mapError parse_error

def validate (sqlglot : Sqlglot) (sql : String) : Except Rejected ValidatedQuery := do
  match ← parsed sqlglot sql with
  | [some statement] => do
    let is_aggregate ← validate_statement sqlglot statement
    return ⟨sql, is_aggregate⟩
  | _ => .error (.violation ⟨"statement_count", "Exactly one statement is required"⟩)

end CommerceAgent.QueryEngine
