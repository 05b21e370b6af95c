import CommerceAgent.Lib.Raising
import CommerceAgent.QueryEngine.AstPolicy
import Mathlib.Data.List.Pairwise

/-!
# The detail limit

How many rows PostgreSQL returns for a statement that the policy accepts.
-/

open CommerceAgent.Lib

namespace CommerceAgent.QueryEngine

/-! ## Rows of a select -/

/-- PostgreSQL: its functions, and what it computes of the clauses of a select on a database. The rows of a select stand
for all that it outputs and sorts by. -/
structure Postgres (Database Row Output : Type) where
  is_aggregate : String → Bool
  returns_set : String → Bool
  /-- Of the queries around an aggregate call, from the inside out, the number of the one whose rows it aggregates. -/
  owner : List Expression → Expression → ℕ
  owner_lt : ∀ queries call, queries ≠ [] → owner queries call < queries.length
  allowed_scalar : ∀ name : String, upper name ∈ ALLOWED_FUNCTIONS → returns_set name = false
  /-- The rows of `FROM` that pass `WHERE`. -/
  rows : Database → Expression → List Row
  groups : Database → Expression → List Row → List (List Row)
  having : Database → Expression → List Row → Bool
  set_size : Database → Expression → List Row → ℕ
  output : Database → Expression → List Row → ℕ → Output
  precedes : Database → Expression → Output → Output → Bool
  same : Database → Expression → Output → Output → Bool
  offset : Database → Expression → ℕ
  /-- The value of a limit that is no integer literal. -/
  limit : Database → Expression → Option ℕ

namespace Postgres

variable {Database Row Output : Type} (pg : Postgres Database Row Output)

/-- A child is the function that a window calls, which is no aggregate call. -/
def is_callee (windowed : Bool) (node : Expression) (name : String) : Bool :=
  name = "this" && (node.label = .Window || (windowed && (function? node).isNone))

/-- A node has an aggregate call over the rows of the query that is so many levels up. -/
inductive Aggregates : Bool → List Expression → Expression → ℕ → Prop where
  | call {queries : List Expression} {node : Expression} {name : String} (hname : function? node = some name)
    (haggregate : pg.is_aggregate name = true) : Aggregates false queries node (pg.owner queries node)
  | child {windowed : Bool} {queries : List Expression} {node : Expression} {child : String × Expression} {k : ℕ}
    (hquery : node.label ≠ .Select) (hchild : child ∈ node.children)
    (h : Aggregates (is_callee windowed node child.1) queries child.2 k) : Aggregates windowed queries node k
  | query {windowed : Bool} {queries : List Expression} {node : Expression} {child : String × Expression} {k : ℕ}
    (hquery : node.label = .Select) (hchild : child ∈ node.children)
    (h : Aggregates false (node :: queries) child.2 (k + 1)) : Aggregates windowed queries node k

/-- A select aggregates its own rows. -/
def Aggregated (select : Expression) : Prop := ∃ child ∈ select.children, pg.Aggregates false [select] child.2 0

open Classical in
/-- The groups of a select: one of all rows if it aggregates them without `GROUP BY`. -/
noncomputable def groups_of (db : Database) (select : Expression) : List (List Row) :=
  if (select.get? "group").isSome then pg.groups db select (pg.rows db select)
  else if pg.Aggregated select ∨ (select.get? "having").isSome then [pg.rows db select]
  else (pg.rows db select).map fun row => [row]

/-- A node belongs to the query of its projection. -/
def in_query (node : Expression) (_ : String) : Bool := node.label ≠ .Select

open Classical in
/-- The calls of set-returning functions in the projections of a select. -/
noncomputable def set_calls (select : Expression) : List Expression :=
  (select.items "expressions").flatMap fun projection => projection.subtrees.filter fun node =>
    LabelTree.Reaches in_query projection node ∧ (function? node).any pg.returns_set = true

/-- The rows that a group gives: as many as its longest set. -/
noncomputable def times (db : Database) (select : Expression) (group : List Row) : ℕ :=
  (((pg.set_calls select).map fun call => pg.set_size db call group).max?).getD 1

noncomputable def projected_rows (db : Database) (select : Expression) : List Output :=
  ((pg.groups_of db select).filter (pg.having db select)).flatMap fun group =>
    (List.range (pg.times db select group)).map (pg.output db select group)

/-- `DISTINCT`: the first row of those that are the same. -/
def distinct_rows (db : Database) (select : Expression) (rows : List Output) : List Output :=
  if (select.get? "distinct").isSome then
    (rows.reverse.pwFilter fun later earlier => pg.same db select later earlier = false).reverse
  else rows

def limit_of (db : Database) (select : Expression) : Option ℕ :=
  match limit_value select with
  | some n => some n.toNat
  | none => pg.limit db select

/-- **The rows that a select returns.** -/
noncomputable def returned (db : Database) (select : Expression) : List Output :=
  let rows := pg.distinct_rows db select ((pg.projected_rows db select).mergeSort (pg.precedes db select))
  match pg.limit_of db select with
  | some n => (rows.drop (pg.offset db select)).take n
  | none => rows.drop (pg.offset db select)

variable {pg} {db : Database} {select : Expression}

theorem distinct_rows_length (rows : List Output) : (pg.distinct_rows db select rows).length ≤ rows.length := by
  unfold distinct_rows
  split_ifs
  · rw [List.length_reverse]
    exact (List.pwFilter_sublist _).length_le.trans (List.length_reverse).le
  · exact le_refl _

theorem returned_length_le : (pg.returned db select).length ≤ (pg.projected_rows db select).length := by
  have hrows : (pg.distinct_rows db select
      ((pg.projected_rows db select).mergeSort (pg.precedes db select))).length ≤
        (pg.projected_rows db select).length :=
    (distinct_rows_length _).trans (List.length_mergeSort _).le
  unfold returned
  cases pg.limit_of db select with
  | none => exact (List.drop_sublist _ _).length_le.trans hrows
  | some n => exact ((List.take_sublist _ _).trans (List.drop_sublist _ _)).length_le.trans hrows

theorem returned_length_limit {n : ℤ} (h : limit_value select = some n) :
    (pg.returned db select).length ≤ n.toNat := by
  unfold returned limit_of
  rw [h]
  exact List.length_take_le _ _

/-- A select that aggregates its rows without `GROUP BY` has one group, which gives one row. -/
theorem returned_aggregated (hgroup : select.get? "group" = none) (haggregated : pg.Aggregated select)
    (hsets : pg.set_calls select = []) : (pg.returned db select).length ≤ 1 := by
  refine returned_length_le.trans ?_
  have htimes (group : List Row) : pg.times db select group = 1 := by
    unfold times
    rw [hsets]
    rfl
  have hgroups : pg.groups_of db select = [pg.rows db select] := by
    unfold groups_of
    rw [hgroup, if_neg (by simp), if_pos (Or.inl haggregated)]
  unfold projected_rows
  rw [hgroups, List.filter_singleton]
  cases pg.having db select (pg.rows db select) with
  | false => exact Nat.zero_le _
  | true =>
    rw [cond_true, List.flatMap_singleton, List.length_map, List.length_range, htimes]

end Postgres

/-! ## Accepted statements -/

variable {Database Row Output : Type} {sqlglot : Sqlglot} {pg : Postgres Database Row Output}

theorem require_ok {ok : Bool} {reason_code message : String} (h : require ok reason_code message = .ok ()) :
    ok = true := by
  unfold require at h
  cases ok with
  | true => rfl
  | false => cases h

/-- What the policy has asked of a statement that it accepts. -/
structure Accepts (statement : Expression) (is_aggregate : Bool) : Prop where
  root : statement.label = .Select
  grain : is_aggregate =
    ((statement.items "expressions").any projection_is_aggregate || (statement.get? "group").isSome)
  functions : ∀ node ∈ statement.subtrees, ∀ name, function? node = some name → upper name ∈ ALLOWED_FUNCTIONS
  limit : is_aggregate = false → ∃ n, limit_value statement = some n ∧ 1 ≤ n ∧ n ≤ 1000

theorem validate_statement_ok {statement : Expression} {is_aggregate : Bool}
    (h : validate_statement sqlglot statement = .ok is_aggregate) : Accepts statement is_aggregate := by
  unfold validate_statement at h
  obtain ⟨⟨⟩, hroot, h⟩ := except_bind_ok h
  obtain ⟨⟨⟩, -, h⟩ := except_bind_ok h
  obtain ⟨⟨⟩, -, h⟩ := except_bind_ok h
  obtain ⟨scopes, -, h⟩ := except_bind_ok h
  obtain ⟨⟨⟩, -, h⟩ := except_bind_ok h
  obtain ⟨⟨⟩, hfunctions, h⟩ := except_bind_ok h
  obtain ⟨⟨⟩, hlimit, h⟩ := except_bind_ok h
  obtain rfl := Except.ok.inj h
  refine ⟨of_decide_eq_true (require_ok hroot), rfl, fun node hnode name hname => ?_, fun hdetail => ?_⟩
  · have hallowed := forM_ok.mp hfunctions node hnode
    rw [hname] at hallowed
    exact List.mem_of_elem_eq_true (require_ok hallowed)
  · unfold validate_limit at hlimit
    rw [hdetail, if_neg Bool.false_ne_true] at hlimit
    cases hvalue : limit_value statement with
    | none =>
      rw [hvalue] at hlimit
      cases hlimit
    | some n =>
      rw [hvalue] at hlimit
      exact ⟨n, rfl, of_decide_eq_true (require_ok hlimit)⟩

theorem validate_ok {sql : String} {query : ValidatedQuery} (h : validate sqlglot sql = .ok query) :
    ∃ statement, sqlglot.parse sql = .ok [some statement] ∧ Accepts statement query.is_aggregate ∧ query.sql = sql := by
  unfold validate at h
  obtain ⟨statements, hparsed, h⟩ := except_bind_ok h
  have hparse : sqlglot.parse sql = .ok statements := by
    unfold parsed at hparsed
    obtain ⟨has_semicolon, -, hparsed⟩ := except_bind_ok hparsed
    obtain ⟨⟨⟩, -, hparsed⟩ := except_bind_ok hparsed
    cases hresult : sqlglot.parse sql with
    | error error =>
      rw [hresult] at hparsed
      cases hparsed
    | ok result =>
      rw [hresult] at hparsed
      exact congrArg Except.ok (Except.ok.inj hparsed)
  split at h
  · rename_i statement
    obtain ⟨is_aggregate, hstatement, h⟩ := except_bind_ok h
    obtain rfl := Except.ok.inj h
    exact ⟨statement, hparse, validate_statement_ok hstatement, rfl⟩
  · cases h

/-- Of the functions that the policy allows, the library takes those for aggregates that PostgreSQL does. -/
def Classifies (sqlglot : Sqlglot) (pg : Postgres Database Row Output) : Prop :=
  ∀ sql statements statement, sqlglot.parse sql = .ok statements → some statement ∈ statements →
    ∀ node ∈ LabelTree.subtrees statement, ∀ name, function? node = some name → upper name ∈ ALLOWED_FUNCTIONS →
      is_agg_func node = pg.is_aggregate name

/-- **A projection aggregates**: an aggregate of it is not inside a window or a subquery. -/
def Aggregating (projection : Expression) : Prop :=
  ∃ node, LabelTree.Reaches (fun node _ => !is_boundary node) projection node ∧ is_boundary node = false ∧
    is_agg_func node = true

theorem projection_is_aggregate_iff (projection : Expression) :
    projection_is_aggregate projection = true ↔ Aggregating projection := by
  unfold projection_is_aggregate Aggregating
  rw [LabelTree.search_iff]
  simp only [List.exists_mem_cons_iff, List.not_mem_nil, false_and, exists_false, or_false, Bool.and_eq_true,
    Bool.not_eq_true']

theorem agg_func_name {node : Expression} (h : is_agg_func node = true) : ∃ name, function? node = some name := by
  unfold is_agg_func at h
  unfold function?
  cases hlabel : LabelTree.label node with
  | Func sql_name agg_func => exact ⟨sql_name, rfl⟩
  | _ =>
    rw [hlabel] at h
    cases h

theorem not_boundary {t : Expression} (h : is_boundary t = false) :
    t.label ≠ .Select ∧ Postgres.is_callee false t = fun _ => false := by
  have hlabel : t.label ∉ [NodeKind.Subquery, .Select, .Window] := by
    intro hmem
    rw [is_boundary, List.elem_eq_true_of_mem hmem] at h
    cases h
  refine ⟨fun hselect => hlabel (by rw [hselect]; decide), funext fun name => ?_⟩
  have hwindow : t.label ≠ .Window := fun hwindow => hlabel (by rw [hwindow]; decide)
  unfold Postgres.is_callee
  rw [decide_eq_false hwindow, Bool.false_and, Bool.or_false, Bool.and_false]

/-- An aggregate that the policy finds is a call over the rows of the root. -/
theorem aggregates_of_reaches {statement t node : Expression} {name : String}
    (hreach : LabelTree.Reaches (fun node _ => !is_boundary node) t node) (hname : function? node = some name)
    (haggregate : pg.is_aggregate name = true) : pg.Aggregates false [statement] t 0 := by
  induction hreach with
  | here t =>
    have howner : pg.owner [statement] t = 0 := Nat.lt_one_iff.mp (pg.owner_lt [statement] t (List.cons_ne_nil _ _))
    rw [← howner]
    exact .call hname haggregate
  | @step t node child hchild hkeep _ ih =>
    obtain ⟨hselect, hcallee⟩ := not_boundary (Bool.not_eq_true' _ ▸ hkeep)
    refine .child hselect hchild ?_
    rw [hcallee]
    exact ih hname

variable {db : Database} {statement : Expression} {is_aggregate : Bool}

theorem Accepts.set_calls (h : Accepts statement is_aggregate) : pg.set_calls statement = [] := by
  unfold Postgres.set_calls
  rw [List.flatMap_eq_nil_iff]
  intro projection hprojection
  rw [List.filter_eq_nil_iff]
  intro node hnode hset
  simp only [decide_eq_true_eq] at hset
  cases hname : function? node with
  | none =>
    rw [hname] at hset
    cases hset.2
  | some name =>
    have hallowed := h.functions node (LabelTree.items_subtrees hprojection hnode) name hname
    rw [hname, Option.any_some, pg.allowed_scalar name hallowed] at hset
    cases hset.2

/-- **Detail limit.** What the policy accepts without `GROUP BY` at the root returns at most 1000 rows: by its limit, or
as the single row of an aggregate. -/
theorem detail_limit (hclassifies : Classifies sqlglot pg) {sql : String} {query : ValidatedQuery}
    (h : validate sqlglot sql = .ok query) :
    ∃ statement, sqlglot.parse sql = .ok [some statement] ∧ (LabelTree.get? statement "group" = none →
      ((∃ n, limit_value statement = some n ∧ 1 ≤ n ∧ n ≤ 1000) ∨
        ((∃ projection ∈ LabelTree.items statement "expressions", Aggregating projection) ∧
          ∀ db, (pg.returned db statement).length ≤ 1)) ∧
      ∀ db, (pg.returned db statement).length ≤ 1000) := by
  obtain ⟨statement, hparse, haccepts, -⟩ := validate_ok h
  refine ⟨statement, hparse, fun hgroup => ?_⟩
  cases haggregate : query.is_aggregate with
  | false =>
    obtain ⟨n, hn, hlow, hhigh⟩ := haccepts.limit haggregate
    refine ⟨Or.inl ⟨n, hn, hlow, hhigh⟩, fun db => (Postgres.returned_length_limit hn).trans ?_⟩
    omega
  | true =>
    have hany : (LabelTree.items statement "expressions").any projection_is_aggregate = true := by
      have hgrain := haccepts.grain
      rw [haggregate, hgroup] at hgrain
      simpa using hgrain.symm
    obtain ⟨projection, hprojection, hfound⟩ := List.any_eq_true.mp hany
    have hfinds := (projection_is_aggregate_iff projection).mp hfound
    have hone (db : Database) : (pg.returned db statement).length ≤ 1 := by
      obtain ⟨node, hreach, -, hagg⟩ := hfinds
      obtain ⟨name, hname⟩ := agg_func_name hagg
      have hsub := LabelTree.items_subtrees hprojection hreach.subtree
      have hcall : pg.is_aggregate name = true := by
        rw [← hclassifies sql _ statement hparse List.mem_cons_self node hsub name hname
          (haccepts.functions node hsub name hname)]
        exact hagg
      obtain ⟨child, hchild, rfl⟩ := LabelTree.mem_items.mp hprojection
      exact Postgres.returned_aggregated hgroup ⟨child, hchild.1, aggregates_of_reaches hreach hname hcall⟩
        haccepts.set_calls
    exact ⟨Or.inr ⟨⟨projection, hprojection, hfinds⟩, hone⟩, fun db => (hone db).trans (by decide)⟩

/-! ## A count -/

def countSql : String := "SELECT COUNT(*) AS n FROM orders"

def countProjection : Expression :=
  .node .Alias [("this", .node (.Func "COUNT" true) [("this", .node .Star [])]),
    ("alias", .node (.other "Identifier") [])]

def countStatement : Expression :=
  .node .Select [("expressions", countProjection),
    ("from_", .node (.other "From") [("this", .node (.other "Table") [])])]

def countScope : Scope := ⟨[("orders", .table "" "" "orders")], [], countStatement⟩

/-- A library that knows this statement. -/
def countSqlglot : Sqlglot where
  has_semicolon sql := .ok (sql.toList.elem ';')
  parse sql := if sql = countSql then .ok [some countStatement] else .error .ParseError
  traverse_scope _ := .ok [countScope]

/-- PostgreSQL with this statement on a database of so many orders. -/
def countPostgres : Postgres ℕ Unit ℕ where
  is_aggregate name := ["AVG", "COUNT", "MAX", "MIN", "SUM"].elem (upper name)
  returns_set name := ["GENERATE_SERIES", "UNNEST"].elem (upper name)
  owner _ _ := 0
  owner_lt _ _ h := List.length_pos_iff.mpr h
  allowed_scalar _ h :=
    (by decide : ∀ allowed ∈ ALLOWED_FUNCTIONS, ["GENERATE_SERIES", "UNNEST"].elem allowed = false) _ h
  rows orders _ := List.replicate orders ()
  groups _ _ rows := [rows]
  having _ _ _ := true
  set_size _ _ _ := 0
  output _ _ group _ := group.length
  precedes _ _ a b := a ≤ b
  same _ _ a b := a = b
  offset _ _ := 0
  limit _ _ := none

theorem count_accepted : validate countSqlglot countSql = .ok ⟨countSql, true⟩ := by
  have hsemicolon : countSql.toList.elem ';' = false := by decide
  have hleaks : identity_leaks (unaliased countProjection) = false := by
    simp [identity_leaks, LabelTree.search, LabelTree.kept, countProjection, unaliased, LabelTree.label,
      LabelTree.children, LabelTree.get?,
      column?, is_count, function?]
  have hstars : contains_nested_star (unaliased countProjection) = false := by
    simp [contains_nested_star, is_any_star, is_star, LabelTree.search, LabelTree.kept, countProjection, unaliased,
      LabelTree.label,
      LabelTree.children, LabelTree.get?, column?, is_count, function?]
  have hgrain : projection_is_aggregate countProjection = true := by
    simp [projection_is_aggregate, is_boundary, is_agg_func, LabelTree.search, LabelTree.kept, countProjection,
      LabelTree.label,
      LabelTree.children]
  have hprojection (sources : List SourceInfo) : validate_identity_projection sources countProjection = .ok () := by
    unfold validate_identity_projection
    dsimp only
    rw [hleaks, hstars]
    rfl
  have hidentity (sources : List SourceInfo) :
      validate_identity_projections countScope sources = .ok () := by
    change validate_identity_projection sources countProjection >>= (fun _ => .ok ()) = _
    rw [hprojection]
    rfl
  have hscope : validate_scope countScope = .ok () := by
    unfold validate_scope
    simp only [hidentity]
    rfl
  have hstatement : validate_statement countSqlglot countStatement = .ok true := by
    unfold validate_statement
    have hany : (countStatement.items "expressions").any projection_is_aggregate = true := by
      change (projection_is_aggregate countProjection || false) = true
      rw [hgrain]
      rfl
    have hscopes : [countScope].forM validate_scope = .ok () := forM_ok.mpr (List.forall_mem_singleton.mpr hscope)
    have htraverse : (countSqlglot.traverse_scope countStatement).mapError Rejected.library = .ok [countScope] := rfl
    rw [hany, htraverse]
    simp only [ok_bind, hscopes]
    decide +kernel
  have hparsed : parsed countSqlglot countSql = .ok [some countStatement] := by
    unfold parsed
    change (Except.ok (countSql.toList.elem ';')).mapError _ >>= _ = _
    rw [hsemicolon]
    rfl
  unfold validate
  rw [hparsed, ok_bind]
  dsimp only
  rw [hstatement]
  rfl

theorem count_classifies : Classifies countSqlglot countPostgres := by
  intro sql statements statement hparse hmem node hnode name hname _
  change (if sql = countSql then Except.ok [some countStatement] else .error SqlglotError.ParseError) =
    .ok statements at hparse
  split_ifs at hparse
  obtain rfl := Except.ok.inj hparse
  obtain rfl := Option.some.inj (List.mem_singleton.mp hmem)
  have hall : countStatement.subtrees.all (fun node => (function? node).all fun name =>
      is_agg_func node = countPostgres.is_aggregate name) = true := by decide +kernel
  have hnode := List.all_eq_true.mp hall node hnode
  rw [hname, Option.all_some, decide_eq_true_iff] at hnode
  exact hnode

/-- The policy accepts a count, which is one row. -/
theorem detail_limit_count : validate countSqlglot countSql = .ok ⟨countSql, true⟩ ∧
    ∃ statement, countSqlglot.parse countSql = .ok [some statement] ∧ (LabelTree.get? statement "group" = none →
      ((∃ n, limit_value statement = some n ∧ 1 ≤ n ∧ n ≤ 1000) ∨
        ((∃ projection ∈ LabelTree.items statement "expressions", Aggregating projection) ∧
          ∀ orders, (countPostgres.returned orders statement).length ≤ 1)) ∧
      ∀ orders, (countPostgres.returned orders statement).length ≤ 1000) :=
  ⟨count_accepted, detail_limit count_classifies count_accepted⟩

end CommerceAgent.QueryEngine
