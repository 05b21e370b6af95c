import CommerceAgent.Lib.JsonLine
import CommerceAgent.Lib.Session
import CommerceAgent.QueryEngine.DetailLimit
import CommerceAgent.QueryEngine.Reconciliation

/-!
# Running a query

`PostgresExecutor.execute` and `QueryEngine.execute`, against a database that answers as it likes. A query
is sent once, in a guarded transaction that is read-only and always rolled back.
-/

open CommerceAgent.Lib
open CommerceAgent.Lib.Flow (onOk Protocol Conducts)

namespace CommerceAgent.QueryEngine

variable {φ : Type}

/-! ## The connection -/

/-- A value that the driver returns in a row. -/
inductive PgValue where
  | scalar (value : QueryScalar)
  | decimal (text : String)
  /-- A date, a timestamp or a UUID, as its text. -/
  | dated (isoformat : String)
  | other (type_name : String)

/-- What an operation of the driver raises: a `psycopg.Error`, or an exception of another class. -/
inductive DbError where
  | psycopg (sqlstate : Option String)
  | other (exception : String)

/-- What the executor asks of the driver. -/
inductive DbOp where
  | connect
  | execute (statement : String)
  /-- The first row of the plan. -/
  | fetchone
  /-- `cursor.execute`, of the named cursor: the description of the result. -/
  | declare (query : String)
  /-- The next row of the cursor. -/
  | fetch
  | close_cursor
  | rollback
  | close
  deriving DecidableEq

abbrev DbAns (φ : Type) : DbOp → Type
  | .connect => Except DbError Unit
  | .execute _ => Except DbError Unit
  | .fetchone => Except DbError (Option (JsonValue φ))
  | .declare _ => Except DbError (Option (List String))
  | .fetch => Except DbError (Option (List PgValue))
  | .close_cursor => Except DbError Unit
  | .rollback => Except DbError Unit
  | .close => Except DbError Unit

/-- What leaves `execute` as an exception. -/
inductive QueryError where
  | rejected (rejected : Rejected)
  | infrastructure (reason_code message : String)
  | plan (reason_code message : String)
  | execution (reason_code message : String) (sqlstate : Option String)
  | result_limit (reason_code message : String)
  /-- A `psycopg.Error` of the cleanup. -/
  | database (sqlstate : Option String)
  | raised (exception : String)

abbrev DbCall (φ α : Type) := Flow DbOp (DbAns φ) (Except QueryError α)

def SqlPlanRejected (reason_code message : String) : QueryError := .plan reason_code message
def SqlResultLimitExceeded (reason_code message : String) : QueryError := .result_limit reason_code message
def QueryInfrastructureError (reason_code message : String) : QueryError := .infrastructure reason_code message

/-- `except psycopg.Error`, inside the transaction. -/
def in_query : DbError → QueryError
  | .psycopg sqlstate => .execution "postgres_error" "PostgreSQL rejected the query" sqlstate
  | .other exception => .raised exception

/-- The same in the cleanup, where nothing converts it. -/
def in_cleanup : DbError → QueryError
  | .psycopg sqlstate => .database sqlstate
  | .other exception => .raised exception

/-- Goes on with an answer of the database. -/
def answered {α β : Type} (k : α → DbCall φ β) (answer : Except DbError α) :
    DbCall φ β := onOk k (answer.mapError in_query)

/-! ## The plan -/

inductive PyFloat where
  | finite (q : ℚ)
  | infinity (negative : Bool)
  | nan

/-- `value >= 0`. -/
def PyFloat.nonneg : PyFloat → Bool
  | .finite q => 0 ≤ q
  | .infinity negative => !negative
  | .nan => false

/-- `value > n`. -/
def PyFloat.above (n : ℚ) : PyFloat → Bool
  | .finite q => n < q
  | .infinity negative => !negative
  | .nan => false

/-- The functions of Python that the executor calls. A conversion that raises gives the class of the exception. -/
structure ExecutorLibrary (φ : Type) where
  /-- `json.loads`, unless it raises `JSONDecodeError`. -/
  loads : String → Option (JsonValue φ)
  float : JsonValue φ → Except String PyFloat
  int : JsonValue φ → Except String ℤ
  /-- The JSON text of a float that is held as its shortest text. -/
  float_json : String → String

structure ExplainSummary where
  total_cost : PyFloat
  plan_rows : ℤ
  cost : total_cost.nonneg = true
  rows : 0 ≤ plan_rows

def explain_shape : QueryError := QueryInfrastructureError "explain_shape" "Unexpected EXPLAIN payload"

/-- `except (KeyError, TypeError, ValueError)`. -/
def conversion_error (exception : String) : QueryError :=
  if exception ∈ ["KeyError", "TypeError", "ValueError"] then explain_shape else .raised exception

/-- `json.loads(payload) if isinstance(payload, str) else payload`. -/
def decoded (library : ExecutorLibrary φ) : JsonValue φ → Except QueryError (JsonValue φ)
  | .str text =>
    match library.loads text with
    | some value => .ok value
    | none => .error explain_shape
  | value => .ok value

def extract_explain_summary (library : ExecutorLibrary φ) (payload : JsonValue φ) :
    Except QueryError ExplainSummary := do
  match ← decoded library payload with
  | .arr [.obj document] =>
    match document.lookup "Plan" with
    | some (.obj plan) =>
      match plan.lookup "Total Cost" with
      | none => .error explain_shape
      | some total_cost =>
        let total_cost ← (library.float total_cost).mapError conversion_error
        match plan.lookup "Plan Rows" with
        | none => .error explain_shape
        | some plan_rows =>
          let plan_rows ← (library.int plan_rows).mapError conversion_error
          if h : total_cost.nonneg = true ∧ 0 ≤ plan_rows then .ok ⟨total_cost, plan_rows, h.1, h.2⟩
          else .error explain_shape
    | _ => .error explain_shape
  | _ => .error explain_shape

def enforce_plan_limits (summary : ExplainSummary) : Except QueryError Unit :=
  if summary.total_cost.above 1000000 then
    .error (SqlPlanRejected "plan_cost" "Query plan cost exceeds the development limit")
  else if 1000000 < summary.plan_rows then
    .error (SqlPlanRejected "plan_rows" "Query plan rows exceed the development limit")
  else .ok ()

/-- A plan that is read and within the limits. -/
def accepted_plan (library : ExecutorLibrary φ) (payload : JsonValue φ) : Except QueryError ExplainSummary := do
  let summary ← extract_explain_summary library payload
  enforce_plan_limits summary
  return summary

/-! ## Rows -/

def normalize_scalar : PgValue → Except QueryError QueryScalar
  | .scalar value => .ok value
  | .decimal text => .ok (.str text)
  | .dated isoformat => .ok (.str isoformat)
  | .other _ => .error (.raised "TypeError")

/-- The items of a row: `zip(columns, raw_row, strict=True)`. -/
def zip_row : List String → List PgValue → Except QueryError (List (String × QueryScalar))
  | [], [] => .ok []
  | column :: columns, value :: values => do
    let cell ← normalize_scalar value
    let items ← zip_row columns values
    return (column, cell) :: items
  | _, _ => .error (.raised "ValueError")

theorem zip_row_keys {columns : List String} {raw_row : List PgValue} {items : List (String × QueryScalar)}
    (h : zip_row columns raw_row = .ok items) : items.map Prod.fst = columns := by
  induction columns generalizing raw_row items with
  | nil =>
    cases raw_row with
    | nil =>
      cases h
      rfl
    | cons value values => cases h
  | cons column columns ih =>
    cases raw_row with
    | nil => cases h
    | cons value values =>
      obtain ⟨cell, -, h⟩ := except_bind_ok h
      obtain ⟨items, hitems, h⟩ := except_bind_ok h
      cases h
      rw [List.map_cons, ih hitems]

abbrev Row := Dict String QueryScalar

/-- A row of a result with different columns. -/
def row_of {columns : List String} (unique : columns.Nodup) (raw_row : List PgValue) : Except QueryError Row :=
  match h : zip_row columns raw_row with
  | .ok items => .ok ⟨items, by rw [zip_row_keys h]; exact unique⟩
  | .error e => .error e

/-- `json.dumps(value, ensure_ascii=False)`. -/
def scalar_json (library : ExecutorLibrary φ) : QueryScalar → List Char
  | .null => "null".toList
  | .bool b => (if b then "true" else "false").toList
  | .int n => intText n
  | .float text => (library.float_json text).toList
  | .str s => Json.quote s

/-- `len(json.dumps(row, ensure_ascii=False).encode("utf-8"))`. -/
def row_bytes (library : ExecutorLibrary φ) (row : Row) : ℕ :=
  let items := row.items.map fun item => Json.quote item.1 ++ ": ".toList ++ scalar_json library item.2
  (utf8 (String.ofList ("\x7b".toList ++ ", ".toList.intercalate items ++ "\x7d".toList))).length

def MAX_ROWS : ℕ := 1000
def MAX_BYTES : ℕ := 5 * 1024 * 1024

/-! ## The executor -/

structure QueryResult where
  columns : List String
  rows : List Row
  explain : ExplainSummary

def SET_LOCAL_STATEMENTS : List String :=
  ["SET LOCAL statement_timeout = '5s'", "SET LOCAL lock_timeout = '1s'",
    "SET LOCAL idle_in_transaction_session_timeout = '10s'", "SET LOCAL work_mem = '16MB'",
    "SET LOCAL max_parallel_workers_per_gather = 0", "SET LOCAL search_path = retail, ops_read"]

/-- The statements before the plan is read. -/
def script (sql : String) : List String :=
  "BEGIN READ ONLY" :: SET_LOCAL_STATEMENTS ++ ["EXPLAIN (FORMAT JSON) " ++ sql]

/-- `await connection.execute(statement)`, for each statement. -/
def execute_all : List String → DbCall φ Unit
  | [] => .done (.ok ())
  | statement :: statements => .ask (.execute statement) <| answered fun () => execute_all statements

/-- The loop over the cursor, with room for some more rows. -/
def stream (library : ExecutorLibrary φ) {columns : List String} (unique : columns.Nodup) :
    ℕ → List Row → ℕ → DbCall φ (List Row)
  | room, rows, serialized_bytes => .ask .fetch <| answered fun
    | none => .done (.ok rows)
    | some raw_row =>
      match room with
      | 0 => .done (.error (SqlResultLimitExceeded "row_limit" "Query returned more than 1000 rows"))
      | room + 1 =>
        match row_of unique raw_row with
        | .error e => .done (.error e)
        | .ok row =>
          if MAX_BYTES < serialized_bytes + row_bytes library row then
            .done (.error (SqlResultLimitExceeded "byte_limit" "Query returned more than 5MB"))
          else stream library unique room (rows ++ [row]) (serialized_bytes + row_bytes library row)

/-- The columns and the rows of the named cursor. -/
def read_cursor (library : ExecutorLibrary φ) (sql : String) : DbCall φ (List String × List Row) :=
  .ask (.declare sql) <| answered fun
    | none => .done (.error (QueryInfrastructureError "result_shape" "Query did not return a result set"))
    | some columns =>
      if unique : columns.Nodup then
        (stream library unique MAX_ROWS [] 0).bind <| onOk fun rows => .done (.ok (columns, rows))
      else .done (.error (.execution "duplicate_columns" "Query result column names must be unique" none))

/-- `async with connection.cursor(...)`: the cursor is closed on every way out. -/
def with_cursor {α : Type} (body : DbCall φ α) : DbCall φ α :=
  body.bind fun result => .ask .close_cursor fun
    | .error e => .done (.error (in_query e))
    | .ok () => .done result

/-- The body of the `try` statement. -/
def in_transaction (library : ExecutorLibrary φ) (query : ValidatedQuery) : DbCall φ QueryResult :=
  (execute_all (script query.sql)).bind <| onOk fun () =>
  .ask .fetchone <| answered fun
    | none => .done (.error explain_shape)
    | some payload =>
      match accepted_plan library payload with
      | .error e => .done (.error e)
      | .ok summary =>
        (with_cursor (read_cursor library query.sql)).bind <| onOk fun read => .done (.ok ⟨read.1, read.2, summary⟩)

/-- The `finally` clauses. -/
def finish (result : Except QueryError QueryResult) : DbCall φ QueryResult :=
  .ask .rollback fun rolled => .ask .close fun closed => .done <|
    match closed, rolled with
    | .error e, _ => .error (in_cleanup e)
    | .ok (), .error e => .error (in_cleanup e)
    | .ok (), .ok () => result

def execute (library : ExecutorLibrary φ) (query : ValidatedQuery) : DbCall φ QueryResult :=
  .ask .connect fun
    | .error (.psycopg _) =>
      .done (.error (QueryInfrastructureError "connection_failed" "Product database connection failed"))
    | .error (.other exception) => .done (.error (.raised exception))
    | .ok () => (in_transaction library query).bind finish

/-- `QueryEngine.execute(request)`. -/
def engine_execute (sqlglot : Sqlglot) (library : ExecutorLibrary φ) (sql : String) : DbCall φ QueryResult :=
  match validate sqlglot sql with
  | .error e => .done (.error (.rejected e))
  | .ok query => execute library query

/-! ## The protocol -/

/-- What was read of the database before the cursor was closed. -/
structure Fetched (φ : Type) where
  payload : JsonValue φ
  columns : List String
  rows : List (List PgValue)

inductive Phase (φ : Type) where
  | start
  | refused
  | connected (sent : List String)
  | explained (payload : JsonValue φ)
  | streaming (payload : JsonValue φ) (columns : List String) (rows : List (List PgValue))
  | drained (payload : JsonValue φ) (columns : List String) (rows : List (List PgValue))
  /-- The cursor is open and of no use. -/
  | spoiled
  | ended (fetched : Option (Fetched φ))
  | rolled_back (fetched : Option (Fetched φ))
  | closed (fetched : Option (Fetched φ))

namespace Phase

/-- The operations that a query may ask for. There is no commit. -/
def allowed (library : ExecutorLibrary φ) (sql : String) : Phase φ → DbOp → Prop
  | .start, .connect => True
  | .connected sent, .execute statement => sent ++ [statement] <+: script sql
  | .connected sent, .fetchone => sent = script sql
  | .connected _, .rollback => True
  | .explained payload, .declare query => query = sql ∧ ∃ summary, accepted_plan library payload = .ok summary
  | .explained _, .rollback => True
  | .streaming _ columns rows, .fetch => columns.Nodup ∧ rows.length ≤ MAX_ROWS
  | .streaming .., .close_cursor => True
  | .drained .., .close_cursor => True
  | .spoiled, .close_cursor => True
  | .ended _, .rollback => True
  | .rolled_back _, .close => True
  | _, _ => False

/-- The rows behind the next one. -/
def fetch : Phase φ → Option (List PgValue) → Phase φ
  | .streaming payload columns rows, some row => .streaming payload columns (rows ++ [row])
  | .streaming payload columns rows, none => .drained payload columns rows
  | phase, _ => phase

/-- What the closed cursor leaves. -/
def fetched : Phase φ → Option (Fetched φ)
  | .drained payload columns rows => some ⟨payload, columns, rows⟩
  | .ended fetched => fetched
  | .rolled_back fetched => fetched
  | _ => none

def next (phase : Phase φ) : (op : DbOp) → DbAns φ op → Phase φ
  | .connect, .ok () => .connected []
  | .connect, .error _ => .refused
  | .execute statement, .ok () =>
    match phase with
    | .connected sent => .connected (sent ++ [statement])
    | _ => phase
  | .execute _, .error _ => .ended none
  | .fetchone, .ok (some payload) => .explained payload
  | .fetchone, .ok none => .ended none
  | .fetchone, .error _ => .ended none
  | .declare _, .ok (some columns) =>
    match phase with
    | .explained payload => .streaming payload columns []
    | _ => phase
  | .declare _, .ok none => .spoiled
  | .declare _, .error _ => .spoiled
  | .fetch, .ok row => phase.fetch row
  | .fetch, .error _ => .spoiled
  | .close_cursor, .ok () => .ended phase.fetched
  | .close_cursor, .error _ => .ended none
  | .rollback, _ => .rolled_back phase.fetched
  | .close, _ => .closed phase.fetched

end Phase

def protocol (library : ExecutorLibrary φ) (sql : String) : Protocol DbOp (DbAns φ) (Phase φ) where
  allowed := Phase.allowed library sql
  next := Phase.next
  ok _ _ := True

/-! ## What a result tells -/

/-- A result has all rows that the cursor returned, each under its columns, within the limits. -/
structure Exact (library : ExecutorLibrary φ) (fetched : Fetched φ) (result : QueryResult) : Prop where
  columns : result.columns = fetched.columns
  unique : fetched.columns.Nodup
  rows : List.Forall₂ (fun raw_row (row : Row) => zip_row fetched.columns raw_row = .ok row.items) fetched.rows
    result.rows
  few : result.rows.length ≤ MAX_ROWS
  small : (result.rows.map (row_bytes library)).sum ≤ MAX_BYTES
  explain : accepted_plan library fetched.payload = .ok result.explain
  cost : result.explain.total_cost.above 1000000 = false
  plan_rows : result.explain.plan_rows ≤ 1000000

theorem row_of_eq_ok {columns : List String} {unique : columns.Nodup} {raw_row : List PgValue} {row : Row} :
    row_of unique raw_row = .ok row ↔ zip_row columns raw_row = .ok row.items := by
  unfold row_of
  split
  · rename_i items hitems
    constructor
    · intro h
      rw [hitems, ← Except.ok.inj h]
    · intro h
      obtain ⟨row_items, hnodup⟩ := row
      obtain rfl : items = row_items := Except.ok.inj (hitems.symm.trans h)
      rfl
  · rename_i e he
    rw [he]
    exact iff_of_false nofun nofun

theorem accepted_plan_ok {library : ExecutorLibrary φ} {payload : JsonValue φ} {summary : ExplainSummary}
    (h : accepted_plan library payload = .ok summary) :
    summary.total_cost.above 1000000 = false ∧ summary.plan_rows ≤ 1000000 := by
  obtain ⟨read, -, h⟩ := except_bind_ok h
  obtain ⟨⟨⟩, hlimits, h⟩ := except_bind_ok h
  cases h
  unfold enforce_plan_limits at hlimits
  split_ifs at hlimits with hcost hrows
  exact ⟨Bool.not_eq_true _ ▸ hcost, not_lt.mp hrows⟩

/-! ## The executor keeps to the protocol -/

section Conduct

variable {library : ExecutorLibrary φ} {sql : String}

theorem execute_all_conducts (sent statements : List String) (h : sent ++ statements = script sql) :
    (execute_all statements : DbCall φ Unit).Conducts (protocol library sql)
      (fun result phase => phase = .ended none ∧ (∃ e, result = .error e) ∨
        phase = .connected (script sql) ∧ result = .ok ()) (.connected sent) := by
  induction statements generalizing sent with
  | nil =>
    rw [List.append_nil] at h
    exact Conducts.done (Or.inr ⟨congrArg _ h, rfl⟩)
  | cons statement statements ih =>
    have hsplit : (sent ++ [statement]) ++ statements = script sql := by rw [← h, List.append_assoc]; rfl
    refine Conducts.ask ⟨statements, hsplit⟩ fun answer _ => ?_
    cases answer with
    | error e => exact Conducts.done (Or.inl ⟨rfl, _, rfl⟩)
    | ok => exact ih _ hsplit

/-- The rows that have been read of the cursor. -/
structure Streamed (library : ExecutorLibrary φ) (columns : List String) (raw_rows : List (List PgValue))
    (rows : List Row) : Prop where
  read : List.Forall₂ (fun raw_row (row : Row) => zip_row columns raw_row = .ok row.items) raw_rows rows
  few : rows.length ≤ MAX_ROWS
  small : (rows.map (row_bytes library)).sum ≤ MAX_BYTES

theorem streamed_nil (columns : List String) : Streamed library columns [] [] :=
  ⟨.nil, Nat.zero_le _, Nat.zero_le _⟩

theorem Streamed.concat {columns : List String} {raw_rows : List (List PgValue)} {rows : List Row}
    (h : Streamed library columns raw_rows rows) {raw_row : List PgValue} {row : Row}
    (hrow : zip_row columns raw_row = .ok row.items) (hfew : rows.length < MAX_ROWS)
    (hsmall : (rows.map (row_bytes library)).sum + row_bytes library row ≤ MAX_BYTES) :
    Streamed library columns (raw_rows ++ [raw_row]) (rows ++ [row]) where
  read := List.rel_append h.read (.cons hrow .nil)
  few := by rw [List.length_append, List.length_singleton]; exact hfew
  small := by rw [List.map_append, List.sum_append, List.map_singleton, List.sum_singleton]; exact hsmall

/-- What the loop over the cursor leaves. -/
def StreamEnds (library : ExecutorLibrary φ) (payload : JsonValue φ) (columns : List String) :
    Except QueryError (List Row) → Phase φ → Prop
  | .ok rows, phase => ∃ raw_rows, phase = .drained payload columns raw_rows ∧ Streamed library columns raw_rows rows
  | .error _, phase => phase = .spoiled ∨ ∃ raw_rows, phase = .streaming payload columns raw_rows

theorem stream_conducts {columns : List String} (unique : columns.Nodup) (payload : JsonValue φ) (room : ℕ)
    {raw_rows : List (List PgValue)} {rows : List Row} (hstreamed : Streamed library columns raw_rows rows)
    (hroom : room + rows.length = MAX_ROWS) :
    (stream library unique room rows (rows.map (row_bytes library)).sum).Conducts (protocol library sql)
      (StreamEnds library payload columns) (.streaming payload columns raw_rows) := by
  induction room generalizing raw_rows rows with
  | zero =>
    unfold stream
    refine Conducts.ask ⟨unique, by rw [hstreamed.read.length_eq]; omega⟩ fun answer _ => ?_
    rcases answer with e | raw_row
    · exact Conducts.done (Or.inl rfl)
    · cases raw_row with
      | none => exact Conducts.done ⟨raw_rows, rfl, hstreamed⟩
      | some raw_row => exact Conducts.done (Or.inr ⟨_, rfl⟩)
  | succ room ih =>
    unfold stream
    refine Conducts.ask ⟨unique, by rw [hstreamed.read.length_eq]; omega⟩ fun answer _ => ?_
    rcases answer with e | raw_row
    · exact Conducts.done (Or.inl rfl)
    · cases raw_row with
      | none => exact Conducts.done ⟨raw_rows, rfl, hstreamed⟩
      | some raw_row =>
        change Conducts _ _ (match row_of unique raw_row with
          | .error e => Flow.done (.error e)
          | .ok row =>
            if MAX_BYTES < (rows.map (row_bytes library)).sum + row_bytes library row then
              .done (.error (SqlResultLimitExceeded "byte_limit" "Query returned more than 5MB"))
            else stream library unique room (rows ++ [row])
              ((rows.map (row_bytes library)).sum + row_bytes library row)) _
        cases hrow : row_of unique raw_row with
        | error e => exact Conducts.done (Or.inr ⟨_, rfl⟩)
        | ok row =>
          dsimp only
          by_cases hbytes : MAX_BYTES < (rows.map (row_bytes library)).sum + row_bytes library row
          · rw [if_pos hbytes]
            exact Conducts.done (Or.inr ⟨_, rfl⟩)
          · rw [if_neg hbytes]
            have hnext := ih (hstreamed.concat (row_of_eq_ok.mp hrow) (by omega) (not_lt.mp hbytes))
              (by rw [List.length_append, List.length_singleton]; omega)
            rw [List.map_append, List.sum_append, List.map_singleton, List.sum_singleton] at hnext
            exact hnext

/-- What the cursor leaves, before it is closed. -/
def CursorEnds (library : ExecutorLibrary φ) (payload : JsonValue φ) :
    Except QueryError (List String × List Row) → Phase φ → Prop
  | .ok (columns, rows), phase => columns.Nodup ∧
      ∃ raw_rows, phase = .drained payload columns raw_rows ∧ Streamed library columns raw_rows rows
  | .error _, phase => phase = .spoiled ∨ ∃ columns raw_rows, phase = .streaming payload columns raw_rows

theorem read_cursor_conducts {payload : JsonValue φ} {summary : ExplainSummary}
    (hplan : accepted_plan library payload = .ok summary) :
    (read_cursor library sql).Conducts (protocol library sql) (CursorEnds library payload) (.explained payload) := by
  refine Conducts.ask ⟨rfl, summary, hplan⟩ fun answer _ => ?_
  rcases answer with e | description
  · exact Conducts.done (Or.inl rfl)
  · cases description with
    | none => exact Conducts.done (Or.inl rfl)
    | some columns =>
      change Conducts _ _ (if unique : columns.Nodup then _ else _) _
      split_ifs with unique
      · have hstreamed : Streamed library columns [] [] := streamed_nil columns
        have hstream : (stream library unique MAX_ROWS [] 0).Conducts (protocol library sql)
            (StreamEnds library payload columns) (.streaming payload columns []) :=
          stream_conducts unique payload MAX_ROWS hstreamed rfl
        refine Conducts.bind (hstream.mono fun result phase hends => ?_)
        cases result with
        | error e =>
          refine Conducts.done (hends.imp_right fun h => ?_)
          obtain ⟨raw_rows, hphase⟩ := h
          exact ⟨columns, raw_rows, hphase⟩
        | ok rows => exact Conducts.done ⟨unique, hends⟩
      · exact Conducts.done (Or.inr ⟨columns, [], rfl⟩)

/-- What the transaction leaves, before it is rolled back. -/
def TransactionEnds (library : ExecutorLibrary φ) (sql : String) : Except QueryError QueryResult → Phase φ → Prop
  | .ok result, phase => ∃ fetched, phase = .ended (some fetched) ∧ Exact library fetched result
  | .error _, phase => phase.allowed library sql .rollback

theorem close_conducts {payload : JsonValue φ} {result : Except QueryError (List String × List Row)} {phase : Phase φ}
    (hends : CursorEnds library payload result phase) : phase.allowed library sql .close_cursor := by
  rcases result with e | ⟨columns, rows⟩
  · rcases hends with rfl | ⟨columns, raw_rows, rfl⟩ <;> trivial
  · obtain ⟨-, raw_rows, rfl, -⟩ := hends
    trivial

theorem exact_of_streamed {payload : JsonValue φ} {summary : ExplainSummary} {columns : List String}
    {raw_rows : List (List PgValue)} {rows : List Row} (hplan : accepted_plan library payload = .ok summary)
    (unique : columns.Nodup) (h : Streamed library columns raw_rows rows) :
    Exact library ⟨payload, columns, raw_rows⟩ ⟨columns, rows, summary⟩ :=
  ⟨rfl, unique, h.read, h.few, h.small, hplan, (accepted_plan_ok hplan).1, (accepted_plan_ok hplan).2⟩

theorem in_transaction_conducts (library : ExecutorLibrary φ) (query : ValidatedQuery) :
    (in_transaction library query).Conducts (protocol library query.sql) (TransactionEnds library query.sql)
      (.connected []) := by
  refine Conducts.bind ((execute_all_conducts [] (script query.sql) rfl).mono fun result phase hends => ?_)
  rcases hends with ⟨rfl, e, rfl⟩ | ⟨rfl, rfl⟩
  · exact Conducts.done trivial
  refine Conducts.ask rfl fun answer _ => ?_
  rcases answer with e | row
  · exact Conducts.done trivial
  cases row with
  | none => exact Conducts.done trivial
  | some payload =>
    change Conducts _ _ (match accepted_plan library payload with
      | .error e => .done (.error e)
      | .ok summary => (with_cursor (read_cursor library query.sql)).bind <| onOk fun read =>
        .done (.ok (⟨read.1, read.2, summary⟩ : QueryResult)) : DbCall φ QueryResult) (Phase.explained payload)
    cases hplan : accepted_plan library payload with
    | error e => exact Conducts.done trivial
    | ok summary =>
      refine Conducts.bind (Conducts.bind ((read_cursor_conducts hplan).mono fun read phase hends => ?_))
      refine Conducts.ask (close_conducts hends) fun answer _ => ?_
      rcases answer with e | ⟨⟩
      · exact Conducts.done (Conducts.done trivial)
      · rcases read with e | ⟨columns, rows⟩
        · exact Conducts.done (Conducts.done trivial)
        · obtain ⟨unique, raw_rows, rfl, hstreamed⟩ := hends
          exact Conducts.done (Conducts.done ⟨_, rfl, exact_of_streamed hplan unique hstreamed⟩)

/-- How a call ends. -/
def Ends (library : ExecutorLibrary φ) : Except QueryError QueryResult → Phase φ → Prop
  | .ok result, phase => ∃ fetched, phase = .closed (some fetched) ∧ Exact library fetched result
  | .error _, phase => phase = .refused ∨ ∃ fetched, phase = .closed fetched

theorem execute_conducts (library : ExecutorLibrary φ) (query : ValidatedQuery) :
    (execute library query).Conducts (protocol library query.sql) (Ends library) .start := by
  refine Conducts.ask trivial fun answer _ => ?_
  rcases answer with (e | e) | ⟨⟩
  · exact Conducts.done (Or.inl rfl)
  · exact Conducts.done (Or.inl rfl)
  refine Conducts.bind ((in_transaction_conducts library query).mono fun result phase hends => ?_)
  have hrollback : phase.allowed library query.sql .rollback := by
    cases result with
    | error e => exact hends
    | ok result =>
      obtain ⟨fetched, rfl, -⟩ := hends
      trivial
  refine Conducts.ask hrollback fun rolled _ => ?_
  refine Conducts.ask (show (Phase.rolled_back phase.fetched).allowed library query.sql .close from trivial) fun
    closed _ => ?_
  rcases closed with e | ⟨⟩
  · exact Conducts.done (Or.inr ⟨_, rfl⟩)
  rcases rolled with e | ⟨⟩
  · exact Conducts.done (Or.inr ⟨_, rfl⟩)
  cases result with
  | error e => exact Conducts.done (Or.inr ⟨_, rfl⟩)
  | ok result =>
    obtain ⟨fetched, rfl, hexact⟩ := hends
    exact Conducts.done ⟨fetched, rfl, hexact⟩

end Conduct

/-! ## What is asked of the database -/

section Trace

variable {library : ExecutorLibrary φ} {sql : String} {log : Log DbOp (DbAns φ)}

/-- All that precedes the query. -/
def opening (sql : String) : List DbOp := .connect :: ((script sql).map .execute ++ [.fetchone])

/-- What was asked on the way to a phase. -/
def Phase.traced (sql : String) : Phase φ → List DbOp → Prop
  | .start, ops => ops = []
  | .connected sent, ops => ops = .connect :: sent.map .execute
  | .explained _, ops => ops = opening sql
  | _, _ => True

theorem traced_after (h : (protocol library sql).Legal .start log) :
    ((protocol library sql).after .start log).traced sql (log.map Event.op) := by
  induction log using List.reverseRecOn with
  | nil => rfl
  | append_singleton log e ih =>
    obtain ⟨hlog, hallowed, -⟩ := Protocol.Legal.at h
    have htraced := ih hlog
    rw [Protocol.after_concat, List.map_append, List.map_singleton]
    generalize (protocol library sql).after .start log = phase at hallowed htraced
    obtain ⟨op, answer⟩ := e
    cases phase with
    | start =>
      cases op <;> try exact hallowed.elim
      rw [show log.map Event.op = [] from htraced]
      rcases answer with e | ⟨⟩
      · trivial
      · rfl
    | connected sent =>
      have hops : log.map Event.op = .connect :: sent.map .execute := htraced
      rw [hops]
      cases op <;> try exact hallowed.elim
      case execute statement =>
        rcases answer with e | ⟨⟩
        · trivial
        · change _ = DbOp.connect :: (sent ++ [statement]).map .execute
          rw [List.map_append]
          rfl
      case fetchone =>
        obtain rfl : sent = script sql := hallowed
        rcases answer with e | row
        · trivial
        · cases row with
          | none => trivial
          | some payload => rfl
      case rollback => trivial
    | explained payload =>
      cases op <;> try exact hallowed.elim
      case declare query =>
        rcases answer with e | description
        · trivial
        · cases description <;> trivial
      case rollback => trivial
    | streaming payload columns rows =>
      cases op <;> try exact hallowed.elim
      case fetch =>
        rcases answer with e | row
        · trivial
        · cases row <;> trivial
      case close_cursor => rcases answer with e | ⟨⟩ <;> trivial
    | drained payload columns rows =>
      cases op <;> try exact hallowed.elim
      rcases answer with e | ⟨⟩ <;> trivial
    | spoiled =>
      cases op <;> try exact hallowed.elim
      rcases answer with e | ⟨⟩ <;> trivial
    | ended fetched =>
      cases op <;> try exact hallowed.elim
      trivial
    | rolled_back fetched =>
      cases op <;> try exact hallowed.elim
      trivial
    | refused => cases op <;> exact hallowed.elim
    | closed fetched => cases op <;> exact hallowed.elim

/-- The query was sent. -/
def Phase.late : Phase φ → Prop
  | .streaming .. => True
  | .drained .. => True
  | .spoiled => True
  | .ended _ => True
  | .rolled_back _ => True
  | .closed _ => True
  | _ => False

theorem late_step (phase : Phase φ) (op : DbOp) (answer : DbAns φ op) (hlate : phase.late)
    (hallowed : phase.allowed library sql op) :
    op ∈ [DbOp.fetch, .close_cursor, .rollback, .close] ∧ (phase.next op answer).late := by
  cases phase <;> cases op <;> try first | exact hlate.elim | exact hallowed.elim
  all_goals refine ⟨by decide, ?_⟩
  case streaming.fetch =>
    rcases answer with e | row
    · trivial
    · cases row <;> trivial
  case ended.rollback => trivial
  case rolled_back.close => trivial
  all_goals rcases answer with e | ⟨⟩ <;> trivial

theorem script_step (phase : Phase φ) (op : DbOp) (answer : DbAns φ op) (hallowed : phase.allowed library sql op) :
    ∀ statement, op = .execute statement → statement ∈ script sql := by
  rintro statement rfl
  cases phase <;> try exact hallowed.elim
  exact hallowed.subset (List.mem_append_right _ List.mem_cons_self)

theorem declare_step (phase : Phase φ) (query : String) (hallowed : phase.allowed library sql (.declare query)) :
    query = sql ∧ ∃ payload summary, phase = .explained payload ∧ accepted_plan library payload = .ok summary := by
  cases phase <;> try exact hallowed.elim
  obtain ⟨hquery, summary, hplan⟩ := hallowed
  exact ⟨hquery, _, summary, rfl, hplan⟩

theorem explained_step {phase : Phase φ} {op : DbOp} {answer : DbAns φ op} {payload : JsonValue φ}
    (hallowed : phase.allowed library sql op) (h : phase.next op answer = .explained payload) :
    (⟨op, answer⟩ : Event DbOp (DbAns φ)) = ⟨.fetchone, .ok (some payload)⟩ := by
  cases phase <;> cases op <;> try exact hallowed.elim
  case connected.fetchone =>
    rcases answer with e | row
    · cases h
    · cases row <;> cases h
      rfl
  case streaming.fetch =>
    rcases answer with e | row
    · cases h
    · cases row <;> cases h
  case explained.declare =>
    rcases answer with e | description
    · cases h
    · cases description <;> cases h
  all_goals rcases answer with e | ⟨⟩ <;> cases h

/-- The operation that alone leads to a phase. -/
def Phase.made : Phase φ → Option DbOp
  | .refused => some .connect
  | .rolled_back _ => some .rollback
  | .closed _ => some .close
  | _ => none

theorem made_step (phase : Phase φ) (op : DbOp) (answer : DbAns φ op) (hallowed : phase.allowed library sql op)
    {made : DbOp} (h : (phase.next op answer).made = some made) : op = made := by
  cases phase <;> cases op <;> try exact hallowed.elim
  case rolled_back.close => exact Option.some.inj h
  case ended.rollback => exact Option.some.inj h
  case explained.rollback => exact Option.some.inj h
  case connected.rollback => exact Option.some.inj h
  case streaming.fetch =>
    rcases answer with e | row
    · cases h
    · cases row <;> cases h
  case connected.fetchone =>
    rcases answer with e | row
    · cases h
    · cases row <;> cases h
  case explained.declare =>
    rcases answer with e | description
    · cases h
    · cases description <;> cases h
  all_goals rcases answer with e | ⟨⟩ <;> first | exact Option.some.inj h | cases h

theorem close_allowed {phase : Phase φ} (h : phase.allowed library sql .close) :
    ∃ fetched, phase = .rolled_back fetched := by
  cases phase <;> try exact h.elim
  exact ⟨_, rfl⟩

theorem connect_allowed {phase : Phase φ} (h : phase.allowed library sql .connect) : phase = .start := by
  cases phase <;> try exact h.elim
  rfl

theorem last_event {phase : Phase φ} (h : (protocol library sql).Legal .start log)
    (hphase : (protocol library sql).after .start log = phase) (hstart : phase ≠ .start) :
    ∃ front op answer, log = front ++ [⟨op, answer⟩] ∧ (protocol library sql).Legal .start front ∧
      ((protocol library sql).after .start front).allowed library sql op ∧
      ((protocol library sql).after .start front).next op answer = phase := by
  rcases List.eq_nil_or_concat log with rfl | ⟨front, ⟨op, answer⟩, rfl⟩
  · exact absurd hphase.symm hstart
  · rw [List.concat_eq_append] at h hphase ⊢
    obtain ⟨hfront, hallowed, -⟩ := Protocol.Legal.at h
    rw [Protocol.after_concat] at hphase
    exact ⟨front, op, answer, rfl, hfront, hallowed, hphase⟩

theorem closed_log {fetched : Option (Fetched φ)} (h : (protocol library sql).Legal .start log)
    (hclosed : (protocol library sql).after .start log = .closed fetched) :
    ∃ body rolled closed, log = body ++ [⟨.rollback, rolled⟩, ⟨.close, closed⟩] := by
  obtain ⟨front, op, closed, rfl, hfront, hallowed, hnext⟩ := last_event h hclosed nofun
  obtain rfl : op = .close := made_step _ op closed hallowed (congrArg Phase.made hnext)
  obtain ⟨fetched', hrolled⟩ := close_allowed hallowed
  obtain ⟨body, op, rolled, rfl, hbody, hallowed, hnext⟩ := last_event hfront hrolled nofun
  obtain rfl : op = .rollback := made_step _ op rolled hallowed (congrArg Phase.made hnext)
  exact ⟨body, rolled, closed, by rw [List.append_assoc]; rfl⟩

theorem refused_log (h : (protocol library sql).Legal .start log)
    (hrefused : (protocol library sql).after .start log = .refused) : ∃ e, log = [⟨.connect, .error e⟩] := by
  obtain ⟨front, op, answer, rfl, hfront, hallowed, hnext⟩ := last_event h hrefused nofun
  obtain rfl : op = .connect := made_step _ op answer hallowed (congrArg Phase.made hnext)
  have htraced := traced_after hfront
  rw [connect_allowed hallowed] at htraced
  obtain rfl : front = [] := List.map_eq_nil_iff.mp htraced
  rcases answer with e | ⟨⟩
  · exact ⟨e, rfl⟩
  · cases hnext

/-- **What a query asks of the database.** -/
structure Guarded (library : ExecutorLibrary φ) (sql : String) (log : Log DbOp (DbAns φ)) : Prop where
  /-- Nothing is executed but the opening of a read-only transaction with its limits, and the plan of the query. -/
  statements : ∀ e ∈ log, ∀ statement, e.op = .execute statement → statement ∈ script sql
  /-- The query is sent behind all of them and a plan that is accepted, and nothing behind it but what reads, rolls back
  and closes. -/
  query : ∀ front query answer back, log = front ++ ⟨.declare query, answer⟩ :: back →
    query = sql ∧ front.map Event.op = opening sql ∧
      (∃ before payload summary, front = before ++ [⟨.fetchone, .ok (some payload)⟩] ∧
        accepted_plan library payload = .ok summary) ∧
      ∀ e ∈ back, e.op ∈ [DbOp.fetch, .close_cursor, .rollback, .close]

theorem guarded_of_legal (h : (protocol library sql).Legal .start log) : Guarded library sql log where
  statements := h.forall (fun _ => True) trivial fun phase op answer _ hallowed =>
    ⟨script_step phase op answer hallowed, trivial⟩
  query := by
    rintro front query answer back rfl
    obtain ⟨hfront, hallowed, hback⟩ := Protocol.Legal.at h
    obtain ⟨rfl, payload, summary, hphase, hplan⟩ := declare_step _ query hallowed
    obtain ⟨before, op, fetched, hbefore, -, hexplains, hnext⟩ := last_event hfront hphase nofun
    have htraced := traced_after hfront
    rw [hphase] at htraced hback
    refine ⟨rfl, htraced, ⟨before, payload, summary, ?_, hplan⟩, hback.forall Phase.late ?_ late_step⟩
    · rw [hbefore, explained_step hexplains hnext]
    rcases answer with e | description
    · trivial
    · cases description <;> trivial

/-- **The executor.** Whatever the database answers, the query is sent once at most, inside the read-only transaction and
behind its accepted plan; a connection that was made is rolled back and closed; and a result has exactly the rows of the
cursor, within the limits. -/
theorem execute_guarded (library : ExecutorLibrary φ) (query : ValidatedQuery) (env : Env DbOp (DbAns φ)) :
    Guarded library query.sql ((execute library query).play env []).2 ∧
      (((∃ e, ((execute library query).play env []).1 = .error e) ∧
        ∃ e, ((execute library query).play env []).2 = [⟨.connect, .error e⟩]) ∨
      ∃ body rolled closed,
        ((execute library query).play env []).2 = body ++ [⟨.rollback, rolled⟩, ⟨.close, closed⟩]) ∧
      ∀ result, ((execute library query).play env []).1 = .ok result → ∃ fetched, Exact library fetched result ∧
        (protocol library query.sql).after .start ((execute library query).play env []).2 = .closed (some fetched) := by
  have henv : ∀ log op, (protocol library query.sql).ok op (env log op) := fun _ _ => trivial
  obtain ⟨log, hlog, hlegal, hends⟩ := (execute_conducts library query).play henv []
  rw [List.nil_append] at hlog
  rw [hlog]
  refine ⟨guarded_of_legal hlegal, ?_, fun result hresult => ?_⟩
  · cases hresult : ((execute library query).play env []).1 with
    | ok result =>
      rw [hresult] at hends
      obtain ⟨fetched, hclosed, -⟩ := hends
      exact Or.inr (closed_log hlegal hclosed)
    | error e =>
      rw [hresult] at hends
      rcases hends with hrefused | ⟨fetched, hclosed⟩
      · exact Or.inl ⟨⟨e, rfl⟩, refused_log hlegal hrefused⟩
      · exact Or.inr (closed_log hlegal hclosed)
  · rw [hresult] at hends
    obtain ⟨fetched, hclosed, hexact⟩ := hends
    exact ⟨fetched, hexact, hclosed⟩

end Trace

/-- **The engine.** A statement that the policy rejects is not sent in any part, and one that it accepts is run by the
executor as it was written. -/
theorem engine_execute_guarded (sqlglot : Sqlglot) (library : ExecutorLibrary φ) (sql : String)
    (env : Env DbOp (DbAns φ)) :
    (∃ rejected, validate sqlglot sql = .error rejected ∧
      (engine_execute sqlglot library sql).play env [] = (.error (.rejected rejected), [])) ∨
    ∃ query, validate sqlglot sql = .ok query ∧
      Guarded library sql ((engine_execute sqlglot library sql).play env []).2 ∧
      (((∃ e, ((engine_execute sqlglot library sql).play env []).1 = .error e) ∧
        ∃ e, ((engine_execute sqlglot library sql).play env []).2 = [⟨.connect, .error e⟩]) ∨
      ∃ body rolled closed,
        ((engine_execute sqlglot library sql).play env []).2 = body ++ [⟨.rollback, rolled⟩, ⟨.close, closed⟩]) ∧
      ∀ result, ((engine_execute sqlglot library sql).play env []).1 = .ok result →
        ∃ fetched, Exact library fetched result ∧
          (protocol library sql).after .start ((engine_execute sqlglot library sql).play env []).2 =
            .closed (some fetched) := by
  unfold engine_execute
  cases hvalidate : validate sqlglot sql with
  | error rejected => exact Or.inl ⟨rejected, rfl, rfl⟩
  | ok query =>
    obtain ⟨-, -, -, hsql⟩ := validate_ok hvalidate
    have hguarded := execute_guarded library query env
    rw [hsql] at hguarded
    exact Or.inr ⟨query, rfl, hguarded⟩

end CommerceAgent.QueryEngine
