import OpenframeAdapters.Db.Rows

/-!
# The Oracle repository

`OracleRepository` of `db/oracle/repository.py`.

## The model

The state that the operations share is the entry of `_pool_cache`. The values `V` of the columns
and what the subclass maps entities with are parameters (`Mapping`). A row of a cursor is a tuple,
which the names in `cur.description` make a `dict` of. `async with conn.cursor()` stands as two
calls, although neither of them waits for the server.
-/

namespace OpenframeAdapters.Db.Oracle

open Python OpenframeAdapters.Core

open Postgres (Table Param)

/-- How entities are mapped to rows and back. -/
structure Mapping (V T : Type) where
  /-- `_row_to_entity`. -/
  rowToEntity : Dict String V → T
  /-- `_entity_to_row`. -/
  entityToRow : T → Dict String V
  /-- `int(count_row[0])`. -/
  countOf : List V → Except PyExc ℤ

/-- What a cursor holds after a statement. -/
structure Cursor where
  /-- `cur.rowcount`. -/
  rowcount : ℤ
  /-- The names in `cur.description`. -/
  description : List String

/-- A call of `oracledb`. The pool, the connection or the cursor comes first. -/
inductive Command (V : Type) where
  /-- `pool.acquire()`. -/
  | acquire (pool : ℕ)
  /-- `pool.release(conn)`. -/
  | release (conn : ℕ)
  /-- Entering `conn.cursor()`. -/
  | cursor (conn : ℕ)
  /-- Leaving `conn.cursor()`. -/
  | closeCursor (cur : ℕ)
  /-- `cur.execute(query, args)`. -/
  | execute (cur : ℕ) (query : String) (args : List (Param V))
  /-- `cur.fetchone()`. -/
  | fetchone (cur : ℕ)
  /-- `cur.fetchall()`. -/
  | fetchall (cur : ℕ)
  /-- `conn.commit()`. -/
  | commit (conn : ℕ)

/-- The calls and their replies. -/
abbrev commands (V : Type) : Driver where
  Call := Command V
  Reply
    | .acquire _ | .cursor _ => ℕ
    | .execute .. => Cursor
    | .fetchone _ => Option (List V)
    | .fetchall _ => List (List V)
    | .release _ | .closeCursor _ | .commit _ => Unit

/-- The calls of the adapter. -/
abbrev driver (V : Type) : Driver := connecting (String × ℤ × ℤ × ℤ × ℤ) (commands V)

/-- Await a call. -/
def send {V : Type} (q : Command V) : Operation (driver V) (Option ℕ) ((commands V).Reply q) :=
  command (C := commands V) q

/-- `_CONNECTION_ORA_CODES`. -/
def connectionOraCodes : List String :=
  ["ORA-00022", "ORA-00378", "ORA-00600", "ORA-00602", "ORA-00603", "ORA-00604", "ORA-00609",
    "ORA-01012", "ORA-01013", "ORA-01033", "ORA-01034", "ORA-01041", "ORA-01043", "ORA-01089",
    "ORA-01090", "ORA-01092", "ORA-03111", "ORA-03113", "ORA-03114", "ORA-03122", "ORA-03135",
    "ORA-12153", "ORA-12203", "ORA-12500", "ORA-12571", "ORA-27146", "ORA-28511", "ORA-01115",
    "ORA-12514", "ORA-12757", "ORA-16456", "ORA-12541", "ORA-12154", "ORA-12170", "ORA-12537"]

/-- The `full_code` of an exception is connection-class. The text of an exception begins with it,
and a colon. -/
def connectionCode (exc : PyExc) : Bool :=
  let fullCode := String.ofList (exc.text.toList.takeWhile (· ≠ ':'))
  exc.isa .oracleError && ("DPY-6".isPrefixOf fullCode || connectionOraCodes.contains fullCode)

/-- `_wrap_oracledb(exc, operation)`. -/
def wrapOracledb (exc : PyExc) (operation : String) : AdapterError :=
  if exc.isa .osError then ⟨.connection, operation, some exc⟩
  else if connectionCode exc || exc.isAny [.oracleOperationalError, .oracleInterfaceError] then
    ⟨.connection, operation, some exc⟩
  else ⟨.query, operation, some exc⟩

/-- The `except` clauses around the calls of an operation. -/
def commandErrors (operation : String) : Clauses Cls AdapterError :=
  [([.timeoutError], fun exc => ⟨.timeout, operation, some exc⟩),
    ([.oracleDatabaseError, .oracleInterfaceError, .osError],
      fun exc => wrapOracledb exc operation)]

/-! ### Statements -/

/-- `f":{i}"`, for `i` from `1` to `n`. -/
def placeholders (n : ℕ) : List String := (List.range n).map fun i => s!":{i + 1}"

/-- The statement of `get()`, and the re-reading statement of `create()` and `update()`. -/
def getQuery (t : Table) : String := s!"SELECT * FROM {t.name} WHERE {t.idColumn} = :1"

/-- The first statement of `list()`. -/
def rowsQuery (t : Table) : String :=
  s!"SELECT * FROM {t.name} ORDER BY {t.idColumn} OFFSET :1 ROWS FETCH NEXT :2 ROWS ONLY"

/-- The second statement of `list()`. -/
def countQuery (t : Table) : String := s!"SELECT COUNT(*) FROM {t.name}"

/-- The statement of `create()`. -/
def insertQuery (t : Table) (columns : List String) : String :=
  let colList := ", ".intercalate columns
  let values := ", ".intercalate (placeholders columns.length)
  s!"INSERT INTO {t.name} ({colList}) VALUES ({values})"

/-- The statement of `update()`. -/
def updateQuery (t : Table) (columns : List String) : String :=
  let setClause := ", ".intercalate (columns.zipWith (fun col p => s!"{col} = {p}")
    (placeholders columns.length))
  s!"UPDATE {t.name} SET {setClause} WHERE {t.idColumn} = :{columns.length + 1}"

/-- The statement of `delete()`. -/
def deleteQuery (t : Table) : String := s!"DELETE FROM {t.name} WHERE {t.idColumn} = :1"

/-! ### Operations -/

section Operations

variable {V T α : Type} (settings : OracleSettings) (mapping : Mapping V T) (t : Table)

/-- `get_oracle_pool(self._settings)`. -/
def getPool : Operation (driver V) (Option ℕ) ℕ :=
  getOraclePool.getClient settings id fun c _ => some c

/-- `conn = await pool.acquire()`, and a `finally` block that releases it. -/
def withConnection (pool : ℕ) (body : ℕ → Operation (driver V) (Option ℕ) α) :
    Operation (driver V) (Option ℕ) α := do
  let conn : ℕ ← send (.acquire pool)
  Coro.tryFinally (body conn) (send (.release conn))

/-- `async with conn.cursor() as cur`. -/
def withCursor (conn : ℕ) (body : ℕ → Operation (driver V) (Option ℕ) α) :
    Operation (driver V) (Option ℕ) α := do
  let cur : ℕ ← send (.cursor conn)
  Coro.tryFinally (body cur) (send (.closeCursor cur))

/-- `_cursor_row_to_dict(cursor, row)`. -/
def cursorRowToDict (cur : Cursor) (row : List V) : Dict String V :=
  Dict.ofPairs (cur.description.zip row)

/-- `get(entity_id)`. -/
def get (id : String) : Operation (driver V) (Option ℕ) (Option T) := do
  let pool ← getPool settings
  let row : Option (Dict String V) ← tryExcept (commandErrors "get") do
    withConnection pool fun conn => withCursor conn fun cur => do
      let done : Cursor ← send (.execute cur (getQuery t) [.str id])
      let row : Option (List V) ← send (.fetchone cur)
      return row.map (cursorRowToDict done)
  return row.map mapping.rowToEntity

/-- `list(limit, offset)`. -/
def list (limit offset : ℤ) : Operation (driver V) (Option ℕ) (List T × ℤ) := do
  let pool ← getPool settings
  tryExcept (commandErrors "list") do
    withConnection pool fun conn => withCursor conn fun cur => do
      let done : Cursor ← send (.execute cur (rowsQuery t) [.int offset, .int limit])
      let rows : List (List V) ← send (.fetchall cur)
      let entities := rows.map fun row => mapping.rowToEntity (cursorRowToDict done row)
      let _ ← send (.execute cur (countQuery t) [])
      match ← send (.fetchone cur) with
      | none => return (entities, 0)
      | some countRow => return (entities, ← eval (mapping.countOf countRow))

/-- `create(entity)`. -/
def create (entity : T) : Operation (driver V) (Option ℕ) T := do
  let pool ← getPool settings
  let rowDict := mapping.entityToRow entity
  let stored : Dict String V ← tryExcept (commandErrors "create") do
    withConnection pool fun conn => do
      let stored : Dict String V ← withCursor conn fun cur => do
        let _ ← send (.execute cur (insertQuery t (columns rowDict)) (values rowDict))
        let done : Cursor ← send (.execute cur (getQuery t) [entityId t rowDict])
        let row : Option (List V) ← send (.fetchone cur)
        return (row.map (cursorRowToDict done)).getD rowDict
      send (.commit conn)
      return stored
  return mapping.rowToEntity stored

/-- `update(entity)`. -/
def update (entity : T) : Operation (driver V) (Option ℕ) (Option T) := do
  let pool ← getPool settings
  let rowDict := mapping.entityToRow entity
  let cols := updateCols t rowDict
  if cols.isEmpty then
    fail ⟨.query, "update", none⟩
  let stored : Option (Dict String V) ← tryExcept (commandErrors "update") do
    withConnection pool fun conn => do
      -- `none` is the `return None` out of the cursor's block
      let found : Option (Option (Dict String V)) ← withCursor conn fun cur => do
        let done : Cursor ← send (.execute cur (updateQuery t (cols.map Prod.fst))
          (updateValues t rowDict))
        if done.rowcount = 0 then
          send (.commit conn)
          return none
        else
          let done : Cursor ← send (.execute cur (getQuery t) [entityId t rowDict])
          let row : Option (List V) ← send (.fetchone cur)
          return some (row.map (cursorRowToDict done))
      match found with
      | none => return none
      | some stored =>
        send (.commit conn)
        return stored
  return stored.map mapping.rowToEntity

/-- `delete(entity_id)`. -/
def delete (id : String) : Operation (driver V) (Option ℕ) Bool := do
  let pool ← getPool settings
  tryExcept (commandErrors "delete") do
    withConnection pool fun conn => do
      let deleted : Bool ← withCursor conn fun cur => do
        let done : Cursor ← send (.execute cur (deleteQuery t) [.str id])
        return 0 < done.rowcount
      send (.commit conn)
      return deleted

/-- `OracleRepository`. -/
def repository : BaseRepository (driver V) (Option ℕ) T where
  get := Oracle.get settings mapping t
  list := Oracle.list settings mapping t
  create := Oracle.create settings mapping t
  update := Oracle.update settings mapping t
  delete := Oracle.delete settings t

end Operations

end OpenframeAdapters.Db.Oracle
