import OpenframeAdapters.Db.Rows

/-!
# The MySQL and the MariaDB repository

`MySQLRepository` of `db/mysql/repository.py`. `MariadbRepository` of `db/mariadb/repository.py` is
the same code with the names changed, and the factory `get_mariadb_pool` the same as well.

## The model

The state that the operations share is the entry of `_pool_cache`. Rows `R`, the values `V` of
their columns and what the subclass maps entities with are parameters (`Mapping`). The base
`_row_to_entity` returns the row as it is, also the `None` of a `fetchone` without a row. An
`async with` awaits twice, when it is entered and when it is left.
-/

namespace OpenframeAdapters.Db.Mysql

open Python OpenframeAdapters.Core

open Postgres (Table Param)

/-- How entities are mapped to rows and back. -/
structure Mapping (R V T : Type) where
  /-- `_row_to_entity`, of what `fetchone` has returned. -/
  rowToEntity : Option R → Except PyExc T
  /-- `_entity_to_row`. -/
  entityToRow : T → Dict String V
  /-- `count_row["count"]`. -/
  countOf : R → ℤ

/-- What a cursor holds after a statement. -/
structure Cursor where
  /-- `cur.rowcount`. -/
  rowcount : ℤ
  /-- `cur.lastrowid`. -/
  lastrowid : ℤ

/-- A call of `aiomysql`. The pool, the connection or the cursor comes first. -/
inductive Command (V : Type) where
  /-- Entering `pool.acquire()`. -/
  | acquire (pool : ℕ)
  /-- Leaving `pool.acquire()`: `pool.release(conn)`. -/
  | release (conn : ℕ)
  /-- Entering `conn.cursor(…)`. -/
  | cursor (conn : ℕ)
  /-- Leaving `conn.cursor(…)`: `cur.close()`. -/
  | closeCursor (cur : ℕ)
  /-- `cur.execute(query, args)`. -/
  | execute (cur : ℕ) (query : String) (args : List (Param V))
  /-- `cur.fetchone()`. -/
  | fetchone (cur : ℕ)
  /-- `cur.fetchall()`. -/
  | fetchall (cur : ℕ)
  /-- `conn.commit()`. -/
  | commit (conn : ℕ)

/-- The calls and their replies. -/
abbrev commands (R V : Type) : Driver where
  Call := Command V
  Reply
    | .acquire _ | .cursor _ => ℕ
    | .execute .. => Cursor
    | .fetchone _ => Option R
    | .fetchall _ => List R
    | .release _ | .closeCursor _ | .commit _ => Unit

/-- The calls of the adapter. -/
abbrev driver (F R V : Type) : Driver := connecting (ℤ × ℤ × F × F × String) (commands R V)

/-- Await a call. -/
def send {F R V : Type} (q : Command V) :
    Operation (driver F R V) (Option ℕ) ((commands R V).Reply q) :=
  command (C := commands R V) q

/-- `_wrap_pymysql(exc, operation)`. The codes are `_CONNECTION_ERROR_CODES`. -/
def wrapPymysql (exc : PyExc) (operation : String) : AdapterError :=
  if exc.isa .mysqlOperationalError then
    if exc.code.any (· ∈ [2002, 2003, 2006, 2013]) then ⟨.connection, operation, some exc⟩
    else ⟨.query, operation, some exc⟩
  else if exc.isa .mysqlInterfaceError then ⟨.connection, operation, some exc⟩
  else ⟨.query, operation, some exc⟩

/-- The `except` clauses around the calls of an operation. -/
def commandErrors (operation : String) : Clauses Cls AdapterError :=
  [([.timeoutError], fun exc => ⟨.timeout, operation, some exc⟩),
    ([.mysqlError], fun exc => wrapPymysql exc operation)]

/-! ### Statements -/

/-- The statement of `get()`, and the re-reading statement of `create()` and `update()`. -/
def getQuery (t : Table) : String := s!"SELECT * FROM {t.name} WHERE {t.idColumn} = %s LIMIT 1"

/-- The first statement of `list()`. -/
def rowsQuery (t : Table) : String :=
  s!"SELECT * FROM {t.name} ORDER BY {t.idColumn} LIMIT %s OFFSET %s"

/-- The second statement of `list()`. -/
def countQuery (t : Table) : String := s!"SELECT COUNT(*) AS count FROM {t.name}"

/-- The statement of `create()`. -/
def insertQuery (t : Table) (columns : List String) : String :=
  let placeholders := ", ".intercalate (List.replicate columns.length "%s")
  let colList := ", ".intercalate columns
  s!"INSERT INTO {t.name} ({colList}) VALUES ({placeholders})"

/-- The statement of `update()`. -/
def updateQuery (t : Table) (columns : List String) : String :=
  let setClause := ", ".intercalate (columns.map fun col => s!"{col} = %s")
  s!"UPDATE {t.name} SET {setClause} WHERE {t.idColumn} = %s"

/-- The statement of `delete()`. -/
def deleteQuery (t : Table) : String := s!"DELETE FROM {t.name} WHERE {t.idColumn} = %s"

/-! ### Operations -/

section Operations

variable {F R V T α : Type} (settings : MySQLSettings F) (mapping : Mapping R V T) (t : Table)

/-- `get_mysql_pool(self._settings)`. -/
def getPool : Operation (driver F R V) (Option ℕ) ℕ :=
  (getMysqlPool F).getClient settings id fun c _ => some c

/-- `async with pool.acquire() as conn`. -/
def withConnection (pool : ℕ) (body : ℕ → Operation (driver F R V) (Option ℕ) α) :
    Operation (driver F R V) (Option ℕ) α := do
  let conn : ℕ ← send (.acquire pool)
  Coro.tryFinally (body conn) (send (.release conn))

/-- `async with conn.cursor(aiomysql.DictCursor) as cur`. -/
def withCursor (conn : ℕ) (body : ℕ → Operation (driver F R V) (Option ℕ) α) :
    Operation (driver F R V) (Option ℕ) α := do
  let cur : ℕ ← send (.cursor conn)
  Coro.tryFinally (body cur) (send (.closeCursor cur))

/-- `get(entity_id)`. -/
def get (id : String) : Operation (driver F R V) (Option ℕ) (Option T) := do
  let pool ← getPool settings
  let row : Option R ← tryExcept (commandErrors "get") do
    withConnection pool fun conn => withCursor conn fun cur => do
      let _ ← send (.execute cur (getQuery t) [.str id])
      send (.fetchone cur)
  match row with
  | none => return none
  | some row => return some (← eval (mapping.rowToEntity (some row)))

/-- `list(limit, offset)`. -/
def list (limit offset : ℤ) : Operation (driver F R V) (Option ℕ) (List T × ℤ) := do
  let pool ← getPool settings
  let (rows, count) ← tryExcept (commandErrors "list") do
    withConnection pool fun conn => withCursor conn fun cur => do
      let _ ← send (.execute cur (rowsQuery t) [.int limit, .int offset])
      let rows : List R ← send (.fetchall cur)
      let _ ← send (.execute cur (countQuery t) [])
      let countRow : Option R ← send (.fetchone cur)
      return (rows, (countRow.map mapping.countOf).getD 0)
  let entities ← eval (rows.mapM fun row => mapping.rowToEntity (some row))
  return (entities, count)

/-- `create(entity)`. -/
def create (entity : T) : Operation (driver F R V) (Option ℕ) T := do
  let pool ← getPool settings
  let rowDict := mapping.entityToRow entity
  let row : Option R ← tryExcept (commandErrors "create") do
    withConnection pool fun conn => do
      let row : Option R ← withCursor conn fun cur => do
        let done : Cursor ← send (.execute cur (insertQuery t (columns rowDict)) (values rowDict))
        -- `row_dict.get(self._id_column, cur.lastrowid)`
        let entityId := ((rowDict.get? t.idColumn).map .value).getD (.int done.lastrowid)
        let _ ← send (.execute cur (getQuery t) [entityId])
        send (.fetchone cur)
      send (.commit conn)
      return row
  eval (mapping.rowToEntity row)

/-- `update(entity)`. -/
def update (entity : T) : Operation (driver F R V) (Option ℕ) (Option T) := do
  let pool ← getPool settings
  let rowDict := mapping.entityToRow entity
  let cols := updateCols t rowDict
  if cols.isEmpty then
    fail ⟨.query, "update", none⟩
  let row : Option R ← tryExcept (commandErrors "update") do
    withConnection pool fun conn => do
      let row : Option R ← withCursor conn fun cur => do
        let done : Cursor ← send (.execute cur (updateQuery t (cols.map Prod.fst))
          (updateValues t rowDict))
        if done.rowcount ≠ 0 then
          let _ ← send (.execute cur (getQuery t) [entityId t rowDict])
          send (.fetchone cur)
        else
          return none
      send (.commit conn)
      return row
  match row with
  | none => return none
  | some row => return some (← eval (mapping.rowToEntity (some row)))

/-- `delete(entity_id)`. -/
def delete (id : String) : Operation (driver F R V) (Option ℕ) Bool := do
  let pool ← getPool settings
  let deleted : ℤ ← tryExcept (commandErrors "delete") do
    withConnection pool fun conn => do
      let deleted : ℤ ← withCursor conn fun cur => do
        let done : Cursor ← send (.execute cur (deleteQuery t) [.str id])
        return done.rowcount
      send (.commit conn)
      return deleted
  return deleted = 1

/-- `MySQLRepository`. -/
def repository : BaseRepository (driver F R V) (Option ℕ) T where
  get := Mysql.get settings mapping t
  list := Mysql.list settings mapping t
  create := Mysql.create settings mapping t
  update := Mysql.update settings mapping t
  delete := Mysql.delete settings t

/-- `MariadbRepository`. -/
def mariadbRepository : BaseRepository (driver F R V) (Option ℕ) T :=
  repository settings mapping t

end Operations

end OpenframeAdapters.Db.Mysql
