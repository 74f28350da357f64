import OpenframeAdapters.Db.Factories
import OpenframeAdapters.Db.Repository
import OpenframeAdapters.Python.Dict

/-!
# The Postgres and the CockroachDB repository

`PostgresRepository` of `db/postgres/repository.py`, and `CockroachdbRepository` of
`db/cockroachdb/repository.py`. Entities are the rows of one table, addressed by one column.

## The model

The state that the operations share is the entry of `_pool_cache`. Rows `R`, the values `V`
of their columns and what the subclass maps entities with are parameters (`Mapping`). The
base `_row_to_entity` is `dict(row)`, which raises `TypeError` for the `None` of a
`fetchrow` without a row.
-/

namespace OpenframeAdapters.Db.Postgres

open Python OpenframeAdapters.Core

/-- The table of a repository. -/
structure Table where
  /-- `_table`. -/
  name : String
  /-- `_id_column`. -/
  idColumn : String

/-- How entities are mapped to rows and back. -/
structure Mapping (R V T : Type) where
  /-- `_row_to_entity`. -/
  rowToEntity : R → T
  /-- `_entity_to_row`. -/
  entityToRow : T → Dict String V

/-- A value that is bound to a placeholder. -/
inductive Param (V : Type) where
  /-- A string. -/
  | str (s : String)
  /-- An integer. -/
  | int (n : ℤ)
  /-- A value of a row. -/
  | value (v : V)
  /-- `None`. -/
  | null
  deriving DecidableEq

/-- A call of `asyncpg`. The pool or the connection comes first. -/
inductive Command (V : Type) where
  /-- `pool.fetchrow(query, *args)`. -/
  | fetchrow (pool : ℕ) (query : String) (args : List (Param V))
  /-- Entering `pool.acquire()`. -/
  | acquire (pool : ℕ)
  /-- `conn.fetch(query, *args)`. -/
  | fetch (conn : ℕ) (query : String) (args : List (Param V))
  /-- `conn.fetchval(query)`. -/
  | fetchval (conn : ℕ) (query : String)
  /-- Leaving `pool.acquire()`. -/
  | release (conn : ℕ)
  /-- `pool.execute(query, *args)`. -/
  | execute (pool : ℕ) (query : String) (args : List (Param V))

/-- The calls and their replies. -/
abbrev commands (R V : Type) : Driver where
  Call := Command V
  Reply
    | .fetchrow .. => Option R
    | .acquire _ => ℕ
    | .fetch .. => List R
    | .fetchval .. => ℤ
    | .release _ => Unit
    | .execute .. => String

/-- The calls of the adapter. -/
abbrev driver (F R V : Type) : Driver := connecting (String × ℤ × ℤ × F × F × ℤ) (commands R V)

/-- Await a call. -/
def send {F R V : Type} (q : Command V) :
    Operation (driver F R V) (Option ℕ) ((commands R V).Reply q) :=
  command (C := commands R V) q

/-- `_CONNECTION_ERRORS`. -/
def connectionErrors : List Cls :=
  [.connectionDoesNotExistError, .connectionFailureError, .postgresInterfaceError,
    .tooManyConnectionsError]

/-- `_wrap_asyncpg(exc, operation)`. -/
def wrapAsyncpg (exc : PyExc) (operation : String) : AdapterError :=
  if exc.isAny connectionErrors then ⟨.connection, operation, some exc⟩
  else ⟨.query, operation, some exc⟩

/-- The `except` clauses around the calls of an operation. -/
def commandErrors (operation : String) : Clauses Cls AdapterError :=
  [([.timeoutError], fun exc => ⟨.timeout, operation, some exc⟩),
    ([.postgresError, .postgresInterfaceError], fun exc => wrapAsyncpg exc operation)]

/-! ### Queries -/

/-- `f"${i}"`, for `i` from `1` to `n`. -/
def placeholders (n : ℕ) : List String := (List.range n).map fun i => s!"${i + 1}"

/-- The query of `get()`. -/
def getQuery (t : Table) : String := s!"SELECT * FROM {t.name} WHERE {t.idColumn} = $1 LIMIT 1"

/-- The first query of `list()`. -/
def rowsQuery (t : Table) : String :=
  s!"SELECT * FROM {t.name} ORDER BY {t.idColumn} LIMIT $1 OFFSET $2"

/-- The second query of `list()`. -/
def countQuery (t : Table) : String := s!"SELECT COUNT(*) FROM {t.name}"

/-- The query of `create()`. -/
def insertQuery (t : Table) (columns : List String) : String :=
  let colList := ", ".intercalate columns
  let values := ", ".intercalate (placeholders columns.length)
  s!"INSERT INTO {t.name} ({colList}) VALUES ({values}) RETURNING *"

/-- The query of `update()`. -/
def updateQuery (t : Table) (columns : List String) : String :=
  let setClause := ", ".intercalate (columns.zipWith (fun col p => s!"{col} = {p}")
    (placeholders columns.length))
  s!"UPDATE {t.name} SET {setClause} WHERE {t.idColumn} = ${columns.length + 1} RETURNING *"

/-- The query of `delete()`. -/
def deleteQuery (t : Table) : String := s!"DELETE FROM {t.name} WHERE {t.idColumn} = $1"

/-! ### Operations -/

section Operations

variable {F R V T : Type} (settings : PostgresSettings F) (mapping : Mapping R V T) (t : Table)

/-- `get_postgres_pool(self._settings)`. -/
def getPool : Operation (driver F R V) (Option ℕ) ℕ :=
  (getPostgresPool F).getClient settings id fun c _ => some c

/-- `self._row_to_entity(row)`, of what `fetchrow` has returned. -/
def rowToEntity : Option R → Except PyExc T
  | some row => .ok (mapping.rowToEntity row)
  | none => .error typeError

/-- `get(entity_id)`. -/
def get (id : String) : Operation (driver F R V) (Option ℕ) (Option T) := do
  let pool ← getPool settings
  let row ← tryExcept (commandErrors "get") (send (.fetchrow pool (getQuery t) [.str id]))
  return row.map mapping.rowToEntity

/-- `list(limit, offset)`. -/
def list (limit offset : ℤ) : Operation (driver F R V) (Option ℕ) (List T × ℤ) := do
  let pool ← getPool settings
  let (rows, count) ← tryExcept (commandErrors "list") do
    let conn ← send (.acquire pool)
    Coro.tryFinally (do
      let rows ← send (.fetch conn (rowsQuery t) [.int limit, .int offset])
      let count ← send (.fetchval conn (countQuery t))
      return (rows, count)) (send (.release conn))
  return (rows.map mapping.rowToEntity, count)

/-- `create(entity)`. -/
def create (entity : T) : Operation (driver F R V) (Option ℕ) T := do
  let pool ← getPool settings
  let rowDict := (mapping.entityToRow entity).items
  let row ← tryExcept (commandErrors "create")
    (send (.fetchrow pool (insertQuery t (rowDict.map Prod.fst)) (rowDict.map (.value ·.2))))
  eval (rowToEntity mapping row)

/-- `update(entity)`. -/
def update (entity : T) : Operation (driver F R V) (Option ℕ) (Option T) := do
  let pool ← getPool settings
  let rowDict := mapping.entityToRow entity
  let entityId : Param V := ((rowDict.get? t.idColumn).map .value).getD .null
  let updateCols := rowDict.items.filter (·.1 ≠ t.idColumn)
  if updateCols.isEmpty then
    fail ⟨.query, "update", none⟩
  let row ← tryExcept (commandErrors "update")
    (send (.fetchrow pool (updateQuery t (updateCols.map Prod.fst))
      (updateCols.map (.value ·.2) ++ [entityId])))
  return row.map mapping.rowToEntity

/-- `delete(entity_id)`. -/
def delete (id : String) : Operation (driver F R V) (Option ℕ) Bool := do
  let pool ← getPool settings
  let status : String ← tryExcept (commandErrors "delete")
    (send (.execute pool (deleteQuery t) [.str id]))
  return status = "DELETE 1"

/-- `PostgresRepository`. -/
def repository : BaseRepository (driver F R V) (Option ℕ) T where
  get := Postgres.get settings mapping t
  list := Postgres.list settings mapping t
  create := Postgres.create settings mapping t
  update := Postgres.update settings mapping t
  delete := Postgres.delete settings t

/-- `CockroachdbRepository`: the same code with the names changed. -/
def cockroachdbRepository : BaseRepository (driver F R V) (Option ℕ) T :=
  repository settings mapping t

end Operations

end OpenframeAdapters.Db.Postgres
