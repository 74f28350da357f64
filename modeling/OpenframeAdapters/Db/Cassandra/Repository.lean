import OpenframeAdapters.Db.Rows
import OpenframeAdapters.Python.Sequence

/-!
# The Cassandra repository

`CassandraRepository` of `db/cassandra/repository.py`. Entities are the rows of one table,
addressed by one column.

## The model

The state that the operations share is the entry of `_session_cache`. Rows `R`, the values `V` of
their columns and what the subclass maps entities with are parameters (`Mapping`). A statement is
one call (`execute`): it is sent by `execute_async()`, and the future is awaited.
-/

namespace OpenframeAdapters.Db.Cassandra

open Python OpenframeAdapters.Core

open Postgres (Table Param)

/-- How entities are mapped to rows and back. -/
structure Mapping (R V T : Type) where
  /-- `_row_to_entity`, of a row of the driver. -/
  rowToEntity : R → T
  /-- `_row_to_entity`, of a `dict`. -/
  dictToEntity : Dict String V → T
  /-- `_entity_to_row`. -/
  entityToRow : T → Dict String V
  /-- `int(count_row[0])`. -/
  countOf : R → Except PyExc ℤ

/-- A statement. The session it is sent through comes first. -/
inductive Command (V : Type) where
  /-- `session.execute_async(query, params)`, and its future. -/
  | execute (session : ℕ) (query : String) (params : Option (List (Param V)))

/-- The statements and their rows. -/
abbrev commands (R V : Type) : Driver where
  Call := Command V
  Reply _ := List R

/-- The calls of the adapter. -/
abbrev driver (R V : Type) : Driver := connecting CassandraArguments (commands R V)

/-- `_wrap_cassandra(exc, operation)`. -/
def wrapCassandra (exc : PyExc) (operation : String) : AdapterError :=
  if exc.isAny [.cassandraAuthenticationFailed] then ⟨.connection, operation, some exc⟩
  else if exc.isAny [.noHostAvailable, .cassandraConnectionException, .cassandraUnavailable] then
    ⟨.connection, operation, some exc⟩
  else if exc.isAny [.cassandraOperationTimedOut, .cassandraReadTimeout, .cassandraWriteTimeout] then
    ⟨.timeout, operation, some exc⟩
  else ⟨.query, operation, some exc⟩

/-- The `except` clauses of `_execute()`. -/
def executeErrors (operation : String) : Clauses Cls AdapterError :=
  [([.timeoutError], fun exc => ⟨.timeout, operation, some exc⟩),
    ([.exception], fun exc => wrapCassandra exc operation)]

/-! ### Statements -/

/-- The statement of `get()`. -/
def getQuery (t : Table) : String := s!"SELECT * FROM {t.name} WHERE {t.idColumn} = %s LIMIT 1"

/-- The first statement of `list()`. -/
def rowsQuery (t : Table) : String := s!"SELECT * FROM {t.name} LIMIT %s"

/-- The second statement of `list()`. -/
def countQuery (t : Table) : String := s!"SELECT COUNT(*) FROM {t.name}"

/-- The statement of `create()`. -/
def insertQuery (t : Table) (columns : List String) : String :=
  let placeholders := ", ".intercalate (columns.map fun _ => "%s")
  let colList := ", ".intercalate columns
  s!"INSERT INTO {t.name} ({colList}) VALUES ({placeholders})"

/-- The statement of `update()`. -/
def updateQuery (t : Table) (columns : List String) : String :=
  let setClause := ", ".intercalate (columns.map fun col => s!"{col} = %s")
  s!"UPDATE {t.name} SET {setClause} WHERE {t.idColumn} = %s"

/-- The statement of `delete()`. -/
def deleteQuery (t : Table) : String := s!"DELETE FROM {t.name} WHERE {t.idColumn} = %s"

/-! ### Operations -/

section Operations

variable {R V T : Type} (settings : CassandraSettings) (mapping : Mapping R V T) (t : Table)

/-- `_execute(query, params, operation)`. -/
def execute (query : String) (params : Option (List (Param V))) (operation : String) :
    Operation (driver R V) (Option ℕ) (List R) := do
  let session ← getCassandraSession.getClient settings id fun c _ => some c
  tryExcept (executeErrors operation) (command (C := commands R V) (.execute session query params))

/-- `get(entity_id)`, of anything that a statement can bind. -/
def getBy (id : Param V) : Operation (driver R V) (Option ℕ) (Option T) := do
  let rows ← execute settings (getQuery t) (some [id]) "get"
  return rows.head?.map mapping.rowToEntity

/-- `get(entity_id)`. -/
def get (id : String) : Operation (driver R V) (Option ℕ) (Option T) :=
  getBy settings mapping t (.str id)

/-- `_extract_count(count_row)`. -/
def extractCount (countRow : Option R) : Except PyExc ℤ :=
  match countRow with
  | none => .ok 0
  | some row => mapping.countOf row

/-- `list(limit, offset)`. -/
def list (limit offset : ℤ) : Operation (driver R V) (Option ℕ) (List T × ℤ) := do
  let allRows ← execute settings (rowsQuery t) (some [.int (limit + offset)]) "list"
  let countRows ← execute settings (countQuery t) none "list"
  let count ← eval (extractCount mapping countRows.head?)
  let rows := slice allRows offset (offset + limit)
  return (rows.map mapping.rowToEntity, count)

/-- `create(entity)`. -/
def create (entity : T) : Operation (driver R V) (Option ℕ) T := do
  let rowDict := mapping.entityToRow entity
  let _ ← execute settings (insertQuery t (columns rowDict)) (some (values rowDict)) "create"
  return mapping.dictToEntity rowDict

/-- `update(entity)`. -/
def update (entity : T) : Operation (driver R V) (Option ℕ) (Option T) := do
  let rowDict := mapping.entityToRow entity
  let id := entityId t rowDict
  match ← getBy settings mapping t id with
  | none => return none
  | some _ =>
    let cols := updateCols t rowDict
    if cols.isEmpty then
      fail ⟨.query, "update", none⟩
    let _ ← execute settings (updateQuery t (cols.map Prod.fst)) (some (updateValues t rowDict))
      "update"
    return some (mapping.dictToEntity rowDict)

/-- `delete(entity_id)`. -/
def delete (id : String) : Operation (driver R V) (Option ℕ) Bool := do
  match ← get settings mapping t id with
  | none => return false
  | some _ =>
    let _ ← execute settings (deleteQuery t) (some [Param.str id]) "delete"
    return true

/-- `CassandraRepository`. -/
def repository : BaseRepository (driver R V) (Option ℕ) T where
  get := Cassandra.get settings mapping t
  list := Cassandra.list settings mapping t
  create := Cassandra.create settings mapping t
  update := Cassandra.update settings mapping t
  delete := Cassandra.delete settings mapping t

end Operations

end OpenframeAdapters.Db.Cassandra
