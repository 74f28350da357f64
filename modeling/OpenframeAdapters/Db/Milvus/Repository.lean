import OpenframeAdapters.Db.Factories
import OpenframeAdapters.Db.Repository
import OpenframeAdapters.Python.Dict

/-!
# The Milvus repository

`MilvusRepository` of `db/milvus/repository.py`. Entities are the rows of one collection, addressed
by one field.

## The model

The state that the operations share is the entry of `_client_cache`. Field values `V`, which ids
and vectors are as well, and what the subclass maps entities with are parameters (`Mapping`). The
name of the class of an exception (`type(exc).__name__`) is one too (`className`), as is the list
`_CONNECTION_FAILURE_PHRASES` test of its text.
-/

namespace OpenframeAdapters.Db.Milvus

open Python OpenframeAdapters.Core

/-- The collection of a repository. -/
structure Collection where
  /-- `_collection_name`. -/
  name : String
  /-- `_id_field`. -/
  idField : String

/-- How entities are mapped to rows and back, and how exceptions are told apart. -/
structure Mapping (V T : Type) where
  /-- `_row_to_entity`. -/
  rowToEntity : Dict String V → T
  /-- `_entity_to_row`. -/
  entityToRow : T → Dict String V
  /-- `type(exc).__name__`. -/
  className : PyExc → String
  /-- `_looks_like_connection_failure(exc)`. -/
  looksLikeConnectionFailure : PyExc → Bool

/-- A collection of users. -/
def userCollection : Collection := ⟨"users", "id"⟩

/-- Entities are rows, and every exception is told apart by its class. -/
def rowMapping : Mapping String (Dict String String) :=
  ⟨fun row => row, fun entity => entity, fun _ => "MilvusException", fun _ => false⟩

/-- A call of the client, which comes first, on a collection. -/
inductive Command (V : Type) where
  /-- `client.get(collection, ids=…)`; `None` is an id like any other. -/
  | get (client : ℕ) (collection : String) (ids : List (Option V))
  /-- `client.query(collection, filter="", limit=…, offset=…)`. -/
  | page (client : ℕ) (collection : String) (limit offset : ℤ)
  /-- `client.query(collection, filter="")`. -/
  | query (client : ℕ) (collection : String)
  /-- `client.upsert(collection, data=…)`. -/
  | upsert (client : ℕ) (collection : String) (data : List (Dict String V))
  /-- `client.delete(collection, ids=…)`. -/
  | delete (client : ℕ) (collection : String) (ids : List V)
  /-- `client.search(collection, data=…, limit=…, output_fields=["*"])`. -/
  | search (client : ℕ) (collection : String) (data : List V) (limit : ℤ)

/-- The calls and their replies. -/
abbrev commands (V : Type) : Driver where
  Call := Command V
  Reply
    | .get .. | .page .. | .query .. => List (Dict String V)
    | .upsert .. | .delete .. => Unit
    -- `hit.get("entity", hit)` of every hit, for each vector
    | .search .. => List (List (Dict String V))

/-- The calls of the adapter. -/
abbrev driver (V : Type) : Driver := connecting (String × String × String) (commands V)

/-- Await a call. -/
def send {V : Type} (q : Command V) : Operation (driver V) (Option ℕ) ((commands V).Reply q) :=
  command (C := commands V) q

/-- `_QUERY_CLASS_EXCEPTION_NAMES`. -/
def queryClassExceptionNames : List String :=
  ["ParamError", "SchemaNotReadyException", "CollectionNotExistException",
    "DataNotMatchException", "DataTypeNotMatchException", "FieldTypeException",
    "FieldsTypeException", "PrimaryKeyException", "AutoIDException",
    "DescribeCollectionException", "AmbiguousIndexName"]

/-- `_CONNECTION_CLASS_EXCEPTION_NAMES`. -/
def connectionClassExceptionNames : List String :=
  ["ConnectError", "ConnectionNotExistException", "MilvusUnavailableException"]

section Operations

variable {V T : Type} (settings : MilvusSettings) (collection : Collection) (mapping : Mapping V T)

/-- `_wrap_milvus(exc, operation)`. -/
def wrapMilvus (exc : PyExc) (operation : String) : AdapterError :=
  if queryClassExceptionNames.contains (mapping.className exc) then ⟨.query, operation, some exc⟩
  else if connectionClassExceptionNames.contains (mapping.className exc) then
    ⟨.connection, operation, some exc⟩
  else if mapping.looksLikeConnectionFailure exc then ⟨.connection, operation, some exc⟩
  else ⟨.query, operation, some exc⟩

/-- The `except` clauses around the calls of an operation. -/
def commandErrors (operation : String) : Clauses Cls AdapterError :=
  [([.timeoutError], fun exc => ⟨.timeout, operation, some exc⟩),
    ([.milvusException], fun exc => wrapMilvus mapping exc operation)]

/-- `get_milvus_client(self._settings)`. -/
def getClient : Operation (driver V) (Option ℕ) ℕ :=
  getMilvusClient.getClient settings id fun c _ => some c

/-- `get(entity_id)`, also of `None`. -/
def getBy (id : Option V) : Operation (driver V) (Option ℕ) (Option T) := do
  let client ← getClient settings
  let rows : List (Dict String V) ← tryExcept (commandErrors mapping "get")
    (send (.get client collection.name [id]))
  return rows.head?.map mapping.rowToEntity

/-- `get(entity_id)`. -/
def get (id : V) : Operation (driver V) (Option ℕ) (Option T) :=
  getBy settings collection mapping (some id)

/-- `list(limit, offset)`. -/
def list (limit offset : ℤ) : Operation (driver V) (Option ℕ) (List T × ℤ) := do
  let client ← getClient settings
  let (rows, allRows) ← tryExcept (commandErrors mapping "list") do
    let rows : List (Dict String V) ← send (.page client collection.name limit offset)
    let allRows : List (Dict String V) ← send (.query client collection.name)
    return (rows, allRows)
  return (rows.map mapping.rowToEntity, allRows.length)

/-- `create(entity)`. -/
def create (entity : T) : Operation (driver V) (Option ℕ) T := do
  let client ← getClient settings
  let row := mapping.entityToRow entity
  tryExcept (commandErrors mapping "create") (send (.upsert client collection.name [row]))
  return entity

/-- `update(entity)`. -/
def update (entity : T) : Operation (driver V) (Option ℕ) (Option T) := do
  let row := mapping.entityToRow entity
  match ← getBy settings collection mapping (row.get? collection.idField) with
  | none => return none
  | some _ =>
    let client ← getClient settings
    tryExcept (commandErrors mapping "update") (send (.upsert client collection.name [row]))
    return some entity

/-- `delete(entity_id)`. -/
def delete (id : V) : Operation (driver V) (Option ℕ) Bool := do
  match ← get settings collection mapping id with
  | none => return false
  | some _ =>
    let client ← getClient settings
    tryExcept (commandErrors mapping "delete") (send (.delete client collection.name [id]))
    return true

/-- `search(query_vector, k)`. -/
def search (queryVector : V) (k : ℤ) : Operation (driver V) (Option ℕ) (List T) := do
  let client ← getClient settings
  let results : List (List (Dict String V)) ← tryExcept (commandErrors mapping "search")
    (send (.search client collection.name [queryVector] k))
  return (results.head?.getD []).map mapping.rowToEntity

end Operations

end OpenframeAdapters.Db.Milvus
