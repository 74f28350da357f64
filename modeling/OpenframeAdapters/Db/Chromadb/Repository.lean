import OpenframeAdapters.Db.Factories
import OpenframeAdapters.Db.Repository
import OpenframeAdapters.Python.Dict

/-!
# The Chroma repository

`ChromaDBRepository` of `db/chromadb/repository.py`. Chroma's results are columns: parallel
lists of ids, embeddings, metadatas and documents.

## The model

The operations share the entry of `_client_cache` and `_collection_cache`. Vectors `V`, the
values `W` of metadata and what the subclass maps entities with are parameters (`Mapping`).
A row that lacks `"metadata"`, `"document"` or `"vector"` stands as one that has `None`
there; that a row has an `"id"`, and one that is created a `"vector"`, is up to the caller.
-/

namespace OpenframeAdapters.Db.Chromadb

open Python OpenframeAdapters.Core

/-- What the operations share. -/
structure Shared where
  /-- The entry of `_client_cache`. -/
  client : Option ℕ
  /-- `self._collection_cache`. -/
  collection : Option ℕ

/-- A row. -/
structure Row (V W : Type) where
  /-- `row["id"]`. -/
  id : String
  /-- `row["vector"]`. -/
  vector : Option V
  /-- `row["metadata"]`. -/
  metadata : Option (Dict String W)
  /-- `row["document"]`. -/
  document : Option String

/-- How entities are mapped to rows and back. -/
structure Mapping (V W T : Type) where
  /-- `_row_to_entity`. -/
  rowToEntity : Row V W → T
  /-- `_entity_to_row`. -/
  entityToRow : T → Row V W

/-- `ChromaDBRepository` takes rows as they are. -/
def baseMapping {V W : Type} : Mapping V W (Row V W) := ⟨id, id⟩

/-- A `GetResult`. -/
structure GetResult (V W : Type) where
  /-- `result["ids"]`. -/
  ids : Option (List String)
  /-- `result["embeddings"]`. -/
  embeddings : Option (List V)
  /-- `result["metadatas"]`. -/
  metadatas : Option (List (Option (Dict String W)))
  /-- `result["documents"]`. -/
  documents : Option (List (Option String))

/-- A `QueryResult`: each column once for every query embedding. -/
structure QueryResult (V W : Type) where
  /-- `result["ids"]`. -/
  ids : Option (List (List String))
  /-- `result["embeddings"]`. -/
  embeddings : Option (List (List V))
  /-- `result["metadatas"]`. -/
  metadatas : Option (List (List (Option (Dict String W))))
  /-- `result["documents"]`. -/
  documents : Option (List (List (Option String)))

/-- The columns of what is added or updated. -/
structure Columns (V W : Type) where
  /-- `ids`. -/
  ids : List String
  /-- `embeddings`. -/
  embeddings : Option (List (Option V))
  /-- `metadatas`. -/
  metadatas : List (Option (Dict String W))
  /-- `documents`. -/
  documents : Option (List String)

/-- A call of the client or of a collection. -/
inductive Command (V W : Type) where
  /-- `client.get_or_create_collection(name=…)`. -/
  | getOrCreateCollection (client : ℕ) (name : String)
  /-- `collection.get(ids=…, include=…)`; `include` may be left out. -/
  | get (collection : ℕ) (ids : List String) (columns : Option (List String))
  /-- `collection.get(limit=…, offset=…, include=…)`. -/
  | page (collection : ℕ) (limit offset : ℤ) (columns : List String)
  /-- `collection.count()`. -/
  | count (collection : ℕ)
  /-- `collection.add(…)`. -/
  | add (collection : ℕ) (columns : Columns V W)
  /-- `collection.update(…)`. -/
  | update (collection : ℕ) (columns : Columns V W)
  /-- `collection.delete(ids=…)`. -/
  | delete (collection : ℕ) (ids : List String)
  /-- `collection.query(query_embeddings=…, n_results=…, include=…)`. -/
  | query (collection : ℕ) (queryEmbeddings : List V) (nResults : ℤ) (columns : List String)

/-- The calls and their replies. -/
abbrev commands (V W : Type) : Driver where
  Call := Command V W
  Reply
    | .getOrCreateCollection .. => ℕ
    | .get .. | .page .. => GetResult V W
    | .count _ => ℤ
    | .add .. | .update .. | .delete .. => Unit
    | .query .. => QueryResult V W

/-- The calls of the adapter. -/
abbrev driver (V W : Type) : Driver :=
  connecting (String × ℤ × Bool × String × String) (commands V W)

/-- Await a call. -/
def send {V W : Type} (q : Command V W) : Operation (driver V W) Shared ((commands V W).Reply q) :=
  command (C := commands V W) q

/-- `_wrap_chromadb(exc, operation)`. -/
def wrapChromadb (exc : PyExc) (operation : String) : AdapterError :=
  if exc.isa .httpxTimeoutException then ⟨.timeout, operation, some exc⟩
  else if exc.isa .httpxTransportError then ⟨.connection, operation, some exc⟩
  else ⟨.query, operation, some exc⟩

/-- The `except` clauses of `_get_collection()`. -/
def collectionErrors : Clauses Cls AdapterError :=
  [([.timeoutError], fun exc => ⟨.timeout, "get_or_create_collection", some exc⟩),
    ([.httpxTimeoutException], fun exc => wrapChromadb exc "get_or_create_collection"),
    ([.httpxTransportError], fun exc => wrapChromadb exc "get_or_create_collection"),
    ([.chromaError], fun exc => wrapChromadb exc "get_or_create_collection")]

/-- The `except` clauses around the calls of an operation. -/
def commandErrors (operation : String) : Clauses Cls AdapterError :=
  [([.timeoutError], fun exc => ⟨.timeout, operation, some exc⟩),
    ([.httpxTimeoutException, .httpxTransportError, .chromaError],
      fun exc => wrapChromadb exc operation)]

/-- The `except` clauses of `create()`, which has one more. -/
def createErrors : Clauses Cls AdapterError :=
  commandErrors "create" ++ [([.valueError], fun exc => ⟨.query, "create", some exc⟩)]

/-! ### Columns and rows -/

section Rows

variable {V W α : Type}

/-- `column[i]`, if there is the column. -/
def cell (column : Option (List α)) (i : ℕ) : Except PyExc (Option α) :=
  match column with
  | none => .ok none
  | some xs =>
    match xs[i]? with
    | some a => .ok (some a)
    | none => .error indexError

/-- The row at a position. -/
def rowAt (embeddings : Option (List V)) (metadatas : Option (List (Option (Dict String W))))
    (documents : Option (List (Option String))) (entityId : String) (i : ℕ) :
    Except PyExc (Row V W) := do
  let vector ← cell embeddings i
  let metadata ← cell metadatas i
  let document ← cell documents i
  return ⟨entityId, vector, some (metadata.join.getD .empty), document.join⟩

/-- `_get_result_to_rows(result)`. -/
def getResultToRows (result : GetResult V W) : Except PyExc (List (Row V W)) :=
  (result.ids.getD []).zipIdx.mapM fun p =>
    rowAt result.embeddings result.metadatas result.documents p.1 p.2

/-- The column of the only query embedding. -/
def unnest (column : Option (List (List α))) : Except PyExc (Option (List α)) := cell column 0

/-- `_query_result_to_rows(result)`. -/
def queryResultToRows (result : QueryResult V W) : Except PyExc (List (Row V W)) := do
  let ids := ((result.ids.getD []).head?).getD []
  let embeddings ← unnest result.embeddings
  let metadatas ← unnest result.metadatas
  let documents ← unnest result.documents
  ids.zipIdx.mapM fun p => rowAt embeddings metadatas documents p.1 p.2

/-- `row.get("metadata") or None`. -/
def Row.metadataOrNone (row : Row V W) : Option (Dict String W) :=
  row.metadata.filter fun m => !m.items.isEmpty

/-- `[row.get("document")] if row.get("document") is not None else None`. -/
def Row.documents (row : Row V W) : Option (List String) := row.document.map fun d => [d]

end Rows

/-! ### Operations -/

section Operations

variable {V W T : Type} (settings : ChromaDBSettings) (collectionName : String)
  (mapping : Mapping V W T)

/-- `include=["embeddings", "metadatas", "documents"]`. -/
def allColumns : List String := ["embeddings", "metadatas", "documents"]

/-- `_get_collection()`. -/
def getCollection : Operation (driver V W) Shared ℕ := do
  match (← .get).collection with
  | some collection => return collection
  | none =>
    let client ← getChromadbClient.getClient settings Shared.client
      fun c s => { s with client := some c }
    let collection : ℕ ← tryExcept collectionErrors
      (send (.getOrCreateCollection client collectionName))
    .modify fun s => { s with collection := some collection }
    return collection

/-- `get(entity_id)`. -/
def get (id : String) : Operation (driver V W) Shared (Option T) := do
  let collection ← getCollection settings collectionName
  let result ← tryExcept (commandErrors "get") (send (.get collection [id] (some allColumns)))
  let rows ← eval (getResultToRows result)
  return rows.head?.map mapping.rowToEntity

/-- `list(limit, offset)`. -/
def list (limit offset : ℤ) : Operation (driver V W) Shared (List T × ℤ) := do
  let collection ← getCollection settings collectionName
  let (result, total) ← tryExcept (commandErrors "list") do
    let result : GetResult V W ← send (.page collection limit offset allColumns)
    let total : ℤ ← send (.count collection)
    return (result, total)
  let rows ← eval (getResultToRows result)
  return (rows.map mapping.rowToEntity, total)

/-- `create(entity)`. -/
def create (entity : T) : Operation (driver V W) Shared T := do
  let collection ← getCollection settings collectionName
  let row := mapping.entityToRow entity
  tryExcept createErrors (send (.add collection
    ⟨[row.id], some [row.vector], [row.metadataOrNone], row.documents⟩))
  return entity

/-- `update(entity)`. -/
def update (entity : T) : Operation (driver V W) Shared (Option T) := do
  let collection ← getCollection settings collectionName
  let row := mapping.entityToRow entity
  tryExcept (commandErrors "update") do
    let existing : GetResult V W ← send (.get collection [row.id] none)
    if (existing.ids.getD []).isEmpty then
      return none
    else
      send (.update collection
        ⟨[row.id], row.vector.map fun v => [some v], [row.metadataOrNone], row.documents⟩)
      return some entity

/-- `delete(entity_id)`. -/
def delete (id : String) : Operation (driver V W) Shared Bool := do
  let collection ← getCollection settings collectionName
  tryExcept (commandErrors "delete") do
    let existing : GetResult V W ← send (.get collection [id] none)
    if (existing.ids.getD []).isEmpty then
      return false
    else
      send (.delete collection [id])
      return true

/-- `search(query_vector, k)`. -/
def search (queryVector : V) (k : ℤ) : Operation (driver V W) Shared (List T) := do
  let collection ← getCollection settings collectionName
  let result ← tryExcept (commandErrors "search")
    (send (.query collection [queryVector] k (allColumns ++ ["distances"])))
  let rows ← eval (queryResultToRows result)
  return rows.map mapping.rowToEntity

/-- `ChromaDBRepository`. -/
def repository : BaseRepository (driver V W) Shared T where
  get := Chromadb.get settings collectionName mapping
  list := Chromadb.list settings collectionName mapping
  create := Chromadb.create settings collectionName mapping
  update := Chromadb.update settings collectionName mapping
  delete := Chromadb.delete settings collectionName

end Operations

end OpenframeAdapters.Db.Chromadb
