import OpenframeAdapters.Db.Factories
import OpenframeAdapters.Db.Repository
import OpenframeAdapters.Python.Dict
import OpenframeAdapters.Python.Sequence

/-!
# The Qdrant vector store

`QdrantVectorStore` of `db/qdrant/repository.py`. An entity is a point: an id, a vector and a
payload.

## The model

The state that the operations share is the entry of `_client_cache`. Ids, vectors and payload
values are Python values `V`; what the subclass maps entities with is a parameter (`Mapping`), of
which `baseMapping` is the one of the base class.
-/

namespace OpenframeAdapters.Db.Qdrant

open Python OpenframeAdapters.Core

/-- A `PointStruct`, a `Record` or a `ScoredPoint`. -/
structure Point (V : Type) where
  /-- `point.id`. -/
  id : V
  /-- `point.vector`. -/
  vector : V
  /-- `point.payload`. -/
  payload : Option (Dict String V)

/-- How entities are mapped to points and back. -/
structure Mapping (V T : Type) where
  /-- `_entity_to_point`. -/
  entityToPoint : T → Except PyExc (Point V)
  /-- `_point_to_entity`. -/
  pointToEntity : Point V → T
  /-- `entity.get("id")`, or `getattr(entity, "id", None)`. -/
  idOf : T → Option V

section BaseMapping

variable {V : Type}

/-- `data[k]`. -/
def getItem (data : Dict String V) (k : String) : Except PyExc V :=
  match data.get? k with
  | some v => .ok v
  | none => .error keyError

/-- `_entity_to_point(entity)`, of a `dict`. -/
def entityToPoint (data : Dict String V) : Except PyExc (Point V) := do
  let payload := data.filter fun k => k ∉ ["id", "vector"]
  return ⟨← getItem data "id", ← getItem data "vector", some payload⟩

/-- `_point_to_entity(point)`. -/
def pointToEntity (point : Point V) : Dict String V :=
  ((Dict.empty.set "id" point.id).set "vector" point.vector).update (point.payload.getD .empty)

/-- The base class maps dictionaries. -/
def baseMapping : Mapping V (Dict String V) where
  entityToPoint := entityToPoint
  pointToEntity := pointToEntity
  idOf data := data.get? "id"

end BaseMapping

/-- A call of the client, which comes first, on a collection. -/
inductive Command (V : Type) where
  /-- `client.upsert(collection_name=…, points=…)`. -/
  | upsert (client : ℕ) (collection : String) (points : List (Point V))
  /-- `client.retrieve(collection_name=…, ids=…, with_vectors=True)`. -/
  | retrieve (client : ℕ) (collection : String) (ids : List V)
  /-- `client.scroll(collection_name=…, limit=…, with_vectors=True)`. -/
  | scroll (client : ℕ) (collection : String) (limit : ℤ)
  /-- `client.count(collection_name=…)`. -/
  | count (client : ℕ) (collection : String)
  /-- `client.delete(collection_name=…, points_selector=…)`. -/
  | delete (client : ℕ) (collection : String) (ids : List V)
  /-- `client.query_points(collection_name=…, query=…, limit=…, with_vectors=True)`. -/
  | queryPoints (client : ℕ) (collection : String) (query : V) (limit : ℤ)

/-- The calls and their replies. -/
abbrev commands (V : Type) : Driver where
  Call := Command V
  Reply
    | .upsert .. | .delete .. => Unit
    | .retrieve .. | .scroll .. | .queryPoints .. => List (Point V)
    | .count .. => ℤ

/-- The calls of the adapter. -/
abbrev driver (V : Type) : Driver :=
  connecting (String × Option String × Bool × Option Bool) (commands V)

/-- Await a call. -/
def send {V : Type} (q : Command V) : Operation (driver V) (Option ℕ) ((commands V).Reply q) :=
  command (C := commands V) q

/-- `_wrap_qdrant(exc, operation)`. -/
def wrapQdrant (exc : PyExc) (operation : String) : AdapterError :=
  if exc.isa .qdrantResponseHandlingException then ⟨.connection, operation, some exc⟩
  else if exc.isa .qdrantUnexpectedResponse then
    if exc.code.any fun status => 400 ≤ status ∧ status < 500 then ⟨.query, operation, some exc⟩
    else ⟨.connection, operation, some exc⟩
  else ⟨.query, operation, some exc⟩

/-- The `except` clauses around the calls of an operation. -/
def commandErrors (operation : String) : Clauses Cls AdapterError :=
  [([.timeoutError], fun exc => ⟨.timeout, operation, some exc⟩),
    ([.qdrantResponseHandlingException, .qdrantUnexpectedResponse],
      fun exc => wrapQdrant exc operation)]

section Operations

variable {V T : Type} (settings : QdrantSettings) (collection : String) (mapping : Mapping V T)

/-- `get_qdrant_client(self._settings)`. -/
def getClient : Operation (driver V) (Option ℕ) ℕ :=
  getQdrantClient.getClient settings id fun c _ => some c

/-- `_upsert_point(entity, operation)`. -/
def upsertPoint (entity : T) (operation : String) : Operation (driver V) (Option ℕ) Unit := do
  let client ← getClient settings
  let point ← eval (mapping.entityToPoint entity)
  tryExcept (commandErrors operation) (send (.upsert client collection [point]))

/-- `get(entity_id)`. -/
def get (id : V) : Operation (driver V) (Option ℕ) (Option T) := do
  let client ← getClient settings
  let records : List (Point V) ← tryExcept (commandErrors "get")
    (send (.retrieve client collection [id]))
  return records.head?.map mapping.pointToEntity

/-- `list(limit, offset)`. -/
def list (limit offset : ℤ) : Operation (driver V) (Option ℕ) (List T × ℤ) := do
  let client ← getClient settings
  let (records, count) ← tryExcept (commandErrors "list") do
    let records : List (Point V) ← send (.scroll client collection (limit + offset))
    let count : ℤ ← send (.count client collection)
    return (records, count)
  -- `records[offset:]`
  let page := slice records offset records.length
  return (page.map mapping.pointToEntity, count)

/-- `create(entity)`. -/
def create (entity : T) : Operation (driver V) (Option ℕ) T := do
  upsertPoint settings collection mapping entity "create"
  return entity

/-- `update(entity)`. -/
def update (entity : T) : Operation (driver V) (Option ℕ) (Option T) := do
  match mapping.idOf entity with
  | none => return none
  | some id =>
    match ← get settings collection mapping id with
    | none => return none
    | some _ =>
      upsertPoint settings collection mapping entity "update"
      return some entity

/-- `delete(entity_id)`. -/
def delete (id : V) : Operation (driver V) (Option ℕ) Bool := do
  match ← get settings collection mapping id with
  | none => return false
  | some _ =>
    let client ← getClient settings
    tryExcept (commandErrors "delete") (send (.delete client collection [id]))
    return true

/-- `search(query_vector, k)`. -/
def search (queryVector : V) (k : ℤ) : Operation (driver V) (Option ℕ) (List T) := do
  let client ← getClient settings
  let points : List (Point V) ← tryExcept (commandErrors "search")
    (send (.queryPoints client collection queryVector k))
  return points.map mapping.pointToEntity

end Operations

end OpenframeAdapters.Db.Qdrant
