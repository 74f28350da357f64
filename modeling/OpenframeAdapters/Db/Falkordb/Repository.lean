import Mathlib.Data.List.Infix
import OpenframeAdapters.Db.Factories
import OpenframeAdapters.Db.Repository
import OpenframeAdapters.Python.Dict

/-!
# The FalkorDB repository

`FalkorDBRepository` of `db/falkordb/repository.py`. Entities are nodes with one label,
addressed by their property `id`, for which the first operation creates a constraint.

## The model

The operations share the entry of `_client_cache` and `_constraint_ensured`. Property
values `V` and what the subclass maps entities with are parameters (`Mapping`). A query that
returns `n` gives one node a row, and one that returns `count(n)` one number, so the queries
are told apart by what they return; a row of `traverse()` is any list of cells. The id that is
handed to `get()` and `delete()` is a string, but nothing checks that it is (`getBy`, `deleteBy`).
-/

namespace OpenframeAdapters.Db.Falkordb

open Python OpenframeAdapters.Core

/-- The settings that the operations read, next to those of the client. -/
structure Settings (F : Type) extends FalkorDBSettings F where
  /-- `falkordb_graph_name`. -/
  graphName : String
  /-- `falkordb_node_label`. -/
  nodeLabel : String

/-- What the operations share. -/
structure Shared where
  /-- The entry of `_client_cache`. -/
  client : Option ℕ
  /-- `self._constraint_ensured`. -/
  constraintEnsured : Bool

/-- A node: its properties. -/
abbrev Node (V : Type) := Dict String V

/-- How entities are mapped to nodes and back. -/
structure Mapping (V T : Type) where
  /-- `_entity_to_properties`. -/
  entityToProperties : T → Dict String V
  /-- `_node_to_entity`. -/
  nodeToEntity : Node V → T
  /-- What `traverse()` passes through. -/
  valueToEntity : V → T
  /-- `str` of a property value. -/
  str : V → String

/-- A graph of a client. -/
structure Graph where
  /-- The client. -/
  client : ℕ
  /-- The name of the graph. -/
  name : String

/-- A query parameter. -/
inductive Param (V : Type) where
  /-- A string. -/
  | str (s : String)
  /-- An integer. -/
  | int (n : ℤ)
  /-- The properties of a node. -/
  | props (properties : Dict String V)
  /-- Any value of a property. -/
  | value (v : V)

/-- A cell of a row. -/
inductive Cell (V : Type) where
  /-- A node. -/
  | node (n : Node V)
  /-- Anything else. -/
  | value (v : V)

/-- A call on a graph. -/
inductive Command (V : Type) where
  /-- `graph.create_node_unique_constraint(label, property)`. -/
  | createNodeUniqueConstraint (graph : Graph) (label property : String)
  /-- `graph.query(query, params)`, for a query that returns nodes. -/
  | nodes (graph : Graph) (query : String) (params : List (String × Param V))
  /-- `graph.query(query, params)`, for a query that counts. -/
  | count (graph : Graph) (query : String)
  /-- `graph.query(query, params)`, for a query that deletes. -/
  | deleteNodes (graph : Graph) (query : String) (params : List (String × Param V))
  /-- `graph.query(query, params)`, for a query of the caller. -/
  | traverse (graph : Graph) (query : String) (params : List (String × V))

/-- The calls, and what is read of their replies. -/
abbrev commands (V : Type) : Driver where
  Call := Command V
  Reply
    | .createNodeUniqueConstraint .. => Unit
    | .nodes .. => List (Node V)
    | .count .. => List ℤ
    | .deleteNodes .. => ℤ
    | .traverse .. => List (List (Cell V))

/-- The calls of the adapter. -/
abbrev driver (F V : Type) : Driver :=
  connecting (String × ℤ × Option String × Bool × F × F) (commands V)

/-- Await a call. -/
def send {F V : Type} (q : Command V) : Operation (driver F V) Shared ((commands V).Reply q) :=
  command (C := commands V) q

/-- `_wrap_falkordb(exc, operation)`. -/
def wrapFalkordb (exc : PyExc) (operation : String) : AdapterError :=
  if exc.isa .timeoutError then ⟨.timeout, operation, some exc⟩
  else if exc.isAny [.redisConnectionError, .redisAuthenticationError, .redisTimeoutError] then
    ⟨.connection, operation, some exc⟩
  else ⟨.query, operation, some exc⟩

/-- The `except` clause around the queries of an operation. -/
def commandErrors (operation : String) : Clauses Cls AdapterError :=
  [([.timeoutError, .redisResponseError, .redisConnectionError, .redisAuthenticationError,
    .redisTimeoutError], fun exc => wrapFalkordb exc operation)]

/-- `"already" in str(exc).lower()`. -/
def saysAlready (exc : PyExc) : Bool := decide ("already".toList <:+: exc.text.toLower.toList)

/-- The `except` clauses of `_ensure_ready()`; the first one may drop the exception. -/
def constraintErrors : Clauses Cls (Option AdapterError) :=
  [([.redisResponseError], fun exc =>
      if saysAlready exc then none else some (wrapFalkordb exc "ensure_constraint")),
    ([.timeoutError, .redisConnectionError, .redisAuthenticationError, .redisTimeoutError],
      fun exc => some (wrapFalkordb exc "ensure_constraint"))]

/-- The handler of `_ensure_ready()`. -/
def constraintFailed {F V : Type} : Raised → Operation (driver F V) Shared Unit
  | .raw exc =>
    match dispatch constraintErrors exc with
    | some (some err) => fail err
    | some none => pure ()
    | none => .raise (.raw exc)
  | .adapter err => fail err

/-! ### Queries -/

/-- The query of `get()`. -/
def getQuery (label : String) : String := s!"MATCH (n:{label}) WHERE n.id = $id RETURN n LIMIT 1"

/-- The first query of `list()`. -/
def rowsQuery (label : String) : String :=
  s!"MATCH (n:{label}) RETURN n ORDER BY n.id SKIP $offset LIMIT $limit"

/-- The second query of `list()`. -/
def countQuery (label : String) : String := s!"MATCH (n:{label}) RETURN count(n)"

/-- The query of `create()`. -/
def createQuery (label : String) : String := s!"CREATE (n:{label}) SET n = $props RETURN n"

/-- The query of `update()`. -/
def updateQuery (label : String) : String :=
  s!"MATCH (n:{label}) WHERE n.id = $id SET n += $props RETURN n"

/-- The query of `delete()`. -/
def deleteQuery (label : String) : String := s!"MATCH (n:{label}) WHERE n.id = $id DETACH DELETE n"

/-! ### Operations -/

section Operations

variable {F V T : Type} (settings : Settings F) (mapping : Mapping V T)

/-- `_get_graph()`. -/
def getGraph : Operation (driver F V) Shared Graph := do
  let client ← (getFalkordbClient F).getClient settings.toFalkorDBSettings Shared.client
    fun c s => { s with client := some c }
  return ⟨client, settings.graphName⟩

/-- `_ensure_ready()`. -/
def ensureReady : Operation (driver F V) Shared Unit := do
  if (← .get).constraintEnsured then
    return ()
  else
    let graph ← getGraph settings
    (send (.createNodeUniqueConstraint graph settings.nodeLabel "id")).tryCatch constraintFailed
    .modify fun s => { s with constraintEnsured := true }

/-- `str(properties.get("id", ""))`. -/
def entityId (properties : Dict String V) : String :=
  match properties.get? "id" with
  | some v => mapping.str v
  | none => ""

/-- `result.result_set[0][0]`, of a query that returns nodes. -/
def firstNode : List (Node V) → Except PyExc (Node V)
  | node :: _ => .ok node
  | [] => .error indexError

/-- `get(entity_id)`, whatever the id is. -/
def getBy (id : Param V) : Operation (driver F V) Shared (Option T) := do
  ensureReady settings
  let graph ← getGraph settings
  let result : List (Node V) ← tryExcept (commandErrors "get")
    (send (.nodes graph (getQuery settings.nodeLabel) [("id", id)]))
  return result.head?.map mapping.nodeToEntity

/-- `get(entity_id)`. -/
def get (id : String) : Operation (driver F V) Shared (Option T) := getBy settings mapping (.str id)

/-- `list(limit, offset)`. -/
def list (limit offset : ℤ) : Operation (driver F V) Shared (List T × ℤ) := do
  ensureReady settings
  let graph ← getGraph settings
  let (rows, counts) ← tryExcept (commandErrors "list") do
    let rows : List (Node V) ← send (.nodes graph (rowsQuery settings.nodeLabel)
      [("offset", .int offset), ("limit", .int limit)])
    let counts : List ℤ ← send (.count graph (countQuery settings.nodeLabel))
    return (rows, counts)
  return (rows.map mapping.nodeToEntity, counts.head?.getD 0)

/-- `create(entity)`. -/
def create (entity : T) : Operation (driver F V) Shared T := do
  ensureReady settings
  let properties := mapping.entityToProperties entity
  if entityId mapping properties = "" then
    fail ⟨.query, "create", none⟩
  let graph ← getGraph settings
  let result ← tryExcept (commandErrors "create")
    (send (.nodes graph (createQuery settings.nodeLabel) [("props", .props properties)]))
  return mapping.nodeToEntity (← eval (firstNode result))

/-- `update(entity)`. -/
def update (entity : T) : Operation (driver F V) Shared (Option T) := do
  ensureReady settings
  let properties := mapping.entityToProperties entity
  let id := entityId mapping properties
  let graph ← getGraph settings
  let result : List (Node V) ← tryExcept (commandErrors "update")
    (send (.nodes graph (updateQuery settings.nodeLabel)
      [("id", .str id), ("props", .props properties)]))
  return result.head?.map mapping.nodeToEntity

/-- `delete(entity_id)`, whatever the id is. -/
def deleteBy (id : Param V) : Operation (driver F V) Shared Bool := do
  ensureReady settings
  let graph ← getGraph settings
  let nodesDeleted : ℤ ← tryExcept (commandErrors "delete")
    (send (.deleteNodes graph (deleteQuery settings.nodeLabel) [("id", id)]))
  return 0 < nodesDeleted

/-- `delete(entity_id)`. -/
def delete (id : String) : Operation (driver F V) Shared Bool := deleteBy settings (.str id)

/-- The entity that `traverse()` makes of a row, if it has a first cell. -/
def rowToEntity : List (Cell V) → Option T
  | [] => none
  | .node n :: _ => some (mapping.nodeToEntity n)
  | .value v :: _ => some (mapping.valueToEntity v)

/-- `traverse(query, params)`. -/
def traverse (query : String) (params : Option (List (String × V))) :
    Operation (driver F V) Shared (List T) := do
  let graph ← getGraph settings
  let rows : List (List (Cell V)) ← tryExcept (commandErrors "traverse")
    (send (.traverse graph query (params.getD [])))
  return rows.filterMap (rowToEntity mapping)

/-- `FalkorDBRepository`. -/
def repository : BaseRepository (driver F V) Shared T where
  get := Falkordb.get settings mapping
  list := Falkordb.list settings mapping
  create := Falkordb.create settings mapping
  update := Falkordb.update settings mapping
  delete := Falkordb.delete settings

end Operations

end OpenframeAdapters.Db.Falkordb
