import OpenframeAdapters.Db.Factories
import OpenframeAdapters.Db.Repository
import OpenframeAdapters.Python.Dict

/-!
# The DynamoDB repository

`DynamoDBRepository` of `db/dynamodb/repository.py`. Entities are the items of one table, addressed
by the partition key.

## The model

The state that the operations share is the entry of `_table_cache`. Attribute values `V` and what
the subclass maps entities with are parameters (`Mapping`), as is the error code of a `ClientError`
(`errorCode`).
-/

namespace OpenframeAdapters.Db.Dynamodb

open Python OpenframeAdapters.Core

/-- How entities are mapped to items and back, and where a `ClientError` has its code. -/
structure Mapping (V T : Type) where
  /-- `_row_to_entity`. -/
  rowToEntity : Dict String V → T
  /-- `_entity_to_row`. -/
  entityToRow : T → Dict String V
  /-- `exc.response.get("Error", {}).get("Code", "")`. -/
  errorCode : PyExc → String

/-- Entities are items. -/
def itemMapping : Mapping String (Dict String String) := ⟨id, id, fun exc => exc.text⟩

/-- A call of the table, which comes first. -/
inductive Command (V : Type) where
  /-- `table.get_item(Key=…)`. -/
  | getItem (table : ℕ) (key : String × V)
  /-- `table.put_item(Item=…)`, with `ConditionExpression="attribute_exists(#id)"` where the name of
  the attribute is given. -/
  | putItem (table : ℕ) (item : Dict String V) (attributeExists : Option String)
  /-- `table.delete_item(Key=…, ReturnValues="ALL_OLD")`. -/
  | deleteItem (table : ℕ) (key : String × V)

/-- The calls and their replies. -/
abbrev commands (V : Type) : Driver where
  Call := Command V
  Reply
    -- `response.get("Item")`
    | .getItem .. => Option (Dict String V)
    | .putItem .. => Unit
    -- `response.get("Attributes")`
    | .deleteItem .. => Option (Dict String V)

/-- The calls of the adapter. -/
abbrev driver (V : Type) : Driver := connecting DynamoDBArguments (commands V)

/-- Await a call. -/
def send {V : Type} (q : Command V) : Operation (driver V) (Option ℕ) ((commands V).Reply q) :=
  command (C := commands V) q

section Operations

variable {V T : Type} (settings : DynamoDBSettings) (idColumn : String) (mapping : Mapping V T)

/-- `_wrap_botocore(exc, operation)`. The codes are `_THROTTLING_ERROR_CODES`. -/
def wrapBotocore (exc : PyExc) (operation : String) : AdapterError :=
  if exc.isAny [.endpointConnectionError, .connectionError] then ⟨.connection, operation, some exc⟩
  else if exc.isa .botoClientError then
    if ["ProvisionedThroughputExceededException", "ThrottlingException",
        "RequestLimitExceeded"].contains (mapping.errorCode exc) then
      ⟨.connection, operation, some exc⟩
    else ⟨.query, operation, some exc⟩
  else ⟨.query, operation, some exc⟩

/-- The `except` clauses around the calls of an operation. -/
def commandErrors (operation : String) : Clauses Cls AdapterError :=
  [([.timeoutError], fun exc => ⟨.timeout, operation, some exc⟩),
    ([.botoClientError, .botoCoreError], fun exc => wrapBotocore mapping exc operation)]

/-- `get_dynamodb_table(self._settings)`. -/
def getTable : Operation (driver V) (Option ℕ) ℕ :=
  getDynamodbTable.getClient settings id fun c _ => some c

/-- `get(entity_id)`. -/
def get (id : V) : Operation (driver V) (Option ℕ) (Option T) := do
  let table ← getTable settings
  let item : Option (Dict String V) ← tryExcept (commandErrors mapping "get")
    (send (.getItem table (idColumn, id)))
  return item.map mapping.rowToEntity

/-- `create(entity)`. -/
def create (entity : T) : Operation (driver V) (Option ℕ) T := do
  let table ← getTable settings
  let rowDict := mapping.entityToRow entity
  tryExcept (commandErrors mapping "create") (send (.putItem table rowDict none))
  return entity

/-- What `update()` makes of what is raised: a failed condition means that no item matches. -/
def updateFailed : Raised → Operation (driver V) (Option ℕ) (Option T)
  | .raw exc =>
    if !exc.isa .timeoutError && exc.isa .botoClientError &&
        mapping.errorCode exc = "ConditionalCheckFailedException" then
      return none
    else .raise (translate (commandErrors mapping "update") exc)
  | .adapter err => fail err

/-- `update(entity)`. -/
def update (entity : T) : Operation (driver V) (Option ℕ) (Option T) := do
  let table ← getTable settings
  let rowDict := mapping.entityToRow entity
  Coro.tryCatch (do
    send (.putItem table rowDict (some idColumn))
    return some entity) (updateFailed mapping)

/-- `delete(entity_id)`. -/
def delete (id : V) : Operation (driver V) (Option ℕ) Bool := do
  let table ← getTable settings
  let attributes : Option (Dict String V) ← tryExcept (commandErrors mapping "delete")
    (send (.deleteItem table (idColumn, id)))
  return attributes.isSome

end Operations

end OpenframeAdapters.Db.Dynamodb
