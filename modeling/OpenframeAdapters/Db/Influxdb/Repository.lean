import OpenframeAdapters.Db.Factories
import OpenframeAdapters.Db.Repository
import OpenframeAdapters.Python.Sequence

/-!
# The InfluxDB repository

`InfluxDBRepository` of `db/influxdb/repository.py`. An entity is the most recent point of a
measurement with a certain value of the id tag.

## The model

The state that the operations share is the entry of `_client_cache`. Points `P`, records `R`,
times and what the subclass maps entities with are parameters (`Mapping`). `delete()` hands
the time of the call over as `stop`, which is left out.
-/

namespace OpenframeAdapters.Db.Influxdb

open Python OpenframeAdapters.Core

/-- The settings that the operations read, next to those of the client. -/
structure Settings extends InfluxDBSettings where
  /-- `lookback`. -/
  lookback : String

/-- Where a repository keeps its points. -/
structure Source where
  /-- `_measurement`. -/
  measurement : String
  /-- `_id_tag`. -/
  idTag : String
  /-- `_bucket`. -/
  bucket : String

/-- How entities are mapped to points and back. -/
structure Mapping (P R Time T : Type) where
  /-- `_entity_to_point`, with its `time_override`; the base implementation refuses what is no
  dict and what lacks the id tag. -/
  entityToPoint : T → Option Time → Except AdapterError P
  /-- `_record_to_entity`. -/
  recordToEntity : R → T
  /-- `record.get_time()`. -/
  getTime : R → Time
  /-- `str(entity[self._id_tag])`, for a dict with the id tag. -/
  entityId : T → Option String

/-- A call of the client. -/
inductive Command (P : Type) where
  /-- `client.query_api().query(query=…, org=…)`. -/
  | query (client : ℕ) (query org : String)
  /-- `client.write_api().write(bucket=…, org=…, record=…)`. -/
  | write (client : ℕ) (bucket org : String) (record : P)
  /-- `client.delete_api().delete(start=…, stop=…, predicate=…, bucket=…, org=…)`. -/
  | delete (client : ℕ) (start predicate bucket org : String)

/-- The calls and their replies. -/
abbrev commands (P R : Type) : Driver where
  Call := Command P
  Reply
    -- the records of each table
    | .query .. => List (List R)
    | .write .. | .delete .. => Unit

/-- The calls of the adapter. -/
abbrev driver (P R : Type) : Driver := connecting (String × String × String × ℤ) (commands P R)

/-- Await a call. -/
def send {P R : Type} (q : Command P) :
    Operation (driver P R) (Option ℕ) ((commands P R).Reply q) :=
  command (C := commands P R) q

/-- `_wrap_influx(exc, operation)`. -/
def wrapInflux (exc : PyExc) (operation : String) : AdapterError :=
  if exc.isAny [.aiohttpClientError, .osError] then ⟨.connection, operation, some exc⟩
  else if exc.isa .apiException then
    let status := exc.code.getD 0
    if status = 401 ∨ status = 403 then ⟨.configuration, operation, some exc⟩
    else if 500 ≤ status then ⟨.connection, operation, some exc⟩
    else ⟨.query, operation, some exc⟩
  else ⟨.query, operation, some exc⟩

/-- The `except` clauses around the calls of an operation. -/
def commandErrors (operation : String) : Clauses Cls AdapterError :=
  [([.timeoutError], fun exc => ⟨.timeout, operation, some exc⟩),
    ([.apiException, .aiohttpClientError, .osError], fun exc => wrapInflux exc operation)]

/-! ### Flux -/

/-- `entity_id.replace('"', '\\"')`. -/
def escape (entityId : String) : String := entityId.replace "\"" "\\\""

/-- `_filter_clause(entity_id)`. -/
def filterClause (src : Source) (entityId : Option String) : String :=
  let base := s!"r._measurement == \"{src.measurement}\""
  match entityId with
  | some id => base ++ s!" and r[\"{src.idTag}\"] == \"{escape id}\""
  | none => base

/-- `_flux_get_latest(entity_id)`. -/
def fluxGetLatest (settings : Settings) (src : Source) (entityId : String) : String :=
  s!"from(bucket: \"{src.bucket}\")\n" ++
  s!"  |> range(start: {settings.lookback})\n" ++
  s!"  |> filter(fn: (r) => {filterClause src (some entityId)})\n" ++
  "  |> pivot(rowKey: [\"_time\"], columnKey: [\"_field\"], valueColumn: \"_value\")\n" ++
  "  |> sort(columns: [\"_time\"], desc: true)\n" ++
  "  |> limit(n: 1)"

/-- `_flux_list_all()`. -/
def fluxListAll (settings : Settings) (src : Source) : String :=
  s!"from(bucket: \"{src.bucket}\")\n" ++
  s!"  |> range(start: {settings.lookback})\n" ++
  s!"  |> filter(fn: (r) => {filterClause src none})\n" ++
  "  |> pivot(rowKey: [\"_time\"], columnKey: [\"_field\"], valueColumn: \"_value\")\n" ++
  "  |> sort(columns: [\"_time\"])"

/-- The predicate of `delete()`. -/
def deletePredicate (src : Source) (entityId : String) : String :=
  s!"_measurement=\"{src.measurement}\" AND {src.idTag}=\"{escape entityId}\""

/-! ### Operations -/

section Operations

variable {P R Time T : Type} (settings : Settings) (src : Source) (mapping : Mapping P R Time T)

/-- `get_influxdb_client(self._settings)`. -/
def getClient : Operation (driver P R) (Option ℕ) ℕ :=
  getInfluxdbClient.getClient settings.toInfluxDBSettings id fun c _ => some c

/-- `self._entity_to_point(entity, time_override=…)`. -/
def toPoint (entity : T) (timeOverride : Option Time) : Operation (driver P R) (Option ℕ) P :=
  match mapping.entityToPoint entity timeOverride with
  | .ok point => pure point
  | .error err => fail err

/-- `_query_latest_record(entity_id)`: the first record of the first table that has one. -/
def queryLatestRecord (entityId : String) : Operation (driver P R) (Option ℕ) (Option R) := do
  let client ← getClient settings
  let tables : List (List R) ← tryExcept (commandErrors "get")
    (send (.query client (fluxGetLatest settings src entityId) settings.org))
  return tables.flatten.head?

/-- `get(entity_id)`. -/
def get (id : String) : Operation (driver P R) (Option ℕ) (Option T) := do
  let record ← queryLatestRecord settings src id
  return record.map mapping.recordToEntity

/-- `list(limit, offset)`. -/
def list (limit offset : ℤ) : Operation (driver P R) (Option ℕ) (List T × ℤ) := do
  let client ← getClient settings
  let tables : List (List R) ← tryExcept (commandErrors "list")
    (send (.query client (fluxListAll settings src) settings.org))
  let records := tables.flatten
  let page := slice records offset (offset + limit)
  return (page.map mapping.recordToEntity, records.length)

/-- `create(entity)`. -/
def create (entity : T) : Operation (driver P R) (Option ℕ) T := do
  let client ← getClient settings
  let point ← toPoint mapping entity none
  tryExcept (commandErrors "create") (send (.write client src.bucket settings.org point))
  return entity

/-- `update(entity)`. -/
def update (entity : T) : Operation (driver P R) (Option ℕ) (Option T) := do
  match mapping.entityId entity with
  | none => fail ⟨.query, "update", none⟩
  | some id =>
    match ← queryLatestRecord settings src id with
    | none => return none
    | some existing =>
      let client ← getClient settings
      let point ← toPoint mapping entity (some (mapping.getTime existing))
      tryExcept (commandErrors "update") (send (.write client src.bucket settings.org point))
      return some entity

/-- `delete(entity_id)`. -/
def delete (id : String) : Operation (driver P R) (Option ℕ) Bool := do
  match ← queryLatestRecord (P := P) settings src id with
  | none => return false
  | some _ =>
    let client ← getClient settings
    tryExcept (commandErrors "delete") (send (.delete client "1970-01-01T00:00:00Z"
      (deletePredicate src id) src.bucket settings.org))
    return true

/-- `InfluxDBRepository`. -/
def repository : BaseRepository (driver P R) (Option ℕ) T where
  get := Influxdb.get settings src mapping
  list := Influxdb.list settings src mapping
  create := Influxdb.create settings src mapping
  update := Influxdb.update settings src mapping
  delete := Influxdb.delete settings src

end Operations

end OpenframeAdapters.Db.Influxdb
