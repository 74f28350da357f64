import OpenframeAdapters.Db.Factories
import OpenframeAdapters.Db.Repository
import OpenframeAdapters.Python.Dict
import OpenframeAdapters.Python.Sequence

/-!
# The Redis repository

`RedisRepository` of `db/redis/repository.py`. Entities are stored as JSON under the key
`{prefix}:{entity_id}`.

## The model

The state that the operations share is the entry of `_client_cache`. JSON values `J` and
what the subclass maps entities with are parameters (`Mapping`); an entity that cannot be
serialised is the caller's error, and left out. `scan_iter` makes several round trips; it
stands as one call, which returns every key in the order they come.
-/

namespace OpenframeAdapters.Db.Redis

open Python OpenframeAdapters.Core

/-- The settings that the operations read, next to those of the client. -/
structure Settings (F : Type) extends RedisSettings F where
  /-- `redis_key_prefix`. -/
  keyPrefix : String
  /-- `redis_default_ttl`. -/
  defaultTtl : ℤ

/-- How entities are mapped to JSON and back. -/
structure Mapping (J T : Type) where
  /-- `_entity_to_dict`. -/
  entityToDict : T → Dict String J
  /-- `_dict_to_entity`. -/
  dictToEntity : J → T
  /-- `json.dumps`. -/
  dumps : Dict String J → String
  /-- `json.loads`. -/
  loads : String → Except PyExc J
  /-- `str` of a JSON value. -/
  str : J → String

/-- A command. The client it is sent through comes first. -/
inductive Command where
  /-- `client.get(key)`. -/
  | get (client : ℕ) (key : String)
  /-- `client.scan_iter(match=pattern, count=100)`. -/
  | scanIter (client : ℕ) (pattern : String)
  /-- `client.mget(*keys)`. -/
  | mget (client : ℕ) (keys : List String)
  /-- `client.set(key, value, nx=…, xx=…, ex=…)`. -/
  | set (client : ℕ) (key value : String) (nx xx : Bool) (ex : Option ℤ)
  /-- `client.delete(key)`. -/
  | delete (client : ℕ) (key : String)

/-- The commands and their replies. -/
abbrev commands : Driver where
  Call := Command
  Reply
    | .get .. => Option String
    | .scanIter .. => List String
    | .mget .. => List (Option String)
    | .set .. => Option Bool
    | .delete .. => ℤ

/-- The calls of the adapter. -/
abbrev driver (F : Type) : Driver := connecting (String × ℤ × F × F) commands

/-- Await a command. -/
def send {F : Type} (q : Command) : Operation (driver F) (Option ℕ) (commands.Reply q) :=
  command (C := commands) q

/-- `_wrap_redis(exc, operation)`. -/
def wrapRedis (exc : PyExc) (operation : String) : AdapterError :=
  if exc.isa .timeoutError then ⟨.timeout, operation, some exc⟩
  else if exc.isAny [.redisConnectionError, .redisAuthenticationError] then
    ⟨.connection, operation, some exc⟩
  else ⟨.query, operation, some exc⟩

/-- The `except` clause around the commands of an operation. -/
def commandErrors (operation : String) : Clauses Cls AdapterError :=
  [([.timeoutError, .redisConnectionError, .redisAuthenticationError, .redisTimeoutError,
    .redisResponseError, .redisDataError, .redisError], fun exc => wrapRedis exc operation)]

section Operations

variable {F J T : Type} (settings : Settings F) (mapping : Mapping J T)

/-- `_make_key(entity_id)`. -/
def makeKey (entityId : String) : String := settings.keyPrefix ++ ":" ++ entityId

/-- `get_redis_client(self._settings)`. -/
def getClient : Operation (driver F) (Option ℕ) ℕ :=
  (getRedisClient F).getClient settings.toRedisSettings id fun c _ => some c

/-- `str(data.get("id", ""))`. -/
def entityId (data : Dict String J) : String :=
  match data.get? "id" with
  | some v => mapping.str v
  | none => ""

/-- `settings.redis_default_ttl or None`. -/
def ttl : Option ℤ := if settings.defaultTtl = 0 then none else some settings.defaultTtl

/-- `self._dict_to_entity(json.loads(value))`. -/
def decode (value : String) : Except PyExc T := (mapping.loads value).map mapping.dictToEntity

/-- `get(entity_id)`. -/
def get (id : String) : Operation (driver F) (Option ℕ) (Option T) := do
  let client ← getClient settings
  let value ← tryExcept (commandErrors "get") (send (.get client (makeKey settings id)))
  match value with
  | none => return none
  | some value => return some (← eval (decode mapping value))

/-- `list(limit, offset)`. -/
def list (limit offset : ℤ) : Operation (driver F) (Option ℕ) (List T × ℤ) := do
  let client ← getClient settings
  let (values, total) ← tryExcept (commandErrors "list") do
    let allKeys : List String ← send (.scanIter client (settings.keyPrefix ++ ":*"))
    let pageKeys := slice (allKeys.mergeSort (· ≤ ·)) offset (offset + limit)
    if pageKeys.isEmpty then
      -- `return [], total`
      return ([], allKeys.length)
    else
      return (← send (.mget client pageKeys), allKeys.length)
  let entities ← eval ((values.filterMap id).mapM (decode mapping))
  return (entities, total)

/-- `create(entity)`. -/
def create (entity : T) : Operation (driver F) (Option ℕ) T := do
  let client ← getClient settings
  let data := mapping.entityToDict entity
  let id := entityId mapping data
  if id = "" then
    fail ⟨.query, "create", none⟩
  let setOk ← tryExcept (commandErrors "create")
    (send (.set client (makeKey settings id) (mapping.dumps data) true false (ttl settings)))
  if setOk ≠ some true then
    fail ⟨.query, "create", none⟩
  return entity

/-- `update(entity)`. -/
def update (entity : T) : Operation (driver F) (Option ℕ) (Option T) := do
  let client ← getClient settings
  let data := mapping.entityToDict entity
  let id := entityId mapping data
  let setOk ← tryExcept (commandErrors "update")
    (send (.set client (makeKey settings id) (mapping.dumps data) false true (ttl settings)))
  if setOk ≠ some true then
    return none
  return some entity

/-- `delete(entity_id)`. -/
def delete (id : String) : Operation (driver F) (Option ℕ) Bool := do
  let client ← getClient settings
  let deleted : ℤ ← tryExcept (commandErrors "delete")
    (send (.delete client (makeKey settings id)))
  return 0 < deleted

/-- `RedisRepository`. -/
def repository : BaseRepository (driver F) (Option ℕ) T where
  get := Redis.get settings mapping
  list := Redis.list settings mapping
  create := Redis.create settings mapping
  update := Redis.update settings mapping
  delete := Redis.delete settings

end Operations

end OpenframeAdapters.Db.Redis
