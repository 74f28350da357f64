import Mathlib.Data.Bool.AllAny
import Mathlib.Data.Int.Notation
import OpenframeAdapters.Db.Repository
import OpenframeAdapters.Python.Dict

/-!
# The Mongo repository

`MongoRepository` of `db/mongo/repository.py`. Entities are the documents of one collection,
addressed by `_id`.

## The model

The state that the operations share is the entry of `_client_cache`; `get_mongo_client` constructs
a client without awaiting anything. Field values other than `None`, strings and `ObjectId`s are a
parameter `V`, as is what the subclass maps entities with (`Mapping`). An `ObjectId` is the text
that `str()` gives for it: 24 hexadecimal digits, in lower case. The time limits that the calls hand
to the server are left out.
-/

namespace OpenframeAdapters.Db.Mongo

open Python OpenframeAdapters.Core

/-! ### Ids -/

/-- The lower-case hexadecimal digits. -/
def lowerHexDigits : List Char :=
  ['0', '1', '2', '3', '4', '5', '6', '7', '8', '9', 'a', 'b', 'c', 'd', 'e', 'f']

/-- All hexadecimal digits. -/
def hexDigits : List Char := lowerHexDigits ++ ['A', 'B', 'C', 'D', 'E', 'F']

/-- `str` gives texts of this form for an `ObjectId`. -/
def isCanonical (s : String) : Bool :=
  s.toList.length = 24 && s.toList.all (lowerHexDigits.contains ·)

/-- `ObjectId(s)` accepts the string. -/
def isHex (s : String) : Bool := s.toList.length = 24 && s.toList.all (hexDigits.contains ·)

/-- The string in lower case. -/
def lower (s : String) : String := String.ofList (s.toList.map Char.toLower)

theorem isCanonical_lower {s : String} (h : isHex s = true) : isCanonical (lower s) = true := by
  have hdigit : ∀ c ∈ hexDigits, c.toLower ∈ lowerHexDigits :=
    List.all_iff_forall_prop.mp (by decide)
  simp only [isHex, Bool.and_eq_true, decide_eq_true_eq, List.all_eq_true,
    List.contains_iff_mem] at h
  simp only [isCanonical, lower, String.toList_ofList, List.length_map, h.1, decide_true,
    Bool.true_and, List.all_map, List.all_eq_true, Function.comp, List.contains_iff_mem]
  exact fun c hc => hdigit c (h.2 c hc)

/-- A `bson.ObjectId`. -/
structure ObjectId where
  /-- `str(oid)`. -/
  text : String
  /-- The text is in canonical form. -/
  canonical : isCanonical text = true
  deriving DecidableEq

/-- The value of a field. -/
inductive Value (V : Type) where
  /-- `None`. -/
  | none
  /-- A string. -/
  | str (s : String)
  /-- An `ObjectId`. -/
  | oid (o : ObjectId)
  /-- Any other value. -/
  | other (v : V)
  deriving DecidableEq

/-- A document. -/
abbrev Doc (V : Type) := Dict String (Value V)

section Ids

variable {V : Type}

/-- `_normalise_id(entity_id)`. -/
def normaliseId (entityId : String) : Value V :=
  if h : isHex entityId = true then .oid ⟨lower entityId, isCanonical_lower h⟩ else .str entityId

/-- `str(value)`. -/
def Value.toText (str : V → String) : Value V → String
  | .none => "None"
  | .str s => s
  | .oid o => o.text
  | .other v => str v

/-- `bool(value)`. -/
def Value.truthy (bool : V → Bool) : Value V → Bool
  | .none => false
  | .str s => s ≠ ""
  | .oid _ => true
  | .other v => bool v

/-- `_serialise_doc(doc)`. -/
def serialiseDoc (str : V → String) (doc : Doc V) : Doc V :=
  match doc.get? "_id" with
  | some id =>
    let result := doc.set "_id" (.str (id.toText str))
    if (result.get? "id").isSome then result else result.set "id" (.str (id.toText str))
  | none => doc

end Ids

/-! ### Calls -/

/-- `MongoSettings`. -/
structure MongoSettings where
  /-- `mongo_url`. -/
  url : String
  /-- `mongo_database`. -/
  database : String
  /-- `mongo_min_pool_size`. -/
  minPoolSize : ℤ
  /-- `mongo_max_pool_size`. -/
  maxPoolSize : ℤ
  /-- `mongo_server_selection_timeout_ms`. -/
  serverSelectionTimeoutMs : ℤ
  /-- `mongo_tls`. -/
  tls : Bool
  /-- `mongo_tls_allow_invalid_certs`. -/
  tlsAllowInvalidCerts : Bool

/-- What the client is constructed with. -/
abbrev Arguments := String × ℤ × ℤ × ℤ × Bool × Option Bool

/-- How entities are mapped to documents and back, and what Python makes of other values. -/
structure Mapping (V T : Type) where
  /-- `_doc_to_entity`. -/
  docToEntity : Doc V → T
  /-- `_entity_to_doc`. -/
  entityToDoc : T → Doc V
  /-- `str(value)`. -/
  str : V → String
  /-- `bool(value)`. -/
  bool : V → Bool

/-- A collection: `client[database][name]`. -/
structure Collection where
  /-- The client. -/
  client : ℕ
  /-- The name of the database. -/
  database : String
  /-- The name of the collection. -/
  name : String

/-- A call of a collection. -/
inductive Command (V : Type) where
  /-- `col.find_one({"_id": id})`. -/
  | findOne (col : Collection) (id : Value V)
  /-- `col.find({}).skip(skip).limit(limit)`, and its `to_list(length=limit)`. -/
  | find (col : Collection) (skip limit : ℤ)
  /-- `col.count_documents({})`. -/
  | countDocuments (col : Collection)
  /-- `col.insert_one(doc)`. -/
  | insertOne (col : Collection) (doc : Doc V)
  /-- `col.find_one_and_update({"_id": id}, {"$set": doc}, return_document=True)`. -/
  | findOneAndUpdate (col : Collection) (id : Value V) (doc : Doc V)
  /-- `col.delete_one({"_id": id})`. -/
  | deleteOne (col : Collection) (id : Value V)

/-- The calls and their replies. -/
abbrev commands (V : Type) : Driver where
  Call := Command V
  Reply
    | .findOne .. | .findOneAndUpdate .. => Option (Doc V)
    | .find .. => List (Doc V)
    | .countDocuments _ => ℤ
    -- `result.inserted_id`
    | .insertOne .. => Value V
    -- `result.deleted_count`
    | .deleteOne .. => ℤ

/-- The calls of the adapter. -/
abbrev driver (V : Type) : Driver := connecting Arguments (commands V)

/-- Await a call. -/
def send {V : Type} (q : Command V) : Operation (driver V) (Option ℕ) ((commands V).Reply q) :=
  command (C := commands V) q

/-- `_wrap_pymongo(exc, operation)`. -/
def wrapPymongo (exc : PyExc) (operation : String) : AdapterError :=
  if exc.isa .timeoutError then ⟨.timeout, operation, some exc⟩
  else if exc.isAny [.pymongoServerSelectionTimeoutError, .pymongoConnectionFailure] then
    ⟨.connection, operation, some exc⟩
  else ⟨.query, operation, some exc⟩

/-- The `except` clause around the calls of an operation. -/
def commandErrors (operation : String) : Clauses Cls AdapterError :=
  [([.timeoutError, .pymongoServerSelectionTimeoutError, .pymongoConnectionFailure,
    .pymongoDuplicateKeyError, .pymongoWriteError, .pymongoOperationFailure, .pymongoError],
      fun exc => wrapPymongo exc operation)]

/-! ### Operations -/

section Operations

variable {V T : Type} (settings : MongoSettings) (collName : String) (mapping : Mapping V T)

/-- What `get_mongo_client` calls the driver with. -/
def arguments : Arguments :=
  (settings.url, settings.serverSelectionTimeoutMs, settings.minPoolSize, settings.maxPoolSize,
    settings.tls, if settings.tls then some settings.tlsAllowInvalidCerts else none)

/-- `get_mongo_client(settings)`. -/
def getMongoClient : Operation (driver V) (Option ℕ) ℕ := do
  match ← .get with
  | some client => return client
  | none =>
    let client : ℕ ← tryExcept
      [([.pymongoConfigurationError], fun exc => ⟨.configuration, "init", some exc⟩)]
      (call (D := driver V) (.inl (.construct (arguments settings))))
    .modify fun _ => some client
    return client

/-- `_get_collection()`. -/
def getCollection : Operation (driver V) (Option ℕ) Collection := do
  return ⟨← getMongoClient settings, settings.database, collName⟩

/-- `self._doc_to_entity(self._serialise_doc(dict(doc)))`. -/
def toEntity (doc : Doc V) : T := mapping.docToEntity (serialiseDoc mapping.str doc)

/-- `get(entity_id)`. -/
def get (id : String) : Operation (driver V) (Option ℕ) (Option T) := do
  let col ← getCollection settings collName
  let doc : Option (Doc V) ← tryExcept (commandErrors "get") (send (.findOne col (normaliseId id)))
  return doc.map (toEntity mapping)

/-- `list(limit, offset)`. -/
def list (limit offset : ℤ) : Operation (driver V) (Option ℕ) (List T × ℤ) := do
  let col ← getCollection settings collName
  let (docs, total) ← tryExcept (commandErrors "list") do
    let docs : List (Doc V) ← send (.find col offset limit)
    let total : ℤ ← send (.countDocuments col)
    return (docs, total)
  return (docs.map (toEntity mapping), total)

/-- What `create()` inserts: an `id` without an `_id` is made one. -/
def docToInsert (doc : Doc V) : Doc V :=
  match doc.get? "id", doc.get? "_id" with
  | some id, none => (doc.erase "id").set "_id" (normaliseId (id.toText mapping.str))
  | _, _ => doc

/-- `create(entity)`. -/
def create (entity : T) : Operation (driver V) (Option ℕ) T := do
  let col ← getCollection settings collName
  let doc := docToInsert mapping (mapping.entityToDoc entity)
  let inserted : Option (Doc V) ← tryExcept (commandErrors "create") do
    let insertedId : Value V ← send (.insertOne col doc)
    send (.findOne col insertedId)
  match inserted with
  | some doc => return toEntity mapping doc
  -- `dict(None)`
  | none => eval (.error typeError)

/-- `doc.pop("_id", None) or doc.pop("id", None)`, and what is left of `doc`. -/
def popId (doc : Doc V) : Value V × Doc V :=
  let id := (doc.get? "_id").getD .none
  if id.truthy mapping.bool then (id, doc.erase "_id")
  else ((doc.get? "id").getD .none, (doc.erase "_id").erase "id")

/-- `update(entity)`. -/
def update (entity : T) : Operation (driver V) (Option ℕ) (Option T) := do
  let col ← getCollection settings collName
  match popId mapping (mapping.entityToDoc entity) with
  | (.none, _) => fail ⟨.query, "update", none⟩
  | (id, doc) =>
    let result : Option (Doc V) ← tryExcept (commandErrors "update")
      (send (.findOneAndUpdate col (normaliseId (id.toText mapping.str)) doc))
    return result.map (toEntity mapping)

/-- `delete(entity_id)`. -/
def delete (id : String) : Operation (driver V) (Option ℕ) Bool := do
  let col ← getCollection settings collName
  let deletedCount : ℤ ← tryExcept (commandErrors "delete") (send (.deleteOne col (normaliseId id)))
  return deletedCount = 1

/-- `MongoRepository`. -/
def repository : BaseRepository (driver V) (Option ℕ) T where
  get := Mongo.get settings collName mapping
  list := Mongo.list settings collName mapping
  create := Mongo.create settings collName mapping
  update := Mongo.update settings collName mapping
  delete := Mongo.delete settings collName

end Operations

end OpenframeAdapters.Db.Mongo
