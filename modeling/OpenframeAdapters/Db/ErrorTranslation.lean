import OpenframeAdapters.Db.Escape
import OpenframeAdapters.Db.Chromadb.Repository
import OpenframeAdapters.Db.Falkordb.Repository
import OpenframeAdapters.Db.Influxdb.Repository
import OpenframeAdapters.Db.Postgres.Repository
import OpenframeAdapters.Db.Redis.Repository

/-!
# Error translation

Every operation of a repository either returns or raises an `AdapterError`: no exception of
the driver should get out as it is. Five repositories are followed here, along each path that
the driver's answers can take an operation.

## The model

* `Translates` — nothing but an `AdapterError` is raised.
* `Sealed` — that is so in every run in which the driver raises only exceptions of its own
  hierarchy.
* `policy`, for each adapter — the classes named around each of its calls, taken from the
  clauses themselves, and the replies that an operation cannot use.

## What is proved

* `translates_iff` — for each operation, the runs that let an exception out are exactly those
  in which the last failure is one that its own call does not name, or a reply that cannot be
  used. Where a driver's first command fails, the factories name fewer classes than the
  operations do around their commands; `close()` of a client is called outside of any clause.
* `names_policy`, for each adapter — the classes that are named around each call: with
  `Policy.escaping_eq_some_iff`, the exceptions that get out.
* `not_allSealed` — a Redis server that is slow to answer the first `PING` gets a
  `redis.exceptions.TimeoutError` out of `get`.
-/

namespace OpenframeAdapters.Db

open Python OpenframeAdapters.Core

/-- The operations of a repository. -/
inductive Crud where
  /-- `get`. -/
  | get
  /-- `list`. -/
  | list
  /-- `create`. -/
  | create
  /-- `update`. -/
  | update
  /-- `delete`. -/
  | delete
  deriving DecidableEq

/-- Something holds of every operation of a repository. -/
structure BaseRepository.Every {D : Driver} {σ T : Type} (r : BaseRepository D σ T)
    (φ : Crud → {α : Type} → Operation D σ α → Prop) : Prop where
  /-- Of `get`. -/
  get : ∀ id, φ .get (r.get id)
  /-- Of `list`. -/
  list : ∀ limit offset, φ .list (r.list limit offset)
  /-- Of `create`. -/
  create : ∀ entity, φ .create (r.create entity)
  /-- Of `update`. -/
  update : ∀ entity, φ .update (r.update entity)
  /-- Of `delete`. -/
  delete : ∀ id, φ .delete (r.delete id)

theorem BaseRepository.Every.mono {D : Driver} {σ T : Type} {r : BaseRepository D σ T}
    {φ ψ : Crud → {α : Type} → Operation D σ α → Prop} (h : r.Every φ)
    (himp : ∀ m {α : Type} (p : Operation D σ α), φ m p → ψ m p) : r.Every ψ where
  get id := himp _ _ (h.get id)
  list limit offset := himp _ _ (h.list limit offset)
  create entity := himp _ _ (h.create entity)
  update entity := himp _ _ (h.update entity)
  delete id := himp _ _ (h.delete id)

/-- An operation that ends so has returned, or raised an `AdapterError`. -/
def Translates {α : Type} (o : Except Raised α) : Prop := rawPart o = none

/-- In these answers, the driver raises only instances of the given classes. -/
def RaisesOnly {D : Driver} (classes : List Cls) (t : List (Answer D PyExc)) : Prop :=
  ∀ a ∈ t, ∀ exc, a.reply = .error exc → exc.isAny classes = true

/-- The operation lets none of the driver's exceptions out. -/
def Sealed {D : Driver} {σ α : Type} (classes : List Cls) (p : Operation D σ α) : Prop :=
  ∀ t o, p.Ends t o → RaisesOnly classes t → Translates o

/-- The operation lets no exception out exactly where none is on its way. -/
def SealedWhen {D : Driver} {σ α : Type} (P : Policy D) (p : Operation D σ α) : Prop :=
  ∀ t o, p.Ends t o → (Translates o ↔ P.escaping t = none)

theorem Exact.sealedWhen {D : Driver} {σ α : Type} {P : Policy D} {p : Operation D σ α}
    (h : Exact P p) : SealedWhen P p := by
  intro t o ht
  rw [Translates, h t o ht]

namespace Redis

variable {F J T : Type} (settings : Settings F) (mapping : Mapping J T)

/-- What is named around a command. -/
def commandNames : List Cls := named (commandErrors "")

/-- The replies that cannot be used: a value that is no JSON. -/
def unusable : (q : Command) → commands.Reply q → Option PyExc
  | .get .., some value => errorOf (decode mapping value)
  | .mget .., values => errorOf ((values.filterMap id).mapM (decode mapping))
  | _, _ => none

/-- What becomes of the answers of Redis. -/
def policy : Policy (driver F) :=
  (getRedisClient F).policy (fun _ => commandNames) (unusable mapping)

/-- The exceptions of the driver. -/
def driverErrors : List Cls := [.redisError, .timeoutError]

/-- Around a command, all of them are named. Around the first `PING`, `TimeoutError` and others are
not. -/
theorem names_policy : ∀ q : (driver F).Call, (policy (F := F) mapping).names q = match q with
    | .inl (.close _) => []
    | .inl _ => [.timeoutError, .redisAuthenticationError, .redisConnectionError, .redisResponseError]
    | .inr _ => [.timeoutError, .redisConnectionError, .redisAuthenticationError, .redisTimeoutError,
        .redisResponseError, .redisDataError, .redisError]
  | .inl (.construct _) | .inl (.connect _) | .inl (.probe _) | .inl (.close _) | .inr _ => rfl

theorem exact_get (id : String) : Exact (policy mapping) (get settings mapping id) := by
  refine exact_of_leaves (leaves_bind (leaves_getClient fun c => ?_))
  refine leaves_bind (leaves_tryExcept (leaves_command rfl fun value => ?_))
  cases value with
  | none => exact rfl
  | some value => exact leaves_bind (leaves_eval fun _ _ => rfl)

theorem exact_list (limit offset : ℤ) :
    Exact (policy mapping) (list settings mapping limit offset) := by
  refine exact_of_leaves (leaves_bind (leaves_getClient fun c => ?_))
  refine leaves_bind (leaves_tryExcept (leaves_bind (leaves_command rfl fun allKeys => ?_)))
  dsimp only
  split_ifs
  · exact leaves_pure (leaves_bind rfl)
  · exact leaves_bind (leaves_command rfl fun values => leaves_bind (leaves_eval fun _ _ => rfl))

theorem exact_create (entity : T) : Exact (policy mapping) (create settings mapping entity) := by
  refine exact_of_leaves (leaves_bind (leaves_getClient fun c => ?_))
  dsimp only
  split_ifs
  · exact leaves_bind (leaves_fail _)
  · refine leaves_bind (leaves_tryExcept (leaves_command rfl fun setOk => ?_))
    split_ifs
    · exact leaves_bind (leaves_fail _)
    · exact rfl

theorem exact_update (entity : T) : Exact (policy mapping) (update settings mapping entity) := by
  refine exact_of_leaves (leaves_bind (leaves_getClient fun c => ?_))
  refine leaves_bind (leaves_tryExcept (leaves_command rfl fun setOk => ?_))
  split_ifs <;> exact rfl

theorem exact_delete (id : String) : Exact (policy mapping) (delete settings id) := by
  refine exact_of_leaves (leaves_bind (leaves_getClient fun c => ?_))
  exact leaves_bind (leaves_tryExcept (leaves_command rfl fun _ => rfl))

theorem exact_repository : (repository settings mapping).Every fun _ => Exact (policy mapping) where
  get := exact_get settings mapping
  list := exact_list settings mapping
  create := exact_create settings mapping
  update := exact_update settings mapping
  delete := exact_delete settings mapping

end Redis

namespace Postgres

variable {F R V T : Type} (settings : PostgresSettings F) (mapping : Mapping R V T) (t : Table)

/-- What is named around a call. -/
def commandNames : List Cls := named (commandErrors "")

/-- The replies that cannot be used: `create()` gets no row back. -/
def unusable (m : Crud) : (q : Command V) → (commands R V).Reply q → Option PyExc
  | .fetchrow .., none => if m = .create then some typeError else none
  | _, _ => none

/-- What becomes of the answers of `asyncpg`. -/
def policy (m : Crud) : Policy (driver F R V) :=
  (getPostgresPool F).policy (fun _ => commandNames) (unusable m)

/-- The exceptions of the driver. -/
def driverErrors : List Cls :=
  [.postgresError, .postgresInterfaceError, .osError, .timeoutError]

/-- Around a command, `OSError` is not named. Around `create_pool`, most of `PostgresError` is not. -/
theorem names_policy (m : Crud) : ∀ q : (driver F R V).Call, (policy m).names q = match q with
    | .inl (.close _) => []
    | .inl _ => [.timeoutError, .invalidCatalogNameError, .invalidPasswordError,
        .cannotConnectNowError, .tooManyConnectionsError, .osError]
    | .inr _ => [.timeoutError, .postgresError, .postgresInterfaceError]
  | .inl (.construct _) | .inl (.connect _) | .inl (.probe _) | .inl (.close _) | .inr _ => rfl

theorem exact_get (id : String) : Exact (policy .get) (get settings mapping t id) := by
  refine exact_of_leaves (leaves_bind (leaves_getClient fun pool => ?_))
  refine leaves_bind (leaves_tryExcept (leaves_command rfl fun row => ?_))
  cases row <;> exact rfl

theorem exact_list (limit offset : ℤ) :
    Exact (policy .list) (list settings mapping t limit offset) := by
  refine exact_of_leaves (leaves_bind (leaves_getClient fun pool => ?_))
  refine leaves_bind (leaves_tryExcept (leaves_bind (leaves_command rfl fun conn => ?_)))
  refine leaves_tryFinally (leaves_bind (leaves_command rfl fun rows => ?_)) fun x => ?_
  · refine leaves_bind (leaves_command rfl fun count => ?_)
    exact leaves_command rfl fun _ => rfl
  · exact leaves_call rfl fun _ => rfl

theorem exact_create (entity : T) : Exact (policy .create) (create settings mapping t entity) := by
  refine exact_of_leaves (leaves_bind (leaves_getClient fun pool => ?_))
  refine leaves_bind (leaves_tryExcept (leaves_command rfl fun row => ?_))
  cases row <;> exact rfl

theorem exact_update (entity : T) : Exact (policy .update) (update settings mapping t entity) := by
  refine exact_of_leaves (leaves_bind (leaves_getClient fun pool => ?_))
  dsimp only
  split_ifs
  · exact leaves_bind (leaves_fail _)
  · refine leaves_bind (leaves_tryExcept (leaves_command rfl fun row => ?_))
    cases row <;> exact rfl

theorem exact_delete (id : String) :
    Exact (policy (R := R) (V := V) .delete) (delete settings t id) := by
  refine exact_of_leaves (leaves_bind (leaves_getClient fun pool => ?_))
  exact leaves_bind (leaves_tryExcept (leaves_command rfl fun _ => rfl))

theorem exact_repository : (repository settings mapping t).Every fun m => Exact (policy m) where
  get := exact_get settings mapping t
  list := exact_list settings mapping t
  create := exact_create settings mapping t
  update := exact_update settings mapping t
  delete := exact_delete settings t

end Postgres

namespace Falkordb

variable {F V T : Type} (settings : Settings F) (mapping : Mapping V T)

/-- What is named around a call. -/
def commandNames : Command V → List Cls
  | .createNodeUniqueConstraint .. => named constraintErrors
  | _ => named (commandErrors "")

/-- The replies that cannot be used: `create()` gets no node back. -/
def unusable (m : Crud) : (q : Command V) → (commands V).Reply q → Option PyExc
  | .nodes .., [] => if m = .create then some indexError else none
  | _, _ => none

/-- What becomes of the answers of FalkorDB. -/
def policy (m : Crud) : Policy (driver F V) :=
  (getFalkordbClient F).policy commandNames (unusable m)

/-- The exceptions of the driver. -/
def driverErrors : List Cls := [.redisError, .timeoutError]

variable {m : Crud}

/-- Around a command, a plain `RedisError` is not named. Around the first `PING`, `ResponseError` and
`TimeoutError` are not named either. -/
theorem names_policy : ∀ q : (driver F V).Call, (policy m).names q = match q with
    | .inl (.close _) => []
    | .inl _ => [.timeoutError, .redisAuthenticationError, .redisConnectionError]
    | .inr (.createNodeUniqueConstraint ..) => [.redisResponseError, .timeoutError,
        .redisConnectionError, .redisAuthenticationError, .redisTimeoutError]
    | .inr _ => [.timeoutError, .redisResponseError, .redisConnectionError, .redisAuthenticationError,
        .redisTimeoutError] := by
  rintro (q | q) <;> cases q <;> rfl

theorem leaves_getGraph {Q : Graph → Option PyExc → Prop} (h : ∀ g, Q g none) :
    Leaves (policy m) [] (getGraph settings : Operation (driver F V) Shared Graph) Q none :=
  leaves_bind (leaves_getClient fun c => h ⟨c, settings.graphName⟩)

/-- The clauses of `_ensure_ready()` let through what they do not name. -/
theorem leaves_constraintFailed {exc : PyExc} {Q : Unit → Option PyExc → Prop} (h : Q () none) :
    Leaves (policy m) [] (constraintFailed (.raw exc) : Operation (driver F V) Shared Unit) Q
      (if exc.isAny (named constraintErrors) then none else some exc) := by
  rw [isAny_named]
  unfold constraintFailed
  dsimp only
  cases dispatch constraintErrors exc with
  | none => exact rfl
  | some err =>
    cases err with
    | none => exact h
    | some err => exact leaves_fail err

theorem leaves_ensureReady {Q : Unit → Option PyExc → Prop} (h : Q () none) :
    Leaves (policy m) [] (ensureReady settings : Operation (driver F V) Shared Unit) Q none := by
  refine leaves_bind (Coro.wp_get.mpr fun s => ?_)
  split_ifs
  · exact h
  · refine leaves_bind (leaves_getGraph settings fun graph => ?_)
    refine leaves_bind (Coro.wp_tryCatch.mpr (Coro.wp_call.mpr ⟨fun _ => h, fun exc => ?_⟩))
    exact leaves_constraintFailed h

theorem exact_get (id : String) : Exact (policy .get) (get settings mapping id) := by
  refine exact_of_leaves (leaves_bind (leaves_ensureReady settings ?_))
  refine leaves_bind (leaves_getGraph settings fun graph => ?_)
  refine leaves_bind (leaves_tryExcept (leaves_command rfl fun result => ?_))
  cases result <;> exact rfl

theorem exact_list (limit offset : ℤ) :
    Exact (policy .list) (list settings mapping limit offset) := by
  refine exact_of_leaves (leaves_bind (leaves_ensureReady settings ?_))
  refine leaves_bind (leaves_getGraph settings fun graph => ?_)
  refine leaves_bind (leaves_tryExcept (leaves_bind (leaves_command rfl fun rows => ?_)))
  cases rows <;> exact leaves_bind (leaves_command rfl fun counts => rfl)

theorem exact_create (entity : T) : Exact (policy .create) (create settings mapping entity) := by
  refine exact_of_leaves (leaves_bind (leaves_ensureReady settings ?_))
  dsimp only
  split_ifs
  · exact leaves_bind (leaves_fail _)
  · refine leaves_bind (leaves_getGraph settings fun graph => ?_)
    refine leaves_bind (leaves_tryExcept (leaves_command rfl fun result => ?_))
    cases result <;> exact rfl

theorem exact_update (entity : T) : Exact (policy .update) (update settings mapping entity) := by
  refine exact_of_leaves (leaves_bind (leaves_ensureReady settings ?_))
  refine leaves_bind (leaves_getGraph settings fun graph => ?_)
  refine leaves_bind (leaves_tryExcept (leaves_command rfl fun result => ?_))
  cases result <;> exact rfl

theorem exact_delete (id : String) :
    Exact (policy (V := V) .delete) (delete settings id) := by
  refine exact_of_leaves (leaves_bind (leaves_ensureReady settings ?_))
  refine leaves_bind (leaves_getGraph settings fun graph => ?_)
  exact leaves_bind (leaves_tryExcept (leaves_command rfl fun _ => rfl))

theorem exact_traverse (query : String) (params : Option (List (String × V))) :
    Exact (policy m) (traverse settings mapping query params) := by
  refine exact_of_leaves (leaves_bind (leaves_getGraph settings fun graph => ?_))
  exact leaves_bind (leaves_tryExcept (leaves_command rfl fun _ => rfl))

theorem exact_repository : (repository settings mapping).Every fun m => Exact (policy m) where
  get := exact_get settings mapping
  list := exact_list settings mapping
  create := exact_create settings mapping
  update := exact_update settings mapping
  delete := exact_delete settings

end Falkordb

namespace Chromadb

variable {V W T : Type} (settings : ChromaDBSettings) (collectionName : String)
  (mapping : Mapping V W T)

/-- What is named around a call. -/
def commandNames : Command V W → List Cls
  | .getOrCreateCollection .. => named collectionErrors
  | .add .. => named createErrors
  | _ => named (commandErrors "")

/-- The replies that cannot be used: columns that are too short. -/
def unusable (m : Crud) : (q : Command V W) → (commands V W).Reply q → Option PyExc
  | .get .., result => if m = .get then errorOf (getResultToRows result) else none
  | .page .., result => errorOf (getResultToRows result)
  | .query .., result => errorOf (queryResultToRows result)
  | _, _ => none

/-- What becomes of the answers of Chroma. -/
def policy (m : Crud) : Policy (driver V W) := getChromadbClient.policy commandNames (unusable m)

/-- The exceptions of the driver. -/
def driverErrors : List Cls := [.chromaError, .httpxTransportError, .valueError, .timeoutError]

variable {m : Crud}

/-- `ValueError` is named around `add()` alone. Around the first call of a client, `ChromaError` is not
named. -/
theorem names_policy : ∀ q : (driver V W).Call, (policy m).names q = match q with
    | .inl (.construct _) | .inl (.close _) => []
    | .inl _ => [.timeoutError, .httpxTimeoutException, .httpxTransportError]
    | .inr (.add ..) => [.timeoutError, .httpxTimeoutException, .httpxTransportError, .chromaError,
        .valueError]
    | .inr _ => [.timeoutError, .httpxTimeoutException, .httpxTransportError, .chromaError] := by
  rintro (q | q) <;> cases q <;> rfl

theorem leaves_getCollection {Q : ℕ → Option PyExc → Prop} (h : ∀ c, Q c none) :
    Leaves (policy m) [] (getCollection settings collectionName : Operation (driver V W) Shared ℕ) Q
      none := by
  refine leaves_bind (Coro.wp_get.mpr fun s => ?_)
  cases s.collection with
  | some c => exact h c
  | none =>
    refine leaves_bind (leaves_getClient fun client => ?_)
    exact leaves_bind (leaves_tryExcept (leaves_command rfl fun c => h c))

theorem exact_get (id : String) :
    Exact (policy .get) (get settings collectionName mapping id) := by
  refine exact_of_leaves (leaves_bind (leaves_getCollection settings collectionName fun c => ?_))
  refine leaves_bind (leaves_tryExcept (leaves_command rfl fun result => ?_))
  exact leaves_bind (leaves_eval fun rows _ => rfl)

theorem exact_list (limit offset : ℤ) :
    Exact (policy .list) (list settings collectionName mapping limit offset) := by
  refine exact_of_leaves (leaves_bind (leaves_getCollection settings collectionName fun c => ?_))
  refine leaves_bind (leaves_tryExcept (leaves_bind (leaves_command rfl fun result => ?_)))
  -- a result that cannot be used is noticed after `count()` has returned
  exact leaves_bind (leaves_call rfl fun total => leaves_bind (leaves_eval fun rows _ => rfl))

theorem exact_create (entity : T) :
    Exact (policy .create) (create settings collectionName mapping entity) := by
  refine exact_of_leaves (leaves_bind (leaves_getCollection settings collectionName fun c => ?_))
  exact leaves_bind (leaves_tryExcept (leaves_command rfl fun _ => rfl))

theorem exact_update (entity : T) :
    Exact (policy .update) (update settings collectionName mapping entity) := by
  refine exact_of_leaves (leaves_bind (leaves_getCollection settings collectionName fun c => ?_))
  refine leaves_tryExcept (leaves_bind (leaves_command rfl fun existing => ?_))
  split_ifs
  · exact rfl
  · exact leaves_bind (leaves_command rfl fun _ => rfl)

theorem exact_delete (id : String) :
    Exact (policy (V := V) (W := W) .delete) (delete settings collectionName id) := by
  refine exact_of_leaves (leaves_bind (leaves_getCollection settings collectionName fun c => ?_))
  refine leaves_tryExcept (leaves_bind (leaves_command rfl fun existing => ?_))
  split_ifs
  · exact rfl
  · exact leaves_bind (leaves_command rfl fun _ => rfl)

theorem exact_search (queryVector : V) (k : ℤ) :
    Exact (policy m) (search settings collectionName mapping queryVector k) := by
  refine exact_of_leaves (leaves_bind (leaves_getCollection settings collectionName fun c => ?_))
  refine leaves_bind (leaves_tryExcept (leaves_command rfl fun result => ?_))
  exact leaves_bind (leaves_eval fun rows _ => rfl)

theorem exact_repository :
    (repository settings collectionName mapping).Every fun m => Exact (policy m) where
  get := exact_get settings collectionName mapping
  list := exact_list settings collectionName mapping
  create := exact_create settings collectionName mapping
  update := exact_update settings collectionName mapping
  delete := exact_delete settings collectionName

end Chromadb

namespace Influxdb

variable {P R Time T : Type} (settings : Settings) (src : Source) (mapping : Mapping P R Time T)

/-- What is named around a call. -/
def commandNames : List Cls := named (commandErrors "")

/-- What becomes of the answers of InfluxDB: every reply can be used. -/
def policy : Policy (driver P R) := getInfluxdbClient.policy fun _ => commandNames

/-- The exceptions of the driver. -/
def driverErrors : List Cls := [.apiException, .aiohttpClientError, .osError, .timeoutError]

/-- Around a command and around the first `ping()`, all of them are named; around `close()`, none. -/
theorem names_policy : ∀ q : (driver P R).Call, policy.names q = match q with
    | .inl (.construct _) | .inl (.close _) => []
    | .inl _ | .inr _ => [.timeoutError, .apiException, .aiohttpClientError, .osError]
  | .inl (.construct _) | .inl (.connect _) | .inl (.probe _) | .inl (.close _) | .inr _ => rfl

theorem leaves_toPoint {entity : T} {timeOverride : Option Time} {Q : P → Option PyExc → Prop}
    (h : ∀ point, Q point none) :
    Leaves (policy (R := R)) [] (toPoint mapping entity timeOverride) Q none := by
  unfold toPoint
  cases mapping.entityToPoint entity timeOverride with
  | ok point => exact h point
  | error err => exact leaves_fail err

theorem leaves_queryLatestRecord {id : String} {Q : Option R → Option PyExc → Prop}
    (h : ∀ record, Q record none) :
    Leaves (policy (P := P)) [] (queryLatestRecord settings src id) Q none := by
  refine leaves_bind (leaves_getClient fun client => ?_)
  exact leaves_bind (leaves_tryExcept (leaves_command rfl fun tables => h _))

theorem exact_get (id : String) :
    Exact (policy (P := P)) (get settings src mapping id) :=
  exact_of_leaves (leaves_bind (leaves_queryLatestRecord settings src fun _ => rfl))

theorem exact_list (limit offset : ℤ) :
    Exact (policy (P := P)) (list settings src mapping limit offset) := by
  refine exact_of_leaves (leaves_bind (leaves_getClient fun client => ?_))
  exact leaves_bind (leaves_tryExcept (leaves_command rfl fun tables => rfl))

theorem exact_create (entity : T) : Exact policy (create settings src mapping entity) := by
  refine exact_of_leaves (leaves_bind (leaves_getClient fun client => ?_))
  refine leaves_bind (leaves_toPoint mapping fun point => ?_)
  exact leaves_bind (leaves_tryExcept (leaves_command rfl fun _ => rfl))

theorem exact_update (entity : T) : Exact policy (update settings src mapping entity) := by
  refine exact_of_leaves ?_
  unfold update
  cases mapping.entityId entity with
  | none => exact leaves_fail _
  | some id =>
    refine leaves_bind (leaves_queryLatestRecord settings src fun record => ?_)
    cases record with
    | none => exact rfl
    | some existing =>
      refine leaves_bind (leaves_getClient fun client => ?_)
      refine leaves_bind (leaves_toPoint mapping fun point => ?_)
      exact leaves_bind (leaves_tryExcept (leaves_command rfl fun _ => rfl))

theorem exact_delete (id : String) :
    Exact (policy (P := P) (R := R)) (delete settings src id) := by
  refine exact_of_leaves (leaves_bind (leaves_queryLatestRecord settings src fun record => ?_))
  cases record with
  | none => exact rfl
  | some existing =>
    refine leaves_bind (leaves_getClient fun client => ?_)
    exact leaves_bind (leaves_tryExcept (leaves_command rfl fun _ => rfl))

theorem exact_repository : (repository settings src mapping).Every fun _ => Exact (policy) where
  get := exact_get settings src mapping
  list := exact_list settings src mapping
  create := exact_create settings src mapping
  update := exact_update settings src mapping
  delete := exact_delete settings src

end Influxdb

/-! ### All of them -/

/-- No operation of the five repositories lets an exception of its driver out. -/
def AllSealed : Prop :=
  ∀ {F J R V W P Time T : Type} (redis : Redis.Settings F) (json : Redis.Mapping J T)
    (postgres : PostgresSettings F) (rows : Postgres.Mapping R V T) (t : Postgres.Table)
    (falkordb : Falkordb.Settings F) (nodes : Falkordb.Mapping V T)
    (chromadb : ChromaDBSettings) (collection : String) (vectors : Chromadb.Mapping V W T)
    (influxdb : Influxdb.Settings) (src : Influxdb.Source) (points : Influxdb.Mapping P R Time T),
    ((Redis.repository redis json).Every fun _ => Sealed Redis.driverErrors) ∧
    ((Postgres.repository postgres rows t).Every fun _ => Sealed Postgres.driverErrors) ∧
    ((Falkordb.repository falkordb nodes).Every fun _ => Sealed Falkordb.driverErrors) ∧
    (∀ query params, Sealed Falkordb.driverErrors
      (Falkordb.traverse falkordb nodes query params)) ∧
    ((Chromadb.repository chromadb collection vectors).Every fun _ =>
      Sealed Chromadb.driverErrors) ∧
    (∀ queryVector k, Sealed Chromadb.driverErrors
      (Chromadb.search chromadb collection vectors queryVector k)) ∧
    ((Influxdb.repository influxdb src points).Every fun _ => Sealed Influxdb.driverErrors)

/-- **Which runs are translated**: an operation returns or raises an `AdapterError` exactly
where the last failure among the driver's answers is one that the clauses around its call name,
and no reply has come that cannot be used. -/
theorem translates_iff {F J R V W P Time T : Type} (redis : Redis.Settings F)
    (json : Redis.Mapping J T) (postgres : PostgresSettings F) (rows : Postgres.Mapping R V T)
    (t : Postgres.Table) (falkordb : Falkordb.Settings F) (nodes : Falkordb.Mapping V T)
    (chromadb : ChromaDBSettings) (collection : String) (vectors : Chromadb.Mapping V W T)
    (influxdb : Influxdb.Settings) (src : Influxdb.Source) (points : Influxdb.Mapping P R Time T) :
    ((Redis.repository redis json).Every fun _ => SealedWhen (Redis.policy json)) ∧
    ((Postgres.repository postgres rows t).Every fun m => SealedWhen (Postgres.policy m)) ∧
    ((Falkordb.repository falkordb nodes).Every fun m => SealedWhen (Falkordb.policy m)) ∧
    (∀ query params, SealedWhen (Falkordb.policy .get)
      (Falkordb.traverse falkordb nodes query params)) ∧
    ((Chromadb.repository chromadb collection vectors).Every fun m =>
      SealedWhen (Chromadb.policy m)) ∧
    (∀ queryVector k, SealedWhen (Chromadb.policy .get)
      (Chromadb.search chromadb collection vectors queryVector k)) ∧
    ((Influxdb.repository influxdb src points).Every fun _ => SealedWhen Influxdb.policy) := by
  refine ⟨(Redis.exact_repository redis json).mono fun _ _ _ => Exact.sealedWhen,
    (Postgres.exact_repository postgres rows t).mono fun _ _ _ => Exact.sealedWhen,
    (Falkordb.exact_repository falkordb nodes).mono fun _ _ _ => Exact.sealedWhen,
    fun query params => (Falkordb.exact_traverse falkordb nodes query params).sealedWhen,
    (Chromadb.exact_repository chromadb collection vectors).mono fun _ _ _ => Exact.sealedWhen,
    fun queryVector k =>
      (Chromadb.exact_search chromadb collection vectors queryVector k).sealedWhen,
    (Influxdb.exact_repository influxdb src points).mono fun _ _ _ => Exact.sealedWhen⟩

/-! ### A slow Redis -/

/-- An instance of exactly `redis.exceptions.TimeoutError`. -/
def pingTimeout : PyExc := redisTimeoutError

/-- The default settings of Redis. -/
def localRedis : Redis.Settings Unit where
  url := "redis://localhost"
  maxConnections := 10
  socketTimeout := ()
  socketConnectTimeout := ()
  keyPrefix := "openframe"
  defaultTtl := 0

/-- Entities that are their own JSON. -/
def plainJson : Redis.Mapping Unit Unit :=
  ⟨fun _ => .empty, id, fun _ => "", fun _ => .ok (), fun _ => ""⟩

/-- Entities that are rows of PostgreSQL. -/
def plainRows : Postgres.Mapping Unit Unit Unit := ⟨id, fun _ => .empty⟩

/-- Entities that are nodes of FalkorDB. -/
def plainNodes : Falkordb.Mapping Unit Unit := ⟨fun _ => .empty, fun _ => (), id, fun _ => ""⟩

/-- Entities that are rows of a collection of ChromaDB. -/
def plainVectors : Chromadb.Mapping Unit Unit Unit := ⟨fun _ => (), fun _ => ⟨"", none, none, none⟩⟩

/-- Entities that are points of InfluxDB. -/
def plainPoints : Influxdb.Mapping Unit Unit Unit Unit :=
  ⟨fun _ _ => .ok (), id, id, fun _ => none⟩

/-- The client is constructed, and its first `PING` takes longer than the socket timeout. -/
def slowPing : List (Answer (Redis.driver Unit) PyExc) :=
  [⟨.inl (.construct ("redis://localhost", 10, (), ())), .ok (0 : ℕ)⟩,
    ⟨.inl (.probe 0), .error pingTimeout⟩]

theorem ends_slowPing : (Redis.get localRedis plainJson "x").Ends slowPing
    (.error (.raw pingTimeout)) := by
  refine .read none ?_
  exact .await (D := Redis.driver Unit) (q := .inl (.construct ("redis://localhost", 10, (), ())))
    (.ok (0 : ℕ)) (.await (D := Redis.driver Unit) (q := .inl (.probe 0)) (.error pingTimeout)
      (.raise _))

/-- In the run of a slow first `PING`, `get()` of Redis raises what is not an `AdapterError`, and what is
on its way out is not nothing. -/
theorem translates_iff_slowPing : ¬ Translates (α := Option Unit) (.error (.raw pingTimeout)) ∧
    (Redis.policy plainJson).escaping slowPing ≠ none := by
  have hraw : ¬ Translates (α := Option Unit) (.error (.raw pingTimeout)) := nofun
  have hget := (translates_iff localRedis plainJson ⟨"", 1, (), (), 1⟩ plainRows ⟨"items", "id"⟩
    ⟨⟨"", 0, none, false, (), ()⟩, "g", "Entity"⟩ plainNodes ⟨"", 0, false, "", ""⟩ "c" plainVectors
    ⟨⟨"", "", "", 0⟩, "-30d"⟩ ⟨"m", "id", "b"⟩ plainPoints).1.get "x" slowPing _ ends_slowPing
  exact ⟨hraw, fun hnone => hraw (hget.mpr hnone)⟩

/-- All exceptions of that run are the driver's own. -/
theorem raisesOnly_slowPing : RaisesOnly Redis.driverErrors slowPing := by
  intro a ha exc he
  simp only [slowPing, List.mem_cons, List.not_mem_nil, or_false] at ha
  rcases ha with rfl | rfl
  · cases he
  · cases he
    rfl

/-- One of the driver's own exceptions gets out. -/
theorem not_allSealed : ¬ AllSealed := by
  intro hall
  have hget := (hall localRedis plainJson ⟨"", 1, (), (), 1⟩ plainRows ⟨"items", "id"⟩
    ⟨⟨"", 0, none, false, (), ()⟩, "g", "Entity"⟩ plainNodes ⟨"", 0, false, "", ""⟩ "c" plainVectors
    ⟨⟨"", "", "", 0⟩, "-30d"⟩ ⟨"m", "id", "b"⟩ plainPoints).1.get "x" slowPing _ ends_slowPing
  cases hget raisesOnly_slowPing

end OpenframeAdapters.Db
