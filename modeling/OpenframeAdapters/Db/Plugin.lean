import OpenframeAdapters.Db.Factories
import OpenframeAdapters.Db.Repository

/-!
# Plugins

`PostgresPlugin`, `CassandraPlugin` and `InfluxDBPlugin` of `db/*/plugin.py`. A plugin that is given a
table, or a measurement, makes a repository. Without one it has nothing but the client.

## The model

The three plugins share their code (`Plugin`), and differ in their factory and in the check that they
make. Of a `PluginHealth` the status is kept; the texts are left out, and so are the time limits. The
repository has the same settings as the plugin, so the cache has one entry for both. `health()` and
`close()` of the repository are those of the base class.

`put` notes which clients have been put in the cache. No function reads it.
-/

namespace OpenframeAdapters.Db

open Python OpenframeAdapters.Core

/-- `PluginStatus`. -/
inductive PluginStatus where
  /-- `REGISTERED`. -/
  | registered
  /-- `INITIALIZED`. -/
  | initialized
  /-- `READY`. -/
  | ready
  /-- `FAILED`. -/
  | failed
  /-- `STOPPING`. -/
  | stopping
  /-- `STOPPED`. -/
  | stopped
  deriving DecidableEq

/-- A plugin, and the entry of the cache that it uses. -/
structure PluginState where
  /-- `_status`. -/
  status : PluginStatus
  /-- `_repo` is not `None`. -/
  repo : Bool
  /-- The entry of the module-level cache. -/
  cached : Option ℕ
  /-- The clients that have been put there. -/
  put : List ℕ

/-- The connectivity check: a query, or `ping()`, on a client. -/
abbrev checks : Driver where
  Call := ℕ × String
  -- what `ping()` returns
  Reply _ := Bool

/-- A plugin. -/
structure Plugin (S K A : Type) where
  /-- `get_*`. -/
  factory : Factory S K A
  /-- `_settings`. -/
  settings : S
  /-- `_table`, or `_measurement`. -/
  source : String
  /-- What the constructor of `_repository_class` raises, if it does. -/
  refusal : Option Raised
  /-- The check. -/
  query : String
  /-- A check that returns has passed. -/
  passes : Bool → Bool

/-- `except Exception` catches it. -/
def isException : Raised → Bool
  | .adapter _ => true
  | .raw exc => exc.isa .exception

namespace Plugin

variable {S K A : Type} (p : Plugin S K A)

/-- A coroutine of the plugin. -/
abbrev Method (A α : Type) := Operation (connecting A checks) PluginState α

/-- `get_*(self._settings)`. -/
def getClient : Method A ℕ :=
  p.factory.getClient p.settings PluginState.cached
    fun c s => { s with cached := some c, put := c :: s.put }

/-- The check on a client. -/
def check (client : ℕ) : Method A Bool := command (C := checks) (client, p.query)

/-- `health()` of the repository, and of a plugin without one: `except Exception` makes it `FAILED`. -/
def checkHealth : Method A PluginStatus :=
  Coro.tryCatch (do
    let client ← p.getClient
    if p.passes (← p.check client) then return .ready
    else return .failed)
    fun x => if isException x then pure .failed else .raise x

/-- `AdapterConnectionError(…, operation="initialize")`. -/
def cannotInitialize : AdapterError := ⟨.connection, "initialize", none⟩

/-- What `initialize()` does with the client. -/
def verify (client : ℕ) : Method A Unit :=
  if p.source ≠ "" then
    match p.refusal with
    | some x => .raise x
    | none => do
      .modify fun s => { s with repo := true }
      if (← p.checkHealth) ≠ .ready then
        fail cannotInitialize
  else
    tryExcept [([.exception], fun _ => cannotInitialize)] do
      if !p.passes (← p.check client) then
        fail cannotInitialize

/-- `initialize(context)`. -/
def initializePlugin : Method A Unit := do
  .modify fun s => { s with status := .initialized }
  Coro.tryCatch (do
    p.verify (← p.getClient)
    .modify fun s => { s with status := .ready })
    fun x => do
      if isException x then
        .modify fun s => { s with status := .failed }
      .raise x

/-- `health()`. -/
def health : Method A PluginStatus := do
  if (← .get).status ≠ .ready then return .failed
  else p.checkHealth

/-- `close()` of the repository. -/
def closeRepository : Method A Unit := do
  match (← .get).cached with
  | some client =>
    call (D := connecting A checks) (.inl (.close client))
    .modify fun s => { s with cached := none }
  | none => return ()

/-- `shutdown()`. -/
def shutdown : Method A Unit := do
  .modify fun s => { s with status := .stopping }
  Coro.tryFinally
    (Coro.tryCatch (do if (← .get).repo then closeRepository)
      fun x => if isException x then pure () else .raise x)
    (.modify fun s => { s with status := .stopped })

end Plugin

/-! ### The three plugins -/

/-- `PostgresPlugin`. -/
def postgresPlugin {F : Type} (settings : PostgresSettings F) (table : String)
    (refusal : Option Raised) :
    Plugin (PostgresSettings F) (String × ℤ × F × F × ℤ) (String × ℤ × ℤ × F × F × ℤ) where
  factory := getPostgresPool F
  settings := settings
  source := table
  refusal := refusal
  query := "SELECT 1"
  passes _ := true

/-- `CassandraPlugin`. -/
def cassandraPlugin (settings : CassandraSettings) (table : String) (refusal : Option Raised) :
    Plugin CassandraSettings SessionCacheKey CassandraArguments where
  factory := getCassandraSession
  settings := settings
  source := table
  refusal := refusal
  query := "SELECT now() FROM system.local"
  passes _ := true

/-- `InfluxDBPlugin`. -/
def influxdbPlugin (settings : InfluxDBSettings) (measurement : String) (refusal : Option Raised) :
    Plugin InfluxDBSettings (String × String × String × ℤ) (String × String × String × ℤ) where
  factory := getInfluxdbClient
  settings := settings
  source := measurement
  refusal := refusal
  query := "ping()"
  passes ok := ok

end OpenframeAdapters.Db
