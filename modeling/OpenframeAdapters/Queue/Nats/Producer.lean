import Mathlib.Logic.Function.Basic
import OpenframeAdapters.Python.Tasks
import OpenframeAdapters.Queue.Producer

/-!
# The NATS producer

`NatsProducer` of `queue/nats/producer.py`, and `wrap_nats` of `queue/nats/errors.py`.
The calls share the fields `_nc` and `_js`.

## The model

A task is one call, and its states are the awaits,

    start           await nats.connect(…)             connecting
                    await self._js.add_stream(…)      ensuring
    publish         await self._js.publish(…)         sending
    publish_batch   await self._js.publish(…)         sending
    close           await self._nc.close()            closing

`self._nc.jetstream()` is synchronous; the event that ends the connect says whether it
raises. A connection is opened by `connect()` returning, and closed by calling `close()`
on it; a connect that raises opens none. The JetStream context is named by its connection.
-/

namespace OpenframeAdapters.Queue.NatsProducer

open Python OpenframeAdapters.Core

/-- `_CONNECTION_ERRORS`. -/
def connectionErrors : List Cls :=
  [.natsNoServersError, .natsConnectionClosedError, .natsConnectionDrainingError,
    .natsConnectionReconnectingError, .natsStaleConnectionError, .natsOutboundBufferLimitError]

/-- `wrap_nats(exc, operation)`. -/
def wrapNats (exc : PyExc) (operation : String) : AdapterError :=
  if exc.isAny connectionErrors then ⟨.connection, operation, some exc⟩
  else ⟨.query, operation, some exc⟩

/-- What the calls share. -/
structure Shared (V H : Type) where
  /-- `self._nc`. -/
  nc : Option ℕ
  /-- `self._js`. -/
  js : Option ℕ
  /-- How many connections have been opened; they are numbered from `0`. -/
  made : ℕ
  /-- `close()` has been called on the connection. -/
  closed : ℕ → Bool
  /-- What the server has acknowledged, each with the call it was sent by, newest first. -/
  acked : List (ℕ × (V × H))

/-- Where a call is suspended. -/
inductive Task (M V H Ctx : Type) where
  /-- The call has not been made. -/
  | idle
  /-- `start()` awaits `connect()`. -/
  | connecting
  /-- `_ensure_stream()` awaits `add_stream()`. -/
  | ensuring
  /-- `publish()` or `publish_batch()` awaits. -/
  | sending (p : Sending M V H Ctx)
  /-- `close()` awaits `close()` of the connection. -/
  | closing
  /-- The call is over, and has raised this, if anything. -/
  | ended (x : Option Raised)

/-- What happens to a task. -/
inductive Ev (M Ctx : Type) where
  /-- `start()` is called. -/
  | start
  /-- `publish()` is called in the given context. -/
  | publish (ctx : Ctx) (message : M)
  /-- `publish_batch()` is called in the given context. -/
  | publishBatch (ctx : Ctx) (messages : List M)
  /-- `close()` is called. -/
  | close
  /-- `connect()` returns; `jetstream()` of the connection returns or raises. -/
  | connected (jetstream : Option PyExc)
  /-- The awaited call returns. -/
  | ok
  /-- The awaited call raises. -/
  | raise (e : PyExc)

variable {M V H Ctx : Type}

/-- The `except` clauses of `publish()` and `publish_batch()`. -/
def publisher : Publisher where
  errors operation := [([.timeoutError], fun exc => ⟨.timeout, operation, some exc⟩),
    ([.natsError], fun exc => wrapNats exc operation)]
  flushes := false

/-- The `except` clauses of `start()`. -/
def startErrors : Clauses Cls AdapterError :=
  [([.timeoutError], fun exc => ⟨.timeout, "start", some exc⟩),
    ([.natsNoServersError], fun exc => ⟨.connection, "start", some exc⟩),
    ([.natsError], fun _ => ⟨.configuration, "start", none⟩)]

/-- `start()` has raised; each of its clauses resets the fields. -/
def startFailed (s : Shared V H) (e : PyExc) : Shared V H × Task M V H Ctx :=
  match dispatch startErrors e with
  | some err => ({ s with nc := none, js := none }, .ended (some (.adapter err)))
  | none => (s, .ended (some (.raw e)))

/-- `self._nc = await nats.connect(…)`. -/
def Shared.connect (s : Shared V H) : Shared V H :=
  { s with
    nc := some s.made
    made := s.made + 1
    closed := Function.update s.closed s.made false }

/-- `connect()` has returned: `self._js = self._nc.jetstream()`, and `add_stream()` is called. -/
def connected (s : Shared V H) (jetstream : Option PyExc) : Shared V H × Task M V H Ctx :=
  match jetstream with
  | some e => startFailed s.connect e
  | none => ({ s.connect with js := some s.made }, .ensuring)

/-- Go on with what `publish()` or `publish_batch()` does next. -/
def progress (s : Shared V H) : Progress M V H Ctx → Shared V H × Task M V H Ctx
  | .inl p => (s, .sending p)
  | .inr x => (s, .ended x)

/-- The server acknowledges what was sent. -/
def Shared.acknowledge (s : Shared V H) (i : ℕ) (sent : Option (V × H)) : Shared V H :=
  match sent with
  | some m => { s with acked := (i, m) :: s.acked }
  | none => s

/-- `close()`, up to its await. -/
def close (s : Shared V H) : Shared V H × Task M V H Ctx :=
  match s.nc with
  | some c => ({ s with closed := Function.update s.closed c true }, .closing)
  | none => (s, .ended none)

/-- `health()`. -/
def health (s : Shared V H) : PluginStatus :=
  if s.js.isSome then .ready else .failed

/-- The code of `NatsProducer`, from one await to the next. -/
def resume (cd : Serialiser M V H Ctx) : Resume (Shared V H) (Task M V H Ctx) (Ev M Ctx)
  | _, s, .idle, .start => some (s, .connecting)
  | _, s, .connecting, .connected jetstream => some (connected s jetstream)
  | _, s, .connecting, .raise e => some (startFailed s e)
  | _, s, .ensuring, .ok => some (s, .ended none)
  | _, s, .ensuring, .raise e =>
    if e.isa .natsBadRequestError then some (s, .ended none) else some (startFailed s e)
  | _, s, .idle, .publish ctx message => some (progress s (publish cd s.js ctx message))
  | _, s, .idle, .publishBatch ctx messages =>
    some (progress s (publisher.publishBatch cd s.js ctx messages))
  | i, s, .sending p, .ok =>
    some (progress (s.acknowledge i p.acknowledged) (publisher.sent cd s.js p))
  | _, s, .sending p, .raise e => some (s, .ended (some (publisher.notSent e p)))
  | _, s, .idle, .close => some (close s)
  | _, s, .closing, .ok => some ({ s with nc := none, js := none }, .ended none)
  | _, s, .closing, .raise e =>
    some ({ s with nc := none, js := none },
      .ended (if e.isa .exception then none else some (.raw e)))
  | _, _, _, _ => none

/-- A producer that has not been started, after whatever connections it had before. -/
def notStarted (made : ℕ) (closed : ℕ → Bool) : Loop (Shared V H) (Task M V H Ctx) where
  shared := ⟨none, none, made, closed, []⟩
  task _ := .idle

end OpenframeAdapters.Queue.NatsProducer
