import Mathlib.Logic.Function.Basic
import OpenframeAdapters.Python.Tasks
import OpenframeAdapters.Queue.Producer

/-!
# The RabbitMQ producer

`RabbitmqProducer` of `queue/rabbitmq/producer.py`. Its calls share the fields
`_connection` and `_channel`.

## The model

A task is one call, and its states are the awaits,

    start           await aio_pika.connect_robust(…)                  connecting
                    await self._connection.channel()                  opening
    publish         await self._channel.default_exchange.publish(…)   sending
    publish_batch   await self._channel.default_exchange.publish(…)   sending
    close           await self._channel.close()                       closingChannel
                    await self._connection.close()                    closingConnection

A connection is opened by `connect_robust()` returning, and closed by calling `close()`
on it; a connect that raises opens none. A robust connection reconnects by itself, so it
is closed (`is_closed`) only by that call. The channel is named by its connection.
-/

namespace OpenframeAdapters.Queue.RabbitmqProducer

open Python OpenframeAdapters.Core

/-- `_CONNECTION_ERRORS`. -/
def connectionErrors : List Cls := [.amqpConnectionError, .connectionError, .osError]

/-- `_wrap_rabbitmq(exc, operation)`. -/
def wrapRabbitmq (exc : PyExc) (operation : String) : AdapterError :=
  if exc.isAny connectionErrors then ⟨.connection, operation, some exc⟩
  else ⟨.query, operation, some exc⟩

/-- What the calls share. -/
structure Shared (V H : Type) where
  /-- `self._connection`. -/
  connection : Option ℕ
  /-- `self._channel`. -/
  channel : Option ℕ
  /-- How many connections have been opened; they are numbered from `0`. -/
  made : ℕ
  /-- `close()` has been called on the connection. -/
  closed : ℕ → Bool
  /-- What the broker has acknowledged, each with the call it was sent by, newest first. -/
  acked : List (ℕ × (V × H))

/-- Where a call is suspended. -/
inductive Task (M V H Ctx : Type) where
  /-- The call has not been made. -/
  | idle
  /-- `start()` awaits `connect_robust()`. -/
  | connecting
  /-- `start()` awaits `channel()`. -/
  | opening (own : ℕ)
  /-- `publish()` or `publish_batch()` awaits. -/
  | sending (p : Sending M V H Ctx)
  /-- `close()` awaits `close()` of the channel. -/
  | closingChannel
  /-- `close()` awaits `close()` of the connection. -/
  | closingConnection
  /-- The call is over, and has raised this, if anything. -/
  | ended (x : Option Raised)

/-- What happens to a task. -/
inductive Ev (M Ctx : Type) where
  /-- `start()` is called. -/
  | start
  /-- `publish()` is called in the given context. -/
  | publish (ctx : Ctx) (message : M)
  /-- `publish_batch()` is called in the given context. -/
  | publishBatch (ctx : Ctx) (messages : List M)
  /-- `close()` is called. -/
  | close
  /-- The awaited call returns. -/
  | ok
  /-- The awaited call raises. -/
  | raise (e : PyExc)

variable {M V H Ctx : Type}

/-- The `except` clauses of `publish()` and `publish_batch()`. -/
def publisher : Publisher where
  errors operation := [([.timeoutError], fun exc => ⟨.timeout, operation, some exc⟩),
    ([.amqpError, .connectionError, .osError], fun exc => wrapRabbitmq exc operation)]
  flushes := false

/-- The `except` clauses of `start()`. -/
def startErrors : Clauses Cls AdapterError :=
  [([.timeoutError], fun exc => ⟨.timeout, "start", some exc⟩),
    ([.amqpError, .connectionError, .osError], fun exc => wrapRabbitmq exc "start")]

/-- `start()` has raised; each of its clauses resets the fields. -/
def startFailed (s : Shared V H) (e : PyExc) : Shared V H × Task M V H Ctx :=
  match dispatch startErrors e with
  | some err => ({ s with connection := none, channel := none }, .ended (some (.adapter err)))
  | none => (s, .ended (some (.raw e)))

/-- `self._connection = await aio_pika.connect_robust(…)`. -/
def Shared.connect (s : Shared V H) : Shared V H :=
  { s with
    connection := some s.made
    made := s.made + 1
    closed := Function.update s.closed s.made false }

/-- Go on with what `publish()` or `publish_batch()` does next. -/
def progress (s : Shared V H) : Progress M V H Ctx → Shared V H × Task M V H Ctx
  | .inl p => (s, .sending p)
  | .inr x => (s, .ended x)

/-- The broker acknowledges what was sent. -/
def Shared.acknowledge (s : Shared V H) (i : ℕ) (sent : Option (V × H)) : Shared V H :=
  match sent with
  | some m => { s with acked := (i, m) :: s.acked }
  | none => s

/-- The second half of `close()`. -/
def closeConnection (s : Shared V H) : Shared V H × Task M V H Ctx :=
  match s.connection with
  | some c => ({ s with closed := Function.update s.closed c true }, .closingConnection)
  | none => (s, .ended none)

/-- `close()`, up to its first await. -/
def close (s : Shared V H) : Shared V H × Task M V H Ctx :=
  match s.channel with
  | some _ => (s, .closingChannel)
  | none => closeConnection s

/-- `health()`. -/
def health (s : Shared V H) : PluginStatus :=
  if s.connection.any fun c => !s.closed c then .ready else .failed

/-- The code of `RabbitmqProducer`, from one await to the next. -/
def resume (cd : Serialiser M V H Ctx) : Resume (Shared V H) (Task M V H Ctx) (Ev M Ctx)
  | _, s, .idle, .start => some (s, .connecting)
  | _, s, .connecting, .ok => some (s.connect, .opening s.made)
  | _, s, .connecting, .raise e => some (startFailed s e)
  | _, s, .opening own, .ok => some ({ s with channel := some own }, .ended none)
  | _, s, .opening _, .raise e => some (startFailed s e)
  | _, s, .idle, .publish ctx message => some (progress s (publish cd s.channel ctx message))
  | _, s, .idle, .publishBatch ctx messages =>
    some (progress s (publisher.publishBatch cd s.channel ctx messages))
  | i, s, .sending p, .ok =>
    some (progress (s.acknowledge i p.acknowledged) (publisher.sent cd s.channel p))
  | _, s, .sending p, .raise e => some (s, .ended (some (publisher.notSent e p)))
  | _, s, .idle, .close => some (close s)
  | _, s, .closingChannel, .ok => some (closeConnection { s with channel := none })
  | _, s, .closingChannel, .raise e =>
    if e.isa .exception then some (closeConnection { s with channel := none })
    else some ({ s with channel := none }, .ended (some (.raw e)))
  | _, s, .closingConnection, .ok => some ({ s with connection := none }, .ended none)
  | _, s, .closingConnection, .raise e =>
    some ({ s with connection := none }, .ended (if e.isa .exception then none else some (.raw e)))
  | _, _, _, _ => none

/-- A producer that has not been started, after whatever connections it had before. -/
def notStarted (made : ℕ) (closed : ℕ → Bool) : Loop (Shared V H) (Task M V H Ctx) where
  shared := ⟨none, none, made, closed, []⟩
  task _ := .idle

end OpenframeAdapters.Queue.RabbitmqProducer
