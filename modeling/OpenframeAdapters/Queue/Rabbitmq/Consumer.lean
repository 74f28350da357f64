import OpenframeAdapters.Python.Dict
import OpenframeAdapters.Python.Tasks
import OpenframeAdapters.Queue.Journal

/-!
# The RabbitMQ consumer

`RabbitmqConsumer` of `queue/rabbitmq/consumer.py`: one object whose `subscribe()`
and `close()` share the fields `_connection`, `_channel`, `_queue`, `_running` and
`_current_raw_message`.

## The model

A task is one call. Its states (`Task`) are the awaits,

    subscribe   await aio_pika.connect_robust(…)      connecting
                await self._connection.channel()      opening
                await self._channel.set_qos(…)        settingQos
                await self._channel.declare_queue(…)  declaring
                async with queue_iter: (entering)     entering
                async for message in queue_iter       polling
                await handler(payload)                handling
                await self._current_raw_message.…     settling
                async with queue_iter: (leaving)      exiting
    _close_connection
                await self._channel.close()           closingChannel
                await self._connection.close()        closingConnection

and `resume` runs the code from one to the next. `_close_connection()` is called by
the `finally` block of `subscribe()` and by `close()`; its awaits carry who called it
(`Caller`). The `asyncio.timeout` around the start-up shows as a `TimeoutError` that
one of its awaits raises.

A channel, a queue and its iterator are named by the connection they belong to.
Closing a channel or a connection takes effect when it is called and ends the
iterator normally, with no `Exception`; the iterator does not end otherwise. A
connect that raises opens no connection. `_deserialise`, the decoding of header bytes
and `extract` are parameters (`Codec`), and give `none` where they raise.
-/

namespace OpenframeAdapters.Queue.Rabbitmq

open Python OpenframeAdapters.Core

/-- A message: its body is bytes `B`, a header is bytes or some other value `W`. -/
structure Message (B W : Type) where
  /-- `message.body`. -/
  body : B
  /-- `message.headers or {}`. -/
  headers : List (String × (B ⊕ W))
  deriving DecidableEq

/-- What unpacks a message. -/
structure Codec (B W T Ctx : Type) where
  /-- `_deserialise`. -/
  deserialise : B → Option T
  /-- `v.decode("utf-8")`. -/
  decode : B → Option String
  /-- `extract` of `openframe.core.tracing.propagation`. -/
  extract : Dict String (String ⊕ W) → Option Ctx

section Unpack

variable {B W T Ctx : Type}

/-- `v.decode("utf-8") if isinstance(v, (bytes, bytearray)) else v`. -/
def Codec.header (cd : Codec B W T Ctx) : B ⊕ W → Option (String ⊕ W)
  | .inl b => (cd.decode b).map .inl
  | .inr w => some (.inr w)

/-- The statements of the loop before the handler is awaited: the payload, and the context
it runs in. -/
def Codec.unpack (cd : Codec B W T Ctx) (message : Message B W) : Option (T × Ctx) := do
  let payload ← cd.deserialise message.body
  let carrier ← message.headers.mapM fun kv => (cd.header kv.2).map fun v => (kv.1, v)
  let parentCtx ← cd.extract (Dict.ofPairs carrier)
  return (payload, parentCtx)

end Unpack

/-- A connection. -/
structure Conn where
  /-- `close()` of its channel has been called. -/
  channelClosed : Bool
  /-- `close()` has been called. -/
  closed : Bool

/-- What the calls share. -/
structure Shared (B W T Ctx : Type) where
  /-- `self._connection`. -/
  connection : Option ℕ
  /-- `self._channel`. -/
  channel : Option ℕ
  /-- `self._queue`. -/
  queue : Option ℕ
  /-- `self._running`. -/
  running : Bool
  /-- `self._current_raw_message`. -/
  current : Option MsgId
  /-- How many connections have been opened; they are numbered from `0`. -/
  made : ℕ
  /-- The connections. -/
  conn : ℕ → Conn
  /-- What has happened. -/
  journal : Journal (Message B W) (T × Ctx)

/-- The local variables of `subscribe()` after its start-up. -/
structure Locals (Ctx : Type) where
  /-- The connection this call opened. -/
  own : ℕ
  /-- The connection whose queue the loop runs over. -/
  queue : ℕ
  /-- How many messages the loop has taken. -/
  count : ℕ
  /-- The ambient OpenTelemetry context. -/
  ctx : Ctx

/-- Who has called `_close_connection()`. -/
inductive Caller where
  /-- The `finally` block of a `subscribe()` that ends as given. -/
  | session (res : Outcome)
  /-- `close()`. -/
  | close

/-- Where a call is suspended. -/
inductive Task (Ctx : Type) where
  /-- The call has not been made. -/
  | idle
  /-- `subscribe()` awaits `connect_robust()`. -/
  | connecting (ctx : Ctx)
  /-- `subscribe()` awaits `channel()`. -/
  | opening (own : ℕ) (ctx : Ctx)
  /-- `subscribe()` awaits `set_qos()`. -/
  | settingQos (own : ℕ) (ctx : Ctx)
  /-- `subscribe()` awaits `declare_queue()` on the channel of a connection. -/
  | declaring (own channel : ℕ) (ctx : Ctx)
  /-- `subscribe()` awaits that the iterator starts to consume. -/
  | entering (v : Locals Ctx)
  /-- `subscribe()` awaits the next message. -/
  | polling (v : Locals Ctx)
  /-- `subscribe()` awaits the handler of a message. -/
  | handling (v : Locals Ctx) (m : MsgId) (token : Ctx)
  /-- `ack()` or `nack()` awaits the settlement call. -/
  | settling (v : Locals Ctx)
  /-- `subscribe()` awaits that the iterator stops to consume. -/
  | exiting (v : Locals Ctx) (res : Outcome)
  /-- `_close_connection()` awaits `close()` of the channel. -/
  | closingChannel (k : Caller)
  /-- `_close_connection()` awaits `close()` of the connection. -/
  | closingConnection (k : Caller)
  /-- `subscribe()` is over. -/
  | ended (res : Outcome)
  /-- `close()` has returned. -/
  | closed
  /-- `close()` has raised what is no `Exception`. -/
  | closeFailed (e : PyExc)

/-- What happens to a task. -/
inductive Ev (B W Ctx : Type) where
  /-- `subscribe()` is called, in the given context. -/
  | subscribe (ctx : Ctx)
  /-- `close()` is called. -/
  | close
  /-- The awaited call returns. -/
  | ok
  /-- The awaited call raises. -/
  | raise (e : PyExc)
  /-- The iterator yields a message. -/
  | message (message : Message B W)
  /-- The iterator ends. -/
  | stop

section Code

variable {B W T Ctx : Type}

/-- Write an entry of the journal. -/
def Shared.record (s : Shared B W T Ctx) (e : Entry (Message B W) (T × Ctx)) : Shared B W T Ctx :=
  { s with journal := e :: s.journal }

/-- Change the connection `c`. -/
def Shared.setConn (s : Shared B W T Ctx) (c : ℕ) (f : Conn → Conn) : Shared B W T Ctx :=
  { s with conn := Function.update s.conn c (f (s.conn c)) }

/-- `close()` is called on the channel of `c`. -/
def Shared.closeChannel (s : Shared B W T Ctx) (c : ℕ) : Shared B W T Ctx :=
  s.setConn c fun k => { k with channelClosed := true }

/-- `close()` is called on the connection `c`. -/
def Shared.disconnect (s : Shared B W T Ctx) (c : ℕ) : Shared B W T Ctx :=
  s.setConn c fun k => { k with closed := true }

/-- The iterator of the queue of `c` ends. -/
def Shared.ends (s : Shared B W T Ctx) (c : ℕ) : Bool :=
  (s.conn c).channelClosed || (s.conn c).closed

/-- `self._connection = await aio_pika.connect_robust(…)`, on behalf of session `i`. -/
def Shared.connect (s : Shared B W T Ctx) (i : ℕ) : Shared B W T Ctx :=
  ({ s with connection := some s.made, made := s.made + 1 }.setConn s.made
    fun _ => ⟨false, false⟩).record (.opened i s.made)

/-- `_CONNECTION_ERRORS`. -/
def connectionErrors : List Cls := [.amqpConnectionError, .connectionError, .osError]

/-- `_wrap_rabbitmq(exc, operation)`. -/
def wrapRabbitmq (exc : PyExc) (operation : String) : AdapterError :=
  if exc.isAny connectionErrors then ⟨.connection, operation, some exc⟩
  else ⟨.query, operation, some exc⟩

/-- The `except` clause of the start-up. -/
def startFailed (s : Shared B W T Ctx) (e : PyExc) (stale : Bool) : Shared B W T Ctx × Task Ctx :=
  if e.isAny [.amqpError, .connectionError, .osError] then
    ({ s with connection := none, channel := none, queue := none },
      .ended (.raised (.adapter (wrapRabbitmq e "subscribe")) stale))
  else (s, .ended (.raised (.raw e) stale))

/-- `set_qos()` has returned: `self._channel.declare_queue(…)` is called. `_channel` is `None`
where another call has reset it. -/
def qosSet (s : Shared B W T Ctx) (own : ℕ) (ctx : Ctx) : Shared B W T Ctx × Task Ctx :=
  match s.channel with
  | some c => (s, .declaring own c ctx)
  | none => startFailed s attributeError true

/-- `self._queue = await self._channel.declare_queue(…)` and `self._running = True`; the
iterator of the queue is entered. -/
def declared (s : Shared B W T Ctx) (own channel : ℕ) (ctx : Ctx) : Shared B W T Ctx × Task Ctx :=
  ({ s with queue := some channel, running := true }, .entering ⟨own, channel, 0, ctx⟩)

/-- What `_close_connection()` raises leaves the call. -/
def Caller.fail (k : Caller) (s : Shared B W T Ctx) (e : PyExc) : Shared B W T Ctx × Task Ctx :=
  match k with
  | .session _ => (s, .ended (.raised (.raw e) false))
  | .close => (s, .closeFailed e)

/-- What follows the return of `_close_connection()`. -/
def Caller.resume (k : Caller) (s : Shared B W T Ctx) : Shared B W T Ctx × Task Ctx :=
  match k with
  | .session res => ({ s with running := false }, .ended res)
  | .close => (s, .closed)

/-- The session on whose behalf a connection is closed, if it is that of a `finally` block. -/
def Caller.note (k : Caller) (i c : ℕ) (s : Shared B W T Ctx) : Shared B W T Ctx :=
  match k with
  | .session _ => s.record (.closed i c)
  | .close => s

/-- The end of `_close_connection()`. -/
def closeDone (s : Shared B W T Ctx) (k : Caller) : Shared B W T Ctx × Task Ctx :=
  k.resume { s with queue := none }

/-- The second half of `_close_connection()`. -/
def closeRest (i : ℕ) (s : Shared B W T Ctx) (k : Caller) : Shared B W T Ctx × Task Ctx :=
  match s.connection with
  | some c => (k.note i c (s.disconnect c), .closingConnection k)
  | none => closeDone s k

/-- `_close_connection()`, up to its first await. -/
def closeConnection (i : ℕ) (s : Shared B W T Ctx) (k : Caller) : Shared B W T Ctx × Task Ctx :=
  match s.channel with
  | some c => (k.note i c (s.closeChannel c), .closingChannel k)
  | none => closeRest i s k

/-- The `finally` block. -/
def teardown (i : ℕ) (s : Shared B W T Ctx) (res : Outcome) : Shared B W T Ctx × Task Ctx :=
  closeConnection i s (.session res)

/-- `await self.ack(payload)` or `await self.nack(payload)`: it settles the message that
`_current_raw_message` refers to, if any. -/
def settle (i : ℕ) (s : Shared B W T Ctx) (v : Locals Ctx) (verdict : Verdict) :
    Shared B W T Ctx × Task Ctx :=
  match s.current with
  | some m => (s.record (.settled i verdict m), .settling v)
  | none => (s, .polling v)

/-- The body of the loop, up to its first await. -/
def takeMessage (cd : Codec B W T Ctx) (i : ℕ) (s : Shared B W T Ctx) (v : Locals Ctx)
    (message : Message B W) : Shared B W T Ctx × Task Ctx :=
  let m : MsgId := ⟨i, v.count⟩
  let s := s.record (.delivered m message s.running)
  let v := { v with count := v.count + 1 }
  if s.running then
    let s := { s with current := some m }
    match cd.unpack message with
    | some (payload, ctx) =>
      (s.record (.invoked m (payload, ctx)), .handling { v with ctx := ctx } m v.ctx)
    | none => settle i (s.record (.failed m)) v .nack
  else (s, .exiting v .returned)

/-- `close()`, up to its first await. -/
def close (i : ℕ) (s : Shared B W T Ctx) : Shared B W T Ctx × Task Ctx :=
  closeConnection i { s with running := false } .close

/-- The code of `RabbitmqConsumer`, from one await to the next. -/
def resume (cd : Codec B W T Ctx) : Resume (Shared B W T Ctx) (Task Ctx) (Ev B W Ctx)
  | _, s, .idle, .subscribe ctx => some (s, .connecting ctx)
  | i, s, .connecting ctx, .ok => some (s.connect i, .opening s.made ctx)
  | _, s, .connecting _, .raise e => some (startFailed s e false)
  | _, s, .opening own ctx, .ok => some ({ s with channel := some own }, .settingQos own ctx)
  | _, s, .opening own _, .raise e => some (startFailed s e (s.ends own))
  | _, s, .settingQos own ctx, .ok => some (qosSet s own ctx)
  | _, s, .settingQos own _, .raise e => some (startFailed s e (s.ends own))
  | _, s, .declaring own c ctx, .ok => some (declared s own c ctx)
  | _, s, .declaring _ c _, .raise e => some (startFailed s e (s.ends c))
  | _, s, .entering v, .ok => some (s, .polling v)
  | i, s, .entering v, .raise e => some (teardown i s (.raised (.raw e) (s.ends v.queue)))
  | i, s, .polling v, .message message => some (takeMessage cd i s v message)
  | _, s, .polling v, .stop => if s.ends v.queue then some (s, .exiting v .returned) else none
  | _, s, .polling v, .raise e =>
    if s.ends v.queue && e.isa .exception then none
    else some (s, .exiting v (.raised (.raw e) false))
  | i, s, .handling v m token, .ok =>
    some (settle i (s.record (.returned m)) { v with ctx := token } .ack)
  | i, s, .handling v m token, .raise e =>
    if e.isa .exception then some (settle i (s.record (.failed m)) { v with ctx := token } .nack)
    else some (s, .exiting v (.raised (.raw e) false))
  | _, s, .settling v, .ok => some (s, .polling v)
  | _, s, .settling v, .raise e =>
    if e.isa .exception then some (s, .polling v) else some (s, .exiting v (.raised (.raw e) false))
  | i, s, .exiting _ res, .ok => some (teardown i s res)
  | i, s, .exiting v _, .raise e =>
    if s.ends v.queue && e.isa .exception then none
    else some (teardown i s (.raised (.raw e) false))
  | i, s, .closingChannel k, .ok => some (closeRest i { s with channel := none } k)
  | i, s, .closingChannel k, .raise e =>
    if e.isa .exception then some (closeRest i { s with channel := none } k)
    else some (k.fail { s with channel := none } e)
  | _, s, .closingConnection k, .ok => some (closeDone { s with connection := none } k)
  | _, s, .closingConnection k, .raise e =>
    if e.isa .exception then some (closeDone { s with connection := none } k)
    else some (k.fail { s with connection := none } e)
  | i, s, .idle, .close => some (close i s)
  | _, _, _, _ => none

/-- What `resume` does, case by case. -/
inductive Step (cd : Codec B W T Ctx) (i : ℕ) (s : Shared B W T Ctx) :
    Task Ctx → Ev B W Ctx → Shared B W T Ctx × Task Ctx → Prop
  | subscribe {ctx} : Step cd i s .idle (.subscribe ctx) (s, .connecting ctx)
  | connected {ctx} : Step cd i s (.connecting ctx) .ok (s.connect i, .opening s.made ctx)
  | notConnected {ctx e} : Step cd i s (.connecting ctx) (.raise e) (startFailed s e false)
  | opened {own ctx} :
    Step cd i s (.opening own ctx) .ok ({ s with channel := some own }, .settingQos own ctx)
  | notOpened {own ctx e} :
    Step cd i s (.opening own ctx) (.raise e) (startFailed s e (s.ends own))
  | qosSet {own ctx} : Step cd i s (.settingQos own ctx) .ok (qosSet s own ctx)
  | qosFailed {own ctx e} :
    Step cd i s (.settingQos own ctx) (.raise e) (startFailed s e (s.ends own))
  | declared {own c ctx} : Step cd i s (.declaring own c ctx) .ok (declared s own c ctx)
  | notDeclared {own c ctx e} :
    Step cd i s (.declaring own c ctx) (.raise e) (startFailed s e (s.ends c))
  | entered {v} : Step cd i s (.entering v) .ok (s, .polling v)
  | notEntered {v e} :
    Step cd i s (.entering v) (.raise e) (teardown i s (.raised (.raw e) (s.ends v.queue)))
  | message {v message} : Step cd i s (.polling v) (.message message) (takeMessage cd i s v message)
  | stop {v} : s.ends v.queue = true → Step cd i s (.polling v) .stop (s, .exiting v .returned)
  | iteratorRaised {v e} : (s.ends v.queue && e.isa .exception) = false →
    Step cd i s (.polling v) (.raise e) (s, .exiting v (.raised (.raw e) false))
  | handled {v m token} : Step cd i s (.handling v m token) .ok
      (settle i (s.record (.returned m)) { v with ctx := token } .ack)
  | handlerFailed {v m token e} : e.isa .exception = true →
    Step cd i s (.handling v m token) (.raise e)
      (settle i (s.record (.failed m)) { v with ctx := token } .nack)
  | handlerCancelled {v m token e} : e.isa .exception = false →
    Step cd i s (.handling v m token) (.raise e) (s, .exiting v (.raised (.raw e) false))
  | settled {v ev} : Step cd i s (.settling v) ev (s, .polling v)
  | settleCancelled {v e} : e.isa .exception = false →
    Step cd i s (.settling v) (.raise e) (s, .exiting v (.raised (.raw e) false))
  | exited {v res} : Step cd i s (.exiting v res) .ok (teardown i s res)
  | exitFailed {v res e} : (s.ends v.queue && e.isa .exception) = false →
    Step cd i s (.exiting v res) (.raise e) (teardown i s (.raised (.raw e) false))
  | channelClosed {k ev} :
    Step cd i s (.closingChannel k) ev (closeRest i { s with channel := none } k)
  | channelCancelled {k e} : e.isa .exception = false →
    Step cd i s (.closingChannel k) (.raise e) (k.fail { s with channel := none } e)
  | connectionClosed {k ev} :
    Step cd i s (.closingConnection k) ev (closeDone { s with connection := none } k)
  | connectionCancelled {k e} : e.isa .exception = false →
    Step cd i s (.closingConnection k) (.raise e) (k.fail { s with connection := none } e)
  | close : Step cd i s .idle .close (close i s)

theorem step_of_resume {cd : Codec B W T Ctx} {i : ℕ} {s : Shared B W T Ctx} {p : Task Ctx}
    {e : Ev B W Ctx} {r : Shared B W T Ctx × Task Ctx} (h : resume cd i s p e = some r) :
    Step cd i s p e r := by
  revert h
  fun_cases resume cd i s p e <;> rintro ⟨⟩ <;> constructor <;> simp_all

/-- A consumer that has just been made. -/
def fresh : Loop (Shared B W T Ctx) (Task Ctx) where
  shared := ⟨none, none, none, false, none, 0, fun _ => ⟨false, false⟩, []⟩
  task _ := .idle

end Code

end OpenframeAdapters.Queue.Rabbitmq
