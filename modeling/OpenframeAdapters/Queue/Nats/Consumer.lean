import OpenframeAdapters.Python.Dict
import OpenframeAdapters.Python.Tasks
import OpenframeAdapters.Queue.Journal

/-!
# The NATS consumer

`NatsConsumer` of `queue/nats/consumer.py`: one object whose `subscribe()` and
`close()` share the fields `_nc`, `_js`, `_sub` and `_running`.

## The model

A task is one call. Its states (`Task`) are the awaits,

    subscribe   await nats.connect(…)                 connecting
                await self._js.add_stream(…)          ensuring
                await self._js.subscribe(…)           subscribing
                async for msg in self._sub.messages   polling
                await handler(message)                handling
                await message.ack()                   acking
                await message.nak()                   naking
                await self._sub.unsubscribe()         unsubscribing
                await self._nc.close()                disconnecting
    close       await self._sub.unsubscribe()         closeUnsubscribing
                await self._nc.close()                closeDisconnecting

and `resume` runs the code from one to the next. `self._nc.jetstream()` is
synchronous; the event that ends the connect says whether it raises.

A JetStream context and a subscription are named by the connection they belong to.
Unsubscribing or closing the connection takes effect when it is called and ends the
message iterator normally, with no `Exception`; the iterator does not end otherwise. A connect that
raises opens no connection. `_deserialise` and `extract` are parameters (`Codec`),
and give `none` where they raise.
-/

namespace OpenframeAdapters.Queue.Nats

open Python OpenframeAdapters.Core

/-- A JetStream message. -/
structure Msg (B : Type) where
  /-- `msg.data`. -/
  data : B
  /-- `msg.headers or {}`. -/
  headers : List (String × String)
  deriving DecidableEq

/-- What unpacks a message. -/
structure Codec (B T Ctx : Type) where
  /-- `_deserialise`. -/
  deserialise : B → Option T
  /-- `extract` of `openframe.core.tracing.propagation`. -/
  extract : Dict String String → Option Ctx

/-- The statements of the loop before the handler is awaited: the payload, and the context
it runs in. -/
def Codec.unpack {B T Ctx : Type} (cd : Codec B T Ctx) (msg : Msg B) : Option (T × Ctx) := do
  let message ← cd.deserialise msg.data
  let parentCtx ← cd.extract (Dict.ofPairs msg.headers)
  return (message, parentCtx)

/-- A connection. -/
structure Conn where
  /-- `unsubscribe()` of its subscription has been called. -/
  unsubscribed : Bool
  /-- `close()` has been called. -/
  closed : Bool

/-- What the calls share. -/
structure Shared (B T Ctx : Type) where
  /-- `self._nc`. -/
  nc : Option ℕ
  /-- `self._js`. -/
  js : Option ℕ
  /-- `self._sub`. -/
  sub : Option ℕ
  /-- `self._running`. -/
  running : Bool
  /-- How many connections have been opened; they are numbered from `0`. -/
  made : ℕ
  /-- The connections. -/
  conn : ℕ → Conn
  /-- What has happened. -/
  journal : Journal (Msg B) (T × Ctx)

/-- The local variables of `subscribe()` in its loop. -/
structure Locals (Ctx : Type) where
  /-- The connection this call opened. -/
  own : ℕ
  /-- The connection whose subscription the loop runs over. -/
  sub : ℕ
  /-- How many messages the loop has taken. -/
  count : ℕ
  /-- The ambient OpenTelemetry context. -/
  ctx : Ctx

/-- Where a call is suspended. -/
inductive Task (Ctx : Type) where
  /-- The call has not been made. -/
  | idle
  /-- `subscribe()` awaits `connect()`. -/
  | connecting (ctx : Ctx)
  /-- `_ensure_stream()` awaits `add_stream()`. -/
  | ensuring (own : ℕ) (ctx : Ctx)
  /-- `subscribe()` awaits `subscribe()` of the JetStream context of a connection. -/
  | subscribing (own js : ℕ) (ctx : Ctx)
  /-- `subscribe()` awaits the next message. -/
  | polling (v : Locals Ctx)
  /-- `subscribe()` awaits the handler of a message. -/
  | handling (v : Locals Ctx) (m : MsgId) (token : Ctx)
  /-- `ack()` awaits `ack()` of the message. -/
  | acking (v : Locals Ctx)
  /-- `nack()` awaits `nak()` of the message. -/
  | naking (v : Locals Ctx)
  /-- The `finally` block awaits `unsubscribe()`. -/
  | unsubscribing (res : Outcome)
  /-- The `finally` block awaits `close()` of the connection. -/
  | disconnecting (res : Outcome)
  /-- `subscribe()` is over. -/
  | ended (res : Outcome)
  /-- `close()` awaits `unsubscribe()`. -/
  | closeUnsubscribing
  /-- `close()` awaits `close()` of the connection. -/
  | closeDisconnecting
  /-- `close()` has returned. -/
  | closed
  /-- `close()` has raised what is no `Exception`. -/
  | closeFailed (e : PyExc)

/-- What happens to a task. -/
inductive Ev (B Ctx : Type) where
  /-- `subscribe()` is called, in the given context. -/
  | subscribe (ctx : Ctx)
  /-- `close()` is called. -/
  | close
  /-- `connect()` returns; `jetstream()` of the connection returns or raises. -/
  | connected (jetstream : Option PyExc)
  /-- The awaited call returns. -/
  | ok
  /-- The awaited call raises. -/
  | raise (e : PyExc)
  /-- The iterator yields a message. -/
  | message (msg : Msg B)
  /-- The iterator ends. -/
  | stop

section Code

variable {B T Ctx : Type}

/-- Write an entry of the journal. -/
def Shared.record (s : Shared B T Ctx) (e : Entry (Msg B) (T × Ctx)) : Shared B T Ctx :=
  { s with journal := e :: s.journal }

/-- Change the connection `c`. -/
def Shared.setConn (s : Shared B T Ctx) (c : ℕ) (f : Conn → Conn) : Shared B T Ctx :=
  { s with conn := Function.update s.conn c (f (s.conn c)) }

/-- `unsubscribe()` is called on the subscription of `c`. -/
def Shared.unsubscribe (s : Shared B T Ctx) (c : ℕ) : Shared B T Ctx :=
  s.setConn c fun k => { k with unsubscribed := true }

/-- `close()` is called on the connection `c`. -/
def Shared.disconnect (s : Shared B T Ctx) (c : ℕ) : Shared B T Ctx :=
  s.setConn c fun k => { k with closed := true }

/-- The iterator of the subscription of `c` ends. -/
def Shared.ends (s : Shared B T Ctx) (c : ℕ) : Bool :=
  (s.conn c).unsubscribed || (s.conn c).closed

/-- `self._nc = await nats.connect(…)`, on behalf of session `i`. -/
def Shared.connect (s : Shared B T Ctx) (i : ℕ) : Shared B T Ctx :=
  ({ s with nc := some s.made, made := s.made + 1 }.setConn s.made
    fun _ => ⟨false, false⟩).record (.opened i s.made)

/-- The `except` clauses of the start-up. -/
def startFailed (s : Shared B T Ctx) (e : PyExc) (stale : Bool) : Shared B T Ctx × Task Ctx :=
  if e.isa .natsNoServersError then
    ({ s with nc := none, js := none, sub := none },
      .ended (.raised (.adapter ⟨.connection, "subscribe", some e⟩) stale))
  else if e.isa .natsError then
    ({ s with nc := none, js := none, sub := none },
      .ended (.raised (.adapter ⟨.configuration, "subscribe", none⟩) stale))
  else (s, .ended (.raised (.raw e) stale))

/-- `connect()` has returned: `self._js = self._nc.jetstream()`, and `add_stream()` is called. -/
def connected (i : ℕ) (s : Shared B T Ctx) (ctx : Ctx) (jetstream : Option PyExc) :
    Shared B T Ctx × Task Ctx :=
  let own := s.made
  let s := s.connect i
  match jetstream with
  | some e => startFailed s e false
  | none => ({ s with js := some own }, .ensuring own ctx)

/-- `_ensure_stream()` has returned: `self._js.subscribe(…)` is called. `_js` is `None` where
another call has reset it. -/
def ensured (s : Shared B T Ctx) (own : ℕ) (ctx : Ctx) : Shared B T Ctx × Task Ctx :=
  match s.js with
  | some c => (s, .subscribing own c ctx)
  | none => startFailed s attributeError true

/-- `self._sub = await self._js.subscribe(…)` and `self._running = True`. -/
def subscribed (s : Shared B T Ctx) (own js : ℕ) (ctx : Ctx) : Shared B T Ctx × Task Ctx :=
  ({ s with sub := some js, running := true }, .polling ⟨own, js, 0, ctx⟩)

/-- The end of the `finally` block. -/
def finished (s : Shared B T Ctx) (res : Outcome) : Shared B T Ctx × Task Ctx :=
  ({ s with sub := none, nc := none, js := none, running := false }, .ended res)

/-- The second half of the `finally` block: it closes the connection that `_nc` refers to. -/
def disconnect (i : ℕ) (s : Shared B T Ctx) (res : Outcome) : Shared B T Ctx × Task Ctx :=
  match s.nc with
  | some c => ((s.disconnect c).record (.closed i c), .disconnecting res)
  | none => finished s res

/-- The `finally` block. -/
def teardown (i : ℕ) (s : Shared B T Ctx) (res : Outcome) : Shared B T Ctx × Task Ctx :=
  match s.sub with
  | some c => (s.unsubscribe c, .unsubscribing res)
  | none => disconnect i s res

/-- `await self.ack(msg)`. -/
def ack (i : ℕ) (s : Shared B T Ctx) (v : Locals Ctx) (m : MsgId) : Shared B T Ctx × Task Ctx :=
  (s.record (.settled i .ack m), .acking v)

/-- `await self.nack(msg)`. -/
def nack (i : ℕ) (s : Shared B T Ctx) (v : Locals Ctx) (m : MsgId) : Shared B T Ctx × Task Ctx :=
  (s.record (.settled i .nack m), .naking v)

/-- The body of the loop, up to its first await. -/
def takeMessage (cd : Codec B T Ctx) (i : ℕ) (s : Shared B T Ctx) (v : Locals Ctx) (msg : Msg B) :
    Shared B T Ctx × Task Ctx :=
  let m : MsgId := ⟨i, v.count⟩
  let s := s.record (.delivered m msg s.running)
  let v := { v with count := v.count + 1 }
  if s.running then
    match cd.unpack msg with
    | some (message, ctx) =>
      (s.record (.invoked m (message, ctx)), .handling { v with ctx := ctx } m v.ctx)
    | none => nack i (s.record (.failed m)) v m
  else teardown i s .returned

/-- The second half of `close()`. -/
def closeDisconnect (s : Shared B T Ctx) : Shared B T Ctx × Task Ctx :=
  match s.nc with
  | some c => (s.disconnect c, .closeDisconnecting)
  | none => (s, .closed)

/-- `close()`, up to its first await. -/
def close (s : Shared B T Ctx) : Shared B T Ctx × Task Ctx :=
  let s := { s with running := false }
  match s.sub with
  | some c => (s.unsubscribe c, .closeUnsubscribing)
  | none => closeDisconnect s

/-- The code of `NatsConsumer`, from one await to the next. -/
def resume (cd : Codec B T Ctx) : Resume (Shared B T Ctx) (Task Ctx) (Ev B Ctx)
  | _, s, .idle, .subscribe ctx => some (s, .connecting ctx)
  | i, s, .connecting ctx, .connected jetstream => some (connected i s ctx jetstream)
  | _, s, .connecting _, .raise e => some (startFailed s e false)
  | _, s, .ensuring own ctx, .ok => some (ensured s own ctx)
  | _, s, .ensuring own ctx, .raise e =>
    if e.isa .natsBadRequestError then some (ensured s own ctx)
    else some (startFailed s e (s.ends own))
  | _, s, .subscribing own js ctx, .ok => some (subscribed s own js ctx)
  | _, s, .subscribing _ js _, .raise e => some (startFailed s e (s.ends js))
  | i, s, .polling v, .message msg => some (takeMessage cd i s v msg)
  | i, s, .polling v, .stop => if s.ends v.sub then some (teardown i s .returned) else none
  | i, s, .polling v, .raise e =>
    if s.ends v.sub && e.isa .exception then none else some (teardown i s (.raised (.raw e) false))
  | i, s, .handling v m token, .ok =>
    some (ack i (s.record (.returned m)) { v with ctx := token } m)
  | i, s, .handling v m token, .raise e =>
    if e.isa .exception then some (nack i (s.record (.failed m)) { v with ctx := token } m)
    else some (teardown i s (.raised (.raw e) false))
  | _, s, .acking v, .ok => some (s, .polling v)
  | i, s, .acking v, .raise e =>
    if e.isa .exception then some (s, .polling v)
    else some (teardown i s (.raised (.raw e) false))
  | _, s, .naking v, .ok => some (s, .polling v)
  | i, s, .naking v, .raise e =>
    if e.isa .exception then some (s, .polling v)
    else some (teardown i s (.raised (.raw e) false))
  | i, s, .unsubscribing res, .ok => some (disconnect i s res)
  | i, s, .unsubscribing res, .raise e =>
    if e.isa .exception then some (disconnect i s res)
    else some (s, .ended (.raised (.raw e) false))
  | _, s, .disconnecting res, .ok => some (finished s res)
  | _, s, .disconnecting res, .raise e =>
    if e.isa .exception then some (finished s res)
    else some (s, .ended (.raised (.raw e) false))
  | _, s, .idle, .close => some (close s)
  | _, s, .closeUnsubscribing, .ok => some (closeDisconnect s)
  | _, s, .closeUnsubscribing, .raise e =>
    if e.isa .exception then some (closeDisconnect s) else some (s, .closeFailed e)
  | _, s, .closeDisconnecting, .ok => some ({ s with nc := none }, .closed)
  | _, s, .closeDisconnecting, .raise e =>
    if e.isa .exception then some ({ s with nc := none }, .closed) else some (s, .closeFailed e)
  | _, _, _, _ => none

/-- What `resume` does, case by case. -/
inductive Step (cd : Codec B T Ctx) (i : ℕ) (s : Shared B T Ctx) :
    Task Ctx → Ev B Ctx → Shared B T Ctx × Task Ctx → Prop
  | subscribe {ctx} : Step cd i s .idle (.subscribe ctx) (s, .connecting ctx)
  | connected {ctx x} : Step cd i s (.connecting ctx) (.connected x) (connected i s ctx x)
  | notConnected {ctx e} : Step cd i s (.connecting ctx) (.raise e) (startFailed s e false)
  | ensured {own ctx ev} : (ev = .ok ∨ ∃ e, ev = .raise e ∧ e.isa .natsBadRequestError = true) →
    Step cd i s (.ensuring own ctx) ev (ensured s own ctx)
  | notEnsured {own ctx e} : e.isa .natsBadRequestError = false →
    Step cd i s (.ensuring own ctx) (.raise e) (startFailed s e (s.ends own))
  | subscribed {own js ctx} : Step cd i s (.subscribing own js ctx) .ok (subscribed s own js ctx)
  | notSubscribed {own js ctx e} :
    Step cd i s (.subscribing own js ctx) (.raise e) (startFailed s e (s.ends js))
  | message {v msg} : Step cd i s (.polling v) (.message msg) (takeMessage cd i s v msg)
  | stop {v} : s.ends v.sub = true → Step cd i s (.polling v) .stop (teardown i s .returned)
  | iteratorRaised {v e} : (s.ends v.sub && e.isa .exception) = false →
    Step cd i s (.polling v) (.raise e) (teardown i s (.raised (.raw e) false))
  | handled {v m token} : Step cd i s (.handling v m token) .ok
      (ack i (s.record (.returned m)) { v with ctx := token } m)
  | handlerFailed {v m token e} : e.isa .exception = true →
    Step cd i s (.handling v m token) (.raise e)
      (nack i (s.record (.failed m)) { v with ctx := token } m)
  | handlerCancelled {v m token e} : e.isa .exception = false →
    Step cd i s (.handling v m token) (.raise e) (teardown i s (.raised (.raw e) false))
  | acked {v ev} : Step cd i s (.acking v) ev (s, .polling v)
  | ackCancelled {v e} : e.isa .exception = false →
    Step cd i s (.acking v) (.raise e) (teardown i s (.raised (.raw e) false))
  | naked {v ev} : Step cd i s (.naking v) ev (s, .polling v)
  | nakCancelled {v e} : e.isa .exception = false →
    Step cd i s (.naking v) (.raise e) (teardown i s (.raised (.raw e) false))
  | unsubscribed {res ev} : Step cd i s (.unsubscribing res) ev (disconnect i s res)
  | unsubscribeCancelled {res e} : e.isa .exception = false →
    Step cd i s (.unsubscribing res) (.raise e) (s, .ended (.raised (.raw e) false))
  | disconnected {res ev} : Step cd i s (.disconnecting res) ev (finished s res)
  | disconnectCancelled {res e} : e.isa .exception = false →
    Step cd i s (.disconnecting res) (.raise e) (s, .ended (.raised (.raw e) false))
  | close : Step cd i s .idle .close (close s)
  | closeUnsubscribed {ev} : Step cd i s .closeUnsubscribing ev (closeDisconnect s)
  | closeUnsubscribeCancelled {e} : e.isa .exception = false →
    Step cd i s .closeUnsubscribing (.raise e) (s, .closeFailed e)
  | closed {ev} : Step cd i s .closeDisconnecting ev ({ s with nc := none }, .closed)
  | closeCancelled {e} : e.isa .exception = false →
    Step cd i s .closeDisconnecting (.raise e) (s, .closeFailed e)

theorem step_of_resume {cd : Codec B T Ctx} {i : ℕ} {s : Shared B T Ctx} {p : Task Ctx}
    {e : Ev B Ctx} {r : Shared B T Ctx × Task Ctx} (h : resume cd i s p e = some r) :
    Step cd i s p e r := by
  revert h
  fun_cases resume cd i s p e <;> rintro ⟨⟩ <;> constructor <;> simp_all

/-- A consumer that has just been made. -/
def fresh : Loop (Shared B T Ctx) (Task Ctx) where
  shared := ⟨none, none, none, false, 0, fun _ => ⟨false, false⟩, []⟩
  task _ := .idle

end Code

end OpenframeAdapters.Queue.Nats
