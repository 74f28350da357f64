import OpenframeAdapters.Python.Dict
import OpenframeAdapters.Python.Tasks
import OpenframeAdapters.Queue.Journal

/-!
# The Kafka consumer

`KafkaConsumer` of `queue/kafka/consumer.py`: one object whose `subscribe()` and
`close()` may be called any number of times, by any tasks, while other calls are
suspended in an await. The calls share the object's fields `_consumer` and
`_running`.

## The model

A task is one call. Its states (`Task`) are the awaits of `subscribe()`, `ack()`
and `close()`, each with the local variables that are live there, and `resume`
runs the code from one await to the next. The awaits are

    subscribe   await self._consumer.start()          starting
                async for msg in self._consumer       polling
                await handler(message)                handling
                await self._consumer.commit()         committing
                await self._consumer.stop()           stopping
    close       await self._consumer.stop()           closing

`nack()` only logs, so it is no await. An await ends with an event (`Ev`): the
call it waits for returns or raises, the iterator yields a record, or it ends.

The driver is the part of the state that the fields refer to: the clients made so
far, each with the positions its iterator has reached, and the group's committed
offsets. `enable_auto_commit=False` commits nothing by itself, so `commit()` is
the only step that writes the committed offsets; it writes, per partition, the
position one past the last record the iterator returned, as it was when it was
called. Stopping a client ends its iterator normally, with no `Exception`, and the
iterator of a client that is not stopped does not end.

`_deserialise`, the decoding of the header bytes and `extract` are parameters
(`Codec`), as subclasses override the first; where one of them raises it gives
`none`. The ambient OpenTelemetry context is a local of the task, as each task has
a copy of its own.
-/

namespace OpenframeAdapters.Queue.Kafka

open Python OpenframeAdapters.Core

/-- A record of the topic. -/
structure Record (P B : Type) where
  /-- The partition. -/
  partition : P
  /-- The offset in the partition. -/
  offset : ℕ
  /-- `msg.value`. -/
  value : B
  /-- `msg.headers or []`. -/
  headers : List (String × B)
  deriving DecidableEq

/-- What unpacks a record. -/
structure Codec (B T Ctx : Type) where
  /-- `_deserialise`. -/
  deserialise : B → Option T
  /-- `v.decode("utf-8")`. -/
  decode : B → Option String
  /-- `extract` of `openframe.core.tracing.propagation`. -/
  extract : Dict String String → Option Ctx

/-- `{k: v.decode("utf-8") for k, v in (msg.headers or [])}`. -/
def Codec.carrier {B T Ctx : Type} (cd : Codec B T Ctx) (headers : List (String × B)) :
    Option (Dict String String) :=
  (headers.mapM fun kv => (cd.decode kv.2).map fun v => (kv.1, v)).map Dict.ofPairs

/-- An `AIOKafkaConsumer`. -/
structure Client (P : Type) where
  /-- `start()` has succeeded, and nobody has called `stop()` since. -/
  connected : Bool
  /-- `stop()` has been called. -/
  stopped : Bool
  /-- One past the last record its iterator returned, per partition. -/
  position : P → Option ℕ

/-- What the calls share. -/
structure Shared (P B T Ctx : Type) where
  /-- `self._consumer`. -/
  consumer : Option ℕ
  /-- `self._running`. -/
  running : Bool
  /-- How many clients have been constructed; they are numbered from `0`. -/
  made : ℕ
  /-- The clients. -/
  client : ℕ → Client P
  /-- The offsets committed for the group. -/
  committed : P → ℕ
  /-- What has happened. -/
  journal : Journal (Record P B) (T × Ctx)

/-- The local variables of `subscribe()` in its loop. -/
structure Locals (Ctx : Type) where
  /-- The client this call constructed. -/
  own : ℕ
  /-- The client whose iterator the loop runs over. -/
  iterator : ℕ
  /-- How many messages the loop has taken. -/
  count : ℕ
  /-- The message that the local `message` was deserialised from, once it is bound. -/
  message : Option MsgId
  /-- The ambient OpenTelemetry context. -/
  ctx : Ctx

/-- Where a call is suspended. -/
inductive Task (P Ctx : Type) where
  /-- The call has not been made. -/
  | idle
  /-- `subscribe()` awaits `start()` of the client it has constructed. -/
  | starting (own : ℕ) (ctx : Ctx)
  /-- `subscribe()` awaits the next record. -/
  | polling (v : Locals Ctx)
  /-- `subscribe()` awaits the handler of a message. -/
  | handling (v : Locals Ctx) (m : MsgId) (token : Ctx)
  /-- `ack()` awaits `commit()`, which was called with these positions. -/
  | committing (v : Locals Ctx) (offsets : P → Option ℕ)
  /-- The `finally` block awaits `stop()`. -/
  | stopping (res : Outcome)
  /-- `subscribe()` is over. -/
  | ended (res : Outcome)
  /-- `close()` awaits `stop()`. -/
  | closing
  /-- `close()` has returned. -/
  | closed
  /-- `close()` has raised what is no `Exception`. -/
  | closeFailed (e : PyExc)

/-- A `subscribe()` call that is not over and has not come to its `finally` block. -/
def Task.active {P Ctx : Type} : Task P Ctx → Prop
  | .starting .. | .polling .. | .handling .. | .committing .. => True
  | _ => False

/-- What happens to a task. -/
inductive Ev (P B Ctx : Type) where
  /-- `subscribe()` is called, in the given context; the constructor of the client returns
  or raises. -/
  | subscribe (ctx : Ctx) (construct : Option PyExc)
  /-- `close()` is called. -/
  | close
  /-- The awaited call returns. -/
  | ok
  /-- The awaited call raises. -/
  | raise (e : PyExc)
  /-- The iterator yields a record. -/
  | message (r : Record P B)
  /-- The iterator ends. -/
  | stop

section Code

variable {P B T Ctx : Type}

/-- Write an entry of the journal. -/
def Shared.record (s : Shared P B T Ctx) (e : Entry (Record P B) (T × Ctx)) : Shared P B T Ctx :=
  { s with journal := e :: s.journal }

/-- Change the client `c`. -/
def Shared.setClient (s : Shared P B T Ctx) (c : ℕ) (f : Client P → Client P) : Shared P B T Ctx :=
  { s with client := Function.update s.client c (f (s.client c)) }

/-- `stop()` is called on the client `c`. -/
def Shared.stopClient (s : Shared P B T Ctx) (c : ℕ) : Shared P B T Ctx :=
  s.setClient c fun k => { k with connected := false, stopped := true }

/-- `self._consumer = AIOKafkaConsumer(…)`. -/
def Shared.construct (s : Shared P B T Ctx) (i : ℕ) : Shared P B T Ctx :=
  ({ s with consumer := some s.made, made := s.made + 1 }.setClient s.made
    fun _ => ⟨false, false, fun _ => none⟩).record (.opened i s.made)

/-- The `except` clauses of the start-up. -/
def startFailed (s : Shared P B T Ctx) (e : PyExc) (stale : Bool) :
    Shared P B T Ctx × Task P Ctx :=
  if e.isa .kafkaConnectionError then
    ({ s with consumer := none },
      .ended (.raised (.adapter ⟨.connection, "subscribe", some e⟩) stale))
  else if e.isa .kafkaError then
    ({ s with consumer := none },
      .ended (.raised (.adapter ⟨.configuration, "subscribe", none⟩) stale))
  else (s, .ended (.raised (.raw e) stale))

/-- The end of the `finally` block. -/
def finished (s : Shared P B T Ctx) (res : Outcome) : Shared P B T Ctx × Task P Ctx :=
  ({ s with consumer := none, running := false }, .ended res)

/-- The `finally` block: it stops the client that `_consumer` refers to, if any. -/
def teardown (i : ℕ) (s : Shared P B T Ctx) (res : Outcome) : Shared P B T Ctx × Task P Ctx :=
  match s.consumer with
  | some c => ((s.stopClient c).record (.closed i c), .stopping res)
  | none => finished s res

/-- `start()` has returned: `self._running = True`, and the loop begins. `async for` reads
`_consumer` again, and raises `TypeError` where that is `None` by now. -/
def startLoop (i : ℕ) (s : Shared P B T Ctx) (own : ℕ) (ctx : Ctx) :
    Shared P B T Ctx × Task P Ctx :=
  let s := { s.setClient own (fun k => { k with connected := true }) with running := true }
  match s.consumer with
  | some c => (s, .polling ⟨own, c, 0, none, ctx⟩)
  | none => teardown i s (.raised (.raw typeError) true)

/-- `await self.nack(message)`: it only logs. `message` may be unbound, or bound by an
earlier iteration. -/
def nack (i : ℕ) (s : Shared P B T Ctx) (v : Locals Ctx) : Shared P B T Ctx × Task P Ctx :=
  match v.message with
  | some m => (s.record (.settled i .nack m), .polling v)
  | none => teardown i s (.raised (.raw unboundLocalError) false)

/-- `await self.ack(message)`: it commits on the client that `_consumer` refers to, if any. -/
def ack (i : ℕ) (s : Shared P B T Ctx) (v : Locals Ctx) (m : MsgId) :
    Shared P B T Ctx × Task P Ctx :=
  let s := s.record (.settled i .ack m)
  match s.consumer with
  | some c => (s, .committing v (s.client c).position)
  | none => (s, .polling v)

/-- The iterator of `c` may yield the record: it is not behind the position reached, nor,
where nothing has been read yet, behind the committed offset. -/
def Shared.admits [DecidableEq P] (s : Shared P B T Ctx) (c : ℕ) (r : Record P B) : Bool :=
  ((s.client c).position r.partition).getD (s.committed r.partition) ≤ r.offset

/-- The iterator of `c` yields the record. -/
def Shared.advance [DecidableEq P] (s : Shared P B T Ctx) (c : ℕ) (r : Record P B) :
    Shared P B T Ctx :=
  s.setClient c fun k =>
    { k with position := Function.update k.position r.partition (some (r.offset + 1)) }

/-- The body of the loop, up to the await of the handler. -/
def takeMessage (cd : Codec B T Ctx) (i : ℕ) (s : Shared P B T Ctx) (v : Locals Ctx)
    (r : Record P B) : Shared P B T Ctx × Task P Ctx :=
  let m : MsgId := ⟨i, v.count⟩
  let s := s.record (.delivered m r s.running)
  let v := { v with count := v.count + 1 }
  if s.running then
    match cd.deserialise r.value with
    | some value =>
      let v := { v with message := some m }
      match (cd.carrier r.headers).bind cd.extract with
      | some ctx => (s.record (.invoked m (value, ctx)), .handling { v with ctx := ctx } m v.ctx)
      | none => nack i (s.record (.failed m)) v
    | none => nack i (s.record (.failed m)) v
  else teardown i s .returned

/-- `close()`, up to its await. -/
def close (s : Shared P B T Ctx) : Shared P B T Ctx × Task P Ctx :=
  match s.consumer with
  | some c => ({ s.stopClient c with running := false }, .closing)
  | none => ({ s with running := false }, .closed)

/-- The code of `KafkaConsumer`, from one await to the next. -/
def resume [DecidableEq P] (cd : Codec B T Ctx) :
    Resume (Shared P B T Ctx) (Task P Ctx) (Ev P B Ctx)
  | i, s, .idle, .subscribe ctx none => some (s.construct i, .starting s.made ctx)
  | _, s, .idle, .subscribe _ (some e) => some (startFailed s e false)
  | i, s, .starting own ctx, .ok => some (startLoop i s own ctx)
  | _, s, .starting own _, .raise e => some (startFailed s e (s.client own).stopped)
  | i, s, .polling v, .message r =>
    if s.admits v.iterator r then some (takeMessage cd i (s.advance v.iterator r) v r) else none
  | i, s, .polling v, .stop =>
    if (s.client v.iterator).stopped then some (teardown i s .returned) else none
  | i, s, .polling v, .raise e =>
    if (s.client v.iterator).stopped && e.isa .exception then none
    else some (teardown i s (.raised (.raw e) false))
  | i, s, .handling v m token, .ok =>
    some (ack i (s.record (.returned m)) { v with ctx := token } m)
  | i, s, .handling v m token, .raise e =>
    if e.isa .exception then some (nack i (s.record (.failed m)) { v with ctx := token })
    else some (teardown i s (.raised (.raw e) false))
  | _, s, .committing v offsets, .ok =>
    some ({ s with committed := fun p => (offsets p).getD (s.committed p) }, .polling v)
  | i, s, .committing v _, .raise e =>
    if e.isa .exception then some (s, .polling v)
    else some (teardown i s (.raised (.raw e) false))
  | _, s, .stopping res, .ok => some (finished s res)
  | _, s, .stopping res, .raise e =>
    if e.isa .exception then some (finished s res)
    else some (s, .ended (.raised (.raw e) false))
  | _, s, .idle, .close => some (close s)
  | _, s, .closing, .ok => some ({ s with consumer := none }, .closed)
  | _, s, .closing, .raise e =>
    if e.isa .exception then some ({ s with consumer := none }, .closed)
    else some (s, .closeFailed e)
  | _, _, _, _ => none

/-- What `resume` does, case by case. -/
inductive Step [DecidableEq P] (cd : Codec B T Ctx) (i : ℕ) (s : Shared P B T Ctx) :
    Task P Ctx → Ev P B Ctx → Shared P B T Ctx × Task P Ctx → Prop
  | subscribe {ctx} : Step cd i s .idle (.subscribe ctx none) (s.construct i, .starting s.made ctx)
  | notConstructed {ctx e} : Step cd i s .idle (.subscribe ctx (some e)) (startFailed s e false)
  | started {own ctx} : Step cd i s (.starting own ctx) .ok (startLoop i s own ctx)
  | notStarted {own ctx e} :
    Step cd i s (.starting own ctx) (.raise e) (startFailed s e (s.client own).stopped)
  | message {v r} : s.admits v.iterator r = true →
    Step cd i s (.polling v) (.message r) (takeMessage cd i (s.advance v.iterator r) v r)
  | stop {v} : (s.client v.iterator).stopped = true →
    Step cd i s (.polling v) .stop (teardown i s .returned)
  | iteratorRaised {v e} : ((s.client v.iterator).stopped && e.isa .exception) = false →
    Step cd i s (.polling v) (.raise e) (teardown i s (.raised (.raw e) false))
  | handled {v m token} : Step cd i s (.handling v m token) .ok
      (ack i (s.record (.returned m)) { v with ctx := token } m)
  | handlerFailed {v m token e} : e.isa .exception = true →
    Step cd i s (.handling v m token) (.raise e)
      (nack i (s.record (.failed m)) { v with ctx := token })
  | handlerCancelled {v m token e} : e.isa .exception = false →
    Step cd i s (.handling v m token) (.raise e) (teardown i s (.raised (.raw e) false))
  | committed {v offsets} : Step cd i s (.committing v offsets) .ok
      ({ s with committed := fun p => (offsets p).getD (s.committed p) }, .polling v)
  | commitFailed {v offsets e} : e.isa .exception = true →
    Step cd i s (.committing v offsets) (.raise e) (s, .polling v)
  | commitCancelled {v offsets e} : e.isa .exception = false →
    Step cd i s (.committing v offsets) (.raise e) (teardown i s (.raised (.raw e) false))
  | stopped {res} : Step cd i s (.stopping res) .ok (finished s res)
  | stopFailed {res e} : e.isa .exception = true →
    Step cd i s (.stopping res) (.raise e) (finished s res)
  | stopCancelled {res e} : e.isa .exception = false →
    Step cd i s (.stopping res) (.raise e) (s, .ended (.raised (.raw e) false))
  | close : Step cd i s .idle .close (close s)
  | closed {ev} : Step cd i s .closing ev ({ s with consumer := none }, .closed)
  | closeCancelled {e} : e.isa .exception = false →
    Step cd i s .closing (.raise e) (s, .closeFailed e)

theorem step_of_resume [DecidableEq P] {cd : Codec B T Ctx} {i : ℕ} {s : Shared P B T Ctx}
    {p : Task P Ctx} {e : Ev P B Ctx} {r : Shared P B T Ctx × Task P Ctx}
    (h : resume cd i s p e = some r) : Step cd i s p e r := by
  revert h
  fun_cases resume cd i s p e <;> rintro ⟨⟩ <;> constructor <;> simp_all

/-- A consumer that has just been made, with the offsets committed for its group. -/
def fresh (committed : P → ℕ) : Loop (Shared P B T Ctx) (Task P Ctx) where
  shared := ⟨none, false, 0, fun _ => ⟨false, false, fun _ => none⟩, committed, []⟩
  task _ := .idle

end Code

end OpenframeAdapters.Queue.Kafka
