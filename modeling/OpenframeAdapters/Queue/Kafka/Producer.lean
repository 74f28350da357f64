import Mathlib.Logic.Function.Basic
import OpenframeAdapters.Python.Tasks
import OpenframeAdapters.Queue.Producer

/-!
# The Kafka producer

`KafkaProducer` of `queue/kafka/producer.py`. Its calls share the field `_producer`.

## The model

A task is one call, and its states are the awaits,

    start           await self._producer.start()              starting
    publish         await self._producer.send_and_wait(…)     sending
    publish_batch   await self._producer.send_and_wait(…)     sending
                    await self._producer.flush()              sending
    close           await self._producer.stop()               closing

A client is opened by constructing it, and closed by calling `stop()` on it.
-/

namespace OpenframeAdapters.Queue.KafkaProducer

open Python OpenframeAdapters.Core

/-- What the calls share. -/
structure Shared (V H : Type) where
  /-- `self._producer`. -/
  producer : Option ℕ
  /-- How many clients have been constructed; they are numbered from `0`. -/
  made : ℕ
  /-- `stop()` has been called on the client. -/
  stopped : ℕ → Bool
  /-- What the broker has acknowledged, each with the call it was sent by, newest first. -/
  acked : List (ℕ × (V × H))

/-- Where a call is suspended. -/
inductive Task (M V H Ctx : Type) where
  /-- The call has not been made. -/
  | idle
  /-- `start()` awaits `start()` of the client it has constructed. -/
  | starting (own : ℕ)
  /-- `publish()` or `publish_batch()` awaits. -/
  | sending (p : Sending M V H Ctx)
  /-- `close()` awaits `stop()`. -/
  | closing
  /-- The call is over, and has raised this, if anything. -/
  | ended (x : Option Raised)

/-- What happens to a task. -/
inductive Ev (M Ctx : Type) where
  /-- `start()` is called; the constructor of the client returns or raises. -/
  | start (construct : Option PyExc)
  /-- `publish()` is called in the given context. -/
  | publish (ctx : Ctx) (message : M)
  /-- `publish_batch()` is called in the given context. -/
  | publishBatch (ctx : Ctx) (messages : List M)
  /-- `close()` is called. -/
  | close
  /-- The awaited call returns. -/
  | ok
  /-- The awaited call raises. -/
  | raise (e : PyExc)

variable {M V H Ctx : Type}

/-- The `except` clauses of `publish()` and `publish_batch()`. -/
def publisher : Publisher where
  errors operation := [([.timeoutError], fun exc => ⟨.timeout, operation, some exc⟩),
    ([.kafkaError], fun exc => ⟨.query, operation, some exc⟩)]
  flushes := true

/-- `self._producer = AIOKafkaProducer(…)`. -/
def Shared.construct (s : Shared V H) : Shared V H :=
  { s with
    producer := some s.made
    made := s.made + 1
    stopped := Function.update s.stopped s.made false }

/-- The `except` clauses of `start()`. -/
def startErrors : Clauses Cls AdapterError :=
  [([.timeoutError], fun exc => ⟨.timeout, "start", some exc⟩),
    ([.kafkaConnectionError], fun exc => ⟨.connection, "start", some exc⟩),
    ([.kafkaError], fun _ => ⟨.configuration, "start", none⟩)]

/-- `start()` has raised; each of its clauses resets the field. -/
def startFailed (s : Shared V H) (e : PyExc) : Shared V H × Task M V H Ctx :=
  match dispatch startErrors e with
  | some err => ({ s with producer := none }, .ended (some (.adapter err)))
  | none => (s, .ended (some (.raw e)))

/-- Go on with what `publish()` or `publish_batch()` does next. -/
def progress (s : Shared V H) : Progress M V H Ctx → Shared V H × Task M V H Ctx
  | .inl p => (s, .sending p)
  | .inr x => (s, .ended x)

/-- The broker acknowledges what was sent, if the await was one of a send. -/
def Shared.acknowledge (s : Shared V H) (i : ℕ) (sent : Option (V × H)) : Shared V H :=
  match sent with
  | some m => { s with acked := (i, m) :: s.acked }
  | none => s

/-- `close()`, up to its await. -/
def close (s : Shared V H) : Shared V H × Task M V H Ctx :=
  match s.producer with
  | some c => ({ s with stopped := Function.update s.stopped c true }, .closing)
  | none => (s, .ended none)

/-- `health()`. -/
def health (s : Shared V H) : PluginStatus :=
  if s.producer.isSome then .ready else .failed

/-- The code of `KafkaProducer`, from one await to the next. -/
def resume (cd : Serialiser M V H Ctx) : Resume (Shared V H) (Task M V H Ctx) (Ev M Ctx)
  | _, s, .idle, .start none => some (s.construct, .starting s.made)
  | _, s, .idle, .start (some e) => some (startFailed s e)
  | _, s, .starting _, .ok => some (s, .ended none)
  | _, s, .starting _, .raise e => some (startFailed s e)
  | _, s, .idle, .publish ctx message => some (progress s (publish cd s.producer ctx message))
  | _, s, .idle, .publishBatch ctx messages =>
    some (progress s (publisher.publishBatch cd s.producer ctx messages))
  | i, s, .sending p, .ok =>
    some (progress (s.acknowledge i p.acknowledged) (publisher.sent cd s.producer p))
  | _, s, .sending p, .raise e => some (s, .ended (some (publisher.notSent e p)))
  | _, s, .idle, .close => some (close s)
  | _, s, .closing, .ok => some ({ s with producer := none }, .ended none)
  | _, s, .closing, .raise e =>
    some ({ s with producer := none }, .ended (if e.isa .exception then none else some (.raw e)))
  | _, _, _, _ => none

/-- A producer that has not been started, after whatever clients it had before. -/
def notStarted (made : ℕ) (stopped : ℕ → Bool) : Loop (Shared V H) (Task M V H Ctx) where
  shared := ⟨none, made, stopped, []⟩
  task _ := .idle

end OpenframeAdapters.Queue.KafkaProducer
