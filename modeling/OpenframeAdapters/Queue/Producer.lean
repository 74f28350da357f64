import Mathlib.Data.Nat.Notation
import OpenframeAdapters.Core.Exceptions

/-!
# Publishing

`publish()` and `publish_batch()` of the three producers differ in the field they check,
in the `except` clauses, and in that Kafka's batch ends with a `flush()`. Otherwise they
are the same:

    if field is None: raise RuntimeError
    value = self._serialise(message)
    try:
        async with asyncio.timeout(…):
            await field.send(value, headers=_inject_trace_headers())
    except …

where the batch serialises inside of the `try`, and reads the field again for every
message.

## The model

The functions below run from one await to the next. They are given what the field refers
to (`field`), and give either where the call is suspended (`Sending`), or what it raises,
if anything. `_serialise` and `inject` are parameters (`Serialiser`): the former may be
overridden, and may raise.
-/

namespace OpenframeAdapters.Queue

open Python OpenframeAdapters.Core

/-- The status that `health()` reports. -/
inductive PluginStatus where
  /-- `READY`. -/
  | ready
  /-- `FAILED`. -/
  | failed
  deriving DecidableEq

/-- What makes a message of the wire: payloads `V` with headers `H`. -/
structure Serialiser (M V H Ctx : Type) where
  /-- `_serialise`. -/
  serialise : M → Except PyExc V
  /-- `_inject_trace_headers`, in a given context. -/
  injectTraceHeaders : Ctx → H

/-- What the producers differ in. -/
structure Publisher where
  /-- The `except` clauses around the sends of an operation. -/
  errors : String → Clauses Cls AdapterError
  /-- A batch ends with a `flush()`. -/
  flushes : Bool

/-- Where `publish()` or `publish_batch()` is suspended. -/
inductive Sending (M V H Ctx : Type) where
  /-- `publish()` awaits the send. -/
  | one (sent : V × H)
  /-- `publish_batch()` awaits a send, and has these messages left. -/
  | many (sent : V × H) (rest : List M) (ctx : Ctx)
  /-- `publish_batch()` awaits `flush()`. -/
  | flushing

/-- Where a call is suspended, or what it has raised, if anything. -/
abbrev Progress (M V H Ctx : Type) := Sending M V H Ctx ⊕ Option Raised

variable {M V H Ctx : Type}

/-- `publish()`, up to its await. -/
def publish (cd : Serialiser M V H Ctx) (field : Option ℕ) (ctx : Ctx) (message : M) :
    Progress M V H Ctx :=
  match field with
  | none => .inr (some (.raw runtimeError))
  | some _ =>
    match cd.serialise message with
    | .error exc => .inr (some (.raw exc))
    | .ok value => .inl (.one (value, cd.injectTraceHeaders ctx))

/-- `publish_batch()` with these messages left, up to its next await. -/
def Publisher.next (P : Publisher) (cd : Serialiser M V H Ctx) (field : Option ℕ) (ctx : Ctx) :
    List M → Progress M V H Ctx
  | [] =>
    match P.flushes, field with
    | true, some _ => .inl .flushing
    | true, none => .inr (some (translate (P.errors "publish_batch") attributeError))
    | false, _ => .inr none
  | message :: rest =>
    match cd.serialise message, field with
    | .error exc, _ => .inr (some (translate (P.errors "publish_batch") exc))
    | .ok _, none => .inr (some (translate (P.errors "publish_batch") attributeError))
    | .ok value, some _ => .inl (.many (value, cd.injectTraceHeaders ctx) rest ctx)

/-- `publish_batch()`, up to its first await. -/
def Publisher.publishBatch (P : Publisher) (cd : Serialiser M V H Ctx) (field : Option ℕ)
    (ctx : Ctx) (messages : List M) : Progress M V H Ctx :=
  match field with
  | none => .inr (some (.raw runtimeError))
  | some _ => P.next cd field ctx messages

/-- The awaited send or flush has returned. -/
def Publisher.sent (P : Publisher) (cd : Serialiser M V H Ctx) (field : Option ℕ) :
    Sending M V H Ctx → Progress M V H Ctx
  | .one _ | .flushing => .inr none
  | .many _ rest ctx => P.next cd field ctx rest

/-- What the broker acknowledges when the awaited send returns. -/
def Sending.acknowledged : Sending M V H Ctx → Option (V × H)
  | .one sent | .many sent _ _ => some sent
  | .flushing => none

/-- What the call raises where the awaited send or flush does. -/
def Publisher.notSent (P : Publisher) (exc : PyExc) : Sending M V H Ctx → Raised
  | .one _ => translate (P.errors "publish") exc
  | .many .. | .flushing => translate (P.errors "publish_batch") exc

/-- `publish()` raises `RuntimeError`, whatever the message is, where the field is not set. -/
theorem publish_none (cd : Serialiser M V H Ctx) (ctx : Ctx) (message : M) :
    publish cd none ctx message = .inr (some (.raw runtimeError)) := rfl

end OpenframeAdapters.Queue
