import OpenframeAdapters.Python.ContextVar
import OpenframeAdapters.Python.World
import OpenframeAdapters.Queue.Kafka.Consumer
import OpenframeAdapters.Queue.Nats.Consumer
import OpenframeAdapters.Queue.Rabbitmq.Consumer

/-!
# The trace context of a message

What a producer puts in the headers of a message, what the consumer takes out of them, and the
OpenTelemetry context that the handler runs in.

## The model

* `injectTraceHeaders` — `_inject_trace_headers()` of each producer.
* `handle` — the `try` statement that the three loops have around a message: unpack it, attach
  the context, await the handler, detach in a `finally` block, settle.
* `consume` — the loop over the messages that the iterator yields, with the local variables that
  are carried from one iteration to the next.
* `ambient` — the world of a loop: the context variable, and the handler calls with the context
  each one has begun in. A handler may do to the variable whatever it likes without our token.
* `Crosses` — what is asked of the headers of a producer and its consumer; `Invokes` — of the
  consumer's code in `Consumer`; `KeepsContext` — of its loop.

In `Consumer` these loops are cut at their awaits, and interleaved with other calls. Here a `read`
of the fields sees whatever those have left; the flag of the loop is seen to be down only where
some call has stopped the loop.

## What is proved

* `carrier_injectTraceHeaders` and `crosses` — a message is unpacked with the carrier that was
  injected.
* `invokes` — the handler is called with what the message unpacks to.
* `wpIn_handle` and `keepsContext_consume` — every handler runs in the context of its message, and
  the context variable is afterwards what it was before. All messages are taken, unless the loop is
  stopped, or handling one of them raises.
-/

namespace OpenframeAdapters.Queue

open Python OpenframeAdapters.Core

/-! ### Headers -/

namespace KafkaProducer

/-- `_inject_trace_headers()`: the items, with their values encoded. -/
def injectTraceHeaders (carrier : Dict String String) : List (String × ByteArray) :=
  carrier.items.map fun item => (item.1, item.2.toUTF8)

end KafkaProducer

namespace NatsProducer

/-- `_inject_trace_headers()`: the carrier as it is. -/
def injectTraceHeaders (carrier : Dict String String) : Dict String String := carrier

end NatsProducer

namespace RabbitmqProducer

/-- `_inject_trace_headers()`: the carrier as it is. -/
def injectTraceHeaders (carrier : Dict String String) : Dict String String := carrier

end RabbitmqProducer

section Crossing

variable {R H D T Ctx : Type}

/-- What is asked of a producer that puts a carrier into headers as `wire`, and of the consumer that
gets messages `R` with these headers. -/
structure Crosses (wire : H) (carrier : D) (carried : H → Option D) (headers : R → H)
    (payload : R → Option T) (extract : D → Option Ctx) (unpack : R → Option (T × Ctx)) : Prop where
  /-- The carrier that is passed to `extract()`. -/
  carried : carried wire = some carrier
  /-- The message is unpacked in the context of that carrier. -/
  unpacked : ∀ r, headers r = wire →
    unpack r = (payload r).bind fun message => (extract carrier).map fun ctx => (message, ctx)

/-- A consumer that passes its carrier on to `extract()`. -/
theorem crosses_of_unpack {wire : H} {carrier : D} {carried : H → Option D} {headers : R → H}
    {payload : R → Option T} {extract : D → Option Ctx} {unpack : R → Option (T × Ctx)}
    (hcarried : carried wire = some carrier)
    (hunpack : ∀ r, unpack r = (payload r).bind fun message =>
      ((carried (headers r)).bind extract).map fun ctx => (message, ctx)) :
    Crosses wire carrier carried headers payload extract unpack := by
  refine ⟨hcarried, fun r hr => ?_⟩
  rw [hunpack, hr, hcarried, Option.bind_some]

/-- In the code that takes a message, the handler is called with what the message unpacks to, and it
is not called where the message cannot be unpacked. -/
def Invokes {σ π L : Type} (take : ℕ → σ → L → R → Option (σ × π)) (running : σ → Bool)
    (journal : σ → Journal R (T × Ctx)) (count : L → ℕ) (unpack : R → Option (T × Ctx)) : Prop :=
  ∀ i s v r s' p, take i s v r = some (s', p) → running s = true → invocations (journal s') =
    (unpack r).toList.map (fun x => (⟨i, count v⟩, x)) ++ invocations (journal s)

end Crossing

/-- Decoding takes back what encoding does. -/
theorem fromUTF8?_toUTF8 (s : String) : String.fromUTF8? s.toUTF8 = some s := by
  have hvalid : s.toUTF8.IsValidUTF8 := s.isValidUTF8
  rw [String.fromUTF8?, dif_pos hvalid]
  rfl

namespace Kafka

/-- The unpacking of a record, with the decoding of header bytes as it is. -/
def utf8Codec {T Ctx : Type} (deserialise : ByteArray → Option T)
    (extract : Dict String String → Option Ctx) : Codec ByteArray T Ctx :=
  ⟨deserialise, String.fromUTF8?, extract⟩

/-- **Kafka headers**: the consumer decodes what the producer has encoded. -/
theorem carrier_injectTraceHeaders {T Ctx : Type} (deserialise : ByteArray → Option T)
    (extract : Dict String String → Option Ctx) (carrier : Dict String String) :
    (utf8Codec deserialise extract).carrier (KafkaProducer.injectTraceHeaders carrier) =
      some carrier := by
  have hitems : ∀ items : List (String × String),
      (items.map fun item => (item.1, item.2.toUTF8)).mapM (fun kv : String × ByteArray =>
        (String.fromUTF8? kv.2).map fun v => (kv.1, v)) = some items := by
    intro items
    induction items with
    | nil => rfl
    | cons item rest ih =>
      rw [List.map_cons, List.mapM_cons, ih, fromUTF8?_toUTF8]
      rfl
  unfold Codec.carrier KafkaProducer.injectTraceHeaders
  rw [utf8Codec, hitems, Option.map_some, Dict.ofPairs_items]

end Kafka

namespace Nats

variable {B T Ctx : Type}

/-- `dict(msg.headers or {})`. -/
def carrier (headers : List (String × String)) : Option (Dict String String) :=
  some (Dict.ofPairs headers)

/-- **NATS headers**: the consumer takes the table as it is. -/
theorem carrier_injectTraceHeaders (injected : Dict String String) :
    carrier (NatsProducer.injectTraceHeaders injected).items = some injected :=
  congrArg some (Dict.ofPairs_items injected)

theorem Codec.unpack_eq (cd : Codec B T Ctx) (msg : Msg B) :
    cd.unpack msg = (cd.deserialise msg.data).bind fun message =>
      ((carrier msg.headers).bind cd.extract).map fun ctx => (message, ctx) := by
  unfold Codec.unpack carrier
  cases cd.deserialise msg.data with
  | none => rfl
  | some message =>
    change (cd.extract (Dict.ofPairs msg.headers)).bind (fun ctx => some (message, ctx)) =
      (cd.extract (Dict.ofPairs msg.headers)).map fun ctx => (message, ctx)
    cases cd.extract (Dict.ofPairs msg.headers) with
    | none => rfl
    | some ctx => rfl

end Nats

namespace Rabbitmq

variable {B W T Ctx : Type}

/-- The carrier that `extract` is called with. -/
def Codec.carrier (cd : Codec B W T Ctx) (headers : List (String × (B ⊕ W))) :
    Option (Dict String (String ⊕ W)) :=
  (headers.mapM fun kv => (cd.header kv.2).map fun v => (kv.1, v)).map Dict.ofPairs

theorem Codec.unpack_eq (cd : Codec B W T Ctx) (message : Message B W) :
    cd.unpack message = (cd.deserialise message.body).bind fun payload =>
      ((cd.carrier message.headers).bind cd.extract).map fun ctx => (payload, ctx) := by
  unfold Codec.unpack Codec.carrier
  cases cd.deserialise message.body with
  | none => rfl
  | some payload =>
    cases message.headers.mapM fun kv => (cd.header kv.2).map fun v => (kv.1, v) with
    | none => simp
    | some carrier =>
      change (cd.extract (Dict.ofPairs carrier)).bind (fun ctx => some (payload, ctx)) =
        (cd.extract (Dict.ofPairs carrier)).map fun ctx => (payload, ctx)
      cases cd.extract (Dict.ofPairs carrier) with
      | none => rfl
      | some ctx => rfl

/-- The headers of a message on the wire: the values of the table are strings. -/
def onWire (str : String → W) (table : Dict String String) : List (String × (B ⊕ W)) :=
  table.items.map fun item => (item.1, .inr (str item.2))

/-- **AMQP headers**: strings are passed on as they are. -/
theorem carrier_injectTraceHeaders (cd : Codec B W T Ctx) (str : String → W)
    (carrier : Dict String String) :
    cd.carrier (onWire str (RabbitmqProducer.injectTraceHeaders carrier)) =
      some (carrier.map fun v => .inr (str v)) := by
  have hitems : ∀ items : List (String × String),
      (items.map fun item => (item.1, (.inr (str item.2) : B ⊕ W))).mapM (fun kv =>
        (cd.header kv.2).map fun v => (kv.1, v)) =
      some (items.map fun item => (item.1, .inr (str item.2))) := by
    intro items
    induction items with
    | nil => rfl
    | cons item rest ih =>
      rw [List.map_cons, List.mapM_cons, ih]
      rfl
  have hcarrier : carrier.items.map (fun item => (item.1, (.inr (str item.2) : String ⊕ W))) =
      (carrier.map fun v => (.inr (str v) : String ⊕ W)).items := rfl
  unfold Codec.carrier onWire RabbitmqProducer.injectTraceHeaders
  rw [hitems, hcarrier, Option.map_some, Dict.ofPairs_items]

end Rabbitmq

/-! ### The loops -/

/-- What a loop calls, besides its iterator. -/
inductive LoopCall (T Ctx : Type) where
  /-- `otel_context.attach(ctx)`. -/
  | attach (ctx : Ctx)
  /-- `otel_context.detach(token)`. -/
  | detach (token : Token Ctx)
  /-- `await handler(message)`. -/
  | handler (message : T)
  /-- The await that settles a message. -/
  | settle (verdict : Verdict)

/-- The calls and what they return. -/
abbrev loopCalls (T Ctx : Type) : Driver where
  Call := LoopCall T Ctx
  Reply
    | .attach _ => Token Ctx
    | .detach _ | .handler _ | .settle _ => Unit

/-- Code of a loop that reads the fields `σ` of its consumer. -/
abbrev LoopCode (T Ctx σ α : Type) := Coro (loopCalls T Ctx) PyExc σ PyExc α

section Code

variable {T Ctx σ M L α : Type}

/-- `await q`, or a plain call. -/
def callLoop (q : LoopCall T Ctx) : LoopCode T Ctx σ ((loopCalls T Ctx).Reply q) :=
  Coro.call (D := loopCalls T Ctx) id q

/-- `try: p except Exception: h`. -/
def exceptException (p h : LoopCode T Ctx σ α) : LoopCode T Ctx σ α :=
  p.tryCatch fun exc => if exc.isa .exception then h else .raise exc

/-- Some `Exception` that `_deserialise`, `decode` or `extract` raises. -/
def unpackError : PyExc := unnamedError

/-- The `try` statement around a message. -/
def handle (unpacked : Option (T × Ctx)) (ack nack : LoopCode T Ctx σ Unit) :
    LoopCode T Ctx σ Unit :=
  exceptException (do
    match unpacked with
    | none => .raise unpackError
    | some (message, parentCtx) =>
      let token ← callLoop (.attach parentCtx)
      Coro.tryFinally (callLoop (.handler message)) (callLoop (.detach token))
      ack) nack

/-- A settlement call that never raises an `Exception`. -/
def settle (verdict : Verdict) : LoopCode T Ctx σ Unit :=
  exceptException (callLoop (.settle verdict)) (pure ())

/-- The loop, over the messages that the iterator yields. -/
def consume (running : σ → Bool) (body : L → M → LoopCode T Ctx σ L) :
    L → List M → LoopCode T Ctx σ L
  | v, [] => pure v
  | v, msg :: rest => do
    let s ← .get
    if running s then
      let v ← body v msg
      consume running body v rest
    else pure v

end Code

namespace Kafka

variable {P B T Ctx : Type} (cd : Codec B T Ctx)

/-- The statements of the loop before the handler is awaited. -/
def Codec.unpack (r : Record P B) : Option (T × Ctx) :=
  (cd.deserialise r.value).bind fun message =>
    ((cd.carrier r.headers).bind cd.extract).map fun ctx => (message, ctx)

/-- `await self.ack(message)`. -/
def loopAck : LoopCode T Ctx (Shared P B T Ctx) Unit := do
  let s ← .get
  match s.consumer with
  | some _ => settle .ack
  | none => pure ()

/-- `await self.nack(message)`, where `message` may be unbound. -/
def loopNack (bound : Bool) : LoopCode T Ctx (Shared P B T Ctx) Unit :=
  if bound then pure () else .raise unboundLocalError

/-- The body of the loop; its local variable says whether `message` is bound. -/
def body (bound : Bool) (msg : Record P B) : LoopCode T Ctx (Shared P B T Ctx) Bool := do
  let bound := bound || (cd.deserialise msg.value).isSome
  handle (cd.unpack msg) loopAck (loopNack bound)
  return bound

/-- The loop of `subscribe()`. -/
def loop : List (Record P B) → LoopCode T Ctx (Shared P B T Ctx) Bool :=
  consume Shared.running (body cd) false

end Kafka

namespace Nats

variable {B T Ctx : Type} (cd : Codec B T Ctx)

/-- The body of the loop. -/
def body (_ : Unit) (msg : Msg B) : LoopCode T Ctx (Shared B T Ctx) Unit :=
  handle (cd.unpack msg) (settle .ack) (settle .nack)

/-- The loop of `subscribe()`. -/
def loop : List (Msg B) → LoopCode T Ctx (Shared B T Ctx) Unit :=
  consume Shared.running (body cd) ()

end Nats

namespace Rabbitmq

variable {B W T Ctx : Type} (cd : Codec B W T Ctx)

/-- `await self.ack(payload)` or `await self.nack(payload)`. -/
def loopSettle (verdict : Verdict) : LoopCode T Ctx (Shared B W T Ctx) Unit := do
  let s ← .get
  match s.current with
  | some _ => Queue.settle verdict
  | none => pure ()

/-- The body of the loop in session `i`; its local variable counts the messages. -/
def body (i count : ℕ) (message : Message B W) : LoopCode T Ctx (Shared B W T Ctx) ℕ := do
  .modify fun s => { s with current := some ⟨i, count⟩ }
  handle (cd.unpack message) (loopSettle .ack) (loopSettle .nack)
  return count + 1

/-- The loop of `subscribe()`. -/
def loop (i : ℕ) : List (Message B W) → LoopCode T Ctx (Shared B W T Ctx) ℕ :=
  consume Shared.running (body cd i) 0

end Rabbitmq

/-! ### The context variable -/

/-- The context of the task that runs a loop. -/
structure Ambient (T Ctx : Type) where
  /-- The variable of the ambient context. -/
  var : ContextVar Ctx
  /-- The handler calls in order, each with the ambient context that it has begun in. -/
  handled : List (T × Ctx)

/-- The world of a loop. `detach` logs what `reset` raises. The flag is only seen to be down where
some call has `stopped` the loop. -/
def ambient (T Ctx : Type) {σ : Type} (running : σ → Bool) (stopped : Prop) :
    World (loopCalls T Ctx) PyExc σ (Ambient T Ctx) where
  answers g q := match q with
    | .attach ctx => fun r g' =>
      r = .ok (g.var.set ctx).1 ∧ g' = { g with var := (g.var.set ctx).2 }
    | .detach token => fun r g' =>
      r = .ok () ∧ g' = { g with var := (g.var.reset token).getD g.var }
    | .handler message => fun _ g' =>
      g.var.Among g'.var ∧ g'.handled = g.handled ++ [(message, g.var.value)]
    | .settle _ => fun _ g' => g' = g
  reads _ s := running s = false → stopped
  writes _ g := g

section Loops

variable {T Ctx σ M L : Type} {running : σ → Bool} {stopped : Prop} {g : Ambient T Ctx}

/-- From `g` on, the handler calls `hs` have been made, and the context is the same. -/
structure After (g : Ambient T Ctx) (hs : List (T × Ctx)) (g' : Ambient T Ctx) : Prop where
  /-- The ambient context is what it was. -/
  value : g'.var.value = g.var.value
  /-- No token from before has been used. -/
  among : g.var.Among g'.var
  /-- The handler calls. -/
  handled : g'.handled = g.handled ++ hs

theorem After.refl (g : Ambient T Ctx) : After g [] g :=
  ⟨rfl, .refl _, (List.append_nil _).symm⟩

theorem After.trans {g₁ g₂ : Ambient T Ctx} {hs hs' : List (T × Ctx)} (h : After g hs g₁)
    (h' : After g₁ hs' g₂) : After g (hs ++ hs') g₂ :=
  ⟨h'.value.trans h.value, h.among.trans h'.among, by
    rw [h'.handled, h.handled, List.append_assoc]⟩

/-- Code that does not touch the context. -/
def Silent (running : σ → Bool) (stopped : Prop) (p : LoopCode T Ctx σ Unit) : Prop :=
  ∀ g : Ambient T Ctx, p.wpIn (ambient T Ctx running stopped) (fun _ g' => g' = g)
    (fun _ g' => g' = g) g

theorem silent_pure : Silent running stopped (pure () : LoopCode T Ctx σ Unit) := fun _ => rfl

theorem wpIn_exceptException {α : Type} {p h : LoopCode T Ctx σ α} {Q : α → Ambient T Ctx → Prop}
    {E : PyExc → Ambient T Ctx → Prop} :
    (exceptException p h).wpIn (ambient T Ctx running stopped) Q E g ↔
      p.wpIn (ambient T Ctx running stopped) Q (fun exc g' =>
        if exc.isa .exception then h.wpIn (ambient T Ctx running stopped) Q E g' else E exc g') g := by
  refine Coro.wpIn_tryCatch.trans ⟨Coro.wpIn_mono (fun _ _ h => h) ?_,
    Coro.wpIn_mono (fun _ _ h => h) ?_⟩
  · intro exc g' hexc
    split_ifs with hisa
    · rwa [if_pos hisa] at hexc
    · rwa [if_neg hisa] at hexc
  · intro exc g' hexc
    split_ifs at hexc ⊢
    · exact hexc
    · exact hexc

/-- Settling a message does not touch the context. -/
theorem silent_settle (verdict : Verdict) : 
    Silent running stopped (settle verdict : LoopCode T Ctx σ Unit) := by
  intro g
  refine wpIn_exceptException.mpr (Coro.wpIn_call.mpr ⟨fun _ g' hg => hg, fun exc g' hg => ?_⟩)
  split_ifs
  · exact hg
  · exact hg

/-- **One message**: its handler runs in the context of the message, if it is unpacked at all, and
however it ends the ambient context is what it was before. -/
theorem wpIn_handle (unpacked : Option (T × Ctx)) {ack nack : LoopCode T Ctx σ Unit}
    (hack : Silent running stopped ack) (hnack : Silent running stopped nack) (g : Ambient T Ctx) :
    (handle unpacked ack nack).wpIn (ambient T Ctx running stopped) (fun _ => After g unpacked.toList)
      (fun _ => After g unpacked.toList) g := by
  have hsilent : ∀ {p : LoopCode T Ctx σ Unit} {g'}, Silent running stopped p →
      After g unpacked.toList g' →
      p.wpIn (ambient T Ctx running stopped) (fun _ => After g unpacked.toList)
        (fun _ => After g unpacked.toList) g' := by
    intro p g' hp hg
    refine Coro.wpIn_mono ?_ ?_ (hp g')
    · rintro _ _ rfl
      exact hg
    · rintro _ _ rfl
      exact hg
  have hcaught : ∀ (exc : PyExc) g', After g unpacked.toList g' →
      if exc.isa .exception then nack.wpIn (ambient T Ctx running stopped) (fun _ => After g unpacked.toList)
        (fun _ => After g unpacked.toList) g' else After g unpacked.toList g' := by
    intro exc g' hg
    split_ifs
    · exact hsilent hnack hg
    · exact hg
  refine wpIn_exceptException.mpr ?_
  cases unpacked with
  | none => exact hcaught unpackError g (.refl g)
  | some pair =>
    obtain ⟨message, ctx⟩ := pair
    refine Coro.wpIn_bind.mpr (Coro.wpIn_call.mpr ⟨?_, fun exc g' h => nomatch h.1⟩)
    rintro token g₁ ⟨htoken, rfl⟩
    obtain rfl := Except.ok.inj htoken
    -- what the `finally` block makes of the state that the handler leaves
    have hdetach : ∀ g₂ : Ambient T Ctx, (g.var.set ctx).2.Among g₂.var →
        g₂.handled = g.handled ++ [(message, ctx)] → ∀ g₃,
        g₃ = { g₂ with var := (g₂.var.reset (g.var.set ctx).1).getD g₂.var } →
        After g [(message, ctx)] g₃ := by
      rintro g₂ hamong hhandled _ rfl
      obtain ⟨var, hreset, hvalue, hkept⟩ := ContextVar.reset_of_set hamong
      rw [hreset]
      exact ⟨hvalue, hkept, hhandled⟩
    refine Coro.wpIn_bind.mpr (Coro.wpIn_tryFinally.mpr (Coro.wpIn_call.mpr ⟨?_, ?_⟩))
    · rintro ⟨⟩ g₂ ⟨hamong, hhandled⟩
      refine Coro.wpIn_call.mpr ⟨fun _ g₃ h => ?_, fun exc g₃ h => nomatch h.1⟩
      have hafter := hdetach g₂ hamong hhandled g₃ h.2
      refine Coro.wpIn_mono (fun _ _ h => h) hcaught (hsilent hack hafter)
    · rintro exc g₂ ⟨hamong, hhandled⟩
      refine Coro.wpIn_call.mpr ⟨fun _ g₃ h => ?_, fun exc' g₃ h => nomatch h.1⟩
      exact hcaught exc g₃ (hdetach g₂ hamong hhandled g₃ h.2)

/-- From `g` on, the first `n` messages have been taken, and their handlers have run. -/
def AfterTaking (g : Ambient T Ctx) (unpack : M → Option (T × Ctx)) (msgs : List M) (n : ℕ)
    (g' : Ambient T Ctx) : Prop :=
  n ≤ msgs.length ∧ After g ((msgs.take n).filterMap unpack) g'

theorem AfterTaking.cons {unpack : M → Option (T × Ctx)} {msg : M} {rest : List M} {n : ℕ}
    {g₁ g₂ : Ambient T Ctx} (h : After g (unpack msg).toList g₁)
    (h' : AfterTaking g₁ unpack rest n g₂) : AfterTaking g unpack (msg :: rest) (n + 1) g₂ := by
  have hboth := h.trans h'.2
  refine ⟨Nat.succ_le_succ h'.1, ?_⟩
  cases hunpack : unpack msg <;> simpa [hunpack] using hboth

/-- **A run of the loop**: the handlers of the messages that could be unpacked have run in their
contexts, up to the one that has raised, or at which the loop was stopped. -/
theorem wpIn_consume {body : L → M → LoopCode T Ctx σ L} {unpack : M → Option (T × Ctx)}
    (hbody : ∀ v msg g, (body v msg).wpIn (ambient T Ctx running stopped)
      (fun _ => After g (unpack msg).toList) (fun _ => After g (unpack msg).toList) g)
    (msgs : List M) (v : L) (g : Ambient T Ctx) :
    (consume running body v msgs).wpIn (ambient T Ctx running stopped)
      (fun _ g' => ∃ n, AfterTaking g unpack msgs n g' ∧ (n = msgs.length ∨ stopped))
      (fun _ g' => ∃ n, AfterTaking g unpack msgs n g' ∧ 0 < n) g := by
  have hnone : ∀ (msgs : List M) (g : Ambient T Ctx), AfterTaking g unpack msgs 0 g :=
    fun _ g => ⟨Nat.zero_le _, .refl g⟩
  induction msgs generalizing v g with
  | nil => exact ⟨0, hnone [] g, .inl rfl⟩
  | cons msg rest ih =>
    refine Coro.wpIn_bind.mpr (Coro.wpIn_get.mpr fun s hs => ?_)
    split_ifs with hrunning
    · refine Coro.wpIn_bind.mpr (Coro.wpIn_mono (fun v' g₁ h₁ => ?_) (fun _ g₁ h₁ => ?_)
        (hbody v msg g))
      · refine Coro.wpIn_mono ?_ ?_ (ih v' g₁)
        · rintro _ g' ⟨n, hn, hall⟩
          exact ⟨n + 1, hn.cons h₁, hall.imp_left (congrArg (· + 1))⟩
        · rintro _ g' ⟨n, hn, -⟩
          exact ⟨n + 1, hn.cons h₁, Nat.succ_pos n⟩
      · exact ⟨1, (hnone rest g₁).cons h₁, Nat.one_pos⟩
    · exact ⟨0, hnone _ g, .inr (hs (Bool.eq_false_iff.mpr hrunning))⟩

/-- A loop whose handlers run in the contexts of their messages, and after which the ambient context
is what it was before. -/
structure KeepsContext (running : σ → Bool) (body : L → M → LoopCode T Ctx σ L)
    (loop : List M → LoopCode T Ctx σ L) (unpack : M → Option (T × Ctx)) : Prop where
  /-- One iteration, however it ends. -/
  iteration : ∀ stopped v msg g o g', (body v msg).EndsIn (ambient T Ctx running stopped) g o g' →
    g'.var.value = g.var.value ∧ g'.handled = g.handled ++ (unpack msg).toList
  /-- All of them. The loop takes all messages, unless it is stopped, or raises at one of them. -/
  loop : ∀ stopped msgs g o g', (loop msgs).EndsIn (ambient T Ctx running stopped) g o g' →
    g'.var.value = g.var.value ∧
      ∃ n ≤ msgs.length, g'.handled = g.handled ++ (msgs.take n).filterMap unpack ∧
        (n = msgs.length ∨ stopped ∨ 0 < n ∧ o.isOk = false)

/-- **The context is kept** by a loop that has a `handle` for each message. -/
theorem keepsContext_consume {body : L → M → LoopCode T Ctx σ L} {unpack : M → Option (T × Ctx)}
    (v : L) (hbody : ∀ stopped v msg g, (body v msg).wpIn (ambient T Ctx running stopped)
      (fun _ => After g (unpack msg).toList) (fun _ => After g (unpack msg).toList) g) :
    KeepsContext running body (consume running body v) unpack where
  iteration stopped v msg g o g' h := by
    have hafter := h.always (hbody stopped v msg g)
    exact ⟨hafter.value, hafter.handled⟩
  loop stopped msgs g o g' h := by
    have hends := h.of_wpIn (wpIn_consume (hbody stopped) msgs v g)
    cases o with
    | ok v' =>
      obtain ⟨n, ⟨hn, hafter⟩, hall⟩ := hends
      exact ⟨hafter.value, n, hn, hafter.handled, hall.imp_right .inl⟩
    | error exc =>
      obtain ⟨n, ⟨hn, hafter⟩, hpos⟩ := hends
      exact ⟨hafter.value, n, hn, hafter.handled, .inr (.inr ⟨hpos, rfl⟩)⟩

end Loops

/-! ### The three consumers -/

namespace Kafka

variable {P B T Ctx : Type} (cd : Codec B T Ctx)

theorem crosses {P T Ctx : Type} (deserialise : ByteArray → Option T)
    (extract : Dict String String → Option Ctx) (carrier : Dict String String) :
    Crosses (KafkaProducer.injectTraceHeaders carrier) carrier (utf8Codec deserialise extract).carrier
      Record.headers (fun r : Record P ByteArray => deserialise r.value) extract
      (utf8Codec deserialise extract).unpack :=
  crosses_of_unpack (carrier_injectTraceHeaders deserialise extract carrier) fun _ => rfl

theorem invocations_teardown (i : ℕ) (s : Shared P B T Ctx) (res : Outcome) :
    invocations (teardown i s res).1.journal = invocations s.journal := by
  unfold teardown
  cases s.consumer <;> rfl

theorem invocations_nack (i : ℕ) (s : Shared P B T Ctx) (v : Locals Ctx) :
    invocations (nack i s v).1.journal = invocations s.journal := by
  unfold nack
  cases v.message with
  | some m => rfl
  | none => exact invocations_teardown i s _

theorem invocations_takeMessage (i : ℕ) {s : Shared P B T Ctx} (v : Locals Ctx) (r : Record P B)
    (hrunning : s.running = true) : invocations (takeMessage cd i s v r).1.journal =
      (cd.unpack r).toList.map (fun x => (⟨i, v.count⟩, x)) ++ invocations s.journal := by
  have hrecord : ∀ e, (s.record e).running = true := fun _ => hrunning
  unfold takeMessage Codec.unpack
  rw [if_pos (hrecord _)]
  cases cd.deserialise r.value with
  | none => exact invocations_nack _ _ _
  | some value =>
    dsimp only [Option.bind_some]
    cases (cd.carrier r.headers).bind cd.extract with
    | none => exact invocations_nack _ _ _
    | some ctx => rfl

theorem invokes [DecidableEq P] : Invokes (fun i s v (r : Record P B) =>
      resume cd i s (.polling v) (.message r))
    Shared.running Shared.journal Locals.count cd.unpack := by
  intro i s v r s' p h hrunning
  change (if s.admits v.iterator r then some (takeMessage cd i (s.advance v.iterator r) v r)
    else none) = some (s', p) at h
  obtain ⟨-, hs⟩ := Option.ite_none_right_eq_some.mp h
  have htake := invocations_takeMessage cd i (s := s.advance v.iterator r) v r hrunning
  rw [Option.some.inj hs] at htake
  exact htake

variable {stopped : Prop}

theorem silent_loopAck :
    Silent Shared.running stopped (loopAck : LoopCode T Ctx (Shared P B T Ctx) Unit) := by
  intro g
  refine Coro.wpIn_bind.mpr (Coro.wpIn_get.mpr fun s _ => ?_)
  split
  · exact silent_settle .ack g
  · exact silent_pure g

theorem silent_loopNack (bound : Bool) :
    Silent Shared.running stopped (loopNack bound : LoopCode T Ctx (Shared P B T Ctx) Unit) := by
  intro g
  unfold loopNack
  split_ifs
  · exact silent_pure g
  · rfl

theorem keepsContext_loop :
    KeepsContext (Shared.running (P := P) (B := B)) (body cd) (loop cd) cd.unpack := by
  refine keepsContext_consume _ fun stopped bound msg g => ?_
  exact Coro.wpIn_bind.mpr (wpIn_handle _ silent_loopAck (silent_loopNack _) g)

end Kafka

namespace Nats

variable {B T Ctx : Type} (cd : Codec B T Ctx)

theorem crosses (injected : Dict String String) :
    Crosses (NatsProducer.injectTraceHeaders injected).items injected carrier Msg.headers
      (fun msg => cd.deserialise msg.data) cd.extract cd.unpack :=
  crosses_of_unpack (carrier_injectTraceHeaders injected) cd.unpack_eq

theorem invokes : Invokes (fun i s v msg => resume cd i s (.polling v) (.message msg))
    Shared.running Shared.journal Locals.count cd.unpack := by
  intro i s v msg s' p h hrunning
  have hrecord : ∀ e, (s.record e).running = true := fun _ => hrunning
  obtain rfl : (takeMessage cd i s v msg).1 = s' := congrArg Prod.fst (Option.some.inj h)
  unfold takeMessage
  rw [if_pos (hrecord _)]
  cases cd.unpack msg <;> rfl

theorem keepsContext_loop : KeepsContext Shared.running (body cd) (loop cd) cd.unpack :=
  keepsContext_consume _ fun _ _ _ g => wpIn_handle _ (silent_settle _) (silent_settle _) g

end Nats

namespace Rabbitmq

variable {B W T Ctx : Type} (cd : Codec B W T Ctx)

theorem crosses (str : String → W) (injected : Dict String String) :
    Crosses (onWire str (RabbitmqProducer.injectTraceHeaders injected))
      (injected.map fun v => .inr (str v)) cd.carrier Message.headers
      (fun message => cd.deserialise message.body) cd.extract cd.unpack :=
  crosses_of_unpack (carrier_injectTraceHeaders cd str injected) cd.unpack_eq

theorem invokes : Invokes (fun i s v message => resume cd i s (.polling v) (.message message))
    Shared.running Shared.journal Locals.count cd.unpack := by
  intro i s v message s' p h hrunning
  have hrecord : ∀ e, (s.record e).running = true := fun _ => hrunning
  obtain rfl : (takeMessage cd i s v message).1 = s' := congrArg Prod.fst (Option.some.inj h)
  unfold takeMessage
  rw [if_pos (hrecord _)]
  cases cd.unpack message <;> rfl

variable {stopped : Prop}

theorem silent_loopSettle (verdict : Verdict) :
    Silent Shared.running stopped (loopSettle verdict : LoopCode T Ctx (Shared B W T Ctx) Unit) := by
  intro g
  refine Coro.wpIn_bind.mpr (Coro.wpIn_get.mpr fun s _ => ?_)
  split
  · exact silent_settle verdict g
  · exact silent_pure g

theorem keepsContext_loop (i : ℕ) :
    KeepsContext Shared.running (body cd i) (loop cd i) cd.unpack := by
  refine keepsContext_consume _ fun stopped count message g => ?_
  exact Coro.wpIn_bind.mpr (Coro.wpIn_modify _ |>.mpr (Coro.wpIn_bind.mpr
    (wpIn_handle _ (silent_loopSettle _) (silent_loopSettle _) g)))

end Rabbitmq

end OpenframeAdapters.Queue
