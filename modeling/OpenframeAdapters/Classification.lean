import OpenframeAdapters.Db.Falkordb.Repository
import OpenframeAdapters.Db.Redis.Repository
import OpenframeAdapters.Queue.Nats.Consumer
import OpenframeAdapters.Queue.Nats.Producer

/-!
# One failure, one class

Two places classify what the Redis client raises, `_wrap_redis` and `_wrap_falkordb`, and what the
NATS client raises is classified by `wrap_nats` and by the clauses around the start of a producer
and of a subscription. An exception is known by the named classes that it is an instance of, so
subclasses of any of these are among the exceptions here.

## What is proved

* `kind_eq_iff` — the two places agree on all but lost connections that show as a `TimeoutError` of
  Redis.
* `reportsLost_iff` — of the exceptions of NATS that stand for a lost connection, all call sites
  report only a `NoServersError` as one.
* `oneClass_iff` — both together.
-/

namespace OpenframeAdapters

open Python OpenframeAdapters.Core Db Queue

/-! ### Redis -/

section Redis

variable {exc : PyExc}

/-- An `AuthenticationError` of Redis is a `ConnectionError` of Redis. -/
theorem isa_redisConnectionError (h : exc.isa .redisAuthenticationError = true) :
    exc.isa .redisConnectionError = true :=
  exc.up List.mem_cons_self h

/-- **Redis and FalkorDB**: the classes differ exactly where a `TimeoutError` of Redis is nothing
else that both of them know. -/
theorem kind_eq_iff (operation : String) :
    (Falkordb.wrapFalkordb exc operation).kind = (Redis.wrapRedis exc operation).kind ↔
      (exc.isa .redisTimeoutError = true →
        exc.isAny [.timeoutError, .redisConnectionError] = true) := by
  have hauth := @isa_redisConnectionError exc
  unfold Falkordb.wrapFalkordb Redis.wrapRedis
  by_cases htimeout : exc.isa .timeoutError = true
  · simp [htimeout]
  · by_cases hconnection : exc.isa .redisConnectionError = true
    · simp [htimeout, hconnection]
    · have hnot : exc.isa .redisAuthenticationError = false :=
        Bool.eq_false_iff.mpr fun h => hconnection (hauth h)
      by_cases hredis : exc.isa .redisTimeoutError = true
      · simp [htimeout, hconnection, hnot, hredis]
      · simp [htimeout, hconnection, hnot, hredis]

end Redis

/-! ### NATS -/

section Nats

variable {exc : PyExc}

/-- `wrap_nats` takes the exception for a lost connection. -/
theorem wrapNats_kind_iff (operation : String) :
    (NatsProducer.wrapNats exc operation).kind = .connection ↔
      exc.isAny NatsProducer.connectionErrors = true := by
  unfold NatsProducer.wrapNats
  split_ifs with h
  · simp [h]
  · simp [h]

/-- What a call raises is an `AdapterConnectionError`. -/
def Lost (x : Raised) : Prop := ∃ err, x = .adapter err ∧ err.kind = .connection

/-- At every call site, a call that awaits and gets the exception reports a lost connection. -/
structure ReportsLost (exc : PyExc) : Prop where
  /-- `start()`, at `connect()`, at `jetstream()` and at `add_stream()`. -/
  start : ∀ {M V H Ctx : Type} (cd : Serialiser M V H Ctx) (i : ℕ) (s : NatsProducer.Shared V H)
    (p : NatsProducer.Task M V H Ctx) (ev : NatsProducer.Ev M Ctx),
    (p, ev) ∈ [(.connecting, .raise exc), (.connecting, .connected (some exc)),
      (.ensuring, .raise exc)] →
    ∃ s' x, NatsProducer.resume cd i s p ev = some (s', .ended (some x)) ∧ Lost x
  /-- `publish()` and `publish_batch()`, at `publish()` of the JetStream context. -/
  publish : ∀ {M V H Ctx : Type} (cd : Serialiser M V H Ctx) (i : ℕ) (s : NatsProducer.Shared V H)
    (sending : Sending M V H Ctx),
    ∃ s' x, NatsProducer.resume cd i s (.sending sending) (.raise exc) =
      some (s', .ended (some x)) ∧ Lost x
  /-- The start-up of `subscribe()`, at `connect()`, at `jetstream()`, at `add_stream()` and at
  `subscribe()` of the JetStream context. -/
  subscribe : ∀ {B T Ctx : Type} (cd : Nats.Codec B T Ctx) (i : ℕ) (s : Nats.Shared B T Ctx)
    (own js : ℕ) (ctx : Ctx) (p : Nats.Task Ctx) (ev : Nats.Ev B Ctx),
    (p, ev) ∈ [(.connecting ctx, .raise exc), (.connecting ctx, .connected (some exc)),
      (.ensuring own ctx, .raise exc), (.subscribing own js ctx, .raise exc)] →
    ∃ s' x stale, Nats.resume cd i s p ev = some (s', .ended (.raised x stale)) ∧ Lost x

/-- `publish()` and `publish_batch()` go by `wrap_nats`. -/
theorem notSent_eq {M V H Ctx : Type} (htimeout : exc.isa .timeoutError = false)
    (hnats : exc.isa .natsError = true) (sending : Sending M V H Ctx) :
    ∃ operation, NatsProducer.publisher.notSent exc sending =
      .adapter (NatsProducer.wrapNats exc operation) := by
  have htranslate : ∀ operation, Core.translate (NatsProducer.publisher.errors operation) exc =
      .adapter (NatsProducer.wrapNats exc operation) := by
    intro operation
    simp [Core.translate, NatsProducer.publisher, dispatch_cons, htimeout, hnats]
  cases sending with
  | one sent => exact ⟨_, htranslate "publish"⟩
  | many sent rest ctx => exact ⟨_, htranslate "publish_batch"⟩
  | flushing => exact ⟨_, htranslate "publish_batch"⟩

/-- `start()` goes by one class of them only. -/
theorem startFailed_producer {M V H Ctx : Type} (htimeout : exc.isa .timeoutError = false)
    (hnats : exc.isa .natsError = true) (s : NatsProducer.Shared V H) :
    ∃ err, (NatsProducer.startFailed s exc : _ × NatsProducer.Task M V H Ctx) =
        ({ s with nc := none, js := none }, .ended (some (.adapter err))) ∧
      (err.kind = .connection ↔ exc.isa .natsNoServersError = true) := by
  unfold NatsProducer.startFailed NatsProducer.startErrors
  by_cases hservers : exc.isa .natsNoServersError = true
  · refine ⟨⟨.connection, "start", some exc⟩, ?_, by simp [hservers]⟩
    simp [dispatch_cons, htimeout, hservers]
  · refine ⟨⟨.configuration, "start", none⟩, ?_, by simp [hservers]⟩
    simp [dispatch_cons, htimeout, hservers, hnats]

/-- The start-up of `subscribe()` goes by the same class. -/
theorem startFailed_consumer {B T Ctx : Type} (hnats : exc.isa .natsError = true)
    (s : Nats.Shared B T Ctx) (stale : Bool) :
    ∃ err, Nats.startFailed s exc stale =
        ({ s with nc := none, js := none, sub := none }, .ended (.raised (.adapter err) stale)) ∧
      (err.kind = .connection ↔ exc.isa .natsNoServersError = true) := by
  unfold Nats.startFailed
  by_cases hservers : exc.isa .natsNoServersError = true
  · exact ⟨⟨.connection, "subscribe", some exc⟩, by rw [if_pos hservers], by simp [hservers]⟩
  · refine ⟨⟨.configuration, "subscribe", none⟩, ?_, by simp [hservers]⟩
    rw [if_neg hservers, if_pos hnats]

section NoServers

variable (htimeout : exc.isa .timeoutError = false) (hnats : exc.isa .natsError = true)
  (hservers : exc.isa .natsNoServersError = true)

include htimeout hnats hservers in
theorem lost_producer {M V H Ctx : Type} (s : NatsProducer.Shared V H) : ∃ s' x,
    (NatsProducer.startFailed s exc : _ × NatsProducer.Task M V H Ctx) =
      (s', .ended (some x)) ∧ Lost x := by
  obtain ⟨err, hfailed, hclass⟩ := startFailed_producer htimeout hnats s
  exact ⟨_, _, hfailed, err, rfl, hclass.mpr hservers⟩

include hnats hservers in
theorem lost_consumer {B T Ctx : Type} (s : Nats.Shared B T Ctx) (stale : Bool) : ∃ s' x,
    Nats.startFailed s exc stale = (s', .ended (.raised x stale)) ∧ Lost x := by
  obtain ⟨err, hfailed, hclass⟩ := startFailed_consumer hnats s stale
  exact ⟨_, _, hfailed, err, rfl, hclass.mpr hservers⟩

include htimeout hnats hservers in
/-- A `NoServersError` is reported wherever it is not ignored. -/
theorem reportsLost_of_noServers (hbad : exc.isa .natsBadRequestError = false) :
    ReportsLost exc := by
  constructor
  · intro M V H Ctx cd i s p ev hsite
    simp only [List.mem_cons, Prod.mk.injEq, List.not_mem_nil, or_false] at hsite
    obtain ⟨rfl, rfl⟩ | ⟨rfl, rfl⟩ | ⟨rfl, rfl⟩ := hsite
    · obtain ⟨s', x, hfailed, hx⟩ := lost_producer htimeout hnats hservers s
      exact ⟨s', x, congrArg some hfailed, hx⟩
    · obtain ⟨s', x, hfailed, hx⟩ := lost_producer htimeout hnats hservers s.connect
      exact ⟨s', x, congrArg some hfailed, hx⟩
    · obtain ⟨s', x, hfailed, hx⟩ := lost_producer htimeout hnats hservers s
      refine ⟨s', x, Eq.trans ?_ (congrArg some hfailed), hx⟩
      simp [NatsProducer.resume, hbad]
  · intro M V H Ctx cd i s sending
    obtain ⟨operation, hsent⟩ := notSent_eq htimeout hnats sending
    refine ⟨s, .adapter (NatsProducer.wrapNats exc operation), ?_, _, rfl, ?_⟩
    · simp only [NatsProducer.resume, hsent]
    · refine (wrapNats_kind_iff operation).mpr ?_
      simp [NatsProducer.connectionErrors, hservers]
  · intro B T Ctx cd i s own js ctx p ev hsite
    simp only [List.mem_cons, Prod.mk.injEq, List.not_mem_nil, or_false] at hsite
    obtain ⟨rfl, rfl⟩ | ⟨rfl, rfl⟩ | ⟨rfl, rfl⟩ | ⟨rfl, rfl⟩ := hsite
    · obtain ⟨s', x, hfailed, hx⟩ := lost_consumer hnats hservers s false
      exact ⟨s', x, false, congrArg some hfailed, hx⟩
    · obtain ⟨s', x, hfailed, hx⟩ := lost_consumer hnats hservers (s.connect i) false
      exact ⟨s', x, false, congrArg some hfailed, hx⟩
    · obtain ⟨s', x, hfailed, hx⟩ := lost_consumer hnats hservers s (s.ends own)
      refine ⟨s', x, s.ends own, ?_, hx⟩
      simp [Nats.resume, hbad, hfailed]
    · obtain ⟨s', x, hfailed, hx⟩ := lost_consumer hnats hservers s (s.ends js)
      exact ⟨s', x, s.ends js, congrArg some hfailed, hx⟩

end NoServers

/-- **NATS**: all call sites report a lost connection exactly where it is a `NoServersError`, and not
one that `_ensure_stream()` ignores. -/
theorem reportsLost_iff (htimeout : exc.isa .timeoutError = false)
    (hnats : exc.isa .natsError = true) :
    ReportsLost exc ↔
      exc.isa .natsNoServersError = true ∧ exc.isa .natsBadRequestError = false := by
  constructor
  · intro h
    let cd : Serialiser Unit Unit Unit Unit := ⟨fun _ => .ok (), fun _ => ()⟩
    let s : NatsProducer.Shared Unit Unit := ⟨none, none, 0, fun _ => false, []⟩
    obtain ⟨err, hfailed, hclass⟩ := @startFailed_producer exc Unit Unit Unit Unit htimeout hnats s
    constructor
    · obtain ⟨s', x, hstep, err', rfl, hkind⟩ := h.start cd 0 s .connecting (.raise exc) (by simp)
      have hsame := hfailed.symm.trans (Option.some.inj hstep)
      simp only [Prod.mk.injEq, NatsProducer.Task.ended.injEq, Option.some.injEq,
        Raised.adapter.injEq] at hsame
      exact hclass.mp (hsame.2 ▸ hkind)
    · obtain ⟨s', x, hstep, -⟩ := h.start cd 0 s .ensuring (.raise exc) (by simp)
      by_contra hbad
      rw [Bool.not_eq_false] at hbad
      simp [NatsProducer.resume, hbad] at hstep
  · rintro ⟨hservers, hbad⟩
    exact reportsLost_of_noServers htimeout hnats hservers hbad

end Nats

/-! ### Both -/

/-- The exception has one class: whichever of the two places classifies what the Redis client
raises, and wherever a lost connection of NATS shows. -/
structure OneClass (exc : PyExc) : Prop where
  /-- `_wrap_falkordb()` and `_wrap_redis()` agree. -/
  redis : exc.isa .redisError = true → ∀ operation,
    (Falkordb.wrapFalkordb exc operation).kind = (Redis.wrapRedis exc operation).kind
  /-- What `wrap_nats()` takes for a lost connection is reported as one. -/
  nats : exc.isa .natsError = true → exc.isa .timeoutError = false →
    (∀ operation, (NatsProducer.wrapNats exc operation).kind = .connection) → ReportsLost exc

/-- **Which failures have one class**. -/
theorem oneClass_iff (exc : PyExc) :
    OneClass exc ↔
      (exc.isa .redisError = true → exc.isa .redisTimeoutError = true →
        exc.isAny [.timeoutError, .redisConnectionError] = true) ∧
      (exc.isa .natsError = true → exc.isa .timeoutError = false →
        exc.isAny NatsProducer.connectionErrors = true →
        exc.isa .natsNoServersError = true ∧ exc.isa .natsBadRequestError = false) := by
  constructor
  · intro h
    refine ⟨fun hredis => (kind_eq_iff "").mp (h.redis hredis ""), fun hnats htimeout hlost => ?_⟩
    refine (reportsLost_iff htimeout hnats).mp (h.nats hnats htimeout fun operation => ?_)
    exact (wrapNats_kind_iff operation).mpr hlost
  · rintro ⟨hredis, hnats⟩
    refine ⟨fun h operation => (kind_eq_iff operation).mpr (hredis h), fun h htimeout hlost => ?_⟩
    exact (reportsLost_iff htimeout h).mpr
      (hnats h htimeout ((wrapNats_kind_iff "").mp (hlost "")))

/-- A `TimeoutError` of Redis. -/
def redisTimeout : PyExc := redisTimeoutError

/-- A `ConnectionClosedError` of NATS. -/
def connectionClosed : PyExc := .of [.natsConnectionClosedError, .natsError, .exception] (by decide)

/-- A timeout of Redis has two classes, and a connection that is closed during the start of a
producer or a subscription is reported as a wrong configuration. -/
theorem not_oneClass : ¬ OneClass redisTimeout ∧ ¬ OneClass connectionClosed := by
  constructor
  · intro h
    exact absurd (((oneClass_iff _).mp h).1 (by decide) (by decide)) (by decide)
  · intro h
    exact absurd (((oneClass_iff _).mp h).2 (by decide) (by decide) (by decide)).1 (by decide)

end OpenframeAdapters
