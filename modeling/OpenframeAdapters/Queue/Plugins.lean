import OpenframeAdapters.Queue.Plugin

/-!
# The three queue plugins

`KafkaPlugin`, `NatsPlugin` and `RabbitmqPlugin`, each with its producer.

## What is proved

* `queue_plugins` — at any time, a producer that is handed out holds a client that nobody has closed, and
  takes messages. After `shutdown()` none is handed out, and who has kept one cannot publish with it.
-/

namespace OpenframeAdapters.Queue

open Python OpenframeAdapters.Core

variable {M V H Ctx : Type}

/-! ### Kafka -/

namespace KafkaProducer

/-- `KafkaProducer`, as its plugin uses it. -/
def ofPlugin (cd : Serialiser M V H Ctx) :
    ProducerClass (Shared V H) (Task M V H Ctx) (Ev M Ctx) where
  resume := resume cd
  fresh := ⟨none, 0, fun _ => false, []⟩
  idle := .idle
  starts
    | .start _ => True
    | _ => False
  publishes
    | .publish .. | .publishBatch .. => True
    | _ => False
  close := .close
  outcome
    | .ended x => some x
    | _ => none

/-- It holds a client that nobody has stopped, and takes messages. -/
structure Usable (cd : Serialiser M V H Ctx) (s : Shared V H) : Prop where
  holds : ∃ c, s.producer = some c ∧ s.stopped c = false
  takes : ∀ i ctx message value, cd.serialise message = .ok value →
    resume cd i s .idle (.publish ctx message) =
      some (s, .sending (.one (value, cd.injectTraceHeaders ctx)))

/-- It takes none. -/
structure Refuses (cd : Serialiser M V H Ctx) (s : Shared V H) : Prop where
  publish : ∀ i ctx message, resume cd i s .idle (.publish ctx message) =
    some (s, .ended (some (.raw runtimeError)))
  publishBatch : ∀ i ctx messages, resume cd i s .idle (.publishBatch ctx messages) =
    some (s, .ended (some (.raw runtimeError)))

/-- The field and the clients. -/
def view (s : Shared V H) : Option ℕ × (ℕ → Bool) := (s.producer, s.stopped)

variable (cd : Serialiser M V H Ctx)

/-- What `publish()` does next leaves the field and the clients as they are. -/
theorem view_progress (s : Shared V H) (next : Progress M V H Ctx) :
    view (progress s next).1 = view s := by
  cases next <;> rfl

theorem sending_progress (s : Shared V H) (next : Progress M V H Ctx)
    (h : (ofPlugin cd).outcome (progress s next).2 = none) : ∃ q, (progress s next).2 = .sending q := by
  cases next with
  | inl q => exact ⟨q, rfl⟩
  | inr x => cases h

theorem view_acknowledge (s : Shared V H) (i : ℕ) (sent : Option (V × H)) :
    view (s.acknowledge i sent) = view s := by
  cases sent <;> rfl

/-- A start that fails is over. -/
theorem afterStart_startFailed {started : Option ℕ × (ℕ → Bool) → Prop}
    {starting : Option ℕ × (ℕ → Bool) → Task M V H Ctx → Prop} (s : Shared V H) (exc : PyExc) :
    (ofPlugin cd).AfterStart started starting (view (startFailed s exc : Shared V H × Task M V H Ctx).1)
      (startFailed s exc).2 := by
  unfold startFailed
  cases dispatch startErrors exc <;> exact trivial

/-- A close awaits the stop of the client. -/
theorem afterClose_close {s s' : Shared V H} {p' : Task M V H Ctx}
    (hs : some (close s) = some (s', p')) :
    (ofPlugin cd).AfterClose (fun x => x.1 = none) (fun _ p => p = .closing) (view s') p' := by
  unfold close at hs
  split at hs
  · obtain ⟨rfl, rfl⟩ := Prod.mk.inj (Option.some.inj hs)
    rfl
  · rename_i hnone
    obtain ⟨rfl, rfl⟩ := Prod.mk.inj (Option.some.inj hs)
    exact hnone

def reliable : (ofPlugin cd).Reliable view where
  sound _ := True
  started x := ∃ c, x.1 = some c ∧ x.2 c = false
  closed x := x.1 = none
  starting x p := ∃ own, p = .starting own ∧ x.1 = some own ∧ x.2 own = false
  closing _ p := p = .closing
  sending p := ∃ q, p = .sending q
  sound_fresh := trivial
  sound_next _ _ := trivial
  start {i e s p} he hs := by
    cases e with
    | start construct =>
      cases construct with
      | none =>
        obtain ⟨rfl, rfl⟩ := Prod.mk.inj (Option.some.inj hs)
        exact ⟨0, rfl, rfl, rfl⟩
      | some exc =>
        obtain ⟨rfl, rfl⟩ := Prod.mk.inj (Option.some.inj hs)
        exact afterStart_startFailed cd _ exc
    | _ => exact he.elim
  start_next {i e s s' p p'} hp hs := by
    obtain ⟨own, rfl, hfield, hstopped⟩ := hp
    cases e with
    | ok =>
      obtain ⟨rfl, rfl⟩ := Prod.mk.inj (Option.some.inj hs)
      exact ⟨own, hfield, hstopped⟩
    | raise exc =>
      obtain ⟨rfl, rfl⟩ := Prod.mk.inj (Option.some.inj hs)
      exact afterStart_startFailed cd s exc
    | _ => cases hs
  close _ := afterClose_close cd
  close_next {i e s s' p p'} hp hs := by
    subst hp
    cases e with
    | ok | raise =>
      obtain ⟨rfl, rfl⟩ := Prod.mk.inj (Option.some.inj hs)
      rfl
    | _ => cases hs
  publish {i e s s' p'} he hs := by
    cases e with
    | publish | publishBatch =>
      obtain ⟨rfl, rfl⟩ := Prod.mk.inj (Option.some.inj hs)
      exact ⟨view_progress s _, sending_progress cd s _⟩
    | _ => exact he.elim
  publish_next {i e s s' p p'} hp hs := by
    obtain ⟨q, rfl⟩ := hp
    cases e with
    | ok =>
      obtain ⟨rfl, rfl⟩ := Prod.mk.inj (Option.some.inj hs)
      exact ⟨(view_progress _ _).trans (view_acknowledge s i _), sending_progress cd _ _⟩
    | raise exc =>
      obtain ⟨rfl, rfl⟩ := Prod.mk.inj (Option.some.inj hs)
      exact ⟨rfl, nofun⟩
    | _ => cases hs

theorem usable_of_started {s : Shared V H} (h : (reliable cd).started (view s)) : Usable cd s := by
  obtain ⟨c, hfield, hstopped⟩ := h
  have hfield : s.producer = some c := hfield
  refine ⟨⟨c, hfield, hstopped⟩, fun i ctx message value hvalue => ?_⟩
  simp [resume, Queue.publish, hfield, hvalue, progress]

theorem refuses_of_closed {s : Shared V H} (h : (reliable cd).closed (view s)) : Refuses cd s := by
  have hfield : s.producer = none := h
  constructor
  · intro i ctx message
    simp [resume, publish_none, progress, hfield]
  · intro i ctx messages
    simp [resume, Publisher.publishBatch, progress, hfield]

end KafkaProducer

/-! ### NATS -/

namespace NatsProducer

/-- `NatsProducer`, as its plugin uses it. -/
def ofPlugin (cd : Serialiser M V H Ctx) :
    ProducerClass (Shared V H) (Task M V H Ctx) (Ev M Ctx) where
  resume := resume cd
  fresh := ⟨none, none, 0, fun _ => false, []⟩
  idle := .idle
  starts
    | .start => True
    | _ => False
  publishes
    | .publish .. | .publishBatch .. => True
    | _ => False
  close := .close
  outcome
    | .ended x => some x
    | _ => none

/-- It holds a connection that nobody has closed, with its context, and takes messages. -/
structure Usable (cd : Serialiser M V H Ctx) (s : Shared V H) : Prop where
  holds : ∃ c, s.nc = some c ∧ s.js = some c ∧ s.closed c = false
  takes : ∀ i ctx message value, cd.serialise message = .ok value →
    resume cd i s .idle (.publish ctx message) =
      some (s, .sending (.one (value, cd.injectTraceHeaders ctx)))

/-- It takes none. -/
structure Refuses (cd : Serialiser M V H Ctx) (s : Shared V H) : Prop where
  publish : ∀ i ctx message, resume cd i s .idle (.publish ctx message) =
    some (s, .ended (some (.raw runtimeError)))
  publishBatch : ∀ i ctx messages, resume cd i s .idle (.publishBatch ctx messages) =
    some (s, .ended (some (.raw runtimeError)))

/-- The fields and the connections. -/
def view (s : Shared V H) : Option ℕ × Option ℕ × (ℕ → Bool) := (s.nc, s.js, s.closed)

variable (cd : Serialiser M V H Ctx)

/-- What `publish()` does next leaves the fields and the connections as they are. -/
theorem view_progress (s : Shared V H) (next : Progress M V H Ctx) :
    view (progress s next).1 = view s := by
  cases next <;> rfl

theorem sending_progress (s : Shared V H) (next : Progress M V H Ctx)
    (h : (ofPlugin cd).outcome (progress s next).2 = none) : ∃ q, (progress s next).2 = .sending q := by
  cases next with
  | inl q => exact ⟨q, rfl⟩
  | inr x => cases h

theorem view_acknowledge (s : Shared V H) (i : ℕ) (sent : Option (V × H)) :
    view (s.acknowledge i sent) = view s := by
  cases sent <;> rfl

/-- A start that fails is over. -/
theorem afterStart_startFailed {started : Option ℕ × Option ℕ × (ℕ → Bool) → Prop}
    {starting : Option ℕ × Option ℕ × (ℕ → Bool) → Task M V H Ctx → Prop} (s : Shared V H)
    (exc : PyExc) : (ofPlugin cd).AfterStart started starting
      (view (startFailed s exc : Shared V H × Task M V H Ctx).1) (startFailed s exc).2 := by
  unfold startFailed
  cases dispatch startErrors exc <;> exact trivial

/-- It has been started. -/
def Started (x : Option ℕ × Option ℕ × (ℕ → Bool)) : Prop :=
  ∃ c, x.1 = some c ∧ x.2.1 = some c ∧ x.2.2 c = false

/-- Without a connection there is no context. -/
def Sound (x : Option ℕ × Option ℕ × (ℕ → Bool)) : Prop := x.1 = none → x.2.1 = none

theorem sound_startFailed {s : Shared V H} (h : Sound (view s)) (exc : PyExc) :
    Sound (view (startFailed s exc : Shared V H × Task M V H Ctx).1) := by
  unfold startFailed
  cases dispatch startErrors exc with
  | none => exact h
  | some err => exact fun _ => rfl

theorem sound_progress {s : Shared V H} (h : Sound (view s)) (next : Progress M V H Ctx) :
    Sound (view (progress s next).1) := by
  rw [view_progress]
  exact h

theorem sound_close {s s' : Shared V H} {p' : Task M V H Ctx} (h : Sound (view s))
    (hs : some (close s) = some (s', p')) : Sound (view s') := by
  unfold close at hs
  split at hs
  · obtain ⟨rfl, -⟩ := Prod.mk.inj (Option.some.inj hs)
    exact h
  · obtain ⟨rfl, -⟩ := Prod.mk.inj (Option.some.inj hs)
    exact h

theorem sound_resume {i : ℕ} {e : Ev M Ctx} {s s' : Shared V H} {p p' : Task M V H Ctx}
    (h : Sound (view s)) (hs : resume cd i s p e = some (s', p')) : Sound (view s') := by
  cases p with
  | idle =>
    cases e with
    | start =>
      obtain ⟨rfl, -⟩ := Prod.mk.inj (Option.some.inj hs)
      exact h
    | publish | publishBatch =>
      obtain ⟨rfl, -⟩ := Prod.mk.inj (Option.some.inj hs)
      exact sound_progress h _
    | close => exact sound_close h hs
    | _ => cases hs
  | connecting =>
    cases e with
    | connected jetstream =>
      cases jetstream with
      | none =>
        obtain ⟨rfl, -⟩ := Prod.mk.inj (Option.some.inj hs)
        exact nofun
      | some exc =>
        obtain ⟨rfl, -⟩ := Prod.mk.inj (Option.some.inj hs)
        exact sound_startFailed (s := s.connect) nofun exc
    | raise exc =>
      obtain ⟨rfl, -⟩ := Prod.mk.inj (Option.some.inj hs)
      exact sound_startFailed h exc
    | _ => cases hs
  | ensuring =>
    cases e with
    | ok =>
      obtain ⟨rfl, -⟩ := Prod.mk.inj (Option.some.inj hs)
      exact h
    | raise exc =>
      have hs : (if exc.isa .natsBadRequestError then some (s, .ended none)
        else some (startFailed s exc)) = some (s', p') := hs
      split_ifs at hs
      · obtain ⟨rfl, -⟩ := Prod.mk.inj (Option.some.inj hs)
        exact h
      · obtain ⟨rfl, -⟩ := Prod.mk.inj (Option.some.inj hs)
        exact sound_startFailed h exc
    | _ => cases hs
  | sending q =>
    cases e with
    | ok =>
      obtain ⟨rfl, -⟩ := Prod.mk.inj (Option.some.inj hs)
      refine sound_progress ?_ _
      rw [view_acknowledge]
      exact h
    | raise exc =>
      obtain ⟨rfl, -⟩ := Prod.mk.inj (Option.some.inj hs)
      exact h
    | _ => cases hs
  | closing =>
    cases e with
    | ok | raise =>
      obtain ⟨rfl, -⟩ := Prod.mk.inj (Option.some.inj hs)
      exact fun _ => rfl
    | _ => cases hs
  | ended x => cases hs

/-- A close awaits the connection's. -/
theorem afterClose_close {s s' : Shared V H} {p' : Task M V H Ctx} (h : Sound (view s))
    (hs : some (close s) = some (s', p')) :
    (ofPlugin cd).AfterClose (fun x => x.2.1 = none) (fun _ p => p = .closing) (view s') p' := by
  unfold close at hs
  split at hs
  · obtain ⟨rfl, rfl⟩ := Prod.mk.inj (Option.some.inj hs)
    rfl
  · rename_i hnone
    obtain ⟨rfl, rfl⟩ := Prod.mk.inj (Option.some.inj hs)
    exact h hnone

def reliable : (ofPlugin cd).Reliable view where
  sound := Sound
  started := Started
  closed x := x.2.1 = none
  starting x p := p = .connecting ∨ p = .ensuring ∧ Started x
  closing _ p := p = .closing
  sending p := ∃ q, p = .sending q
  sound_fresh := fun _ => rfl
  sound_next := sound_resume cd
  start {i e s p} he hs := by
    cases e with
    | start =>
      obtain ⟨rfl, rfl⟩ := Prod.mk.inj (Option.some.inj hs)
      exact .inl rfl
    | _ => exact he.elim
  start_next {i e s s' p p'} hp hs := by
    rcases hp with rfl | ⟨rfl, hstarted⟩
    · cases e with
      | connected jetstream =>
        cases jetstream with
        | none =>
          obtain ⟨rfl, rfl⟩ := Prod.mk.inj (Option.some.inj hs)
          exact .inr ⟨rfl, s.made, rfl, rfl, Function.update_self ..⟩
        | some exc =>
          obtain ⟨rfl, rfl⟩ := Prod.mk.inj (Option.some.inj hs)
          exact afterStart_startFailed cd s.connect exc
      | raise exc =>
        obtain ⟨rfl, rfl⟩ := Prod.mk.inj (Option.some.inj hs)
        exact afterStart_startFailed cd s exc
      | _ => cases hs
    · cases e with
      | ok =>
        obtain ⟨rfl, rfl⟩ := Prod.mk.inj (Option.some.inj hs)
        exact hstarted
      | raise exc =>
        have hs : (if exc.isa .natsBadRequestError then some (s, .ended none)
          else some (startFailed s exc)) = some (s', p') := hs
        split_ifs at hs
        · obtain ⟨rfl, rfl⟩ := Prod.mk.inj (Option.some.inj hs)
          exact hstarted
        · obtain ⟨rfl, rfl⟩ := Prod.mk.inj (Option.some.inj hs)
          exact afterStart_startFailed cd s exc
      | _ => cases hs
  close := afterClose_close cd
  close_next {i e s s' p p'} hp hs := by
    subst hp
    cases e with
    | ok | raise =>
      obtain ⟨rfl, rfl⟩ := Prod.mk.inj (Option.some.inj hs)
      rfl
    | _ => cases hs
  publish {i e s s' p'} he hs := by
    cases e with
    | publish | publishBatch =>
      obtain ⟨rfl, rfl⟩ := Prod.mk.inj (Option.some.inj hs)
      exact ⟨view_progress s _, sending_progress cd s _⟩
    | _ => exact he.elim
  publish_next {i e s s' p p'} hp hs := by
    obtain ⟨q, rfl⟩ := hp
    cases e with
    | ok =>
      obtain ⟨rfl, rfl⟩ := Prod.mk.inj (Option.some.inj hs)
      exact ⟨(view_progress _ _).trans (view_acknowledge s i _), sending_progress cd _ _⟩
    | raise exc =>
      obtain ⟨rfl, rfl⟩ := Prod.mk.inj (Option.some.inj hs)
      exact ⟨rfl, nofun⟩
    | _ => cases hs

theorem usable_of_started {s : Shared V H} (h : (reliable cd).started (view s)) : Usable cd s := by
  obtain ⟨c, hnc, hjs, hclosed⟩ := h
  have hjs : s.js = some c := hjs
  refine ⟨⟨c, hnc, hjs, hclosed⟩, fun i ctx message value hvalue => ?_⟩
  simp [resume, Queue.publish, hjs, hvalue, progress]

theorem refuses_of_closed {s : Shared V H} (h : (reliable cd).closed (view s)) : Refuses cd s := by
  have hjs : s.js = none := h
  constructor
  · intro i ctx message
    simp [resume, publish_none, progress, hjs]
  · intro i ctx messages
    simp [resume, Publisher.publishBatch, progress, hjs]

end NatsProducer

/-! ### RabbitMQ -/

namespace RabbitmqProducer

/-- `RabbitmqProducer`, as its plugin uses it. -/
def ofPlugin (cd : Serialiser M V H Ctx) :
    ProducerClass (Shared V H) (Task M V H Ctx) (Ev M Ctx) where
  resume := resume cd
  fresh := ⟨none, none, 0, fun _ => false, []⟩
  idle := .idle
  starts
    | .start => True
    | _ => False
  publishes
    | .publish .. | .publishBatch .. => True
    | _ => False
  close := .close
  outcome
    | .ended x => some x
    | _ => none

/-- It holds a connection that nobody has closed, with its channel, and takes messages. -/
structure Usable (cd : Serialiser M V H Ctx) (s : Shared V H) : Prop where
  holds : ∃ c, s.connection = some c ∧ s.channel = some c ∧ s.closed c = false
  takes : ∀ i ctx message value, cd.serialise message = .ok value →
    resume cd i s .idle (.publish ctx message) =
      some (s, .sending (.one (value, cd.injectTraceHeaders ctx)))

/-- It takes none. -/
structure Refuses (cd : Serialiser M V H Ctx) (s : Shared V H) : Prop where
  publish : ∀ i ctx message, resume cd i s .idle (.publish ctx message) =
    some (s, .ended (some (.raw runtimeError)))
  publishBatch : ∀ i ctx messages, resume cd i s .idle (.publishBatch ctx messages) =
    some (s, .ended (some (.raw runtimeError)))

/-- The fields and the connections. -/
def view (s : Shared V H) : Option ℕ × Option ℕ × (ℕ → Bool) := (s.connection, s.channel, s.closed)

variable (cd : Serialiser M V H Ctx)

/-- What `publish()` does next leaves the fields and the connections as they are. -/
theorem view_progress (s : Shared V H) (next : Progress M V H Ctx) :
    view (progress s next).1 = view s := by
  cases next <;> rfl

theorem sending_progress (s : Shared V H) (next : Progress M V H Ctx)
    (h : (ofPlugin cd).outcome (progress s next).2 = none) : ∃ q, (progress s next).2 = .sending q := by
  cases next with
  | inl q => exact ⟨q, rfl⟩
  | inr x => cases h

theorem view_acknowledge (s : Shared V H) (i : ℕ) (sent : Option (V × H)) :
    view (s.acknowledge i sent) = view s := by
  cases sent <;> rfl

/-- A start that fails is over. -/
theorem afterStart_startFailed {started : Option ℕ × Option ℕ × (ℕ → Bool) → Prop}
    {starting : Option ℕ × Option ℕ × (ℕ → Bool) → Task M V H Ctx → Prop} (s : Shared V H)
    (exc : PyExc) : (ofPlugin cd).AfterStart started starting
      (view (startFailed s exc : Shared V H × Task M V H Ctx).1) (startFailed s exc).2 := by
  unfold startFailed
  cases dispatch startErrors exc <;> exact trivial

/-- `close()` is suspended. The channel is given up first. -/
def Closing (x : Option ℕ × Option ℕ × (ℕ → Bool)) (p : Task M V H Ctx) : Prop :=
  p = .closingChannel ∨ p = .closingConnection ∧ x.2.1 = none

theorem afterClose_closeConnection {s : Shared V H} (h : s.channel = none) :
    (ofPlugin cd).AfterClose (fun x => x.2.1 = none) Closing
      (view (closeConnection s : Shared V H × Task M V H Ctx).1) (closeConnection s).2 := by
  unfold closeConnection
  cases s.connection with
  | none => exact h
  | some c => exact .inr ⟨rfl, h⟩

/-- A close awaits the channel's first. -/
theorem afterClose_close {s s' : Shared V H} {p' : Task M V H Ctx}
    (hs : some (close s) = some (s', p')) :
    (ofPlugin cd).AfterClose (fun x => x.2.1 = none) Closing (view s') p' := by
  unfold close at hs
  split at hs
  · obtain ⟨rfl, rfl⟩ := Prod.mk.inj (Option.some.inj hs)
    exact .inl rfl
  · rename_i hnone
    obtain ⟨rfl, rfl⟩ := Prod.mk.inj (Option.some.inj hs)
    exact afterClose_closeConnection cd hnone

def reliable : (ofPlugin cd).Reliable view where
  sound _ := True
  started x := ∃ c, x.1 = some c ∧ x.2.1 = some c ∧ x.2.2 c = false
  closed x := x.2.1 = none
  starting x p := p = .connecting ∨ ∃ own, p = .opening own ∧ x.1 = some own ∧ x.2.2 own = false
  closing := Closing
  sending p := ∃ q, p = .sending q
  sound_fresh := trivial
  sound_next _ _ := trivial
  start {i e s p} he hs := by
    cases e with
    | start =>
      obtain ⟨rfl, rfl⟩ := Prod.mk.inj (Option.some.inj hs)
      exact .inl rfl
    | _ => exact he.elim
  start_next {i e s s' p p'} hp hs := by
    rcases hp with rfl | ⟨own, rfl, hconnection, hclosed⟩
    · cases e with
      | ok =>
        obtain ⟨rfl, rfl⟩ := Prod.mk.inj (Option.some.inj hs)
        exact .inr ⟨s.made, rfl, rfl, Function.update_self ..⟩
      | raise exc =>
        obtain ⟨rfl, rfl⟩ := Prod.mk.inj (Option.some.inj hs)
        exact afterStart_startFailed cd s exc
      | _ => cases hs
    · cases e with
      | ok =>
        obtain ⟨rfl, rfl⟩ := Prod.mk.inj (Option.some.inj hs)
        exact ⟨own, hconnection, rfl, hclosed⟩
      | raise exc =>
        obtain ⟨rfl, rfl⟩ := Prod.mk.inj (Option.some.inj hs)
        exact afterStart_startFailed cd s exc
      | _ => cases hs
  close _ := afterClose_close cd
  close_next {i e s s' p p'} hp hs := by
    rcases hp with rfl | ⟨rfl, hchannel⟩
    · cases e with
      | ok =>
        obtain ⟨rfl, rfl⟩ := Prod.mk.inj (Option.some.inj hs)
        exact afterClose_closeConnection cd rfl
      | raise exc =>
        have hs : (if exc.isa .exception then some (closeConnection { s with channel := none })
          else some ({ s with channel := none }, .ended (some (.raw exc)))) = some (s', p') := hs
        split_ifs at hs
        · obtain ⟨rfl, rfl⟩ := Prod.mk.inj (Option.some.inj hs)
          exact afterClose_closeConnection cd rfl
        · obtain ⟨rfl, rfl⟩ := Prod.mk.inj (Option.some.inj hs)
          rfl
      | _ => cases hs
    · cases e with
      | ok | raise =>
        obtain ⟨rfl, rfl⟩ := Prod.mk.inj (Option.some.inj hs)
        exact hchannel
      | _ => cases hs
  publish {i e s s' p'} he hs := by
    cases e with
    | publish | publishBatch =>
      obtain ⟨rfl, rfl⟩ := Prod.mk.inj (Option.some.inj hs)
      exact ⟨view_progress s _, sending_progress cd s _⟩
    | _ => exact he.elim
  publish_next {i e s s' p p'} hp hs := by
    obtain ⟨q, rfl⟩ := hp
    cases e with
    | ok =>
      obtain ⟨rfl, rfl⟩ := Prod.mk.inj (Option.some.inj hs)
      exact ⟨(view_progress _ _).trans (view_acknowledge s i _), sending_progress cd _ _⟩
    | raise exc =>
      obtain ⟨rfl, rfl⟩ := Prod.mk.inj (Option.some.inj hs)
      exact ⟨rfl, nofun⟩
    | _ => cases hs

theorem usable_of_started {s : Shared V H} (h : (reliable cd).started (view s)) : Usable cd s := by
  obtain ⟨c, hconnection, hchannel, hclosed⟩ := h
  have hchannel : s.channel = some c := hchannel
  refine ⟨⟨c, hconnection, hchannel, hclosed⟩, fun i ctx message value hvalue => ?_⟩
  simp [resume, Queue.publish, hchannel, hvalue, progress]

theorem refuses_of_closed {s : Shared V H} (h : (reliable cd).closed (view s)) : Refuses cd s := by
  have hchannel : s.channel = none := h
  constructor
  · intro i ctx message
    simp [resume, publish_none, progress, hchannel]
  · intro i ctx messages
    simp [resume, Publisher.publishBatch, progress, hchannel]

end RabbitmqProducer

/-! ### All of them -/

/-- **The queue plugins**: whatever is published at the same time, and whatever fails or is cancelled, what
`get_producer()` hands out can be used, and after `shutdown()` nothing can. -/
theorem queue_plugins (cd : Serialiser M V H Ctx) :
    (∀ l, Reach (KafkaProducer.ofPlugin cd).pluginResume (KafkaProducer.ofPlugin cd).Serial
        (KafkaProducer.ofPlugin cd).registered l →
      ProducerClass.Dependable (KafkaProducer.Usable cd) (KafkaProducer.Refuses cd) l.shared) ∧
    (∀ l, Reach (NatsProducer.ofPlugin cd).pluginResume (NatsProducer.ofPlugin cd).Serial
        (NatsProducer.ofPlugin cd).registered l →
      ProducerClass.Dependable (NatsProducer.Usable cd) (NatsProducer.Refuses cd) l.shared) ∧
    ∀ l, Reach (RabbitmqProducer.ofPlugin cd).pluginResume (RabbitmqProducer.ofPlugin cd).Serial
        (RabbitmqProducer.ofPlugin cd).registered l →
      ProducerClass.Dependable (RabbitmqProducer.Usable cd) (RabbitmqProducer.Refuses cd) l.shared :=
  ⟨fun _ h => (KafkaProducer.reliable cd).dependable (fun _ => KafkaProducer.usable_of_started cd)
      (fun _ => KafkaProducer.refuses_of_closed cd) h,
    fun _ h => (NatsProducer.reliable cd).dependable (fun _ => NatsProducer.usable_of_started cd)
      (fun _ => NatsProducer.refuses_of_closed cd) h,
    fun _ h => (RabbitmqProducer.reliable cd).dependable
      (fun _ => RabbitmqProducer.usable_of_started cd)
      (fun _ => RabbitmqProducer.refuses_of_closed cd) h⟩

end OpenframeAdapters.Queue
