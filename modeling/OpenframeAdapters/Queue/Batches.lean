import OpenframeAdapters.Queue.Batch
import OpenframeAdapters.Queue.Kafka.Producer
import OpenframeAdapters.Queue.Nats.Producer
import OpenframeAdapters.Queue.Rabbitmq.Producer

/-!
# The batches of the three producers

Each producer is a `Batching`, so what holds of batches holds of its batches. Only the steps differ
that set and reset the field.

## What is proved

* `acknowledges_of_run` — what a broker has acknowledged is a prefix of the messages.
* `publishesPrefix_of_spares` — what is raised is an `AdapterError` if every step is careful.
* `not_publishesPrefix` — it is an `AttributeError` where `close()` has reset the field, and whatever
  `_serialise` raises.
-/

namespace OpenframeAdapters.Queue

open Python OpenframeAdapters.Core

variable {M V H Ctx σ π ε : Type}

namespace KafkaProducer

variable (cd : Serialiser M V H Ctx)

/-- What has been acknowledged stays as it is, and a call has been made. -/
def Quiet (s : Shared V H) (r : Shared V H × Task M V H Ctx) : Prop :=
  r.1.acked = s.acked ∧ r.2 ≠ .idle

theorem progress_eq (s : Shared V H) (p : Progress M V H Ctx) :
    progress s p = (s, Sum.elim Task.sending Task.ended p) := by
  cases p <;> rfl

theorem quiet_progress (s : Shared V H) (p : Progress M V H Ctx) : Quiet s (progress s p) := by
  cases p <;> exact ⟨rfl, nofun⟩

theorem quiet_startFailed (s : Shared V H) (exc : PyExc) :
    Quiet s (startFailed s exc : Shared V H × Task M V H Ctx) := by
  unfold startFailed
  split <;> exact ⟨rfl, nofun⟩

theorem quiet_close (s : Shared V H) : Quiet s (close s : Shared V H × Task M V H Ctx) := by
  unfold close
  split <;> exact ⟨rfl, nofun⟩

theorem acked_acknowledge (s : Shared V H) (i : ℕ) (sent : Option (V × H)) :
    (s.acknowledge i sent).acked = (sent.map fun m => (i, m)).toList ++ s.acked := by
  cases sent <;> rfl

/-- Only a send that returns adds to what has been acknowledged. -/
theorem quiet_or_sending {i : ℕ} {s : Shared V H} {p : Task M V H Ctx} {ev : Ev M Ctx}
    {r : Shared V H × Task M V H Ctx} (h : resume cd i s p ev = some r) :
    Quiet s r ∨ ∃ q, p = .sending q ∧ ev = .ok ∧
      r = progress (s.acknowledge i q.acknowledged) (publisher.sent cd s.producer q) := by
  revert h
  fun_cases resume cd i s p ev <;> rintro ⟨⟩
  case case1 => exact .inl ⟨rfl, nofun⟩
  case case2 exc => exact .inl (quiet_startFailed s exc)
  case case3 => exact .inl ⟨rfl, nofun⟩
  case case4 exc => exact .inl (quiet_startFailed s exc)
  case case5 => exact .inl (quiet_progress s _)
  case case6 => exact .inl (quiet_progress s _)
  case case7 q => exact .inr ⟨q, rfl, rfl, rfl⟩
  case case8 => exact .inl ⟨rfl, nofun⟩
  case case9 => exact .inl (quiet_close s)
  case case10 => exact .inl ⟨rfl, nofun⟩
  case case11 => exact .inl ⟨rfl, nofun⟩


/-- Batches of the Kafka producer. -/
def batching : Batching cd (Shared V H) (Task M V H Ctx) (Ev M Ctx) where
  publisher := publisher
  resume := resume cd
  field := Shared.producer
  acked := Shared.acked
  idle := .idle
  task := Sum.elim .sending .ended
  publishBatch := .publishBatch
  ok := .ok
  raise := .raise
  tells {p p'} h := by
    cases p <;> cases p' <;> simp_all
  begins {i s ctx messages} := congrArg some (progress_eq s _)
  events {i s p ev r} h := by
    cases ev with
    | ok =>
      obtain rfl := Option.some.inj h
      rw [progress_eq]
      exact .inl ⟨rfl, rfl, acked_acknowledge ..⟩
    | raise exc =>
      obtain rfl := Option.some.inj h
      exact .inr ⟨exc, rfl, rfl⟩
    | _ => cases h
  ended {i s x ev} := by cases ev <;> rfl
  frame {i s p ev r} h := by
    obtain hquiet | ⟨q, rfl, rfl, rfl⟩ := quiet_or_sending cd h
    · exact ⟨[], hquiet.1, by simp⟩
    · rw [progress_eq]
      refine ⟨_, acked_acknowledge .., ?_⟩
      intro a ha
      obtain ⟨m, -, rfl⟩ := Option.map_eq_some_iff.mp (Option.mem_toList.mp ha)
      rfl
  leaves {i s p ev r} h := by
    obtain hquiet | ⟨q, rfl, rfl, rfl⟩ := quiet_or_sending cd h
    · exact hquiet.2
    · exact (quiet_progress _ _).2

end KafkaProducer

namespace NatsProducer

variable (cd : Serialiser M V H Ctx)

/-- What has been acknowledged stays as it is, and a call has been made. -/
def Quiet (s : Shared V H) (r : Shared V H × Task M V H Ctx) : Prop :=
  r.1.acked = s.acked ∧ r.2 ≠ .idle

theorem progress_eq (s : Shared V H) (p : Progress M V H Ctx) :
    progress s p = (s, Sum.elim Task.sending Task.ended p) := by
  cases p <;> rfl

theorem quiet_progress (s : Shared V H) (p : Progress M V H Ctx) : Quiet s (progress s p) := by
  cases p <;> exact ⟨rfl, nofun⟩

theorem quiet_startFailed (s : Shared V H) (exc : PyExc) :
    Quiet s (startFailed s exc : Shared V H × Task M V H Ctx) := by
  unfold startFailed
  split <;> exact ⟨rfl, nofun⟩

theorem quiet_connected (s : Shared V H) (jetstream : Option PyExc) :
    Quiet s (connected s jetstream : Shared V H × Task M V H Ctx) := by
  cases jetstream with
  | none => exact ⟨rfl, nofun⟩
  | some exc => exact quiet_startFailed s.connect exc

theorem quiet_close (s : Shared V H) : Quiet s (close s : Shared V H × Task M V H Ctx) := by
  unfold close
  split <;> exact ⟨rfl, nofun⟩

theorem acked_acknowledge (s : Shared V H) (i : ℕ) (sent : Option (V × H)) :
    (s.acknowledge i sent).acked = (sent.map fun m => (i, m)).toList ++ s.acked := by
  cases sent <;> rfl

/-- Only a send that returns adds to what has been acknowledged. -/
theorem quiet_or_sending {i : ℕ} {s : Shared V H} {p : Task M V H Ctx} {ev : Ev M Ctx}
    {r : Shared V H × Task M V H Ctx} (h : resume cd i s p ev = some r) :
    Quiet s r ∨ ∃ q, p = .sending q ∧ ev = .ok ∧
      r = progress (s.acknowledge i q.acknowledged) (publisher.sent cd s.js q) := by
  revert h
  fun_cases resume cd i s p ev <;> rintro ⟨⟩
  case case1 => exact .inl ⟨rfl, nofun⟩
  case case2 jetstream => exact .inl (quiet_connected s jetstream)
  case case3 exc => exact .inl (quiet_startFailed s exc)
  case case4 => exact .inl ⟨rfl, nofun⟩
  case case5 => exact .inl ⟨rfl, nofun⟩
  case case6 exc _ => exact .inl (quiet_startFailed s exc)
  case case7 => exact .inl (quiet_progress s _)
  case case8 => exact .inl (quiet_progress s _)
  case case9 q => exact .inr ⟨q, rfl, rfl, rfl⟩
  case case10 => exact .inl ⟨rfl, nofun⟩
  case case11 => exact .inl (quiet_close s)
  case case12 => exact .inl ⟨rfl, nofun⟩
  case case13 => exact .inl ⟨rfl, nofun⟩


/-- Batches of the NATS producer. -/
def batching : Batching cd (Shared V H) (Task M V H Ctx) (Ev M Ctx) where
  publisher := publisher
  resume := resume cd
  field := Shared.js
  acked := Shared.acked
  idle := .idle
  task := Sum.elim .sending .ended
  publishBatch := .publishBatch
  ok := .ok
  raise := .raise
  tells {p p'} h := by
    cases p <;> cases p' <;> simp_all
  begins {i s ctx messages} := congrArg some (progress_eq s _)
  events {i s p ev r} h := by
    cases ev with
    | ok =>
      obtain rfl := Option.some.inj h
      rw [progress_eq]
      exact .inl ⟨rfl, rfl, acked_acknowledge ..⟩
    | raise exc =>
      obtain rfl := Option.some.inj h
      exact .inr ⟨exc, rfl, rfl⟩
    | _ => cases h
  ended {i s x ev} := by cases ev <;> rfl
  frame {i s p ev r} h := by
    obtain hquiet | ⟨q, rfl, rfl, rfl⟩ := quiet_or_sending cd h
    · exact ⟨[], hquiet.1, by simp⟩
    · rw [progress_eq]
      refine ⟨_, acked_acknowledge .., ?_⟩
      intro a ha
      obtain ⟨m, -, rfl⟩ := Option.map_eq_some_iff.mp (Option.mem_toList.mp ha)
      rfl
  leaves {i s p ev r} h := by
    obtain hquiet | ⟨q, rfl, rfl, rfl⟩ := quiet_or_sending cd h
    · exact hquiet.2
    · exact (quiet_progress _ _).2

end NatsProducer

namespace RabbitmqProducer

variable (cd : Serialiser M V H Ctx)

/-- What has been acknowledged stays as it is, and a call has been made. -/
def Quiet (s : Shared V H) (r : Shared V H × Task M V H Ctx) : Prop :=
  r.1.acked = s.acked ∧ r.2 ≠ .idle

theorem progress_eq (s : Shared V H) (p : Progress M V H Ctx) :
    progress s p = (s, Sum.elim Task.sending Task.ended p) := by
  cases p <;> rfl

theorem quiet_progress (s : Shared V H) (p : Progress M V H Ctx) : Quiet s (progress s p) := by
  cases p <;> exact ⟨rfl, nofun⟩

theorem quiet_startFailed (s : Shared V H) (exc : PyExc) :
    Quiet s (startFailed s exc : Shared V H × Task M V H Ctx) := by
  unfold startFailed
  split <;> exact ⟨rfl, nofun⟩

theorem quiet_closeConnection (s : Shared V H) :
    Quiet s (closeConnection s : Shared V H × Task M V H Ctx) := by
  unfold closeConnection
  split <;> exact ⟨rfl, nofun⟩

theorem quiet_close (s : Shared V H) : Quiet s (close s : Shared V H × Task M V H Ctx) := by
  unfold close
  split
  · exact ⟨rfl, nofun⟩
  · exact quiet_closeConnection s

theorem acked_acknowledge (s : Shared V H) (i : ℕ) (sent : Option (V × H)) :
    (s.acknowledge i sent).acked = (sent.map fun m => (i, m)).toList ++ s.acked := by
  cases sent <;> rfl

/-- Only a send that returns adds to what has been acknowledged. -/
theorem quiet_or_sending {i : ℕ} {s : Shared V H} {p : Task M V H Ctx} {ev : Ev M Ctx}
    {r : Shared V H × Task M V H Ctx} (h : resume cd i s p ev = some r) :
    Quiet s r ∨ ∃ q, p = .sending q ∧ ev = .ok ∧
      r = progress (s.acknowledge i q.acknowledged) (publisher.sent cd s.channel q) := by
  revert h
  fun_cases resume cd i s p ev <;> rintro ⟨⟩
  case case1 => exact .inl ⟨rfl, nofun⟩
  case case2 => exact .inl ⟨rfl, nofun⟩
  case case3 exc => exact .inl (quiet_startFailed s exc)
  case case4 => exact .inl ⟨rfl, nofun⟩
  case case5 exc => exact .inl (quiet_startFailed s exc)
  case case6 => exact .inl (quiet_progress s _)
  case case7 => exact .inl (quiet_progress s _)
  case case8 q => exact .inr ⟨q, rfl, rfl, rfl⟩
  case case9 => exact .inl ⟨rfl, nofun⟩
  case case10 => exact .inl (quiet_close s)
  case case11 => exact .inl (quiet_closeConnection _)
  case case12 => exact .inl (quiet_closeConnection _)
  case case13 => exact .inl ⟨rfl, nofun⟩
  case case14 => exact .inl ⟨rfl, nofun⟩
  case case15 => exact .inl ⟨rfl, nofun⟩


/-- Batches of the RabbitMQ producer. -/
def batching : Batching cd (Shared V H) (Task M V H Ctx) (Ev M Ctx) where
  publisher := publisher
  resume := resume cd
  field := Shared.channel
  acked := Shared.acked
  idle := .idle
  task := Sum.elim .sending .ended
  publishBatch := .publishBatch
  ok := .ok
  raise := .raise
  tells {p p'} h := by
    cases p <;> cases p' <;> simp_all
  begins {i s ctx messages} := congrArg some (progress_eq s _)
  events {i s p ev r} h := by
    cases ev with
    | ok =>
      obtain rfl := Option.some.inj h
      rw [progress_eq]
      exact .inl ⟨rfl, rfl, acked_acknowledge ..⟩
    | raise exc =>
      obtain rfl := Option.some.inj h
      exact .inr ⟨exc, rfl, rfl⟩
    | _ => cases h
  ended {i s x ev} := by cases ev <;> rfl
  frame {i s p ev r} h := by
    obtain hquiet | ⟨q, rfl, rfl, rfl⟩ := quiet_or_sending cd h
    · exact ⟨[], hquiet.1, by simp⟩
    · rw [progress_eq]
      refine ⟨_, acked_acknowledge .., ?_⟩
      intro a ha
      obtain ⟨m, -, rfl⟩ := Option.map_eq_some_iff.mp (Option.mem_toList.mp ha)
      rfl
  leaves {i s p ev r} h := by
    obtain hquiet | ⟨q, rfl, rfl, rfl⟩ := quiet_or_sending cd h
    · exact hquiet.2
    · exact (quiet_progress _ _).2

end RabbitmqProducer

section Producers

variable (cd : Serialiser M V H Ctx) (made : ℕ) (closed : ℕ → Bool) (i : ℕ) (ctx : Ctx)
  (messages : List M) (field : Option ℕ)

/-- **Acknowledgements**: at any time, in any interleaving and with any failures. -/
theorem acknowledges_of_run :
    (∀ ok l, (KafkaProducer.batching cd).Run ok (KafkaProducer.notStarted made closed) i ctx messages
      field l → (KafkaProducer.batching cd).Acknowledges i ctx messages l) ∧
    (∀ ok l, (NatsProducer.batching cd).Run ok (NatsProducer.notStarted made closed) i ctx messages
      field l → (NatsProducer.batching cd).Acknowledges i ctx messages l) ∧
    ∀ ok l, (RabbitmqProducer.batching cd).Run ok (RabbitmqProducer.notStarted made closed) i ctx
      messages field l → (RabbitmqProducer.batching cd).Acknowledges i ctx messages l :=
  ⟨fun _ _ h => h.acknowledges fun _ => rfl, fun _ _ h => h.acknowledges fun _ => rfl,
    fun _ _ h => h.acknowledges fun _ => rfl⟩

/-- **Batches**: in every interleaving in which each step of the batch finds the field set and the
next message serialisable, what the broker has acknowledged is a prefix of the messages, all of them
if the batch returns, and what it raises is an `AdapterError`. -/
theorem publishesPrefix_of_spares :
    (∀ l, (KafkaProducer.batching cd).Run ((KafkaProducer.batching cd).Careful i)
        (KafkaProducer.notStarted made closed) i ctx messages field l →
      (KafkaProducer.batching cd).PublishesPrefix i ctx messages field l) ∧
    (∀ l, (NatsProducer.batching cd).Run ((NatsProducer.batching cd).Careful i)
        (NatsProducer.notStarted made closed) i ctx messages field l →
      (NatsProducer.batching cd).PublishesPrefix i ctx messages field l) ∧
    ∀ l, (RabbitmqProducer.batching cd).Run ((RabbitmqProducer.batching cd).Careful i)
        (RabbitmqProducer.notStarted made closed) i ctx messages field l →
      (RabbitmqProducer.batching cd).PublishesPrefix i ctx messages field l :=
  ⟨fun _ h => h.publishesPrefix fun _ => rfl, fun _ h => h.publishesPrefix fun _ => rfl,
    fun _ h => h.publishesPrefix fun _ => rfl⟩

end Producers

/-! ### A batch that is disturbed -/

/-- Every message is accepted. -/
def acceptAll : Serialiser Unit Unit Unit Unit := ⟨fun _ => .ok (), fun _ => ()⟩

/-- No message is accepted. -/
def rejectAll : Serialiser Unit Unit Unit Unit := ⟨fun _ => .error typeError, fun _ => ()⟩

/-- Sends fail only with exceptions that the clauses name. -/
def Batching.Driven {cd : Serialiser M V H Ctx} (B : Batching cd σ π ε) : Guard σ π ε :=
  fun _ _ ev => ∀ exc, ev = B.raise exc → B.publisher.catches exc

/-- What is no `AdapterError` should not be raised by a producer that is started. -/
theorem Batching.not_publishesPrefix_of_raw {cd : Serialiser M V H Ctx} {B : Batching cd σ π ε}
    {i c : ℕ} {ctx : Ctx} {messages : List M} {l : Loop σ π} {exc : PyExc}
    (h : l.task i = B.task (.inr (some (.raw exc)))) :
    ¬ B.PublishesPrefix i ctx messages (some c) l := by
  intro hprefix
  obtain ⟨err, herr⟩ | ⟨-, hfield⟩ := hprefix.raised _ h
  · cases herr
  · cases hfield

/-- A run as two schedules, before the call and after it. -/
def Batching.Script {cd : Serialiser M V H Ctx} (B : Batching cd σ π ε) (init : Loop σ π)
    (before : List (ℕ × ε)) (i : ℕ) (ctx : Ctx) (messages : List M) (after : List (ℕ × ε))
    (field : Option ℕ) (l₁ l : Loop σ π) : Prop :=
  ∃ l₀, init.run B.resume before = some l₀ ∧ l₀.task i = B.idle ∧ B.field l₀.shared = field ∧
    l₀.step B.resume i (B.publishBatch ctx messages) = some l₁ ∧ l₁.run B.resume after = some l

theorem Batching.Script.run {cd : Serialiser M V H Ctx} {B : Batching cd σ π ε} {ok : Guard σ π ε}
    {init l₁ l : Loop σ π} {i : ℕ} {ctx : Ctx} {messages : List M} {before after : List (ℕ × ε)}
    {field : Option ℕ} (h : B.Script init before i ctx messages after field l₁ l)
    (hcalled : ∀ l, ok l i (B.publishBatch ctx messages)) (hafter : Admitted B.resume ok l₁ after) :
    B.Run ok init i ctx messages field l := by
  obtain ⟨l₀, hbefore, hidle, rfl, hstep, hrun⟩ := h
  have hadm : Admitted B.resume (fun _ _ _ => True) init before :=
    admitted_of_forall fun _ _ _ => trivial
  exact ⟨reach_of_run hadm hbefore, hidle, hcalled l₀, hstep, reach_of_run hafter hrun⟩

/-- A script in which nothing fails, and at the end of which the call has raised what is no
`AdapterError`. -/
theorem Batching.Script.not_publishesPrefix {cd : Serialiser M V H Ctx} {B : Batching cd σ π ε}
    {init l₁ l : Loop σ π} {i c : ℕ} {ctx : Ctx} {messages : List M} {before after : List (ℕ × ε)}
    {exc : PyExc} (h : B.Script init before i ctx messages after (some c) l₁ l)
    (hcalled : ∀ exc, B.publishBatch ctx messages ≠ B.raise exc)
    (hafter : ∀ e ∈ after, ∀ exc, e.2 ≠ B.raise exc)
    (hraw : l.task i = B.task (.inr (some (.raw exc)))) :
    ¬ ∀ l, B.Run B.Driven init i ctx messages (some c) l →
      B.PublishesPrefix i ctx messages (some c) l := by
  intro hall
  refine not_publishesPrefix_of_raw hraw (hall l (h.run (fun _ exc hev => ?_) ?_))
  · exact absurd hev (hcalled exc)
  · exact admitted_of_forall fun e he _ exc hev => absurd hev (hafter e he exc)

/-- The client is made and started. -/
def kafkaStart : List (ℕ × KafkaProducer.Ev M Unit) := [(0, .start none), (0, .ok)]

/-- The connection is opened, and the stream is there. -/
def natsStart : List (ℕ × NatsProducer.Ev M Unit) := [(0, .start), (0, .connected none), (0, .ok)]

/-- The connection and its channel are opened. -/
def rabbitmqStart : List (ℕ × RabbitmqProducer.Ev M Unit) := [(0, .start), (0, .ok), (0, .ok)]

/-- Numbers are sent as they are. -/
def numbers : Serialiser ℕ ℕ Unit Unit := ⟨.ok, fun _ => ()⟩

/-- A step finds what it needs where the field is set, and a send fails with an exception that is
named. -/
theorem careful_of_field {B : Batching numbers σ π ε} {i j : ℕ} {l : Loop σ π} {ev : ε}
    (hsent : ev = B.ok → B.field l.shared ≠ none)
    (hfailed : ∀ exc, ev = B.raise exc → B.publisher.catches exc) : B.Careful i l j ev := by
  have hspares : B.field l.shared ≠ none → ∀ messages,
      B.publisher.Spares numbers (B.field l.shared) messages := by
    intro hfield messages
    cases messages with
    | nil => exact fun _ => hfield
    | cons message rest => exact hfield
  exact ⟨fun _ _ messages _ hfield => hspares hfield messages,
    fun _ hok _ rest _ _ => hspares (hsent hok) rest, fun _ => hfailed⟩

/-- Two messages, and the second send times out. -/
theorem Batching.Script.run_timeout {B : Batching numbers σ π ε} {init l₁ l : Loop σ π}
    {before : List (ℕ × ε)} (h : B.Script init before 1 () [1, 2]
      [(1, B.ok), (1, B.raise timeoutError)] (some 0) l₁ l) (hcatches : B.publisher.catches timeoutError)
    (hfield : B.field l₁.shared = some 0)
    (hcalled : B.publishBatch () [1, 2] ≠ B.ok) (hok : ∀ exc, B.ok ≠ B.raise exc)
    (hcalled' : ∀ exc, B.publishBatch () [1, 2] ≠ B.raise exc)
    (hraise : ∀ exc, B.raise timeoutError = B.raise exc → timeoutError = exc) :
    B.Run (B.Careful 1) init 1 () [1, 2] (some 0) l := by
  refine h.run (fun l => careful_of_field (absurd · hcalled) fun exc hev => ?_) ⟨?_, fun l' hl' => ⟨?_, ?_⟩⟩
  · exact absurd hev (hcalled' exc)
  · refine careful_of_field (fun _ => ?_) fun exc hev => absurd hev (hok exc)
    rw [hfield]
    exact Option.some_ne_none 0
  · refine careful_of_field (fun hev => absurd hev.symm (hok timeoutError)) fun exc hev => ?_
    exact hraise exc hev ▸ hcatches
  · exact fun _ _ => trivial

/-- Of two messages the first one is acknowledged, and the second send times out: for each producer,
`PublishesPrefix` holds then. -/
theorem publishesPrefix_timeout :
    (∃ l, (KafkaProducer.batching numbers).PublishesPrefix 1 () [1, 2] (some 0) l ∧
      (KafkaProducer.batching numbers).log l.shared 1 = [(1, ())] ∧
      l.task 1 = .ended (some (.adapter ⟨.timeout, "publish_batch", some timeoutError⟩))) ∧
    (∃ l, (NatsProducer.batching numbers).PublishesPrefix 1 () [1, 2] (some 0) l ∧
      (NatsProducer.batching numbers).log l.shared 1 = [(1, ())] ∧
      l.task 1 = .ended (some (.adapter ⟨.timeout, "publish_batch", some timeoutError⟩))) ∧
    ∃ l, (RabbitmqProducer.batching numbers).PublishesPrefix 1 () [1, 2] (some 0) l ∧
      (RabbitmqProducer.batching numbers).log l.shared 1 = [(1, ())] ∧
      l.task 1 = .ended (some (.adapter ⟨.timeout, "publish_batch", some timeoutError⟩)) := by
  have hprefix := publishesPrefix_of_spares numbers 0 (fun _ => false) 1 () [1, 2] (some 0)
  refine ⟨?_, ?_, ?_⟩
  · obtain ⟨l₁, l, hscript, hfield, hlog, hended⟩ : ∃ l₁ l,
        (KafkaProducer.batching numbers).Script (KafkaProducer.notStarted 0 fun _ => false) kafkaStart 1
          () [1, 2] [(1, .ok), (1, .raise timeoutError)] (some 0) l₁ l ∧
        l₁.shared.producer = some 0 ∧
        (KafkaProducer.batching numbers).log l.shared 1 = [(1, ())] ∧
        l.task 1 = .ended (some (.adapter ⟨.timeout, "publish_batch", some timeoutError⟩)) :=
      ⟨_, _, ⟨_, rfl, rfl, rfl, rfl, rfl⟩, rfl, rfl, rfl⟩
    refine ⟨l, hprefix.1 l ?_, hlog, hended⟩
    exact hscript.run_timeout rfl hfield nofun nofun nofun fun _ => KafkaProducer.Ev.raise.inj
  · obtain ⟨l₁, l, hscript, hfield, hlog, hended⟩ : ∃ l₁ l,
        (NatsProducer.batching numbers).Script (NatsProducer.notStarted 0 fun _ => false) natsStart 1
          () [1, 2] [(1, .ok), (1, .raise timeoutError)] (some 0) l₁ l ∧
        l₁.shared.js = some 0 ∧
        (NatsProducer.batching numbers).log l.shared 1 = [(1, ())] ∧
        l.task 1 = .ended (some (.adapter ⟨.timeout, "publish_batch", some timeoutError⟩)) :=
      ⟨_, _, ⟨_, rfl, rfl, rfl, rfl, rfl⟩, rfl, rfl, rfl⟩
    refine ⟨l, hprefix.2.1 l ?_, hlog, hended⟩
    exact hscript.run_timeout rfl hfield nofun nofun nofun fun _ => NatsProducer.Ev.raise.inj
  · obtain ⟨l₁, l, hscript, hfield, hlog, hended⟩ : ∃ l₁ l,
        (RabbitmqProducer.batching numbers).Script (RabbitmqProducer.notStarted 0 fun _ => false)
          rabbitmqStart 1 () [1, 2] [(1, .ok), (1, .raise timeoutError)] (some 0) l₁ l ∧
        l₁.shared.channel = some 0 ∧
        (RabbitmqProducer.batching numbers).log l.shared 1 = [(1, ())] ∧
        l.task 1 = .ended (some (.adapter ⟨.timeout, "publish_batch", some timeoutError⟩)) :=
      ⟨_, _, ⟨_, rfl, rfl, rfl, rfl, rfl⟩, rfl, rfl, rfl⟩
    refine ⟨l, hprefix.2.2 l ?_, hlog, hended⟩
    exact hscript.run_timeout rfl hfield nofun nofun nofun fun _ => RabbitmqProducer.Ev.raise.inj

/-- In between the two messages, `close()` resets the field; or the first message is not accepted. -/
theorem not_publishesPrefix :
    (¬ ∀ l, (KafkaProducer.batching acceptAll).Run (KafkaProducer.batching acceptAll).Driven
        (KafkaProducer.notStarted 0 fun _ => false) 1 () [(), ()] (some 0) l →
      (KafkaProducer.batching acceptAll).PublishesPrefix 1 () [(), ()] (some 0) l) ∧
    (¬ ∀ l, (NatsProducer.batching acceptAll).Run (NatsProducer.batching acceptAll).Driven
        (NatsProducer.notStarted 0 fun _ => false) 1 () [(), ()] (some 0) l →
      (NatsProducer.batching acceptAll).PublishesPrefix 1 () [(), ()] (some 0) l) ∧
    (¬ ∀ l, (RabbitmqProducer.batching acceptAll).Run (RabbitmqProducer.batching acceptAll).Driven
        (RabbitmqProducer.notStarted 0 fun _ => false) 1 () [(), ()] (some 0) l →
      (RabbitmqProducer.batching acceptAll).PublishesPrefix 1 () [(), ()] (some 0) l) ∧
    ¬ ∀ l, (KafkaProducer.batching rejectAll).Run (KafkaProducer.batching rejectAll).Driven
        (KafkaProducer.notStarted 0 fun _ => false) 1 () [()] (some 0) l →
      (KafkaProducer.batching rejectAll).PublishesPrefix 1 () [()] (some 0) l := by
  refine ⟨?_, ?_, ?_, ?_⟩
  · obtain ⟨l₁, l, hscript, hraw⟩ : ∃ l₁ l, (KafkaProducer.batching acceptAll).Script
        (KafkaProducer.notStarted 0 fun _ => false) kafkaStart 1 () [(), ()]
        [(2, .close), (2, .ok), (1, .ok)] (some 0) l₁ l ∧
        l.task 1 = .ended (some (.raw attributeError)) :=
      ⟨_, _, ⟨_, rfl, rfl, rfl, rfl, rfl⟩, rfl⟩
    refine hscript.not_publishesPrefix nofun ?_ hraw
    simp [KafkaProducer.batching]
  · obtain ⟨l₁, l, hscript, hraw⟩ : ∃ l₁ l, (NatsProducer.batching acceptAll).Script
        (NatsProducer.notStarted 0 fun _ => false) natsStart 1 () [(), ()]
        [(2, .close), (2, .ok), (1, .ok)] (some 0) l₁ l ∧
        l.task 1 = .ended (some (.raw attributeError)) :=
      ⟨_, _, ⟨_, rfl, rfl, rfl, rfl, rfl⟩, rfl⟩
    refine hscript.not_publishesPrefix nofun ?_ hraw
    simp [NatsProducer.batching]
  · obtain ⟨l₁, l, hscript, hraw⟩ : ∃ l₁ l, (RabbitmqProducer.batching acceptAll).Script
        (RabbitmqProducer.notStarted 0 fun _ => false) rabbitmqStart 1 () [(), ()]
        [(2, .close), (2, .ok), (1, .ok)] (some 0) l₁ l ∧
        l.task 1 = .ended (some (.raw attributeError)) :=
      ⟨_, _, ⟨_, rfl, rfl, rfl, rfl, rfl⟩, rfl⟩
    refine hscript.not_publishesPrefix nofun ?_ hraw
    simp [RabbitmqProducer.batching]
  · obtain ⟨l₁, l, hscript, hraw⟩ : ∃ l₁ l, (KafkaProducer.batching rejectAll).Script
        (KafkaProducer.notStarted 0 fun _ => false) kafkaStart 1 () [()] [] (some 0) l₁ l ∧
        l.task 1 = .ended (some (.raw typeError)) :=
      ⟨_, _, ⟨_, rfl, rfl, rfl, rfl, rfl⟩, rfl⟩
    exact hscript.not_publishesPrefix nofun nofun hraw

end OpenframeAdapters.Queue
