import OpenframeAdapters.Queue.Kafka.Producer
import OpenframeAdapters.Queue.Nats.Consumer
import OpenframeAdapters.Queue.Nats.Producer
import OpenframeAdapters.Queue.Rabbitmq.Consumer
import OpenframeAdapters.Queue.Rabbitmq.Producer

/-!
# Start-up

`start()` of the three producers, and what `subscribe()` of the NATS and the RabbitMQ
consumer does before its loop, take several steps, each of which may raise. When one does,
nothing should be left behind: what the call has opened should be closed, or be referenced by
the field that a later `close()` closes; and a producer should be as it was before.

## The model

* `Startup` — a start-up: the code, which awaits belong to it, and what the property is
  about. There is one for each of the five.
* `Startup.Failure` — a call is made on an object that is not started, and it raises in its
  start-up. No other call is made.
* `Startup.Undone` — what should hold then.

## What is proved

* `undone_iff` — for each start-up, exactly which failures leave nothing behind. The `except`
  clauses reset the fields and close nothing, so a failure that they name, after the connection
  has been opened, loses it. One that they do not name keeps the fields: a consumer then still
  holds its connection, but a producer is `READY` with a start that has failed.
* `not_startsAllOrNothing` — a NATS server that is slow to add the stream is such a failure.
-/

namespace OpenframeAdapters.Queue

open Python OpenframeAdapters.Core

variable {σ π ε : Type}

/-- The start-up of an object. -/
structure Startup (σ π ε : Type) where
  /-- The code. -/
  resume : Resume σ π ε
  /-- No call has been made. -/
  idle : π
  /-- The call is made, or one of the awaits of its start-up ends. -/
  step : π → ε → Prop
  /-- The object is not started. -/
  notStarted : σ → Prop
  /-- The call is over, and has raised. -/
  raised : π → Prop
  /-- How many connections have been opened. -/
  made : σ → ℕ
  /-- `close()` has been called on the connection. -/
  closed : σ → ℕ → Bool
  /-- The connection that the object refers to. -/
  held : σ → Option ℕ
  /-- `close()` of the object, where it closes the connection. -/
  close : σ → σ
  /-- The connection that the object refers to is closed by `close()`. -/
  close_held : ∀ {s c}, held s = some c → closed (close s) c = true
  /-- The object behaves as one that is not started. -/
  inert : σ → Prop

namespace Startup

variable (S : Startup σ π ε)

/-- One call is made, and nothing but its start-up happens. -/
def alone : Guard σ π ε := fun l i e => i = 0 ∧ S.step (l.task 0) e

/-- From `l`, the start-up of a call on the object `s₀` raises, and leaves `l'`. -/
structure Failure (s₀ : σ) (l : Loop σ π) (e : ε) (l' : Loop σ π) : Prop where
  /-- The object was not started when the call was made. -/
  notStarted : S.notStarted s₀
  /-- The call got this far. -/
  reached : Reach S.resume S.alone ⟨s₀, fun _ => S.idle⟩ l
  /-- It is still in its start-up. -/
  within : S.step (l.task 0) e
  /-- It goes on. -/
  next : l.step S.resume 0 e = some l'
  /-- It raises. -/
  raises : S.raised (l'.task 0)

/-- Nothing is left of a start-up that began in `s₀` and has ended in `s`. -/
structure Undone (s₀ s : σ) : Prop where
  /-- Every connection it has opened is closed, or is the one the object refers to. -/
  accounted : ∀ c, S.made s₀ ≤ c → c < S.made s → S.closed s c = true ∨ S.held s = some c
  /-- The object behaves as before. -/
  inert : S.inert s

/-- Every start-up that raises leaves nothing behind. -/
def AllOrNothing : Prop := ∀ s₀ l e l', S.Failure s₀ l e l' → S.Undone s₀ l'.shared

/-- A start-up that raises leaves nothing behind exactly when the failure is one of these. -/
def ExactlyWhen (spares : π → ε → Prop) : Prop :=
  ∀ s₀ l e l', S.Failure s₀ l e l' → (S.Undone s₀ l'.shared ↔ spares (l.task 0) e)

variable {S}

section Undone

variable {s₀ s : σ}

/-- A start-up that has opened nothing. -/
theorem undone_of_none_opened (hm : S.made s = S.made s₀) (hi : S.inert s) : S.Undone s₀ s :=
  ⟨fun _ hc hlt => absurd hc (Nat.not_le.mpr (hm ▸ hlt)), hi⟩

/-- A start-up that has opened the connection the object refers to. -/
theorem undone_of_held (hm : S.made s = S.made s₀ + 1) (hh : S.held s = some (S.made s₀))
    (hi : S.inert s) : S.Undone s₀ s := by
  refine ⟨fun c hc hlt => .inr ?_, hi⟩
  rw [hm] at hlt
  rw [hh, Nat.le_antisymm hc (Nat.lt_succ_iff.mp hlt)]

/-- A connection that is open and that the object does not refer to is lost. -/
theorem not_undone_of_lost (hm : S.made s = S.made s₀ + 1) (hc : S.closed s (S.made s₀) = false)
    (hh : S.held s = none) : ¬ S.Undone s₀ s := by
  rintro ⟨hacc, -⟩
  rcases hacc (S.made s₀) (Nat.le_refl _) (hm ▸ Nat.lt_succ_self _) with h | h
  · exact absurd (hc.symm.trans h) Bool.false_ne_true
  · exact Option.some_ne_none _ (h.symm.trans hh)

end Undone

/-- What a start-up has done so far (`At`) determines its state, and each of its steps takes it
further or is its last. -/
theorem exactlyWhen_of_move (At : σ → σ → π → Prop) {spares : π → ε → Prop}
    (start : ∀ s₀, At s₀ s₀ S.idle)
    (move : ∀ {s₀ s p e r}, S.notStarted s₀ → At s₀ s p → S.step p e → S.resume 0 s p e = some r →
      At s₀ r.1 r.2 ∧ ¬ S.raised r.2 ∨
        (∀ e', ¬ S.step r.2 e') ∧ (S.raised r.2 → (S.Undone s₀ r.1 ↔ spares p e))) :
    S.ExactlyWhen spares := by
  rintro s₀ l e l' ⟨h₀, hr, hw, hs, hx⟩
  have hat : At s₀ l.shared (l.task 0) ∨ ∀ e, ¬ S.step (l.task 0) e := by
    refine hr.invariant (I := fun l => At s₀ l.shared (l.task 0) ∨ ∀ e, ¬ S.step (l.task 0) e)
      (.inl (start s₀)) ?_
    rintro l i e s p - hA ⟨rfl, hw⟩ hp
    rcases hA with hA | hA
    · simpa using (move h₀ hA hw hp).imp And.left And.left
    · exact absurd hw (hA e)
  rcases hat with hat | hat
  · obtain ⟨s, p, hp, rfl⟩ := Loop.step_eq_some_iff.mp hs
    have hx : S.raised p := by simpa using hx
    rcases move h₀ hat hw hp with ⟨-, h⟩ | ⟨-, h⟩
    · exact absurd hx h
    · exact h hx
  · exact absurd hw (hat e)

end Startup

/-! ### The producers -/

namespace KafkaProducer

variable {M V H Ctx : Type} (cd : Serialiser M V H Ctx)

/-- `start()` of the Kafka producer. -/
def startup : Startup (Shared V H) (Task M V H Ctx) (Ev M Ctx) where
  resume := resume cd
  idle := .idle
  step
    | .idle, .start _ | .starting _, _ => True
    | _, _ => False
  notStarted s := s.producer = none
  raised p := ∃ x, p = .ended (some x)
  made := Shared.made
  closed := Shared.stopped
  held := Shared.producer
  close s := (close s : Shared V H × Task M V H Ctx).1
  close_held {s c} hc := by simp [KafkaProducer.close, hc]
  inert s := health s ≠ .ready ∧ ∀ i ctx message,
    resume cd i s .idle (.publish ctx message) = some (s, .ended (some (.raw runtimeError)))

/-- The constructor raises. -/
def Spares : Task M V H Ctx → Ev M Ctx → Prop
  | .idle, _ => True
  | _, _ => False

/-- What `start()` has done so far. -/
inductive At (s₀ : Shared V H) : Shared V H → Task M V H Ctx → Prop
  | idle : At s₀ s₀ .idle
  | starting : At s₀ s₀.construct (.starting s₀.made)

theorem over_startFailed (s : Shared V H) (x : PyExc) (e : Ev M Ctx) :
    ¬ (startup cd).step (startFailed s x).2 e := by
  unfold startFailed
  cases dispatch startErrors x <;> exact id

/-- A constructor that raises has made nothing. -/
theorem undone_notConstructed {s₀ : Shared V H} (h₀ : s₀.producer = none) (x : PyExc) :
    (startup cd).Undone s₀ (startFailed s₀ x : Shared V H × Task M V H Ctx).1 := by
  have h : (startFailed s₀ x : Shared V H × Task M V H Ctx).1 = s₀ := by
    unfold startFailed
    cases dispatch startErrors x with
    | none => rfl
    | some err => rw [← h₀]
  rw [h]
  refine Startup.undone_of_none_opened rfl ⟨?_, fun i ctx message => ?_⟩
  · simp [health, h₀]
  · simp [resume, publish_none, progress, h₀]

/-- A client that does not start is lost, or taken for one that has started. -/
theorem not_undone_notStarted (s₀ : Shared V H) (x : PyExc) :
    ¬ (startup cd).Undone s₀ (startFailed s₀.construct x : Shared V H × Task M V H Ctx).1 := by
  unfold startFailed
  cases dispatch startErrors x with
  | none =>
    rintro ⟨-, hready, -⟩
    exact hready rfl
  | some err => exact Startup.not_undone_of_lost rfl (Function.update_self ..) rfl

theorem startup_exactly : (startup cd).ExactlyWhen Spares := by
  refine Startup.exactlyWhen_of_move At (fun _ => .idle) ?_
  rintro s₀ s p e r h₀ hat hw hs
  cases hat with
  | idle =>
    cases e with
    | start construct =>
      cases construct with
      | none =>
        obtain rfl := Option.some.inj hs
        exact .inl ⟨.starting, nofun⟩
      | some x =>
        obtain rfl := Option.some.inj hs
        exact .inr ⟨over_startFailed cd s₀ x,
          fun _ => iff_of_true (undone_notConstructed cd h₀ x) trivial⟩
    | _ => exact hw.elim
  | starting =>
    cases e with
    | ok =>
      obtain rfl := Option.some.inj hs
      exact .inr ⟨fun _ => id, nofun⟩
    | raise x =>
      obtain rfl := Option.some.inj hs
      exact .inr ⟨over_startFailed cd _ x, fun _ => iff_of_false (not_undone_notStarted cd s₀ x) id⟩
    | _ => cases hs

end KafkaProducer

namespace NatsProducer

variable {M V H Ctx : Type} (cd : Serialiser M V H Ctx)

/-- `start()` of the NATS producer. -/
def startup : Startup (Shared V H) (Task M V H Ctx) (Ev M Ctx) where
  resume := resume cd
  idle := .idle
  step
    | .idle, .start | .connecting, _ | .ensuring, _ => True
    | _, _ => False
  notStarted s := s.nc = none ∧ s.js = none
  raised p := ∃ x, p = .ended (some x)
  made := Shared.made
  closed := Shared.closed
  held := Shared.nc
  close s := (close s : Shared V H × Task M V H Ctx).1
  close_held {s c} hc := by simp [NatsProducer.close, hc]
  inert s := health s ≠ .ready ∧ ∀ i ctx message,
    resume cd i s .idle (.publish ctx message) = some (s, .ended (some (.raw runtimeError)))

/-- `connect()` raises, or `jetstream()` raises what no clause names. -/
def Spares : Task M V H Ctx → Ev M Ctx → Prop
  | .connecting, .raise _ => True
  | .connecting, .connected (some x) => dispatch startErrors x = none
  | _, _ => False

/-- What `start()` has done so far. -/
inductive At (s₀ : Shared V H) : Shared V H → Task M V H Ctx → Prop
  | idle : At s₀ s₀ .idle
  | connecting : At s₀ s₀ .connecting
  | ensuring : At s₀ { s₀.connect with js := some s₀.made } .ensuring

theorem over_startFailed (s : Shared V H) (x : PyExc) (e : Ev M Ctx) :
    ¬ (startup cd).step (startFailed s x).2 e := by
  unfold startFailed
  cases dispatch startErrors x <;> exact id

/-- The object behaves as one that is not started while it has no JetStream context. -/
theorem inert_of_js {s : Shared V H} (h : s.js = none) : (startup cd).inert s :=
  ⟨by simp [health, h], fun i ctx message => by simp [resume, publish_none, progress, h]⟩

/-- A connect that raises has opened nothing. -/
theorem undone_notConnected {s₀ : Shared V H} (h₀ : s₀.nc = none ∧ s₀.js = none) (x : PyExc) :
    (startup cd).Undone s₀ (startFailed s₀ x : Shared V H × Task M V H Ctx).1 := by
  have h : (startFailed s₀ x : Shared V H × Task M V H Ctx).1 = s₀ := by
    unfold startFailed
    cases dispatch startErrors x with
    | none => rfl
    | some err =>
      cases s₀
      cases h₀.1
      cases h₀.2
      rfl
  rw [h]
  exact Startup.undone_of_none_opened rfl (inert_of_js cd h₀.2)

/-- The connection is lost where a clause names what `jetstream()` raises. -/
theorem undone_noJetstream_iff {s₀ : Shared V H} (h₀ : s₀.js = none) (x : PyExc) :
    (startup cd).Undone s₀ (startFailed s₀.connect x : Shared V H × Task M V H Ctx).1 ↔
      dispatch startErrors x = none := by
  unfold startFailed
  cases dispatch startErrors x with
  | none => exact iff_of_true (Startup.undone_of_held rfl rfl (inert_of_js cd h₀)) rfl
  | some err =>
    exact iff_of_false (Startup.not_undone_of_lost rfl (Function.update_self ..) rfl) nofun

/-- After the stream has been rejected the connection is lost, or `health()` is `READY`. -/
theorem not_undone_notEnsured (s₀ : Shared V H) (x : PyExc) :
    ¬ (startup cd).Undone s₀
      (startFailed { s₀.connect with js := some s₀.made } x : Shared V H × Task M V H Ctx).1 := by
  unfold startFailed
  cases dispatch startErrors x with
  | none =>
    rintro ⟨-, hready, -⟩
    exact hready rfl
  | some err => exact Startup.not_undone_of_lost rfl (Function.update_self ..) rfl

theorem startup_exactly : (startup cd).ExactlyWhen Spares := by
  refine Startup.exactlyWhen_of_move At (fun _ => .idle) ?_
  rintro s₀ s p e r h₀ hat hw hs
  cases hat with
  | idle =>
    cases e with
    | start =>
      obtain rfl := Option.some.inj hs
      exact .inl ⟨.connecting, nofun⟩
    | _ => exact hw.elim
  | connecting =>
    cases e with
    | connected jetstream =>
      obtain rfl := Option.some.inj hs
      cases jetstream with
      | none => exact .inl ⟨.ensuring, nofun⟩
      | some x =>
        exact .inr ⟨over_startFailed cd _ x, fun _ => undone_noJetstream_iff cd h₀.2 x⟩
    | raise x =>
      obtain rfl := Option.some.inj hs
      exact .inr ⟨over_startFailed cd _ x,
        fun _ => iff_of_true (undone_notConnected cd h₀ x) trivial⟩
    | _ => cases hs
  | ensuring =>
    cases e with
    | ok =>
      obtain rfl := Option.some.inj hs
      exact .inr ⟨fun _ => id, nofun⟩
    | raise x =>
      by_cases hbad : x.isa .natsBadRequestError = true
      · obtain rfl := Option.some.inj ((if_pos hbad).symm.trans hs)
        exact .inr ⟨fun _ => id, nofun⟩
      · obtain rfl := Option.some.inj ((if_neg hbad).symm.trans hs)
        exact .inr ⟨over_startFailed cd _ x,
          fun _ => iff_of_false (not_undone_notEnsured cd s₀ x) id⟩
    | _ => cases hs

end NatsProducer

namespace RabbitmqProducer

variable {M V H Ctx : Type} (cd : Serialiser M V H Ctx)

/-- `start()` of the RabbitMQ producer. -/
def startup : Startup (Shared V H) (Task M V H Ctx) (Ev M Ctx) where
  resume := resume cd
  idle := .idle
  step
    | .idle, .start | .connecting, _ | .opening _, _ => True
    | _, _ => False
  notStarted s := s.connection = none ∧ s.channel = none
  raised p := ∃ x, p = .ended (some x)
  made := Shared.made
  closed := Shared.closed
  held := Shared.connection
  close s := (closeConnection s : Shared V H × Task M V H Ctx).1
  close_held {s c} hc := by simp [closeConnection, hc]
  inert s := health s ≠ .ready ∧ ∀ i ctx message,
    resume cd i s .idle (.publish ctx message) = some (s, .ended (some (.raw runtimeError)))

/-- `connect_robust()` raises. -/
def Spares : Task M V H Ctx → Ev M Ctx → Prop
  | .connecting, _ => True
  | _, _ => False

/-- What `start()` has done so far. -/
inductive At (s₀ : Shared V H) : Shared V H → Task M V H Ctx → Prop
  | idle : At s₀ s₀ .idle
  | connecting : At s₀ s₀ .connecting
  | opening : At s₀ s₀.connect (.opening s₀.made)

theorem over_startFailed (s : Shared V H) (x : PyExc) (e : Ev M Ctx) :
    ¬ (startup cd).step (startFailed s x).2 e := by
  unfold startFailed
  cases dispatch startErrors x <;> exact id

/-- A connect that raises has opened nothing. -/
theorem undone_notConnected {s₀ : Shared V H} (h₀ : s₀.connection = none ∧ s₀.channel = none)
    (x : PyExc) : (startup cd).Undone s₀ (startFailed s₀ x : Shared V H × Task M V H Ctx).1 := by
  have h : (startFailed s₀ x : Shared V H × Task M V H Ctx).1 = s₀ := by
    unfold startFailed
    cases dispatch startErrors x with
    | none => rfl
    | some err =>
      cases s₀
      cases h₀.1
      cases h₀.2
      rfl
  rw [h]
  refine Startup.undone_of_none_opened rfl ⟨?_, fun i ctx message => ?_⟩
  · simp [health, h₀]
  · simp [resume, publish_none, progress, h₀]

/-- Without a channel the connection is lost, or `health()` is `READY`. -/
theorem not_undone_notOpened (s₀ : Shared V H) (x : PyExc) :
    ¬ (startup cd).Undone s₀ (startFailed s₀.connect x : Shared V H × Task M V H Ctx).1 := by
  unfold startFailed
  cases dispatch startErrors x with
  | none =>
    rintro ⟨-, hready, -⟩
    exact hready (by simp [health, Shared.connect])
  | some err => exact Startup.not_undone_of_lost rfl (Function.update_self ..) rfl

theorem startup_exactly : (startup cd).ExactlyWhen Spares := by
  refine Startup.exactlyWhen_of_move At (fun _ => .idle) ?_
  rintro s₀ s p e r h₀ hat hw hs
  cases hat with
  | idle =>
    cases e with
    | start =>
      obtain rfl := Option.some.inj hs
      exact .inl ⟨.connecting, nofun⟩
    | _ => exact hw.elim
  | connecting =>
    cases e with
    | ok =>
      obtain rfl := Option.some.inj hs
      exact .inl ⟨.opening, nofun⟩
    | raise x =>
      obtain rfl := Option.some.inj hs
      exact .inr ⟨over_startFailed cd _ x,
        fun _ => iff_of_true (undone_notConnected cd h₀ x) trivial⟩
    | _ => cases hs
  | opening =>
    cases e with
    | ok =>
      obtain rfl := Option.some.inj hs
      exact .inr ⟨fun _ => id, nofun⟩
    | raise x =>
      obtain rfl := Option.some.inj hs
      exact .inr ⟨over_startFailed cd _ x,
        fun _ => iff_of_false (not_undone_notOpened cd s₀ x) id⟩
    | _ => cases hs

end RabbitmqProducer

/-! ### The consumers -/

namespace Nats

variable {B T Ctx : Type} (cd : Codec B T Ctx)

/-- The start-up of `subscribe()` of the NATS consumer. -/
def startup : Startup (Shared B T Ctx) (Task Ctx) (Ev B Ctx) where
  resume := resume cd
  idle := .idle
  step
    | .idle, .subscribe _ | .connecting _, _ | .ensuring .., _ | .subscribing .., _ => True
    | _, _ => False
  notStarted s := s.nc = none ∧ s.js = none ∧ s.sub = none
  raised p := ∃ x stale, p = .ended (.raised x stale)
  made := Shared.made
  closed s c := (s.conn c).closed
  held := Shared.nc
  close s := (closeDisconnect s).1
  close_held {s c} hc := by simp [closeDisconnect, Shared.disconnect, Shared.setConn, hc]
  inert _ := True

/-- No clause of the start-up names the exception. -/
def unnamed (x : PyExc) : Prop := x.isAny [.natsNoServersError, .natsError] = false

/-- `connect()` raises, or what is raised later no clause names. -/
def Spares : Task Ctx → Ev B Ctx → Prop
  | .connecting _, .raise _ => True
  | _, .raise x | _, .connected (some x) => unnamed x
  | _, _ => False

/-- What the start-up has done so far. -/
inductive At (s₀ : Shared B T Ctx) : Shared B T Ctx → Task Ctx → Prop
  | idle : At s₀ s₀ .idle
  | connecting {ctx} : At s₀ s₀ (.connecting ctx)
  | ensuring {ctx} : At s₀ { s₀.connect 0 with js := some s₀.made } (.ensuring s₀.made ctx)
  | subscribing {ctx} :
    At s₀ { s₀.connect 0 with js := some s₀.made } (.subscribing s₀.made s₀.made ctx)

theorem over_startFailed (s : Shared B T Ctx) (x : PyExc) (stale : Bool) (e : Ev B Ctx) :
    ¬ (startup cd).step (startFailed s x stale).2 e := by
  unfold startFailed
  split_ifs <;> exact id

/-- A connect that raises has opened nothing. -/
theorem made_startFailed (s : Shared B T Ctx) (x : PyExc) (stale : Bool) :
    (startFailed s x stale).1.made = s.made := by
  unfold startFailed
  split_ifs <;> rfl

/-- After the connect, the connection is lost where a clause names the exception. -/
theorem undone_startFailed_iff {s₀ s : Shared B T Ctx} (hm : s.made = s₀.made + 1)
    (hc : (s.conn s₀.made).closed = false) (hn : s.nc = some s₀.made) (x : PyExc) (stale : Bool) :
    (startup cd).Undone s₀ (startFailed s x stale).1 ↔ unnamed x := by
  unfold startFailed unnamed
  split_ifs with h₁ h₂
  · exact iff_of_false (Startup.not_undone_of_lost hm hc rfl) (by simp [h₁])
  · exact iff_of_false (Startup.not_undone_of_lost hm hc rfl) (by simp [h₂])
  · exact iff_of_true (Startup.undone_of_held hm hn trivial) (by simp [h₁, h₂])

theorem startup_exactly : (startup cd).ExactlyWhen Spares := by
  refine Startup.exactlyWhen_of_move At (fun _ => .idle) ?_
  rintro s₀ s p e r h₀ hat hw hs
  have hopen : ((s₀.connect 0).conn s₀.made).closed = false := by
    simp [Shared.connect, Shared.record, Shared.setConn]
  have lost (x : PyExc) (stale : Bool) : (startup cd).Undone s₀
      (startFailed { s₀.connect 0 with js := some s₀.made } x stale).1 ↔ unnamed x :=
    undone_startFailed_iff (s := { s₀.connect 0 with js := some s₀.made }) cd rfl hopen rfl x stale
  cases hat with
  | idle =>
    cases e with
    | subscribe ctx =>
      obtain rfl := Option.some.inj hs
      exact .inl ⟨.connecting, nofun⟩
    | _ => exact hw.elim
  | connecting =>
    cases e with
    | connected jetstream =>
      obtain rfl := Option.some.inj hs
      cases jetstream with
      | none => exact .inl ⟨.ensuring, nofun⟩
      | some x =>
        exact .inr ⟨over_startFailed cd _ x false,
          fun _ => undone_startFailed_iff cd rfl hopen rfl x false⟩
    | raise x =>
      obtain rfl := Option.some.inj hs
      exact .inr ⟨over_startFailed cd s₀ x false, fun _ => iff_of_true
        (Startup.undone_of_none_opened (made_startFailed s₀ x false) trivial) trivial⟩
    | _ => cases hs
  | ensuring =>
    cases e with
    | ok =>
      obtain rfl := Option.some.inj hs
      exact .inl ⟨.subscribing, nofun⟩
    | raise x =>
      by_cases hbad : x.isa .natsBadRequestError = true
      · obtain rfl := Option.some.inj ((if_pos hbad).symm.trans hs)
        exact .inl ⟨.subscribing, nofun⟩
      · obtain rfl := Option.some.inj ((if_neg hbad).symm.trans hs)
        exact .inr ⟨over_startFailed cd _ x _, fun _ => lost x _⟩
    | _ => cases hs
  | subscribing =>
    cases e with
    | ok =>
      obtain rfl := Option.some.inj hs
      exact .inr ⟨fun _ => id, nofun⟩
    | raise x =>
      obtain rfl := Option.some.inj hs
      exact .inr ⟨over_startFailed cd _ x _, fun _ => lost x _⟩
    | _ => cases hs

end Nats

namespace Rabbitmq

variable {B W T Ctx : Type} (cd : Codec B W T Ctx)

/-- The start-up of `subscribe()` of the RabbitMQ consumer. -/
def startup : Startup (Shared B W T Ctx) (Task Ctx) (Ev B W Ctx) where
  resume := resume cd
  idle := .idle
  step
    | .idle, .subscribe _ | .connecting _, _ | .opening .., _ | .settingQos .., _
    | .declaring .., _ => True
    | _, _ => False
  notStarted s := s.connection = none ∧ s.channel = none ∧ s.queue = none
  raised p := ∃ x stale, p = .ended (.raised x stale)
  made := Shared.made
  closed s c := (s.conn c).closed
  held := Shared.connection
  close s := (closeRest 0 s .close).1
  close_held {s c} hc := by simp [closeRest, Caller.note, Shared.disconnect, Shared.setConn, hc]
  inert _ := True

/-- The clause of the start-up does not name the exception. -/
def unnamed (x : PyExc) : Prop := x.isAny [.amqpError, .connectionError, .osError] = false

/-- `connect_robust()` raises, or what is raised later the clause does not name. -/
def Spares : Task Ctx → Ev B W Ctx → Prop
  | .connecting _, _ => True
  | _, .raise x => unnamed x
  | _, _ => False

/-- What the start-up has done so far. -/
inductive At (s₀ : Shared B W T Ctx) : Shared B W T Ctx → Task Ctx → Prop
  | idle : At s₀ s₀ .idle
  | connecting {ctx} : At s₀ s₀ (.connecting ctx)
  | opening {ctx} : At s₀ (s₀.connect 0) (.opening s₀.made ctx)
  | settingQos {ctx} :
    At s₀ { s₀.connect 0 with channel := some s₀.made } (.settingQos s₀.made ctx)
  | declaring {ctx} :
    At s₀ { s₀.connect 0 with channel := some s₀.made } (.declaring s₀.made s₀.made ctx)

theorem over_startFailed (s : Shared B W T Ctx) (x : PyExc) (stale : Bool) (e : Ev B W Ctx) :
    ¬ (startup cd).step (startFailed s x stale).2 e := by
  unfold startFailed
  split_ifs <;> exact id

/-- A connect that raises has opened nothing. -/
theorem made_startFailed (s : Shared B W T Ctx) (x : PyExc) (stale : Bool) :
    (startFailed s x stale).1.made = s.made := by
  unfold startFailed
  split_ifs <;> rfl

/-- After the connect, the connection is lost where the clause names the exception. -/
theorem undone_startFailed_iff {s₀ s : Shared B W T Ctx} (hm : s.made = s₀.made + 1)
    (hc : (s.conn s₀.made).closed = false) (hn : s.connection = some s₀.made) (x : PyExc)
    (stale : Bool) : (startup cd).Undone s₀ (startFailed s x stale).1 ↔ unnamed x := by
  unfold startFailed unnamed
  split_ifs with h
  · exact iff_of_false (Startup.not_undone_of_lost hm hc rfl) (by simp [h])
  · exact iff_of_true (Startup.undone_of_held hm hn trivial) (by simpa using h)

theorem startup_exactly : (startup cd).ExactlyWhen Spares := by
  refine Startup.exactlyWhen_of_move At (fun _ => .idle) ?_
  rintro s₀ s p e r h₀ hat hw hs
  have hopen : ((s₀.connect 0).conn s₀.made).closed = false := by
    simp [Shared.connect, Shared.record, Shared.setConn]
  have lost (x : PyExc) (stale : Bool) : (startup cd).Undone s₀
      (startFailed { s₀.connect 0 with channel := some s₀.made } x stale).1 ↔ unnamed x :=
    undone_startFailed_iff (s := { s₀.connect 0 with channel := some s₀.made }) cd rfl hopen rfl x
      stale
  cases hat with
  | idle =>
    cases e with
    | subscribe ctx =>
      obtain rfl := Option.some.inj hs
      exact .inl ⟨.connecting, nofun⟩
    | _ => exact hw.elim
  | connecting =>
    cases e with
    | ok =>
      obtain rfl := Option.some.inj hs
      exact .inl ⟨.opening, nofun⟩
    | raise x =>
      obtain rfl := Option.some.inj hs
      exact .inr ⟨over_startFailed cd s₀ x false, fun _ => iff_of_true
        (Startup.undone_of_none_opened (made_startFailed s₀ x false) trivial) trivial⟩
    | _ => cases hs
  | opening =>
    cases e with
    | ok =>
      obtain rfl := Option.some.inj hs
      exact .inl ⟨.settingQos, nofun⟩
    | raise x =>
      obtain rfl := Option.some.inj hs
      exact .inr ⟨over_startFailed cd _ x _, fun _ => undone_startFailed_iff cd rfl hopen rfl x _⟩
    | _ => cases hs
  | settingQos =>
    cases e with
    | ok =>
      obtain rfl := Option.some.inj hs
      exact .inl ⟨.declaring, nofun⟩
    | raise x =>
      obtain rfl := Option.some.inj hs
      exact .inr ⟨over_startFailed cd _ x _, fun _ => lost x _⟩
    | _ => cases hs
  | declaring =>
    cases e with
    | ok =>
      obtain rfl := Option.some.inj hs
      exact .inr ⟨fun _ => id, nofun⟩
    | raise x =>
      obtain rfl := Option.some.inj hs
      exact .inr ⟨over_startFailed cd _ x _, fun _ => lost x _⟩
    | _ => cases hs

end Rabbitmq

/-! ### All or nothing -/

/-- Every start-up is all or nothing, whatever the messages are. -/
def StartsAllOrNothing : Prop :=
  ∀ {M V H B W T Ctx : Type} (out : Serialiser M V H Ctx) (nats : Nats.Codec B T Ctx)
    (rabbitmq : Rabbitmq.Codec B W T Ctx),
    (KafkaProducer.startup out).AllOrNothing ∧ (NatsProducer.startup out).AllOrNothing ∧
      (RabbitmqProducer.startup out).AllOrNothing ∧ (Nats.startup nats).AllOrNothing ∧
      (Rabbitmq.startup rabbitmq).AllOrNothing

/-- **What a failed start-up leaves behind**: nothing, exactly when the failure is one of the
listed ones. -/
theorem undone_iff {M V H B W T Ctx : Type} (out : Serialiser M V H Ctx) (nats : Nats.Codec B T Ctx)
    (rabbitmq : Rabbitmq.Codec B W T Ctx) :
    (KafkaProducer.startup out).ExactlyWhen KafkaProducer.Spares ∧
      (NatsProducer.startup out).ExactlyWhen NatsProducer.Spares ∧
      (RabbitmqProducer.startup out).ExactlyWhen RabbitmqProducer.Spares ∧
      (Nats.startup nats).ExactlyWhen Nats.Spares ∧
      (Rabbitmq.startup rabbitmq).ExactlyWhen Rabbitmq.Spares :=
  ⟨KafkaProducer.startup_exactly out, NatsProducer.startup_exactly out,
    RabbitmqProducer.startup_exactly out, Nats.startup_exactly nats,
    Rabbitmq.startup_exactly rabbitmq⟩

/-- Payloads that need no serialising. -/
def plain : Serialiser Unit Unit Unit Unit := ⟨.ok, id⟩

/-- A NATS producer that has not been started. -/
def unstarted : NatsProducer.Shared Unit Unit := ⟨none, none, 0, fun _ => false, []⟩

/-- `start()` of a NATS producer, up to where it awaits `add_stream()`. -/
def ensuringStream : List (ℕ × NatsProducer.Ev Unit Unit) := [(0, .start), (0, .connected none)]

/-- A start whose `add_stream()` takes longer than the `connection_timeout`. -/
theorem failure_streamTimeout : ∃ l l', (NatsProducer.startup plain).Failure unstarted l
    (.raise timeoutError) l' ∧ l.task 0 = .ensuring := by
  have hadm : Admitted (NatsProducer.resume plain) (NatsProducer.startup plain).alone
      ⟨unstarted, fun _ => .idle⟩ ensuringStream := by
    refine admitted_cons ⟨rfl, trivial⟩ rfl ?_
    exact admitted_cons ⟨rfl, trivial⟩ rfl trivial
  exact ⟨_, _, ⟨⟨rfl, rfl⟩, reach_of_run hadm rfl, trivial, rfl, _, rfl⟩, rfl⟩

/-- `start()` of a NATS producer times out when it makes the stream, and what it has opened stays open. -/
theorem undone_iff_streamTimeout : ∃ l l',
    (NatsProducer.startup plain).Failure unstarted l (.raise timeoutError) l' ∧
      ¬ (NatsProducer.startup plain).Undone unstarted l'.shared := by
  obtain ⟨l, l', h, hp⟩ := failure_streamTimeout
  refine ⟨l, l', h, fun hu => ?_⟩
  have hs := ((undone_iff plain (B := Unit) (W := Unit) (T := Unit) ⟨some, fun _ => some ()⟩
    ⟨some, fun _ => some "", fun _ => some ()⟩).2.1 _ _ _ _ h).mp hu
  rw [hp] at hs
  exact hs

/-- So a start that fails does not always undo what it has done. -/
theorem not_startsAllOrNothing : ¬ StartsAllOrNothing := by
  intro hall
  obtain ⟨l, l', h, hp⟩ := failure_streamTimeout
  have hu := (hall plain (B := Unit) (W := Unit) (T := Unit) ⟨some, fun _ => some ()⟩
    ⟨some, fun _ => some "", fun _ => some ()⟩).2.1 _ _ _ _ h
  have hs := (NatsProducer.startup_exactly plain _ _ _ _ h).mp hu
  rw [hp] at hs
  exact hs

end OpenframeAdapters.Queue
