import OpenframeAdapters.Db.Plugin
import OpenframeAdapters.Queue.Kafka.Producer
import OpenframeAdapters.Queue.Nats.Producer
import OpenframeAdapters.Queue.Rabbitmq.Producer

/-!
# Queue plugins

`KafkaPlugin`, `NatsPlugin` and `RabbitmqPlugin` of `queue/*/plugin.py`. Their code is the same. A plugin
constructs a producer when it is initialized, starts it, and hands it out to whoever wants to publish.

## The model

* `ProducerClass` — a producer as a plugin uses it: its code, and which of its events are calls.
* `PluginShared` — the plugin, and all producers that it has constructed. Whoever has been handed one may
  keep it, and publish after the plugin has got another.
* `pluginResume` — the code, from one await to the next.
* `Serial` — the calls of `initialize()` and `shutdown()` do not overlap. Whatever else happens may come
  between their steps.
* `Reliable` — what a plugin can rely on.

The check of the classes in the constructor is left out, and so are the texts of a `PluginHealth`.

## What is proved

* `Reliable.dependable` — what is handed out can be used, and after `shutdown()` nothing can.
* `queue_plugins` — the three plugins.
-/

namespace OpenframeAdapters.Queue

open Python OpenframeAdapters.Core

open Db (isException)

variable {σ π ε φ : Type}

/-- A producer, as a plugin uses it. -/
structure ProducerClass (σ π ε : Type) where
  /-- The code. -/
  resume : Resume σ π ε
  /-- It has been constructed. -/
  fresh : σ
  /-- No call has been made. -/
  idle : π
  /-- `start()` is called. -/
  starts : ε → Prop
  /-- `publish()` or `publish_batch()` is called. -/
  publishes : ε → Prop
  /-- `close()` is called. -/
  close : ε
  /-- The call is over, and has raised this, if anything. -/
  outcome : π → Option (Option Raised)

/-- What the calls of a plugin share. -/
structure PluginShared (σ : Type) where
  /-- `_status`. -/
  status : Db.PluginStatus
  /-- `_producer`. -/
  producer : Option ℕ
  /-- The producers; they are numbered in the order in which they are constructed. -/
  producers : ℕ → σ
  /-- How many of them there are. -/
  made : ℕ

/-- Where a call is suspended. -/
inductive PluginTask (π : Type) where
  /-- The call has not been made. -/
  | idle
  /-- `initialize()` awaits `start()` of the producer. -/
  | starting (own : ℕ) (p : π)
  /-- `shutdown()` awaits `close()` of the producer. -/
  | closing (own : ℕ) (p : π)
  /-- Somebody publishes. -/
  | publishing (own : ℕ) (p : π)
  /-- The call is over, and has raised this, if anything. -/
  | ended (x : Option Raised)

/-- `initialize()` or `shutdown()` is under way. -/
def PluginTask.manages : PluginTask π → Prop
  | .starting .. | .closing .. => True
  | _ => False

/-- What happens to a task. -/
inductive PluginEv (ε : Type) where
  /-- `initialize()` is called, and calls `start()`. -/
  | initializePlugin (e : ε)
  /-- `shutdown()` is called. -/
  | shutdown
  /-- Somebody calls `get_producer()`, and publishes. -/
  | publish (e : ε)
  /-- Somebody publishes with a producer that has been kept. -/
  | publishWith (own : ℕ) (e : ε)
  /-- The awaited call of the producer goes on. -/
  | resume (e : ε)

/-- `get_producer()`. -/
def getProducer (s : PluginShared σ) : Except Raised ℕ :=
  match s.producer, s.status with
  | some own, .ready => .ok own
  | _, _ => .error (.raw runtimeError)

/-- `health()`. -/
def pluginHealth (s : PluginShared σ) : PluginStatus :=
  if s.producer = none ∨ s.status ≠ .ready then .failed else .ready

/-- A producer has changed. -/
def PluginShared.put (s : PluginShared σ) (own : ℕ) (x : σ) : PluginShared σ :=
  { s with producers := Function.update s.producers own x }

/-- `self._producer = self._producer_class(self._settings)`. -/
def PluginShared.construct (s : PluginShared σ) (fresh : σ) : PluginShared σ :=
  { s with
    producer := some s.made
    producers := Function.update s.producers s.made fresh
    made := s.made + 1 }

@[simp] theorem PluginShared.producers_put (s : PluginShared σ) (own : ℕ) (x : σ) :
    (s.put own x).producers = Function.update s.producers own x := rfl

@[simp] theorem PluginShared.producers_construct (s : PluginShared σ) (fresh : σ) :
    (s.construct fresh).producers = Function.update s.producers s.made fresh := rfl

namespace ProducerClass

variable (P : ProducerClass σ π ε)

/-- `start()` goes on, returns, or raises. -/
def afterStart (own : ℕ) (s : PluginShared σ) (p : π) : PluginShared σ × PluginTask π :=
  match P.outcome p with
  | none => (s, .starting own p)
  | some none => ({ s with status := .ready }, .ended none)
  | some (some x) => (if isException x then { s with status := .failed } else s, .ended (some x))

/-- `close()` goes on, or is over. `except Exception` ignores what it raises. -/
def afterClose (own : ℕ) (s : PluginShared σ) (p : π) : PluginShared σ × PluginTask π :=
  match P.outcome p with
  | none => (s, .closing own p)
  | some x => ({ s with status := .stopped }, .ended (x.filter fun x => !isException x))

/-- `publish()` goes on, or is over. -/
def afterPublish (own : ℕ) (s : PluginShared σ) (p : π) : PluginShared σ × PluginTask π :=
  match P.outcome p with
  | none => (s, .publishing own p)
  | some x => (s, .ended x)

/-- A producer runs to its next await, or to its end. -/
def run (i own : ℕ) (s : PluginShared σ) (p : π) (e : ε)
    (after : PluginShared σ → π → PluginShared σ × PluginTask π) :
    Option (PluginShared σ × PluginTask π) :=
  (P.resume i (s.producers own) p e).map fun r => after (s.put own r.1) r.2

/-- `shutdown()`, up to its await. -/
def shutdown (i : ℕ) (s : PluginShared σ) : Option (PluginShared σ × PluginTask π) :=
  match s.producer with
  | some own => P.run i own { s with status := .stopping } P.idle P.close (P.afterClose own)
  | none => some ({ s with status := .stopped }, .ended none)

/-- `get_producer()`, and a call of the producer, up to its await. -/
def publish (i : ℕ) (s : PluginShared σ) (e : ε) : Option (PluginShared σ × PluginTask π) :=
  match getProducer s with
  | .ok own => P.run i own s P.idle e (P.afterPublish own)
  | .error x => some (s, .ended (some x))

/-- The code of a plugin, from one await to the next. -/
def pluginResume : Resume (PluginShared σ) (PluginTask π) (PluginEv ε)
  | i, s, .idle, .initializePlugin e =>
    P.run i s.made { s.construct P.fresh with status := .initialized } P.idle e (P.afterStart s.made)
  | i, s, .starting own p, .resume e => P.run i own s p e (P.afterStart own)
  | i, s, .idle, .shutdown => P.shutdown i s
  | i, s, .closing own p, .resume e => P.run i own s p e (P.afterClose own)
  | i, s, .idle, .publish e => P.publish i s e
  | i, s, .idle, .publishWith own e =>
    if own < s.made then P.run i own s P.idle e (P.afterPublish own) else none
  | i, s, .publishing own p, .resume e => P.run i own s p e (P.afterPublish own)
  | _, _, _, _ => none

/-- `initialize()` and `shutdown()` are called one at a time. -/
def Serial : Guard (PluginShared σ) (PluginTask π) (PluginEv ε) := fun l _ ev =>
  match ev with
  | .initializePlugin e => P.starts e ∧ ∀ j, ¬ (l.task j).manages
  | .shutdown => ∀ j, ¬ (l.task j).manages
  | .publish e | .publishWith _ e => P.publishes e
  | .resume _ => True

/-- A plugin that has been constructed. -/
def registered : Loop (PluginShared σ) (PluginTask π) where
  shared := ⟨.registered, none, fun _ => P.fresh, 0⟩
  task _ := .idle

/-- What holds at any time of a plugin. `usable` says what should hold of a producer that is handed out,
and `refuses` what should hold of one that has been shut down. -/
structure Dependable (usable refuses : σ → Prop) (s : PluginShared σ) : Prop where
  /-- A producer that is handed out can be used. -/
  usable : ∀ own, getProducer s = .ok own → usable (s.producers own)
  /-- `health()` is `READY` exactly where one is handed out. -/
  healthy : pluginHealth s = .ready ↔ ∃ own, getProducer s = .ok own
  /-- After `shutdown()` none is handed out, and the one that has been refuses to publish. -/
  shut : s.status = .stopped →
    (∀ own, getProducer s ≠ .ok own) ∧ ∀ own, s.producer = some own → refuses (s.producers own)

/-! ### What a plugin relies on -/

/-- What is known of a producer that goes on with `start()`, or is over with it. -/
def AfterStart (started : φ → Prop) (starting : φ → π → Prop) (x : φ) (p : π) : Prop :=
  match P.outcome p with
  | none => starting x p
  | some none => started x
  | some (some _) => True

/-- What is known of a producer that goes on with `close()`, or is over with it. -/
def AfterClose (closed : φ → Prop) (closing : φ → π → Prop) (x : φ) (p : π) : Prop :=
  match P.outcome p with
  | none => closing x p
  | some _ => closed x

/-- What a plugin can rely on. `view` is what there is of a producer besides what it has published. -/
structure Reliable (view : σ → φ) where
  /-- This is so at any time. -/
  sound : φ → Prop
  /-- It has been started. -/
  started : φ → Prop
  /-- It has been closed. -/
  closed : φ → Prop
  /-- `start()` is suspended. -/
  starting : φ → π → Prop
  /-- `close()` is suspended. -/
  closing : φ → π → Prop
  /-- `publish()` or `publish_batch()` is suspended. -/
  sending : π → Prop
  sound_fresh : sound (view P.fresh)
  sound_next : ∀ {i e s s' p p'}, sound (view s) → P.resume i s p e = some (s', p') → sound (view s')
  start : ∀ {i e s p}, P.starts e → P.resume i P.fresh P.idle e = some (s, p) →
    P.AfterStart started starting (view s) p
  start_next : ∀ {i e s s' p p'}, starting (view s) p → P.resume i s p e = some (s', p') →
    P.AfterStart started starting (view s') p'
  close : ∀ {i s s' p'}, sound (view s) → P.resume i s P.idle P.close = some (s', p') →
    P.AfterClose closed closing (view s') p'
  close_next : ∀ {i e s s' p p'}, closing (view s) p → P.resume i s p e = some (s', p') →
    P.AfterClose closed closing (view s') p'
  publish : ∀ {i e s s' p'}, P.publishes e → P.resume i s P.idle e = some (s', p') →
    view s' = view s ∧ (P.outcome p' = none → sending p')
  publish_next : ∀ {i e s s' p p'}, sending p → P.resume i s p e = some (s', p') →
    view s' = view s ∧ (P.outcome p' = none → sending p')

section Reliable

variable {P} {view : σ → φ} (R : P.Reliable view)

namespace Reliable

/-- What is known of the plugin. -/
structure Known (s : PluginShared σ) : Prop where
  sound : ∀ own, R.sound (view (s.producers own))
  ready : s.status = .ready → ∃ own, s.producer = some own ∧ R.started (view (s.producers own))
  stopped : s.status = .stopped → ∀ own, s.producer = some own → R.closed (view (s.producers own))

/-- What is known of a call. -/
def Suspended (s : PluginShared σ) : PluginTask π → Prop
  | .starting own p =>
    s.status = .initialized ∧ s.producer = some own ∧ R.starting (view (s.producers own)) p
  | .closing own p =>
    s.status = .stopping ∧ s.producer = some own ∧ R.closing (view (s.producers own)) p
  | .publishing _ p => R.sending p
  | .idle | .ended _ => True

/-- The plugin is the same, and so are the producers, apart from what has been published. -/
structure Same (view : σ → φ) (s s' : PluginShared σ) : Prop where
  status : s'.status = s.status
  producer : s'.producer = s.producer
  producers : ∀ own, view (s'.producers own) = view (s.producers own)

variable {R} {s s' : PluginShared σ} {t t' : PluginTask π} {own i : ℕ} {p : π} {e : ε} {x : σ}

theorem Same.put (h : view x = view (s.producers own)) : Same view s (s.put own x) where
  status := rfl
  producer := rfl
  producers own' := by
    by_cases hown : own' = own
    · subst hown
      simp [h]
    · simp [Function.update_of_ne hown]

theorem Known.same (hK : R.Known s) (h : Same view s s') : R.Known s' where
  sound own := (h.producers own).symm ▸ hK.sound own
  ready hready := by
    obtain ⟨own, hown, hstarted⟩ := hK.ready (h.status.symm.trans hready)
    exact ⟨own, h.producer.trans hown, (h.producers own).symm ▸ hstarted⟩
  stopped hstopped own hown := by
    have hclosed := hK.stopped (h.status.symm.trans hstopped) own (h.producer.symm.trans hown)
    exact (h.producers own).symm ▸ hclosed

theorem Suspended.same (ht : R.Suspended s t) (h : Same view s s') : R.Suspended s' t := by
  cases t with
  | idle | ended | publishing => exact ht
  | starting own p =>
    obtain ⟨hstatus, hown, hp⟩ := ht
    exact ⟨h.status.trans hstatus, h.producer.trans hown, (h.producers own).symm ▸ hp⟩
  | closing own p =>
    obtain ⟨hstatus, hown, hp⟩ := ht
    exact ⟨h.status.trans hstatus, h.producer.trans hown, (h.producers own).symm ▸ hp⟩

/-- Whoever only publishes is not disturbed. -/
theorem Suspended.of_not_manages (ht : R.Suspended s t) (hmanages : ¬ t.manages) :
    R.Suspended s' t := by
  cases t with
  | idle | ended | publishing => exact ht
  | starting | closing => exact absurd trivial hmanages

/-! One step. -/

theorem known_afterStart (hsound : ∀ own, R.sound (view (s.producers own)))
    (hstatus : s.status = .initialized) (hown : s.producer = some own)
    (h : P.AfterStart R.started R.starting (view (s.producers own)) p) :
    R.Known (P.afterStart own s p).1 ∧
      R.Suspended (P.afterStart own s p).1 (P.afterStart own s p).2 := by
  unfold AfterStart at h
  unfold afterStart
  cases ho : P.outcome p with
  | none =>
    rw [ho] at h
    refine ⟨⟨hsound, fun hready => ?_, fun hstopped => ?_⟩, hstatus, hown, h⟩
    · cases hstatus.symm.trans hready
    · cases hstatus.symm.trans hstopped
  | some o =>
    cases o with
    | none =>
      rw [ho] at h
      exact ⟨⟨hsound, fun _ => ⟨own, hown, h⟩, nofun⟩, trivial⟩
    | some x =>
      dsimp only
      split_ifs with hx
      · exact ⟨⟨hsound, nofun, nofun⟩, trivial⟩
      · refine ⟨⟨hsound, fun hready => ?_, fun hstopped => ?_⟩, trivial⟩
        · cases hstatus.symm.trans hready
        · cases hstatus.symm.trans hstopped

theorem known_afterClose (hsound : ∀ own, R.sound (view (s.producers own)))
    (hstatus : s.status = .stopping) (hown : s.producer = some own)
    (h : P.AfterClose R.closed R.closing (view (s.producers own)) p) :
    R.Known (P.afterClose own s p).1 ∧
      R.Suspended (P.afterClose own s p).1 (P.afterClose own s p).2 := by
  unfold AfterClose at h
  unfold afterClose
  cases ho : P.outcome p with
  | none =>
    rw [ho] at h
    refine ⟨⟨hsound, fun hready => ?_, fun hstopped => ?_⟩, hstatus, hown, h⟩
    · cases hstatus.symm.trans hready
    · cases hstatus.symm.trans hstopped
  | some x =>
    rw [ho] at h
    refine ⟨⟨hsound, nofun, fun _ own' hown' => ?_⟩, trivial⟩
    obtain rfl : own = own' := Option.some.inj (hown.symm.trans hown')
    exact h

/-- A producer keeps what holds of it at any time. -/
theorem sound_put (h : ∀ own, R.sound (view (s.producers own))) {p' : π}
    (hresume : P.resume i (s.producers own) p e = some (x, p')) (own' : ℕ) :
    R.sound (view ((s.put own x).producers own')) := by
  by_cases hown : own' = own
  · subst hown
    simpa using R.sound_next (h own') hresume
  · simpa [Function.update_of_ne hown] using h own'

/-- A producer that has been constructed is one of them. -/
theorem sound_construct (h : ∀ own, R.sound (view (s.producers own))) (own : ℕ) :
    R.sound (view ((s.construct P.fresh).producers own)) := by
  by_cases hown : own = s.made
  · subst hown
    simpa using R.sound_fresh
  · simpa [Function.update_of_ne hown] using h own

/-- A producer runs, and what is known of it afterwards is known of it in its place. -/
theorem exists_of_run {after : PluginShared σ → π → PluginShared σ × PluginTask π}
    {r : PluginShared σ × PluginTask π} (h : P.run i own s p e after = some r) :
    ∃ x p', P.resume i (s.producers own) p e = some (x, p') ∧ r = after (s.put own x) p' ∧
      (s.put own x).producers own = x := by
  obtain ⟨⟨x, p'⟩, hresume, rfl⟩ := Option.map_eq_some_iff.mp h
  exact ⟨x, p', hresume, rfl, Function.update_self ..⟩

/-- **Publishing** disturbs nobody. -/
theorem same_of_publish {r : PluginShared σ × PluginTask π}
    (hlaw : ∀ {x p'}, P.resume i (s.producers own) p e = some (x, p') →
      view x = view (s.producers own) ∧ (P.outcome p' = none → R.sending p'))
    (h : P.run i own s p e (P.afterPublish own) = some r) :
    Same view s r.1 ∧ R.Suspended r.1 r.2 ∧ ¬ r.2.manages := by
  obtain ⟨x, p', hresume, rfl, -⟩ := exists_of_run h
  obtain ⟨hview, hsending⟩ := hlaw hresume
  unfold afterPublish
  cases ho : P.outcome p' with
  | none => exact ⟨Same.put hview, hsending ho, id⟩
  | some o => exact ⟨Same.put hview, trivial, id⟩

/-- What an event asks of its caller. -/
def Proper (P : ProducerClass σ π ε) : PluginEv ε → Prop
  | .initializePlugin e => P.starts e
  | .publish e | .publishWith _ e => P.publishes e
  | .shutdown | .resume _ => True

/-- The event is a call of `initialize()` or `shutdown()`. -/
def Manages : PluginEv ε → Prop
  | .initializePlugin _ | .shutdown => True
  | _ => False

/-- **One step**: what is known is kept, and a call that only publishes disturbs nobody. -/
theorem step {ev : PluginEv ε} {r : PluginShared σ × PluginTask π} (hK : R.Known s)
    (ht : R.Suspended s t) (hproper : Proper P ev) (h : P.pluginResume i s t ev = some r) :
    R.Known r.1 ∧ R.Suspended r.1 r.2 ∧
      (t.manages ∨ Manages ev ∨ Same view s r.1 ∧ ¬ r.2.manages) := by
  have hpublish : ∀ {r : PluginShared σ × PluginTask π},
      Same view s r.1 ∧ R.Suspended r.1 r.2 ∧ ¬ r.2.manages →
      R.Known r.1 ∧ R.Suspended r.1 r.2 ∧
        (t.manages ∨ Manages ev ∨ Same view s r.1 ∧ ¬ r.2.manages) := by
    rintro r ⟨hsame, ht', hmanages⟩
    exact ⟨hK.same hsame, ht', .inr (.inr ⟨hsame, hmanages⟩)⟩
  cases t with
  | ended x => cases h
  | idle =>
    cases ev with
    | resume e => cases h
    | initializePlugin e =>
      obtain ⟨x, p', hresume, rfl, hput⟩ := exists_of_run h
      have hfresh : P.resume i P.fresh P.idle e = some (x, p') := by
        simpa using hresume
      obtain ⟨hK', ht'⟩ := known_afterStart (R := R)
        (s := { s.construct P.fresh with status := .initialized }.put s.made x)
        (sound_put (s := { s.construct P.fresh with status := .initialized })
          (sound_construct hK.sound) hresume) rfl rfl (hput.symm ▸ R.start hproper hfresh)
      exact ⟨hK', ht', .inr (.inl trivial)⟩
    | shutdown =>
      have h : P.shutdown i s = some r := h
      unfold shutdown at h
      split at h
      · rename_i own hown
        obtain ⟨x, p', hresume, rfl, hput⟩ := exists_of_run h
        obtain ⟨hK', ht'⟩ := known_afterClose (R := R) (s := { s with status := .stopping }.put own x)
          (sound_put hK.sound hresume) rfl hown (hput.symm ▸ R.close (hK.sound own) hresume)
        exact ⟨hK', ht', .inr (.inl trivial)⟩
      · rename_i hnone
        obtain rfl := Option.some.inj h
        refine ⟨⟨hK.sound, nofun, fun _ own hown => ?_⟩, trivial, .inr (.inl trivial)⟩
        have hown : s.producer = some own := hown
        cases hnone.symm.trans hown
    | publish e =>
      have h : P.publish i s e = some r := h
      unfold ProducerClass.publish at h
      cases hget : getProducer s with
      | error x =>
        rw [hget] at h
        obtain rfl := Option.some.inj h
        exact ⟨hK, trivial, .inr (.inr ⟨⟨rfl, rfl, fun _ => rfl⟩, id⟩)⟩
      | ok own =>
        rw [hget] at h
        exact hpublish (same_of_publish (R.publish hproper) h)
    | publishWith own e =>
      have h : (if own < s.made then P.run i own s P.idle e (P.afterPublish own) else none) =
          some r := h
      split_ifs at h
      exact hpublish (same_of_publish (R.publish hproper) h)
  | starting own p =>
    cases ev with
    | resume e =>
      obtain ⟨hstatus, hown, hp⟩ := ht
      obtain ⟨x, p', hresume, rfl, hput⟩ := exists_of_run h
      have hafter := R.start_next hp hresume
      obtain ⟨hK', ht'⟩ := known_afterStart (R := R) (s := s.put own x) (sound_put hK.sound hresume)
        hstatus hown (hput.symm ▸ hafter)
      exact ⟨hK', ht', .inl trivial⟩
    | _ => cases h
  | closing own p =>
    cases ev with
    | resume e =>
      obtain ⟨hstatus, hown, hp⟩ := ht
      obtain ⟨x, p', hresume, rfl, hput⟩ := exists_of_run h
      have hafter := R.close_next hp hresume
      obtain ⟨hK', ht'⟩ := known_afterClose (R := R) (s := s.put own x) (sound_put hK.sound hresume)
        hstatus hown (hput.symm ▸ hafter)
      exact ⟨hK', ht', .inl trivial⟩
    | _ => cases h
  | publishing own p =>
    cases ev with
    | resume e => exact hpublish (same_of_publish (R.publish_next ht) h)
    | _ => cases h

/-! Whole runs. -/

variable {l : Loop (PluginShared σ) (PluginTask π)}

theorem proper_of_serial {ev : PluginEv ε} (h : P.Serial l i ev) : Proper P ev := by
  cases ev with
  | initializePlugin e => exact h.1
  | publish | publishWith => exact h
  | shutdown | resume => trivial

theorem free_of_serial {ev : PluginEv ε} (h : P.Serial l i ev) (hev : Manages ev) (j : ℕ) :
    ¬ (l.task j).manages := by
  cases ev with
  | initializePlugin e => exact h.2 j
  | shutdown => exact h j
  | publish | publishWith | resume => cases hev

variable (R) in
/-- **Every run** keeps what is known, and one call at most manages the plugin. -/
theorem known_of_reach (h : Reach P.pluginResume P.Serial P.registered l) :
    R.Known l.shared ∧ (∀ j, R.Suspended l.shared (l.task j)) ∧
      ∀ i j, (l.task i).manages → (l.task j).manages → i = j := by
  refine h.invariant (I := fun l => R.Known l.shared ∧ (∀ j, R.Suspended l.shared (l.task j)) ∧
    ∀ i j, (l.task i).manages → (l.task j).manages → i = j) ?_ ?_
  · exact ⟨⟨fun _ => R.sound_fresh, nofun, nofun⟩, fun _ => trivial, fun _ _ hi => hi.elim⟩
  · rintro l i ev s t - ⟨hK, htasks, halone⟩ hok hstep
    obtain ⟨hK', ht', hkind⟩ := step hK (htasks i) (proper_of_serial hok) hstep
    -- who manages apart from the call that has moved
    have hothers : (l.task i).manages ∨ Manages ev → ∀ j ≠ i, ¬ (l.task j).manages := by
      rintro (hi | hev) j hj hmanages
      · exact hj (halone j i hmanages hi)
      · exact free_of_serial hok hev j hmanages
    dsimp only at hK' ht' hkind ⊢
    refine ⟨hK', fun j => ?_, fun j k hj hk => ?_⟩
    · by_cases hj : j = i
      · subst hj
        simpa using ht'
      · rw [Function.update_of_ne hj]
        rcases hkind with hi | hev | ⟨hsame, -⟩
        · exact (htasks j).of_not_manages (hothers (.inl hi) j hj)
        · exact (htasks j).of_not_manages (hothers (.inr hev) j hj)
        · exact (htasks j).same hsame
    · by_cases hji : j = i
      · by_cases hki : k = i
        · exact hji.trans hki.symm
        · subst hji
          rw [Function.update_of_ne hki] at hk
          rw [Function.update_self] at hj
          rcases hkind with hi | hev | ⟨-, hnot⟩
          · exact absurd hk (hothers (.inl hi) k hki)
          · exact absurd hk (hothers (.inr hev) k hki)
          · exact absurd hj hnot
      · rw [Function.update_of_ne hji] at hj
        by_cases hki : k = i
        · subst hki
          rw [Function.update_self] at hk
          rcases hkind with hi | hev | ⟨-, hnot⟩
          · exact absurd hj (hothers (.inl hi) j hji)
          · exact absurd hj (hothers (.inr hev) j hji)
          · exact absurd hk hnot
        · rw [Function.update_of_ne hki] at hk
          exact halone j k hj hk

/-- **What is handed out can be used**, and after `shutdown()` nothing can. -/
theorem dependable {usable refuses : σ → Prop} (husable : ∀ x, R.started (view x) → usable x)
    (hrefuses : ∀ x, R.closed (view x) → refuses x)
    (h : Reach P.pluginResume P.Serial P.registered l) : Dependable usable refuses l.shared := by
  obtain ⟨hK, -, -⟩ := R.known_of_reach h
  have hget : ∀ {own}, getProducer l.shared = .ok own →
      l.shared.producer = some own ∧ l.shared.status = .ready := by
    intro own hget
    unfold getProducer at hget
    split at hget
    · rename_i hown hstatus
      obtain rfl := Except.ok.inj hget
      exact ⟨hown, hstatus⟩
    · cases hget
  refine ⟨fun own hown => ?_, ?_, fun hstopped => ⟨fun own hown => ?_, fun own hown => ?_⟩⟩
  · obtain ⟨hproducer, hready⟩ := hget hown
    obtain ⟨own', hown', hstarted⟩ := hK.ready hready
    obtain rfl : own = own' := Option.some.inj (hproducer.symm.trans hown')
    exact husable _ hstarted
  · unfold pluginHealth
    constructor
    · intro hhealth
      split_ifs at hhealth with hnot
      rw [not_or, not_not] at hnot
      obtain ⟨own, hown⟩ := Option.ne_none_iff_exists'.mp hnot.1
      exact ⟨own, by rw [getProducer, hown, hnot.2]⟩
    · rintro ⟨own, hown⟩
      obtain ⟨hproducer, hready⟩ := hget hown
      simp [hproducer, hready]
  · cases hstopped.symm.trans (hget hown).2
  · exact hrefuses _ (hK.stopped hstopped own hown)

end Reliable

end Reliable

end ProducerClass

end OpenframeAdapters.Queue
