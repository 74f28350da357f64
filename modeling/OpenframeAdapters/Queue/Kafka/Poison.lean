import OpenframeAdapters.Queue.Kafka.Consumer

/-!
# Messages that do not deserialise

The loop of `KafkaConsumer.subscribe()` binds its local `message` to the
deserialised value inside the `try` whose `except` clause passes `message` to
`nack()`. Where deserialising itself raises, the local is unbound, or still bound to
the message before.

## What is proved

* `contained_iff` — in a session that nobody closes and whose driver raises nothing,
  every message is attempted and settled as itself if and only if every value taken
  so far deserialises. Headers that do not decode and handlers that raise do no harm.
* `not_contained` — the first message is poisonous, and ends the session.
-/

namespace OpenframeAdapters.Queue.Kafka

open Python OpenframeAdapters.Core

variable {P B T Ctx : Type} {cd : Codec B T Ctx} {offsets : P → ℕ} {e : Ev P B Ctx}
  {s s' : Shared P B T Ctx} {p : Task P Ctx} {l : Loop (Shared P B T Ctx) (Task P Ctx)}

/-- The message whose handler is running. -/
def Task.inHand {P Ctx : Type} : Task P Ctx → List MsgId
  | .handling _ m _ => [m]
  | _ => []

/-- The session of task `0` has come to no harm by the messages it has taken. -/
structure Contained (l : Loop (Shared P B T Ctx) (Task P Ctx)) : Prop where
  /-- It goes on. -/
  goesOn : l.task 0 = .idle ∨ (l.task 0).active
  /-- The messages were taken one by one. -/
  inOrder : ∃ n, deliveries l.shared.journal = numbered 0 n
  /-- Each was settled once, as itself and in this order, but for the one in hand. -/
  settled : (l.task 0).inHand ++ settledIds l.shared.journal = deliveries l.shared.journal

/-- One session, which nobody closes, and in which only a handler raises, and only an
`Exception`. -/
def Undisturbed : Guard (Shared P B T Ctx) (Task P Ctx) (Ev P B Ctx) := fun l i e =>
  i = 0 ∧ e ≠ .close ∧ (∀ ctx x, e = .subscribe ctx x → x = none) ∧
    ∀ x, e = .raise x → x.isa .exception = true ∧ ∃ v m token, l.task i = .handling v m token

/-- If the entry is about a message taken, its value deserialises. -/
def deserialises (cd : Codec B T Ctx) : Entry (Record P B) (T × Ctx) → Bool
  | .delivered _ r _ => (cd.deserialise r.value).isSome
  | _ => true

/-- Every value taken so far deserialises. -/
def AllDeserialise (cd : Codec B T Ctx) (j : Journal (Record P B) (T × Ctx)) : Prop :=
  ∀ x ∈ j, deserialises cd x = true

instance (cd : Codec B T Ctx) (j : Journal (Record P B) (T × Ctx)) :
    Decidable (AllDeserialise cd j) :=
  inferInstanceAs (Decidable (∀ x ∈ j, deserialises cd x = true))

@[simp] theorem allDeserialise_delivered {m : MsgId} {r : Record P B} {b : Bool}
    {j : Journal (Record P B) (T × Ctx)} : AllDeserialise cd (.delivered m r b :: j) ↔
      (cd.deserialise r.value).isSome = true ∧ AllDeserialise cd j :=
  List.forall_mem_cons

theorem allDeserialise_cons {x : Entry (Record P B) (T × Ctx)}
    {j : Journal (Record P B) (T × Ctx)} (hx : deserialises cd x = true) :
    AllDeserialise cd (x :: j) ↔ AllDeserialise cd j :=
  List.forall_mem_cons.trans (and_iff_right hx)

/-! ### The invariant -/

/-- The loop of the session runs, and `message` is bound to a message it has taken. -/
structure Looping (s : Shared P B T Ctx) (v : Locals Ctx) : Prop where
  /-- Nobody has closed the consumer. -/
  running : s.running = true
  /-- `_consumer` refers to the client the loop runs over. -/
  consumer : s.consumer = some v.iterator
  /-- The client has not been stopped. -/
  stopped : (s.client v.iterator).stopped = false
  /-- `count` counts the messages. -/
  count : deliveries s.journal = numbered 0 v.count
  /-- `message` is bound to one of them. -/
  message : ∀ m, v.message = some m → m.seq < v.count

/-- What is known of the session of task `0`, suspended at `p`. -/
def PoisonInv (cd : Codec B T Ctx) (s : Shared P B T Ctx) : Task P Ctx → Prop
  | .idle => s.journal = []
  | .starting own _ => s.consumer = some own ∧ (s.client own).stopped = false ∧
      s.journal = [.opened 0 own]
  | .polling v | .committing v _ =>
      Looping s v ∧ (settledIds s.journal = deliveries s.journal ↔ AllDeserialise cd s.journal)
  | .handling v m _ => (Looping s v ∧ v.message = some m) ∧
      (m :: settledIds s.journal = deliveries s.journal ↔ AllDeserialise cd s.journal)
  | .stopping _ | .ended _ =>
      (∃ n, deliveries s.journal = numbered 0 n) ∧ ¬ AllDeserialise cd s.journal
  | .closing | .closed | .closeFailed _ => False

/-- The invariant decides whether the session has come to harm. -/
theorem PoisonInv.contained (h : PoisonInv cd l.shared (l.task 0)) :
    Contained l ↔ AllDeserialise cd l.shared.journal := by
  constructor
  · intro hc
    have hgo := hc.goesOn
    have hset := hc.settled
    generalize l.task 0 = p at h hgo hset
    cases p with
    | idle => simp [show l.shared.journal = [] from h, AllDeserialise]
    | starting own ctx => simp [h.2.2, AllDeserialise, deserialises]
    | polling v => exact h.2.mp hset
    | committing v os => exact h.2.mp hset
    | handling v m token => exact h.2.mp hset
    | stopping res => simp [Task.active] at hgo
    | ended res => simp [Task.active] at hgo
    | closing => exact h.elim
    | closed | closeFailed => exact h.elim
  · intro hall
    suffices h' : (l.task 0 = .idle ∨ (l.task 0).active) ∧
        (∃ n, deliveries l.shared.journal = numbered 0 n) ∧
        (l.task 0).inHand ++ settledIds l.shared.journal = deliveries l.shared.journal from
      ⟨h'.1, h'.2.1, h'.2.2⟩
    generalize l.task 0 = p at h
    cases p with
    | idle => exact ⟨.inl rfl, ⟨0, by rw [show l.shared.journal = [] from h]; rfl⟩,
        by rw [show l.shared.journal = [] from h]; rfl⟩
    | starting own ctx => exact ⟨.inr trivial, ⟨0, by rw [h.2.2]; rfl⟩, by rw [h.2.2]; rfl⟩
    | polling v => exact ⟨.inr trivial, ⟨_, h.1.count⟩, h.2.mpr hall⟩
    | committing v os => exact ⟨.inr trivial, ⟨_, h.1.count⟩, h.2.mpr hall⟩
    | handling v m token => exact ⟨.inr trivial, ⟨_, h.1.1.count⟩, h.2.mpr hall⟩
    | stopping res => exact absurd hall h.2
    | ended res => exact absurd hall h.2
    | closing => exact h.elim
    | closed | closeFailed => exact h.elim

/-! ### The invariant is kept -/

/-- The loop ends because of a message that does not deserialise. -/
theorem poisonInv_teardown {n : ℕ} (hd : deliveries s.journal = numbered 0 n)
    (h : ¬ AllDeserialise cd s.journal) (res : Outcome) :
    PoisonInv cd (teardown 0 s res).1 (teardown 0 s res).2 := by
  unfold teardown
  split
  · refine ⟨⟨n, hd⟩, fun hall => h ?_⟩
    exact (allDeserialise_cons (by rfl)).mp hall
  · exact ⟨⟨n, hd⟩, h⟩

/-- `nack()` of a message whose value deserialised. -/
theorem poisonInv_nack {v : Locals Ctx} {m : MsgId} (hloop : Looping s v)
    (hm : v.message = some m)
    (hset : m :: settledIds s.journal = deliveries s.journal ↔ AllDeserialise cd s.journal) :
    PoisonInv cd (nack 0 s v).1 (nack 0 s v).2 := by
  simp only [nack, hm]
  refine ⟨⟨hloop.running, hloop.consumer, hloop.stopped, hloop.count, hloop.message⟩, ?_⟩
  simp only [Shared.record, deliveries_settled, settledIds_settled]
  rw [allDeserialise_cons (by rfl)]
  exact hset

/-- `nack()` of a message whose value did not deserialise. -/
theorem poisonInv_nack_poison {v : Locals Ctx} {m : MsgId} (hloop : Looping s v)
    (hm : deliveries s.journal = m :: numbered 0 m.seq) (hlt : ∀ m', v.message = some m' → m' ≠ m)
    (hall : ¬ AllDeserialise cd s.journal) : PoisonInv cd (nack 0 s v).1 (nack 0 s v).2 := by
  unfold nack
  split
  next m' hm' =>
    refine ⟨⟨hloop.running, hloop.consumer, hloop.stopped, hloop.count, hloop.message⟩, ?_⟩
    simp only [Shared.record, deliveries_settled, settledIds_settled]
    rw [allDeserialise_cons (by rfl)]
    refine iff_of_false (fun h => ?_) hall
    rw [hm] at h
    exact hlt m' hm' (List.cons.inj h).1
  next => exact poisonInv_teardown hloop.count hall _

/-- `ack()` of the message in hand. -/
theorem poisonInv_ack {v : Locals Ctx} {m : MsgId} (hloop : Looping s v)
    (hset : m :: settledIds s.journal = deliveries s.journal ↔ AllDeserialise cd s.journal) :
    PoisonInv cd (ack 0 s v m).1 (ack 0 s v m).2 := by
  have hc : (s.record (.settled 0 .ack m)).consumer = some v.iterator := hloop.consumer
  simp only [ack, hc]
  refine ⟨⟨hloop.running, hloop.consumer, hloop.stopped, hloop.count, hloop.message⟩, ?_⟩
  simp only [Shared.record, deliveries_settled, settledIds_settled]
  rw [allDeserialise_cons (by rfl)]
  exact hset

/-- The loop has taken one more message. -/
theorem Looping.taken {v : Locals Ctx} (h : Looping s v) (r : Record P B) :
    Looping (s.record (.delivered ⟨0, v.count⟩ r s.running)) { v with count := v.count + 1 } where
  running := h.running
  consumer := h.consumer
  stopped := h.stopped
  count := by simp [Shared.record, numbered, h.count]
  message m hm := Nat.lt_succ_of_lt (h.message m hm)

/-- Nothing about the loop is changed by an entry that is not about a delivery, nor by
binding `message` to the message taken last. -/
theorem Looping.noted {v : Locals Ctx} (h : Looping s v) {x : Entry (Record P B) (T × Ctx)}
    (hx : deliveries (x :: s.journal) = deliveries s.journal) {w : Locals Ctx}
    (hi : w.iterator = v.iterator) (hc : w.count = v.count)
    (hm : ∀ m, w.message = some m → m.seq < v.count) : Looping (s.record x) w where
  running := h.running
  consumer := hi ▸ h.consumer
  stopped := hi ▸ h.stopped
  count := by rw [hc, ← h.count]; exact hx
  message m hw := hc ▸ hm m hw

/-- The body of the loop, for the next record. -/
theorem poisonInv_takeMessage {v : Locals Ctx} (r : Record P B) (hloop : Looping s v)
    (hset : settledIds s.journal = deliveries s.journal ↔ AllDeserialise cd s.journal) :
    PoisonInv cd (takeMessage cd 0 s v r).1 (takeMessage cd 0 s v r).2 := by
  have htaken := hloop.taken r
  have hlast : ∀ m, some (⟨0, v.count⟩ : MsgId) = some m → m.seq < v.count + 1 := by
    rintro _ ⟨⟩
    exact Nat.lt_succ_self _
  unfold takeMessage
  simp only [
    show (s.record (.delivered ⟨0, v.count⟩ r s.running)).running = true from hloop.running,
    if_true]
  cases hval : cd.deserialise r.value with
  | none =>
    -- the local `message` still names an earlier message, or none
    refine poisonInv_nack_poison (m := ⟨0, v.count⟩)
      (htaken.noted rfl rfl rfl htaken.message) ?_ ?_ ?_
    · simp [Shared.record, hloop.count]
    · rintro m hm rfl
      exact absurd (hloop.message _ hm) (Nat.lt_irrefl _)
    · simp [Shared.record, AllDeserialise, deserialises, hval]
  | some value =>
    have hset' : ⟨0, v.count⟩ :: settledIds s.journal = ⟨0, v.count⟩ :: deliveries s.journal ↔
        AllDeserialise cd (.delivered ⟨0, v.count⟩ r s.running :: s.journal) := by
      rw [allDeserialise_delivered, hval, List.cons_inj_right]
      simpa using hset
    dsimp only
    split
    · refine ⟨⟨htaken.noted rfl rfl rfl hlast, rfl⟩, ?_⟩
      simp only [Shared.record, deliveries_invoked, settledIds_invoked, deliveries_delivered,
        settledIds_delivered]
      rw [allDeserialise_cons (by rfl)]
      exact hset'
    · refine poisonInv_nack (htaken.noted rfl rfl rfl hlast) rfl ?_
      simp only [Shared.record, deliveries_failed, settledIds_failed, deliveries_delivered,
        settledIds_delivered]
      rw [allDeserialise_cons (by rfl)]
      exact hset'

/-- **One step** of an undisturbed session keeps the invariant. -/
theorem PoisonInv.step [DecidableEq P] {r : Shared P B T Ctx × Task P Ctx}
    (h : PoisonInv cd s p) (hs : Step cd 0 s p e r) (hclose : e ≠ .close)
    (hnew : ∀ ctx x, e = .subscribe ctx x → x = none)
    (hraise : ∀ x, e = .raise x → x.isa .exception = true ∧ ∃ v m token, p = .handling v m token) :
    PoisonInv cd r.1 r.2 := by
  cases hs with
  | @subscribe ctx =>
    refine ⟨rfl, by simp [Shared.construct, Shared.setClient, Shared.record], ?_⟩
    simp [Shared.construct, Shared.setClient, Shared.record, show s.journal = [] from h]
  | notConstructed => exact absurd (hnew _ _ rfl) nofun
  | started =>
    obtain ⟨hc, hst, hj⟩ := h
    simp only [startLoop, Shared.setClient, hc]
    refine ⟨⟨rfl, rfl, by simpa using hst, by simp [hj, deliveries, numbered], nofun⟩, ?_⟩
    simp [hj, settledIds, settlements, deliveries, AllDeserialise, deserialises]
  | message =>
    refine poisonInv_takeMessage _ ⟨h.1.running, h.1.consumer, ?_, h.1.count, h.1.message⟩ h.2
    simpa [Shared.advance, Shared.setClient] using h.1.stopped
  | stop hst => rw [h.1.stopped] at hst; cases hst
  | handled =>
    refine poisonInv_ack (h.1.1.noted rfl rfl rfl h.1.1.message) ?_
    simp only [Shared.record, settledIds_returned, deliveries_returned]
    rw [allDeserialise_cons (by rfl)]
    exact h.2
  | handlerFailed =>
    refine poisonInv_nack (h.1.1.noted rfl rfl rfl h.1.1.message) h.1.2 ?_
    simp only [Shared.record, settledIds_failed, deliveries_failed]
    rw [allDeserialise_cons (by rfl)]
    exact h.2
  | handlerCancelled hx => rw [(hraise _ rfl).1] at hx; cases hx
  | committed =>
    exact ⟨⟨h.1.running, h.1.consumer, h.1.stopped, h.1.count, h.1.message⟩, h.2⟩
  | notStarted | iteratorRaised | commitFailed | commitCancelled | stopFailed | stopCancelled =>
    obtain ⟨-, v, m, token, hp⟩ := hraise _ rfl
    cases hp
  | stopped => exact h
  | close => exact absurd rfl hclose
  | closed | closeCancelled => exact h.elim

variable [DecidableEq P]

theorem poisonInv_of_reach (h : Reach (resume cd) Undisturbed (fresh offsets) l) :
    PoisonInv cd l.shared (l.task 0) := by
  refine h.invariant (I := fun l => PoisonInv cd l.shared (l.task 0)) rfl ?_
  intro l i e s p _ hI hok hp
  obtain ⟨rfl, hclose, hnew, hraise⟩ := hok
  simpa using hI.step (step_of_resume hp) hclose hnew hraise

/-- **Containment, where it holds**: in a session that nobody closes and whose driver raises
nothing, whatever the handler does and whichever headers do not decode, the session goes on and
has settled each message once, as itself and in order, if and only if the value of every
message it has taken deserialises. -/
theorem contained_iff (h : Reach (resume cd) Undisturbed (fresh offsets) l) :
    Contained l ↔ AllDeserialise cd l.shared.journal :=
  (poisonInv_of_reach h).contained

omit [DecidableEq P] in
theorem undisturbed_of_not_raise (he : e ≠ .close) (hs : ∀ ctx x, e = .subscribe ctx x → x = none)
    (hr : ∀ x, e ≠ .raise x) : Undisturbed l 0 e :=
  ⟨rfl, he, hs, fun x hx => absurd hx (hr x)⟩

/-- Only `true` deserialises. -/
def unpackTrue : Codec Bool Unit Unit :=
  ⟨fun b => if b then some () else none, fun _ => some "", fun _ => some ()⟩

/-- The handler raises for the first message and returns for the second. -/
def failThenAck : List (ℕ × Ev Unit Bool Unit) :=
  [(0, .subscribe () none), (0, .ok), (0, .message ⟨(), 0, true, []⟩), (0, .raise runtimeError),
    (0, .message ⟨(), 1, true, []⟩), (0, .ok), (0, .ok)]

/-- The handler raises for the first of two messages, the second one is delivered all the same, and the
session is `Contained`. -/
theorem contained_failThenAck :
    ∃ l, (fresh fun _ => 0).run (resume (P := Unit) unpackTrue) failThenAck = some l ∧
      deliveries l.shared.journal = [⟨0, 1⟩, ⟨0, 0⟩] ∧ Contained l := by
  have hadm : Admitted (resume (P := Unit) unpackTrue) Undisturbed (fresh fun _ => 0)
      failThenAck := by
    refine admitted_cons (undisturbed_of_not_raise nofun (by rintro _ _ ⟨⟩; rfl) nofun) rfl ?_
    refine admitted_cons (undisturbed_of_not_raise nofun nofun nofun) rfl ?_
    refine admitted_cons (undisturbed_of_not_raise nofun nofun nofun) rfl ?_
    refine admitted_cons ⟨rfl, nofun, nofun, ?_⟩ rfl ?_
    · rintro _ ⟨⟩
      exact ⟨by decide, _, _, _, rfl⟩
    refine admitted_cons (undisturbed_of_not_raise nofun nofun nofun) rfl ?_
    refine admitted_cons (undisturbed_of_not_raise nofun nofun nofun) rfl ?_
    exact admitted_cons (undisturbed_of_not_raise nofun nofun nofun) rfl trivial
  exact ⟨_, rfl, by decide, (contained_iff (reach_of_run hadm rfl)).mpr (by decide)⟩

/-! ### A message that does not deserialise -/

/-- The first message does not deserialise. -/
def poisonFirst : List (ℕ × Ev Unit Bool Unit) :=
  [(0, .subscribe () none), (0, .ok), (0, .message ⟨(), 0, false, []⟩)]

/-- The second message does not deserialise. -/
def poisonSecond : List (ℕ × Ev Unit Bool Unit) :=
  [(0, .subscribe () none), (0, .ok), (0, .message ⟨(), 0, true, []⟩), (0, .raise runtimeError),
    (0, .message ⟨(), 1, false, []⟩)]

/-- A first message that does not deserialise ends the session with an `UnboundLocalError`; a
second one is settled with the payload of the first. -/
theorem not_contained :
    (∃ l, Reach (resume (P := Unit) unpackTrue) Undisturbed (fresh fun _ => 0) l ∧ ¬ Contained l ∧
      l.task 0 = .stopping (.raised (.raw unboundLocalError) false)) ∧
    ∃ l, Reach (resume (P := Unit) unpackTrue) Undisturbed (fresh fun _ => 0) l ∧ ¬ Contained l ∧
      settledIds l.shared.journal = [⟨0, 0⟩, ⟨0, 0⟩] := by
  constructor
  · have hadm : Admitted (resume (P := Unit) unpackTrue) Undisturbed (fresh fun _ => 0)
        poisonFirst := by
      refine admitted_cons (undisturbed_of_not_raise nofun (by rintro _ _ ⟨⟩; rfl) nofun) rfl ?_
      refine admitted_cons (undisturbed_of_not_raise nofun nofun nofun) rfl ?_
      exact admitted_cons (undisturbed_of_not_raise nofun nofun nofun) rfl trivial
    refine ⟨_, reach_of_run hadm rfl, fun h => ?_, rfl⟩
    rcases h.goesOn with hgo | hgo
    · cases hgo
    · exact hgo
  · have hadm : Admitted (resume (P := Unit) unpackTrue) Undisturbed (fresh fun _ => 0)
        poisonSecond := by
      refine admitted_cons (undisturbed_of_not_raise nofun (by rintro _ _ ⟨⟩; rfl) nofun) rfl ?_
      refine admitted_cons (undisturbed_of_not_raise nofun nofun nofun) rfl ?_
      refine admitted_cons (undisturbed_of_not_raise nofun nofun nofun) rfl ?_
      refine admitted_cons ⟨rfl, nofun, nofun, ?_⟩ rfl ?_
      · rintro _ ⟨⟩
        exact ⟨by decide, _, _, _, rfl⟩
      exact admitted_cons (undisturbed_of_not_raise nofun nofun nofun) rfl trivial
    refine ⟨_, reach_of_run hadm rfl, fun h => ?_, by decide⟩
    exact absurd h.settled (by decide)

end OpenframeAdapters.Queue.Kafka
