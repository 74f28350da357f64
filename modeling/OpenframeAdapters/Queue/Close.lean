import OpenframeAdapters.Queue.Kafka.Close
import OpenframeAdapters.Queue.Nats.Close
import OpenframeAdapters.Queue.Rabbitmq.Close

/-!
# close() against subscribe()

The loop of each consumer looks at `_running` when it has taken a message, but the
start-up sets `_running` and the fields without looking at them, and reads the
fields again after its awaits.

## What is proved

* `stopped_of_lateClose` — for every interleaving in which `close()` begins when
  `subscribe()` is past its start-up, the three consumers keep the promise.
* `not_stopped` — where `close()` lands in the start-up, each of them breaks it: the
  Kafka consumer raises a `TypeError` and leaves its client open, the NATS consumer
  goes on to call handlers, and the RabbitMQ consumer raises an `AttributeError`.
-/

namespace OpenframeAdapters.Queue

open Python OpenframeAdapters.Core

/-- **`close()`, where it stops the consumer**: once it has returned, no handler is called any
more, `subscribe()` ends, raising nothing that `close()` caused, and no connection is open —
provided that it began when `subscribe()` was past its start-up, and that every open connection
was still referred to. -/
theorem stopped_of_lateClose {P B W T Ctx : Type} [DecidableEq P] (kafka : Kafka.Codec B T Ctx)
    (offsets : P → ℕ) (nats : Nats.Codec B T Ctx) (rabbitmq : Rabbitmq.Codec B W T Ctx) :
    (∀ l, Reach (Kafka.resume kafka) Kafka.LateClose (Kafka.fresh offsets) l →
      l.task 1 = .closed → Stopped Kafka.surface (Kafka.resume kafka) Kafka.LateClose l) ∧
    (∀ l, Reach (Nats.resume nats) Nats.LateClose Nats.fresh l →
      l.task 1 = .closed → Stopped Nats.surface (Nats.resume nats) Nats.LateClose l) ∧
    ∀ l, Reach (Rabbitmq.resume rabbitmq) Rabbitmq.LateClose Rabbitmq.fresh l →
      l.task 1 = .closed →
        Stopped Rabbitmq.surface (Rabbitmq.resume rabbitmq) Rabbitmq.LateClose l := by
  refine ⟨fun l hl hcl => ?_, fun l hl hcl => ?_, fun l hl hcl => ?_⟩
  · exact Kafka.closeRule.stopped hl hcl
  · exact Nats.closeRule.stopped hl hcl
  · exact Rabbitmq.closeRule.stopped hl hcl

/-! ### A close() in the loop, and one in the start-up -/

/-- Everything unpacks. -/
def kafkaUnpack : Kafka.Codec Unit Unit Unit := ⟨some, fun _ => some "", fun _ => some ()⟩

/-- Everything unpacks. -/
def natsUnpack : Nats.Codec Unit Unit Unit := ⟨some, fun _ => some ()⟩

/-- Everything unpacks. -/
def rabbitmqUnpack : Rabbitmq.Codec Unit Unit Unit Unit :=
  ⟨some, fun _ => some "", fun _ => some ()⟩

/-- `close()` lands in the handler of the first message. -/
def kafkaLate : List (ℕ × Kafka.Ev Unit Unit Unit) :=
  [(0, .subscribe () none), (0, .ok), (0, .message ⟨(), 0, (), []⟩), (1, .close), (1, .ok)]

/-- `close()` lands in the handler of the first message. -/
def natsLate : List (ℕ × Nats.Ev Unit Unit) :=
  [(0, .subscribe ()), (0, .connected none), (0, .ok), (0, .ok), (0, .message ⟨(), []⟩),
    (1, .close), (1, .ok), (1, .ok)]

/-- `close()` lands in the handler of the first message. -/
def rabbitmqLate : List (ℕ × Rabbitmq.Ev Unit Unit Unit) :=
  [(0, .subscribe ()), (0, .ok), (0, .ok), (0, .ok), (0, .ok), (0, .ok), (0, .message ⟨(), []⟩),
    (1, .close), (1, .ok), (1, .ok)]

/-- After a `close()` that lands in a handler, each of the three consumers is `Stopped`. -/
theorem stopped_late :
    (∃ l, (Kafka.fresh fun _ => 0).run (Kafka.resume (P := Unit) kafkaUnpack) kafkaLate = some l ∧
      Stopped Kafka.surface (Kafka.resume (P := Unit) kafkaUnpack) Kafka.LateClose l) ∧
    (∃ l, Nats.fresh.run (Nats.resume natsUnpack) natsLate = some l ∧
      Stopped Nats.surface (Nats.resume natsUnpack) Nats.LateClose l) ∧
    ∃ l, Rabbitmq.fresh.run (Rabbitmq.resume rabbitmqUnpack) rabbitmqLate = some l ∧
      Stopped Rabbitmq.surface (Rabbitmq.resume rabbitmqUnpack) Rabbitmq.LateClose l := by
  have hstop := stopped_of_lateClose (P := Unit) kafkaUnpack (fun _ => 0) natsUnpack rabbitmqUnpack
  refine ⟨?_, ?_, ?_⟩
  · have hadm : Admitted (Kafka.resume (P := Unit) kafkaUnpack) Kafka.LateClose
        (Kafka.fresh fun _ => 0) kafkaLate := by
      refine admitted_cons ⟨⟨fun _ _ _ => rfl, nofun⟩, nofun⟩ rfl ?_
      iterate 2 refine admitted_cons ⟨⟨nofun, nofun⟩, nofun⟩ rfl ?_
      refine admitted_cons ⟨⟨nofun, fun _ => rfl⟩, fun _ => trivial⟩ rfl ?_
      exact admitted_cons ⟨⟨nofun, nofun⟩, nofun⟩ rfl trivial
    exact ⟨_, rfl, hstop.1 _ (reach_of_run hadm rfl) rfl⟩
  · have hadm : Admitted (Nats.resume natsUnpack) Nats.LateClose Nats.fresh natsLate := by
      refine admitted_cons ⟨⟨fun _ _ => rfl, nofun⟩, nofun⟩ rfl ?_
      iterate 4 refine admitted_cons ⟨⟨nofun, nofun⟩, nofun⟩ rfl ?_
      refine admitted_cons ⟨⟨nofun, fun _ => rfl⟩, fun _ => ⟨trivial, ?_⟩⟩ rfl ?_
      · rintro c ⟨hc, -⟩
        exact congrArg some (Nat.lt_one_iff.mp hc).symm
      refine admitted_cons ⟨⟨nofun, nofun⟩, nofun⟩ rfl ?_
      exact admitted_cons ⟨⟨nofun, nofun⟩, nofun⟩ rfl trivial
    exact ⟨_, rfl, hstop.2.1 _ (reach_of_run hadm rfl) rfl⟩
  · have hadm : Admitted (Rabbitmq.resume rabbitmqUnpack) Rabbitmq.LateClose Rabbitmq.fresh
        rabbitmqLate := by
      refine admitted_cons ⟨⟨fun _ _ => rfl, nofun⟩, nofun⟩ rfl ?_
      iterate 6 refine admitted_cons ⟨⟨nofun, nofun⟩, nofun⟩ rfl ?_
      refine admitted_cons ⟨⟨nofun, fun _ => rfl⟩, fun _ => ⟨trivial, ?_⟩⟩ rfl ?_
      · rintro c ⟨hc, -⟩
        exact congrArg some (Nat.lt_one_iff.mp hc).symm
      refine admitted_cons ⟨⟨nofun, nofun⟩, nofun⟩ rfl ?_
      exact admitted_cons ⟨⟨nofun, nofun⟩, nofun⟩ rfl trivial
    exact ⟨_, rfl, hstop.2.2 _ (reach_of_run hadm rfl) rfl⟩

/-- `close()` lands while the client starts. -/
def kafkaEarly : List (ℕ × Kafka.Ev Unit Unit Unit) :=
  [(0, .subscribe () none), (1, .close), (1, .ok), (0, .ok)]

/-- `close()` lands while the connection is being opened. -/
def natsEarly : List (ℕ × Nats.Ev Unit Unit) :=
  [(0, .subscribe ()), (1, .close), (0, .connected none), (0, .ok), (0, .ok)]

/-- `close()` lands while the QoS is being set. -/
def rabbitmqEarly : List (ℕ × Rabbitmq.Ev Unit Unit Unit) :=
  [(0, .subscribe ()), (0, .ok), (0, .ok), (1, .close), (1, .ok), (1, .ok), (0, .ok)]

/-- **`close()` in the start-up**: the Kafka consumer ends with a `TypeError` and its client
open, the NATS consumer calls the handler of the next message, and the RabbitMQ consumer ends
with an `AttributeError`. -/
theorem not_stopped :
    (∃ l, Reach (Kafka.resume (P := Unit) kafkaUnpack) Kafka.OnePair (Kafka.fresh fun _ => 0) l ∧
      l.task 1 = .closed ∧ l.task 0 = .ended (.raised (.raw typeError) true) ∧
      Kafka.surface.isOpen l.shared 0 ∧
      ¬ Stopped Kafka.surface (Kafka.resume (P := Unit) kafkaUnpack) Kafka.OnePair l) ∧
    (∃ l, Reach (Nats.resume natsUnpack) Nats.OnePair Nats.fresh l ∧
      l.task 1 = .closed ∧ Nats.surface.isOpen l.shared 0 ∧
      ¬ Stopped Nats.surface (Nats.resume natsUnpack) Nats.OnePair l) ∧
    ∃ l, Reach (Rabbitmq.resume rabbitmqUnpack) Rabbitmq.OnePair Rabbitmq.fresh l ∧
      l.task 1 = .closed ∧ l.task 0 = .ended (.raised (.raw attributeError) true) ∧
      ¬ Stopped Rabbitmq.surface (Rabbitmq.resume rabbitmqUnpack) Rabbitmq.OnePair l := by
  refine ⟨?_, ?_, ?_⟩
  · have hadm : Admitted (Kafka.resume (P := Unit) kafkaUnpack) Kafka.OnePair
        (Kafka.fresh fun _ => 0) kafkaEarly :=
      admitted_of_forall (by simp [kafkaEarly, Kafka.OnePair])
    exact ⟨_, reach_of_run hadm rfl, rfl, rfl, rfl,
      fun h => Bool.false_ne_true (h.blameless _ rfl).symm⟩
  · have hadm : Admitted (Nats.resume natsUnpack) Nats.OnePair Nats.fresh natsEarly :=
      admitted_of_forall (by simp [natsEarly, Nats.OnePair])
    refine ⟨_, reach_of_run hadm rfl, rfl, ⟨by decide, rfl⟩, fun h => ?_⟩
    exact nomatch h.quiet 0 (.message ⟨(), []⟩) _ ⟨nofun, nofun⟩ rfl
  · have hadm : Admitted (Rabbitmq.resume rabbitmqUnpack) Rabbitmq.OnePair Rabbitmq.fresh
        rabbitmqEarly := admitted_of_forall (by simp [rabbitmqEarly, Rabbitmq.OnePair])
    exact ⟨_, reach_of_run hadm rfl, rfl, rfl,
      fun h => Bool.false_ne_true (h.blameless _ rfl).symm⟩

end OpenframeAdapters.Queue
