import OpenframeAdapters.Queue.Kafka.Sessions
import OpenframeAdapters.Queue.Rabbitmq.Sessions

/-!
# Sessions of one consumer, side by side

A second `subscribe()` on a consumer that already has an active session replaces what
the fields refer to. From then on the first session settles and closes what belongs to
the second: `KafkaConsumer.ack()` commits the positions of `self._consumer`, and
`RabbitmqConsumer.ack()` acks `self._current_raw_message`, whoever these are of by then.

## What is proved

* `isolated_of_serial` — where a session opens its connection only while no other
  session of the object is active, each one settles what it received and closes what it
  opened; its commits neither go beyond the records it took nor pass a record that some
  other session is handling.
* `not_isolated` — a Kafka session that commits past a record which another session is
  handling, and a RabbitMQ session that acks the message of another one.
-/

namespace OpenframeAdapters.Queue

open Python OpenframeAdapters.Core

/-! ### The commits of a Kafka session -/

namespace Kafka

variable {P B T Ctx : Type} [DecidableEq P] {cd : Codec B T Ctx} {i : ℕ}
  {s s' : Shared P B T Ctx} {p : Task P Ctx} {e : Ev P B Ctx} {r : Shared P B T Ctx × Task P Ctx}
  {ok : Guard (Shared P B T Ctx) (Task P Ctx) (Ev P B Ctx)} {offsets : P → ℕ}
  {l : Loop (Shared P B T Ctx) (Task P Ctx)}

/-- The commits of a session concern that session only. -/
structure CommitsApart (cd : Codec B T Ctx) (l : Loop (Shared P B T Ctx) (Task P Ctx)) : Prop where
  /-- It commits offsets that are one past records it has taken. -/
  taken : ∀ i v os, l.task i = .committing v os → ∀ q o, os q = some o → ∃ m r b,
    .delivered m r b ∈ l.shared.journal ∧ m.session = i ∧ r.partition = q ∧ o = r.offset + 1
  /-- It does not move the offset past a record that some other session is handling. -/
  apart : ∀ i v os, l.task i = .committing v os → ∀ l', l.step (resume cd) i .ok = some l' →
    ∀ j w m token, j ≠ i → l.task j = .handling w m token →
      ∀ r b, .delivered m r b ∈ l.shared.journal →
        l.shared.committed r.partition ≤ r.offset → l'.shared.committed r.partition ≤ r.offset

/-- The positions of client `c` are one past records that session `i` has taken. -/
def Reads (i : ℕ) (s : Shared P B T Ctx) (c : ℕ) : Prop :=
  ∀ q o, (s.client c).position q = some o → ∃ m r b,
    .delivered m r b ∈ s.journal ∧ m.session = i ∧ r.partition = q ∧ o = r.offset + 1

/-- The client that an active session constructed. -/
def Task.own : Task P Ctx → Option ℕ
  | .starting own _ => some own
  | .polling v | .handling v _ _ | .committing v _ => some v.own
  | _ => none

omit [DecidableEq P] in
theorem Reads.quiet {c : ℕ} (h : Reads i s c) (hq : Quiet s s') : Reads i s' c := by
  intro q o hp
  rw [hq.position] at hp
  obtain ⟨m, r, b, hd, hm⟩ := h q o hp
  exact ⟨m, r, b, hq.journal.subset hd, hm⟩

omit [DecidableEq P] in
/-- A client that has just been constructed has read nothing. -/
theorem reads_construct (s : Shared P B T Ctx) (i : ℕ) : Reads i (s.construct i) s.made := by
  intro q o hp
  simp [Shared.construct, Shared.setClient, Shared.record] at hp

/-- The iterator of `c` passes a record that the session takes. -/
theorem Reads.take {c : ℕ} (h : Reads i s c) (n : ℕ) (r : Record P B) (b : Bool) :
    Reads i ((s.advance c r).record (.delivered ⟨i, n⟩ r b)) c := by
  intro q o hp
  have hp : Function.update (s.client c).position r.partition (some (r.offset + 1)) q = some o := by
    simpa [Shared.advance, Shared.setClient, Shared.record] using hp
  by_cases hq : q = r.partition
  · subst hq
    rw [Function.update_self] at hp
    cases hp
    exact ⟨_, r, b, List.mem_cons_self, rfl, rfl, rfl⟩
  · rw [Function.update_of_ne hq] at hp
    obtain ⟨m, r', b', hd, hm⟩ := h q o hp
    exact ⟨m, r', b', .tail _ hd, hm⟩

/-- A session keeps the client it has constructed. -/
theorem Step.own (h : Step cd i s p e r) {c : ℕ} (hc : r.2.own = some c) :
    p.own = some c ∨ p = .idle ∧ r.1 = s.construct i ∧ c = s.made := by
  have hteardown {s : Shared P B T Ctx} {res : Outcome} :
      (teardown i s res).2.own = some c → p.own = some c := by
    unfold teardown
    split <;> exact nofun
  have hnack {s : Shared P B T Ctx} {v : Locals Ctx} (hv : p.own = some v.own) :
      (nack i s v).2.own = some c → p.own = some c := by
    unfold Kafka.nack
    split
    · exact hv.trans
    · exact hteardown
  cases h with
  | subscribe => exact .inr ⟨rfl, rfl, (Option.some.inj hc).symm⟩
  | notConstructed | notStarted =>
    revert hc
    unfold startFailed
    split_ifs <;> exact nofun
  | started =>
    left
    revert hc
    unfold startLoop
    dsimp only
    split
    · exact id
    · exact hteardown
  | message =>
    left
    revert hc
    unfold takeMessage
    dsimp only
    split_ifs
    · split
      · split
        · exact id
        · exact hnack rfl
      · exact hnack rfl
    · exact hteardown
  | stop | iteratorRaised | handlerCancelled | commitCancelled => exact .inl (hteardown hc)
  | handled =>
    left
    revert hc
    unfold Kafka.ack
    dsimp only
    split <;> exact id
  | @handlerFailed v m token x hx =>
    exact .inl (hnack (v := { v with ctx := token }) rfl hc)
  | committed | commitFailed => exact .inl hc
  | close =>
    revert hc
    unfold Kafka.close
    split <;> exact nofun
  | _ => cases hc

/-- **Positions**: where sessions do not overlap, the client of a session has read what the
session has taken. -/
theorem reads_of_reach (hser : Serial cd ok offsets) (h : Reach (resume cd) ok (fresh offsets) l) :
    ∀ i c, (l.task i).own = some c → Reads i l.shared c := by
  refine h.tasks (A := fun i s p => ∀ c, Task.own p = some c → Reads i s c) (fun i c => nofun) ?_ ?_
  · intro l i e s p hr hA hok hp c hc
    have hstep := step_of_resume hp
    have howns := owns_of_reach hser hr i
    rcases hstep.own hc with hown | ⟨-, rfl, rfl⟩
    · have hreads := hA i c hown
      have heff := hstep.effect
      generalize l.task i = q at heff howns hown
      cases heff with
      | construct => cases hown
      | @take v r _ _ hq =>
        obtain rfl : v.own = c := Option.some.inj hown
        obtain ⟨-, hit⟩ := howns
        rw [hit] at hq
        exact (hreads.take v.count r _).quiet hq
      | commit => exact hreads
      | quiet hq => exact hreads.quiet hq
    · exact reads_construct l.shared i
  · intro l i j e s p hr hA hok hp hij c hc
    have hj : (l.task j).active := by
      revert hc
      cases l.task j with
      | starting | polling | handling | committing => exact fun _ => trivial
      | _ => nofun
    have hi : ¬ (l.task i).active := fun hi => hij (atMostOne_active hser hr j i hj hi)
    have heff := (step_of_resume hp).effect
    generalize hti : l.task i = q at hp hi heff
    cases heff with
    | construct => exact absurd hj (hser hr hok hti j)
    | take => exact absurd trivial hi
    | commit => exact absurd trivial hi
    | quiet hq => exact (hA j c hc).quiet hq

theorem commitsApart_of_reach (hser : Serial cd ok offsets)
    (h : Reach (resume cd) ok (fresh offsets) l) : CommitsApart cd l where
  taken i v os hi q o ho := by
    have howns := owns_of_reach hser h i
    rw [hi] at howns
    rw [howns.2] at ho
    exact reads_of_reach hser h i v.own (by rw [hi]; rfl) q o ho
  apart i v os hi l' hs j w m token hij hj := by
    -- a session that commits and one that runs a handler are both active
    refine absurd (atMostOne_active hser h j i ?_ ?_) hij
    · rw [hj]; trivial
    · rw [hi]; trivial

/-- A session constructs its client only while no other one is active. -/
def NoOverlap : Guard (Shared P B T Ctx) (Task P Ctx) (Ev P B Ctx) := fun l _ e =>
  ∀ ctx, e = .subscribe ctx none → ∀ j, ¬ (l.task j).active

theorem serial_noOverlap : Serial cd NoOverlap offsets := fun _ hok _ => hok _ rfl

end Kafka

/-! ### The result -/

/-- **Isolation**: in every run in which a session opens its connection only while no other
session of the object is active, whatever fails and whoever calls `close()`, a session
settles what it received and closes what it opened. -/
theorem isolated_of_serial {P B W T Ctx : Type} [DecidableEq P] (kafka : Kafka.Codec B T Ctx)
    (offsets : P → ℕ) (rabbitmq : Rabbitmq.Codec B W T Ctx) :
    (∀ l, Reach (Kafka.resume kafka) Kafka.NoOverlap (Kafka.fresh offsets) l →
      Kafka.Clean l.shared.journal ∧ Kafka.CommitsApart kafka l) ∧
    ∀ l, Reach (Rabbitmq.resume rabbitmq) Rabbitmq.Serial Rabbitmq.fresh l →
      Rabbitmq.Isolated l.shared.journal := by
  refine ⟨fun l hl => ⟨?_, ?_⟩, fun l hl => ?_⟩
  · exact Kafka.clean_of_reach Kafka.serial_noOverlap hl
  · exact Kafka.commitsApart_of_reach Kafka.serial_noOverlap hl
  · exact Rabbitmq.isolated_of_reach hl

/-- Everything unpacks. -/
def kafkaUnpackAll : Kafka.Codec Unit Unit Unit := ⟨some, fun _ => some "", fun _ => some ()⟩

/-- Everything unpacks. -/
def rabbitmqUnpackAll : Rabbitmq.Codec Unit Unit Unit Unit :=
  ⟨some, fun _ => some "", fun _ => some ()⟩

/-- A Kafka session that is closed during a handler and ends, and a second one. -/
def kafkaInTurn : List (ℕ × Kafka.Ev Unit Unit Unit) :=
  [(0, .subscribe () none), (0, .ok), (0, .message ⟨(), 0, (), []⟩), (1, .close), (0, .ok),
    (0, .ok), (0, .stop), (0, .ok), (1, .ok), (2, .subscribe () none), (2, .ok),
    (2, .message ⟨(), 1, (), []⟩), (2, .ok), (2, .ok)]

/-- The same for RabbitMQ. -/
def rabbitmqInTurn : List (ℕ × Rabbitmq.Ev Unit Unit Unit) :=
  [(0, .subscribe ()), (0, .ok), (0, .ok), (0, .ok), (0, .ok), (0, .ok), (0, .message ⟨(), []⟩),
    (1, .close), (0, .ok), (0, .ok), (0, .stop), (0, .ok), (0, .ok), (1, .ok), (0, .ok), (1, .ok),
    (2, .subscribe ()), (2, .ok), (2, .ok), (2, .ok), (2, .ok), (2, .ok), (2, .message ⟨(), []⟩),
    (2, .raise runtimeError)]

/-- Two sessions, one after the other: the Kafka consumer has committed both records, and the RabbitMQ
consumer has acked the message of the first session and nacked that of the second one. -/
theorem isolated_inTurn :
    (∃ l, (Kafka.fresh fun _ => 0).run (Kafka.resume (P := Unit) kafkaUnpackAll) kafkaInTurn =
      some l ∧ l.shared.committed () = 2 ∧
        Kafka.Clean l.shared.journal ∧ Kafka.CommitsApart kafkaUnpackAll l) ∧
    ∃ l, Rabbitmq.fresh.run (Rabbitmq.resume rabbitmqUnpackAll) rabbitmqInTurn = some l ∧
      settlements l.shared.journal = [(⟨2, 0⟩, .nack), (⟨0, 0⟩, .ack)] ∧
        Rabbitmq.Isolated l.shared.journal := by
  have hiso := isolated_of_serial (P := Unit) kafkaUnpackAll (fun _ => 0) rabbitmqUnpackAll
  constructor
  · have hadm : Admitted (Kafka.resume (P := Unit) kafkaUnpackAll) Kafka.NoOverlap
        (Kafka.fresh fun _ => 0) kafkaInTurn := by
      refine admitted_cons (fun _ _ _ => not_false) rfl ?_
      iterate 8 refine admitted_cons nofun rfl ?_
      refine admitted_cons (fun _ _ j => ?_) rfl ?_
      · -- the first session has ended, and `close()` has returned
        match j with
        | 0 | 1 | _ + 2 => exact not_false
      iterate 3 refine admitted_cons nofun rfl ?_
      exact admitted_cons nofun rfl trivial
    exact ⟨_, rfl, by decide, hiso.1 _ (reach_of_run hadm rfl)⟩
  · have hadm : Admitted (Rabbitmq.resume rabbitmqUnpackAll) Rabbitmq.Serial Rabbitmq.fresh
        rabbitmqInTurn := by
      refine admitted_cons nofun rfl ?_
      refine admitted_cons (fun _ _ j => ?_) rfl ?_
      · match j with
        | 0 | _ + 1 => exact not_false
      iterate 15 refine admitted_cons (by rintro ⟨_, ⟨⟩⟩) rfl ?_
      refine admitted_cons (fun _ _ j => ?_) rfl ?_
      · match j with
        | 0 | 1 | 2 | _ + 3 => exact not_false
      iterate 5 refine admitted_cons (by rintro ⟨_, ⟨⟩⟩) rfl ?_
      exact admitted_cons nofun rfl trivial
    exact ⟨_, rfl, by decide, hiso.2 _ (reach_of_run hadm rfl)⟩

/-- A Kafka session whose handler returns while a second session is handling a record of
another partition. -/
def kafkaOverlap : List (ℕ × Kafka.Ev Bool Unit Unit) :=
  [(0, .subscribe () none), (0, .ok), (1, .subscribe () none), (1, .ok),
    (0, .message ⟨false, 0, (), []⟩), (1, .message ⟨true, 0, (), []⟩), (0, .ok)]

/-- The same for RabbitMQ. -/
def rabbitmqOverlap : List (ℕ × Rabbitmq.Ev Unit Unit Unit) :=
  [(0, .subscribe ()), (0, .ok), (0, .ok), (0, .ok), (0, .ok), (0, .ok),
    (1, .subscribe ()), (1, .ok), (1, .ok), (1, .ok), (1, .ok), (1, .ok),
    (0, .message ⟨(), []⟩), (1, .message ⟨(), []⟩), (0, .ok)]

/-- Two sessions that overlap: for Kafka, the first one's commit passes the record that the
second one is handling; for RabbitMQ, the first one acks the message of the second one. -/
theorem not_isolated :
    (¬ ∀ l, Reach (Kafka.resume (P := Bool) kafkaUnpackAll) (fun _ _ _ => True)
        (Kafka.fresh fun _ => 0) l →
      Kafka.Clean l.shared.journal ∧ Kafka.CommitsApart kafkaUnpackAll l) ∧
    ¬ ∀ l, Reach (Rabbitmq.resume rabbitmqUnpackAll) (fun _ _ _ => True) Rabbitmq.fresh l →
      Rabbitmq.Isolated l.shared.journal := by
  constructor
  · intro h
    have hadm : Admitted (Kafka.resume (P := Bool) kafkaUnpackAll) (fun _ _ _ => True)
        (Kafka.fresh fun _ => 0) kafkaOverlap := admitted_of_forall fun _ _ _ => trivial
    obtain ⟨l, l', hl, hs, ⟨v, os, h₀⟩, ⟨w, token, h₁⟩, hd, hcom, hcom'⟩ : ∃ l l',
        (Kafka.fresh fun _ => 0).run (Kafka.resume (P := Bool) kafkaUnpackAll) kafkaOverlap =
          some l ∧ l.step (Kafka.resume kafkaUnpackAll) 0 .ok = some l' ∧
        (∃ v os, l.task 0 = .committing v os) ∧
        (∃ w token, l.task 1 = .handling w ⟨1, 0⟩ token) ∧
        Entry.delivered ⟨1, 0⟩ ⟨true, 0, (), []⟩ true ∈ l.shared.journal ∧
        l.shared.committed true = 0 ∧ l'.shared.committed true = 1 :=
      ⟨_, _, rfl, rfl, ⟨_, _, rfl⟩, ⟨_, _, rfl⟩, by decide, by decide, by decide⟩
    have hle : l'.shared.committed true ≤ 0 :=
      (h l (reach_of_run hadm hl)).2.apart 0 v os h₀ l' hs 1 w _ token (by decide) h₁ _ _ hd
        (Nat.le_of_eq hcom)
    omega
  · intro h
    have hadm : Admitted (Rabbitmq.resume rabbitmqUnpackAll) (fun _ _ _ => True) Rabbitmq.fresh
        rabbitmqOverlap := admitted_of_forall fun _ _ _ => trivial
    obtain ⟨l, hl, hack⟩ : ∃ l,
        Rabbitmq.fresh.run (Rabbitmq.resume rabbitmqUnpackAll) rabbitmqOverlap = some l ∧
        Entry.settled 0 .ack ⟨1, 0⟩ ∈ l.shared.journal :=
      ⟨_, rfl, by decide⟩
    have hsession : (1 : ℕ) = 0 := ((h l (reach_of_run hadm hl)).acked 0 ⟨1, 0⟩ hack).1
    omega

end OpenframeAdapters.Queue
