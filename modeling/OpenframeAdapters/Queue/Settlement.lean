import OpenframeAdapters.Queue.Nats.Consumer
import OpenframeAdapters.Queue.Rabbitmq.Consumer

/-!
# Settling each message once

`NatsConsumer` and `RabbitmqConsumer` settle one message at a time: the loop takes a
message, unpacks it, awaits its handler, and calls `ack` or `nack` for it before it
takes the next one. The settlement call stands in the same `try` as the handler, and
never raises an `Exception` itself.

## The model

* `Blocks` — the journals a loop can leave behind between two messages: one block of
  entries for each message taken, in one of four forms.
* `SettledOnce` — the contract, read off the journal.

## What is proved

* `Blocks.settledOnce`, `Blocks.settledOnce_inHand` — a journal made of blocks meets the
  contract, also while the last message is in its handler's hands.
* `settledOnce_of_reach` — both consumers keep it, in one session, whatever fails, and
  whoever calls `close()` at whatever moment.
-/

namespace OpenframeAdapters.Queue

open Python OpenframeAdapters.Core

/-! ### The contract -/

section Blocks

variable {M V : Type}

/-- The journals of session `i` between two messages, of which it has taken `n`. -/
inductive Blocks (unpack : M → Option V) (i : ℕ) : ℕ → Journal M V → Prop
  /-- Nothing has happened. -/
  | nil : Blocks unpack i 0 []
  /-- A connection was opened. -/
  | opened {n j} (c : ℕ) : Blocks unpack i n j → Blocks unpack i n (.opened i c :: j)
  /-- A connection was closed. -/
  | closed {n j} (c : ℕ) : Blocks unpack i n j → Blocks unpack i n (.closed i c :: j)
  /-- The handler returned. -/
  | acked {n j r value} : Blocks unpack i n j → unpack r = some value →
    Blocks unpack i (n + 1) (.settled i .ack ⟨i, n⟩ :: .returned ⟨i, n⟩ ::
      .invoked ⟨i, n⟩ value :: .delivered ⟨i, n⟩ r true :: j)
  /-- The handler raised. -/
  | handlerFailed {n j r value} : Blocks unpack i n j → unpack r = some value →
    Blocks unpack i (n + 1) (.settled i .nack ⟨i, n⟩ :: .failed ⟨i, n⟩ ::
      .invoked ⟨i, n⟩ value :: .delivered ⟨i, n⟩ r true :: j)
  /-- The message could not be unpacked. -/
  | unpackFailed {n j r} : Blocks unpack i n j → unpack r = none →
    Blocks unpack i (n + 1) (.settled i .nack ⟨i, n⟩ :: .failed ⟨i, n⟩ ::
      .delivered ⟨i, n⟩ r true :: j)
  /-- The consumer was not running any more. -/
  | ignored {n j r} : Blocks unpack i n j →
    Blocks unpack i (n + 1) (.delivered ⟨i, n⟩ r false :: j)

/-- Each message taken while the consumer was running is settled once, as itself. -/
structure SettledOnce (unpack : M → Option V) (i : ℕ) (inHand : List MsgId) (j : Journal M V) :
    Prop where
  /-- The settlement calls are for the messages taken, in the order in which they were taken,
  but for the one whose handler is running. -/
  once : inHand ++ settledIds j = taken j
  /-- No message is taken twice. -/
  nodup : (taken j).Nodup
  /-- A message is acked when its handler has returned, and only then. -/
  acked_iff : ∀ m, .settled i .ack m ∈ j ↔ .returned m ∈ j
  /-- A message is nacked when unpacking it or its handler has failed, and only then. -/
  nacked_iff : ∀ m, .settled i .nack m ∈ j ↔ .failed m ∈ j
  /-- A handler that has returned was called. -/
  returned : ∀ m, .returned m ∈ j → ∃ value, .invoked m value ∈ j
  /-- A handler is called with what the message unpacks to. -/
  invoked : ∀ m value, .invoked m value ∈ j → ∃ r, .delivered m r true ∈ j ∧ unpack r = some value
  /-- When a handler is called, every message taken before has been settled. -/
  before : ∀ m value earlier, .invoked m value :: earlier <:+ j →
    m :: settledIds earlier = taken earlier
  /-- A message taken after the consumer was stopped is not settled. -/
  ignored : ∀ m r, .delivered m r false ∈ j → m ∉ settledIds j

variable {unpack : M → Option V} {i n : ℕ} {j : Journal M V}

@[simp] theorem taken_delivered_true (m : MsgId) (r : M) :
    taken (.delivered m r true :: j) = m :: taken j := rfl

@[simp] theorem taken_delivered_false (m : MsgId) (r : M) :
    taken (.delivered m r false :: j) = taken j := rfl

@[simp] theorem taken_invoked (m : MsgId) (v : V) : taken (.invoked m v :: j) = taken j := rfl

@[simp] theorem taken_returned (m : MsgId) : taken (.returned m :: j) = taken j := rfl

@[simp] theorem taken_failed (m : MsgId) : taken (.failed m :: j) = taken j := rfl

@[simp] theorem taken_settled (k : ℕ) (v : Verdict) (m : MsgId) :
    taken (.settled k v m :: j) = taken j := rfl

@[simp] theorem taken_opened (k c : ℕ) : taken (.opened k c :: j) = taken j := rfl

@[simp] theorem taken_closed (k c : ℕ) : taken (.closed k c :: j) = taken j := rfl

theorem Blocks.settledIds_eq (h : Blocks unpack i n j) : settledIds j = taken j := by
  induction h with
  | nil => rfl
  | _ => simpa

/-- The messages are numbered as they are taken. -/
theorem Blocks.delivered_lt (h : Blocks unpack i n j) {m : MsgId} {r : M} {b : Bool}
    (hm : .delivered m r b ∈ j) : m.seq < n := by
  induction h with
  | nil => cases hm
  | opened c _ ih => exact ih (by simpa using hm)
  | closed c _ ih => exact ih (by simpa using hm)
  | acked _ _ ih | handlerFailed _ _ ih | unpackFailed _ _ ih | ignored _ ih =>
    simp only [List.mem_cons, reduceCtorEq, false_or, Entry.delivered.injEq] at hm
    rcases hm with ⟨rfl, -, -⟩ | hm
    · exact Nat.lt_succ_self _
    · exact Nat.lt_succ_of_lt (ih hm)

theorem mem_taken {m : MsgId} : m ∈ taken j ↔ ∃ r, .delivered m r true ∈ j := by
  induction j with
  | nil => simp [taken]
  | cons e j ih => rcases e with _ | ⟨_, _, _ | _⟩ <;> simp [ih, exists_or]

theorem Blocks.nodup_taken (h : Blocks unpack i n j) : (taken j).Nodup := by
  induction h with
  | nil => exact List.nodup_nil
  | opened c _ ih => exact ih
  | closed c _ ih => exact ih
  | acked h _ ih | handlerFailed h _ ih | unpackFailed h _ ih =>
    refine List.nodup_cons.mpr ⟨fun hm => ?_, ih⟩
    obtain ⟨r, hr⟩ := mem_taken.mp hm
    exact absurd (h.delivered_lt hr) (Nat.lt_irrefl _)
  | ignored _ ih => exact ih

/-- **The contract between two messages.** -/
theorem Blocks.settledOnce (h : Blocks unpack i n j) : SettledOnce unpack i [] j where
  once := h.settledIds_eq
  nodup := h.nodup_taken
  acked_iff m := by
    induction h with
    | nil => simp
    | opened c _ ih | closed c _ ih => simpa using ih
    | acked _ _ ih | handlerFailed _ _ ih | unpackFailed _ _ ih | ignored _ ih => simp [ih]
  nacked_iff m := by
    induction h with
    | nil => simp
    | opened c _ ih | closed c _ ih => simpa using ih
    | acked _ _ ih | handlerFailed _ _ ih | unpackFailed _ _ ih | ignored _ ih => simp [ih]
  returned m hm := by
    induction h with
    | nil => cases hm
    | opened c _ ih | closed c _ ih | handlerFailed _ _ ih | unpackFailed _ _ ih | ignored _ ih =>
      obtain ⟨value, hv⟩ := ih (by simpa using hm)
      exact ⟨value, by simp [hv]⟩
    | @acked n j r value _ _ ih =>
      simp only [List.mem_cons, reduceCtorEq, false_or, Entry.returned.injEq] at hm
      rcases hm with rfl | hm
      · exact ⟨value, by simp⟩
      · obtain ⟨value', hv⟩ := ih hm
        exact ⟨value', by simp [hv]⟩
  invoked m value hm := by
    induction h with
    | nil => cases hm
    | opened c _ ih | closed c _ ih | unpackFailed _ _ ih | ignored _ ih =>
      obtain ⟨r, hd, hr⟩ := ih (by simpa using hm)
      exact ⟨r, by simp [hd], hr⟩
    | @acked n j r _ _ hr ih | @handlerFailed n j r _ _ hr ih =>
      simp only [List.mem_cons, reduceCtorEq, false_or, Entry.invoked.injEq] at hm
      rcases hm with ⟨rfl, rfl⟩ | hm
      · exact ⟨r, by simp, hr⟩
      · obtain ⟨r', hd, hr'⟩ := ih hm
        exact ⟨r', by simp [hd], hr'⟩
  before m value earlier hs := by
    induction h with
    | nil => simp at hs
    | opened c _ ih => exact ih (by simpa [List.suffix_cons_iff] using hs)
    | closed c _ ih => exact ih (by simpa [List.suffix_cons_iff] using hs)
    | acked h _ ih | handlerFailed h _ ih =>
      simp only [List.suffix_cons_iff, List.cons.injEq, reduceCtorEq, false_and, false_or,
        Entry.invoked.injEq] at hs
      rcases hs with ⟨⟨rfl, rfl⟩, rfl⟩ | hs
      · simp [h.settledIds_eq]
      · exact ih hs
    | unpackFailed _ _ ih | ignored _ ih => exact ih (by simpa [List.suffix_cons_iff] using hs)
  ignored m r hm := by
    induction h with
    | nil => cases hm
    | opened c _ ih => exact ih (by simpa using hm)
    | closed c _ ih => exact ih (by simpa using hm)
    | acked h _ ih | handlerFailed h _ ih | unpackFailed h _ ih =>
      simp only [List.mem_cons, reduceCtorEq, Entry.delivered.injEq, Bool.false_eq_true, and_false,
        false_or] at hm
      intro hs
      simp only [settledIds_settled, settledIds_returned, settledIds_failed, settledIds_invoked,
        settledIds_delivered, List.mem_cons] at hs
      rcases hs with rfl | hs
      · exact absurd (h.delivered_lt hm) (Nat.lt_irrefl _)
      · exact ih hm hs
    | ignored h ih =>
      simp only [List.mem_cons, Entry.delivered.injEq, and_true] at hm
      rcases hm with ⟨rfl, rfl⟩ | hm
      · rw [settledIds_delivered, h.settledIds_eq]
        intro hm
        obtain ⟨r, hr⟩ := mem_taken.mp hm
        exact absurd (h.delivered_lt hr) (Nat.lt_irrefl _)
      · exact ih hm

/-- **The contract while a handler runs.** -/
theorem Blocks.settledOnce_inHand (h : Blocks unpack i n j) {r : M} {value : V}
    (hr : unpack r = some value) : SettledOnce unpack i [⟨i, n⟩]
      (.invoked ⟨i, n⟩ value :: .delivered ⟨i, n⟩ r true :: j) where
  once := by simp [h.settledIds_eq]
  nodup := (h.acked hr).nodup_taken
  acked_iff m := by simp [h.settledOnce.acked_iff]
  nacked_iff m := by simp [h.settledOnce.nacked_iff]
  returned m hm := by
    obtain ⟨value', hv⟩ := h.settledOnce.returned m (by simpa using hm)
    exact ⟨value', .tail _ (.tail _ hv)⟩
  invoked m value' hm := by
    obtain ⟨r', hd, hr'⟩ := (h.acked hr).settledOnce.invoked m value' (by simpa using hm)
    exact ⟨r', by simpa using hd, hr'⟩
  before m value' earlier hs := by
    refine (h.acked hr).settledOnce.before m value' earlier ?_
    exact hs.trans ((List.suffix_cons _ _).trans (List.suffix_cons _ _))
  ignored m r' hm := by
    have := h.settledOnce.ignored m r' (by simpa using hm)
    simpa using this

end Blocks

/-! ### NATS -/

namespace Nats

variable {B T Ctx : Type} {cd : Codec B T Ctx} {i : ℕ} {s : Shared B T Ctx} {p : Task Ctx}
  {e : Ev B Ctx} {r : Shared B T Ctx × Task Ctx} {l : Loop (Shared B T Ctx) (Task Ctx)}

/-- The message whose handler is running. -/
def Task.inHand {Ctx : Type} : Task Ctx → List MsgId
  | .handling _ m _ => [m]
  | _ => []

/-- One session, that of task `0`, whose handler is not cancelled. Any task may call
`close()`. -/
def HandlersFinish : Guard (Shared B T Ctx) (Task Ctx) (Ev B Ctx) := fun l i e =>
  (∀ ctx, e = .subscribe ctx → i = 0) ∧
    ∀ x v m token, e = .raise x → l.task i = .handling v m token → x.isa .exception = true

/-- The journal of the session, suspended at `p`. -/
def InBlocks (cd : Codec B T Ctx) (j : Journal (Msg B) (T × Ctx)) : Task Ctx → Prop
  | .polling v | .acking v | .naking v => Blocks cd.unpack 0 v.count j
  | .handling v m _ => ∃ n msg value earlier, Blocks cd.unpack 0 n earlier ∧
      cd.unpack msg = some value ∧ m = ⟨0, n⟩ ∧ v.count = n + 1 ∧
      j = .invoked m value :: .delivered m msg true :: earlier
  | .idle | .connecting _ | .ensuring .. | .subscribing .. => Blocks cd.unpack 0 0 j
  | _ => ∃ n, Blocks cd.unpack 0 n j

theorem InBlocks.settledOnce {j : Journal (Msg B) (T × Ctx)} (h : InBlocks cd j p) :
    SettledOnce cd.unpack 0 p.inHand j := by
  cases p with
  | handling v m token =>
    obtain ⟨n, msg, value, earlier, hb, hr, rfl, -, rfl⟩ := h
    exact hb.settledOnce_inHand hr
  | polling v | acking v | naking v => exact Blocks.settledOnce h
  | idle | connecting | ensuring | subscribing => exact Blocks.settledOnce h
  | _ =>
    obtain ⟨n, hb⟩ := h
    exact hb.settledOnce

theorem inBlocks_startFailed {n : ℕ} (h : Blocks cd.unpack 0 n s.journal) (x : PyExc)
    (stale : Bool) : InBlocks cd (startFailed s x stale).1.journal (startFailed s x stale).2 := by
  unfold startFailed
  split_ifs <;> exact ⟨n, h⟩

theorem inBlocks_disconnect {n : ℕ} (h : Blocks cd.unpack 0 n s.journal) (res : Outcome) :
    InBlocks cd (disconnect 0 s res).1.journal (disconnect 0 s res).2 := by
  unfold disconnect
  split
  · exact ⟨n, .closed _ h⟩
  · exact ⟨n, h⟩

theorem inBlocks_teardown {n : ℕ} (h : Blocks cd.unpack 0 n s.journal) (res : Outcome) :
    InBlocks cd (teardown 0 s res).1.journal (teardown 0 s res).2 := by
  unfold teardown
  split
  · exact ⟨n, h⟩
  · exact inBlocks_disconnect h res

theorem inBlocks_takeMessage {v : Locals Ctx} (h : Blocks cd.unpack 0 v.count s.journal)
    (msg : Msg B) :
    InBlocks cd (takeMessage cd 0 s v msg).1.journal (takeMessage cd 0 s v msg).2 := by
  unfold takeMessage
  dsimp only [Shared.record]
  split_ifs with hrun
  · rw [hrun]
    split
    next value ctx hu => exact ⟨_, _, _, _, h, hu, rfl, rfl, rfl⟩
    next hu => exact h.unpackFailed hu
  · rw [Bool.not_eq_true] at hrun
    have hb : Blocks cd.unpack 0 (v.count + 1)
        (.delivered ⟨0, v.count⟩ msg s.running :: s.journal) := hrun ▸ h.ignored
    exact inBlocks_teardown (s := s.record (.delivered ⟨0, v.count⟩ msg s.running)) hb _

/-- A step of the session keeps the blocks. -/
theorem InBlocks.step (h : InBlocks cd s.journal p) (hs : Step cd 0 s p e r)
    (hraise : ∀ x v m token, e = .raise x → p = .handling v m token → x.isa .exception = true) :
    InBlocks cd r.1.journal r.2 := by
  cases hs with
  | subscribe => exact h
  | @connected ctx x =>
    cases x with
    | none => exact Blocks.opened _ h
    | some x => exact inBlocks_startFailed (s := s.connect 0) (Blocks.opened _ h) x false
  | notConnected | notEnsured | notSubscribed => exact inBlocks_startFailed h _ _
  | ensured =>
    unfold Nats.ensured
    split
    · exact h
    · exact inBlocks_startFailed h _ _
  | subscribed => exact h
  | message => exact inBlocks_takeMessage h _
  | stop | iteratorRaised | ackCancelled | nakCancelled => exact inBlocks_teardown h _
  | handled =>
    obtain ⟨n, msg, value, earlier, hb, hu, rfl, hc, hj⟩ := h
    simp only [ack, Shared.record, InBlocks, hj, hc]
    exact hb.acked hu
  | handlerFailed =>
    obtain ⟨n, msg, value, earlier, hb, hu, rfl, hc, hj⟩ := h
    simp only [nack, Shared.record, InBlocks, hj, hc]
    exact hb.handlerFailed hu
  | handlerCancelled hx =>
    rw [hraise _ _ _ _ rfl rfl] at hx
    cases hx
  | acked | naked => exact h
  | unsubscribed =>
    obtain ⟨n, hb⟩ := h
    exact inBlocks_disconnect hb _
  | disconnected => exact h
  | unsubscribeCancelled | disconnectCancelled => exact h
  | close =>
    unfold Nats.close closeDisconnect
    dsimp only
    split
    · exact ⟨0, h⟩
    · split <;> exact ⟨0, h⟩
  | closeUnsubscribed =>
    unfold closeDisconnect
    split <;> exact h
  | closed | closeUnsubscribeCancelled | closeCancelled => exact h

/-- A task that has not called `subscribe()`. -/
def Task.closer {Ctx : Type} : Task Ctx → Prop
  | .idle | .closeUnsubscribing | .closeDisconnecting | .closed | .closeFailed _ => True
  | _ => False

/-- What such a task does to the journal, unless it calls `subscribe()` now. -/
theorem Step.closer (hs : Step cd i s p e r) (hp : p.closer) (he : ∀ ctx, e ≠ .subscribe ctx) :
    r.2.closer ∧ r.1.journal = s.journal := by
  cases hs with
  | subscribe => exact absurd rfl (he _)
  | close =>
    unfold Nats.close closeDisconnect
    dsimp only
    split
    · exact ⟨trivial, rfl⟩
    · split <;> exact ⟨trivial, rfl⟩
  | closeUnsubscribed =>
    unfold closeDisconnect
    split <;> exact ⟨trivial, rfl⟩
  | closed | closeUnsubscribeCancelled | closeCancelled => exact ⟨trivial, rfl⟩
  | _ => exact hp.elim

theorem inBlocks_of_reach (h : Reach (resume cd) HandlersFinish fresh l) :
    InBlocks cd l.shared.journal (l.task 0) := by
  suffices hall : ∀ i, (i = 0 → InBlocks cd l.shared.journal (l.task i)) ∧
      (i ≠ 0 → (l.task i).closer) from (hall 0).1 rfl
  refine h.tasks (A := fun i s p => (i = 0 → InBlocks cd s.journal p) ∧ (i ≠ 0 → p.closer))
    ?_ ?_ ?_
  · exact fun i => ⟨fun _ => Blocks.nil, fun _ => trivial⟩
  · rintro l i e s p - hA ⟨hsub, hraise⟩ hp
    have hstep := step_of_resume hp
    refine ⟨?_, fun hi => ?_⟩
    · rintro rfl
      exact ((hA 0).1 rfl).step hstep fun x v m token he hv => hraise x v m token he hv
    · exact (hstep.closer ((hA i).2 hi) fun ctx he => hi (hsub ctx he)).1
  · rintro l i j e s p - hA ⟨hsub, -⟩ hp hij
    refine ⟨?_, (hA j).2⟩
    rintro rfl
    have hclose := (step_of_resume hp).closer ((hA i).2 (Ne.symm hij))
      fun ctx he => hij (hsub ctx he).symm
    rw [hclose.2]
    exact (hA 0).1 rfl

end Nats

/-! ### RabbitMQ -/

namespace Rabbitmq

variable {B W T Ctx : Type} {cd : Codec B W T Ctx} {i : ℕ} {s : Shared B W T Ctx} {p : Task Ctx}
  {e : Ev B W Ctx} {r : Shared B W T Ctx × Task Ctx} {l : Loop (Shared B W T Ctx) (Task Ctx)}

/-- The message whose handler is running. -/
def Task.inHand {Ctx : Type} : Task Ctx → List MsgId
  | .handling _ m _ => [m]
  | _ => []

/-- One session, that of task `0`, whose handler is not cancelled. Any task may call
`close()`. -/
def HandlersFinish : Guard (Shared B W T Ctx) (Task Ctx) (Ev B W Ctx) := fun l i e =>
  (∀ ctx, e = .subscribe ctx → i = 0) ∧
    ∀ x v m token, e = .raise x → l.task i = .handling v m token → x.isa .exception = true

/-- The journal of the session, suspended at `p`. While a handler runs, the field
`_current_raw_message` refers to its message. -/
def InBlocks (cd : Codec B W T Ctx) (s : Shared B W T Ctx) : Task Ctx → Prop
  | .entering v | .polling v | .settling v => Blocks cd.unpack 0 v.count s.journal
  | .handling v m _ => s.current = some m ∧
      ∃ n message value earlier, Blocks cd.unpack 0 n earlier ∧
        cd.unpack message = some value ∧ m = ⟨0, n⟩ ∧ v.count = n + 1 ∧
        s.journal = .invoked m value :: .delivered m message true :: earlier
  | .idle | .connecting _ | .opening .. | .settingQos .. | .declaring .. =>
      Blocks cd.unpack 0 0 s.journal
  | _ => ∃ n, Blocks cd.unpack 0 n s.journal

theorem InBlocks.settledOnce (h : InBlocks cd s p) :
    SettledOnce cd.unpack 0 p.inHand s.journal := by
  cases p with
  | handling v m token =>
    obtain ⟨-, n, message, value, earlier, hb, hr, rfl, -, hj⟩ := h
    rw [hj]
    exact hb.settledOnce_inHand hr
  | entering v | polling v | settling v => exact Blocks.settledOnce h
  | idle | connecting | opening | settingQos | declaring => exact Blocks.settledOnce h
  | _ =>
    obtain ⟨n, hb⟩ := h
    exact hb.settledOnce

theorem inBlocks_startFailed {n : ℕ} (h : Blocks cd.unpack 0 n s.journal) (x : PyExc)
    (stale : Bool) : InBlocks cd (startFailed s x stale).1 (startFailed s x stale).2 := by
  unfold startFailed
  split_ifs <;> exact ⟨n, h⟩

theorem inBlocks_closeDone {n : ℕ} (h : Blocks cd.unpack 0 n s.journal) (k : Caller) :
    InBlocks cd (closeDone s k).1 (closeDone s k).2 := by
  cases k <;> exact ⟨n, h⟩

theorem inBlocks_closeRest {n : ℕ} (h : Blocks cd.unpack 0 n s.journal) (k : Caller) :
    InBlocks cd (closeRest 0 s k).1 (closeRest 0 s k).2 := by
  unfold closeRest
  split
  · cases k with
    | session res => exact ⟨n, .closed _ h⟩
    | close => exact ⟨n, h⟩
  · exact inBlocks_closeDone h k

theorem inBlocks_closeConnection {n : ℕ} (h : Blocks cd.unpack 0 n s.journal) (k : Caller) :
    InBlocks cd (closeConnection 0 s k).1 (closeConnection 0 s k).2 := by
  unfold closeConnection
  split
  · cases k with
    | session res => exact ⟨n, .closed _ h⟩
    | close => exact ⟨n, h⟩
  · exact inBlocks_closeRest h k

theorem inBlocks_takeMessage {v : Locals Ctx} (h : Blocks cd.unpack 0 v.count s.journal)
    (message : Message B W) :
    InBlocks cd (takeMessage cd 0 s v message).1 (takeMessage cd 0 s v message).2 := by
  unfold takeMessage
  dsimp only [Shared.record]
  split_ifs with hrun
  · rw [hrun]
    split
    next value ctx hu => exact ⟨rfl, _, _, _, _, h, hu, rfl, rfl, rfl⟩
    next hu => exact h.unpackFailed hu
  · rw [Bool.not_eq_true] at hrun
    rw [hrun]
    exact ⟨_, h.ignored⟩

/-- A step of the session keeps the blocks. -/
theorem InBlocks.step (h : InBlocks cd s p) (hs : Step cd 0 s p e r)
    (hraise : ∀ x v m token, e = .raise x → p = .handling v m token → x.isa .exception = true) :
    InBlocks cd r.1 r.2 := by
  cases hs with
  | subscribe => exact h
  | connected => exact Blocks.opened _ h
  | notConnected | notOpened | qosFailed | notDeclared => exact inBlocks_startFailed h _ _
  | opened => exact h
  | qosSet =>
    unfold Rabbitmq.qosSet
    split
    · exact h
    · exact inBlocks_startFailed h _ _
  | declared => exact h
  | entered => exact h
  | notEntered => exact inBlocks_closeConnection h _
  | message => exact inBlocks_takeMessage h _
  | stop | iteratorRaised | settleCancelled => exact ⟨_, h⟩
  | handled =>
    obtain ⟨hcur, n, message, value, earlier, hb, hu, rfl, hc, hj⟩ := h
    simp only [settle, Shared.record, InBlocks, hcur, hj, hc]
    exact hb.acked hu
  | handlerFailed =>
    obtain ⟨hcur, n, message, value, earlier, hb, hu, rfl, hc, hj⟩ := h
    simp only [settle, Shared.record, InBlocks, hcur, hj, hc]
    exact hb.handlerFailed hu
  | handlerCancelled hx =>
    rw [hraise _ _ _ _ rfl rfl] at hx
    cases hx
  | settled => exact h
  | exited | exitFailed =>
    obtain ⟨n, hb⟩ := h
    exact inBlocks_closeConnection hb _
  | channelClosed =>
    obtain ⟨n, hb⟩ := h
    exact inBlocks_closeRest (s := { s with channel := none }) hb _
  | @channelCancelled k | @connectionCancelled k => cases k <;> exact h
  | connectionClosed =>
    obtain ⟨n, hb⟩ := h
    exact inBlocks_closeDone (s := { s with connection := none }) hb _
  | close => exact inBlocks_closeConnection (s := { s with running := false }) h .close

/-- A task that has not called `subscribe()`. -/
def Task.closer {Ctx : Type} : Task Ctx → Prop
  | .idle | .closingChannel .close | .closingConnection .close | .closed | .closeFailed _ => True
  | _ => False

/-- What such a task does to the journal and to `_current_raw_message`, unless it calls
`subscribe()` now. -/
theorem Step.closer (hs : Step cd i s p e r) (hp : p.closer) (he : ∀ ctx, e ≠ .subscribe ctx) :
    r.2.closer ∧ r.1.journal = s.journal ∧ r.1.current = s.current := by
  cases hs with
  | subscribe => exact absurd rfl (he _)
  | @channelClosed k =>
    cases k with
    | session res => exact hp.elim
    | close =>
      unfold closeRest
      split <;> exact ⟨trivial, rfl, rfl⟩
  | @connectionClosed k | @channelCancelled k | @connectionCancelled k =>
    cases k with
    | session res => exact hp.elim
    | close => exact ⟨trivial, rfl, rfl⟩
  | close =>
    unfold Rabbitmq.close closeConnection closeRest
    dsimp only
    split
    · exact ⟨trivial, rfl, rfl⟩
    · split <;> exact ⟨trivial, rfl, rfl⟩
  | _ => exact hp.elim

theorem InBlocks.frame {s' : Shared B W T Ctx} (h : InBlocks cd s p)
    (hj : s'.journal = s.journal) (hc : s'.current = s.current) : InBlocks cd s' p := by
  cases p <;> simp only [InBlocks, hj, hc] at h ⊢ <;> exact h

theorem inBlocks_of_reach (h : Reach (resume cd) HandlersFinish fresh l) :
    InBlocks cd l.shared (l.task 0) := by
  suffices hall : ∀ i, (i = 0 → InBlocks cd l.shared (l.task i)) ∧
      (i ≠ 0 → (l.task i).closer) from (hall 0).1 rfl
  refine h.tasks (A := fun i s p => (i = 0 → InBlocks cd s p) ∧ (i ≠ 0 → p.closer)) ?_ ?_ ?_
  · exact fun i => ⟨fun _ => Blocks.nil, fun _ => trivial⟩
  · rintro l i e s p - hA ⟨hsub, hraise⟩ hp
    have hstep := step_of_resume hp
    refine ⟨?_, fun hi => ?_⟩
    · rintro rfl
      exact ((hA 0).1 rfl).step hstep fun x v m token he hv => hraise x v m token he hv
    · exact (hstep.closer ((hA i).2 hi) fun ctx he => hi (hsub ctx he)).1
  · rintro l i j e s p - hA ⟨hsub, -⟩ hp hij
    refine ⟨?_, (hA j).2⟩
    rintro rfl
    obtain ⟨-, hj, hc⟩ := (step_of_resume hp).closer ((hA i).2 (Ne.symm hij))
      fun ctx he => hij (hsub ctx he).symm
    exact ((hA 0).1 rfl).frame hj hc

end Rabbitmq

/-! ### Both consumers -/

/-- **Settled once**: in one session of either consumer, whatever messages come, whatever
fails to unpack, whichever handlers and settlement calls raise, and whoever calls `close()` at
whatever moment, each message taken while the consumer was running is settled once, as itself. -/
theorem settledOnce_of_reach :
    (∀ {B T Ctx : Type} {cd : Nats.Codec B T Ctx} {l},
      Reach (Nats.resume cd) Nats.HandlersFinish Nats.fresh l →
        SettledOnce cd.unpack 0 (l.task 0).inHand l.shared.journal) ∧
    ∀ {B W T Ctx : Type} {cd : Rabbitmq.Codec B W T Ctx} {l},
      Reach (Rabbitmq.resume cd) Rabbitmq.HandlersFinish Rabbitmq.fresh l →
        SettledOnce cd.unpack 0 (l.task 0).inHand l.shared.journal :=
  ⟨fun h => (Nats.inBlocks_of_reach h).settledOnce,
    fun h => (Rabbitmq.inBlocks_of_reach h).settledOnce⟩

/-- `true` deserialises, and `false` does not. -/
def natsUnpackTrue : Nats.Codec Bool Unit Unit :=
  ⟨fun b => if b then some () else none, fun _ => some ()⟩

/-- `true` deserialises, and `false` does not. -/
def rabbitmqUnpackTrue : Rabbitmq.Codec Bool Unit Unit Unit :=
  ⟨fun b => if b then some () else none, fun _ => some "", fun _ => some ()⟩

/-- A message that does not unpack, whose `nak()` raises, one whose handler raises, one during
whose handler the consumer is closed, and one after that. -/
def natsSession : List (ℕ × Nats.Ev Bool Unit) :=
  [(0, .subscribe ()), (0, .connected none), (0, .ok), (0, .ok), (0, .message ⟨false, []⟩),
    (0, .raise runtimeError), (0, .message ⟨true, []⟩), (0, .raise runtimeError), (0, .ok),
    (0, .message ⟨true, []⟩), (1, .close), (0, .ok), (0, .ok), (0, .message ⟨true, []⟩)]

/-- The same for RabbitMQ. -/
def rabbitmqSession : List (ℕ × Rabbitmq.Ev Bool Unit Unit) :=
  [(0, .subscribe ()), (0, .ok), (0, .ok), (0, .ok), (0, .ok), (0, .ok),
    (0, .message ⟨false, []⟩), (0, .raise runtimeError), (0, .message ⟨true, []⟩),
    (0, .raise runtimeError), (0, .ok), (0, .message ⟨true, []⟩), (1, .close), (0, .ok), (0, .ok),
    (0, .message ⟨true, []⟩)]

/-- Of three messages one does not deserialise, one makes the handler raise, and one is handled: two
nacks and an ack, in this order, and nothing twice. -/
theorem settledOnce_sessions :
    (∃ l, Nats.fresh.run (Nats.resume natsUnpackTrue) natsSession = some l ∧
      settlements l.shared.journal = [(⟨0, 2⟩, .ack), (⟨0, 1⟩, .nack), (⟨0, 0⟩, .nack)] ∧
      SettledOnce natsUnpackTrue.unpack 0 (l.task 0).inHand l.shared.journal) ∧
    ∃ l, Rabbitmq.fresh.run (Rabbitmq.resume rabbitmqUnpackTrue) rabbitmqSession = some l ∧
      settlements l.shared.journal = [(⟨0, 2⟩, .ack), (⟨0, 1⟩, .nack), (⟨0, 0⟩, .nack)] ∧
      SettledOnce rabbitmqUnpackTrue.unpack 0 (l.task 0).inHand l.shared.journal := by
  have hexc : runtimeError.isa .exception = true := by decide
  constructor
  · have hfirst : ∀ ie ∈ natsSession, ∀ ctx, ie.2 = .subscribe ctx → ie.1 = 0 := by
      simp [natsSession]
    have hraise : ∀ ie ∈ natsSession, ∀ x, ie.2 = .raise x → x.isa .exception = true := by
      simp [natsSession, hexc]
    have hadm : Admitted (Nats.resume natsUnpackTrue) Nats.HandlersFinish Nats.fresh natsSession :=
      admitted_of_forall fun ie hie l => ⟨hfirst ie hie, fun x _ _ _ he _ => hraise ie hie x he⟩
    exact ⟨_, rfl, by decide, settledOnce_of_reach.1 (reach_of_run hadm rfl)⟩
  · have hfirst : ∀ ie ∈ rabbitmqSession, ∀ ctx, ie.2 = .subscribe ctx → ie.1 = 0 := by
      simp [rabbitmqSession]
    have hraise : ∀ ie ∈ rabbitmqSession, ∀ x, ie.2 = .raise x → x.isa .exception = true := by
      simp [rabbitmqSession, hexc]
    have hadm : Admitted (Rabbitmq.resume rabbitmqUnpackTrue) Rabbitmq.HandlersFinish
        Rabbitmq.fresh rabbitmqSession :=
      admitted_of_forall fun ie hie l => ⟨hfirst ie hie, fun x _ _ _ he _ => hraise ie hie x he⟩
    exact ⟨_, rfl, by decide, settledOnce_of_reach.2 (reach_of_run hadm rfl)⟩

end OpenframeAdapters.Queue
