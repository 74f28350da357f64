import OpenframeAdapters.Queue.Rabbitmq.Consumer

/-!
# Sessions of one RabbitMQ consumer

All sessions of a `RabbitmqConsumer` share `_connection`, `_channel` and
`_current_raw_message`, the message that `ack()` and `nack()` settle. This file says
what a session may rely on when no other one is active: the first two refer to what
the session opened, or to nothing, and while its handler runs the last one refers to
the message the handler was called for.

## What is proved

* `Step.harmless` — what the steps of a session that is not active, and those of
  `close()`, do to the fields: at most reset them.
* `isolated_of_reach` — in interleavings where a session opens its connection only while
  no other one is active (`Serial`), each settles its own messages, by what became of
  their handlers, and closes what it opened.
-/

namespace OpenframeAdapters.Queue.Rabbitmq

open Python OpenframeAdapters.Core

variable {B W T Ctx : Type} {cd : Codec B W T Ctx} {i c : ℕ} {s s' : Shared B W T Ctx}
  {p : Task Ctx} {e : Ev B W Ctx} {r : Shared B W T Ctx × Task Ctx}

/-- A `subscribe()` call that has opened its connection and may still use the fields: it has not
come to the last await of `_close_connection()`. -/
def Task.active {Ctx : Type} : Task Ctx → Prop
  | .opening .. | .settingQos .. | .declaring .. | .entering _ | .polling _
  | .handling .. | .settling _ | .exiting .. | .closingChannel (.session _) => True
  | _ => False

/-! ### What a session owns -/

/-- Session `i` opened `c`, and `_connection` refers to no other connection. -/
structure Own (i : ℕ) (s : Shared B W T Ctx) (c : ℕ) : Prop where
  /-- Session `i` opened it. -/
  opened : .opened i c ∈ s.journal
  /-- `_connection` refers to it, or to nothing. -/
  connection : s.connection = none ∨ s.connection = some c

/-- Neither does `_channel` refer to another one's channel. -/
structure OwnBoth (i : ℕ) (s : Shared B W T Ctx) (c : ℕ) : Prop extends Own i s c where
  /-- `_channel` refers to its channel, or to nothing. -/
  channel : s.channel = none ∨ s.channel = some c

/-- What an active session `i` relies on. -/
def Owns (i : ℕ) (s : Shared B W T Ctx) : Task Ctx → Prop
  | .opening own _ => Own i s own
  | .settingQos own _ | .declaring own _ _ => OwnBoth i s own
  | .entering v | .polling v | .settling v | .exiting v _ => OwnBoth i s v.own
  | .handling v m _ => OwnBoth i s v.own ∧ s.current = some m ∧ m.session = i
  | .closingChannel (.session _) => ∃ own, Own i s own
  | _ => True

/-- From `s` to `s'` the fields are at most reset, and no message is taken. -/
structure Harmless (s s' : Shared B W T Ctx) : Prop where
  /-- `_connection` is at most reset. -/
  connection : s'.connection = none ∨ s'.connection = s.connection
  /-- `_channel` is at most reset. -/
  channel : s'.channel = none ∨ s'.channel = s.channel
  /-- `_current_raw_message` is left alone. -/
  current : s'.current = s.current
  /-- The journal goes on. -/
  journal : s.journal <:+ s'.journal

theorem Own.harmless (h : Own i s c) (hq : Harmless s s') : Own i s' c where
  opened := hq.journal.subset h.opened
  connection := by
    rcases hq.connection with hc | hc
    · exact .inl hc
    · exact h.connection.imp hc.trans hc.trans

theorem OwnBoth.harmless (h : OwnBoth i s c) (hq : Harmless s s') : OwnBoth i s' c where
  toOwn := h.toOwn.harmless hq
  channel := by
    rcases hq.channel with hc | hc
    · exact .inl hc
    · exact h.channel.imp hc.trans hc.trans

theorem Owns.harmless (h : Owns i s p) (hq : Harmless s s') : Owns i s' p := by
  cases p with
  | opening own ctx => exact Own.harmless h hq
  | settingQos own ctx | declaring own d ctx => exact OwnBoth.harmless h hq
  | entering v | polling v | settling v | exiting v res => exact OwnBoth.harmless h hq
  | handling v m token => exact ⟨h.1.harmless hq, hq.current.trans h.2.1, h.2.2⟩
  | closingChannel k =>
    cases k with
    | session res =>
      obtain ⟨own, ho⟩ := h
      exact ⟨own, ho.harmless hq⟩
    | close => trivial
  | _ => trivial

theorem harmless_closeRest (k : Caller) : Harmless s (closeRest i s k).1 := by
  unfold closeRest
  split
  · cases k with
    | session res => exact ⟨.inr rfl, .inr rfl, rfl, List.suffix_cons ..⟩
    | close => exact ⟨.inr rfl, .inr rfl, rfl, List.suffix_rfl⟩
  · cases k <;> exact ⟨.inr rfl, .inr rfl, rfl, List.suffix_rfl⟩

theorem harmless_startFailed (x : PyExc) (stale : Bool) : Harmless s (startFailed s x stale).1 := by
  unfold startFailed
  split_ifs
  · exact ⟨.inl rfl, .inl rfl, rfl, List.suffix_rfl⟩
  · exact ⟨.inr rfl, .inr rfl, rfl, List.suffix_rfl⟩

/-- The steps of a session that is not active, and those of `close()`, are harmless, unless it
opens its connection. -/
theorem Step.harmless (hs : Step cd i s p e r) (hp : ¬ p.active)
    (hc : ∀ ctx, p = .connecting ctx → e ≠ .ok) : Harmless s r.1 := by
  cases hs with
  | subscribe => exact ⟨.inr rfl, .inr rfl, rfl, List.suffix_rfl⟩
  | connected => exact absurd rfl (hc _ rfl)
  | notConnected => exact harmless_startFailed _ _
  | @channelClosed k =>
    cases k with
    | session res => exact absurd trivial hp
    | close =>
      have h := harmless_closeRest (i := i) (s := { s with channel := none }) .close
      exact ⟨h.connection, .inl (h.channel.elim id id), h.current, h.journal⟩
  | @channelCancelled k =>
    cases k with
    | session res => exact absurd trivial hp
    | close => exact ⟨.inr rfl, .inl rfl, rfl, List.suffix_rfl⟩
  | @connectionClosed k | @connectionCancelled k =>
    cases k <;> exact ⟨.inl rfl, .inr rfl, rfl, List.suffix_rfl⟩
  | close =>
    unfold Rabbitmq.close closeConnection
    dsimp only
    split
    · exact ⟨.inr rfl, .inr rfl, rfl, List.suffix_rfl⟩
    · have h := harmless_closeRest (i := i) (s := { s with running := false }) .close
      exact ⟨h.connection, h.channel, h.current, h.journal⟩
  | _ => exact absurd trivial hp

/-! ### What a session writes in the journal -/

/-- Sessions settle their own messages, by what became of their handlers, and close what they
opened. -/
structure Isolated (j : Journal (Message B W) (T × Ctx)) : Prop where
  /-- A `finally` block closes what its session opened. -/
  closed : ∀ i c, .closed i c ∈ j → .opened i c ∈ j
  /-- A message is acked by its session, once its handler has returned. -/
  acked : ∀ i m, .settled i .ack m ∈ j → m.session = i ∧ .returned m ∈ j
  /-- A message is nacked by its session, once unpacking it or its handler has failed. -/
  nacked : ∀ i m, .settled i .nack m ∈ j → m.session = i ∧ .failed m ∈ j

section Journal

variable {j : Journal (Message B W) (T × Ctx)}

/-- An entry that is neither about settling nor about closing. -/
theorem Isolated.note (h : Isolated j) {x : Entry (Message B W) (T × Ctx)}
    (hc : ∀ i c, x ≠ .closed i c) (hs : ∀ i v m, x ≠ .settled i v m) : Isolated (x :: j) where
  closed i c hm := by
    have hm := (List.mem_cons.mp hm).resolve_left fun h => hc i c h.symm
    exact .tail _ (h.closed i c hm)
  acked i m hm := by
    have hm := (List.mem_cons.mp hm).resolve_left fun h => hs i .ack m h.symm
    exact ⟨(h.acked i m hm).1, .tail _ (h.acked i m hm).2⟩
  nacked i m hm := by
    have hm := (List.mem_cons.mp hm).resolve_left fun h => hs i .nack m h.symm
    exact ⟨(h.nacked i m hm).1, .tail _ (h.nacked i m hm).2⟩

theorem Isolated.close (h : Isolated j) (hc : .opened i c ∈ j) : Isolated (.closed i c :: j) where
  closed k d hk := by
    rcases List.mem_cons.mp hk with hk | hk
    · cases hk
      exact .tail _ hc
    · exact .tail _ (h.closed k d hk)
  acked k m hk := by
    have hk := h.acked k m (by simpa using hk)
    exact ⟨hk.1, .tail _ hk.2⟩
  nacked k m hk := by
    have hk := h.nacked k m (by simpa using hk)
    exact ⟨hk.1, .tail _ hk.2⟩

theorem Isolated.ack (h : Isolated j) {m : MsgId} (hm : m.session = i) (hr : .returned m ∈ j) :
    Isolated (.settled i .ack m :: j) where
  closed k d hk := .tail _ (h.closed k d (by simpa using hk))
  acked k n hk := by
    rcases List.mem_cons.mp hk with hk | hk
    · cases hk
      exact ⟨hm, .tail _ hr⟩
    · exact ⟨(h.acked k n hk).1, .tail _ (h.acked k n hk).2⟩
  nacked k n hk := by
    have hk := h.nacked k n (by simpa using hk)
    exact ⟨hk.1, .tail _ hk.2⟩

theorem Isolated.nack (h : Isolated j) {m : MsgId} (hm : m.session = i) (hf : .failed m ∈ j) :
    Isolated (.settled i .nack m :: j) where
  closed k d hk := .tail _ (h.closed k d (by simpa using hk))
  acked k n hk := by
    have hk := h.acked k n (by simpa using hk)
    exact ⟨hk.1, .tail _ hk.2⟩
  nacked k n hk := by
    rcases List.mem_cons.mp hk with hk | hk
    · cases hk
      exact ⟨hm, .tail _ hf⟩
    · exact ⟨(h.nacked k n hk).1, .tail _ (h.nacked k n hk).2⟩

end Journal

/-- A step of session `i` keeps the journal isolated, and the session owning what it did. -/
structure Keeps (i : ℕ) (r : Shared B W T Ctx × Task Ctx) : Prop where
  /-- The journal is isolated. -/
  isolated : Isolated r.1.journal
  /-- The session owns what it relies on. -/
  owns : Owns i r.1 r.2

/-- What `_connection` refers to was opened by the session that owns it. -/
theorem Own.mem_journal {d : ℕ} (h : Own i s c) (hd : s.connection = some d) :
    .opened i d ∈ s.journal := by
  obtain rfl : d = c := by simpa [hd] using h.connection
  exact h.opened

theorem keeps_closeRest (h : Isolated s.journal) (ho : Own i s c) (res : Outcome) :
    Keeps i (closeRest i s (.session res)) := by
  unfold closeRest
  split
  next d hd => exact ⟨h.close (ho.mem_journal hd), trivial⟩
  next => exact ⟨h, trivial⟩

theorem keeps_teardown (h : Isolated s.journal) (ho : OwnBoth i s c) (res : Outcome) :
    Keeps i (teardown i s res) := by
  unfold teardown closeConnection
  split
  next d hd =>
    obtain rfl : d = c := by simpa [hd] using ho.channel
    exact ⟨h.close ho.opened, d, .tail _ ho.opened, ho.connection⟩
  next => exact keeps_closeRest h ho.toOwn res

theorem keeps_startFailed (h : Isolated s.journal) (x : PyExc) (stale : Bool) :
    Keeps i (startFailed s x stale) := by
  unfold startFailed
  split_ifs <;> exact ⟨h, trivial⟩

theorem OwnBoth.note (h : OwnBoth i s c) (x : Entry (Message B W) (T × Ctx)) :
    OwnBoth i (s.record x) c :=
  ⟨⟨.tail _ h.opened, h.connection⟩, h.channel⟩

theorem keeps_takeMessage {v : Locals Ctx} (h : Isolated s.journal) (ho : OwnBoth i s v.own)
    (message : Message B W) : Keeps i (takeMessage cd i s v message) := by
  have hdel : Isolated (.delivered ⟨i, v.count⟩ message s.running :: s.journal) :=
    h.note nofun nofun
  unfold takeMessage
  dsimp only
  split_ifs
  · split
    · exact ⟨hdel.note nofun nofun, ⟨⟨.tail _ (.tail _ ho.opened), ho.connection⟩, ho.channel⟩,
        rfl, rfl⟩
    · have hfail : Isolated (.failed ⟨i, v.count⟩ ::
          .delivered ⟨i, v.count⟩ message s.running :: s.journal) := hdel.note nofun nofun
      exact ⟨hfail.nack rfl List.mem_cons_self,
        ⟨.tail _ (.tail _ (.tail _ ho.opened)), ho.connection⟩, ho.channel⟩
  · exact ⟨hdel, ho.note _⟩

/-- A step of a session that owns what it relies on. -/
theorem Step.keeps (hs : Step cd i s p e r) (h : Isolated s.journal) (ho : Owns i s p) :
    Keeps i r := by
  cases hs with
  | subscribe => exact ⟨h, trivial⟩
  | connected => exact ⟨h.note nofun nofun, List.mem_cons_self, .inr rfl⟩
  | notConnected | notOpened | qosFailed | notDeclared => exact keeps_startFailed h _ _
  | opened => exact ⟨h, ⟨ho.opened, ho.connection⟩, .inr rfl⟩
  | qosSet =>
    unfold Rabbitmq.qosSet
    split
    · exact ⟨h, ho⟩
    · exact keeps_startFailed h _ _
  | declared => exact ⟨h, ⟨ho.opened, ho.connection⟩, ho.channel⟩
  | entered => exact ⟨h, ho⟩
  | notEntered => exact keeps_teardown h ho _
  | message => exact keeps_takeMessage h ho _
  | stop | iteratorRaised | settleCancelled => exact ⟨h, ho⟩
  | @handled v m token =>
    have hret : Isolated (.returned m :: s.journal) := h.note nofun nofun
    have hcur : (s.record (.returned m)).current = some m := ho.2.1
    simp only [settle, hcur]
    exact ⟨hret.ack ho.2.2 List.mem_cons_self, (ho.1.note _).note _⟩
  | @handlerFailed v m token x hx =>
    have hfail : Isolated (.failed m :: s.journal) := h.note nofun nofun
    have hcur : (s.record (.failed m)).current = some m := ho.2.1
    simp only [settle, hcur]
    exact ⟨hfail.nack ho.2.2 List.mem_cons_self, (ho.1.note _).note _⟩
  | handlerCancelled => exact ⟨h, ho.1⟩
  | settled => exact ⟨h, ho⟩
  | exited | exitFailed => exact keeps_teardown h ho _
  | @channelClosed k =>
    cases k with
    | session res =>
      obtain ⟨own, hown⟩ := ho
      exact keeps_closeRest (s := { s with channel := none }) h ⟨hown.opened, hown.connection⟩ res
    | close =>
      unfold closeRest
      split <;> exact ⟨h, trivial⟩
  | @connectionClosed k | @channelCancelled k | @connectionCancelled k =>
    cases k <;> exact ⟨h, trivial⟩
  | close =>
    unfold Rabbitmq.close closeConnection closeRest
    dsimp only
    split
    · exact ⟨h, trivial⟩
    · split <;> exact ⟨h, trivial⟩

/-! ### Sessions that do not overlap -/

variable {ok : Guard (Shared B W T Ctx) (Task Ctx) (Ev B W Ctx)}
  {l : Loop (Shared B W T Ctx) (Task Ctx)}

/-- A session opens its connection only while no other one is active. -/
def Serial : Guard (Shared B W T Ctx) (Task Ctx) (Ev B W Ctx) := fun l i e =>
  (∃ ctx, l.task i = .connecting ctx) → e = .ok → ∀ j, ¬ (l.task j).active

theorem not_active_closeRest (k : Caller) : ¬ (closeRest i s k).2.active := by
  unfold closeRest
  split
  · exact not_false
  · cases k <;> exact not_false

theorem not_active_startFailed (x : PyExc) (stale : Bool) :
    ¬ (startFailed s x stale).2.active := by
  unfold startFailed
  split_ifs <;> exact not_false

/-- A session becomes active by opening its connection. -/
theorem Step.begin (h : Step cd i s p e r) (hp : ¬ p.active) (hr : r.2.active) :
    (∃ ctx, p = .connecting ctx) ∧ e = .ok := by
  cases h with
  | subscribe => exact hr.elim
  | connected => exact ⟨⟨_, rfl⟩, rfl⟩
  | notConnected => exact absurd hr (not_active_startFailed _ _)
  | @channelClosed k =>
    cases k with
    | session res => exact absurd trivial hp
    | close => exact absurd hr (not_active_closeRest _)
  | @channelCancelled k =>
    cases k with
    | session res => exact absurd trivial hp
    | close => exact hr.elim
  | @connectionClosed k | @connectionCancelled k => cases k <;> exact hr.elim
  | close =>
    unfold Rabbitmq.close closeConnection at hr
    dsimp only at hr
    split at hr
    · exact hr.elim
    · exact absurd hr (not_active_closeRest _)
  | _ => exact absurd trivial hp

theorem atMostOne_active (h : Reach (resume cd) Serial fresh l) :
    ∀ i j, (l.task i).active → (l.task j).active → i = j := by
  refine h.atMostOne (fun i => id) ?_
  intro l i e s p hr hok hp hin hout j
  obtain ⟨hc, he⟩ := (step_of_resume hp).begin hout hin
  exact hok hc he j

theorem owns_of_not_active (h : ¬ p.active) : Owns i s p := by
  cases p with
  | closingChannel k =>
    cases k with
    | session res => exact absurd trivial h
    | close => trivial
  | idle | connecting | closingConnection | ended | closed | closeFailed => trivial
  | _ => exact absurd trivial h

/-- **Isolation**: sessions that do not overlap settle their own messages, by what became of
their handlers, and close what they opened. -/
theorem isolated_of_reach (h : Reach (resume cd) Serial fresh l) : Isolated l.shared.journal := by
  suffices hall : Isolated l.shared.journal ∧ ∀ i, Owns i l.shared (l.task i) from hall.1
  refine h.invariant (I := fun l => Isolated l.shared.journal ∧ ∀ i, Owns i l.shared (l.task i))
    ⟨⟨nofun, nofun, nofun⟩, fun _ => trivial⟩ ?_
  rintro l i e s p hr ⟨hj, ho⟩ hok hp
  have hstep := step_of_resume hp
  obtain ⟨hj', ho'⟩ := hstep.keeps hj (ho i)
  refine ⟨hj', fun k => ?_⟩
  by_cases hk : k = i
  · subst hk
    simpa using ho'
  · dsimp only
    rw [Function.update_of_ne hk]
    by_cases hact : (l.task k).active
    · -- `k` is active, so `i` is not, and what `i` does is harmless
      have hi : ¬ (l.task i).active := fun hi => hk (atMostOne_active hr k i hact hi)
      exact (ho k).harmless (hstep.harmless hi fun ctx hc he => hok ⟨ctx, hc⟩ he k hact)
    · exact owns_of_not_active hact

end OpenframeAdapters.Queue.Rabbitmq
