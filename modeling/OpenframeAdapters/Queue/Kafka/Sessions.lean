import OpenframeAdapters.Queue.Kafka.Consumer

/-!
# Sessions of one Kafka consumer

All sessions of a `KafkaConsumer` share its field `_consumer`. This file says what
a session may rely on when no other one is active: the field refers to the client
the session constructed, or to nothing, and the loop runs over that client.

## What is proved

* `Step.effect` — what a step does to the shared state: it constructs a client, takes
  a record, commits, or does none of these (`Quiet`).
* `atMostOne_active`, `owns_of_reach`, `clean_of_reach` — in interleavings whose sessions
  do not overlap (`Serial`), at most one session is active, it owns its client, and it
  settles and closes only what is its own.
-/

namespace OpenframeAdapters.Queue.Kafka

open Python OpenframeAdapters.Core

variable {P B T Ctx : Type} {cd : Codec B T Ctx} {i : ℕ}
  {s s' s'' : Shared P B T Ctx} {p : Task P Ctx} {e : Ev P B Ctx}

/-! ### What a step does to the shared state -/

/-- From `s` to `s'` no client is constructed, no record taken and nothing committed. -/
structure Quiet (s s' : Shared P B T Ctx) : Prop where
  /-- No client is constructed. -/
  made : s'.made = s.made
  /-- `_consumer` is at most reset. -/
  consumer : s'.consumer = none ∨ s'.consumer = s.consumer
  /-- No iterator moves. -/
  position : ∀ c, (s'.client c).position = (s.client c).position
  /-- Nothing is committed. -/
  committed : s'.committed = s.committed
  /-- The journal goes on. -/
  journal : s.journal <:+ s'.journal
  /-- No record is taken. -/
  delivered : ∀ {m r b}, .delivered m r b ∈ s'.journal → .delivered m r b ∈ s.journal

theorem Quiet.refl (s : Shared P B T Ctx) : Quiet s s :=
  ⟨rfl, .inr rfl, fun _ => rfl, rfl, List.suffix_rfl, id⟩

theorem Quiet.trans (h : Quiet s s') (h' : Quiet s' s'') : Quiet s s'' where
  made := h'.made.trans h.made
  consumer := by
    rcases h'.consumer with hc | hc
    · exact .inl hc
    · exact h.consumer.imp hc.trans hc.trans
  position c := (h'.position c).trans (h.position c)
  committed := h'.committed.trans h.committed
  journal := h.journal.trans h'.journal
  delivered hm := h.delivered (h'.delivered hm)

/-- Writing an entry that is not about a delivery. -/
theorem quiet_record (s : Shared P B T Ctx) {x : Entry (Record P B) (T × Ctx)}
    (hx : ∀ m r b, x ≠ .delivered m r b) : Quiet s (s.record x) where
  made := rfl
  consumer := .inr rfl
  position _ := rfl
  committed := rfl
  journal := List.suffix_cons ..
  delivered {m r b} hm := (List.mem_cons.mp hm).resolve_left fun h => hx m r b h.symm

/-- Changing a client without moving its iterator. -/
theorem quiet_setClient (s : Shared P B T Ctx) {c : ℕ} {f : Client P → Client P}
    (hf : ∀ k, (f k).position = k.position) : Quiet s (s.setClient c f) where
  made := rfl
  consumer := .inr rfl
  position d := by
    by_cases hd : d = c
    · subst hd; simp [Shared.setClient, hf]
    · simp [Shared.setClient, Function.update_of_ne hd]
  committed := rfl
  journal := List.suffix_rfl
  delivered := id

theorem quiet_stopClient (s : Shared P B T Ctx) (c : ℕ) : Quiet s (s.stopClient c) :=
  quiet_setClient s fun _ => rfl

/-- Resetting `_consumer`. -/
theorem quiet_reset (s : Shared P B T Ctx) : Quiet s { s with consumer := none } :=
  ⟨rfl, .inl rfl, fun _ => rfl, rfl, List.suffix_rfl, id⟩

/-- Setting `_running`. -/
theorem quiet_running (s : Shared P B T Ctx) (b : Bool) : Quiet s { s with running := b } :=
  ⟨rfl, .inr rfl, fun _ => rfl, rfl, List.suffix_rfl, id⟩

theorem quiet_startFailed (x : PyExc) (stale : Bool) : Quiet s (startFailed s x stale).1 := by
  unfold startFailed
  split_ifs
  · exact quiet_reset s
  · exact quiet_reset s
  · exact .refl s

theorem quiet_finished (res : Outcome) : Quiet s (finished s res).1 :=
  (quiet_running s false).trans (quiet_reset _)

theorem quiet_teardown (res : Outcome) : Quiet s (teardown i s res).1 := by
  unfold teardown
  split
  · exact (quiet_stopClient s _).trans (quiet_record _ (by simp))
  · exact quiet_finished res

theorem quiet_startLoop (own : ℕ) (ctx : Ctx) : Quiet s (startLoop i s own ctx).1 := by
  have hclient : Quiet s (s.setClient own fun k => { k with connected := true }) :=
    quiet_setClient s fun _ => rfl
  have h : Quiet s { s.setClient own (fun k => { k with connected := true }) with running := true } :=
    hclient.trans (quiet_running _ true)
  unfold startLoop
  dsimp only
  split
  · exact h
  · exact h.trans (quiet_teardown _)

theorem quiet_nack (v : Locals Ctx) : Quiet s (nack i s v).1 := by
  unfold nack
  split
  · exact quiet_record s (by simp)
  · exact quiet_teardown _

theorem quiet_ack (v : Locals Ctx) (m : MsgId) : Quiet s (ack i s v m).1 := by
  unfold ack
  dsimp only
  split
  all_goals exact quiet_record s (by simp)

/-- After the delivery is written down, the body of the loop does nothing to the driver. -/
theorem quiet_takeMessage (v : Locals Ctx) (r : Record P B) :
    Quiet (s.record (.delivered ⟨i, v.count⟩ r s.running)) (takeMessage cd i s v r).1 := by
  unfold takeMessage
  dsimp only
  split_ifs
  · split
    · split
      · exact quiet_record _ (by simp)
      · exact (quiet_record _ (by simp)).trans (quiet_nack _)
    · exact (quiet_record _ (by simp)).trans (quiet_nack _)
  · exact quiet_teardown _

theorem quiet_close : Quiet s (close s).1 := by
  unfold close
  split
  · exact (quiet_stopClient s _).trans (quiet_running _ false)
  · exact quiet_running s false

/-- What a step of `i` from the task state `p` on the event `e` does to the shared state. -/
inductive Effect [DecidableEq P] (i : ℕ) (s : Shared P B T Ctx) :
    Task P Ctx → Ev P B Ctx → Shared P B T Ctx → Prop
  /-- It constructs a client. -/
  | construct {ctx : Ctx} : Effect i s .idle (.subscribe ctx none) (s.construct i)
  /-- It takes a record. -/
  | take {v : Locals Ctx} {r : Record P B} {s' : Shared P B T Ctx} : s.admits v.iterator r = true →
    Quiet ((s.advance v.iterator r).record (.delivered ⟨i, v.count⟩ r s.running)) s' →
    Effect i s (.polling v) (.message r) s'
  /-- It commits. -/
  | commit {v : Locals Ctx} {offsets : P → Option ℕ} : Effect i s (.committing v offsets) .ok
      { s with committed := fun p => (offsets p).getD (s.committed p) }
  /-- It does none of these. -/
  | quiet {p : Task P Ctx} {e : Ev P B Ctx} {s' : Shared P B T Ctx} : Quiet s s' → Effect i s p e s'

theorem Step.effect [DecidableEq P] {r : Shared P B T Ctx × Task P Ctx} (h : Step cd i s p e r) :
    Effect i s p e r.1 := by
  cases h with
  | subscribe => exact .construct
  | notConstructed => exact .quiet (quiet_startFailed ..)
  | started => exact .quiet (quiet_startLoop ..)
  | notStarted => exact .quiet (quiet_startFailed ..)
  | message hadm => exact .take hadm (quiet_takeMessage ..)
  | stop => exact .quiet (quiet_teardown _)
  | iteratorRaised => exact .quiet (quiet_teardown _)
  | handled => exact .quiet ((quiet_record s (by simp)).trans (quiet_ack ..))
  | handlerFailed => exact .quiet ((quiet_record s (by simp)).trans (quiet_nack _))
  | handlerCancelled => exact .quiet (quiet_teardown _)
  | committed => exact .commit
  | commitFailed => exact .quiet (.refl s)
  | commitCancelled => exact .quiet (quiet_teardown _)
  | stopped => exact .quiet (quiet_finished _)
  | stopFailed => exact .quiet (quiet_finished _)
  | stopCancelled => exact .quiet (.refl s)
  | close => exact .quiet quiet_close
  | closed => exact .quiet (quiet_reset s)
  | closeCancelled => exact .quiet (.refl s)

/-! ### What a session owns -/

/-- Session `i` owns client `c`, and `_consumer` refers to no other. -/
structure Own (i : ℕ) (s : Shared P B T Ctx) (c : ℕ) : Prop where
  /-- The client has been constructed. -/
  made : c < s.made
  /-- Session `i` constructed it. -/
  opened : .opened i c ∈ s.journal
  /-- `_consumer` refers to it, or to nothing. -/
  consumer : s.consumer = none ∨ s.consumer = some c

/-- The loop of session `i` runs over the client it owns. -/
structure LoopOwns (i : ℕ) (s : Shared P B T Ctx) (c d : ℕ) : Prop where
  /-- The session owns the client `c`. -/
  own : Own i s c
  /-- The loop runs over that client. -/
  iterator : d = c

/-- What an active session `i` relies on. -/
def Owns (i : ℕ) (s : Shared P B T Ctx) : Task P Ctx → Prop
  | .starting own _ => Own i s own
  | .polling v | .handling v _ _ => LoopOwns i s v.own v.iterator
  | .committing v offsets => LoopOwns i s v.own v.iterator ∧ offsets = (s.client v.own).position
  | _ => True

theorem Own.quiet {c : ℕ} (h : Own i s c) (hq : Quiet s s') : Own i s' c where
  made := hq.made ▸ h.made
  opened := hq.journal.subset h.opened
  consumer := by
    rcases hq.consumer with hc | hc
    · exact .inl hc
    · exact h.consumer.imp hc.trans hc.trans

theorem LoopOwns.quiet {c d : ℕ} (h : LoopOwns i s c d) (hq : Quiet s s') : LoopOwns i s' c d :=
  ⟨h.own.quiet hq, h.iterator⟩

theorem Owns.quiet (h : Owns i s p) (hq : Quiet s s') : Owns i s' p := by
  cases p with
  | starting own ctx => exact Own.quiet h hq
  | polling v => exact LoopOwns.quiet h hq
  | handling v m token => exact LoopOwns.quiet h hq
  | committing v offsets => exact ⟨h.1.quiet hq, h.2.trans (hq.position _).symm⟩
  | _ => trivial

theorem owns_of_not_active (h : ¬ p.active) : Owns i s p := by
  cases p with
  | starting own ctx => exact absurd trivial h
  | polling v => exact absurd trivial h
  | handling v m token => exact absurd trivial h
  | committing v offsets => exact absurd trivial h
  | _ => trivial

theorem not_active_startFailed (x : PyExc) (stale : Bool) :
    ¬ (startFailed s x stale).2.active := by
  unfold startFailed
  split_ifs <;> exact not_false

theorem not_active_teardown (res : Outcome) : ¬ (teardown i s res).2.active := by
  unfold teardown
  split <;> exact not_false

theorem not_active_close : ¬ (close s).2.active := by
  unfold close
  split <;> exact not_false

theorem LoopOwns.nack {v : Locals Ctx} (h : LoopOwns i s v.own v.iterator) :
    Owns i (nack i s v).1 (nack i s v).2 := by
  have hq : Quiet s (Kafka.nack i s v).1 := quiet_nack v
  revert hq
  unfold Kafka.nack
  split
  · exact fun hq => h.quiet hq
  · exact fun _ => owns_of_not_active (not_active_teardown _)

/-- `ack()` commits on the client of the session. -/
theorem LoopOwns.ack {v : Locals Ctx} (h : LoopOwns i s v.own v.iterator) (m : MsgId) :
    Owns i (ack i s v m).1 (ack i s v m).2 := by
  have h' : LoopOwns i (s.record (.settled i .ack m)) v.own v.iterator :=
    h.quiet (quiet_record s (by simp))
  unfold Kafka.ack
  dsimp only
  split
  next c hc =>
    obtain rfl : c = v.own := by simpa [hc] using h'.own.consumer
    exact ⟨h', rfl⟩
  next => exact h'

theorem Own.startLoop {own : ℕ} (h : Own i s own) (ctx : Ctx) :
    Owns i (startLoop i s own ctx).1 (startLoop i s own ctx).2 := by
  have hq : Quiet s (Kafka.startLoop i s own ctx).1 := quiet_startLoop own ctx
  revert hq
  unfold Kafka.startLoop
  dsimp only
  split
  next c hc =>
    have hc : s.consumer = some c := hc
    obtain rfl : c = own := by simpa [hc] using h.consumer
    exact fun hq => ⟨h.quiet hq, rfl⟩
  next => exact fun _ => owns_of_not_active (not_active_teardown _)

theorem LoopOwns.takeMessage {v : Locals Ctx} {s : Shared P B T Ctx}
    (h : LoopOwns i s v.own v.iterator) (r : Record P B) :
    Owns i (takeMessage cd i s v r).1 (takeMessage cd i s v r).2 := by
  have h' : LoopOwns i (s.record (.delivered ⟨i, v.count⟩ r s.running)) v.own v.iterator :=
    ⟨⟨h.own.made, .tail _ h.own.opened, h.own.consumer⟩, h.iterator⟩
  have h'' (x : Entry (Record P B) (T × Ctx)) (hx : ∀ m r b, x ≠ .delivered m r b) :
      LoopOwns i ((s.record (.delivered ⟨i, v.count⟩ r s.running)).record x) v.own v.iterator :=
    h'.quiet (quiet_record _ hx)
  unfold Kafka.takeMessage
  dsimp only
  split_ifs
  · split
    · split
      · exact h'' (.invoked _ _) (by simp)
      · exact LoopOwns.nack (h'' (.failed _) (by simp))
    · exact LoopOwns.nack (h'' (.failed _) (by simp))
  · exact owns_of_not_active (not_active_teardown _)

theorem Own.construct (s : Shared P B T Ctx) (i : ℕ) : Own i (s.construct i) s.made where
  made := Nat.lt_succ_self _
  opened := List.mem_cons_self
  consumer := .inr rfl

/-- A session goes on owning its client. -/
theorem Owns.step [DecidableEq P] {r : Shared P B T Ctx × Task P Ctx} (h : Owns i s p)
    (hs : Step cd i s p e r) : Owns i r.1 r.2 := by
  cases hs with
  | subscribe => exact Own.construct s i
  | notConstructed => exact owns_of_not_active (not_active_startFailed _ _)
  | started => exact Own.startLoop h _
  | notStarted => exact owns_of_not_active (not_active_startFailed _ _)
  | message hadm =>
    exact LoopOwns.takeMessage (s := s.advance _ _)
      ⟨⟨h.own.made, h.own.opened, h.own.consumer⟩, h.iterator⟩ _
  | stop => exact owns_of_not_active (not_active_teardown _)
  | iteratorRaised => exact owns_of_not_active (not_active_teardown _)
  | @handled v m token =>
    have hq : Quiet s (s.record (.returned m)) := quiet_record s (by simp)
    exact LoopOwns.ack (v := { v with ctx := token }) ⟨h.own.quiet hq, h.iterator⟩ m
  | @handlerFailed v m token x =>
    have hq : Quiet s (s.record (.failed m)) := quiet_record s (by simp)
    exact LoopOwns.nack ⟨h.own.quiet hq, h.iterator⟩
  | handlerCancelled => exact owns_of_not_active (not_active_teardown _)
  | committed => exact ⟨⟨h.1.own.made, h.1.own.opened, h.1.own.consumer⟩, h.1.iterator⟩
  | commitFailed => exact h.1
  | commitCancelled => exact owns_of_not_active (not_active_teardown _)
  | stopped => exact trivial
  | stopFailed => exact trivial
  | stopCancelled => exact trivial
  | close => exact owns_of_not_active not_active_close
  | closed => exact trivial
  | closeCancelled => exact trivial

/-! ### What a session writes in the journal -/

/-- The messages that session `i`, suspended at `p`, knows of are its own. -/
def Named (i : ℕ) : Task P Ctx → Prop
  | .polling v | .committing v _ => ∀ m, v.message = some m → m.session = i
  | .handling v m _ => m.session = i ∧ ∀ m, v.message = some m → m.session = i
  | _ => True

/-- Sessions settle their own messages and close their own clients. -/
structure Clean (j : Journal (Record P B) (T × Ctx)) : Prop where
  /-- A `finally` block closes what its session opened. -/
  closed : ∀ i c, .closed i c ∈ j → .opened i c ∈ j
  /-- A settlement call is for a message of its session. -/
  settled : ∀ i v m, .settled i v m ∈ j → m.session = i

/-- A step of session `i` keeps the journal clean, and its messages its own. -/
structure Keeps (i : ℕ) (r : Shared P B T Ctx × Task P Ctx) : Prop where
  /-- The journal is clean. -/
  clean : Clean r.1.journal
  /-- The messages known are its own. -/
  named : Named i r.2

/-- An entry that is neither about settling nor about closing. -/
theorem Clean.note {j : Journal (Record P B) (T × Ctx)} (h : Clean j)
    {x : Entry (Record P B) (T × Ctx)} (hc : ∀ i c, x ≠ .closed i c)
    (hs : ∀ i v m, x ≠ .settled i v m) : Clean (x :: j) where
  closed i c hm := by
    have hm := (List.mem_cons.mp hm).resolve_left fun h => hc i c h.symm
    exact .tail _ (h.closed i c hm)
  settled i v m hm := by
    have hm := (List.mem_cons.mp hm).resolve_left fun h => hs i v m h.symm
    exact h.settled i v m hm

theorem Clean.settle {j : Journal (Record P B) (T × Ctx)} (h : Clean j) (v : Verdict) {m : MsgId}
    (hm : m.session = i) : Clean (.settled i v m :: j) where
  closed k c hk := .tail _ (h.closed k c (by simpa using hk))
  settled k w n hk := by
    rcases List.mem_cons.mp hk with hk | hk
    · cases hk
      exact hm
    · exact h.settled k w n hk

theorem Clean.close {j : Journal (Record P B) (T × Ctx)} (h : Clean j) {c : ℕ}
    (hc : .opened i c ∈ j) : Clean (.closed i c :: j) where
  closed k d hk := by
    rcases List.mem_cons.mp hk with hk | hk
    · cases hk
      exact .tail _ hc
    · exact .tail _ (h.closed k d hk)
  settled k w n hk := h.settled k w n (by simpa using hk)

theorem keeps_teardown (h : Clean s.journal) (hown : ∀ c, s.consumer = some c →
    .opened i c ∈ s.journal) (res : Outcome) : Keeps i (teardown i s res) := by
  unfold teardown
  split
  next c hc => exact ⟨h.close (hown c hc), trivial⟩
  next => exact ⟨h, trivial⟩

/-- What `_consumer` refers to was opened by the session that owns it. -/
theorem Own.mem_journal {c d : ℕ} (h : Own i s c) (hd : s.consumer = some d) :
    .opened i d ∈ s.journal := by
  obtain rfl : d = c := by simpa [hd] using h.consumer
  exact h.opened

theorem keeps_nack {v : Locals Ctx} (h : Clean s.journal)
    (hown : ∀ c, s.consumer = some c → .opened i c ∈ s.journal)
    (hm : ∀ m, v.message = some m → m.session = i) : Keeps i (nack i s v) := by
  unfold nack
  split
  next m hv => exact ⟨h.settle .nack (hm m hv), hm⟩
  next => exact keeps_teardown h hown _

theorem keeps_ack {v : Locals Ctx} {m : MsgId} (h : Clean s.journal) (hmi : m.session = i)
    (hm : ∀ m, v.message = some m → m.session = i) : Keeps i (ack i s v m) := by
  unfold ack
  dsimp only
  split
  all_goals exact ⟨h.settle .ack hmi, hm⟩

theorem keeps_takeMessage {v : Locals Ctx} (h : Clean s.journal)
    (hown : ∀ c, s.consumer = some c → .opened i c ∈ s.journal)
    (hm : ∀ m, v.message = some m → m.session = i) (r : Record P B) :
    Keeps i (takeMessage cd i s v r) := by
  have hlast : ∀ m, some (⟨i, v.count⟩ : MsgId) = some m → m.session = i := by
    rintro _ ⟨⟩
    rfl
  have hdel : Clean (.delivered ⟨i, v.count⟩ r s.running :: s.journal) := h.note nofun nofun
  have hown' (c : ℕ) (hc : s.consumer = some c) (x y : Entry (Record P B) (T × Ctx)) :
      .opened i c ∈ x :: y :: s.journal := .tail _ (.tail _ (hown c hc))
  unfold takeMessage
  dsimp only
  split_ifs
  · split
    · split
      · exact ⟨hdel.note nofun nofun, rfl, hlast⟩
      · exact keeps_nack (s := (s.record _).record _) (hdel.note nofun nofun)
          (fun c hc => hown' c hc _ _) hlast
    · exact keeps_nack (s := (s.record _).record _) (hdel.note nofun nofun)
        (fun c hc => hown' c hc _ _) hm
  · exact keeps_teardown (s := s.record _) hdel (fun c hc => .tail _ (hown c hc)) _

/-- A step of a session that owns its client keeps the journal clean. -/
theorem Step.keeps [DecidableEq P] {r : Shared P B T Ctx × Task P Ctx} (hs : Step cd i s p e r)
    (h : Clean s.journal) (hn : Named i p) (ho : Owns i s p) : Keeps i r := by
  cases hs with
  | subscribe => exact ⟨h.note nofun nofun, trivial⟩
  | notConstructed | notStarted =>
    unfold startFailed
    split_ifs <;> exact ⟨h, trivial⟩
  | @started own ctx =>
    have hown : Own i s own := ho
    unfold startLoop
    dsimp only
    split
    · exact ⟨h, nofun⟩
    · exact keeps_teardown (s := { s.setClient own _ with running := true }) h
        (fun d hd => hown.mem_journal hd) _
  | @message v m hadm =>
    exact keeps_takeMessage (s := s.advance _ _) h (fun c hc => ho.own.mem_journal hc) hn m
  | stop | iteratorRaised | handlerCancelled =>
    exact keeps_teardown h (fun c hc => ho.own.mem_journal hc) _
  | commitCancelled => exact keeps_teardown h (fun c hc => ho.1.own.mem_journal hc) _
  | @handled v m token =>
    exact keeps_ack (s := s.record (.returned m)) (v := { v with ctx := token })
      (h.note nofun nofun) hn.1 hn.2
  | @handlerFailed v m token x hx =>
    exact keeps_nack (s := s.record (.failed m)) (v := { v with ctx := token })
      (h.note nofun nofun) (fun c hc => .tail _ (ho.own.mem_journal hc)) hn.2
  | committed | commitFailed => exact ⟨h, hn⟩
  | stopped | stopFailed | stopCancelled => exact ⟨h, trivial⟩
  | close =>
    unfold Kafka.close
    split <;> exact ⟨h, trivial⟩
  | closed | closeCancelled => exact ⟨h, trivial⟩

/-! ### Sessions that do not overlap -/

variable [DecidableEq P] {ok : Guard (Shared P B T Ctx) (Task P Ctx) (Ev P B Ctx)}
  {offsets : P → ℕ} {l : Loop (Shared P B T Ctx) (Task P Ctx)}

/-- A session constructs its client only while no other one is active. -/
def Serial (cd : Codec B T Ctx) (ok : Guard (Shared P B T Ctx) (Task P Ctx) (Ev P B Ctx))
    (offsets : P → ℕ) : Prop :=
  ∀ {l i ctx}, Reach (resume cd) ok (fresh offsets) l → ok l i (.subscribe ctx none) →
    l.task i = .idle → ∀ j, ¬ (l.task j).active

/-- A session becomes active by constructing its client. -/
theorem Step.begin {r : Shared P B T Ctx × Task P Ctx} (h : Step cd i s p e r)
    (hp : ¬ p.active) (hr : r.2.active) : p = .idle ∧ ∃ ctx, e = .subscribe ctx none := by
  cases h with
  | subscribe => exact ⟨rfl, _, rfl⟩
  | notConstructed => exact absurd hr (not_active_startFailed _ _)
  | close => exact absurd hr not_active_close
  | stopped | stopFailed | stopCancelled | closed | closeCancelled => exact hr.elim
  | _ => exact absurd trivial hp

theorem atMostOne_active (hser : Serial cd ok offsets)
    (h : Reach (resume cd) ok (fresh offsets) l) :
    ∀ i j, (l.task i).active → (l.task j).active → i = j := by
  refine h.atMostOne (fun i => id) ?_
  intro l i e s p hr hok hp hin hout j
  obtain ⟨hidle, ctx, rfl⟩ := (step_of_resume hp).begin hout hin
  exact hser hr hok hidle j

/-- **Ownership**: where sessions do not overlap, every active one owns its client. -/
theorem owns_of_reach (hser : Serial cd ok offsets) (h : Reach (resume cd) ok (fresh offsets) l) :
    ∀ i, Owns i l.shared (l.task i) := by
  refine h.tasks (A := Owns) (fun i => trivial) ?_ ?_
  · intro l i e s p hr hA hok hp
    exact (hA i).step (step_of_resume hp)
  · intro l i j e s p hr hA hok hp hij
    by_cases hj : (l.task j).active
    · -- `j` is active, so `i` is not, and does not begin a session either
      have hi : ¬ (l.task i).active := fun hi => hij (atMostOne_active hser hr j i hj hi)
      have heff := (step_of_resume hp).effect
      generalize hti : l.task i = q at hp hi heff
      cases heff with
      | construct => exact absurd hj (hser hr hok hti j)
      | take => exact absurd trivial hi
      | commit => exact absurd trivial hi
      | quiet hq => exact (hA j).quiet hq
    · exact owns_of_not_active hj

/-- **Isolation in the journal**: sessions that do not overlap settle their own messages and
close their own clients. -/
theorem clean_of_reach (hser : Serial cd ok offsets)
    (h : Reach (resume cd) ok (fresh offsets) l) : Clean l.shared.journal := by
  suffices hall : Clean l.shared.journal ∧ ∀ i, Named i (l.task i) from hall.1
  refine h.invariant (I := fun l => Clean l.shared.journal ∧ ∀ i, Named i (l.task i))
    ⟨⟨nofun, nofun⟩, fun _ => trivial⟩ ?_
  rintro l i e s p hr ⟨hc, hn⟩ - hp
  obtain ⟨hc', hn'⟩ := (step_of_resume hp).keeps hc (hn i) (owns_of_reach hser hr i)
  refine ⟨hc', fun j => ?_⟩
  by_cases hj : j = i
  · subst hj
    simpa using hn'
  · simpa [Function.update_of_ne hj] using hn j

/-! ### One session -/

/-- Only task `0` calls `subscribe()`. -/
def OneSession : Guard (Shared P B T Ctx) (Task P Ctx) (Ev P B Ctx) :=
  fun _ i e => ∀ ctx x, e = .subscribe ctx x → i = 0

/-- The one session is that of task `0`. -/
theorem eq_zero_of_active (hone : ∀ l i e, ok l i e → OneSession l i e)
    (h : Reach (resume cd) ok (fresh offsets) l) : ∀ i, (l.task i).active → i = 0 := by
  refine h.tasks (A := fun i _ p => p.active → i = 0) (fun _ => False.elim) ?_ ?_
  · intro l i e s p hr hA hok hp hact
    by_cases hi : (l.task i).active
    · exact hA i hi
    · obtain ⟨-, ctx, rfl⟩ := (step_of_resume hp).begin hi hact
      exact hone _ _ _ hok ctx none rfl
  · intro l i j e s p hr hA hok hp hij
    exact hA j

theorem serial_of_oneSession (hone : ∀ l i e, ok l i e → OneSession l i e) :
    Serial cd ok offsets := by
  intro l i ctx hr hok hidle j hj
  obtain rfl : i = 0 := hone _ _ _ hok ctx none rfl
  obtain rfl : j = 0 := eq_zero_of_active hone hr j hj
  rw [hidle] at hj
  exact hj

/-- A task does not become idle again. -/
theorem Step.ne_idle {r : Shared P B T Ctx × Task P Ctx} (h : Step cd i s p e r) :
    r.2 ≠ .idle := by
  have hteardown (s : Shared P B T Ctx) (res : Outcome) : (teardown i s res).2 ≠ .idle := by
    unfold teardown
    split <;> exact nofun
  have hnack (s : Shared P B T Ctx) (v : Locals Ctx) : (nack i s v).2 ≠ .idle := by
    unfold nack
    split
    · exact nofun
    · exact hteardown _ _
  cases h with
  | notConstructed | notStarted =>
    unfold startFailed
    split_ifs <;> exact nofun
  | started =>
    unfold startLoop
    dsimp only
    split
    · exact nofun
    · exact hteardown _ _
  | message =>
    unfold takeMessage
    dsimp only
    split_ifs
    · split
      · split
        · exact nofun
        · exact hnack _ _
      · exact hnack _ _
    · exact hteardown _ _
  | stop | iteratorRaised | handlerCancelled | commitCancelled => exact hteardown _ _
  | handled =>
    unfold ack
    dsimp only
    split <;> exact nofun
  | handlerFailed => exact hnack _ _
  | close =>
    unfold Kafka.close
    split <;> exact nofun
  | _ => exact nofun

end OpenframeAdapters.Queue.Kafka
