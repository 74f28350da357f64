import OpenframeAdapters.Queue.CloseRule
import OpenframeAdapters.Queue.Rabbitmq.Consumer

/-!
# Closing a RabbitMQ consumer

`close()` and the `finally` block of `subscribe()` both run `_close_connection()`,
which closes what `_channel` refers to, then what `_connection` refers to, and resets
each field after its await. The two may run at the same time. A start-up that fails
with an AMQP or a socket error resets the fields without closing anything.

## What is proved

* `closeRule` — where `close()` begins late, and nothing is open that `_connection` does
  not refer to, the promise of `close()` is kept.
-/

namespace OpenframeAdapters.Queue.Rabbitmq

open Python OpenframeAdapters.Core

variable {B W T Ctx : Type} {cd : Codec B W T Ctx} {i c : ℕ} {s s' : Shared B W T Ctx}
  {p b : Task Ctx} {e : Ev B W Ctx} {r : Shared B W T Ctx × Task Ctx}
  {l : Loop (Shared B W T Ctx) (Task Ctx)}

/-- `subscribe()` is past its start-up. -/
def Task.started {Ctx : Type} : Task Ctx → Prop
  | .polling _ | .handling .. | .settling _ | .exiting .. | .closingChannel (.session _)
  | .closingConnection (.session _) | .ended _ => True
  | _ => False

/-- How the call has ended. -/
def Task.outcome {Ctx : Type} : Task Ctx → Option Outcome
  | .ended res => some res
  | _ => none

/-- The connection `c` is open. -/
def Shared.IsOpen (s : Shared B W T Ctx) (c : ℕ) : Prop := c < s.made ∧ (s.conn c).closed = false

/-- What the contract of `close()` looks at. -/
def surface : Surface (Shared B W T Ctx) (Task Ctx) (Message B W) (T × Ctx) where
  journal := Shared.journal
  isOpen := Shared.IsOpen
  outcome := Task.outcome

/-- One `subscribe()` and one `close()`. -/
def OnePair : Guard (Shared B W T Ctx) (Task Ctx) (Ev B W Ctx) := fun _ i e =>
  (∀ ctx, e = .subscribe ctx → i = 0) ∧ (e = .close → i = 1)

/-- `_connection` refers to every open connection. -/
def Referenced (s : Shared B W T Ctx) : Prop := ∀ c, s.IsOpen c → s.connection = some c

/-- No connection is open. -/
def NoneOpen (s : Shared B W T Ctx) : Prop := ∀ c, ¬ s.IsOpen c

/-- `close()` begins once `subscribe()` is past its start-up, with every open connection still
referred to. -/
def LateClose : Guard (Shared B W T Ctx) (Task Ctx) (Ev B W Ctx) := fun l i e =>
  OnePair l i e ∧ (e = .close → (l.task 0).started ∧ Referenced l.shared)

/-! ### What is known before and afterwards -/

/-- The connection `c` is in use: nobody has closed it or anything of it. -/
structure InUse (s : Shared B W T Ctx) (c : ℕ) : Prop where
  /-- `_connection` refers to it. -/
  connection : s.connection = some c
  /-- Neither it nor its channel has been closed. -/
  ends : s.ends c = false
  /-- No other connection is open. -/
  referenced : Referenced s

/-- What is known of `subscribe()` before `close()` begins. -/
def Before (s : Shared B W T Ctx) : Task Ctx → Prop
  | .idle | .connecting _ => s.made = 0
  | .opening own _ => InUse s own
  | .settingQos own _ => s.channel = some own ∧ InUse s own
  | .declaring _ c _ => s.channel = some c ∧ InUse s c
  | .entering v => s.channel = some v.queue ∧ InUse s v.queue
  | .polling v | .handling v _ _ | .settling v => s.channel = some v.queue ∧ Referenced s
  | .exiting _ res => Referenced s ∧ res.stale = false
  | .closingChannel (.session res) => Referenced s ∧ res.stale = false
  | .closingConnection (.session res) => NoneOpen s ∧ res.stale = false
  | .ended res => res.stale = false
  | _ => False

/-- What is known of `subscribe()` once `close()` has begun. -/
def AfterTask (s : Shared B W T Ctx) : Task Ctx → Prop
  | .polling v | .handling v _ _ | .settling v => s.ends v.queue = true
  | .closingConnection (.session res) => NoneOpen s ∧ res.stale = false
  | .exiting _ res | .closingChannel (.session res) | .ended res => res.stale = false
  | _ => False

/-- `close()` has begun. -/
def Task.begun {Ctx : Type} : Task Ctx → Prop
  | .closingChannel .close | .closingConnection .close | .closed | .closeFailed _ => True
  | _ => False

/-- `close()` has closed the connection, or has found none. -/
def Task.shut {Ctx : Type} : Task Ctx → Prop
  | .closingConnection .close | .closed => True
  | _ => False

/-- What is known while `close()`, which has begun, is suspended at `b`. -/
structure After (b : Task Ctx) (s : Shared B W T Ctx) (a : Task Ctx) : Prop where
  /-- `close()` has begun. -/
  begun : b.begun
  /-- The consumer is not running. -/
  running : s.running = false
  /-- `_connection` refers to what is open. -/
  referenced : Referenced s
  /-- Nothing is open once `close()` has closed the connection. -/
  shut : b.shut → NoneOpen s
  /-- `subscribe()` is winding up. -/
  task : AfterTask s a

/-- How many steps `subscribe()` takes at most once `close()` has begun. -/
def Task.rank {Ctx : Type} : Task Ctx → ℕ
  | .handling .. => 6
  | .settling _ => 5
  | .polling _ => 4
  | .exiting .. => 3
  | .closingChannel _ => 2
  | .closingConnection _ => 1
  | _ => 0

/-- A step of `subscribe()` that winds it up. -/
abbrev WindsUp (b : Task Ctx) (s : Shared B W T Ctx) (n : ℕ)
    (r : Shared B W T Ctx × Task Ctx) : Prop :=
  Winds surface After Task.rank b s n r

theorem NoneOpen.referenced (h : NoneOpen s) : Referenced s := fun c hc => absurd hc (h c)

theorem isOpen_closeChannel {d : ℕ} : (s.closeChannel c).IsOpen d ↔ s.IsOpen d := by
  by_cases hd : d = c
  · subst hd; simp [Shared.closeChannel, Shared.setConn, Shared.IsOpen]
  · simp [Shared.closeChannel, Shared.setConn, Shared.IsOpen, Function.update_of_ne hd]

theorem isOpen_disconnect {d : ℕ} : (s.disconnect c).IsOpen d ↔ d ≠ c ∧ s.IsOpen d := by
  by_cases hd : d = c
  · subst hd; simp [Shared.disconnect, Shared.setConn, Shared.IsOpen]
  · simp [Shared.disconnect, Shared.setConn, Shared.IsOpen, hd]

theorem ends_closeChannel {d : ℕ} :
    (s.closeChannel c).ends d = (decide (d = c) || s.ends d) := by
  by_cases hd : d = c
  · subst hd; simp [Shared.closeChannel, Shared.setConn, Shared.ends]
  · simp [Shared.closeChannel, Shared.setConn, Shared.ends, hd]

theorem ends_disconnect {d : ℕ} : (s.disconnect c).ends d = (decide (d = c) || s.ends d) := by
  by_cases hd : d = c
  · subst hd; simp [Shared.disconnect, Shared.setConn, Shared.ends]
  · simp [Shared.disconnect, Shared.setConn, Shared.ends, hd]

theorem Referenced.closeChannel (h : Referenced s) (c : ℕ) : Referenced (s.closeChannel c) :=
  fun d hd => h d (isOpen_closeChannel.mp hd)

theorem NoneOpen.closeChannel (h : NoneOpen s) (c : ℕ) : NoneOpen (s.closeChannel c) :=
  fun d hd => h d (isOpen_closeChannel.mp hd)

/-- Closing what `_connection` refers to leaves nothing open. -/
theorem Referenced.disconnect (h : Referenced s) (hc : s.connection = some c) :
    NoneOpen (s.disconnect c) := by
  intro d hd
  obtain ⟨hne, hopen⟩ := isOpen_disconnect.mp hd
  exact hne (Option.some.inj ((h d hopen).symm.trans hc))

theorem Referenced.noneOpen (h : Referenced s) (hc : s.connection = none) : NoneOpen s :=
  fun d hd => nomatch (h d hd).symm.trans hc

/-! ### Before `close()` begins -/

theorem before_startFailed (x : PyExc) :
    Before (startFailed s x false).1 (startFailed s x false).2 := by
  unfold startFailed
  split_ifs <;> rfl

theorem before_closeRest (h : Referenced s) {res : Outcome} (hres : res.stale = false) :
    Before (closeRest i s (.session res)).1 (closeRest i s (.session res)).2 := by
  unfold closeRest
  split
  next c hc => exact ⟨h.disconnect hc, hres⟩
  next => exact hres

theorem before_teardown (h : Referenced s) {res : Outcome} (hres : res.stale = false) :
    Before (teardown i s res).1 (teardown i s res).2 := by
  unfold teardown closeConnection
  split
  · exact ⟨h.closeChannel _, hres⟩
  · exact before_closeRest h hres

theorem before_settle {v : Locals Ctx} (hch : s.channel = some v.queue) (h : Referenced s)
    (verdict : Verdict) : Before (settle i s v verdict).1 (settle i s v verdict).2 := by
  unfold settle
  split <;> exact ⟨hch, h⟩

theorem before_takeMessage {v : Locals Ctx} (hch : s.channel = some v.queue) (h : Referenced s)
    (message : Message B W) :
    Before (takeMessage cd i s v message).1 (takeMessage cd i s v message).2 := by
  unfold takeMessage
  dsimp only
  split_ifs
  · split
    · exact ⟨hch, h⟩
    · exact ⟨hch, h⟩
  · exact ⟨h, rfl⟩

/-- A step of `subscribe()` before `close()` begins. -/
theorem Before.step (h : Before s p) (hs : Step cd i s p e r) (he : e ≠ .close) :
    Before r.1 r.2 := by
  cases hs with
  | subscribe => exact h
  | connected =>
    refine ⟨rfl, ?_, ?_⟩
    · simp [Shared.connect, Shared.setConn, Shared.record, Shared.ends]
    · rintro c ⟨hc, -⟩
      have hmade : s.made = 0 := h
      have hlt : c < s.made + 1 := hc
      show some s.made = some c
      exact congrArg some (by omega)
  | notConnected => exact before_startFailed _
  | opened => exact ⟨rfl, h.connection, h.ends, h.referenced⟩
  | notOpened => rw [h.ends]; exact before_startFailed _
  | qosSet =>
    simp only [Rabbitmq.qosSet, h.1]
    exact h
  | qosFailed => rw [h.2.ends]; exact before_startFailed _
  | declared => exact ⟨h.1, h.2.connection, h.2.ends, h.2.referenced⟩
  | notDeclared => rw [h.2.ends]; exact before_startFailed _
  | entered => exact ⟨h.1, h.2.referenced⟩
  | notEntered => exact before_teardown h.2.referenced h.2.ends
  | message => exact before_takeMessage h.1 h.2 _
  | stop | iteratorRaised | handlerCancelled | settleCancelled => exact ⟨h.2, rfl⟩
  | @handled v m token =>
    exact before_settle (s := s.record _) (v := { v with ctx := token }) h.1 h.2 .ack
  | @handlerFailed v m token x hx =>
    exact before_settle (s := s.record _) (v := { v with ctx := token }) h.1 h.2 .nack
  | settled => exact h
  | exited => exact before_teardown h.1 h.2
  | exitFailed => exact before_teardown h.1 rfl
  | @channelClosed k =>
    cases k with
    | session res => exact before_closeRest (s := { s with channel := none }) h.1 h.2
    | close => exact h.elim
  | @channelCancelled k | @connectionCancelled k =>
    cases k with
    | session res => rfl
    | close => exact h.elim
  | @connectionClosed k =>
    cases k with
    | session res => exact h.2
    | close => exact h.elim
  | close => exact absurd rfl he

/-! ### Once `close()` has begun -/

theorem winds_closeRest {q : Task Ctx} (h : After b s q) {res : Outcome}
    (hres : res.stale = false) : WindsUp b s 2 (closeRest i s (.session res)) := by
  unfold closeRest
  split
  next c hc =>
    have hnone := h.referenced.disconnect hc
    exact ⟨⟨h.begun, h.running, NoneOpen.referenced hnone, fun _ => hnone, hnone, hres⟩,
      Nat.lt_succ_self _, rfl⟩
  next hc =>
    have hnone := h.referenced.noneOpen hc
    exact ⟨⟨h.begun, rfl, NoneOpen.referenced hnone, fun _ => hnone, hres⟩, Nat.zero_lt_succ _, rfl⟩

theorem winds_teardown {q : Task Ctx} (h : After b s q) {res : Outcome}
    (hres : res.stale = false) : WindsUp b s 3 (teardown i s res) := by
  unfold teardown closeConnection
  split
  · exact ⟨⟨h.begun, h.running, h.referenced.closeChannel _, fun hb => (h.shut hb).closeChannel _,
      hres⟩, Nat.lt_succ_self _, rfl⟩
  · exact (winds_closeRest h hres).mono (Nat.le_succ _) rfl

/-- A step of `subscribe()` once `close()` has begun. -/
theorem After.step (h : After b s p) (hs : Step cd i s p e r) : WindsUp b s p.rank r := by
  have htask := h.task
  cases hs with
  | subscribe | connected | notConnected | opened | notOpened | qosSet | qosFailed | declared
  | notDeclared | entered | notEntered | close => exact htask.elim
  | @message v message =>
    have hrun : (s.record (.delivered ⟨i, v.count⟩ message s.running)).running = false := h.running
    simp only [takeMessage, hrun, Bool.false_eq_true, if_false]
    exact ⟨⟨h.begun, h.running, h.referenced, h.shut, rfl⟩, Nat.lt_succ_self _, rfl⟩
  | stop | iteratorRaised =>
    exact ⟨⟨h.begun, h.running, h.referenced, h.shut, rfl⟩, Nat.lt_succ_self _, rfl⟩
  | handled | handlerFailed =>
    unfold settle
    split
    · exact ⟨⟨h.begun, h.running, h.referenced, h.shut, htask⟩, Nat.lt_succ_self _, rfl⟩
    · exact ⟨⟨h.begun, h.running, h.referenced, h.shut, htask⟩, by simp [Task.rank], rfl⟩
  | handlerCancelled | settleCancelled =>
    exact ⟨⟨h.begun, h.running, h.referenced, h.shut, rfl⟩, by simp [Task.rank], rfl⟩
  | settled => exact ⟨⟨h.begun, h.running, h.referenced, h.shut, htask⟩, Nat.lt_succ_self _, rfl⟩
  | exited => exact winds_teardown h htask
  | exitFailed => exact winds_teardown h rfl
  | @channelClosed k =>
    cases k with
    | session res =>
      have h' : After b { s with channel := none } (.closingChannel (.session res)) :=
        ⟨h.begun, h.running, h.referenced, h.shut, htask⟩
      exact (winds_closeRest h' htask).mono (Nat.le_refl _) rfl
    | close => exact htask.elim
  | @channelCancelled k =>
    cases k with
    | session res =>
      exact ⟨⟨h.begun, h.running, h.referenced, h.shut, rfl⟩, Nat.zero_lt_succ _, rfl⟩
    | close => exact htask.elim
  | @connectionClosed k =>
    cases k with
    | session res =>
      exact ⟨⟨h.begun, rfl, NoneOpen.referenced htask.1, fun _ => htask.1, htask.2⟩,
        Nat.zero_lt_succ _, rfl⟩
    | close => exact htask.elim
  | @connectionCancelled k =>
    cases k with
    | session res =>
      exact ⟨⟨h.begun, h.running, NoneOpen.referenced htask.1, fun _ => htask.1, rfl⟩,
        Nat.zero_lt_succ _, rfl⟩
    | close => exact htask.elim

/-- What is known of `subscribe()` when a connection is closed. -/
theorem AfterTask.disconnect (h : AfterTask s p) (c : ℕ) : AfterTask (s.disconnect c) p := by
  cases p with
  | polling v | handling v m token | settling v =>
    have h' : s.ends v.queue = true := h
    show (s.disconnect c).ends v.queue = true
    simp [ends_disconnect, h']
  | closingConnection k =>
    cases k with
    | session res => exact ⟨fun d hd => h.1 d (isOpen_disconnect.mp hd).2, h.2⟩
    | close => exact h
  | closingChannel k => cases k <;> exact h
  | _ => exact h

/-- What is known of `subscribe()` does not depend on the fields. -/
theorem AfterTask.frame (h : AfterTask s p) (hm : s'.made = s.made) (hc : s'.conn = s.conn) :
    AfterTask s' p := by
  have hopen (d : ℕ) : s'.IsOpen d ↔ s.IsOpen d := by simp [Shared.IsOpen, hm, hc]
  cases p with
  | polling v | handling v m token | settling v =>
    show s'.ends v.queue = true
    rw [Shared.ends, hc]
    exact h
  | closingConnection k =>
    cases k with
    | session res => exact ⟨fun d hd => h.1 d ((hopen d).mp hd), h.2⟩
    | close => exact h
  | closingChannel k => cases k <;> exact h
  | _ => exact h

/-- The second half of `close()`. -/
theorem after_closeRest (hrun : s.running = false) (href : Referenced s)
    (htask : AfterTask s p) : After (closeRest i s .close).2 (closeRest i s .close).1 p := by
  unfold closeRest
  split
  next c hc =>
    have hnone := href.disconnect hc
    exact ⟨trivial, hrun, NoneOpen.referenced hnone, fun _ => hnone, htask.disconnect c⟩
  next hc =>
    exact ⟨trivial, hrun, href, fun _ => href.noneOpen hc, htask.frame rfl rfl⟩

/-- `close()` begins. -/
theorem Before.close (h : Before s p) (hp : p.started) (href : Referenced s) :
    After (close i s).2 (close i s).1 p := by
  unfold Rabbitmq.close closeConnection
  dsimp only
  split
  next c hc =>
    refine ⟨trivial, rfl, href.closeChannel (s := { s with running := false }) c, False.elim, ?_⟩
    cases p with
    | polling v | handling v m token | settling v =>
      obtain rfl : c = v.queue := Option.some.inj (hc.symm.trans h.1)
      show (Shared.closeChannel { s with running := false } v.queue).ends v.queue = true
      simp [ends_closeChannel]
    | exiting v res => exact h.2
    | closingChannel k =>
      cases k with
      | session res => exact h.2
      | close => exact hp.elim
    | closingConnection k =>
      cases k with
      | session res => exact ⟨h.1.closeChannel (s := { s with running := false }) c, h.2⟩
      | close => exact hp.elim
    | ended res => exact h
    | _ => exact hp.elim
  next hc =>
    refine after_closeRest (s := { s with running := false }) rfl href ?_
    cases p with
    | polling v | handling v m token | settling v => exact nomatch hc.symm.trans h.1
    | exiting v res => exact h.2
    | closingChannel k =>
      cases k with
      | session res => exact h.2
      | close => exact hp.elim
    | closingConnection k =>
      cases k with
      | session res => exact h
      | close => exact hp.elim
    | ended res => exact h
    | _ => exact hp.elim

/-- What begins a call. -/
theorem Step.idle (h : Step cd i s .idle e r) :
    (∃ ctx, e = .subscribe ctx) ∨ (e = .close ∧ r = Rabbitmq.close i s) := by
  cases h with
  | subscribe => exact .inl ⟨_, rfl⟩
  | close => exact .inr ⟨rfl, rfl⟩

theorem closeRule : CloseRule surface (resume cd) LateClose fresh .idle .closed
    (Before (B := B) (W := W) (T := T)) After Task.rank where
  start := ⟨fun _ => rfl, rfl⟩
  calls := by
    rintro l i e r ⟨⟨hsub, hclose⟩, -⟩ hti hp
    rcases (step_of_resume hp).idle with ⟨ctx, he⟩ | ⟨he, -⟩
    · exact .inl (hsub ctx he)
    · exact .inr (hclose he)
  goesOn := by
    rintro l e s p h ⟨⟨-, hclose⟩, -⟩ hp
    exact h.step (step_of_resume hp) fun he => absurd (hclose he) (by decide)
  begins := by
    rintro l e s p h ⟨⟨hsub, -⟩, hlate⟩ hp
    rcases (step_of_resume hp).idle with ⟨ctx, he⟩ | ⟨he, hr⟩
    · exact absurd (hsub ctx he) (by decide)
    · have hafter := h.close (i := 1) (hlate he).1 (hlate he).2
      rwa [← hr] at hafter
  closes := by
    rintro b s e s' b' a h hp
    have hbegun := h.begun
    generalize hr : (s', b') = r at hp
    cases step_of_resume hp with
    | @channelClosed k =>
      cases k with
      | session res => exact hbegun.elim
      | close =>
        have hafter := after_closeRest (i := 1) (s := { s with channel := none }) h.running
          h.referenced (h.task.frame rfl rfl)
        rwa [← hr] at hafter
    | @connectionClosed k =>
      cases k with
      | session res => exact hbegun.elim
      | close =>
        cases hr
        have hnone := h.shut trivial
        exact ⟨trivial, h.running, NoneOpen.referenced hnone, fun _ => hnone,
          h.task.frame rfl rfl⟩
    | @channelCancelled k =>
      cases k with
      | session res => exact hbegun.elim
      | close =>
        cases hr
        exact ⟨trivial, h.running, h.referenced, False.elim, h.task.frame rfl rfl⟩
    | @connectionCancelled k =>
      cases k with
      | session res => exact hbegun.elim
      | close =>
        cases hr
        have hnone := h.shut trivial
        exact ⟨trivial, h.running, NoneOpen.referenced hnone, False.elim, h.task.frame rfl rfl⟩
    | _ => exact hbegun.elim
  windsUp := by
    rintro l e r h - hp
    exact h.step (step_of_resume hp)
  returns := rfl
  canGoOn := by
    rintro b s a h
    have hok : ∀ e : Ev B W Ctx, e ≠ .close → (∀ ctx, e ≠ .subscribe ctx) →
        ∀ l : Loop (Shared B W T Ctx) (Task Ctx), LateClose l 0 e := fun e he hsub _ =>
      ⟨⟨fun ctx h => absurd h (hsub ctx), fun h => absurd h he⟩, fun h => absurd h he⟩
    have htask := h.task
    cases a with
    | ended res => exact .inl rfl
    | polling v => exact .inr ⟨.stop, _, if_pos htask, hok _ nofun nofun⟩
    | handling v m token => exact .inr ⟨.ok, _, rfl, hok _ nofun nofun⟩
    | settling v => exact .inr ⟨.ok, _, rfl, hok _ nofun nofun⟩
    | exiting v res => exact .inr ⟨.ok, _, rfl, hok _ nofun nofun⟩
    | closingChannel k => exact .inr ⟨.ok, _, rfl, hok _ nofun nofun⟩
    | closingConnection k => exact .inr ⟨.ok, _, rfl, hok _ nofun nofun⟩
    | _ => exact htask.elim
  blameless := by
    rintro b s a res h hres
    have htask := h.task
    cases a with
    | ended res' => cases hres; exact htask
    | _ => cases hres
  shut := fun h => h.shut trivial
  made := nofun

end OpenframeAdapters.Queue.Rabbitmq
