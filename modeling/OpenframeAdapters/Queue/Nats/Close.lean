import OpenframeAdapters.Queue.CloseRule
import OpenframeAdapters.Queue.Nats.Consumer

/-!
# Closing a NATS consumer

`close()` unsubscribes what `_sub` refers to, closes what `_nc` refers to, and resets
`_nc`. The `finally` block of `subscribe()` does the same, and the two may run at the
same time. A start-up that fails resets the fields without closing anything, so a
later `close()` cannot reach what it has opened.

## What is proved

* `closeRule` — where `close()` begins late, and nothing is open that `_nc` does not
  refer to, the promise of `close()` is kept.
-/

namespace OpenframeAdapters.Queue.Nats

open Python OpenframeAdapters.Core

variable {B T Ctx : Type} {cd : Codec B T Ctx} {i c : ℕ} {s s' : Shared B T Ctx} {p b : Task Ctx}
  {e : Ev B Ctx} {r : Shared B T Ctx × Task Ctx} {l : Loop (Shared B T Ctx) (Task Ctx)}

/-- `subscribe()` is past its start-up. -/
def Task.started {Ctx : Type} : Task Ctx → Prop
  | .polling _ | .handling .. | .acking _ | .naking _ | .unsubscribing _ | .disconnecting _
  | .ended _ => True
  | _ => False

/-- How the call has ended. -/
def Task.outcome {Ctx : Type} : Task Ctx → Option Outcome
  | .ended res => some res
  | _ => none

/-- The connection `c` is open. -/
def Shared.IsOpen (s : Shared B T Ctx) (c : ℕ) : Prop := c < s.made ∧ (s.conn c).closed = false

/-- What the contract of `close()` looks at. -/
def surface : Surface (Shared B T Ctx) (Task Ctx) (Msg B) (T × Ctx) where
  journal := Shared.journal
  isOpen := Shared.IsOpen
  outcome := Task.outcome

/-- One `subscribe()` and one `close()`. -/
def OnePair : Guard (Shared B T Ctx) (Task Ctx) (Ev B Ctx) := fun _ i e =>
  (∀ ctx, e = .subscribe ctx → i = 0) ∧ (e = .close → i = 1)

/-- `_nc` refers to every open connection. -/
def Referenced (s : Shared B T Ctx) : Prop := ∀ c, s.IsOpen c → s.nc = some c

/-- No connection is open. -/
def NoneOpen (s : Shared B T Ctx) : Prop := ∀ c, ¬ s.IsOpen c

/-- `close()` begins once `subscribe()` is past its start-up, with every open connection still
referred to. -/
def LateClose : Guard (Shared B T Ctx) (Task Ctx) (Ev B Ctx) := fun l i e =>
  OnePair l i e ∧ (e = .close → (l.task 0).started ∧ Referenced l.shared)

/-! ### What is known before and afterwards -/

/-- The connection `c` is in use: nobody has closed it or anything of it. -/
structure InUse (s : Shared B T Ctx) (c : ℕ) : Prop where
  /-- `_nc` refers to it. -/
  nc : s.nc = some c
  /-- Its subscription has not been ended. -/
  ends : s.ends c = false
  /-- No other connection is open. -/
  referenced : Referenced s

/-- What is known of `subscribe()` before `close()` begins. -/
def Before (s : Shared B T Ctx) : Task Ctx → Prop
  | .idle | .connecting _ => s.made = 0
  | .ensuring own _ => s.js = some own ∧ InUse s own
  | .subscribing _ js _ => InUse s js
  | .polling v | .handling v _ _ | .acking v | .naking v => s.sub = some v.sub ∧ Referenced s
  | .unsubscribing res => Referenced s ∧ res.stale = false
  | .disconnecting res => NoneOpen s ∧ res.stale = false
  | .ended res => res.stale = false
  | _ => False

/-- What is known of `subscribe()` once `close()` has begun. -/
def AfterTask (s : Shared B T Ctx) : Task Ctx → Prop
  | .polling v | .handling v _ _ | .acking v | .naking v => s.ends v.sub = true
  | .disconnecting res => NoneOpen s ∧ res.stale = false
  | .unsubscribing res | .ended res => res.stale = false
  | _ => False

/-- `close()` has begun. -/
def Task.begun {Ctx : Type} : Task Ctx → Prop
  | .closeUnsubscribing | .closeDisconnecting | .closed | .closeFailed _ => True
  | _ => False

/-- `close()` has closed the connection, or has found none. -/
def Task.shut {Ctx : Type} : Task Ctx → Prop
  | .closeDisconnecting | .closed => True
  | _ => False

/-- What is known while `close()`, which has begun, is suspended at `b`. -/
structure After (b : Task Ctx) (s : Shared B T Ctx) (a : Task Ctx) : Prop where
  /-- `close()` has begun. -/
  begun : b.begun
  /-- The consumer is not running. -/
  running : s.running = false
  /-- `_nc` refers to what is open. -/
  referenced : Referenced s
  /-- Nothing is open once `close()` has closed the connection. -/
  shut : b.shut → NoneOpen s
  /-- `subscribe()` is winding up. -/
  task : AfterTask s a

/-- How many steps `subscribe()` takes at most once `close()` has begun. -/
def Task.rank {Ctx : Type} : Task Ctx → ℕ
  | .handling .. => 5
  | .acking _ | .naking _ => 4
  | .polling _ => 3
  | .unsubscribing _ => 2
  | .disconnecting _ => 1
  | _ => 0

/-- A step of `subscribe()` that winds it up. -/
abbrev WindsUp (b : Task Ctx) (s : Shared B T Ctx) (n : ℕ) (r : Shared B T Ctx × Task Ctx) : Prop :=
  Winds surface After Task.rank b s n r

theorem NoneOpen.referenced (h : NoneOpen s) : Referenced s := fun c hc => absurd hc (h c)

theorem isOpen_unsubscribe {d : ℕ} : (s.unsubscribe c).IsOpen d ↔ s.IsOpen d := by
  by_cases hd : d = c
  · subst hd; simp [Shared.unsubscribe, Shared.setConn, Shared.IsOpen]
  · simp [Shared.unsubscribe, Shared.setConn, Shared.IsOpen, Function.update_of_ne hd]

theorem isOpen_disconnect {d : ℕ} : (s.disconnect c).IsOpen d ↔ d ≠ c ∧ s.IsOpen d := by
  by_cases hd : d = c
  · subst hd; simp [Shared.disconnect, Shared.setConn, Shared.IsOpen]
  · simp [Shared.disconnect, Shared.setConn, Shared.IsOpen, hd]

theorem ends_unsubscribe {d : ℕ} : (s.unsubscribe c).ends d = (decide (d = c) || s.ends d) := by
  by_cases hd : d = c
  · subst hd; simp [Shared.unsubscribe, Shared.setConn, Shared.ends]
  · simp [Shared.unsubscribe, Shared.setConn, Shared.ends, hd]

theorem ends_disconnect {d : ℕ} : (s.disconnect c).ends d = (decide (d = c) || s.ends d) := by
  by_cases hd : d = c
  · subst hd; simp [Shared.disconnect, Shared.setConn, Shared.ends]
  · simp [Shared.disconnect, Shared.setConn, Shared.ends, hd]

theorem Referenced.unsubscribe (h : Referenced s) (c : ℕ) : Referenced (s.unsubscribe c) :=
  fun d hd => h d (isOpen_unsubscribe.mp hd)

theorem NoneOpen.unsubscribe (h : NoneOpen s) (c : ℕ) : NoneOpen (s.unsubscribe c) :=
  fun d hd => h d (isOpen_unsubscribe.mp hd)

/-- Closing what `_nc` refers to leaves nothing open. -/
theorem Referenced.disconnect (h : Referenced s) (hc : s.nc = some c) :
    NoneOpen (s.disconnect c) := by
  intro d hd
  obtain ⟨hne, hopen⟩ := isOpen_disconnect.mp hd
  exact hne (Option.some.inj ((h d hopen).symm.trans hc))

theorem Referenced.noneOpen (h : Referenced s) (hc : s.nc = none) : NoneOpen s :=
  fun d hd => nomatch (h d hd).symm.trans hc

/-! ### Before `close()` begins -/

theorem before_startFailed (x : PyExc) :
    Before (startFailed s x false).1 (startFailed s x false).2 := by
  unfold startFailed
  split_ifs <;> rfl

theorem before_disconnect (h : Referenced s) {res : Outcome} (hres : res.stale = false) :
    Before (disconnect i s res).1 (disconnect i s res).2 := by
  unfold disconnect
  split
  next c hc => exact ⟨h.disconnect hc, hres⟩
  next => exact hres

theorem before_teardown (h : Referenced s) {res : Outcome} (hres : res.stale = false) :
    Before (teardown i s res).1 (teardown i s res).2 := by
  unfold teardown
  split
  · exact ⟨h.unsubscribe _, hres⟩
  · exact before_disconnect h hres

theorem before_takeMessage {v : Locals Ctx} (hsub : s.sub = some v.sub) (h : Referenced s)
    (msg : Msg B) : Before (takeMessage cd i s v msg).1 (takeMessage cd i s v msg).2 := by
  unfold takeMessage
  dsimp only
  split_ifs
  · split
    · exact ⟨hsub, h⟩
    · exact ⟨hsub, h⟩
  · exact before_teardown (s := s.record _) h rfl

/-- A step of `subscribe()` before `close()` begins. -/
theorem Before.step (h : Before s p) (hs : Step cd i s p e r) (he : e ≠ .close) :
    Before r.1 r.2 := by
  cases hs with
  | subscribe => exact h
  | @connected ctx x =>
    cases x with
    | none =>
      refine ⟨rfl, rfl, ?_, ?_⟩
      · simp [Nats.connected, Shared.connect, Shared.setConn, Shared.record, Shared.ends]
      · rintro c ⟨hc, -⟩
        have hmade : s.made = 0 := h
        have hlt : c < s.made + 1 := hc
        show some s.made = some c
        exact congrArg some (by omega)
    | some x => exact before_startFailed x
  | notConnected => exact before_startFailed _
  | ensured =>
    obtain ⟨hjs, h⟩ := h
    simp only [Nats.ensured, hjs]
    exact h
  | notEnsured => rw [h.2.ends]; exact before_startFailed _
  | subscribed => exact ⟨rfl, h.referenced⟩
  | notSubscribed => rw [h.ends]; exact before_startFailed _
  | message => exact before_takeMessage h.1 h.2 _
  | stop | iteratorRaised | handlerCancelled | ackCancelled | nakCancelled =>
    exact before_teardown h.2 rfl
  | handled | handlerFailed => exact h
  | acked | naked => exact h
  | unsubscribed => exact before_disconnect h.1 h.2
  | unsubscribeCancelled | disconnectCancelled => rfl
  | disconnected => exact h.2
  | close => exact absurd rfl he
  | closeUnsubscribed | closeUnsubscribeCancelled | closed | closeCancelled => exact h.elim

/-! ### Once `close()` has begun -/

theorem winds_disconnect {q : Task Ctx} (h : After b s q) {res : Outcome}
    (hres : res.stale = false) : WindsUp b s 2 (disconnect i s res) := by
  unfold disconnect
  split
  next c hc =>
    have hnone := h.referenced.disconnect hc
    exact ⟨⟨h.begun, h.running, hnone.referenced, fun _ => hnone, hnone, hres⟩,
      Nat.lt_succ_self _, rfl⟩
  next hc =>
    have hnone := h.referenced.noneOpen hc
    exact ⟨⟨h.begun, rfl, NoneOpen.referenced hnone, fun _ => hnone, hres⟩, Nat.zero_lt_succ _, rfl⟩

theorem winds_teardown {q : Task Ctx} (h : After b s q) {res : Outcome}
    (hres : res.stale = false) : WindsUp b s 3 (teardown i s res) := by
  unfold teardown
  split
  · exact ⟨⟨h.begun, h.running, h.referenced.unsubscribe _, fun hb => (h.shut hb).unsubscribe _,
      hres⟩, Nat.lt_succ_self _, rfl⟩
  · exact (winds_disconnect h hres).mono (Nat.le_succ _) rfl

/-- A step of `subscribe()` once `close()` has begun. -/
theorem After.step (h : After b s p) (hs : Step cd i s p e r) : WindsUp b s p.rank r := by
  have htask := h.task
  cases hs with
  | subscribe | connected | notConnected | ensured | notEnsured | subscribed | notSubscribed
  | close | closeUnsubscribed | closeUnsubscribeCancelled | closed | closeCancelled =>
    exact htask.elim
  | @message v msg =>
    have hrun : (s.record (.delivered ⟨i, v.count⟩ msg s.running)).running = false := h.running
    have h' : After b (s.record (.delivered ⟨i, v.count⟩ msg s.running)) (.polling v) :=
      ⟨h.begun, h.running, h.referenced, h.shut, htask⟩
    simp only [takeMessage, hrun, Bool.false_eq_true, if_false]
    exact (winds_teardown h' rfl).mono (Nat.le_refl _) rfl
  | stop | iteratorRaised => exact winds_teardown h rfl
  | handled | handlerFailed =>
    exact ⟨⟨h.begun, h.running, h.referenced, h.shut, htask⟩, Nat.lt_succ_self _, rfl⟩
  | handlerCancelled | ackCancelled | nakCancelled =>
    exact (winds_teardown h rfl).mono (by simp [Task.rank]) rfl
  | acked | naked =>
    exact ⟨⟨h.begun, h.running, h.referenced, h.shut, htask⟩, Nat.lt_succ_self _, rfl⟩
  | unsubscribed => exact winds_disconnect h htask
  | unsubscribeCancelled =>
    exact ⟨⟨h.begun, h.running, h.referenced, h.shut, rfl⟩, Nat.zero_lt_succ _, rfl⟩
  | disconnected =>
    exact ⟨⟨h.begun, rfl, NoneOpen.referenced htask.1, fun _ => htask.1, htask.2⟩,
      Nat.zero_lt_succ _, rfl⟩
  | disconnectCancelled =>
    exact ⟨⟨h.begun, h.running, h.referenced, h.shut, rfl⟩, Nat.zero_lt_succ _, rfl⟩

/-- What is known of `subscribe()` when a connection is closed. -/
theorem AfterTask.disconnect (h : AfterTask s p) (c : ℕ) : AfterTask (s.disconnect c) p := by
  cases p with
  | polling v | handling v m token | acking v | naking v =>
    have h' : s.ends v.sub = true := h
    show (s.disconnect c).ends v.sub = true
    simp [ends_disconnect, h']
  | disconnecting res => exact ⟨fun d hd => h.1 d (isOpen_disconnect.mp hd).2, h.2⟩
  | _ => exact h

/-- The second half of `close()`. -/
theorem after_closeDisconnect (hrun : s.running = false) (href : Referenced s)
    (htask : AfterTask s p) : After (closeDisconnect s).2 (closeDisconnect s).1 p := by
  unfold closeDisconnect
  split
  next c hc =>
    have hnone := href.disconnect hc
    exact ⟨trivial, hrun, hnone.referenced, fun _ => hnone, htask.disconnect c⟩
  next hc => exact ⟨trivial, hrun, href, fun _ => href.noneOpen hc, htask⟩

/-- `close()` begins. -/
theorem Before.close (h : Before s p) (hp : p.started) (href : Referenced s) :
    After (close s).2 (close s).1 p := by
  unfold Nats.close
  dsimp only
  split
  next c hc =>
    refine ⟨trivial, rfl, href.unsubscribe (s := { s with running := false }) c, False.elim, ?_⟩
    cases p with
    | polling v | handling v m token | acking v | naking v =>
      obtain rfl : c = v.sub := Option.some.inj (hc.symm.trans h.1)
      show (Shared.unsubscribe { s with running := false } v.sub).ends v.sub = true
      simp [ends_unsubscribe]
    | unsubscribing res => exact h.2
    | disconnecting res => exact ⟨h.1.unsubscribe (s := { s with running := false }) c, h.2⟩
    | ended res => exact h
    | _ => exact hp.elim
  next hc =>
    refine after_closeDisconnect (s := { s with running := false }) rfl href ?_
    cases p with
    | polling v | handling v m token | acking v | naking v => exact nomatch hc.symm.trans h.1
    | unsubscribing res => exact h.2
    | disconnecting res => exact h
    | ended res => exact h
    | _ => exact hp.elim

/-- What begins a call. -/
theorem Step.idle (h : Step cd i s .idle e r) :
    (∃ ctx, e = .subscribe ctx) ∨ (e = .close ∧ r = Nats.close s) := by
  cases h with
  | subscribe => exact .inl ⟨_, rfl⟩
  | close => exact .inr ⟨rfl, rfl⟩

theorem closeRule : CloseRule surface (resume cd) LateClose fresh .idle .closed
    (Before (B := B) (T := T)) After Task.rank where
  start := ⟨fun _ => rfl, rfl⟩
  calls := by
    rintro l i e r ⟨⟨hsub, hclose⟩, -⟩ hti hp
    rcases (step_of_resume hp).idle with ⟨ctx, he⟩ | ⟨he, -⟩
    · exact .inl (hsub ctx he)
    · exact .inr (hclose he)
  goesOn := by
    rintro l e s p h ⟨⟨-, hclose⟩, -⟩ hp
    exact h.step (step_of_resume hp) fun he => absurd (hclose he) (by decide)
  begins := by
    rintro l e s p h ⟨⟨hsub, -⟩, hlate⟩ hp
    rcases (step_of_resume hp).idle with ⟨ctx, he⟩ | ⟨he, hr⟩
    · exact absurd (hsub ctx he) (by decide)
    · have hafter := h.close (hlate he).1 (hlate he).2
      rwa [← hr] at hafter
  closes := by
    rintro b s e s' b' a h hp
    have hbegun := h.begun
    generalize hr : (s', b') = r at hp
    cases step_of_resume hp with
    | closeUnsubscribed =>
      have hafter := after_closeDisconnect h.running h.referenced h.task
      rwa [← hr] at hafter
    | closed =>
      cases hr
      have hnone := h.shut trivial
      refine ⟨trivial, h.running, NoneOpen.referenced hnone, fun _ => hnone, ?_⟩
      have htask := h.task
      cases a <;> exact htask
    | closeUnsubscribeCancelled | closeCancelled =>
      cases hr
      exact ⟨trivial, h.running, h.referenced, False.elim, h.task⟩
    | _ => exact hbegun.elim
  windsUp := by
    rintro l e r h - hp
    exact h.step (step_of_resume hp)
  returns := rfl
  canGoOn := by
    rintro b s a h
    have hok : ∀ e : Ev B Ctx, e ≠ .close → (∀ ctx, e ≠ .subscribe ctx) →
        ∀ l : Loop (Shared B T Ctx) (Task Ctx), LateClose l 0 e := fun e he hsub _ =>
      ⟨⟨fun ctx h => absurd h (hsub ctx), fun h => absurd h he⟩, fun h => absurd h he⟩
    have htask := h.task
    cases a with
    | ended res => exact .inl rfl
    | polling v => exact .inr ⟨.stop, _, if_pos htask, hok _ nofun nofun⟩
    | handling v m token => exact .inr ⟨.ok, _, rfl, hok _ nofun nofun⟩
    | acking v => exact .inr ⟨.ok, _, rfl, hok _ nofun nofun⟩
    | naking v => exact .inr ⟨.ok, _, rfl, hok _ nofun nofun⟩
    | unsubscribing res => exact .inr ⟨.ok, _, rfl, hok _ nofun nofun⟩
    | disconnecting res => exact .inr ⟨.ok, _, rfl, hok _ nofun nofun⟩
    | _ => exact htask.elim
  blameless := by
    rintro b s a res h hres
    have htask := h.task
    cases a with
    | ended res' => cases hres; exact htask
    | _ => cases hres
  shut := fun h => h.shut trivial
  made := nofun

end OpenframeAdapters.Queue.Nats
