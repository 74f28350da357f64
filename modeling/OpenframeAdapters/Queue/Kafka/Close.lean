import OpenframeAdapters.Queue.CloseRule
import OpenframeAdapters.Queue.Kafka.Consumer

/-!
# Closing a Kafka consumer

`close()` stops the client that `_consumer` refers to and resets the field. Once
`subscribe()` is past its start-up, that is the client of its loop.

## What is proved

* `closeRule` — where `close()` begins late, the promise of `close()` is kept.
-/

namespace OpenframeAdapters.Queue.Kafka

open Python OpenframeAdapters.Core

variable {P B T Ctx : Type} {cd : Codec B T Ctx} {offsets : P → ℕ} {i : ℕ}
  {s s' : Shared P B T Ctx} {p : Task P Ctx} {e : Ev P B Ctx}
  {r : Shared P B T Ctx × Task P Ctx} {l : Loop (Shared P B T Ctx) (Task P Ctx)}

/-- `subscribe()` is past its start-up. -/
def Task.started {P Ctx : Type} : Task P Ctx → Prop
  | .polling _ | .handling .. | .committing .. | .stopping _ | .ended _ => True
  | _ => False

/-- How the call has ended. -/
def Task.outcome {P Ctx : Type} : Task P Ctx → Option Outcome
  | .ended res => some res
  | _ => none

/-- What the contract of `close()` looks at. -/
def surface : Surface (Shared P B T Ctx) (Task P Ctx) (Record P B) (T × Ctx) where
  journal := Shared.journal
  isOpen s c := (s.client c).connected = true
  outcome := Task.outcome

/-- One `subscribe()` and one `close()`. -/
def OnePair : Guard (Shared P B T Ctx) (Task P Ctx) (Ev P B Ctx) := fun _ i e =>
  (∀ ctx x, e = .subscribe ctx x → i = 0) ∧ (e = .close → i = 1)

/-- `close()` begins once `subscribe()` is past its start-up. -/
def LateClose : Guard (Shared P B T Ctx) (Task P Ctx) (Ev P B Ctx) := fun l i e =>
  OnePair l i e ∧ (e = .close → (l.task 0).started)

/-- No client is open. -/
def NoneOpen (s : Shared P B T Ctx) : Prop := ∀ c, (s.client c).connected = false

/-- No client but `c` is open, and `_consumer` refers to it. -/
structure InUse (s : Shared P B T Ctx) (c : ℕ) : Prop where
  /-- `_consumer` refers to it. -/
  consumer : s.consumer = some c
  /-- No other client is open. -/
  isOpen : ∀ d, (s.client d).connected = true → d = c

/-- What is known of `subscribe()` before `close()` begins. -/
def Before (s : Shared P B T Ctx) : Task P Ctx → Prop
  | .idle => NoneOpen s
  | .starting own _ => s.consumer = some own ∧ (s.client own).stopped = false ∧ NoneOpen s
  | .polling v | .handling v _ _ | .committing v _ => InUse s v.iterator
  | .stopping res | .ended res => NoneOpen s ∧ res.stale = false
  | .closing | .closed | .closeFailed _ => False

/-- What is known of `subscribe()` once `close()` has begun. -/
def AfterTask (s : Shared P B T Ctx) : Task P Ctx → Prop
  | .polling v | .handling v _ _ | .committing v _ => (s.client v.iterator).stopped = true
  | .stopping res | .ended res => res.stale = false
  | _ => False

/-- What is known once `close()` has begun. -/
structure After (s : Shared P B T Ctx) (a : Task P Ctx) : Prop where
  /-- The consumer is not running. -/
  running : s.running = false
  /-- No client is open. -/
  isOpen : NoneOpen s
  /-- `subscribe()` is winding up. -/
  task : AfterTask s a

/-- How many steps `subscribe()` takes at most once `close()` has begun. -/
def Task.rank {P Ctx : Type} : Task P Ctx → ℕ
  | .handling .. => 4
  | .committing .. => 3
  | .polling _ => 2
  | .stopping _ => 1
  | _ => 0

/-- `close()` has begun. -/
def Task.begun {P Ctx : Type} : Task P Ctx → Prop
  | .closing | .closed | .closeFailed _ => True
  | _ => False

/-- What is known while `close()`, which has begun, is suspended at `b`. -/
def CloseAfter (b : Task P Ctx) (s : Shared P B T Ctx) (a : Task P Ctx) : Prop :=
  b.begun ∧ After s a

/-- A step of `subscribe()` that winds it up. -/
abbrev WindsUp (s : Shared P B T Ctx) (n : ℕ) (r : Shared P B T Ctx × Task P Ctx) : Prop :=
  Winds surface (fun _ => After) Task.rank .closed s n r

theorem noneOpen_stopClient (h : NoneOpen s) (c : ℕ) : NoneOpen (s.stopClient c) := by
  intro d
  by_cases hd : d = c
  · subst hd; simp [Shared.stopClient, Shared.setClient]
  · simpa [Shared.stopClient, Shared.setClient, Function.update_of_ne hd] using h d

theorem InUse.stopClient {c : ℕ} (h : InUse s c) : NoneOpen (s.stopClient c) := by
  intro d
  by_cases hd : d = c
  · subst hd; simp [Shared.stopClient, Shared.setClient]
  · have hopen := h.isOpen d
    simp only [Shared.stopClient, Shared.setClient, Function.update_of_ne hd]
    exact Bool.eq_false_iff.mpr fun hc => hd (hopen hc)

/-- The `finally` block before `close()` begins. -/
theorem before_teardown {c : ℕ} (h : InUse s c) (res : Outcome) (hres : res.stale = false) :
    Before (teardown i s res).1 (teardown i s res).2 := by
  simp only [teardown, h.consumer]
  exact ⟨h.stopClient, hres⟩

/-- The `finally` block once `close()` has begun. -/
theorem winds_teardown (hrun : s.running = false) (hopen : NoneOpen s) (res : Outcome)
    (hres : res.stale = false) : WindsUp s 2 (teardown i s res) := by
  unfold teardown
  split
  · exact ⟨⟨hrun, noneOpen_stopClient hopen _, hres⟩, Nat.lt_succ_self _, rfl⟩
  · exact ⟨⟨rfl, hopen, hres⟩, Nat.zero_lt_succ _, rfl⟩

theorem before_nack {v : Locals Ctx} (h : InUse s v.iterator) :
    Before (nack i s v).1 (nack i s v).2 := by
  unfold nack
  split
  · exact ⟨h.consumer, h.isOpen⟩
  · exact before_teardown h _ rfl

theorem winds_nack {v : Locals Ctx} (hrun : s.running = false) (hopen : NoneOpen s)
    (hst : (s.client v.iterator).stopped = true) : WindsUp s 4 (nack i s v) := by
  unfold nack
  split
  · exact ⟨⟨hrun, hopen, hst⟩, by simp [Task.rank], rfl⟩
  · exact (winds_teardown hrun hopen _ rfl).mono (by decide) rfl

theorem before_takeMessage {v : Locals Ctx} (h : InUse s v.iterator) (m : Record P B) :
    Before (takeMessage cd i s v m).1 (takeMessage cd i s v m).2 := by
  unfold takeMessage
  dsimp only
  split_ifs
  · split
    · split
      · exact ⟨h.consumer, h.isOpen⟩
      · exact before_nack ⟨h.consumer, h.isOpen⟩
    · exact before_nack ⟨h.consumer, h.isOpen⟩
  · exact before_teardown (s := s.record _) (c := v.iterator) ⟨h.consumer, h.isOpen⟩ _ rfl

theorem winds_takeMessage {v : Locals Ctx} (hrun : s.running = false) (hopen : NoneOpen s)
    (m : Record P B) : WindsUp s 2 (takeMessage cd i s v m) := by
  have hrun' : (s.record (.delivered ⟨i, v.count⟩ m s.running)).running = false := hrun
  simp only [takeMessage, hrun', Bool.false_eq_true, if_false]
  exact (winds_teardown hrun' hopen _ rfl).mono (Nat.le_refl _) rfl

variable [DecidableEq P]

/-- A step of `subscribe()` before `close()` begins. -/
theorem Before.step (h : Before s p) (hs : Step cd i s p e r) (he : e ≠ .close) :
    Before r.1 r.2 := by
  cases hs with
  | subscribe =>
    refine ⟨rfl, by simp [Shared.construct, Shared.setClient, Shared.record], fun c => ?_⟩
    by_cases hc : c = s.made
    · simp [Shared.construct, Shared.setClient, Shared.record, hc]
    · simpa [Shared.construct, Shared.setClient, Shared.record, Function.update_of_ne hc] using h c
  | notConstructed =>
    unfold startFailed
    split_ifs <;> exact ⟨h, rfl⟩
  | started =>
    obtain ⟨hc, -, hopen⟩ := h
    simp only [startLoop, Shared.setClient, hc]
    refine ⟨rfl, fun d hd => ?_⟩
    by_contra hne
    simp [Function.update_of_ne hne, hopen d] at hd
  | notStarted =>
    obtain ⟨-, hst, hopen⟩ := h
    unfold startFailed
    rw [hst]
    split_ifs <;> exact ⟨hopen, rfl⟩
  | @message v m hadm =>
    have hadv : InUse (s.advance v.iterator m) v.iterator := by
      refine ⟨h.consumer, fun d hd => ?_⟩
      by_contra hne
      refine hne (h.isOpen d ?_)
      simpa [Shared.advance, Shared.setClient, Function.update_of_ne hne] using hd
    exact before_takeMessage hadv m
  | stop => exact before_teardown h _ rfl
  | iteratorRaised | handlerCancelled | commitCancelled => exact before_teardown h _ rfl
  | handled =>
    have h' : InUse s _ := h
    simp only [ack, Shared.record, h'.consumer]
    exact ⟨rfl, h'.isOpen⟩
  | handlerFailed => exact before_nack ⟨h.consumer, h.isOpen⟩
  | committed => exact ⟨h.consumer, h.isOpen⟩
  | commitFailed => exact h
  | stopped | stopFailed => exact ⟨h.1, h.2⟩
  | stopCancelled => exact ⟨h.1, rfl⟩
  | close => exact absurd rfl he
  | closed | closeCancelled => exact h.elim

/-- A step of `subscribe()` once `close()` has begun. -/
theorem After.step (h : After s p) (hs : Step cd i s p e r) : WindsUp s p.rank r := by
  obtain ⟨hrun, hopen, htask⟩ := h
  cases hs with
  | subscribe | notConstructed | started | notStarted | close | closed | closeCancelled =>
    exact htask.elim
  | @message v m hadm =>
    have hopen' : NoneOpen (s.advance v.iterator m) := by
      intro d
      by_cases hd : d = v.iterator
      · subst hd; simpa [Shared.advance, Shared.setClient] using hopen v.iterator
      · simpa [Shared.advance, Shared.setClient, Function.update_of_ne hd] using hopen d
    exact (winds_takeMessage (s := s.advance v.iterator m) hrun hopen' m).mono (Nat.le_refl _) rfl
  | stop | iteratorRaised => exact winds_teardown hrun hopen _ rfl
  | handled =>
    simp only [ack, Shared.record]
    split
    · exact ⟨⟨hrun, hopen, htask⟩, Nat.lt_succ_self _, rfl⟩
    · exact ⟨⟨hrun, hopen, htask⟩, by simp [Task.rank], rfl⟩
  | @handlerFailed v m token x hx =>
    exact (winds_nack (s := s.record (.failed m)) (v := { v with ctx := token }) hrun hopen
      htask).mono (Nat.le_refl _) rfl
  | handlerCancelled | commitCancelled =>
    exact (winds_teardown hrun hopen _ rfl).mono (by simp [Task.rank]) rfl
  | committed | commitFailed => exact ⟨⟨hrun, hopen, htask⟩, Nat.lt_succ_self _, rfl⟩
  | stopped | stopFailed => exact ⟨⟨rfl, hopen, htask⟩, Nat.zero_lt_succ _, rfl⟩
  | stopCancelled => exact ⟨⟨hrun, hopen, rfl⟩, Nat.zero_lt_succ _, rfl⟩

omit [DecidableEq P] in
/-- `close()` begins. -/
theorem Before.close (h : Before s p) (hp : p.started) : After (close s).1 p := by
  unfold Kafka.close
  cases p with
  | polling v | handling v m token | committing v os =>
    have h' : InUse s v.iterator := h
    simp only [h'.consumer]
    exact ⟨rfl, h'.stopClient, by simp [AfterTask, Shared.stopClient, Shared.setClient]⟩
  | stopping res | ended res =>
    split
    · exact ⟨rfl, noneOpen_stopClient h.1 _, h.2⟩
    · exact ⟨rfl, h.1, h.2⟩
  | idle | starting | closing | closed | closeFailed => exact hp.elim

/-- What begins a call. -/
theorem Step.idle (h : Step cd i s .idle e r) :
    (∃ ctx x, e = .subscribe ctx x) ∨ (e = .close ∧ r = Kafka.close s) := by
  cases h with
  | subscribe | notConstructed => exact .inl ⟨_, _, rfl⟩
  | close => exact .inr ⟨rfl, rfl⟩

theorem closeRule : CloseRule surface (resume cd) LateClose (fresh offsets) .idle .closed
    (Before (T := T)) CloseAfter Task.rank where
  start := ⟨fun _ => rfl, fun _ => rfl⟩
  calls := by
    rintro l i e r ⟨⟨hsub, hclose⟩, -⟩ hti hp
    rcases (step_of_resume hp).idle with ⟨ctx, x, he⟩ | ⟨he, -⟩
    · exact .inl (hsub ctx x he)
    · exact .inr (hclose he)
  goesOn := by
    rintro l e s p h ⟨⟨-, hclose⟩, -⟩ hp
    exact h.step (step_of_resume hp) fun he => absurd (hclose he) (by decide)
  begins := by
    rintro l e s p h ⟨⟨hsub, -⟩, hlate⟩ hp
    rcases (step_of_resume hp).idle with ⟨ctx, x, he⟩ | ⟨he, hr⟩
    · exact absurd (hsub ctx x he) (by decide)
    · have hafter := h.close (hlate he)
      have hbegun : (Kafka.close l.shared).2.begun := by
        unfold Kafka.close
        split <;> exact trivial
      rw [← hr] at hafter hbegun
      exact ⟨hbegun, hafter⟩
  closes := by
    rintro b s e s' b' a ⟨hb, h⟩ hp
    generalize hr : (s', b') = r at hp
    cases step_of_resume hp with
    | closed =>
      cases hr
      exact ⟨trivial, h.running, h.isOpen, h.task⟩
    | closeCancelled =>
      cases hr
      exact ⟨trivial, h⟩
    | _ => exact hb.elim
  windsUp := by
    rintro l e r ⟨hb, h⟩ - hp
    have hw := h.step (step_of_resume hp)
    exact ⟨⟨hb, hw.holds⟩, hw.lower, hw.quiet⟩
  returns := rfl
  canGoOn := by
    rintro b s a ⟨-, h⟩
    have hok : ∀ e : Ev P B Ctx, e ≠ .close → (∀ ctx x, e ≠ .subscribe ctx x) →
        ∀ l : Loop (Shared P B T Ctx) (Task P Ctx), LateClose l 0 e := fun e he hsub _ =>
      ⟨⟨fun ctx x h => absurd h (hsub ctx x), fun h => absurd h he⟩, fun h => absurd h he⟩
    have htask := h.task
    cases a with
    | ended res => exact .inl rfl
    | polling v => exact .inr ⟨.stop, _, if_pos htask, hok _ nofun nofun⟩
    | handling v m token => exact .inr ⟨.ok, _, rfl, hok _ nofun nofun⟩
    | committing v os => exact .inr ⟨.ok, _, rfl, hok _ nofun nofun⟩
    | stopping res => exact .inr ⟨.ok, _, rfl, hok _ nofun nofun⟩
    | idle | starting | closing | closed | closeFailed => exact htask.elim
  blameless := by
    rintro b s a res ⟨-, h⟩ hres
    have htask := h.task
    cases a with
    | ended res' => cases hres; exact htask
    | _ => cases hres
  shut := by
    rintro s a ⟨-, h⟩ c hc
    exact Bool.false_ne_true ((h.isOpen c).symm.trans hc)
  made := nofun

end OpenframeAdapters.Queue.Kafka
