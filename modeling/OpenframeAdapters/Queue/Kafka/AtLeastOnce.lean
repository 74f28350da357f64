import OpenframeAdapters.Queue.Kafka.Sessions

/-!
# Committed offsets of the Kafka consumer

The documentation of `KafkaConsumer` says that a message whose handler fails is not
committed, so that it is delivered again. `commit()` commits positions, not messages:
a commit after a later message of the session takes the failed one with it.

## What is proved

* `atLeastOnce_of_cleanCommit` — in one session, whatever fails and whenever it is
  closed, the property holds as long as nothing is committed once a message has
  failed; and the first commit after a failure breaks it.
* `not_atLeastOnce` — a session of two messages, the first of which fails.
-/

namespace OpenframeAdapters.Queue.Kafka

open Python OpenframeAdapters.Core

variable {P B T Ctx : Type} {cd : Codec B T Ctx} {offsets : P → ℕ} {i : ℕ}
  {e : Ev P B Ctx} {s s' : Shared P B T Ctx} {l l' : Loop (Shared P B T Ctx) (Task P Ctx)}

/-- A message that was taken and whose handler has not returned is not committed, and a
client that starts from the committed offsets gets it again. -/
def AtLeastOnce [DecidableEq P] (s : Shared P B T Ctx) : Prop :=
  ∀ m r b, .delivered m r b ∈ s.journal → .returned m ∉ s.journal →
    s.committed r.partition ≤ r.offset ∧
      ∀ c, (s.client c).position r.partition = none → s.admits c r = true

/-- A commit takes effect only when the handler of every message taken has returned. -/
def CleanCommit : Guard (Shared P B T Ctx) (Task P Ctx) (Ev P B Ctx) := fun l i e =>
  (∃ v os, l.task i = .committing v os) → e = .ok →
    ∀ m ∈ deliveries l.shared.journal, .returned m ∈ l.shared.journal

/-! ### The offsets of one session -/

/-- The one client of the session, its positions and the committed offsets. -/
structure Offsets (s : Shared P B T Ctx) : Prop where
  /-- At most one client is constructed. -/
  made : s.made ≤ 1
  /-- Its iterator is past every record taken. -/
  ahead : ∀ {m r b}, .delivered m r b ∈ s.journal →
    ∃ o, (s.client 0).position r.partition = some o ∧ r.offset < o
  /-- Nothing is committed that the iterator has not passed. -/
  behind : ∀ {q o}, (s.client 0).position q = some o → s.committed q ≤ o

/-- Before the session begins there is no client, and no record has been taken. -/
structure Untouched (s : Shared P B T Ctx) : Prop where
  /-- No client has been constructed. -/
  made : s.made = 0
  /-- No record has been taken. -/
  delivered : ∀ {m r b}, .delivered m r b ∉ s.journal

theorem Offsets.quiet (h : Offsets s) (hq : Quiet s s') : Offsets s' where
  made := hq.made ▸ h.made
  ahead hd := by
    rw [hq.position]
    exact h.ahead (hq.delivered hd)
  behind hp := by
    rw [hq.position] at hp
    rw [hq.committed]
    exact h.behind hp

theorem Untouched.quiet (h : Untouched s) (hq : Quiet s s') : Untouched s' :=
  ⟨hq.made ▸ h.made, fun hd => h.delivered (hq.delivered hd)⟩

/-- The first client has read nothing. -/
theorem Untouched.construct (h : Untouched s) (i : ℕ) : Offsets (s.construct i) where
  made := by simp [Shared.construct, Shared.setClient, Shared.record, h.made]
  ahead hd := by
    rcases List.mem_cons.mp hd with hd | hd
    · cases hd
    · exact (h.delivered hd).elim
  behind hp := by simp [Shared.construct, Shared.setClient, Shared.record, h.made] at hp

section

variable [DecidableEq P]

/-- The iterator yields nothing that it has passed or that is committed. -/
theorem Offsets.le_of_admits (h : Offsets s) {r : Record P B} (hadm : s.admits 0 r = true) :
    s.committed r.partition ≤ r.offset ∧
      ∀ {o}, (s.client 0).position r.partition = some o → o ≤ r.offset := by
  cases hpos : (s.client 0).position r.partition with
  | none =>
    refine ⟨by simpa [Shared.admits, hpos] using hadm, ?_⟩
    rintro o ⟨⟩
  | some o =>
    have ho : o ≤ r.offset := by simpa [Shared.admits, hpos] using hadm
    refine ⟨Nat.le_trans (h.behind hpos) ho, ?_⟩
    rintro _ ⟨⟩
    exact ho

/-- The iterator passes the record it yields. -/
theorem Offsets.take (h : Offsets s) {r : Record P B} {m : MsgId} {b : Bool}
    (hadm : s.admits 0 r = true) : Offsets ((s.advance 0 r).record (.delivered m r b)) := by
  obtain ⟨hcom, hpos⟩ := h.le_of_admits hadm
  have hnew : (((s.advance 0 r).record (.delivered m r b)).client 0).position =
      Function.update (s.client 0).position r.partition (some (r.offset + 1)) := by
    simp [Shared.advance, Shared.setClient, Shared.record]
  refine ⟨h.made, fun {m' r' b'} hd => ?_, fun {q o} hp => ?_⟩
  · rw [hnew]
    by_cases hq : r'.partition = r.partition
    · rw [hq, Function.update_self]
      refine ⟨_, rfl, ?_⟩
      rcases List.mem_cons.mp hd with hd | hd
      · cases hd
        exact Nat.lt_succ_self _
      · obtain ⟨o, ho, hlt⟩ := h.ahead hd
        have := hpos (hq ▸ ho)
        omega
    · rw [Function.update_of_ne hq]
      rcases List.mem_cons.mp hd with hd | hd
      · cases hd
        exact absurd rfl hq
      · exact h.ahead hd
  · rw [hnew] at hp
    by_cases hq : q = r.partition
    · subst hq
      rw [Function.update_self] at hp
      cases hp
      exact Nat.le_succ_of_le hcom
    · rw [Function.update_of_ne hq] at hp
      exact h.behind hp

end

/-- A commit writes the positions of the client. -/
theorem Offsets.commit (h : Offsets s) {os : P → Option ℕ} (hos : os = (s.client 0).position) :
    Offsets { s with committed := fun p => (os p).getD (s.committed p) } where
  made := h.made
  ahead := h.ahead
  behind {q o} hp := by simp [hos, show (s.client 0).position q = some o from hp]

/-- The session's client is the first one, and its loop runs over it. -/
theorem Offsets.loop (h : Offsets s) {c d : ℕ} (ho : LoopOwns i s c d) : c = 0 ∧ d = 0 := by
  have := ho.own.made
  have := h.made
  have := ho.iterator
  omega

variable [DecidableEq P]

/-- What one session knows of its client and of the offsets. -/
structure SessionOffsets (l : Loop (Shared P B T Ctx) (Task P Ctx)) : Prop where
  /-- Before the session. -/
  before : l.task 0 = .idle → Untouched l.shared
  /-- At any time. -/
  offsets : Offsets l.shared

variable {ok : Guard (Shared P B T Ctx) (Task P Ctx) (Ev P B Ctx)}

theorem sessionOffsets_of_reach (hone : ∀ l i e, ok l i e → OneSession l i e)
    (h : Reach (resume cd) ok (fresh offsets) l) : SessionOffsets l := by
  refine h.invariant ⟨fun _ => ⟨rfl, nofun⟩, ⟨Nat.zero_le _, nofun, nofun⟩⟩ ?_
  intro l i e s p hr hI hok hp
  have howns := owns_of_reach (serial_of_oneSession hone) hr i
  have hact := eq_zero_of_active hone hr i
  have hidle : p ≠ .idle := (step_of_resume hp).ne_idle
  have heff := (step_of_resume hp).effect
  -- the one session has begun once task `0` has moved
  have hstarted : i = 0 → Function.update l.task i p 0 ≠ .idle := by
    rintro rfl
    simpa using hidle
  generalize hti : l.task i = q at hp howns hact heff
  cases heff with
  | construct =>
    obtain rfl : i = 0 := hone _ _ _ hok _ _ rfl
    exact ⟨fun h => absurd h (hstarted rfl), (hI.before hti).construct 0⟩
  | @take v r s hadm hq =>
    obtain rfl : i = 0 := hact trivial
    obtain ⟨-, hit⟩ := hI.offsets.loop howns
    rw [hit] at hadm hq
    exact ⟨fun h => absurd h (hstarted rfl), (hI.offsets.take hadm).quiet hq⟩
  | @commit v os =>
    obtain rfl : i = 0 := hact trivial
    obtain ⟨hown, -⟩ := hI.offsets.loop howns.1
    exact ⟨fun h => absurd h (hstarted rfl), hI.offsets.commit (by rw [howns.2, hown])⟩
  | quiet hq =>
    refine ⟨fun h => ?_, hI.offsets.quiet hq⟩
    by_cases hi : i = 0
    · exact absurd h (hstarted hi)
    · dsimp only at h
      rw [Function.update_of_ne (Ne.symm hi)] at h
      exact (hI.before h).quiet hq

/-! ### The committed offset and failed messages -/

/-- A client that starts from the committed offsets gets a record that is not committed. -/
theorem admits_of_committed_le {r : Record P B} (h : s.committed r.partition ≤ r.offset) {c : ℕ}
    (hc : (s.client c).position r.partition = none) : s.admits c r = true := by
  simpa [Shared.admits, hc] using h

theorem atLeastOnce_iff :
    AtLeastOnce s ↔ ∀ m r b, .delivered m r b ∈ s.journal → .returned m ∉ s.journal →
      s.committed r.partition ≤ r.offset :=
  ⟨fun h _ _ _ hd hr => (h _ _ _ hd hr).1, fun h _ _ _ hd hr =>
    ⟨h _ _ _ hd hr, fun _ hc => admits_of_committed_le (h _ _ _ hd hr) hc⟩⟩


/-- A step that is no commit keeps the property. -/
theorem AtLeastOnce.effect (h : AtLeastOnce s) (hoff : Offsets s) {p : Task P Ctx}
    (heff : Effect i s p e s') (howns : Owns i s p)
    (hcom : ¬ ((∃ v os, p = .committing v os) ∧ e = .ok)) : AtLeastOnce s' := by
  rw [atLeastOnce_iff] at h ⊢
  cases heff with
  | construct =>
    intro m r b hd hret
    refine h m r b ((List.mem_cons.mp hd).resolve_left (by simp)) fun hr => hret (.tail _ hr)
  | @take v r s' hadm hq =>
    obtain ⟨-, hit⟩ := hoff.loop howns
    rw [hit] at hadm
    intro m' r' b' hd hret
    rw [hq.committed]
    rcases List.mem_cons.mp (hq.delivered hd) with hd | hd
    · cases hd
      exact (hoff.le_of_admits hadm).1
    · exact h m' r' b' hd fun hr => hret (hq.journal.subset (.tail _ hr))
  | commit => exact absurd ⟨⟨_, _, rfl⟩, rfl⟩ hcom
  | quiet hq =>
    intro m r b hd hret
    rw [hq.committed]
    exact h m r b (hq.delivered hd) fun hr => hret (hq.journal.subset hr)

/-- A commit keeps the property exactly when no message has failed. -/
theorem atLeastOnce_commit_iff (hoff : Offsets s) {os : P → Option ℕ}
    (hos : os = (s.client 0).position) :
    AtLeastOnce { s with committed := fun p => (os p).getD (s.committed p) } ↔
      ∀ m ∈ deliveries s.journal, .returned m ∈ s.journal := by
  rw [atLeastOnce_iff]
  refine ⟨fun h m hm => ?_, fun h m r b hd hret =>
    absurd (h m (mem_deliveries.mpr ⟨r, b, hd⟩)) hret⟩
  obtain ⟨r, b, hd⟩ := mem_deliveries.mp hm
  by_contra hret
  obtain ⟨o, ho, hlt⟩ := hoff.ahead hd
  have := h m r b hd hret
  simp only [hos, ho, Option.getD_some] at this
  omega

/-- A step keeps the property exactly when it is no commit after a failure. -/
theorem AtLeastOnce.step_iff (hone : ∀ l i e, ok l i e → OneSession l i e)
    (hr : Reach (resume cd) ok (fresh offsets) l) (h : AtLeastOnce l.shared)
    (hs : l.step (resume cd) i e = some l') : AtLeastOnce l'.shared ↔ CleanCommit l i e := by
  obtain ⟨s, p, hp, rfl⟩ := Loop.step_eq_some_iff.mp hs
  have howns := owns_of_reach (serial_of_oneSession hone) hr i
  have hoff := (sessionOffsets_of_reach hone hr).offsets
  have hstep := step_of_resume hp
  by_cases hcom : (∃ v os, l.task i = .committing v os) ∧ e = .ok
  · obtain ⟨⟨v, os, hti⟩, rfl⟩ := hcom
    rw [hti] at hstep howns
    obtain ⟨hown, -⟩ := hoff.loop howns.1
    cases hstep with
    | committed =>
      refine (atLeastOnce_commit_iff hoff (by rw [howns.2, hown])).trans ?_
      exact ⟨fun h _ _ => h, fun h => h ⟨v, os, hti⟩ rfl⟩
  · refine iff_of_true (h.effect hoff hstep.effect howns hcom) fun hv he => ?_
    exact absurd ⟨hv, he⟩ hcom

/-- **At least once, where it holds**: in one session, whatever fails and whenever it is
closed, the committed offset never passes a message whose handler has not returned, as long
as nothing is committed once a message has failed. The first commit that does not meet the
condition breaks the property. -/
theorem atLeastOnce_of_cleanCommit
    (h : Reach (resume cd) (fun l i e => OneSession l i e ∧ CleanCommit l i e) (fresh offsets) l) :
    AtLeastOnce l.shared ∧ ∀ {i e l'}, OneSession l i e → l.step (resume cd) i e = some l' →
      (AtLeastOnce l'.shared ↔ CleanCommit l i e) := by
  have hal : AtLeastOnce l.shared := by
    refine h.invariant (I := fun l => AtLeastOnce l.shared) nofun ?_
    intro l i e s p hr hI hok hp
    have hs : l.step (resume cd) i e = some ⟨s, Function.update l.task i p⟩ :=
      Loop.step_eq_some_iff.mpr ⟨s, p, hp, rfl⟩
    exact (hI.step_iff (fun _ _ _ => And.left) hr hs).mpr hok.2
  exact ⟨hal, fun _ hs => hal.step_iff (fun _ _ _ => And.left) h hs⟩

/-! ### A failed message is committed -/

/-- Everything unpacks. -/
def unpackAll : Codec Unit Unit Unit := ⟨some, fun _ => some "", fun _ => some ()⟩

/-- The handler of the first message returns, that of the second one raises. -/
def returnThenFail : List (ℕ × Ev Unit Unit Unit) :=
  [(0, .subscribe () none), (0, .ok), (0, .message ⟨(), 0, (), []⟩), (0, .ok), (0, .ok),
    (0, .message ⟨(), 1, (), []⟩), (0, .raise runtimeError)]

/-- The first of two messages returns and the second one fails: the second one is not committed. -/
theorem atLeastOnce_returnThenFail :
    ∃ l, (fresh fun _ => 0).run (resume (P := Unit) unpackAll) returnThenFail = some l ∧
      Entry.failed ⟨0, 1⟩ ∈ l.shared.journal ∧ AtLeastOnce l.shared := by
  have noCommit {l : Loop (Shared Unit Unit Unit Unit) (Task Unit Unit)} {e : Ev Unit Unit Unit}
      (h : ∀ v os, l.task 0 ≠ .committing v os) : OneSession l 0 e ∧ CleanCommit l 0 e :=
    ⟨fun _ _ _ => rfl, fun ⟨v, os, hv⟩ => absurd hv (h v os)⟩
  have hadm : Admitted (resume (P := Unit) unpackAll)
      (fun l i e => OneSession l i e ∧ CleanCommit l i e) (fresh fun _ => 0) returnThenFail := by
    refine admitted_cons (noCommit nofun) rfl ?_
    refine admitted_cons (noCommit nofun) rfl ?_
    refine admitted_cons (noCommit nofun) rfl ?_
    refine admitted_cons (noCommit nofun) rfl ?_
    refine admitted_cons ⟨fun _ _ _ => rfl, fun _ _ => by decide⟩ rfl ?_
    refine admitted_cons (noCommit nofun) rfl ?_
    exact admitted_cons (noCommit nofun) rfl trivial
  exact ⟨_, rfl, by decide, (atLeastOnce_of_cleanCommit (reach_of_run hadm rfl)).1⟩

/-- The handler of the first message raises, that of the second one returns. -/
def failThenReturn : List (ℕ × Ev Unit Unit Unit) :=
  [(0, .subscribe () none), (0, .ok), (0, .message ⟨(), 0, (), []⟩), (0, .raise runtimeError),
    (0, .message ⟨(), 1, (), []⟩), (0, .ok), (0, .ok)]

/-- A session of two messages, the first of which fails: the second one's commit takes the
failed message with it. -/
theorem not_atLeastOnce :
    ¬ ∀ l, Reach (resume (P := Unit) unpackAll) OneSession (fresh fun _ => 0) l →
      AtLeastOnce l.shared := by
  intro h
  have hadm : Admitted (resume (P := Unit) unpackAll) OneSession (fresh fun _ => 0)
      failThenReturn :=
    admitted_of_forall (by simp [failThenReturn, OneSession])
  obtain ⟨l, hl, hd, hret, hcom⟩ : ∃ l,
      (fresh fun _ => 0).run (resume (P := Unit) unpackAll) failThenReturn = some l ∧
      Entry.delivered ⟨0, 0⟩ ⟨(), 0, (), []⟩ true ∈ l.shared.journal ∧
      Entry.returned ⟨0, 0⟩ ∉ l.shared.journal ∧ l.shared.committed () = 2 :=
    ⟨_, rfl, by decide, by decide, by decide⟩
  have hle : l.shared.committed () ≤ 0 := (h l (reach_of_run hadm hl) _ _ _ hd hret).1
  omega

end OpenframeAdapters.Queue.Kafka
