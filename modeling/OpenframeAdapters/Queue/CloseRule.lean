import OpenframeAdapters.Python.Tasks
import OpenframeAdapters.Queue.Journal

/-!
# What close() promises

One `subscribe()` call, of task `0`, and one `close()` call, of task `1`, on the
same consumer. Once `close()` has returned, no handler is called any more,
`subscribe()` ends without raising anything that `close()` caused, and no connection
that it opened is open.

## The model

* `Surface` — what the promise looks at, of a consumer.
* `Stopped` — the promise.
* `CloseRule` — what is to be shown of a consumer: what is known of `subscribe()`
  until `close()` begins and afterwards, and a rank that each step lowers then.

## What is proved

* `CloseRule.stopped` — the rule gives the promise, for every interleaving.
-/

namespace OpenframeAdapters.Queue

open Python

/-- What the contract of `close()` looks at. -/
structure Surface (σ π M V : Type) where
  /-- The journal. -/
  journal : σ → Journal M V
  /-- A connection (or client) is open. -/
  isOpen : σ → ℕ → Prop
  /-- How a `subscribe()` call has ended. -/
  outcome : π → Option Outcome

/-- What `close()` promises once it has returned. -/
structure Stopped {σ π ε M V : Type} (f : Surface σ π M V) (resume : Resume σ π ε)
    (ok : Guard σ π ε) (l : Loop σ π) : Prop where
  /-- No handler is called any more. -/
  quiet : ∀ i e l', ok l i e → l.step resume i e = some l' →
    invocations (f.journal l'.shared) = invocations (f.journal l.shared)
  /-- `subscribe()` raises nothing that `close()` caused. -/
  blameless : ∀ res, f.outcome (l.task 0) = some res → res.stale = false
  /-- `subscribe()` ends. -/
  ends : Terminates resume ok (fun l => (f.outcome (l.task 0)).isSome = true) l
  /-- No connection is open. -/
  disconnected : ∀ c, ¬ f.isOpen l.shared c

/-! ### A rule for the promise -/

section Rule

variable {σ π ε M V : Type} {f : Surface σ π M V} {resume : Resume σ π ε} {ok : Guard σ π ε}
  {before : σ → π → Prop} {after : π → σ → π → Prop} {rank : π → ℕ} {idle closed b : π}
  {s s' : σ} {r : σ × π} {n k : ℕ} {l₀ l : Loop σ π}

/-- The outcome `r` of a step of `subscribe()` that winds it up, from a rank `n`, while
`close()` is suspended at `b`. -/
structure Winds (f : Surface σ π M V) (after : π → σ → π → Prop) (rank : π → ℕ) (b : π) (s : σ)
    (n : ℕ) (r : σ × π) : Prop where
  /-- What is known once `close()` has begun goes on to be. -/
  holds : after b r.1 r.2
  /-- The call has come closer to its end. -/
  lower : rank r.2 < n
  /-- No handler was called. -/
  quiet : invocations (f.journal r.1) = invocations (f.journal s)

theorem Winds.mono (h : Winds f after rank b s n r) (hnk : n ≤ k)
    (hq : invocations (f.journal s) = invocations (f.journal s')) : Winds f after rank b s' k r :=
  ⟨h.holds, Nat.lt_of_lt_of_le h.lower hnk, h.quiet.trans hq⟩

/-- What is to be shown for the promise: `before s a` is what is known of `subscribe()`,
suspended at `a`, until `close()` begins, and `after b s a` what is known while that is
suspended at `b`. -/
structure CloseRule (f : Surface σ π M V) (resume : Resume σ π ε) (ok : Guard σ π ε)
    (l₀ : Loop σ π) (idle closed : π) (before : σ → π → Prop) (after : π → σ → π → Prop)
    (rank : π → ℕ) : Prop where
  /-- No call has been made at the start. -/
  start : (∀ i, l₀.task i = idle) ∧ before l₀.shared idle
  /-- Tasks `0` and `1` make the two calls. -/
  calls : ∀ {l i e r}, ok l i e → l.task i = idle → resume i l.shared idle e = some r →
    i = 0 ∨ i = 1
  /-- A step of `subscribe()` before `close()` begins. -/
  goesOn : ∀ {l e s p}, before l.shared (l.task 0) → ok l 0 e →
    resume 0 l.shared (l.task 0) e = some (s, p) → before s p
  /-- `close()` begins. -/
  begins : ∀ {l e s p}, before l.shared (l.task 0) → ok l 1 e →
    resume 1 l.shared idle e = some (s, p) → after p s (l.task 0)
  /-- A step of `close()`. -/
  closes : ∀ {b s e s' b' a}, after b s a → resume 1 s b e = some (s', b') → after b' s' a
  /-- A step of `subscribe()` once `close()` has begun. -/
  windsUp : ∀ {l e r}, after (l.task 1) l.shared (l.task 0) → ok l 0 e →
    resume 0 l.shared (l.task 0) e = some r →
    Winds f after rank (l.task 1) l.shared (rank (l.task 0)) r
  /-- `close()` returns for good. -/
  returns : ∀ {s e}, resume 1 s closed e = none
  /-- `subscribe()` can go on until it is over. -/
  canGoOn : ∀ {b s a}, after b s a → (f.outcome a).isSome = true ∨
    ∃ e r, resume 0 s a e = some r ∧ ∀ l, ok l 0 e
  /-- `subscribe()` raises nothing that `close()` caused. -/
  blameless : ∀ {b s a res}, after b s a → f.outcome a = some res → res.stale = false
  /-- No connection is open when `close()` has returned. -/
  shut : ∀ {s a}, after closed s a → ∀ c, ¬ f.isOpen s c
  /-- A call that has returned has been made. -/
  made : closed ≠ idle

theorem CloseRule.pair (R : CloseRule f resume ok l₀ idle closed before after rank)
    (h : Reach resume ok l₀ l) :
    ((l.task 1 = idle ∧ before l.shared (l.task 0)) ∨ after (l.task 1) l.shared (l.task 0)) ∧
      ∀ i, i ≠ 0 → i ≠ 1 → l.task i = idle := by
  refine h.pair (A := fun s a b => (b = idle ∧ before s a) ∨ after b s a) R.start.1
    (.inl ⟨rfl, R.start.2⟩) (fun hok hti hp => R.calls hok hti hp) ?_ ?_
  · rintro l e s p (⟨hb, h⟩ | h) hok hp
    · exact .inl ⟨hb, R.goesOn h hok hp⟩
    · exact .inr (R.windsUp h hok hp).holds
  · rintro l e s p (⟨hb, h⟩ | h) hok hp
    · rw [hb] at hp
      exact .inr (R.begins h hok hp)
    · exact .inr (R.closes h hp)

/-- **The rule**: once `close()` has returned, the promise holds. -/
theorem CloseRule.stopped (R : CloseRule f resume ok l₀ idle closed before after rank)
    (h : Reach resume ok l₀ l) (hcl : l.task 1 = closed) : Stopped f resume ok l := by
  have hafter {l} (h : Reach resume ok l₀ l ∧ l.task 1 = closed) :
      after closed l.shared (l.task 0) := by
    rcases (R.pair h.1).1 with ⟨hb, -⟩ | ha
    · exact absurd (h.2.symm.trans hb) R.made
    · rwa [h.2] at ha
  have down {l i e l'} (hl : Reach resume ok l₀ l ∧ l.task 1 = closed) (hok : ok l i e)
      (hs : l.step resume i e = some l') :
      (Reach resume ok l₀ l' ∧ l'.task 1 = closed) ∧ rank (l'.task 0) < rank (l.task 0) ∧
        invocations (f.journal l'.shared) = invocations (f.journal l.shared) := by
    obtain ⟨s, p, hp, rfl⟩ := Loop.step_eq_some_iff.mp hs
    -- `close()` has returned and nobody else calls anything, so it is `subscribe()` that moves
    have hi : i = 0 := by
      by_contra hi
      by_cases hi' : i = 1
      · rw [hi', hl.2, R.returns] at hp
        cases hp
      · have hti := (R.pair hl.1).2 i hi hi'
        rw [hti] at hp
        exact (R.calls hok hti hp).elim hi hi'
    subst hi
    have hw := R.windsUp (hl.2 ▸ hafter hl) hok hp
    exact ⟨⟨hl.1.tail hok hs, by simpa using hl.2⟩, by simpa using hw.lower, hw.quiet⟩
  have go {l} (hl : Reach resume ok l₀ l ∧ l.task 1 = closed) :
      (f.outcome (l.task 0)).isSome = true ∨ ∃ i e l', ok l i e ∧ l.step resume i e = some l' := by
    rcases R.canGoOn (hafter hl) with hover | ⟨e, r, hr, hok⟩
    · exact .inl hover
    · exact .inr ⟨0, e, _, hok l, Loop.step_eq_some_iff.mpr ⟨r.1, r.2, hr, rfl⟩⟩
  exact
    { quiet := fun _ _ _ hok hs => (down ⟨h, hcl⟩ hok hs).2.2
      blameless := fun _ hres => R.blameless (hafter ⟨h, hcl⟩) hres
      ends := terminates_of_variant (fun l => rank (l.task 0))
        (fun hl hok hs => ⟨(down hl hok hs).1, (down hl hok hs).2.1⟩) go ⟨h, hcl⟩
      disconnected := R.shut (hafter ⟨h, hcl⟩) }

end Rule

end OpenframeAdapters.Queue
