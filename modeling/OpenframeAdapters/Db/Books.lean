import OpenframeAdapters.Db.Factory

/-!
# Where the clients are

What holds of the clients of any adapter in any interleaving of `get_*`, `close()` and
`shutdown()` calls, whatever the driver does. A client that has been made is cached
under one key, or held by the one call that probes it, or neither; a client that
somebody has begun to close is not held, and is cached only where its `close()` pops
the key later.

## What is proved

* `books_of_reach` — the above, as an invariant of every run.
* `closes_of_reach` — a cached client that is closed has a `close()` call to blame.
* `built_of_reach` — a client is cached under, and returned for, the key of the settings
  it was built from.
-/

namespace OpenframeAdapters.Db

open Python OpenframeAdapters.Core

variable {S K A : Type} [DecidableEq K] {f : Factory S K A} {i : ℕ} {s s' : Shared K A}
  {p : Task S K} {e : Ev S} {r : Shared K A × Task S K} {l : Loop (Shared K A) (Task S K)}
  {ok : Guard (Shared K A) (Task S K) (Ev S)}

/-- `get_*` has constructed the client, and has not decided about it yet. -/
def Task.holds : Task S K → ℕ → Prop
  | .probing _ c _, d => c = d
  | _, _ => False

/-- The call closes the client that it has read under the key, or has done so. -/
def Task.closes : Task S K → K → ℕ → Prop
  | .closing k c _, k', d => k = k' ∧ c = d
  | .ended k c _ _, k', d => k = k' ∧ c = some d
  | _, _, _ => False

/-- A call of `close()` or `shutdown()`. -/
def Task.isClose : Task S K → Prop
  | .closing .. | .ended .. => True
  | _ => False

/-- Nobody but the call that holds the client knows of it. -/
structure Private (s : Shared K A) (c : ℕ) : Prop where
  /-- It has been made. -/
  made : c < s.made
  /-- Nobody closes it. -/
  closed : s.closed c = false
  /-- It is not cached. -/
  cache : ∀ k, s.cache k ≠ some c

/-- What a call relies on. -/
def Sound (s : Shared K A) : Task S K → Prop
  | .creating _ seen => ∀ c, seen c = true → c < s.made
  | .probing _ c seen => Private s c ∧ seen c = false
  | _ => True

/-- Where the clients are. -/
structure Books (l : Loop (Shared K A) (Task S K)) : Prop where
  /-- What is cached has been made. -/
  cached : ∀ k c, l.shared.cache k = some c → c < l.shared.made
  /-- It is cached under one key. -/
  key : ∀ k k' c, l.shared.cache k = some c → l.shared.cache k' = some c → k = k'
  /-- What is closed has been made. -/
  closed : ∀ c, l.shared.closed c = true → c < l.shared.made
  /-- The calls may rely on what they do. -/
  sound : ∀ i, Sound l.shared (l.task i)
  /-- A client is held by one call. -/
  sole : ∀ i j c, (l.task i).holds c → (l.task j).holds c → i = j

omit [DecidableEq K] in
theorem Sound.private (h : Sound s p) {c : ℕ} (hp : p.holds c) : Private s c := by
  cases p with
  | probing settings d seen =>
    obtain rfl : d = c := hp
    exact h.1
  | _ => exact hp.elim

/-! ### What a step does -/

theorem Step.closes (hs : Step f s p e r) {k : K} {c : ℕ} (h : p.closes k c) : r.2.closes k c := by
  cases hs with
  | closedPop | closed | notClosed =>
    obtain ⟨rfl, rfl⟩ := h
    exact ⟨rfl, rfl⟩
  | _ => exact h.elim

omit [DecidableEq K] in
theorem Task.closes.isClose {k : K} {c : ℕ} (h : p.closes k c) : p.isClose := by
  cases p with
  | closing | ended => trivial
  | _ => exact h

theorem Step.isClose (hs : Step f s p e r) (h : r.2.isClose) :
    p.isClose ∨ ∃ settings m, e = .close settings m := by
  cases hs with
  | closeNone | closeKept | closePopped => exact .inr ⟨_, _, rfl⟩
  | closedPop | closed | notClosed => exact .inl trivial
  | _ => exact h.elim

/-- What a step from `p` to `q` does to the cache and the clients. -/
inductive Effect (f : Factory S K A) (s : Shared K A) (p q : Task S K) : Shared K A → Prop
  /-- Nothing. -/
  | none : Effect f s p q s
  /-- A client is made. -/
  | make {a} : Effect f s p q (s.make a)
  /-- A client is made and stored. -/
  | makeStore {settings} : Effect f s p q
      ((s.make (f.arguments settings)).store (f.cacheKey settings) s.made)
  /-- The client that the call holds is stored. -/
  | store {k c} : p.holds c → Effect f s p q (s.store k c)
  /-- The client that the call holds is closed. -/
  | closeHeld {c} : p.holds c → Effect f s p q (s.close c)
  /-- A cached client is closed, which the call has read. -/
  | closeCached {k c} : s.cache k = some c → q.closes k c → Effect f s p q (s.close c)
  /-- A cached client is popped and closed. -/
  | popClose {k c} : s.cache k = some c → Effect f s p q ((s.pop k).close c)
  /-- What is cached under a key is popped. -/
  | pop {k} : Effect f s p q (s.pop k)

theorem Step.effect (hs : Step f s p e r) : Effect f s p r.2 r.1 := by
  cases hs with
  | construct | late => exact .make
  | created => exact .makeStore
  | probed => exact .store rfl
  | discard => exact .closeHeld rfl
  | closeKept _ hc => exact .closeCached hc ⟨rfl, rfl⟩
  | closePopped _ hc => exact .popClose hc
  | closedPop => exact .pop
  | _ => exact .none

theorem Step.closed_mono (hs : Step f s p e r) {c : ℕ} (hc : s.closed c = true) :
    r.1.closed c = true := by
  have heff := hs.effect
  generalize r.1 = s' at heff
  cases heff with
  | closeHeld | closeCached | popClose => simp [hc]
  | _ => exact hc

theorem Step.made_le (hs : Step f s p e r) : s.made ≤ r.1.made := by
  have heff := hs.effect
  generalize r.1 = s' at heff
  cases heff with
  | make | makeStore => exact Nat.le_succ _
  | _ => exact Nat.le_refl _

/-- A step leaves alone what is private to another call. -/
theorem Step.frame (hs : Step f s p e r) {c : ℕ} (h : Private s c) (hp : ¬ p.holds c) :
    Private r.1 c := by
  have hmade := Nat.lt_of_lt_of_le h.made hs.made_le
  have heff := hs.effect
  generalize r.1 = s' at heff hmade ⊢
  refine ⟨hmade, Bool.eq_false_iff.mpr fun hc => ?_, fun k hk => ?_⟩
  · have unchanged (hc : s.closed c = true) : False := Bool.false_ne_true (h.closed.symm.trans hc)
    cases heff with
    | closeHeld hd =>
      rcases Shared.closed_of_close hc with rfl | hc
      · exact hp hd
      · exact unchanged hc
    | closeCached hk | popClose hk =>
      rcases Shared.closed_of_close hc with rfl | hc
      · exact h.cache _ hk
      · exact unchanged hc
    | _ => exact unchanged hc
  · cases heff with
    | makeStore =>
      rcases Shared.cache_of_store hk with ⟨-, rfl⟩ | hk
      · exact Nat.lt_irrefl _ h.made
      · exact h.cache k hk
    | store hd =>
      rcases Shared.cache_of_store hk with ⟨-, rfl⟩ | hk
      · exact hp hd
      · exact h.cache k hk
    | popClose | pop => exact h.cache k (Shared.cache_of_pop hk)
    | _ => exact h.cache k hk

/-- A call that gets hold of a client has just constructed it. -/
theorem Step.holds (hs : Step f s p e r) {c : ℕ} (h : r.2.holds c) : c = s.made := by
  cases hs with
  | construct => exact h.symm
  | _ => exact h.elim

/-- What is newly closed was cached, or held by the call. -/
theorem Step.closed_lt (hs : Step f s p e r) (hcached : ∀ k c, s.cache k = some c → c < s.made)
    (hp : Sound s p) {c : ℕ} (h : r.1.closed c = true) (hc : s.closed c = false) : c < s.made := by
  have unchanged (h : s.closed c = true) : c < s.made :=
    absurd (hc.symm.trans h) Bool.false_ne_true
  have heff := hs.effect
  generalize r.1 = s' at heff h
  cases heff with
  | closeHeld hd =>
    rcases Shared.closed_of_close h with rfl | h
    · exact (hp.private hd).made
    · exact unchanged h
  | closeCached hk | popClose hk =>
    rcases Shared.closed_of_close h with rfl | h
    · exact hcached _ _ hk
    · exact unchanged h
  | _ => exact unchanged h

/-- What is newly cached has just been made, or is held by the call, and is cached under one
key. -/
theorem Step.cache_cases (hs : Step f s p e r) {k : K} {c : ℕ} (h : r.1.cache k = some c) :
    s.cache k = some c ∨ (∀ k', r.1.cache k' = some c → k' = k ∨ s.cache k' = some c) ∧
      (c = s.made ∧ c < r.1.made ∨ p.holds c) := by
  have heff := hs.effect
  generalize r.1 = s' at heff h ⊢
  cases heff with
  | makeStore =>
    rcases Shared.cache_of_store h with ⟨rfl, rfl⟩ | h
    · refine .inr ⟨fun k' hk' => ?_, .inl ⟨rfl, Nat.lt_succ_self _⟩⟩
      exact (Shared.cache_of_store hk').imp_left And.left
    · exact .inl h
  | store hd =>
    rcases Shared.cache_of_store h with ⟨rfl, rfl⟩ | h
    · refine .inr ⟨fun k' hk' => ?_, .inr hd⟩
      exact (Shared.cache_of_store hk').imp_left And.left
    · exact .inl h
  | popClose | pop => exact .inl (Shared.cache_of_pop h)
  | _ => exact .inl h

/-- What is cached has been made. -/
theorem Step.cached_lt (hs : Step f s p e r) (hcached : ∀ k c, s.cache k = some c → c < s.made)
    (hp : Sound s p) {k : K} {c : ℕ} (h : r.1.cache k = some c) : c < r.1.made := by
  rcases hs.cache_cases h with hk | ⟨-, ⟨-, hlt⟩ | hc⟩
  · exact Nat.lt_of_lt_of_le (hcached k c hk) hs.made_le
  · exact hlt
  · exact Nat.lt_of_lt_of_le (hp.private hc).made hs.made_le

/-- It is not cached under another key. -/
theorem Step.key (hs : Step f s p e r) (hcached : ∀ k c, s.cache k = some c → c < s.made)
    (hkey : ∀ k k' c, s.cache k = some c → s.cache k' = some c → k = k') (hp : Sound s p)
    {k k' : K} {c : ℕ} (h : r.1.cache k = some c) (h' : r.1.cache k' = some c) : k = k' := by
  -- a client that has just been made, or that the call holds, was not cached
  have absent (hc : c = s.made ∧ c < r.1.made ∨ p.holds c) (k : K) : s.cache k ≠ some c := by
    intro hk
    rcases hc with ⟨hc, -⟩ | hc
    · exact Nat.ne_of_lt (hcached k c hk) hc
    · exact (hp.private hc).cache k hk
  rcases hs.cache_cases h with hk | ⟨hother, hc⟩
  · rcases hs.cache_cases h' with hk' | ⟨-, hc⟩
    · exact hkey k k' c hk hk'
    · exact absurd hk (absent hc k)
  · rcases hother k' h' with heq | hk'
    · exact heq.symm
    · exact absurd hk' (absent hc k')

/-- The call relies on what holds. -/
theorem Step.sound (hs : Step f s p e r) (hcached : ∀ k c, s.cache k = some c → c < s.made)
    (hclosed : ∀ c, s.closed c = true → c < s.made) : Sound r.1 r.2 := by
  cases hs with
  | start => exact hclosed
  | construct =>
    have hfresh : s.closed s.made = false := by
      by_contra h
      exact Nat.lt_irrefl _ (hclosed _ (Bool.not_eq_false _ ▸ h))
    refine ⟨⟨Nat.lt_succ_self _, hfresh, fun k hk => ?_⟩, hfresh⟩
    exact Nat.lt_irrefl _ (hcached k _ hk)
  | _ => exact trivial

omit [DecidableEq K] in
/-- The other calls rely on what still holds. -/
theorem Sound.frame (h : Sound s p) (hmade : s.made ≤ s'.made)
    (hpriv : ∀ c, p.holds c → Private s c → Private s' c) : Sound s' p := by
  cases p with
  | creating settings seen => exact fun c hc => Nat.lt_of_lt_of_le (h c hc) hmade
  | probing settings c seen => exact ⟨hpriv c rfl h.1, h.2⟩
  | _ => trivial

/-! ### The invariant -/

theorem Books.step (h : Books l) (hs : Step f l.shared (l.task i) e r) :
    Books ⟨r.1, Function.update l.task i r.2⟩ where
  cached k c hc := hs.cached_lt h.cached (h.sound i) hc
  key k k' c hk hk' := hs.key h.cached h.key (h.sound i) hk hk'
  closed c hc := by
    refine Nat.lt_of_lt_of_le ?_ hs.made_le
    cases hold : l.shared.closed c with
    | true => exact h.closed c hold
    | false => exact hs.closed_lt h.cached (h.sound i) hc hold
  sound j := by
    by_cases hj : j = i
    · subst hj
      simpa using hs.sound h.cached h.closed
    · have hsole : ∀ c, (l.task j).holds c → ¬ (l.task i).holds c :=
        fun c hc hi => hj (h.sole j i c hc hi)
      simpa [Function.update_of_ne hj] using
        (h.sound j).frame hs.made_le fun c hc hpriv => hs.frame hpriv (hsole c hc)
  sole j k c hj hk := by
    dsimp only at hj hk
    -- a call that gets hold of a client has constructed it, so no other one holds it
    have other {m : ℕ} (hm : m ≠ i) (hc : (l.task m).holds c) (hi : r.2.holds c) : False :=
      Nat.lt_irrefl c (hs.holds hi ▸ ((h.sound m).private hc).made)
    by_cases hji : j = i <;> by_cases hki : k = i
    · rw [hji, hki]
    · subst hji
      rw [Function.update_self] at hj
      rw [Function.update_of_ne hki] at hk
      exact (other hki hk hj).elim
    · subst hki
      rw [Function.update_self] at hk
      rw [Function.update_of_ne hji] at hj
      exact (other hji hj hk).elim
    · rw [Function.update_of_ne hji] at hj
      rw [Function.update_of_ne hki] at hk
      exact h.sole j k c hj hk

/-- **Books**: in every run, clients have the places that `Books` says. -/
theorem books_of_reach (h : Reach (resume f) ok fresh l) : Books l := by
  refine h.invariant ⟨nofun, nofun, nofun, fun _ => trivial, fun _ _ _ => False.elim⟩ ?_
  intro l i e s p _ hb _ hp
  exact hb.step (step_of_resume hp)

/-! ### Closed clients in the cache -/

/-- What is cached and closed was so before, unless the call closes it. -/
theorem Step.closing (hs : Step f s p e r)
    (hkey : ∀ k k' c, s.cache k = some c → s.cache k' = some c → k = k')
    (hclosed : ∀ c, s.closed c = true → c < s.made) (hp : Sound s p) {k : K} {c : ℕ}
    (h : r.1.cache k = some c) (hc : r.1.closed c = true) :
    s.cache k = some c ∧ s.closed c = true ∨ r.2.closes k c := by
  have hnew : s.closed s.made ≠ true := fun h => Nat.lt_irrefl _ (hclosed _ h)
  have heff := hs.effect
  generalize r.1 = s' at heff h hc
  generalize r.2 = q at heff ⊢
  cases heff with
  | makeStore =>
    rcases Shared.cache_of_store h with ⟨-, rfl⟩ | h
    · exact absurd hc hnew
    · exact .inl ⟨h, hc⟩
  | store hd =>
    rcases Shared.cache_of_store h with ⟨-, rfl⟩ | h
    · exact absurd (hc.symm.trans (hp.private hd).closed) nofun
    · exact .inl ⟨h, hc⟩
  | closeHeld hd =>
    rcases Shared.closed_of_close hc with rfl | hc
    · exact absurd h ((hp.private hd).cache k)
    · exact .inl ⟨h, hc⟩
  | closeCached hk hcl =>
    rcases Shared.closed_of_close hc with rfl | hc
    · exact .inr (hkey k _ _ h hk ▸ hcl)
    · exact .inl ⟨h, hc⟩
  | popClose hk =>
    rcases Shared.closed_of_close hc with rfl | hc
    · -- what is popped is cached under no other key
      have h' := Shared.cache_of_pop h
      rw [Shared.close_cache, Shared.pop_cache, if_pos (hkey _ _ _ h' hk)] at h
      cases h
    · exact .inl ⟨Shared.cache_of_pop h, hc⟩
  | pop => exact .inl ⟨Shared.cache_of_pop h, hc⟩
  | _ => exact .inl ⟨h, hc⟩

/-- A cached client that is closed has been read there by a `close()` call. -/
theorem closes_of_reach (h : Reach (resume f) ok fresh l) {k : K} {c : ℕ}
    (hk : l.shared.cache k = some c) (hc : l.shared.closed c = true) :
    ∃ i, (l.task i).closes k c := by
  revert k c
  refine h.invariant (I := fun l => ∀ {k c}, l.shared.cache k = some c →
    l.shared.closed c = true → ∃ i, (l.task i).closes k c) nofun ?_
  intro l i e s p hr ih hok hp k c hk hc
  have hb := books_of_reach hr
  have hs := step_of_resume hp
  rcases hs.closing hb.key hb.closed (hb.sound i) hk hc with ⟨hk, hc⟩ | hcl
  · obtain ⟨j, hj⟩ := ih hk hc
    by_cases hji : j = i
    · subst hji
      exact ⟨j, by simpa using hs.closes hj⟩
    · exact ⟨j, by simpa [Function.update_of_ne hji] using hj⟩
  · exact ⟨i, by simpa using hcl⟩

/-! ### What clients are built from -/

/-- The settings that the calls are made with. -/
def Uses (P : S → Prop) : Guard (Shared K A) (Task S K) (Ev S) := fun _ _ e =>
  ∀ settings init, e = .get settings init → P settings

variable {P : S → Prop}

/-- The client was built from settings with the key `k`, which some call was made with. -/
def BuiltFor (f : Factory S K A) (P : S → Prop) (s : Shared K A) (k : K) (c : ℕ) : Prop :=
  c < s.made ∧
    ∃ settings, P settings ∧ f.cacheKey settings = k ∧ s.built c = some (f.arguments settings)

/-- A call holds, and returns, clients that were built for its key. -/
def Serves (f : Factory S K A) (P : S → Prop) (s : Shared K A) : Task S K → Prop
  | .probing settings c _ => P settings ∧ BuiltFor f P s (f.cacheKey settings) c
  | .returned settings c _ => P settings ∧ BuiltFor f P s (f.cacheKey settings) c
  | .creating settings _ | .abandoned settings _ => P settings
  | _ => True

/-- What a client was built from does not change. -/
theorem Step.built (hs : Step f s p e r) {c : ℕ} (hc : c < s.made) : r.1.built c = s.built c := by
  have heff := hs.effect
  generalize r.1 = s' at heff
  cases heff with
  | make | makeStore => simp [Nat.ne_of_lt hc]
  | _ => rfl

theorem BuiltFor.step {k : K} {c : ℕ} (h : BuiltFor f P s k c) (hs : Step f s p e r) :
    BuiltFor f P r.1 k c := by
  obtain ⟨hm, settings, hP, hk, hb⟩ := h
  exact ⟨Nat.lt_of_lt_of_le hm hs.made_le, settings, hP, hk, (hs.built hm).trans hb⟩

omit [DecidableEq K] in
theorem builtFor_make (f : Factory S K A) (s : Shared K A) {settings : S} (hP : P settings) :
    BuiltFor f P (s.make (f.arguments settings)) (f.cacheKey settings) s.made :=
  ⟨Nat.lt_succ_self _, settings, hP, rfl, by simp⟩

/-- A call that comes to hold or return a client does so for the right key. -/
theorem Step.serves (hs : Step f s p e r)
    (he : ∀ settings init, e = .get settings init → P settings)
    (hcache : ∀ k c, s.cache k = some c → BuiltFor f P s k c) (hp : Serves f P s p) :
    Serves f P r.1 r.2 := by
  cases hs with
  | hit hc => exact ⟨he _ _ rfl, hcache _ _ hc⟩
  | start => exact he _ _ rfl
  | construct => exact ⟨he _ _ rfl, builtFor_make f s (he _ _ rfl)⟩
  | created => exact ⟨hp, builtFor_make f s hp⟩
  | probed | abandoned => exact hp
  | _ => trivial

/-- A client is cached under the key that it was built for. -/
theorem Step.cached_builtFor (hs : Step f s p e r)
    (hcache : ∀ k c, s.cache k = some c → BuiltFor f P s k c) (hp : Serves f P s p) {k : K} {c : ℕ}
    (h : r.1.cache k = some c) : BuiltFor f P r.1 k c := by
  by_cases hold : s.cache k = some c
  · exact (hcache k c hold).step hs
  · cases hs with
    | created =>
      rcases Shared.cache_of_store h with ⟨rfl, rfl⟩ | h
      · exact builtFor_make f s hp
      · exact absurd h hold
    | probed =>
      rcases Shared.cache_of_store h with ⟨rfl, rfl⟩ | h
      · exact hp.2
      · exact absurd h hold
    | closedPop | closePopped => exact absurd (Shared.cache_of_pop h) hold
    | _ => exact absurd h hold

/-- **Keys**: in every run, a client is cached under the key of the settings it was built from,
and returned for settings with that key. -/
theorem built_of_reach (huses : ∀ l i e, ok l i e → Uses P l i e)
    (h : Reach (resume f) ok fresh l) :
    (∀ k c, l.shared.cache k = some c → BuiltFor f P l.shared k c) ∧
      ∀ i, Serves f P l.shared (l.task i) := by
  refine h.invariant (I := fun l => (∀ k c, l.shared.cache k = some c → BuiltFor f P l.shared k c) ∧
    ∀ i, Serves f P l.shared (l.task i)) ⟨nofun, fun _ => trivial⟩ ?_
  rintro l i e s p hr ⟨hc, ht⟩ hok hp
  have hs := step_of_resume hp
  refine ⟨fun k c hk => hs.cached_builtFor hc (ht i) hk, fun j => ?_⟩
  by_cases hj : j = i
  · subst hj
    simpa using hs.serves (huses _ _ _ hok) hc (ht j)
  · dsimp only
    rw [Function.update_of_ne hj]
    have hj := ht j
    cases hq : l.task j with
    | probing settings c seen | returned settings c seen =>
      rw [hq] at hj
      exact ⟨hj.1, hj.2.step hs⟩
    | creating settings | abandoned settings =>
      rw [hq] at hj
      exact hj
    | _ => trivial

end OpenframeAdapters.Db
