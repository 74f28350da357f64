import OpenframeAdapters.Db.Books
import OpenframeAdapters.Db.Factories

/-!
# Closing a cached client

`close()` of the Postgres, MySQL, Qdrant and InfluxDB repositories reads the cached
client, awaits its close, and pops the key afterwards:

    client = _client_cache.get(key)
    if client is not None:
        await client.close()
        _client_cache.pop(key, None)

During the await the client that is being closed is still the cached one; a client that
is stored meanwhile is popped as well; and where the await raises, nothing is popped.
The Redis, FalkorDB, Mongo and DynamoDB repositories pop first.

## What is proved

* `cacheSound_of_careful` — with one `close()` or `shutdown()` call and any number of
  `get_*` calls in any order, the cache is sound (`CacheSound`) in every run whose steps
  keep away from the three cases (`Careful`), and a step that does not breaks it.
* `not_cacheSound` — the three cases.
-/

namespace OpenframeAdapters.Db

open Python OpenframeAdapters.Core

variable {S K A : Type} [DecidableEq K] {f : Factory S K A} {i : ℕ} {s : Shared K A}
  {p : Task S K} {e : Ev S} {r : Shared K A × Task S K} {l l' : Loop (Shared K A) (Task S K)}
  {ok : Guard (Shared K A) (Task S K) (Ev S)}

/-- Task `0` is the one that may call `close()` or `shutdown()`, and what the client's own close
raises is an `Exception`. -/
def OneClose : Guard (Shared K A) (Task S K) (Ev S) := fun l i e =>
  (∀ settings m, e = .close settings m → i = 0) ∧
    ∀ k c m x, l.task i = .closing k c m → e = .raise x → x.isa .exception = true

/-- The step of a call that is suspended at `p`, while the call that closes is at `q`: no `get_*`
call starts on the key while the client that is being closed is cached; the close returns only if
it still is; and it raises only if it is not, out of `close()` or into a `shutdown()` that drops
the exception. -/
def Careful (f : Factory S K A) (s : Shared K A) (q : Task S K) : Task S K → Ev S → Prop
  | .idle, .get settings _ =>
    ∀ k c m, q = .closing k c m → s.cache (f.cacheKey settings) ≠ some c
  | .closing k c _, .ok => s.cache k = some c
  | .closing k c m, .raise _ => s.cache k ≠ some c ∧ (m = .shutdown → f.quietShutdown = true)
  | _, _ => True

/-- The cache is as a `close()` should leave it. -/
structure CacheSound (l : Loop (Shared K A) (Task S K)) : Prop where
  /-- `shutdown()` does not raise. -/
  quiet : ∀ i k c x, l.task i = .ended k c .shutdown x → x = none
  /-- A `get_*` call does not return a client whose close had begun when the call started. -/
  unclosed : ∀ i settings c seen, l.task i = .returned settings c seen → seen c = false
  /-- After `close()` has ended, what is cached is open. -/
  opened : ∀ i k c m x, l.task i = .ended k (some c) m x →
    ∀ k' d, l.shared.cache k' = some d → l.shared.closed d = false

/-- When `close()` ends, another client that is cached under its key by then stays cached. -/
def Stays (l l' : Loop (Shared K A) (Task S K)) : Prop :=
  ∀ k c m x d, l.task 0 = .closing k c m → l'.task 0 = .ended k (some c) m x → d ≠ c →
    l.shared.cache k = some d → l'.shared.cache k = some d

/-! ### One close -/

theorem eq_zero_of_isClose (h : Reach (resume f) OneClose fresh l) :
    ∀ i, (l.task i).isClose → i = 0 := by
  refine h.tasks (A := fun i _ p => Task.isClose p → i = 0) (fun _ => False.elim) ?_ ?_
  · intro l i e s p hr hA hok hp hcl
    rcases (step_of_resume hp).isClose hcl with hcl | ⟨settings, m, he⟩
    · exact hA i hcl
    · exact hok.1 settings m he
  · intro l i j e s p hr hA hok hp hij
    exact hA j

theorem Step.closed_of_closes (hs : Step f s p e r)
    (hp : ∀ k c, p.closes k c → s.closed c = true) {k : K} {c : ℕ} (h : r.2.closes k c) :
    r.1.closed c = true := by
  cases hs with
  | closeKept | closePopped =>
    obtain ⟨rfl, rfl⟩ := h
    simp
  | closedPop | closed | notClosed =>
    obtain ⟨rfl, h⟩ := h
    obtain rfl := Option.some.inj h
    exact hp _ _ ⟨rfl, rfl⟩
  | closeNone => exact absurd h.2 nofun
  | _ => exact h.elim

/-- What a `close()` call has read is marked as closed. -/
theorem closed_of_reach (h : Reach (resume f) ok fresh l) :
    ∀ i k c, (l.task i).closes k c → l.shared.closed c = true := by
  refine h.tasks (A := fun _ s p => ∀ k c, Task.closes p k c → s.closed c = true)
    (fun _ _ _ => False.elim) ?_ ?_
  · intro l i e s p hr hA hok hp k c hcl
    exact (step_of_resume hp).closed_of_closes (hA i) hcl
  · intro l i j e s p hr hA hok hp hij k c hcl
    exact (step_of_resume hp).closed_mono (hA j k c hcl)

/-- Only `close()` removes a key from the cache. -/
theorem Step.cache_ne_none (hs : Step f s p e r) (hp : ¬ p.isClose)
    (he : ∀ settings m, e ≠ .close settings m) {k : K} (hk : s.cache k ≠ none) :
    r.1.cache k ≠ none := by
  cases hs with
  | created | probed =>
    simp only [Factory.keep, Shared.store_cache]
    split_ifs
    · exact Option.some_ne_none _
    · exact hk
  | closeKept | closePopped => exact absurd rfl (he _ _)
  | closedPop => exact absurd trivial hp
  | _ => exact hk

/-- While the one `close()` call awaits, something is cached under its key. -/
theorem cache_ne_none_of_reach (hf : f.closing = .popAfter)
    (h : Reach (resume f) OneClose fresh l) :
    ∀ i k c m, l.task i = .closing k c m → l.shared.cache k ≠ none := by
  refine h.tasks (A := fun _ s p => ∀ k c m, p = .closing k c m → s.cache k ≠ none)
    (fun _ => nofun) ?_ ?_
  · rintro l i e s _ hr hA hok hp k c m rfl
    have hs := step_of_resume hp
    generalize l.task i = q at hs
    cases hs with
    | closeKept _ hk => simp [hk]
    | closePopped hpop => simp [hpop] at hf
  · intro l i j e s p hr hA hok hp hij k c m hj
    have hj0 : j = 0 := eq_zero_of_isClose hr j (by rw [hj]; trivial)
    -- task `i` is not the one that closes
    have hi0 : i ≠ 0 := fun hi => hij (hj0.trans hi.symm)
    refine (step_of_resume hp).cache_ne_none (fun hcl => hi0 (eq_zero_of_isClose hr i hcl))
      (fun settings m he => hi0 (hok.1 settings m he)) (hA j k c m hj)

/-! ### A careful step -/

/-- What is cached and closed has been read by the one `close()` call. -/
theorem closes_zero (h : Reach (resume f) OneClose fresh l) {k : K} {c : ℕ}
    (hk : l.shared.cache k = some c) (hc : l.shared.closed c = true) :
    (l.task 0).closes k c := by
  obtain ⟨j, hj⟩ := closes_of_reach h hk hc
  obtain rfl : j = 0 := by
    refine eq_zero_of_isClose h j ?_
    revert hj
    cases l.task j with
    | closing | ended => exact fun _ => trivial
    | _ => exact False.elim
  exact hj

/-- A `get_*` call that finds a client whose close has begun starts during that close. -/
theorem Careful.hit_open (h : Reach (resume f) OneClose fresh l) (hsound : CacheSound l)
    {settings : S} {init : Option PyExc} {c : ℕ}
    (hcare : Careful f l.shared (l.task 0) .idle (.get settings init))
    (hc : l.shared.cache (f.cacheKey settings) = some c) : l.shared.closed c = false := by
  by_contra hcl
  have hcl : l.shared.closed c = true := Bool.not_eq_false _ ▸ hcl
  have hzero := closes_zero h hc hcl
  cases h0 : l.task 0 with
  | closing k d m =>
    rw [h0] at hzero
    obtain ⟨rfl, rfl⟩ := hzero
    exact hcare _ _ _ h0 hc
  | ended k d m x =>
    rw [h0] at hzero
    obtain ⟨rfl, rfl⟩ := hzero
    rw [hsound.opened 0 _ c m x h0 _ c hc] at hcl
    exact Bool.false_ne_true hcl
  | _ =>
    rw [h0] at hzero
    exact hzero

/-- What a `get_*` call comes to return was not closed when the call started. -/
theorem Step.unclosed (hs : Step f s p e r) (hp : Sound s p)
    (hhit : ∀ settings init c, p = .idle → e = .get settings init →
      s.cache (f.cacheKey settings) = some c → s.closed c = false) {settings : S} {c : ℕ}
    {seen : ℕ → Bool} (hr : r.2 = .returned settings c seen) : seen c = false := by
  cases hs with
  | hit hc =>
    cases hr
    exact hhit _ _ _ rfl rfl hc
  | created =>
    cases hr
    by_contra h
    exact Nat.lt_irrefl _ (hp _ (Bool.not_eq_false _ ▸ h))
  | probed =>
    cases hr
    exact hp.2
  | _ => cases hr

/-- A `shutdown()` that ends in a careful step does not raise. -/
theorem Step.quiet {q : Task S K} (hs : Step f s p e r) (hcare : Careful f s q p e)
    (hexc : ∀ k c m x, p = .closing k c m → e = .raise x → x.isa .exception = true) {k : K}
    {c : Option ℕ} {x : Option Raised} (hr : r.2 = .ended k c .shutdown x) : x = none := by
  cases hs with
  | closeNone | closedPop | closed =>
    cases hr
    rfl
  | notClosed =>
    cases hr
    simp [Factory.closeRaises, hcare.2 rfl, hexc _ _ _ _ rfl rfl]
  | _ => cases hr

/-- A close that ends in a careful step leaves the client out of the cache. -/
theorem Step.uncached {q : Task S K} (hf : f.closing = .popAfter) (hs : Step f s p e r)
    (hcare : Careful f s q p e) {k : K} {c : ℕ} {m : Method} {x : Option Raised}
    (hr : r.2 = .ended k (some c) m x) : r.1.cache k ≠ some c := by
  cases hs with
  | closedPop =>
    cases hr
    simp
  | closed hne => exact absurd hf hne
  | notClosed =>
    cases hr
    exact hcare.1
  | _ => cases hr

/-- **A careful step** leaves the cache sound. -/
theorem CacheSound.step (hf : f.closing = .popAfter) (h : Reach (resume f) OneClose fresh l)
    (hsound : CacheSound l) (hok : OneClose l i e) (hs : Step f l.shared (l.task i) e r)
    (hreach : Reach (resume f) OneClose fresh ⟨r.1, Function.update l.task i r.2⟩)
    (hcare : Careful f l.shared (l.task 0) (l.task i) e) :
    CacheSound ⟨r.1, Function.update l.task i r.2⟩ where
  quiet j k c x hj := by
    dsimp only at hj
    by_cases hji : j = i
    · subst hji
      rw [Function.update_self] at hj
      exact hs.quiet hcare hok.2 hj
    · rw [Function.update_of_ne hji] at hj
      exact hsound.quiet j k c x hj
  unclosed j settings c seen hj := by
    dsimp only at hj
    by_cases hji : j = i
    · subst hji
      rw [Function.update_self] at hj
      refine hs.unclosed ((books_of_reach h).sound j) (fun settings init c hp he hc => ?_) hj
      rw [hp, he] at hcare
      exact hcare.hit_open h hsound hc
    · rw [Function.update_of_ne hji] at hj
      exact hsound.unclosed j settings c seen hj
  opened j k c m x hj k' d hk' := by
    by_contra hcl
    have hcl : r.1.closed d = true := Bool.not_eq_false _ ▸ hcl
    -- what is cached and closed is the client that the one `close()` call has closed
    obtain rfl : j = 0 := eq_zero_of_isClose hreach j (by rw [hj]; trivial)
    have hzero := closes_zero hreach hk' hcl
    rw [hj] at hzero
    obtain ⟨rfl, hd⟩ := hzero
    obtain rfl := Option.some.inj hd
    dsimp only at hj hk'
    by_cases hi : i = 0
    · subst hi
      rw [Function.update_self] at hj
      exact hs.uncached hf hcare hj hk'
    · rw [Function.update_of_ne (Ne.symm hi)] at hj
      have hb := books_of_reach h
      rcases hs.closing hb.key hb.closed (hb.sound i) hk' hcl with ⟨hk, hc⟩ | hnew
      · rw [hsound.opened 0 _ _ m x hj _ _ hk] at hc
        exact Bool.false_ne_true hc
      · exact hi (eq_zero_of_isClose hreach i (by simpa using hnew.isClose))

/-- **A careful step** leaves another client where it is. -/
theorem stays_of_careful (hs : Step f l.shared (l.task i) e r)
    (hcare : Careful f l.shared (l.task 0) (l.task i) e) :
    Stays l ⟨r.1, Function.update l.task i r.2⟩ := by
  intro k c m x d h0 h0' hne hk
  dsimp only at h0' ⊢
  by_cases hi : i = 0
  · subst hi
    rw [Function.update_self] at h0'
    rw [h0] at hs hcare
    cases hs with
    | closedPop =>
      have hkc : l.shared.cache k = some c := hcare
      rw [hk] at hkc
      exact absurd (Option.some.inj hkc) hne
    | closed | notClosed => exact hk
  · rw [Function.update_of_ne (Ne.symm hi), h0] at h0'
    cases h0'

/-! ### A step that is not careful -/

/-- **The converse**: a step after which the cache is sound was careful. -/
theorem careful_of_cacheSound (hf : f.closing = .popAfter) (h : Reach (resume f) OneClose fresh l)
    (hs : Step f l.shared (l.task i) e r)
    (hsound : CacheSound ⟨r.1, Function.update l.task i r.2⟩)
    (hstays : Stays l ⟨r.1, Function.update l.task i r.2⟩) :
    Careful f l.shared (l.task 0) (l.task i) e := by
  have hisClose : (l.task i).isClose → i = 0 := eq_zero_of_isClose h i
  have hne : ∀ k c m, l.task i = .closing k c m → l.shared.cache k ≠ none :=
    cache_ne_none_of_reach hf h i
  have hquiet := hsound.quiet i
  have hunclosed := hsound.unclosed i
  have hopened := hsound.opened i
  dsimp only at hquiet hunclosed hopened
  rw [Function.update_self] at hquiet hunclosed hopened
  generalize hti : l.task i = p at hs hisClose hne
  cases hs with
  | @hit settings init c hc =>
    intro k d m h0 hd
    rw [hc] at hd
    obtain rfl := Option.some.inj hd
    -- the call would return the client that is being closed
    have hcl : l.shared.closed c = true := closed_of_reach h 0 k c (by rw [h0]; exact ⟨rfl, rfl⟩)
    rw [hunclosed _ c _ rfl] at hcl
    exact Bool.false_ne_true hcl
  | refused hc | start hc | construct hc => exact fun k c m _ hk => by simp [hc] at hk
  | @closedPop k c m =>
    show l.shared.cache k = some c
    obtain rfl := hisClose trivial
    obtain ⟨d, hd⟩ := Option.ne_none_iff_exists'.mp (hne k c m rfl)
    by_contra hkc
    have hdc : d ≠ c := by
      rintro rfl
      exact hkc hd
    have := hstays k c m none d hti (by simp) hdc hd
    simp at this
  | closed hpop => exact absurd hf hpop
  | @notClosed k c m x =>
    refine ⟨fun hk => ?_, fun hm => ?_⟩
    · have hcl : l.shared.closed c = true :=
        closed_of_reach h i k c (by rw [hti]; exact ⟨rfl, rfl⟩)
      rw [hopened k c m _ rfl k c hk] at hcl
      exact Bool.false_ne_true hcl
    · subst hm
      have := hquiet k (some c) _ rfl
      by_contra hq
      simp [Factory.closeRaises, hq] at this
  | _ => trivial

/-! ### Runs -/

/-- The steps of a run with one close in which all are careful. -/
def CarefulClose (f : Factory S K A) : Guard (Shared K A) (Task S K) (Ev S) := fun l i e =>
  OneClose l i e ∧ Careful f l.shared (l.task 0) (l.task i) e

/-- **Closing a cached client**: in every run of one `close()` or `shutdown()` and any number of
`get_*` calls, in any order, whose steps are careful, `shutdown()` does not raise, no `get_*` call
returns a client whose close had begun before, only open clients are cached once `close()` has
ended, and a client that was stored meanwhile stays cached. A step that is not careful breaks
this. -/
theorem cacheSound_of_careful (hf : f.closing = .popAfter)
    (h : Reach (resume f) (CarefulClose f) fresh l) :
    CacheSound l ∧ ∀ {i e l'}, OneClose l i e → l.step (resume f) i e = some l' →
      (CacheSound l' ∧ Stays l l' ↔ Careful f l.shared (l.task 0) (l.task i) e) := by
  have hmono {l : Loop (Shared K A) (Task S K)} :
      Reach (resume f) (CarefulClose f) fresh l → Reach (resume f) OneClose fresh l :=
    Reach.mono fun _ _ _ => And.left
  have hsound : CacheSound l := by
    refine h.invariant (I := CacheSound) ⟨nofun, nofun, nofun⟩ ?_
    intro l i e s p hr hsound hok hp
    have hs := step_of_resume hp
    exact hsound.step hf (hmono hr) hok.1 hs
      ((hmono hr).tail hok.1 (Loop.step_eq_some_iff.mpr ⟨s, p, hp, rfl⟩)) hok.2
  refine ⟨hsound, fun {i e l'} hok hstep => ?_⟩
  obtain ⟨s, p, hp, rfl⟩ := Loop.step_eq_some_iff.mp hstep
  have hs := step_of_resume hp
  exact ⟨fun hn => careful_of_cacheSound hf (hmono h) hs hn.1 hn.2, fun hcare =>
    ⟨hsound.step hf (hmono h) hok hs ((hmono h).tail hok hstep) hcare,
      stays_of_careful hs hcare⟩⟩

/-- A client is made, `shutdown()` closes it, and a `get_*` call makes another one. -/
def closeThenGet : List (ℕ × Ev QdrantSettings) :=
  [(1, .get qdrantLocal none), (1, .ok), (0, .close qdrantLocal .shutdown), (0, .ok),
    (2, .get qdrantLocal none), (2, .ok)]

/-- A call after `shutdown()` returns a new client, which is open. -/
theorem cacheSound_closeThenGet :
    ∃ l, fresh.run (resume getQdrantClient) closeThenGet = some l ∧
      (∃ seen, l.task 2 = .returned qdrantLocal 1 seen) ∧ l.shared.closed 0 = true ∧
        CacheSound l := by
  have hadm : Admitted (resume getQdrantClient) (CarefulClose getQdrantClient) fresh
      closeThenGet := by
    refine admitted_cons ⟨⟨nofun, nofun⟩, nofun⟩ rfl ?_
    refine admitted_cons ⟨⟨nofun, nofun⟩, trivial⟩ rfl ?_
    refine admitted_cons ⟨⟨fun _ _ _ => rfl, nofun⟩, trivial⟩ rfl ?_
    refine admitted_cons ⟨⟨nofun, nofun⟩, rfl⟩ rfl ?_
    refine admitted_cons ⟨⟨nofun, nofun⟩, nofun⟩ rfl ?_
    exact admitted_cons ⟨⟨nofun, nofun⟩, trivial⟩ rfl trivial
  exact ⟨_, rfl, ⟨_, rfl⟩, rfl, (cacheSound_of_careful rfl (reach_of_run hadm rfl)).1⟩

/-- The pool's own close raises. -/
def closeRaises : List (ℕ × Ev (PostgresSettings ℕ)) :=
  [(1, .get postgresLocal none), (1, .ok), (0, .close postgresLocal .shutdown),
    (0, .raise runtimeError)]

/-- A `get_*` call starts while the client is being closed. -/
def getWhileClosing : List (ℕ × Ev QdrantSettings) :=
  [(1, .get qdrantLocal none), (1, .ok), (0, .close qdrantLocal .close),
    (2, .get qdrantLocal none)]

/-- A second pool is stored while the first one is being closed. -/
def storeWhileClosing : List (ℕ × Ev (MySQLSettings ℕ)) :=
  [(1, .get mysqlLocal none), (2, .get mysqlLocal none), (1, .ok), (0, .close mysqlLocal .close),
    (2, .ok)]

/-- `shutdown()` of the Postgres repository raises what the pool's close does; a `get_*` call
returns the Qdrant client that is being closed; and MySQL's `close()` pops a pool that was stored
while it awaited. -/
theorem not_cacheSound :
    (¬ ∀ l, Reach (resume (getPostgresPool ℕ)) OneClose fresh l → CacheSound l) ∧
    (¬ ∀ l, Reach (resume getQdrantClient) OneClose fresh l → CacheSound l) ∧
    ¬ ∀ l, Reach (resume (getMysqlPool ℕ)) OneClose fresh l → ∀ i e l', OneClose l i e →
      l.step (resume (getMysqlPool ℕ)) i e = some l' → Stays l l' := by
  have hexc : runtimeError.isa .exception = true := by decide
  refine ⟨fun h => ?_, fun h => ?_, fun h => ?_⟩
  · have hadm : Admitted (resume (getPostgresPool ℕ)) OneClose fresh closeRaises :=
      admitted_of_forall (by simp [closeRaises, OneClose, hexc])
    obtain ⟨l, hl, k, c, x, h0⟩ : ∃ l,
        fresh.run (resume (getPostgresPool ℕ)) closeRaises = some l ∧
        ∃ k c x, l.task 0 = .ended k c .shutdown (some x) :=
      ⟨_, rfl, _, _, _, rfl⟩
    cases (h l (reach_of_run hadm hl)).quiet 0 k c _ h0
  · have hadm : Admitted (resume getQdrantClient) OneClose fresh getWhileClosing :=
      admitted_of_forall (by simp [getWhileClosing, OneClose])
    obtain ⟨l, hl, c, seen, h2, hseen⟩ : ∃ l,
        fresh.run (resume getQdrantClient) getWhileClosing = some l ∧
        ∃ c seen, l.task 2 = .returned qdrantLocal c seen ∧ seen c = true :=
      ⟨_, rfl, _, _, rfl, rfl⟩
    rw [(h l (reach_of_run hadm hl)).unclosed 2 _ c seen h2] at hseen
    exact Bool.false_ne_true hseen
  · have hadm : Admitted (resume (getMysqlPool ℕ)) OneClose fresh storeWhileClosing :=
      admitted_of_forall (by simp [storeWhileClosing, OneClose])
    obtain ⟨l, l', hl, hs, h0, h0', hk, hk'⟩ : ∃ l l',
        fresh.run (resume (getMysqlPool ℕ)) storeWhileClosing = some l ∧
        l.step (resume (getMysqlPool ℕ)) 0 .ok = some l' ∧
        l.task 0 = .closing ((getMysqlPool ℕ).cacheKey mysqlLocal) 0 .close ∧
        l'.task 0 = .ended ((getMysqlPool ℕ).cacheKey mysqlLocal) (some 0) .close none ∧
        l.shared.cache ((getMysqlPool ℕ).cacheKey mysqlLocal) = some 1 ∧
        l'.shared.cache ((getMysqlPool ℕ).cacheKey mysqlLocal) = none :=
      ⟨_, _, rfl, rfl, rfl, rfl, rfl, rfl⟩
    have hstay := h l (reach_of_run hadm hl) 0 .ok l' ⟨nofun, nofun⟩ hs _ 0 .close none 1 h0 h0'
      (by decide) hk
    rw [hk'] at hstay
    cases hstay

end OpenframeAdapters.Db
