import OpenframeAdapters.Db.Books
import OpenframeAdapters.Db.Factories

/-!
# One client for each key

A factory looks into the cache, awaits the driver, and then stores what it has made,
without looking into the cache again. Two calls that both miss make two clients, and
the second one to finish replaces the first one's, which is still in use. Other
clients are lost on the way: one whose first command fails is dropped without a close,
by every factory but InfluxDB's, and a session that Cassandra's executor makes after
`wait_for` has given up is never seen by anybody.

## What is proved

* `oneClient_of_spares` — while nobody closes, all calls with one key return one client,
  and every client made is cached, closed, or held by a call that has not ended, in every
  run whose steps lose no client (`Spares`); and a step that loses one breaks it.
* `not_oneClient` — the three ways to lose a client.
-/

namespace OpenframeAdapters.Db

open Python OpenframeAdapters.Core

variable {S K A : Type} [DecidableEq K] {f : Factory S K A} {i : ℕ} {s : Shared K A}
  {p : Task S K} {e : Ev S} {r : Shared K A × Task S K} {l l' : Loop (Shared K A) (Task S K)}

/-- Nobody calls `close()` or `shutdown()`. -/
def NoClose : Guard (Shared K A) (Task S K) (Ev S) :=
  fun _ _ e => ∀ settings m, e ≠ .close settings m

/-- The step of a call that is suspended at the given place loses no client: a call does not
succeed while another client is cached under its key, a client is closed where its first command
fails, and a job that has been given up on makes none. -/
def Spares (f : Factory S K A) (s : Shared K A) : Task S K → Ev S → Prop
  | .creating settings _, .ok | .probing settings _ _, .ok => s.cache (f.cacheKey settings) = none
  | .probing .., .raise x => f.discards x = true
  | .abandoned .., .ok => False
  | _, _ => True

/-- All calls with one key have returned one client, and no client is lost. -/
structure OneClient (f : Factory S K A) (l : Loop (Shared K A) (Task S K)) : Prop where
  /-- Calls whose settings have the same key return the same client. -/
  same : ∀ i j settings settings' c d seen seen',
    l.task i = .returned settings c seen → l.task j = .returned settings' d seen' →
      f.cacheKey settings = f.cacheKey settings' → c = d
  /-- A client that has been made is cached, or closed, or held by a call that has not ended. -/
  kept : ∀ c, c < l.shared.made →
    (∃ k, l.shared.cache k = some c) ∨ l.shared.closed c = true ∨ ∃ i, (l.task i).holds c

/-! ### Runs without a close -/

variable {ok : Guard (Shared K A) (Task S K) (Ev S)}

theorem not_isClose_of_reach (hno : ∀ l i e, ok l i e → NoClose l i e)
    (h : Reach (resume f) ok fresh l) : ∀ i, ¬ (l.task i).isClose := by
  refine h.tasks (A := fun _ _ p => ¬ Task.isClose p) (fun _ => not_false) ?_ ?_
  · intro l i e s p hr hA hok hp hcl
    rcases (step_of_resume hp).isClose hcl with hcl | ⟨settings, m, he⟩
    · exact hA i hcl
    · exact hno _ _ _ hok settings m he
  · intro l i j e s p hr hA hok hp hij
    exact hA j

/-- While nobody closes, what is cached is open. -/
theorem closed_eq_false_of_reach (hno : ∀ l i e, ok l i e → NoClose l i e)
    (h : Reach (resume f) ok fresh l) {k : K} {c : ℕ} (hk : l.shared.cache k = some c) :
    l.shared.closed c = false := by
  by_contra hc
  obtain ⟨i, hi⟩ := closes_of_reach h hk (Bool.not_eq_false _ ▸ hc)
  have hno := not_isClose_of_reach hno h i
  revert hi hno
  cases l.task i with
  | closing | ended => exact fun _ h => h trivial
  | _ => exact fun h _ => h

/-! ### A step that loses no client -/

/-- What was cached stays cached. -/
theorem Step.cache_of_spares (hs : Step f s p e r) (hp : ¬ p.isClose)
    (he : ∀ settings m, e ≠ .close settings m) (hsp : Spares f s p e) {k : K} {c : ℕ}
    (hk : s.cache k = some c) : r.1.cache k = some c := by
  cases hs with
  | @created settings | @probed settings =>
    -- the call stores its client under a key that nothing is cached under
    have hne : k ≠ f.cacheKey settings := by
      rintro rfl
      exact Option.some_ne_none c (hk.symm.trans hsp)
    exact (Function.update_of_ne hne ..).trans hk
  | closeKept | closePopped => exact absurd rfl (he _ _)
  | closedPop => exact absurd trivial hp
  | _ => exact hk

/-- What is returned is cached. -/
theorem Step.returned (hs : Step f s p e r) {settings : S} {c : ℕ} {seen : ℕ → Bool}
    (hr : r.2 = .returned settings c seen) : r.1.cache (f.cacheKey settings) = some c := by
  cases hs with
  | hit hc =>
    cases hr
    exact hc
  | created | probed =>
    cases hr
    exact Function.update_self ..
  | _ => cases hr

/-- What the call holds is cached, closed or still held after the step. -/
theorem Step.kept_of_holds (hs : Step f s p e r) (hsp : Spares f s p e) {c : ℕ} (hc : p.holds c) :
    (∃ k, r.1.cache k = some c) ∨ r.1.closed c = true := by
  cases hs with
  | @probed settings d seen =>
    obtain rfl : d = c := hc
    exact .inl ⟨f.cacheKey settings, by simp [Factory.keep]⟩
  | @discard settings d seen x hx =>
    obtain rfl : d = c := hc
    exact .inr (by simp)
  | lose hx => exact absurd hsp (by simp [Spares, hx])
  | _ => exact hc.elim

/-- What the call makes is cached or held after the step. -/
theorem Step.kept_of_made (hs : Step f s p e r) (hsp : Spares f s p e) {c : ℕ} (hc : c < r.1.made)
    (hold : ¬ c < s.made) : (∃ k, r.1.cache k = some c) ∨ r.2.holds c := by
  cases hs with
  | construct =>
    obtain rfl : s.made = c := by rw [Shared.make_made] at hc; omega
    exact .inr rfl
  | @created settings seen =>
    obtain rfl : s.made = c := by
      simp only [Factory.keep, Shared.store_made, Shared.make_made] at hc
      omega
    exact .inl ⟨f.cacheKey settings, by simp [Factory.keep]⟩
  | late => exact hsp.elim
  | _ => exact absurd hc hold

/-- **A step that loses no client** keeps the property. -/
theorem OneClient.step (h : OneClient f l)
    (hcur : ∀ i settings c seen, l.task i = .returned settings c seen →
      l.shared.cache (f.cacheKey settings) = some c)
    (hs : Step f l.shared (l.task i) e r) (hp : ¬ (l.task i).isClose)
    (he : ∀ settings m, e ≠ .close settings m) (hsp : Spares f l.shared (l.task i) e) :
    (∀ j settings c seen, Function.update l.task i r.2 j = .returned settings c seen →
      r.1.cache (f.cacheKey settings) = some c) ∧
    OneClient f ⟨r.1, Function.update l.task i r.2⟩ := by
  have hcur' : ∀ j settings c seen, Function.update l.task i r.2 j = .returned settings c seen →
      r.1.cache (f.cacheKey settings) = some c := by
    intro j settings c seen hj
    by_cases hji : j = i
    · subst hji
      rw [Function.update_self] at hj
      exact hs.returned hj
    · rw [Function.update_of_ne hji] at hj
      exact hs.cache_of_spares hp he hsp (hcur j settings c seen hj)
  refine ⟨hcur', fun j k settings settings' c d seen seen' hj hk hkey => ?_, fun c hc => ?_⟩
  · -- both are what is cached under the key
    have hc := hcur' j settings c seen hj
    have hd := hcur' k settings' d seen' hk
    rw [hkey, hd] at hc
    exact (Option.some.inj hc).symm
  · by_cases hold : c < l.shared.made
    · rcases h.kept c hold with ⟨k, hk⟩ | hcl | ⟨j, hj⟩
      · exact .inl ⟨k, hs.cache_of_spares hp he hsp hk⟩
      · exact .inr (.inl (hs.closed_mono hcl))
      · by_cases hji : j = i
        · subst hji
          exact (hs.kept_of_holds hsp hj).imp_right .inl
        · exact .inr (.inr ⟨j, by simpa [Function.update_of_ne hji] using hj⟩)
    · rcases hs.kept_of_made hsp hc hold with hk | hh
      · exact .inl hk
      · exact .inr (.inr ⟨i, by simpa using hh⟩)

/-! ### A step that loses a client -/

/-- The client is neither cached nor closed nor held. -/
def Lost (l : Loop (Shared K A) (Task S K)) (c : ℕ) : Prop :=
  c < l.shared.made ∧ (∀ k, l.shared.cache k ≠ some c) ∧ l.shared.closed c = false ∧
    ∀ i, ¬ (l.task i).holds c

omit [DecidableEq K] in
theorem Lost.not_oneClient {c : ℕ} (h : Lost l c) : ¬ OneClient f l := by
  obtain ⟨hm, hk, hc, hh⟩ := h
  intro hone
  rcases hone.kept c hm with ⟨k, hk'⟩ | hc' | ⟨i, hi⟩
  · exact hk k hk'
  · rw [hc] at hc'
    exact Bool.false_ne_true hc'
  · exact hh i hi

omit [DecidableEq K] in
theorem Books.not_holds (hb : Books l) {k : K} {c j : ℕ} (hk : l.shared.cache k = some c) :
    ¬ (l.task j).holds c :=
  fun hh => ((hb.sound j).private hh).cache k hk

/-- Storing a client over another one loses that one. -/
theorem Books.lost_of_store (hb : Books l)
    (hopen : ∀ k c, l.shared.cache k = some c → l.shared.closed c = false) {k : K} {c d : ℕ}
    (hd : l.shared.cache k = some d) (hcd : c ≠ d) (hs : s.made = l.shared.made ∨
      s.made = l.shared.made + 1) (hcache : s.cache = l.shared.cache)
    (hclosed : s.closed = l.shared.closed) {settings : S} {seen : ℕ → Bool} :
    Lost ⟨s.store k c, Function.update l.task i (.returned settings c seen)⟩ d := by
  have hmade := hb.cached k d hd
  refine ⟨by simp only [Shared.store_made]; omega, fun k' hk' => ?_, ?_, fun j hj => ?_⟩
  · rw [Shared.store_cache, hcache] at hk'
    split_ifs at hk' with hkk
    · exact hcd (Option.some.inj hk')
    · exact hkk (hb.key k' k d hk' hd)
  · rw [Shared.store_closed, hclosed]
    exact hopen k d hd
  · dsimp only at hj
    by_cases hji : j = i
    · subst hji
      rw [Function.update_self] at hj
      exact hj
    · rw [Function.update_of_ne hji] at hj
      exact hb.not_holds hd hj

/-- **A step that does not spare** loses a client. -/
theorem Step.lost (hs : Step f l.shared (l.task i) e r) (hb : Books l)
    (hopen : ∀ k c, l.shared.cache k = some c → l.shared.closed c = false)
    (hsp : ¬ Spares f l.shared (l.task i) e) :
    ∃ c, Lost ⟨r.1, Function.update l.task i r.2⟩ c := by
  have hown := hb.sound i
  have hsole (c : ℕ) : ∀ j, j ≠ i → (l.task i).holds c → ¬ (l.task j).holds c :=
    fun j hji hi hj => hji (hb.sole j i c hj hi)
  generalize l.task i = p at hs hsp hown hsole
  cases hs with
  | @created settings seen =>
    obtain ⟨d, hd⟩ := Option.ne_none_iff_exists'.mp hsp
    exact ⟨d, hb.lost_of_store (s := l.shared.make (f.arguments settings)) hopen hd
      (Nat.ne_of_gt (hb.cached _ _ hd)) (.inr rfl) rfl rfl⟩
  | @probed settings c seen =>
    obtain ⟨d, hd⟩ := Option.ne_none_iff_exists'.mp hsp
    have hcd : c ≠ d := by
      rintro rfl
      exact hown.1.cache _ hd
    exact ⟨d, hb.lost_of_store hopen hd hcd (.inl rfl) rfl rfl⟩
  | @lose settings c seen x hx =>
    -- the client whose first command failed: no other call holds it
    refine ⟨c, hown.1.made, hown.1.cache, hown.1.closed, fun j hj => ?_⟩
    dsimp only at hj
    by_cases hji : j = i
    · subst hji
      rw [Function.update_self] at hj
      exact hj
    · rw [Function.update_of_ne hji] at hj
      exact hsole c j hji rfl hj
  | late =>
    -- the client that the job makes now
    refine ⟨l.shared.made, Nat.lt_succ_self _, fun k hk => ?_, ?_, fun j hj => ?_⟩
    · exact Nat.lt_irrefl _ (hb.cached k _ hk)
    · by_contra hc
      exact Nat.lt_irrefl _ (hb.closed _ (Bool.not_eq_false _ ▸ hc))
    · dsimp only at hj
      by_cases hji : j = i
      · subst hji
        rw [Function.update_self] at hj
        exact hj
      · rw [Function.update_of_ne hji] at hj
        exact Nat.lt_irrefl _ ((hb.sound j).private hj).made
  | discard hx => exact absurd hx hsp
  | _ => exact absurd trivial hsp

/-! ### Runs -/

/-- A step of a run without a close, after which the property holds, loses no client. -/
theorem spares_of_oneClient (hno : ∀ l i e, ok l i e → NoClose l i e)
    (h : Reach (resume f) ok fresh l) (hs : l.step (resume f) i e = some l')
    (hone : OneClient f l') : Spares f l.shared (l.task i) e := by
  obtain ⟨s, p, hp, rfl⟩ := Loop.step_eq_some_iff.mp hs
  by_contra hsp
  obtain ⟨c, hlost⟩ := (step_of_resume hp).lost (books_of_reach h)
    (fun k c => closed_eq_false_of_reach hno h) hsp
  exact hlost.not_oneClient hone

/-- The steps of a run that loses no client. -/
def NoneLost (f : Factory S K A) : Guard (Shared K A) (Task S K) (Ev S) := fun l i e =>
  NoClose l i e ∧ Spares f l.shared (l.task i) e

/-- **One client for each key**: in every run without a close, with any number of calls in any
order, in which a call succeeds only while no client is cached under its key, a client whose
first command fails is closed, and no job makes a client after it has been given up on, all
calls with one key return one client, and every client made is cached, closed, or held by a
call that has not ended. A step that does not meet the condition breaks the property. -/
theorem oneClient_of_spares (h : Reach (resume f) (NoneLost f) fresh l) :
    OneClient f l ∧ ∀ {i e l'}, NoClose l i e → l.step (resume f) i e = some l' →
      (OneClient f l' ↔ Spares f l.shared (l.task i) e) := by
  have hno : ∀ l i e, NoneLost f l i e → NoClose l i e := fun _ _ _ => And.left
  have hinv : (∀ i settings c seen, l.task i = .returned settings c seen →
      l.shared.cache (f.cacheKey settings) = some c) ∧ OneClient f l := by
    refine h.invariant (I := fun l => (∀ i settings c seen, l.task i = .returned settings c seen →
      l.shared.cache (f.cacheKey settings) = some c) ∧ OneClient f l)
      ⟨nofun, ⟨nofun, nofun⟩⟩ ?_
    rintro l i e s p hr ⟨hcur, hone⟩ ⟨hc, hsp⟩ hp
    exact hone.step hcur (step_of_resume hp) (not_isClose_of_reach hno hr i) hc hsp
  refine ⟨hinv.2, fun {i e l'} hc hs => ⟨spares_of_oneClient hno h hs, fun hsp => ?_⟩⟩
  obtain ⟨s, p, hp, rfl⟩ := Loop.step_eq_some_iff.mp hs
  exact (hinv.2.step hinv.1 (step_of_resume hp) (not_isClose_of_reach hno h i) hc hsp).2

/-- Settings of an InfluxDB adapter. -/
def influxdbSettings : InfluxDBSettings := ⟨"http://localhost:8086", "token", "org", 10000⟩

/-- A `ping()` that times out, a second call whose `ping()` returns, and a third call. -/
def influxdbRetry : List (ℕ × Ev InfluxDBSettings) :=
  [(0, .get influxdbSettings none), (0, .raise timeoutError), (1, .get influxdbSettings none),
    (0, .ok), (1, .ok), (2, .get influxdbSettings none)]

/-- The client whose first `ping()` times out is closed, and there is one client for the two calls that
follow. -/
theorem oneClient_influxdbRetry :
    ∃ l, fresh.run (resume getInfluxdbClient) influxdbRetry = some l ∧
      l.shared.closed 0 = true ∧ (∃ seen, l.task 1 = .returned influxdbSettings 1 seen) ∧
        OneClient getInfluxdbClient l := by
  have hadm : Admitted (resume getInfluxdbClient) (NoneLost getInfluxdbClient) fresh
      influxdbRetry := by
    refine admitted_cons ⟨nofun, trivial⟩ rfl ?_
    refine admitted_cons ⟨nofun, ?_⟩ rfl ?_
    · -- the first client is closed
      show timeoutError.isAny _ = true
      decide
    refine admitted_cons ⟨nofun, trivial⟩ rfl ?_
    refine admitted_cons ⟨nofun, trivial⟩ rfl ?_
    refine admitted_cons ⟨nofun, rfl⟩ rfl ?_
    exact admitted_cons ⟨nofun, trivial⟩ rfl trivial
  exact ⟨_, rfl, rfl, ⟨_, rfl⟩, (oneClient_of_spares (reach_of_run hadm rfl)).1⟩

/-- Settings of a Redis adapter. -/
def redisSettings : RedisSettings ℕ := ⟨"redis://localhost", 10, 5, 5⟩

/-- Settings of a Cassandra adapter. -/
def cassandraSettings : CassandraSettings :=
  ⟨["localhost"], 9042, none, none, none, none, none, 2⟩

/-- Two calls that both miss, and both succeed. -/
def postgresRace : List (ℕ × Ev (PostgresSettings ℕ)) :=
  [(0, .get postgresLocal none), (1, .get postgresLocal none), (0, .ok), (1, .ok)]

/-- A `ping()` that times out. -/
def redisTimeout : List (ℕ × Ev (RedisSettings ℕ)) :=
  [(0, .get redisSettings none), (0, .raise timeoutError)]

/-- A connect that takes longer than `connection_timeout`. -/
def cassandraTimeout : List (ℕ × Ev CassandraSettings) :=
  [(0, .get cassandraSettings none), (0, .abandon timeoutError), (0, .ok)]

/-- Two concurrent calls get two pools from Postgres' factory; a client that Redis' factory has
constructed is dropped when its `ping()` times out, and so is a session that Cassandra's executor
makes after the timeout. -/
theorem not_oneClient :
    (¬ ∀ l, Reach (resume (getPostgresPool ℕ)) NoClose fresh l →
      OneClient (getPostgresPool ℕ) l) ∧
    (¬ ∀ l, Reach (resume (getRedisClient ℕ)) NoClose fresh l → OneClient (getRedisClient ℕ) l) ∧
    ¬ ∀ l, Reach (resume getCassandraSession) NoClose fresh l →
      OneClient getCassandraSession l := by
  refine ⟨fun h => ?_, fun h => ?_, fun h => ?_⟩
  · have hadm : Admitted (resume (getPostgresPool ℕ)) NoClose fresh postgresRace :=
      admitted_of_forall (by simp [postgresRace, NoClose])
    obtain ⟨l, hl, ⟨seen₀, h₀⟩, seen₁, h₁⟩ : ∃ l,
        fresh.run (resume (getPostgresPool ℕ)) postgresRace = some l ∧
        (∃ seen, l.task 0 = .returned postgresLocal 0 seen) ∧
        ∃ seen, l.task 1 = .returned postgresLocal 1 seen :=
      ⟨_, rfl, ⟨_, rfl⟩, _, rfl⟩
    exact absurd ((h l (reach_of_run hadm hl)).same 0 1 _ _ _ _ _ _ h₀ h₁ rfl) (by decide)
  · have hadm : Admitted (resume (getRedisClient ℕ)) NoClose fresh redisTimeout :=
      admitted_of_forall (by simp [redisTimeout, NoClose])
    obtain ⟨l, hl, hmade, hcache, hclosed, hheld⟩ : ∃ l,
        fresh.run (resume (getRedisClient ℕ)) redisTimeout = some l ∧ l.shared.made = 1 ∧
        (∀ k, l.shared.cache k = none) ∧ l.shared.closed 0 = false ∧
        ∀ i, ¬ (l.task i).holds 0 :=
      ⟨_, rfl, rfl, fun _ => rfl, rfl, fun | 0 | _ + 1 => not_false⟩
    have hlost : Lost l 0 := ⟨by omega, fun k => by simp [hcache k], hclosed, hheld⟩
    exact hlost.not_oneClient (h l (reach_of_run hadm hl))
  · have hadm : Admitted (resume getCassandraSession) NoClose fresh cassandraTimeout :=
      admitted_of_forall (by simp [cassandraTimeout, NoClose])
    obtain ⟨l, hl, hmade, hcache, hclosed, hheld⟩ : ∃ l,
        fresh.run (resume getCassandraSession) cassandraTimeout = some l ∧ l.shared.made = 1 ∧
        (∀ k, l.shared.cache k = none) ∧ l.shared.closed 0 = false ∧
        ∀ i, ¬ (l.task i).holds 0 :=
      ⟨_, rfl, rfl, fun _ => rfl, rfl, fun | 0 | _ + 1 => not_false⟩
    have hlost : Lost l 0 := ⟨by omega, fun k => by simp [hcache k], hclosed, hheld⟩
    exact hlost.not_oneClient (h l (reach_of_run hadm hl))

end OpenframeAdapters.Db
