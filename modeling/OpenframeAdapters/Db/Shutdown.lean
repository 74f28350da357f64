import OpenframeAdapters.Db.Plugin
import OpenframeAdapters.Db.Server
import OpenframeAdapters.Python.Session

/-!
# What a plugin leaves behind

`shutdown()` closes the client through the repository. A plugin without a repository has nobody who
closes it.

## The model

* `clients` — the driver: every client that is made is a new one, and any call may raise. In
  `closing`, the client's own close does not.
* `lifecycle` — the calls of a plugin, one after the other.
* `Released` — what has been put in the cache is closed, and is not there any more.
* `Owns` — the plugin has been given a table, or a measurement, and its repository can be constructed.

## What is proved

* `released_iff` — after a run that ends with `shutdown()`, everything is released exactly if the
  plugin owns a repository or nothing has been put in the cache.
* `not_released` — a plugin without a table leaves its pool open.
-/

namespace OpenframeAdapters.Db

open Python OpenframeAdapters.Core

/-! ### Runs -/

/-- The clients of a driver. -/
structure Clients where
  /-- How many have been made; they are numbered from `0`. -/
  made : ℕ
  /-- The client has been closed. -/
  closed : ℕ → Bool

/-- The client's own close. -/
def Clients.close (b : Clients) (c : ℕ) : Clients :=
  { b with closed := Function.update b.closed c true }

section Driver

variable {A : Type}

/-- A call that makes a client. -/
def Makes (b : Clients) (r : Except PyExc ℕ) (b' : Clients) : Prop :=
  r = .ok b.made ∧ b' = { b with made := b.made + 1 } ∨ r.isOk = false ∧ b' = b

/-- The driver of an adapter. -/
def clients : Backend (connecting A checks) PyExc Clients
  | b, .inl (.construct _), r, b' => Makes b r b'
  | b, .inl (.connect _), r, b' => Makes b r b'
  | b, .inl (.probe _), _, b' => b' = b
  | b, .inl (.close c), r, b' => b' = b.close c ∨ r.isOk = false ∧ b' = b
  | b, .inr _, _, b' => b' = b

/-- The driver, where the client's own close succeeds. -/
def closing : Backend (connecting A checks) PyExc Clients
  | b, .inl (.close c), r, b' => r.isOk = true ∧ b' = b.close c
  | b, q, r, b' => clients b q r b'

end Driver

/-- A call of a plugin. -/
inductive LifecycleCall where
  /-- `initialize(context)`. -/
  | initializePlugin
  /-- `health()`. -/
  | health
  /-- `shutdown()`. -/
  | shutdown

/-- The calls and what they return. -/
abbrev lifecycleCalls : Driver where
  Call := LifecycleCall
  Reply
    | .initializePlugin | .shutdown => Unit
    | .health => PluginStatus

/-- The clients, and the plugin. -/
abbrev Situation := Clients × PluginState

section Lifecycle

variable {S K A : Type} (p : Plugin S K A)

/-- What a call runs. -/
def Plugin.method : (q : LifecycleCall) → Plugin.Method A (lifecycleCalls.Reply q)
  | .initializePlugin => p.initializePlugin
  | .health => p.health
  | .shutdown => Plugin.shutdown

/-- A plugin with its driver. -/
def Plugin.lifecycle : Backend lifecycleCalls Raised Situation :=
  fun g q r g' => (p.method q).EndsIn clients.alone g r g'

/-- The plugin has just been constructed. The cache may have an entry already. -/
structure Constructed (g : Situation) : Prop where
  /-- It has not been initialized. -/
  status : g.2.status = .registered
  /-- It has no repository. -/
  repo : g.2.repo = false
  /-- It has not put anything in the cache. -/
  put : g.2.put = []
  /-- A client that is cached has been made. -/
  cached : ∀ c, g.2.cached = some c → c < g.1.made
  /-- A client that is closed has been made. -/
  closed : ∀ c, g.1.closed c = true → c < g.1.made

/-- What has been put in the cache is closed and gone. -/
def Released (g : Situation) : Prop := ∀ c ∈ g.2.put, g.1.closed c = true ∧ g.2.cached ≠ some c

/-- After every run that ends with a `shutdown()` whose own close succeeds, everything is released. -/
def Plugin.Releases : Prop :=
  ∀ g₀ l g₁ o g₂, Constructed g₀ → Session p.lifecycle g₀ l g₁ →
    (Plugin.shutdown : Plugin.Method A Unit).EndsIn closing.alone g₁ o g₂ → Released g₂

/-- The plugin makes a repository. -/
def Plugin.Owns : Prop := p.source ≠ "" ∧ p.refusal = none

end Lifecycle

/-! ### One call -/

section Rules

variable {S K A : Type} {p : Plugin S K A} {g g' : Situation}

/-- Nothing has happened to the plugin, and nothing to the clients there were. -/
structure Frame (g g' : Situation) : Prop where
  /-- The plugin. -/
  plugin : g'.2 = g.2
  /-- There may be more clients. -/
  made : g.1.made ≤ g'.1.made
  /-- The others are closed as they were. -/
  closed : ∀ c < g.1.made, g'.1.closed c = g.1.closed c

theorem Frame.refl (g : Situation) : Frame g g := ⟨rfl, Nat.le_refl _, fun _ _ => rfl⟩

/-- What has been put in the cache is still there, or is closed and gone. -/
structure Tracked (g : Situation) : Prop where
  /-- It has been made. -/
  made : ∀ c ∈ g.2.put, c < g.1.made
  /-- It is closed and gone, or it is there. -/
  closed : ∀ c ∈ g.2.put, g.1.closed c = true ∧ g.2.cached ≠ some c ∨ g.2.cached = some c

theorem Tracked.frame (h : Tracked g) (hf : Frame g g') : Tracked g' where
  made c hc := Nat.lt_of_lt_of_le (h.made c (hf.plugin ▸ hc)) hf.made
  closed c hc := by
    rw [hf.plugin] at hc
    rw [hf.plugin, hf.closed c (h.made c hc)]
    exact h.closed c hc

/-- A new client is put in the cache. -/
theorem Tracked.store (h : Tracked g) (hf : Frame g g') (hnone : g.2.cached = none) {c : ℕ}
    (hnew : g.1.made ≤ c) (hmade : c < g'.1.made) :
    Tracked (g'.1, { g'.2 with cached := some c, put := c :: g'.2.put }) where
  made d hd := by
    rcases List.mem_cons.mp hd with rfl | hd
    · exact hmade
    · exact (h.frame hf).made d hd
  closed d hd := by
    rcases List.mem_cons.mp hd with rfl | hd
    · exact .inr rfl
    · rw [hf.plugin] at hd
      refine .inl ⟨?_, fun heq => ?_⟩
      · have hclosed := h.closed d hd
        rw [hnone] at hclosed
        exact (hf.closed d (h.made d hd)).trans (hclosed.resolve_right nofun).1
      · obtain rfl := Option.some.inj heq
        exact absurd (h.made _ hd) (Nat.not_lt.mpr hnew)

/-- A call that concerns a client. -/
theorem wpIn_connectCall {B : Backend (connecting A checks) PyExc Clients} {q : ConnectCall A}
    {Q : q.Reply → Situation → Prop} {E : Raised → Situation → Prop}
    (hok : ∀ a b', B g.1 (.inl q) (.ok a) b' → Q a (b', g.2))
    (herror : ∀ x b', B g.1 (.inl q) (.error x) b' → E (.raw x) (b', g.2)) :
    (call (D := connecting A checks) (σ := PluginState) (.inl q)).wpIn B.alone Q E g := by
  refine Coro.wpIn_call.mpr ⟨fun a g' ⟨ha, hσ⟩ => ?_, fun x g' ⟨hx, hσ⟩ => ?_⟩
  · have h := hok a g'.1 ha
    rwa [← hσ] at h
  · have h := herror x g'.1 hx
    rwa [← hσ] at h

/-- A new client is one more. -/
theorem Makes.ok {b b' : Clients} {c : ℕ} (h : Makes b (.ok c) b') (σ : PluginState) :
    Frame (b, σ) (b', σ) ∧ b.made ≤ c ∧ c < b'.made := by
  obtain ⟨hc, rfl⟩ | ⟨h, -⟩ := h
  · obtain rfl := Except.ok.inj hc
    exact ⟨⟨rfl, Nat.le_succ _, fun _ _ => rfl⟩, Nat.le_refl _, Nat.lt_succ_self _⟩
  · exact Bool.noConfusion h

theorem Makes.error {b b' : Clients} {x : PyExc} (h : Makes b (.error x) b') : b' = b :=
  h.elim (fun h => nomatch h.1) fun h => h.2

theorem Frame.trans {g₁ : Situation} (h : Frame g g₁) (h' : Frame g₁ g') : Frame g g' where
  plugin := h'.plugin.trans h.plugin
  made := Nat.le_trans h.made h'.made
  closed c hc := (h'.closed c (Nat.lt_of_lt_of_le hc h.made)).trans (h.closed c hc)

/-- A client that is closed after it has just been made. -/
theorem Frame.close (h : Frame g g') {c : ℕ} (hc : g.1.made ≤ c) : Frame g (g'.1.close c, g'.2) where
  plugin := h.plugin
  made := h.made
  closed d hd := by
    rw [← h.closed d hd]
    exact Function.update_of_ne (Nat.ne_of_lt (Nat.lt_of_lt_of_le hd hc)) _ _

/-- **Clients** that are made. -/
theorem wpIn_makeClient {f : Factory S K A} {settings : S} {Q : ℕ → Situation → Prop}
    {E : Raised → Situation → Prop}
    (hQ : ∀ c g', Frame g g' → g.1.made ≤ c → c < g'.1.made → Q c g')
    (hE : ∀ x g', Frame g g' → E x g') :
    (f.makeClient (C := checks) (σ := PluginState) settings).wpIn clients.alone Q E g := by
  have hmade : ∀ c b', Makes g.1 (.ok c) b' → Q c (b', g.2) := fun c b' h =>
    hQ c _ (h.ok g.2).1 (h.ok g.2).2.1 (h.ok g.2).2.2
  have hfailed : ∀ x y b', Makes g.1 (.error x) b' → E y (b', g.2) := fun x y b' h =>
    hE y _ (h.error ▸ Frame.refl g)
  unfold Factory.makeClient
  split
  · refine Coro.wpIn_bind.mpr (wpIn_tryExcept.mpr (wpIn_connectCall (fun c b' h => ?_)
      fun x b' h => hfailed x _ b' h))
    obtain ⟨hframe, hnew, hlt⟩ := Makes.ok h g.2
    refine Coro.wpIn_bind.mpr (Coro.wpIn_tryCatch.mpr (wpIn_connectCall (fun _ b'' h' => ?_)
      fun x b'' h' => ?_))
    · obtain rfl : b'' = b' := h'
      exact hQ c _ hframe hnew hlt
    · obtain rfl : b'' = b' := h'
      unfold Factory.giveUp
      dsimp only
      split_ifs
      · refine Coro.wpIn_bind.mpr (wpIn_connectCall (fun _ b₂ h₂ => ?_) fun y b₂ h₂ => ?_)
        · obtain rfl | ⟨-, rfl⟩ := h₂
          · exact hE _ _ (hframe.close hnew)
          · exact hE _ _ hframe
        · obtain rfl | ⟨-, rfl⟩ := h₂
          · exact hE _ _ (hframe.close hnew)
          · exact hE _ _ hframe
      · exact hE _ _ hframe
  · exact wpIn_tryExcept.mpr (wpIn_connectCall (fun c b' h => hmade c b' h)
      fun x b' h => hfailed x _ b' h)
  · exact wpIn_tryExcept.mpr (wpIn_connectCall (fun c b' h => hmade c b' h)
      fun x b' h => hfailed x _ b' h)

/-- Nothing has happened, or a new client has been put in the empty cache. -/
inductive Gets (g : Situation) : Situation → Prop
  /-- Nothing. -/
  | frame {g₁ : Situation} : Frame g g₁ → Gets g g₁
  /-- A new client. -/
  | store {g₁ : Situation} {c : ℕ} : Frame g g₁ → g.2.cached = none → g.1.made ≤ c →
    c < g₁.1.made → Gets g (g₁.1, { g₁.2 with cached := some c, put := c :: g₁.2.put })

/-- `get_*` returns the cached client, or a new one. -/
theorem wpIn_getClient {Q : ℕ → Situation → Prop} {E : Raised → Situation → Prop}
    (hQ : ∀ c g', Gets g g' → Q c g') (hE : ∀ x g', Frame g g' → E x g') :
    p.getClient.wpIn clients.alone Q E g := by
  unfold Plugin.getClient Factory.getClient
  refine Coro.wpIn_bind.mpr (Coro.wpIn_get.mpr fun s hs => ?_)
  obtain rfl : s = g.2 := hs
  split
  · exact hQ _ _ (.frame (.refl g))
  · next hnone =>
    split
    · exact hE _ _ (.refl g)
    · exact Coro.wpIn_bind.mpr (wpIn_makeClient
        (fun c g' hframe hnew hlt => hQ c _ (.store hframe hnone hnew hlt)) hE)

theorem wpIn_check {client : ℕ} {Q : Bool → Situation → Prop} {E : Raised → Situation → Prop}
    (hQ : ∀ ok, Q ok g) (hE : ∀ x, E (.raw x) g) : (p.check client).wpIn clients.alone Q E g := by
  refine Coro.wpIn_call.mpr ⟨fun ok g' ⟨hb, hσ⟩ => ?_, fun x g' ⟨hb, hσ⟩ => ?_⟩
  · obtain rfl : g' = g := Prod.ext hb hσ
    exact hQ ok
  · obtain rfl : g' = g := Prod.ext hb hσ
    exact hE x

theorem wpIn_checkHealth {Q : PluginStatus → Situation → Prop} {E : Raised → Situation → Prop}
    (hQ : ∀ st g', Gets g g' → Q st g') (hE : ∀ x g', Gets g g' → E x g') :
    p.checkHealth.wpIn clients.alone Q E g := by
  have hcaught : ∀ x g', Gets g g' → (if isException x then pure PluginStatus.failed
      else .raise x : Plugin.Method A PluginStatus).wpIn clients.alone Q E g' := by
    intro x g' h
    split_ifs
    · exact hQ _ _ h
    · exact hE _ _ h
  refine Coro.wpIn_tryCatch.mpr (Coro.wpIn_bind.mpr (wpIn_getClient (fun c g' h => ?_)
    fun x g' h => hcaught x g' (.frame h)))
  refine Coro.wpIn_bind.mpr (wpIn_check (fun ok => ?_) fun x => hcaught _ _ h)
  split_ifs
  · exact hQ _ _ h
  · exact hQ _ _ h

/-! ### Plugins with a repository -/

/-- What holds between the calls of a plugin that makes a repository. -/
structure Kept (g : Situation) : Prop where
  /-- What it has put in the cache is there, or closed. -/
  tracked : Tracked g
  /-- It has a repository by the time that there is something to close. -/
  repo : g.2.put ≠ [] → g.2.repo = true
  /-- It has a repository by the time that `health()` makes a client. -/
  ready : g.2.status = .ready → g.2.repo = true

theorem Tracked.gets (h : Tracked g) (hg : Gets g g') : Tracked g' := by
  cases hg with
  | frame hf => exact h.frame hf
  | store hf hnone hnew hmade => exact h.store hf hnone hnew hmade

theorem Gets.repo (h : Gets g g') : g'.2.repo = g.2.repo := by
  cases h with
  | frame hf => rw [hf.plugin]
  | store hf _ _ _ =>
    have hrepo := congrArg PluginState.repo hf.plugin
    exact hrepo

/-- The status and the repository make no difference. -/
theorem Tracked.with (h : Tracked g) (st : PluginStatus) (repo : Bool) :
    Tracked (g.1, { g.2 with status := st, repo := repo }) := ⟨h.made, h.closed⟩

theorem kept_of_repo (h : Tracked g) (hrepo : g.2.repo = true) : Kept g :=
  ⟨h, fun _ => hrepo, fun _ => hrepo⟩

theorem Constructed.kept (h : Constructed g) : Kept g where
  tracked :=
    ⟨fun c hc => by simp only [h.put, List.not_mem_nil] at hc,
      fun c hc => by simp only [h.put, List.not_mem_nil] at hc⟩
  repo hne := absurd h.put hne
  ready hst := by rw [h.status] at hst; cases hst

/-- `initialize()` of a plugin that makes a repository. -/
theorem wpIn_initialize_kept (howns : p.Owns) (h : Kept g) :
    p.initializePlugin.wpIn clients.alone (fun _ => Kept) (fun _ => Kept) g := by
  have hcaught : ∀ x g', Kept g' → (do
      if isException x then
        .modify fun s => { s with status := .failed }
      .raise x : Plugin.Method A Unit).wpIn clients.alone (fun _ => Kept) (fun _ => Kept) g' := by
    intro x g' h'
    split_ifs
    · exact ⟨h'.tracked.with _ _, h'.repo, nofun⟩
    · exact h'
  have hstart : Kept (g.1, { g.2 with status := .initialized }) :=
    ⟨h.tracked.with _ _, h.repo, nofun⟩
  refine Coro.wpIn_bind.mpr (Coro.wpIn_tryCatch.mpr (Coro.wpIn_bind.mpr
    (wpIn_getClient (fun c g₁ h₁ => ?_) fun x g₁ h₁ => ?_)))
  · have htracked : Tracked g₁ := hstart.tracked.gets h₁
    refine Coro.wpIn_bind.mpr ?_
    unfold Plugin.verify
    rw [if_pos howns.1, howns.2]
    -- from here on there is a repository
    have hmade : Kept (g₁.1, { g₁.2 with repo := true }) := kept_of_repo (htracked.with _ _) rfl
    have hkeeps : ∀ g₂, Gets (g₁.1, { g₁.2 with repo := true }) g₂ → Kept g₂ := fun g₂ h₂ =>
      kept_of_repo (hmade.tracked.gets h₂) h₂.repo
    refine Coro.wpIn_bind.mpr (Coro.wpIn_modify _ |>.mpr (Coro.wpIn_bind.mpr (wpIn_checkHealth
      (fun st g₂ h₂ => ?_) fun x g₂ h₂ => hcaught x g₂ (hkeeps g₂ h₂))))
    split_ifs
    · exact hcaught _ g₂ (hkeeps g₂ h₂)
    · exact kept_of_repo ((hkeeps g₂ h₂).tracked.with _ _) h₂.repo
  · -- no client, and so nothing to close
    exact hcaught x g₁ ⟨hstart.tracked.frame h₁, fun hne => by
      rw [h₁.plugin] at hne ⊢; exact hstart.repo hne, fun hst => by
      rw [h₁.plugin] at hst ⊢; exact hstart.ready hst⟩

/-- `health()` of a plugin that makes a repository. -/
theorem wpIn_health_kept (h : Kept g) :
    p.health.wpIn clients.alone (fun _ => Kept) (fun _ => Kept) g := by
  refine Coro.wpIn_bind.mpr (Coro.wpIn_get.mpr fun s hs => ?_)
  obtain rfl : s = g.2 := hs
  split_ifs with hst
  · exact h
  · have hkeeps : ∀ g', Gets g g' → Kept g' := fun g' h' =>
      kept_of_repo (h.tracked.gets h') (h'.repo.trans (h.ready (not_not.mp hst)))
    exact wpIn_checkHealth (fun st g' h' => hkeeps g' h') fun x g' h' => hkeeps g' h'

/-- What is closed stays closed. -/
theorem Clients.close_of_closed {b : Clients} {c d : ℕ} (h : b.closed d = true) :
    (b.close c).closed d = true := by
  by_cases hd : d = c
  · rw [hd]
    exact Function.update_self ..
  · exact (Function.update_of_ne hd ..).trans h

theorem Clients.close_self (b : Clients) (c : ℕ) : (b.close c).closed c = true :=
  Function.update_self ..

theorem Tracked.close (h : Tracked g) (c : ℕ) : Tracked (g.1.close c, g.2) where
  made := h.made
  closed d hd := (h.closed d hd).imp_left fun h => ⟨Clients.close_of_closed h.1, h.2⟩

/-- The cached client is closed, and no longer cached. -/
theorem Tracked.released (h : Tracked g) {c : ℕ} (hc : g.2.cached = some c) :
    Released (g.1.close c, { g.2 with cached := none }) := by
  refine fun d hd => ⟨?_, nofun⟩
  rcases h.closed d hd with ⟨hclosed, -⟩ | hd
  · exact Clients.close_of_closed hclosed
  · obtain rfl : c = d := Option.some.inj (hc.symm.trans hd)
    exact Clients.close_self ..

theorem Tracked.of_released (h : Tracked g) (hr : Released g') (hmade : g.1.made ≤ g'.1.made)
    (hput : g'.2.put = g.2.put) : Tracked g' where
  made c hc := Nat.lt_of_lt_of_le (h.made c (hput ▸ hc)) hmade
  closed c hc := .inl (hr c hc)

/-- **`shutdown()`** closes the cached client, if the plugin has a repository. -/
theorem wpIn_shutdown {B : Backend (connecting A checks) PyExc Clients} {Q : Situation → Prop}
    (hkeep : g.2.repo = false ∨ g.2.cached = none → Q (g.1, { g.2 with status := .stopped }))
    (hclosed : ∀ c u b', g.2.repo = true → g.2.cached = some c →
      B g.1 (.inl (.close c)) (.ok u) b' →
      Q (b', { g.2 with status := .stopped, cached := none }))
    (hraised : ∀ c x b', g.2.repo = true → g.2.cached = some c →
      B g.1 (.inl (.close c)) (.error x) b' → Q (b', { g.2 with status := .stopped })) :
    (Plugin.shutdown : Plugin.Method A Unit).wpIn B.alone (fun _ => Q) (fun _ => Q) g := by
  refine Coro.wpIn_bind.mpr (Coro.wpIn_tryFinally.mpr (Coro.wpIn_tryCatch.mpr
    (Coro.wpIn_bind.mpr (Coro.wpIn_get.mpr fun s hs => ?_))))
  obtain rfl : s = { g.2 with status := .stopping } := hs
  split_ifs with hrepo
  · refine Coro.wpIn_bind.mpr (Coro.wpIn_get.mpr fun s hs => ?_)
    obtain rfl : s = { g.2 with status := .stopping } := hs
    dsimp only
    split
    · next c hc =>
      refine Coro.wpIn_bind.mpr (wpIn_connectCall (fun u b' h => ?_) fun x b' h => ?_)
      · exact hclosed c u b' hrepo hc h
      · split_ifs
        · exact hraised c x b' hrepo hc h
        · exact hraised c x b' hrepo hc h
    · next hnone => exact hkeep (.inr hnone)
  · exact hkeep (.inl (Bool.eq_false_iff.mpr hrepo))

/-- `shutdown()` of a plugin that makes a repository. -/
theorem wpIn_shutdown_kept (h : Kept g) :
    (Plugin.shutdown : Plugin.Method A Unit).wpIn clients.alone (fun _ => Kept) (fun _ => Kept)
      g := by
  have hraised : ∀ c, Kept ((g.1.close c), { g.2 with status := .stopped }) := fun c =>
    ⟨(h.tracked.close c).with _ _, h.repo, nofun⟩
  refine wpIn_shutdown (fun _ => ?_) (fun c u b' hrepo hc hb => ?_) fun c x b' hrepo hc hb => ?_
  · exact ⟨h.tracked.with _ _, h.repo, nofun⟩
  · obtain rfl | ⟨hb, -⟩ := hb
    · exact kept_of_repo (h.tracked.of_released (h.tracked.released hc) (Nat.le_refl _) rfl) hrepo
    · cases hb
  · obtain rfl | ⟨-, rfl⟩ := hb
    · exact hraised c
    · exact ⟨h.tracked.with _ _, h.repo, nofun⟩

/-- The last `shutdown()` of a plugin that makes a repository. -/
theorem wpIn_shutdown_released (h : Kept g) :
    (Plugin.shutdown : Plugin.Method A Unit).wpIn closing.alone (fun _ => Released)
      (fun _ => Released) g := by
  refine wpIn_shutdown (fun hkeep c hc => ?_) (fun c u b' hrepo hc hb => ?_)
    fun c x b' hrepo hc hb => ?_
  · have hrepo : g.2.repo = true := h.repo (List.ne_nil_of_mem hc)
    have hnone : g.2.cached = none := hkeep.resolve_left (by rw [hrepo]; nofun)
    refine (h.tracked.closed c hc).resolve_right ?_
    rw [hnone]
    nofun
  · obtain ⟨-, rfl⟩ := hb
    exact h.tracked.released hc
  · cases hb.1

/-! ### Plugins without a repository -/

/-- What holds between the calls of a plugin that makes no repository. -/
structure Orphaned (g : Situation) : Prop where
  /-- It has no repository. -/
  repo : g.2.repo = false
  /-- What it has put in the cache is still there. -/
  cached : ∀ c ∈ g.2.put, g.2.cached = some c

theorem Constructed.orphaned (h : Constructed g) : Orphaned g where
  repo := h.repo
  cached c hc := by simp only [h.put, List.not_mem_nil] at hc

theorem Orphaned.gets (h : Orphaned g) (hg : Gets g g') : Orphaned g' := by
  refine ⟨hg.repo.trans h.repo, ?_⟩
  cases hg with
  | frame hf =>
    rw [hf.plugin]
    exact h.cached
  | store hf hnone _ _ =>
    intro c hc
    rcases List.mem_cons.mp hc with rfl | hc
    · rfl
    · rw [hf.plugin] at hc
      have hcached := h.cached c hc
      rw [hnone] at hcached
      cases hcached

/-- `initialize()` of a plugin that makes no repository. -/
theorem wpIn_initialize_orphaned (howns : ¬ p.Owns) (h : Orphaned g) :
    p.initializePlugin.wpIn clients.alone (fun _ => Orphaned) (fun _ => Orphaned) g := by
  have hstatus : ∀ g' st, Orphaned g' → Orphaned (g'.1, { g'.2 with status := st }) :=
    fun g' st h' => ⟨h'.repo, h'.cached⟩
  have hcaught : ∀ x g', Orphaned g' → (do
      if isException x then
        .modify fun s => { s with status := .failed }
      .raise x : Plugin.Method A Unit).wpIn clients.alone (fun _ => Orphaned)
        (fun _ => Orphaned) g' := by
    intro x g' h'
    split_ifs
    · exact hstatus g' _ h'
    · exact h'
  refine Coro.wpIn_bind.mpr (Coro.wpIn_tryCatch.mpr (Coro.wpIn_bind.mpr
    (wpIn_getClient (fun c g₁ h₁ => ?_) fun x g₁ h₁ => ?_)))
  · have horphaned : Orphaned g₁ := (hstatus g _ h).gets h₁
    refine Coro.wpIn_bind.mpr ?_
    unfold Plugin.verify
    split_ifs with hsource
    · -- the constructor of the repository raises
      split
      · exact hcaught _ g₁ horphaned
      · next hrefusal => exact absurd ⟨hsource, hrefusal⟩ howns
    · refine wpIn_tryExcept.mpr (Coro.wpIn_bind.mpr (wpIn_check (fun ok => ?_) fun x => ?_))
      · split_ifs
        · exact hcaught _ g₁ horphaned
        · exact hstatus g₁ _ horphaned
      · exact hcaught _ g₁ horphaned
  · exact hcaught x g₁ ((hstatus g _ h).gets (.frame h₁))

/-- `health()` of a plugin that makes no repository. -/
theorem wpIn_health_orphaned (h : Orphaned g) :
    p.health.wpIn clients.alone (fun _ => Orphaned) (fun _ => Orphaned) g := by
  refine Coro.wpIn_bind.mpr (Coro.wpIn_get.mpr fun s hs => ?_)
  obtain rfl : s = g.2 := hs
  split_ifs
  · exact h
  · exact wpIn_checkHealth (fun st g' h' => h.gets h') fun x g' h' => h.gets h'

/-- `shutdown()` without a repository. -/
theorem wpIn_shutdown_orphaned {B : Backend (connecting A checks) PyExc Clients}
    {Q : Situation → Prop} (h : Orphaned g) (hQ : Q (g.1, { g.2 with status := .stopped })) :
    (Plugin.shutdown : Plugin.Method A Unit).wpIn B.alone (fun _ => Q) (fun _ => Q) g :=
  wpIn_shutdown (fun _ => hQ) (fun _ _ _ hrepo _ _ => absurd (h.repo.symm.trans hrepo) nofun)
    fun _ _ _ hrepo _ _ => absurd (h.repo.symm.trans hrepo) nofun

end Rules

/-! ### Every run -/

section Runs

variable {S K A : Type} {p : Plugin S K A}

/-- A plugin that makes a repository, between its calls. -/
theorem Kept.session (howns : p.Owns) {g g' : Situation} {l : List (Answer lifecycleCalls Raised)}
    (hg : Kept g) (h : Session p.lifecycle g l g') : Kept g' := by
  refine h.invariant (fun g q r g' hg hend => Coro.EndsIn.always hend ?_) hg
  cases q with
  | initializePlugin => exact wpIn_initialize_kept howns hg
  | health => exact wpIn_health_kept hg
  | shutdown => exact wpIn_shutdown_kept hg

/-- A plugin that makes no repository, between its calls. -/
theorem Orphaned.session (howns : ¬ p.Owns) {g g' : Situation}
    {l : List (Answer lifecycleCalls Raised)} (hg : Orphaned g) (h : Session p.lifecycle g l g') :
    Orphaned g' := by
  refine h.invariant (fun g q r g' hg hend => Coro.EndsIn.always hend ?_) hg
  cases q with
  | initializePlugin => exact wpIn_initialize_orphaned howns hg
  | health => exact wpIn_health_orphaned hg
  | shutdown => exact wpIn_shutdown_orphaned hg ⟨hg.repo, hg.cached⟩

/-- **Shutdown**: after a run that ends with a `shutdown()`, whose own close succeeds, everything that
the plugin has put in the cache is closed and gone, exactly if the plugin makes a repository or has
put nothing there. -/
theorem released_iff {g₀ g₁ g₂ : Situation} {l : List (Answer lifecycleCalls Raised)}
    {o : Except Raised Unit} (hconstructed : Constructed g₀) (hrun : Session p.lifecycle g₀ l g₁)
    (hshutdown : (Plugin.shutdown : Plugin.Method A Unit).EndsIn closing.alone g₁ o g₂) :
    Released g₂ ↔ p.Owns ∨ g₁.2.put = [] := by
  by_cases howns : p.Owns
  · have hkept : Kept g₁ := hconstructed.kept.session howns hrun
    exact iff_of_true (hshutdown.always (wpIn_shutdown_released hkept)) (.inl howns)
  · have horphaned : Orphaned g₁ := hconstructed.orphaned.session howns hrun
    obtain rfl : g₂ = (g₁.1, { g₁.2 with status := .stopped }) :=
      hshutdown.always (I := fun g => g = _) (wpIn_shutdown_orphaned horphaned rfl)
    constructor
    · intro hreleased
      refine .inr (List.eq_nil_iff_forall_not_mem.mpr fun c hc => ?_)
      exact (hreleased c hc).2 (horphaned.cached c hc)
    · intro h c hc
      rw [h.resolve_left howns] at hc
      exact absurd hc List.not_mem_nil

end Runs

/-! ### Two plugins -/

/-- A plugin for a local server. -/
def localPlugin (table : String) :=
  postgresPlugin (F := Unit) ⟨"postgresql://localhost/shop", 10, (), (), 50000⟩ table none

/-- Nothing has happened yet. -/
def untouched : Situation := (⟨0, fun _ => false⟩, ⟨.registered, false, none, []⟩)

theorem constructed_untouched : Constructed untouched := ⟨rfl, rfl, rfl, nofun, nofun⟩

/-- An answer of the driver that closes is one of the driver. -/
theorem clients_of_closing {A : Type} {b b' : Clients} :
    ∀ {q : (connecting A checks).Call} {r : Except PyExc ((connecting A checks).Reply q)},
      closing b q r b' → clients b q r b'
  | .inl (.close _), _, h => .inl h.2
  | .inl (.construct _), _, h => h
  | .inl (.connect _), _, h => h
  | .inl (.probe _), _, h => h
  | .inr _, _, h => h

/-- The driver answers every call. -/
theorem exists_closing {A : Type} (b : Clients) (q : (connecting A checks).Call) :
    ∃ r b', closing b q r b' := by
  match q with
  | .inl (.construct _) => exact ⟨_, _, .inl ⟨rfl, rfl⟩⟩
  | .inl (.connect _) => exact ⟨_, _, .inl ⟨rfl, rfl⟩⟩
  | .inl (.probe _) => exact ⟨.ok (), _, rfl⟩
  | .inl (.close c) => exact ⟨.ok (), _, rfl, rfl⟩
  | .inr _ => exact ⟨.ok true, _, rfl⟩

/-- Any calls of a plugin end. -/
theorem exists_lifecycle {S K A : Type} (p : Plugin S K A) (g : Situation) (q : LifecycleCall) :
    ∃ r g', p.lifecycle g q r g' := by
  refine Coro.exists_endsIn (fun g q => ?_) (fun g => ⟨g.2, rfl⟩) _ g
  obtain ⟨r, b', h⟩ := exists_closing g.1 q
  exact ⟨r, (b', g.2), clients_of_closing h, rfl⟩

/-- A plugin with a table is initialised twice and shut down twice, and everything is released. -/
theorem released_users : ∃ l g₁ o g₂,
    l.map Answer.call = [.initializePlugin, .health, .shutdown, .initializePlugin] ∧
    Session (localPlugin "users").lifecycle untouched l g₁ ∧
    (Plugin.shutdown : Plugin.Method (String × ℤ × ℤ × Unit × Unit × ℤ) Unit).EndsIn closing.alone
      g₁ o g₂ ∧ Released g₂ := by
  obtain ⟨l, g₁, hrun, hcalls⟩ := exists_session (D := lifecycleCalls)
    (exists_lifecycle (localPlugin "users"))
    [.initializePlugin, .health, .shutdown, .initializePlugin] untouched
  obtain ⟨o, g₂, hshutdown⟩ := Coro.exists_endsIn (W := closing.alone)
    (p := (Plugin.shutdown : Plugin.Method (String × ℤ × ℤ × Unit × Unit × ℤ) Unit))
    (fun g q => (exists_closing g.1 q).imp fun r ⟨b', h⟩ => ⟨(b', g.2), h, rfl⟩)
    (fun g => ⟨g.2, rfl⟩) g₁
  exact ⟨l, g₁, o, g₂, hcalls, hrun, hshutdown,
    (released_iff constructed_untouched hrun hshutdown).mpr (.inl ⟨by decide, rfl⟩)⟩

/-- After `initialize()`, the pool is open. -/
def withPool : Situation := (⟨1, fun _ => false⟩, ⟨.ready, false, some 0, [0]⟩)

/-- `initialize()` without a table makes a pool. -/
theorem ends_withPool :
    (localPlugin "").lifecycle untouched .initializePlugin (.ok ()) withPool := by
  refine Coro.EndsIn.write (Coro.EndsIn.read
    (s := (⟨.initialized, false, none, []⟩ : PluginState)) rfl ?_)
  let made : Situation := (⟨1, fun _ => false⟩, ⟨.initialized, false, none, []⟩)
  let kept : Situation := (⟨1, fun _ => false⟩, ⟨.initialized, false, some 0, [0]⟩)
  refine @Coro.EndsIn.await _ _ _ _ _ _ _ _ _ (.ok 0 : Except PyExc ℕ) _ made _ _
    ⟨.inl ⟨rfl, rfl⟩, rfl⟩ ?_
  refine Coro.EndsIn.write (@Coro.EndsIn.await _ _ _ _ _ _ _ _ _
    (.ok true : Except PyExc Bool) _ kept _ _ ⟨rfl, rfl⟩ ?_)
  exact Coro.EndsIn.write (.ret () withPool)

/-- `shutdown()` leaves the pool as it is. -/
theorem ends_shutdown_withPool :
    (Plugin.shutdown : Plugin.Method (String × ℤ × ℤ × Unit × Unit × ℤ) Unit).EndsIn closing.alone
      withPool (.ok ()) (withPool.1, ⟨.stopped, false, some 0, [0]⟩) :=
  Coro.EndsIn.write (Coro.EndsIn.read (s := (⟨.stopping, false, some 0, [0]⟩ : PluginState)) rfl
    (Coro.EndsIn.write (.ret () _)))

/-- **A pool that stays open**: a plugin without a table. -/
theorem not_released : ¬ (localPlugin "").Releases := fun h =>
  have hreleased := h untouched [⟨.initializePlugin, .ok ()⟩] withPool (.ok ()) _
    constructed_untouched (.cons ends_withPool (.nil _)) ends_shutdown_withPool
  absurd (hreleased 0 (List.mem_singleton_self 0)).1 nofun

end OpenframeAdapters.Db
