import OpenframeAdapters.Core.Exceptions
import OpenframeAdapters.Python.Tasks

/-!
# The client factories

Each database adapter has a factory `get_*(settings)` and a module-level cache that
maps a key computed from the settings to a client. The factories share one shape:

    key = _cache_key(settings)
    if key in _cache: return _cache[key]
    client = …            # one await, under `connection_timeout`
    _cache[key] = client
    return client

and so do the `close()` methods of the repositories.

## The model

A `Factory` says what an adapter does in each place of that shape: its key, what its
client is built from, how the client is made (`Making`), what is raised where that
fails, and how `close()` goes about it (`Closing`).

All calls of one adapter run in one event loop and share its cache (`Shared`); a task
is one call. Clients are numbered in the order they are made. A job that `wait_for`
has given up on stays in its thread: the call has raised (`abandoned`), and the job may
still make its client.

For each `get_*` call, `seen` notes which clients somebody had begun to close when the
call started. No function reads it.
-/

namespace OpenframeAdapters.Db

open Python OpenframeAdapters.Core

/-! ### Factories -/

/-- How a factory makes a client. -/
inductive Making where
  /-- The awaited call returns it. -/
  | awaited
  /-- It is constructed, and the await is a first command on it. Where that raises an instance
  of one of the classes, the client is closed. -/
  | probed (closing : List Cls)
  /-- A job of the executor makes it, and `wait_for` waits for the job. -/
  | executor

/-- How `close()` of a repository deals with the cached client. -/
inductive Closing where
  /-- It reads the entry, awaits the client's own close, and then pops the key. -/
  | popAfter
  /-- It pops the entry, and then awaits the client's own close. -/
  | popFirst
  /-- It leaves the client alone. -/
  | keep

/-- The factory of an adapter with settings `S`, cache keys `K` and constructor arguments `A`. -/
structure Factory (S K A : Type) where
  /-- `_cache_key`. -/
  cacheKey : S → K
  /-- What the driver is called with to make a client. -/
  arguments : S → A
  /-- The error for settings that are refused before the driver is called. -/
  refuses : S → Option AdapterError := fun _ => none
  /-- The `except` clauses around what is called before the await. -/
  initErrors : Clauses Cls AdapterError := []
  /-- The `except` clauses around the await. -/
  connectErrors : Clauses Cls AdapterError
  /-- How the client is made. -/
  making : Making
  /-- How `close()` works. -/
  closing : Closing
  /-- `shutdown()` drops an `Exception` that `close()` raises. -/
  quietShutdown : Bool

/-! ### The cache and the calls -/

/-- What the calls share. -/
structure Shared (K A : Type) where
  /-- The module-level cache. -/
  cache : K → Option ℕ
  /-- How many clients have been made; they are numbered from `0`. -/
  made : ℕ
  /-- What each client was built from. -/
  built : ℕ → Option A
  /-- Somebody has begun to close the client. -/
  closed : ℕ → Bool

/-- The two methods that close. -/
inductive Method where
  /-- `close()`. -/
  | close
  /-- `shutdown()`. -/
  | shutdown
  deriving DecidableEq

/-- Where a call is suspended. -/
inductive Task (S K : Type) where
  /-- The call has not been made. -/
  | idle
  /-- `get_*` awaits the driver's call, or the job of the executor. -/
  | creating (settings : S) (seen : ℕ → Bool)
  /-- `get_*` awaits the first command on the client it has constructed. -/
  | probing (settings : S) (client : ℕ) (seen : ℕ → Bool)
  /-- `get_*` awaits the close of that client, to raise `x` then. -/
  | discarding (client : ℕ) (x : Raised)
  /-- `get_*` has raised `x`, while its job goes on. -/
  | abandoned (settings : S) (x : Raised)
  /-- `get_*` has returned the client. -/
  | returned (settings : S) (client : ℕ) (seen : ℕ → Bool)
  /-- `get_*` has raised. -/
  | failed (x : Raised)
  /-- `close()` or `shutdown()` awaits the close of the client it has read under the key. -/
  | closing (key : K) (client : ℕ) (method : Method)
  /-- `close()` or `shutdown()` has ended, after closing that client, if any. -/
  | ended (key : K) (client : Option ℕ) (method : Method) (x : Option Raised)

/-- What happens to a task. -/
inductive Ev (S : Type) where
  /-- `get_*` is called. What is called before the await returns or raises. -/
  | get (settings : S) (init : Option PyExc)
  /-- `close()` or `shutdown()` is called. -/
  | close (settings : S) (method : Method)
  /-- The awaited call returns; the job of the executor has made its client. -/
  | ok
  /-- The awaited call raises. -/
  | raise (x : PyExc)
  /-- `wait_for` gives up on the job, on a timeout or a cancellation. -/
  | abandon (x : PyExc)

section Shared

variable {K A : Type} [DecidableEq K]

/-- A client is made. -/
def Shared.make (s : Shared K A) (a : A) : Shared K A :=
  { s with made := s.made + 1, built := Function.update s.built s.made (some a) }

/-- `_cache[key] = client`. -/
def Shared.store (s : Shared K A) (k : K) (c : ℕ) : Shared K A :=
  { s with cache := Function.update s.cache k (some c) }

/-- `_cache.pop(key, None)`. -/
def Shared.pop (s : Shared K A) (k : K) : Shared K A :=
  { s with cache := Function.update s.cache k none }

/-- The client's own close is called. -/
def Shared.close (s : Shared K A) (c : ℕ) : Shared K A :=
  { s with closed := Function.update s.closed c true }

variable (s : Shared K A) (a : A) (k k' : K) (c d : ℕ)

omit [DecidableEq K] in
@[simp] theorem Shared.make_cache : (s.make a).cache k' = s.cache k' := rfl

omit [DecidableEq K] in
@[simp] theorem Shared.make_made : (s.make a).made = s.made + 1 := rfl

omit [DecidableEq K] in
@[simp] theorem Shared.make_built :
    (s.make a).built d = if d = s.made then some a else s.built d := by
  simp [Shared.make, Function.update_apply]

omit [DecidableEq K] in
@[simp] theorem Shared.make_closed : (s.make a).closed d = s.closed d := rfl

@[simp] theorem Shared.store_cache :
    (s.store k c).cache k' = if k' = k then some c else s.cache k' := by
  simp [Shared.store, Function.update_apply]

@[simp] theorem Shared.store_made : (s.store k c).made = s.made := rfl

@[simp] theorem Shared.store_built : (s.store k c).built d = s.built d := rfl

@[simp] theorem Shared.store_closed : (s.store k c).closed d = s.closed d := rfl

@[simp] theorem Shared.pop_cache :
    (s.pop k).cache k' = if k' = k then none else s.cache k' := by
  simp [Shared.pop, Function.update_apply]

@[simp] theorem Shared.pop_made : (s.pop k).made = s.made := rfl

@[simp] theorem Shared.pop_built : (s.pop k).built d = s.built d := rfl

@[simp] theorem Shared.pop_closed : (s.pop k).closed d = s.closed d := rfl

omit [DecidableEq K] in
@[simp] theorem Shared.close_cache : (s.close c).cache k' = s.cache k' := rfl

omit [DecidableEq K] in
@[simp] theorem Shared.close_made : (s.close c).made = s.made := rfl

omit [DecidableEq K] in
@[simp] theorem Shared.close_built : (s.close c).built d = s.built d := rfl

omit [DecidableEq K] in
@[simp] theorem Shared.close_closed :
    (s.close c).closed d = if d = c then true else s.closed d := by
  simp [Shared.close, Function.update_apply]

variable {s a k k' c d}

/-- What is cached after a store has been stored, or was cached before. -/
theorem Shared.cache_of_store (h : (s.store k c).cache k' = some d) :
    k' = k ∧ c = d ∨ s.cache k' = some d := by
  rw [store_cache] at h
  split_ifs at h with hk
  · exact .inl ⟨hk, Option.some.inj h⟩
  · exact .inr h

/-- What is cached after a pop was cached before. -/
theorem Shared.cache_of_pop (h : (s.pop k).cache k' = some d) : s.cache k' = some d := by
  rw [pop_cache] at h
  split_ifs at h
  exact h

omit [DecidableEq K] in
/-- Closing a client closes no other one. -/
theorem Shared.closed_of_close (h : (s.close c).closed d = true) : d = c ∨ s.closed d = true := by
  rw [close_closed] at h
  split_ifs at h with hd
  · exact .inl hd
  · exact .inr h

end Shared

section Code

variable {S K A : Type} [DecidableEq K]

/-- The end of `get_*`: the client is stored and returned. -/
def Factory.keep (f : Factory S K A) (s : Shared K A) (settings : S) (c : ℕ) (seen : ℕ → Bool) :
    Shared K A × Task S K :=
  (s.store (f.cacheKey settings) c, .returned settings c seen)

/-- `get_*`, up to its await. -/
def Factory.get (f : Factory S K A) (s : Shared K A) (settings : S) (init : Option PyExc) :
    Shared K A × Task S K :=
  match s.cache (f.cacheKey settings) with
  | some c => (s, .returned settings c s.closed)
  | none =>
    match f.refuses settings, init with
    | some err, _ => (s, .failed (.adapter err))
    | none, some x => (s, .failed (translate f.initErrors x))
    | none, none =>
      match f.making with
      | .probed _ => (s.make (f.arguments settings), .probing settings s.made s.closed)
      | .awaited | .executor => (s, .creating settings s.closed)

/-- A failing first command makes `get_*` close the client it has constructed. -/
def Factory.discards (f : Factory S K A) (x : PyExc) : Bool :=
  match f.making with
  | .probed closing => x.isAny closing
  | .awaited | .executor => false

/-- The first command on a client has raised. -/
def Factory.probeFailed (f : Factory S K A) (s : Shared K A) (c : ℕ) (x : PyExc) :
    Shared K A × Task S K :=
  if f.discards x then (s.close c, .discarding c (translate f.connectErrors x))
  else (s, .failed (translate f.connectErrors x))

/-- `close()` or `shutdown()`, up to its await. -/
def Factory.beginClose (f : Factory S K A) (s : Shared K A) (settings : S) (method : Method) :
    Shared K A × Task S K :=
  let key := f.cacheKey settings
  match f.closing, s.cache key with
  | .popAfter, some c => (s.close c, .closing key c method)
  | .popFirst, some c => ((s.pop key).close c, .closing key c method)
  | _, _ => (s, .ended key none method none)

/-- The client's own close has returned. -/
def Factory.closeDone (f : Factory S K A) (s : Shared K A) (key : K) (c : ℕ) (method : Method) :
    Shared K A × Task S K :=
  match f.closing with
  | .popAfter => (s.pop key, .ended key (some c) method none)
  | .popFirst | .keep => (s, .ended key (some c) method none)

/-- What the call raises where the client's own close does. -/
def Factory.closeRaises (f : Factory S K A) (method : Method) (x : PyExc) : Option Raised :=
  match method with
  | .close => some (.raw x)
  | .shutdown => if f.quietShutdown && x.isa .exception then none else some (.raw x)

/-- The code of an adapter's factory and of its `close()`, from one await to the next. -/
def resume (f : Factory S K A) : Resume (Shared K A) (Task S K) (Ev S)
  | _, s, .idle, .get settings init => some (f.get s settings init)
  | _, s, .creating settings seen, .ok =>
    some (f.keep (s.make (f.arguments settings)) settings s.made seen)
  | _, s, .creating _ _, .raise x => some (s, .failed (translate f.connectErrors x))
  | _, s, .creating settings _, .abandon x =>
    match f.making with
    | .executor => some (s, .abandoned settings (translate f.connectErrors x))
    | .awaited | .probed _ => none
  | _, s, .abandoned settings x, .ok => some (s.make (f.arguments settings), .failed x)
  | _, s, .abandoned _ x, .raise _ => some (s, .failed x)
  | _, s, .probing settings c seen, .ok => some (f.keep s settings c seen)
  | _, s, .probing _ c _, .raise x => some (f.probeFailed s c x)
  | _, s, .discarding _ x, .ok => some (s, .failed x)
  | _, s, .discarding _ _, .raise x => some (s, .failed (.raw x))
  | _, s, .idle, .close settings method => some (f.beginClose s settings method)
  | _, s, .closing key c method, .ok => some (f.closeDone s key c method)
  | _, s, .closing key c method, .raise x =>
    some (s, .ended key (some c) method (f.closeRaises method x))
  | _, _, _, _ => none

/-- What `resume` does, case by case. -/
inductive Step (f : Factory S K A) (s : Shared K A) :
    Task S K → Ev S → Shared K A × Task S K → Prop
  | hit {settings init c} : s.cache (f.cacheKey settings) = some c →
    Step f s .idle (.get settings init) (s, .returned settings c s.closed)
  | refused {settings init x} : s.cache (f.cacheKey settings) = none →
    Step f s .idle (.get settings init) (s, .failed x)
  | start {settings} : s.cache (f.cacheKey settings) = none →
    Step f s .idle (.get settings none) (s, .creating settings s.closed)
  | construct {settings} : s.cache (f.cacheKey settings) = none →
    Step f s .idle (.get settings none)
      (s.make (f.arguments settings), .probing settings s.made s.closed)
  | created {settings seen} : Step f s (.creating settings seen) .ok
      (f.keep (s.make (f.arguments settings)) settings s.made seen)
  | notCreated {settings seen x} :
    Step f s (.creating settings seen) (.raise x) (s, .failed (translate f.connectErrors x))
  | abandoned {settings seen x} : f.making = .executor →
    Step f s (.creating settings seen) (.abandon x)
      (s, .abandoned settings (translate f.connectErrors x))
  | late {settings x} :
    Step f s (.abandoned settings x) .ok (s.make (f.arguments settings), .failed x)
  | never {settings x y} : Step f s (.abandoned settings x) (.raise y) (s, .failed x)
  | probed {settings c seen} : Step f s (.probing settings c seen) .ok (f.keep s settings c seen)
  | discard {settings c seen x} : f.discards x = true →
    Step f s (.probing settings c seen) (.raise x)
      (s.close c, .discarding c (translate f.connectErrors x))
  | lose {settings c seen x} : f.discards x = false →
    Step f s (.probing settings c seen) (.raise x) (s, .failed (translate f.connectErrors x))
  | discarded {c x} : Step f s (.discarding c x) .ok (s, .failed x)
  | notDiscarded {c x y} : Step f s (.discarding c x) (.raise y) (s, .failed (.raw y))
  | closeNone {settings method} :
    Step f s .idle (.close settings method) (s, .ended (f.cacheKey settings) none method none)
  | closeKept {settings method c} : f.closing = .popAfter →
    s.cache (f.cacheKey settings) = some c → Step f s .idle (.close settings method)
      (s.close c, .closing (f.cacheKey settings) c method)
  | closePopped {settings method c} : f.closing = .popFirst →
    s.cache (f.cacheKey settings) = some c → Step f s .idle (.close settings method)
      ((s.pop (f.cacheKey settings)).close c, .closing (f.cacheKey settings) c method)
  | closedPop {key c method} : f.closing = .popAfter →
    Step f s (.closing key c method) .ok (s.pop key, .ended key (some c) method none)
  | closed {key c method} : f.closing ≠ .popAfter →
    Step f s (.closing key c method) .ok (s, .ended key (some c) method none)
  | notClosed {key c method x} : Step f s (.closing key c method) (.raise x)
      (s, .ended key (some c) method (f.closeRaises method x))

section Step

variable {f : Factory S K A} {s : Shared K A}

theorem step_get (settings : S) (init : Option PyExc) :
    Step f s .idle (.get settings init) (f.get s settings init) := by
  unfold Factory.get
  split
  next c hc => exact .hit hc
  next hc =>
    split
    · exact .refused hc
    · exact .refused hc
    · split
      · exact .construct hc
      · exact .start hc
      · exact .start hc

theorem step_probeFailed (settings : S) (c : ℕ) (seen : ℕ → Bool) (x : PyExc) :
    Step f s (.probing settings c seen) (.raise x) (f.probeFailed s c x) := by
  unfold Factory.probeFailed
  split
  next hx => exact .discard hx
  next hx => exact .lose (Bool.eq_false_iff.mpr hx)

theorem step_beginClose (settings : S) (method : Method) :
    Step f s .idle (.close settings method) (f.beginClose s settings method) := by
  unfold Factory.beginClose
  dsimp only
  split
  next c hf hc => exact .closeKept hf hc
  next c hf hc => exact .closePopped hf hc
  next => exact .closeNone

theorem step_closeDone (key : K) (c : ℕ) (method : Method) :
    Step f s (.closing key c method) .ok (f.closeDone s key c method) := by
  unfold Factory.closeDone
  split
  next hf => exact .closedPop hf
  next hf => exact .closed (by simp [hf])
  next hf => exact .closed (by simp [hf])

theorem step_of_resume {i : ℕ} {p : Task S K} {e : Ev S} {r : Shared K A × Task S K}
    (h : resume f i s p e = some r) : Step f s p e r := by
  revert h
  fun_cases resume f i s p e <;> rintro ⟨⟩
  all_goals first
    | exact step_get ..
    | exact step_probeFailed ..
    | exact step_beginClose ..
    | exact step_closeDone ..
    | constructor <;> assumption

end Step

/-- An adapter that has just been imported. -/
def fresh : Loop (Shared K A) (Task S K) where
  shared := ⟨fun _ => none, 0, fun _ => none, fun _ => false⟩
  task _ := .idle

end Code

end OpenframeAdapters.Db
