import Mathlib.Data.Nat.Notation

/-!
# Coroutines

`Tasks` runs code whose awaits have been laid out by hand. Here a coroutine is written the
way the source writes it, as a program: it calls a driver, goes on with the reply, and
raises and handles exceptions on the way.

## The model

* `Driver` — the calls that can be awaited, each with the type of its reply.
* `Coro` — a coroutine. The driver answers a call with a reply, or by raising an `ε`; the
  coroutine itself raises an `X`. `read` and `write` access the state `σ` that it shares with
  other tasks.
* `Ends` — a coroutine ends, after the driver has given certain answers. A `read` sees any
  state, since other tasks may have run since the last one.
* `wp` — what holds before a coroutine so that `Q` holds when it returns and `E` when it
  raises. The assertions are about a ghost state, which records what the driver has answered.

## What is proved

* `wp_bind`, `wp_attempt`, `wp_tryCatch`, `wp_tryFinally`, `wp_mono` — the rules of `wp`.
* `Ends.of_wp` — what `wp` promises holds of every end.
-/

namespace OpenframeAdapters.Python

/-- What a driver can be asked. -/
structure Driver where
  /-- A call with its arguments. -/
  Call : Type
  /-- What the call returns. -/
  Reply : Call → Type

/-- A coroutine that returns an `α`. -/
inductive Coro (D : Driver) (ε σ X α : Type) where
  /-- It returns. -/
  | ret (a : α)
  /-- It raises. -/
  | raise (x : X)
  /-- It makes a call, and goes on with what comes back. -/
  | await (q : D.Call) (k : Except ε (D.Reply q) → Coro D ε σ X α)
  /-- It reads the shared state. -/
  | read (k : σ → Coro D ε σ X α)
  /-- It changes the shared state. -/
  | write (f : σ → σ) (k : Coro D ε σ X α)

/-- The answer to a call. -/
structure Answer (D : Driver) (ε : Type) where
  /-- The call. -/
  call : D.Call
  /-- What has come back. -/
  reply : Except ε (D.Reply call)

variable {D : Driver} {ε σ X α β G : Type}

namespace Coro

/-- One coroutine after the other. -/
def bind : Coro D ε σ X α → (α → Coro D ε σ X β) → Coro D ε σ X β
  | .ret a, f => f a
  | .raise x, _ => .raise x
  | .await q k, f => .await q fun r => (k r).bind f
  | .read k, f => .read fun s => (k s).bind f
  | .write g k, f => .write g (k.bind f)

instance : Monad (Coro D ε σ X) where
  pure := .ret
  bind := .bind

/-- What a coroutine raises becomes a value. -/
def attempt : Coro D ε σ X α → Coro D ε σ X (Except X α)
  | .ret a => .ret (.ok a)
  | .raise x => .ret (.error x)
  | .await q k => .await q fun r => (k r).attempt
  | .read k => .read fun s => (k s).attempt
  | .write g k => .write g k.attempt

/-- `try: p except: h`. -/
def tryCatch (p : Coro D ε σ X α) (h : X → Coro D ε σ X α) : Coro D ε σ X α :=
  p.attempt >>= fun
    | .ok a => pure a
    | .error x => h x

/-- `try: p finally: fin`. -/
def tryFinally (p : Coro D ε σ X α) (fin : Coro D ε σ X Unit) : Coro D ε σ X α :=
  p.attempt >>= fun r => fin >>= fun _ =>
    match r with
    | .ok a => pure a
    | .error x => .raise x

/-- `await q`. What the driver raises leaves as it is. -/
def call (raw : ε → X) (q : D.Call) : Coro D ε σ X (D.Reply q) :=
  .await q fun
    | .ok a => .ret a
    | .error e => .raise (raw e)

/-- The shared state. -/
def get : Coro D ε σ X σ := .read .ret

/-- Change the shared state. -/
def modify (f : σ → σ) : Coro D ε σ X Unit := .write f (.ret ())

/-- What a computation without awaits returns or raises. -/
def ofExcept (raw : ε → X) : Except ε α → Coro D ε σ X α
  | .ok a => .ret a
  | .error e => .raise (raw e)

/-- A coroutine that reads and writes only a part of the state. -/
def zoom {τ : Type} (part : τ → σ) (put : σ → τ → τ) : Coro D ε σ X α → Coro D ε τ X α
  | .ret a => .ret a
  | .raise x => .raise x
  | .await q k => .await q fun r => (k r).zoom part put
  | .read k => .read fun t => (k (part t)).zoom part put
  | .write f k => .write (fun t => put (f (part t)) t) (k.zoom part put)

/-- The coroutine ends with the outcome, after these answers. -/
inductive Ends : Coro D ε σ X α → List (Answer D ε) → Except X α → Prop
  /-- It returns. -/
  | ret (a : α) : Ends (.ret a) [] (.ok a)
  /-- It raises. -/
  | raise (x : X) : Ends (.raise x) [] (.error x)
  /-- The driver answers the call. -/
  | await {q k t o} (r : Except ε (D.Reply q)) : Ends (k r) t o →
    Ends (.await q k) (⟨q, r⟩ :: t) o
  /-- It reads what the tasks have left. -/
  | read {k t o} (s : σ) : Ends (k s) t o → Ends (.read k) t o
  /-- It changes the shared state. -/
  | write {f k t o} : Ends k t o → Ends (.write f k) t o

/-! ### Weakest preconditions -/

section Wp

variable (observe : G → Answer D ε → G)

/-- Whatever the driver answers, `Q` holds when the coroutine returns, and `E` when it
raises. -/
def wp : Coro D ε σ X α → (α → G → Prop) → (X → G → Prop) → G → Prop
  | .ret a, Q, _, g => Q a g
  | .raise x, _, E, g => E x g
  | .await q k, Q, E, g => ∀ r, (k r).wp Q E (observe g ⟨q, r⟩)
  | .read k, Q, E, g => ∀ s, (k s).wp Q E g
  | .write _ k, Q, E, g => k.wp Q E g

variable {observe} {Q Q' : α → G → Prop} {E E' : X → G → Prop} {g : G}

@[simp] theorem wp_ret (a : α) : wp observe (.ret a : Coro D ε σ X α) Q E g ↔ Q a g := .rfl

@[simp] theorem wp_pure (a : α) : wp observe (pure a : Coro D ε σ X α) Q E g ↔ Q a g := .rfl

@[simp] theorem wp_raise (x : X) : wp observe (.raise x : Coro D ε σ X α) Q E g ↔ E x g := .rfl

@[simp] theorem wp_get {Q : σ → G → Prop} :
    wp observe (get : Coro D ε σ X σ) Q E g ↔ ∀ s, Q s g := .rfl

@[simp] theorem wp_modify (f : σ → σ) {Q : Unit → G → Prop} :
    wp observe (modify f : Coro D ε σ X Unit) Q E g ↔ Q () g := .rfl

/-- **Consequence**. -/
theorem wp_mono {p : Coro D ε σ X α} (hQ : ∀ a g, Q a g → Q' a g) (hE : ∀ x g, E x g → E' x g)
    (h : p.wp observe Q E g) : p.wp observe Q' E' g := by
  induction p generalizing g with
  | ret a => exact hQ a g h
  | raise x => exact hE x g h
  | await q k ih => exact fun r => ih r (h r)
  | read k ih => exact fun s => ih s (h s)
  | write f k ih => exact ih h

/-- **Sequence**. -/
@[simp] theorem wp_bind {p : Coro D ε σ X α} {f : α → Coro D ε σ X β} {Q : β → G → Prop} :
    (p >>= f).wp observe Q E g ↔ p.wp observe (fun a g => (f a).wp observe Q E g) E g := by
  change (p.bind f).wp observe Q E g ↔ _
  induction p generalizing g with
  | ret a => exact .rfl
  | raise x => exact .rfl
  | await q k ih => exact forall_congr' fun r => ih r
  | read k ih => exact forall_congr' fun s => ih s
  | write g k ih => exact ih

theorem wp_attempt {p : Coro D ε σ X α} {Q : Except X α → G → Prop} :
    p.attempt.wp observe Q E g ↔
      p.wp observe (fun a => Q (.ok a)) (fun x => Q (.error x)) g := by
  induction p generalizing g with
  | ret a => exact .rfl
  | raise x => exact .rfl
  | await q k ih => exact forall_congr' fun r => ih r
  | read k ih => exact forall_congr' fun s => ih s
  | write g k ih => exact ih

/-- **Handlers**. -/
theorem wp_tryCatch {p : Coro D ε σ X α} {h : X → Coro D ε σ X α} :
    (p.tryCatch h).wp observe Q E g ↔ p.wp observe Q (fun x g => (h x).wp observe Q E g) g :=
  wp_bind.trans wp_attempt

/-- **Clean-up**: it runs on both ways out, and what it raises takes the place of the outcome. -/
theorem wp_tryFinally {p : Coro D ε σ X α} {fin : Coro D ε σ X Unit} :
    (p.tryFinally fin).wp observe Q E g ↔
      p.wp observe (fun a g => fin.wp observe (fun _ g => Q a g) E g)
        (fun x g => fin.wp observe (fun _ g => E x g) E g) g :=
  wp_bind.trans (wp_attempt.trans (by simp only [wp_bind, wp_pure, wp_raise]))

/-- **Calls**. -/
theorem wp_call {raw : ε → X} {q : D.Call} {Q : D.Reply q → G → Prop} :
    (call raw q : Coro D ε σ X _).wp observe Q E g ↔
      (∀ a, Q a (observe g ⟨q, .ok a⟩)) ∧ ∀ e, E (raw e) (observe g ⟨q, .error e⟩) := by
  constructor
  · exact fun h => ⟨fun a => h (.ok a), fun e => h (.error e)⟩
  · rintro ⟨hok, herror⟩ (e | a)
    · exact herror e
    · exact hok a

/-- What is promised of an outcome. -/
def Promised (Q : α → G → Prop) (E : X → G → Prop) (g : G) : Except X α → Prop
  | .ok a => Q a g
  | .error x => E x g

/-- **Adequacy**: what `wp` promises holds whenever the coroutine ends. -/
theorem Ends.of_wp {p : Coro D ε σ X α} {t : List (Answer D ε)} {o : Except X α}
    (h : p.Ends t o) (hp : p.wp observe Q E g) : Promised Q E (t.foldl observe g) o := by
  induction h generalizing g with
  | ret a => exact hp
  | raise x => exact hp
  | await r _ ih => exact ih (hp r)
  | read s _ ih => exact ih (hp s)
  | write _ ih => exact ih hp

end Wp

/-! ### The answers themselves as the ghost state -/

/-- All answers are kept. -/
def log (t : List (Answer D ε)) (a : Answer D ε) : List (Answer D ε) := t ++ [a]

theorem foldl_log (t t' : List (Answer D ε)) : t'.foldl log t = t ++ t' := by
  induction t' generalizing t with
  | nil => rw [List.foldl_nil, List.append_nil]
  | cons a t' ih => rw [List.foldl_cons, ih, log, List.append_assoc, List.singleton_append]

/-- What holds of all answers together holds whenever the coroutine ends. -/
theorem Ends.of_wp_log {p : Coro D ε σ X α} {t : List (Answer D ε)} {o : Except X α}
    {Q : α → List (Answer D ε) → Prop} {E : X → List (Answer D ε) → Prop} (h : p.Ends t o)
    (hp : p.wp log Q E []) : Promised Q E t o := by
  have hend := h.of_wp hp
  rwa [foldl_log, List.nil_append] at hend

/-- A ghost state is what has been made of all answers. -/
theorem wp_of_log {observe : G → Answer D ε → G} {g : G} {p : Coro D ε σ X α}
    {Q : α → G → Prop} {E : X → G → Prop} {t : List (Answer D ε)}
    (h : p.wp log (fun a t => Q a (t.foldl observe g)) (fun x t => E x (t.foldl observe g)) t) :
    p.wp observe Q E (t.foldl observe g) := by
  induction p generalizing t with
  | ret a => exact h
  | raise x => exact h
  | await q k ih =>
    intro r
    have hr := ih r (h r)
    rwa [log, List.foldl_append] at hr
  | read k ih => exact fun s => ih s (h s)
  | write f k ih => exact ih h

end Coro

end OpenframeAdapters.Python
