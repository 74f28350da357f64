import OpenframeAdapters.Python.Coroutine

/-!
# Coroutines in a world

`Coro.wp` leaves it open what the driver answers. Here the driver answers on behalf of something
that has a state of its own, a server for instance, and what a coroutine reads may be tied to
what it has written.

## The model

* `Backend` — how the other end of a driver may answer a call, and what becomes of its state;
  `Backend.of` answers in one way only.
* `World` — everything a coroutine meets: how calls are answered, what a `read` may see, and what
  a `write` does. `Backend.shared` is the world of a coroutine among others, where a `read` sees
  whatever the others have left; in `Backend.alone` it sees what the last `write` has left.
* `EndsIn` — a coroutine ends in a world.
* `exec` — a run with answers that a function gives.
* `wpIn` — what holds before, so that `Q` holds when the coroutine returns and `E` when it raises.
* `Returns` — a coroutine ends in one way only.

## What is proved

* `wpIn_bind`, `wpIn_tryCatch`, `wpIn_tryFinally`, `wpIn_call`, `wpIn_mono` — the rules.
* `EndsIn.of_wpIn` — what `wpIn` promises holds of every end.
* `exists_endsIn` — a coroutine ends, where every call is answered.
-/

namespace OpenframeAdapters.Python

variable {D : Driver} {ε σ X α β γ : Type}

/-- How the other end of a driver may answer a call, in the state before it, and the state after. -/
abbrev Backend (D : Driver) (ε β : Type) := β → (q : D.Call) → Except ε (D.Reply q) → β → Prop

/-- The other end answers in one way only. -/
def Backend.of (f : (q : D.Call) → β → Except ε (D.Reply q) × β) : Backend D ε β :=
  fun b q r b' => f q b = (r, b')

/-- What a coroutine meets. -/
structure World (D : Driver) (ε σ γ : Type) where
  /-- A call is answered. -/
  answers : γ → (q : D.Call) → Except ε (D.Reply q) → γ → Prop
  /-- The shared state is read. -/
  reads : γ → σ → Prop
  /-- The shared state is changed. -/
  writes : (σ → σ) → γ → γ

/-- The coroutine is one of many: what it reads may be anything. -/
def Backend.shared (B : Backend D ε β) : World D ε σ β where
  answers := B
  reads _ _ := True
  writes _ b := b

/-- Nobody else changes what the coroutine reads. -/
def Backend.alone (B : Backend D ε β) : World D ε σ (β × σ) where
  answers g q r g' := B g.1 q r g'.1 ∧ g'.2 = g.2
  reads g s := s = g.2
  writes f g := (g.1, f g.2)

namespace Coro

/-- The coroutine ends with the outcome, and takes the world from the one state to the other. -/
inductive EndsIn (W : World D ε σ γ) : Coro D ε σ X α → γ → Except X α → γ → Prop
  /-- It returns. -/
  | ret (a : α) (g : γ) : EndsIn W (.ret a) g (.ok a) g
  /-- It raises. -/
  | raise (x : X) (g : γ) : EndsIn W (.raise x) g (.error x) g
  /-- A call is answered. -/
  | await {q k r g g₁ o g'} : W.answers g q r g₁ → EndsIn W (k r) g₁ o g' →
    EndsIn W (.await q k) g o g'
  /-- The shared state is read. -/
  | read {k s g o g'} : W.reads g s → EndsIn W (k s) g o g' → EndsIn W (.read k) g o g'
  /-- The shared state is changed. -/
  | write {f k g o g'} : EndsIn W k (W.writes f g) o g' → EndsIn W (.write f k) g o g'

/-- Whatever the world does, `Q` holds when the coroutine returns, and `E` when it raises. -/
def wpIn (W : World D ε σ γ) : Coro D ε σ X α → (α → γ → Prop) → (X → γ → Prop) → γ → Prop
  | .ret a, Q, _, g => Q a g
  | .raise x, _, E, g => E x g
  | .await q k, Q, E, g => ∀ r g', W.answers g q r g' → (k r).wpIn W Q E g'
  | .read k, Q, E, g => ∀ s, W.reads g s → (k s).wpIn W Q E g
  | .write f k, Q, E, g => k.wpIn W Q E (W.writes f g)

variable {W : World D ε σ γ} {Q Q' : α → γ → Prop} {E E' : X → γ → Prop} {g : γ}

@[simp] theorem wpIn_ret (a : α) : wpIn W (.ret a : Coro D ε σ X α) Q E g ↔ Q a g := .rfl

@[simp] theorem wpIn_pure (a : α) : wpIn W (pure a : Coro D ε σ X α) Q E g ↔ Q a g := .rfl

@[simp] theorem wpIn_raise (x : X) : wpIn W (.raise x : Coro D ε σ X α) Q E g ↔ E x g := .rfl

@[simp] theorem wpIn_get {Q : σ → γ → Prop} :
    wpIn W (get : Coro D ε σ X σ) Q E g ↔ ∀ s, W.reads g s → Q s g := .rfl

@[simp] theorem wpIn_modify (f : σ → σ) {Q : Unit → γ → Prop} :
    wpIn W (modify f : Coro D ε σ X Unit) Q E g ↔ Q () (W.writes f g) := .rfl

/-- **Consequence**. -/
theorem wpIn_mono {p : Coro D ε σ X α} (hQ : ∀ a g, Q a g → Q' a g) (hE : ∀ x g, E x g → E' x g)
    (h : p.wpIn W Q E g) : p.wpIn W Q' E' g := by
  induction p generalizing g with
  | ret a => exact hQ a g h
  | raise x => exact hE x g h
  | await q k ih => exact fun r g' hr => ih r (h r g' hr)
  | read k ih => exact fun s hs => ih s (h s hs)
  | write f k ih => exact ih h

/-- Nothing is promised of the end. -/
theorem wpIn_of_forall {p : Coro D ε σ X α} (hQ : ∀ a g, Q a g) (hE : ∀ x g, E x g) : p.wpIn W Q E g := by
  induction p generalizing g with
  | ret a => exact hQ a g
  | raise x => exact hE x g
  | await q k ih => exact fun r g' _ => ih r
  | read k ih => exact fun s _ => ih s
  | write f k ih => exact ih

theorem wpIn_congr {p : Coro D ε σ X α} (hQ : ∀ a g, Q a g ↔ Q' a g) (hE : ∀ x g, E x g ↔ E' x g) :
    p.wpIn W Q E g ↔ p.wpIn W Q' E' g := by
  constructor
  · exact wpIn_mono (fun a g => (hQ a g).mp) (fun x g => (hE x g).mp)
  · exact wpIn_mono (fun a g => (hQ a g).mpr) (fun x g => (hE x g).mpr)

/-- **Sequence**. -/
@[simp] theorem wpIn_bind {p : Coro D ε σ X α} {f : α → Coro D ε σ X β} {Q : β → γ → Prop} :
    (p >>= f).wpIn W Q E g ↔ p.wpIn W (fun a g => (f a).wpIn W Q E g) E g := by
  change (p.bind f).wpIn W Q E g ↔ _
  induction p generalizing g with
  | ret a => exact .rfl
  | raise x => exact .rfl
  | await q k ih => exact forall_congr' fun r => forall_congr' fun g' => forall_congr' fun _ => ih r
  | read k ih => exact forall_congr' fun s => forall_congr' fun _ => ih s
  | write f k ih => exact ih

theorem wpIn_attempt {p : Coro D ε σ X α} {Q : Except X α → γ → Prop} :
    p.attempt.wpIn W Q E g ↔ p.wpIn W (fun a => Q (.ok a)) (fun x => Q (.error x)) g := by
  induction p generalizing g with
  | ret a => exact .rfl
  | raise x => exact .rfl
  | await q k ih => exact forall_congr' fun r => forall_congr' fun g' => forall_congr' fun _ => ih r
  | read k ih => exact forall_congr' fun s => forall_congr' fun _ => ih s
  | write f k ih => exact ih

/-- **Handlers**. -/
theorem wpIn_tryCatch {p : Coro D ε σ X α} {h : X → Coro D ε σ X α} :
    (p.tryCatch h).wpIn W Q E g ↔ p.wpIn W Q (fun x g => (h x).wpIn W Q E g) g :=
  wpIn_bind.trans wpIn_attempt

/-- **Clean-up**. -/
theorem wpIn_tryFinally {p : Coro D ε σ X α} {fin : Coro D ε σ X Unit} :
    (p.tryFinally fin).wpIn W Q E g ↔
      p.wpIn W (fun a g => fin.wpIn W (fun _ g => Q a g) E g)
        (fun x g => fin.wpIn W (fun _ g => E x g) E g) g :=
  wpIn_bind.trans (wpIn_attempt.trans (by simp only [wpIn_bind, wpIn_pure, wpIn_raise]))

/-- **Calls**. -/
theorem wpIn_call {raw : ε → X} {q : D.Call} {Q : D.Reply q → γ → Prop} :
    (call raw q : Coro D ε σ X _).wpIn W Q E g ↔
      (∀ a g', W.answers g q (.ok a) g' → Q a g') ∧
        ∀ e g', W.answers g q (.error e) g' → E (raw e) g' := by
  constructor
  · exact fun h => ⟨fun a => h (.ok a), fun e => h (.error e)⟩
  · rintro ⟨hok, herror⟩ (e | a)
    · exact herror e
    · exact hok a

/-- **Adequacy**: what `wpIn` promises holds whenever the coroutine ends. -/
theorem EndsIn.of_wpIn {p : Coro D ε σ X α} {o : Except X α} {g' : γ} (h : p.EndsIn W g o g')
    (hp : p.wpIn W Q E g) : Promised Q E g' o := by
  induction h with
  | ret a g => exact hp
  | raise x g => exact hp
  | await hr _ ih => exact ih (hp _ _ hr)
  | read hs _ ih => exact ih (hp _ hs)
  | write _ ih => exact ih hp

/-- What `wpIn` promises of both ends holds of the end. -/
theorem EndsIn.always {I : γ → Prop} {p : Coro D ε σ X α} {o : Except X α} {g' : γ}
    (h : p.EndsIn W g o g') (hp : p.wpIn W (fun _ => I) (fun _ => I) g) : I g' := by
  have hpromised := h.of_wpIn hp
  cases o with
  | ok a => exact hpromised
  | error x => exact hpromised

/-- What `wpIn` promises may be the outcome itself. -/
theorem EndsIn.eq_of_wpIn {I : γ → Prop} {p : Coro D ε σ X α} {o o' : Except X α} {g' : γ}
    (h : p.EndsIn W g o g') (hp : p.wpIn W (fun a g' => o' = .ok a ∧ I g')
      (fun x g' => o' = .error x ∧ I g') g) : o = o' ∧ I g' := by
  have hpromised := h.of_wpIn hp
  cases o with
  | ok a => exact hpromised.imp_left Eq.symm
  | error x => exact hpromised.imp_left Eq.symm

/-- What happens in one world may happen in another that allows more. -/
theorem EndsIn.mono {W' : World D ε σ γ} {p : Coro D ε σ X α} {o : Except X α} {g' : γ}
    (h : p.EndsIn W g o g') (hanswers : ∀ g q r g', W.answers g q r g' → W'.answers g q r g')
    (hreads : ∀ g s, W.reads g s → W'.reads g s) (hwrites : W.writes = W'.writes) :
    p.EndsIn W' g o g' := by
  induction h with
  | ret a g => exact .ret a g
  | raise x g => exact .raise x g
  | await hr _ ih => exact .await (hanswers _ _ _ _ hr) ih
  | read hs _ ih => exact .read (hreads _ _ hs) ih
  | write _ ih => exact .write (hwrites ▸ ih)

/-- A coroutine ends where every call is answered and there is always something to read. -/
theorem exists_endsIn (hcall : ∀ g q, ∃ r g', W.answers g q r g') (hread : ∀ g, ∃ s, W.reads g s)
    (p : Coro D ε σ X α) (g : γ) : ∃ o g', p.EndsIn W g o g' := by
  induction p generalizing g with
  | ret a => exact ⟨_, _, .ret a g⟩
  | raise x => exact ⟨_, _, .raise x g⟩
  | await q k ih =>
    obtain ⟨r, g₁, hr⟩ := hcall g q
    obtain ⟨o, g', h⟩ := ih r g₁
    exact ⟨o, g', .await hr h⟩
  | read k ih =>
    obtain ⟨s, hs⟩ := hread g
    obtain ⟨o, g', h⟩ := ih s g
    exact ⟨o, g', .read hs h⟩
  | write f k ih =>
    obtain ⟨o, g', h⟩ := ih (W.writes f g)
    exact ⟨o, g', .write h⟩

/-! ### A state of its own -/

section Alone

variable {B : Backend D ε β}

@[simp] theorem writes_alone (f : σ → σ) (b : β) (s : σ) : B.alone.writes f (b, s) = (b, f s) := rfl

/-- What a state is, that is not shared, is known. -/
@[simp] theorem wpIn_get_alone {Q : σ → β × σ → Prop} {E : X → β × σ → Prop} {g : β × σ} :
    wpIn B.alone (get : Coro D ε σ X σ) Q E g ↔ Q g.2 g := by
  constructor
  · exact fun h => h g.2 rfl
  · rintro h _ rfl
    exact h

end Alone

/-! ### A part of the state -/

/-- **A coroutine on a part** of what the coroutine around it reads and writes. -/
theorem wpIn_zoom {τ : Type} {part : τ → σ} {put : σ → τ → τ} (hpart : ∀ s t, part (put s t) = s)
    (hput : ∀ t, put (part t) t = t) (hputs : ∀ s s' t, put s (put s' t) = put s t)
    {B : Backend D ε β} {p : Coro D ε σ X α} {Q : α → β × τ → Prop} {E : X → β × τ → Prop} {b : β}
    {t : τ} : (p.zoom part put).wpIn B.alone Q E (b, t) ↔
      p.wpIn B.alone (fun a g => Q a (g.1, put g.2 t)) (fun x g => E x (g.1, put g.2 t))
        (b, part t) := by
  induction p generalizing b t with
  | ret a =>
    change Q a (b, t) ↔ Q a (b, put (part t) t)
    rw [hput]
  | raise x =>
    change E x (b, t) ↔ E x (b, put (part t) t)
    rw [hput]
  | await q k ih =>
    constructor
    · rintro h r ⟨b', s⟩ ⟨hr, rfl⟩
      exact (ih r).mp (h r (b', t) ⟨hr, rfl⟩)
    · rintro h r ⟨b', t'⟩ ⟨hr, rfl⟩
      exact (ih r).mpr (h r (b', _) ⟨hr, rfl⟩)
  | read k ih =>
    constructor
    · rintro h s rfl
      exact (ih _).mp (h t rfl)
    · rintro h t' rfl
      exact (ih _).mpr (h _ rfl)
  | write f k ih =>
    refine ih.trans ?_
    rw [hpart]
    simp only [hputs]
    exact .rfl

/-! ### One outcome -/

/-- The coroutine ends, and whenever it does, it has returned `a` and left the world in `g'`. -/
def Returns (W : World D ε σ γ) (p : Coro D ε σ X α) (g : γ) (a : α) (g' : γ) : Prop :=
  (∃ o g₁, p.EndsIn W g o g₁) ∧ ∀ o g₁, p.EndsIn W g o g₁ → o = .ok a ∧ g₁ = g'

/-- What is promised to end in one way, ends so. -/
theorem EndsIn.returned {p : Coro D ε σ X α} {a : α} {o : Except X α} {g₁ g' : γ}
    (hend : p.EndsIn W g o g₁) (h : p.wpIn W (fun b g₁ => b = a ∧ g₁ = g') (fun _ _ => False) g) :
    o = .ok a ∧ g₁ = g' := by
  have hpromised := hend.of_wpIn h
  cases o with
  | ok b => exact ⟨congrArg Except.ok hpromised.1, hpromised.2⟩
  | error x => exact hpromised.elim

/-- A coroutine that is promised to return `a`, returns it. -/
theorem returns_of_wpIn {p : Coro D ε σ X α} {a : α} {g' : γ}
    (hcall : ∀ g q, ∃ r g', W.answers g q r g') (hread : ∀ g, ∃ s, W.reads g s)
    (h : p.wpIn W (fun b g₁ => b = a ∧ g₁ = g') (fun _ _ => False) g) : p.Returns W g a g' := by
  exact ⟨exists_endsIn hcall hread p g, fun o g₁ hend => hend.returned h⟩

theorem Returns.endsIn {p : Coro D ε σ X α} {a : α} {g' : γ} (h : p.Returns W g a g') :
    p.EndsIn W g (.ok a) g' := by
  obtain ⟨⟨o, g₁, hend⟩, hall⟩ := h
  obtain ⟨rfl, rfl⟩ := hall o g₁ hend
  exact hend

/-- There is only one outcome. -/
theorem Returns.unique {p : Coro D ε σ X α} {a a' : α} {g₁ g₂ : γ} (h : p.Returns W g a g₁)
    (h' : p.Returns W g a' g₂) : a = a' ∧ g₁ = g₂ := by
  obtain ⟨hok, rfl⟩ := h'.2 _ _ h.endsIn
  exact ⟨Except.ok.inj hok, rfl⟩

theorem Returns.iff_eq {p : Coro D ε σ X α} {a a' : α} {g' : γ} (h : p.Returns W g a g') :
    p.Returns W g a' g' ↔ a = a' := by
  constructor
  · exact fun h' => (h.unique h').1
  · rintro rfl
    exact h

/-! ### Executing -/

section Exec

variable (f : (q : D.Call) → β → Except ε (D.Reply q) × β) (s : σ)

/-- A run of a coroutine: every call is answered by the function, and every read sees `s`. It gives
the answers, the outcome and the state of the other end. -/
def exec : Coro D ε σ X α → β → List (Answer D ε) × Except X α × β
  | .ret a, b => ([], .ok a, b)
  | .raise x, b => ([], .error x, b)
  | .await q k, b =>
    let (t, r) := (k (f q b).1).exec (f q b).2
    (⟨q, (f q b).1⟩ :: t, r)
  | .read k, b => (k s).exec b
  | .write _ k, b => k.exec b

/-- The coroutine ends as it has been executed. -/
theorem ends_exec (p : Coro D ε σ X α) (b : β) : p.Ends (p.exec f s b).1 (p.exec f s b).2.1 := by
  induction p generalizing b with
  | ret a => exact .ret a
  | raise x => exact .raise x
  | await q k ih => exact .await _ (ih _ _)
  | read k ih => exact .read s (ih s b)
  | write g k ih => exact .write (ih b)

end Exec

end Coro

end OpenframeAdapters.Python
