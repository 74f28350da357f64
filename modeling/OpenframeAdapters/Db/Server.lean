import OpenframeAdapters.Db.Repository
import OpenframeAdapters.Python.World

/-!
# Servers

What the repositories do to the data is a statement about an adapter together with its server.
Here connecting always succeeds, and the commands are answered by a `Backend`.

## The model

* `connected` — the server behind an adapter's driver. Any client reaches it.
* `Connects` — a world in which an adapter always has a client, and having one changes nothing.

## What is proved

* `Connects.wpIn_getClient` — `get_*` returns some client.
* `wpIn_tryExcept`, `wpIn_command` — the rules for what the operations are written with.
* `returns_of_wpIn`, `exists_end` — what an operation returns, and that it ends.
-/

namespace OpenframeAdapters.Db

open Python OpenframeAdapters.Core

section Rules

variable {D : Driver} {σ γ α : Type} {W : World D PyExc σ γ} {Q : α → γ → Prop}
  {E : Raised → γ → Prop} {g : γ}

@[simp] theorem wpIn_fail {err : AdapterError} :
    (fail err : Operation D σ α).wpIn W Q E g ↔ E (.adapter err) g := .rfl

@[simp] theorem wpIn_tryExcept {clauses : Clauses Cls AdapterError} {p : Operation D σ α} :
    (tryExcept clauses p).wpIn W Q E g ↔ p.wpIn W Q (fun x g => E (rethrow clauses x) g) g :=
  Coro.wpIn_tryCatch

@[simp] theorem wpIn_eval_ok {a : α} : (eval (.ok a) : Operation D σ α).wpIn W Q E g ↔ Q a g := .rfl

@[simp] theorem wpIn_eval_error {exc : PyExc} :
    (eval (.error exc) : Operation D σ α).wpIn W Q E g ↔ E (.raw exc) g := .rfl

/-- **Blocks** that are entered and left with calls that change nothing. -/
theorem wpIn_block {β : Type} {enter : Operation D σ β} {leave : β → Operation D σ Unit}
    {body : β → Operation D σ α}
    (henter : ∀ P : β → γ → Prop, (∀ b, P b g) → enter.wpIn W P E g)
    (hleave : ∀ b g (P : γ → Prop) (H : Raised → γ → Prop), P g →
      (leave b).wpIn W (fun _ => P) H g)
    (h : ∀ b, (body b).wpIn W Q E g) :
    (enter >>= fun b => Coro.tryFinally (body b) (leave b)).wpIn W Q E g := by
  refine Coro.wpIn_bind.mpr (henter _ fun b => ?_)
  refine Coro.wpIn_tryFinally.mpr (Coro.wpIn_mono (fun a g ha => ?_) (fun x g hx => ?_) (h b))
  · exact hleave b g _ _ ha
  · exact hleave b g _ _ hx

end Rules

variable {S K A σ γ β α : Type} {C : Driver}

/-- The server `B` behind an adapter's driver. -/
def connected (B : Backend C PyExc β) : Backend (connecting A C) PyExc β
  | b, .inl _, r, b' => r.isOk = true ∧ b' = b
  | b, .inr q, r, b' => B b q r b'

/-- A reply to a call that concerns the client. -/
def ConnectCall.reply : (q : ConnectCall A) → q.Reply
  | .construct _ | .connect _ => (0 : ℕ)
  | .probe _ | .close _ => ()

/-- The same server, where all clients have the same number. -/
def connectedTo (f : (q : C.Call) → β → Except PyExc (C.Reply q) × β) :
    (q : (connecting A C).Call) → β → Except PyExc ((connecting A C).Reply q) × β
  | .inl q, b => (.ok q.reply, b)
  | .inr q, b => f q b

/-- An adapter always has a client, and it makes no difference which one. -/
structure Connects (W : World (connecting A C) PyExc σ γ) : Prop where
  /-- The calls that concern the client succeed. -/
  answers : ∀ {g q r g'}, W.answers g (.inl q) r g' → r.isOk = true ∧ g' = g
  /-- Nothing depends on what is cached. -/
  writes : ∀ f g, W.writes f g = g

/-- Every call is answered, if the server answers every command. -/
theorem exists_connected {B : Backend C PyExc β} (hB : ∀ b q, ∃ r b', B b q r b') (b : β)
    (q : (connecting A C).Call) : ∃ r b', connected B b q r b' := by
  cases q with
  | inl q => exact ⟨.ok q.reply, b, rfl, rfl⟩
  | inr q => exact hB b q

theorem connects_connected (B : Backend C PyExc β) :
    Connects (A := A) (connected B).shared (σ := σ) where
  answers h := h
  writes _ _ := rfl

section Connects

variable {W : World (connecting A C) PyExc σ γ} {E : Raised → γ → Prop} {g : γ}

/-- A call that concerns the client returns. -/
theorem Connects.wpIn_connect (h : Connects W) {q : ConnectCall A} {Q : q.Reply → γ → Prop}
    (hQ : ∀ a, Q a g) : (call (D := connecting A C) (.inl q)).wpIn W Q E g := by
  refine Coro.wpIn_call.mpr ⟨fun a g' ha => ?_, fun e g' he => ?_⟩
  · obtain ⟨-, rfl⟩ := h.answers ha
    exact hQ a
  · exact Bool.noConfusion (h.answers he).1

/-- **Clients**: settings that are not refused get one. -/
theorem Connects.wpIn_getClient (h : Connects W) {f : Factory S K A} {settings : S}
    {cached : σ → Option ℕ} {store : ℕ → σ → σ} {Q : ℕ → γ → Prop}
    (hr : f.refuses settings = none) (hQ : ∀ c, Q c g) :
    (f.getClient (C := C) settings cached store).wpIn W Q E g := by
  unfold Factory.getClient
  refine Coro.wpIn_bind.mpr (Coro.wpIn_get.mpr fun s _ => ?_)
  split
  · exact hQ _
  · rw [hr]
    simp only [Coro.wpIn_bind, Coro.wpIn_modify, Coro.wpIn_pure, h.writes]
    unfold Factory.makeClient
    split
    · simp only [Coro.wpIn_bind, Coro.wpIn_pure, wpIn_tryExcept]
      refine h.wpIn_connect fun c => ?_
      exact Coro.wpIn_tryCatch.mpr (h.wpIn_connect fun _ => hQ c)
    · exact wpIn_tryExcept.mpr (h.wpIn_connect hQ)
    · exact wpIn_tryExcept.mpr (h.wpIn_connect hQ)

end Connects

/-- **Commands** to any server. -/
theorem wpIn_command {B : Backend C PyExc β} {q : C.Call} {Q : C.Reply q → β → Prop}
    {E : Raised → β → Prop} {b : β}
    (h : ∀ r b', B b q r b' → Coro.Promised Q (fun exc b => E (.raw exc) b) b' r) :
    (command (A := A) (σ := σ) q).wpIn (connected B).shared Q E b :=
  Coro.wpIn_call.mpr ⟨fun a b' hB => h (.ok a) b' hB, fun exc b' hB => h (.error exc) b' hB⟩

/-- An operation that is promised to return `a`, returns it. -/
theorem returns_of_wpIn [hσ : Nonempty σ] {B : Backend C PyExc β} (hB : ∀ b q, ∃ r b', B b q r b')
    {p : Operation (connecting A C) σ α} {a : α} {b b' : β}
    (h : p.wpIn (connected B).shared (fun a' b₁ => a' = a ∧ b₁ = b') (fun _ _ => False) b) :
    p.Returns (connected B).shared b a b' :=
  Coro.returns_of_wpIn (exists_connected hB) (fun _ => hσ.elim fun s => ⟨s, trivial⟩) h

section Commands

variable {f : (q : C.Call) → β → Except PyExc (C.Reply q) × β} {E : Raised → β → Prop} {b : β}

/-- **Commands** to a server that answers in one way. -/
@[simp] theorem wpIn_command_of {q : C.Call} {Q : C.Reply q → β → Prop} :
    (command (A := A) (σ := σ) q).wpIn (connected (Backend.of f)).shared Q E b ↔
      Coro.Promised Q (fun exc b => E (.raw exc) b) (f q b).2 (f q b).1 := by
  refine Coro.wpIn_call.trans ?_
  constructor
  · rintro ⟨hok, herror⟩
    cases hr : (f q b).1 with
    | ok a => exact hok a _ (Prod.ext hr rfl)
    | error e => exact herror e _ (Prod.ext hr rfl)
  · intro h
    refine ⟨fun a b' ha => ?_, fun e b' he => ?_⟩
    · have hf : f q b = (.ok a, b') := ha
      rwa [hf] at h
    · have hf : f q b = (.error e, b') := he
      rwa [hf] at h

/-- An operation ends, if the server answers in one way. -/
theorem exists_end {σ : Type} [hσ : Nonempty σ] (f : (q : C.Call) → β → Except PyExc (C.Reply q) × β)
    (p : Operation (connecting A C) σ α) (b : β) :
    ∃ o b', p.EndsIn (connected (Backend.of f)).shared b o b' :=
  Coro.exists_endsIn (exists_connected fun _ _ => ⟨_, _, rfl⟩)
    (fun _ => hσ.elim fun s => ⟨s, trivial⟩) p b

end Commands

end OpenframeAdapters.Db
