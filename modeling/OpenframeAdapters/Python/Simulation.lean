import OpenframeAdapters.Python.World

/-!
# Two worlds for one coroutine

A coroutine cannot tell two servers apart, if they answer alike what it asks.

## The model

`Follows` — a coroutine asks nothing but its own calls, as long as the replies fit.

## What is proved

* `follows_bind`, `follows_tryCatch` — the rules of `Follows`.
* `EndsIn.transfer` — such a coroutine ends with the same outcome where all its own calls are
  answered in the same way.
* `EndsIn.invariant` — what its own calls keep, it keeps.
-/

namespace OpenframeAdapters.Python

namespace Coro

variable {D : Driver} {ε σ X α β γ δ : Type}

/-- The coroutine asks its own calls only, as long as the replies fit, and then `Q` holds of what it
returns. -/
def Follows (own : D.Call → Prop) (fits : (q : D.Call) → Except ε (D.Reply q) → Prop) :
    Coro D ε σ X α → (α → Prop) → Prop
  | .ret a, Q => Q a
  | .raise _, _ => True
  | .await q k, Q => own q ∧ ∀ r, fits q r → (k r).Follows own fits Q
  | .read k, Q => ∀ s, (k s).Follows own fits Q
  | .write _ k, Q => k.Follows own fits Q

section Rules

variable {own : D.Call → Prop} {fits : (q : D.Call) → Except ε (D.Reply q) → Prop} {Q : α → Prop}

@[simp] theorem follows_pure (a : α) : (pure a : Coro D ε σ X α).Follows own fits Q ↔ Q a := .rfl

@[simp] theorem follows_raise (x : X) : (.raise x : Coro D ε σ X α).Follows own fits Q := trivial

@[simp] theorem follows_get {Q : σ → Prop} :
    (get : Coro D ε σ X σ).Follows own fits Q ↔ ∀ s, Q s := .rfl

@[simp] theorem follows_modify (f : σ → σ) {Q : Unit → Prop} :
    (modify f : Coro D ε σ X Unit).Follows own fits Q ↔ Q () := .rfl

/-- **Sequence**. -/
@[simp] theorem follows_bind {p : Coro D ε σ X α} {f : α → Coro D ε σ X β} {Q : β → Prop} :
    (p >>= f).Follows own fits Q ↔ p.Follows own fits fun a => (f a).Follows own fits Q := by
  change (p.bind f).Follows own fits Q ↔ _
  induction p with
  | ret a => exact .rfl
  | raise x => exact .rfl
  | await q k ih => exact and_congr_right' (forall_congr' fun r => forall_congr' fun _ => ih r)
  | read k ih => exact forall_congr' ih
  | write g k ih => exact ih

/-- **Handlers**. -/
theorem follows_tryCatch {p : Coro D ε σ X α} {h : X → Coro D ε σ X α}
    (hp : p.Follows own fits Q) (hh : ∀ x, (h x).Follows own fits Q) :
    (p.tryCatch h).Follows own fits Q := by
  refine follows_bind.mpr ?_
  induction p with
  | ret a => exact hp
  | raise x => exact hh x
  | await q k ih => exact ⟨hp.1, fun r hr => ih r (hp.2 r hr)⟩
  | read k ih => exact fun s => ih s (hp s)
  | write g k ih => exact ih hp

/-- **Calls**. -/
theorem follows_call {raw : ε → X} {q : D.Call} {Q : D.Reply q → Prop} (hown : own q)
    (hQ : ∀ a, fits q (.ok a) → Q a) : (call raw q : Coro D ε σ X _).Follows own fits Q := by
  refine ⟨hown, fun r hr => ?_⟩
  cases r with
  | ok a => exact hQ a hr
  | error e => trivial

end Rules

section Transfer

variable {own : D.Call → Prop} {fits : (q : D.Call) → Except ε (D.Reply q) → Prop}
  {B : Backend D ε β} {B' : Backend D ε γ} {Rel : β → γ → Prop} {p : Coro D ε σ X α} {Q : α → Prop}
  {o : Except X α}

/-- **Simulation**: a run where the own calls are answered alike. -/
theorem EndsIn.transfer (hsim : ∀ b c q r b₁, Rel b c → own q → B b q r b₁ →
      fits q r ∧ ∃ c₁, B' c q r c₁ ∧ Rel b₁ c₁) {b b' : β} {c : γ} (h : p.EndsIn B.shared b o b')
    (hp : p.Follows own fits Q) (hrel : Rel b c) : ∃ c', p.EndsIn B'.shared c o c' ∧ Rel b' c' := by
  induction h generalizing c with
  | ret a b => exact ⟨c, .ret a c, hrel⟩
  | raise x b => exact ⟨c, .raise x c, hrel⟩
  | await hB _ ih =>
    obtain ⟨hfits, c₁, hB', hrel₁⟩ := hsim _ _ _ _ _ hrel hp.1 hB
    obtain ⟨c', hend, hrel'⟩ := ih (hp.2 _ hfits) hrel₁
    exact ⟨c', .await (W := B'.shared) hB' hend, hrel'⟩
  | read _ _ ih =>
    obtain ⟨c', hend, hrel'⟩ := ih (hp _) hrel
    exact ⟨c', .read (W := B'.shared) trivial hend, hrel'⟩
  | write _ ih =>
    obtain ⟨c', hend, hrel'⟩ := ih hp hrel
    exact ⟨c', .write hend, hrel'⟩

/-- **Invariants**. -/
theorem EndsIn.invariant {I : β → Prop} (hinv : ∀ b q r b₁, I b → own q → B b q r b₁ →
      fits q r ∧ I b₁) {b b' : β} (h : p.EndsIn B.shared b o b') (hp : p.Follows own fits Q)
    (hI : I b) : I b' := by
  let B' : Backend D ε Unit := fun _ _ _ _ => True
  have hsim : ∀ b c q r b₁, I b → own q → B b q r b₁ → fits q r ∧ ∃ c₁, B' c q r c₁ ∧ I b₁ :=
    fun b c q r b₁ hI hown hB => ⟨(hinv b q r b₁ hI hown hB).1, (), trivial, (hinv b q r b₁ hI hown hB).2⟩
  obtain ⟨-, -, hI'⟩ := EndsIn.transfer (c := ()) hsim h hp hI
  exact hI'

end Transfer

end Coro

end OpenframeAdapters.Python
