import OpenframeAdapters.Python.World

/-!
# While loops

A `while True` need not end, and a coroutine always does. So the loop takes fuel, and what is to be
shown of it includes that the fuel has been enough.

## The model

* `whileTrue` — the loop: a round goes on with a new state, or breaks with a value.

## What is proved

* `wpIn_whileTrue` — total correctness: an invariant with a number that every round lowers.
-/

namespace OpenframeAdapters.Python.Coro

variable {D : Driver} {ε σ X S α γ : Type}

/-- `while True: …`, for as many rounds as there is fuel. It gives `none` if there has been no
`break` by then. -/
def whileTrue (body : S → Coro D ε σ X (S ⊕ α)) : ℕ → S → Coro D ε σ X (Option α)
  | 0, _ => .ret none
  | fuel + 1, s => body s >>= fun
    | .inl s' => whileTrue body fuel s'
    | .inr a => .ret (some a)

/-- What holds after a round: either it breaks with a value that `Q` holds of, or it keeps the
invariant and has fewer rounds to go. -/
def Round (I : ℕ → S → γ → Prop) (Q : α → γ → Prop) (n : ℕ) : S ⊕ α → γ → Prop
  | .inl s, g => ∃ m < n, I m s g
  | .inr a, g => Q a g

/-- **Loops**: with more fuel than there are rounds to go, the loop breaks. -/
theorem wpIn_whileTrue {W : World D ε σ γ} {body : S → Coro D ε σ X (S ⊕ α)}
    {I : ℕ → S → γ → Prop} {Q : α → γ → Prop} {E : X → γ → Prop}
    (hbody : ∀ n s g, I n s g → (body s).wpIn W (Round I Q n) E g) {fuel n : ℕ} (hn : n < fuel)
    {s : S} {g : γ} (h : I n s g) :
    (whileTrue body fuel s).wpIn W (fun o g => ∃ a, o = some a ∧ Q a g) E g := by
  induction fuel generalizing n s g with
  | zero => omega
  | succ fuel ih =>
    refine wpIn_bind.mpr (wpIn_mono ?_ (fun _ _ hx => hx) (hbody n s g h))
    rintro (s' | a) g' hr
    · obtain ⟨m, hm, hI⟩ := hr
      exact ih (by omega) hI
    · exact ⟨a, rfl, hr⟩

end OpenframeAdapters.Python.Coro
