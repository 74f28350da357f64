import Mathlib.Data.Nat.Notation
import Mathlib.Logic.Function.Basic

/-!
# Context variables

A `contextvars.ContextVar`, as the task that runs sees it. Setting the variable gives a token, and
resetting it by the token brings back the value from before it was set.

## The model

* `ContextVar` — the value of the variable, and which of its tokens have been used.
* `Among` — what code may do that has no tokens but those it makes: set the variable as often as it
  likes, and reset it or not.

## What is proved

* `reset_of_set` — between `set` and `reset` by its token, code without the token may run: the
  variable comes back to the value from before.
-/

namespace OpenframeAdapters.Python

variable {α : Type}

/-- What `set` gives. -/
structure Token (α : Type) where
  /-- Tokens are numbered. -/
  number : ℕ
  /-- `token.old_value`. -/
  oldValue : α

/-- A context variable. -/
structure ContextVar (α : Type) where
  /-- Its value. -/
  value : α
  /-- How many tokens there are; they are numbered from `0`. -/
  made : ℕ
  /-- The variable has been reset by the token. -/
  used : ℕ → Bool

namespace ContextVar

/-- `token = var.set(x)`. -/
def set (v : ContextVar α) (x : α) : Token α × ContextVar α :=
  (⟨v.made, v.value⟩, ⟨x, v.made + 1, Function.update v.used v.made false⟩)

/-- `var.reset(token)`; a token that has been used is a `RuntimeError`. -/
def reset (v : ContextVar α) (token : Token α) : Option (ContextVar α) :=
  if v.used token.number then none
  else some { v with value := token.oldValue, used := Function.update v.used token.number true }

/-- No token that the variable has in `v` is used on the way to `w`. -/
structure Among (v w : ContextVar α) : Prop where
  /-- Tokens do not go away. -/
  made : v.made ≤ w.made
  /-- The old ones are as they were. -/
  used : ∀ n < v.made, w.used n = v.used n

theorem Among.refl (v : ContextVar α) : Among v v := ⟨Nat.le_refl _, fun _ _ => rfl⟩

theorem Among.trans {u v w : ContextVar α} (h : Among u v) (h' : Among v w) : Among u w := by
  refine ⟨Nat.le_trans h.made h'.made, fun n hn => ?_⟩
  rw [h'.used n (Nat.lt_of_lt_of_le hn h.made), h.used n hn]

/-- Setting the variable uses no token. -/
theorem among_set (v : ContextVar α) (x : α) : Among v (v.set x).2 := by
  refine ⟨Nat.le_succ _, fun n hn => ?_⟩
  have hne : n ≠ v.made := by omega
  simp [set, hne]

/-- **Set and reset**: the variable has its old value again, and no older token has been used. -/
theorem reset_of_set {v w : ContextVar α} {x : α} (h : Among (v.set x).2 w) :
    ∃ u, w.reset (v.set x).1 = some u ∧ u.value = v.value ∧ Among v u := by
  have hunused : w.used v.made = false := by
    rw [h.used v.made (Nat.lt_succ_self _)]
    simp [set]
  refine ⟨{ w with value := v.value, used := Function.update w.used v.made true }, ?_, rfl, ?_, ?_⟩
  · simp [reset, set, hunused]
  · have hmade : v.made + 1 ≤ w.made := h.made
    exact Nat.le_of_succ_le hmade
  · intro n hn
    have hne : n ≠ v.made := by omega
    have hset : (v.set x).2.used n = v.used n := (among_set v x).used n hn
    have hw : w.used n = (v.set x).2.used n := h.used n (Nat.lt_succ_of_lt hn)
    simp [hne, hw, hset]

end ContextVar

end OpenframeAdapters.Python
