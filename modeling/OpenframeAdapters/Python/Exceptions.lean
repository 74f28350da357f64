import Mathlib.Data.List.Basic
import Mathlib.Data.Nat.Notation

/-!
# Python exceptions

An `except` clause tests an exception with `isinstance` against named classes,
and a subclass of a named class that nobody has named yet passes the test as
well. So an exception is represented by the answers it gives: the set of named
classes it is an instance of, closed under the bases those classes are declared
with. Every subclass of the named classes, with single or multiple inheritance,
is one of these sets, and every set stands for some subclass. Some clauses go on to
read the error number or the text of the exception.

## The model

* `ExcClasses κ` — a finite naming `κ` of classes, each with its declared bases.
* `Exc κ` — an exception: the classes it is an instance of. The closure under
  bases is a field, so an exception that is a `ConnectionError` but not an
  `OSError` cannot be built.
* `Clauses` and `dispatch` — the `except` clauses of one `try`, tried in the
  order they are written; `none` means that the exception leaves the `try`.
-/

namespace OpenframeAdapters.Python

/-- A naming of exception classes, each with the bases it is declared with. -/
class ExcClasses (κ : Type) where
  /-- The declared bases of a class. -/
  bases : κ → List κ

/-- An exception: what `isinstance` sees, and the attributes that `except` clauses read. -/
structure Exc (κ : Type) [ExcClasses κ] where
  /-- `isinstance(exc, a)`. -/
  isa : κ → Bool
  /-- An instance of a class is an instance of the bases of that class. -/
  up : ∀ {a b : κ}, b ∈ ExcClasses.bases a → isa a = true → isa b = true
  /-- The status or error number that the driver puts in it, if any. -/
  code : Option ℕ := none
  /-- `str(exc)`, which begins with the driver's own error code where it has one. -/
  text : String := ""

section Exc

variable {κ : Type} [ExcClasses κ]

/-- `isinstance(exc, (a, b, …))`. -/
def Exc.isAny (e : Exc κ) (cs : List κ) : Bool := cs.any e.isa

@[simp] theorem Exc.isAny_nil (e : Exc κ) : e.isAny [] = false := rfl

@[simp] theorem Exc.isAny_cons (e : Exc κ) (a : κ) (cs : List κ) :
    e.isAny (a :: cs) = (e.isa a || e.isAny cs) := rfl

/-- The exception that is an instance of exactly the listed classes. -/
def Exc.of [DecidableEq κ] (cs : List κ) (h : ∀ a ∈ cs, ∀ b ∈ ExcClasses.bases a, b ∈ cs) :
    Exc κ where
  isa a := decide (a ∈ cs)
  up := by
    intro a b hb ha
    exact decide_eq_true (h a (of_decide_eq_true ha) b hb)

/-- The `except` clauses of a `try`: the tuple each one names, and what its body
raises or returns. -/
abbrev Clauses (κ : Type) [ExcClasses κ] (β : Type) := List (List κ × (Exc κ → β))

/-- The first clause that names a class of the exception handles it. -/
def dispatch {β : Type} (cs : Clauses κ β) (e : Exc κ) : Option β :=
  match cs with
  | [] => none
  | (names, body) :: rest => if e.isAny names then some (body e) else dispatch rest e

@[simp] theorem dispatch_nil {β : Type} (e : Exc κ) : dispatch ([] : Clauses κ β) e = none := rfl

theorem dispatch_cons {β : Type} (names : List κ) (body : Exc κ → β) (rest : Clauses κ β)
    (e : Exc κ) :
    dispatch ((names, body) :: rest) e = if e.isAny names then some (body e) else dispatch rest e :=
  rfl

/-- The names of all clauses together decide whether the exception is caught. -/
theorem dispatch_isSome_iff {β : Type} {cs : Clauses κ β} {e : Exc κ} :
    (dispatch cs e).isSome = true ↔ e.isAny (cs.flatMap Prod.fst) = true := by
  induction cs with
  | nil => simp
  | cons c rest ih =>
    obtain ⟨names, body⟩ := c
    rw [dispatch_cons]
    simp only [Exc.isAny] at ih ⊢
    split_ifs with h
    · simp [h]
    · simp [ih, h]

end Exc

end OpenframeAdapters.Python
