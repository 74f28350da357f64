import Mathlib.Data.Nat.Notation
import Mathlib.Logic.Function.Basic
import Mathlib.Logic.Relation

/-!
# Cooperative tasks

An event loop runs one task at a time, and changes to another only where the
running one awaits. So what a task does between two awaits is one atomic step on
what the tasks share, and every interleaving of a set of coroutines is a
sequence of such steps.

## The model

* `Resume σ π ε` — the code of the tasks: what task `i` does when it is suspended
  at `p` and the call it awaits ends with the event `e`. It runs to its next await.
* `Loop σ π` — what the tasks share, and where each of them is suspended.
* `Reach resume ok` — the interleavings in which every step is one that `ok`
  admits. `ok` states an assumption about the callers or the environment, or the
  condition under which a property holds.

## What is proved

* `Reach.invariant` — what holds at the start and is kept by a step holds of every
  interleaving.
* `Reach.tasks` — the same for an assertion about each task: the task that runs
  keeps its own, and does not disturb another's (the rule of Owicki and Gries).
* `Reach.pair` — the same for an assertion about two tasks, when no other one moves.
* `Reach.atMostOne` — when a task enters a region only while no task is in it, at
  most one task is in it.
* `reach_of_run` — a schedule that runs is an interleaving.
* `terminates_of_variant` — a number that every step lowers bounds the length of a run.
-/

namespace OpenframeAdapters.Python

variable {σ π ε : Type}

/-- The event loop: what the tasks share, and where each task is suspended. -/
structure Loop (σ π : Type) where
  /-- The objects the tasks share. -/
  shared : σ
  /-- Where each task is suspended. -/
  task : ℕ → π

/-- The code of the tasks, from one await to the next. `none` says that the event
cannot happen there. -/
abbrev Resume (σ π ε : Type) := ℕ → σ → π → ε → Option (σ × π)

/-- The steps admitted: which task may take which event in which state. -/
abbrev Guard (σ π ε : Type) := Loop σ π → ℕ → ε → Prop

/-- Task `i` is resumed with the event `e`. -/
def Loop.step (resume : Resume σ π ε) (l : Loop σ π) (i : ℕ) (e : ε) : Option (Loop σ π) :=
  (resume i l.shared (l.task i) e).map fun r => ⟨r.1, Function.update l.task i r.2⟩

theorem Loop.step_eq_some_iff {resume : Resume σ π ε} {l l' : Loop σ π} {i : ℕ} {e : ε} :
    l.step resume i e = some l' ↔
      ∃ s p, resume i l.shared (l.task i) e = some (s, p) ∧
        l' = ⟨s, Function.update l.task i p⟩ := by
  simp only [Loop.step, Option.map_eq_some_iff, Prod.exists]
  exact ⟨fun ⟨s, p, h, hl⟩ => ⟨s, p, h, hl.symm⟩, fun ⟨s, p, h, hl⟩ => ⟨s, p, h, hl.symm⟩⟩

/-- One admitted step of some task. -/
inductive Next (resume : Resume σ π ε) (ok : Guard σ π ε) : Loop σ π → Loop σ π → Prop
  /-- Task `i` takes the event `e`. -/
  | mk {l l' : Loop σ π} {i : ℕ} {e : ε} :
      ok l i e → l.step resume i e = some l' → Next resume ok l l'

/-- The states the tasks reach by admitted steps, in any order. -/
def Reach (resume : Resume σ π ε) (ok : Guard σ π ε) : Loop σ π → Loop σ π → Prop :=
  Relation.ReflTransGen (Next resume ok)

section Reach

variable {resume : Resume σ π ε} {ok ok' : Guard σ π ε} {l₀ l l' : Loop σ π}

theorem Reach.refl : Reach resume ok l l := Relation.ReflTransGen.refl

theorem Reach.tail (h : Reach resume ok l₀ l) {i : ℕ} {e : ε} (hok : ok l i e)
    (hs : l.step resume i e = some l') : Reach resume ok l₀ l' :=
  Relation.ReflTransGen.tail h (.mk hok hs)

theorem Reach.head {i : ℕ} {e : ε} (hok : ok l₀ i e) (hs : l₀.step resume i e = some l)
    (h : Reach resume ok l l') : Reach resume ok l₀ l' :=
  Relation.ReflTransGen.head (.mk hok hs) h

/-- Interleavings admitted under a stronger assumption are admitted under a weaker one. -/
theorem Reach.mono (himp : ∀ l i e, ok l i e → ok' l i e) (h : Reach resume ok l₀ l) :
    Reach resume ok' l₀ l :=
  Relation.ReflTransGen.mono (fun _ _ ⟨hok, hs⟩ => .mk (himp _ _ _ hok) hs) _ _ h

/-- **Invariants**: what holds at the start and is kept by every admitted step holds of
every state reached. A step may be assumed to start in a state that is reached, so what is
known of those can be used to keep the next invariant. -/
theorem Reach.invariant {I : Loop σ π → Prop} (h : Reach resume ok l₀ l) (h₀ : I l₀)
    (keep : ∀ {l i e s p}, Reach resume ok l₀ l → I l → ok l i e →
      resume i l.shared (l.task i) e = some (s, p) → I ⟨s, Function.update l.task i p⟩) : I l := by
  induction h with
  | refl => exact h₀
  | tail hr hn ih =>
    obtain ⟨hok, hs⟩ := hn
    obtain ⟨s, p, hp, rfl⟩ := Loop.step_eq_some_iff.mp hs
    exact keep hr ih hok hp

/-- **Owicki and Gries**: an assertion about each task holds of every state reached, if the
task that runs establishes its own and does not disturb the others'. -/
theorem Reach.tasks {A : ℕ → σ → π → Prop} (h : Reach resume ok l₀ l)
    (h₀ : ∀ i, A i l₀.shared (l₀.task i))
    (own : ∀ {l i e s p}, Reach resume ok l₀ l → (∀ j, A j l.shared (l.task j)) → ok l i e →
      resume i l.shared (l.task i) e = some (s, p) → A i s p)
    (other : ∀ {l i j e s p}, Reach resume ok l₀ l → (∀ j, A j l.shared (l.task j)) → ok l i e →
      resume i l.shared (l.task i) e = some (s, p) → j ≠ i → A j s (l.task j)) :
    ∀ i, A i l.shared (l.task i) := by
  refine h.invariant (I := fun l => ∀ i, A i l.shared (l.task i)) h₀ ?_
  intro l i e s p hr hA hok hp j
  by_cases hj : j = i
  · subst hj
    simpa using own hr hA hok hp
  · simpa [Function.update_of_ne hj] using other hr hA hok hp hj

/-- **Two tasks**: an assertion about tasks `0` and `1`, when no other task can leave the state
`idle` it starts in. -/
theorem Reach.pair {A : σ → π → π → Prop} {idle : π} (h : Reach resume ok l₀ l)
    (hidle : ∀ i, l₀.task i = idle) (h₀ : A l₀.shared idle idle)
    (rest : ∀ {l i e r}, ok l i e → l.task i = idle → resume i l.shared idle e = some r →
      i = 0 ∨ i = 1)
    (left : ∀ {l e s p}, A l.shared (l.task 0) (l.task 1) → ok l 0 e →
      resume 0 l.shared (l.task 0) e = some (s, p) → A s p (l.task 1))
    (right : ∀ {l e s p}, A l.shared (l.task 0) (l.task 1) → ok l 1 e →
      resume 1 l.shared (l.task 1) e = some (s, p) → A s (l.task 0) p) :
    A l.shared (l.task 0) (l.task 1) ∧ ∀ i, i ≠ 0 → i ≠ 1 → l.task i = idle := by
  refine h.invariant (I := fun l => A l.shared (l.task 0) (l.task 1) ∧
    ∀ i, i ≠ 0 → i ≠ 1 → l.task i = idle) ?_ ?_
  · rw [hidle 0, hidle 1]
    exact ⟨h₀, fun i _ _ => hidle i⟩
  · rintro l i e s p - ⟨hA, hrest⟩ hok hp
    have hi : i = 0 ∨ i = 1 := by
      by_contra hne
      rw [not_or] at hne
      have hti := hrest i hne.1 hne.2
      rw [hti] at hp
      rcases rest hok hti hp with h | h
      · exact hne.1 h
      · exact hne.2 h
    refine ⟨?_, fun j hj₀ hj₁ => ?_⟩
    · rcases hi with rfl | rfl
      · simpa using left hA hok hp
      · simpa using right hA hok hp
    · have hj : j ≠ i := by
        rintro rfl
        exact hi.elim hj₀ hj₁
      simpa [Function.update_of_ne hj] using hrest j hj₀ hj₁

/-- A task that takes a step enters a region only while no task is in it. -/
theorem atMostOne_update {live : π → Prop} {task : ℕ → π} {i : ℕ} {p : π}
    (hone : ∀ a b, live (task a) → live (task b) → a = b)
    (enter : live p → ¬ live (task i) → ∀ j, ¬ live (task j)) :
    ∀ a b, live (Function.update task i p a) → live (Function.update task i p b) → a = b := by
  intro a b ha hb
  by_cases hlive : live (task i)
  · -- `i` was in the region already: nobody else is, and nobody else has moved
    have back : ∀ c, live (Function.update task i p c) → c = i := by
      intro c hc
      by_cases hci : c = i
      · exact hci
      · rw [Function.update_of_ne hci] at hc
        exact hone c i hc hlive
    rw [back a ha, back b hb]
  · by_cases hin : live p
    · -- `i` has just entered: the region was empty
      have none := enter hin hlive
      have back : ∀ c, live (Function.update task i p c) → c = i := by
        intro c hc
        by_contra hci
        rw [Function.update_of_ne hci] at hc
        exact none c hc
      rw [back a ha, back b hb]
    · -- `i` is outside before and after
      have back : ∀ c, live (Function.update task i p c) → live (task c) := by
        intro c hc
        by_cases hci : c = i
        · subst hci; rw [Function.update_self] at hc; exact absurd hc hin
        · rwa [Function.update_of_ne hci] at hc
      exact hone a b (back a ha) (back b hb)

/-- **Mutual exclusion**: if a task enters a region only while no task is in it, then at
most one task is in it. -/
theorem Reach.atMostOne {live : π → Prop} (h : Reach resume ok l₀ l) (h₀ : ∀ i, ¬ live (l₀.task i))
    (enter : ∀ {l i e s p}, Reach resume ok l₀ l → ok l i e →
      resume i l.shared (l.task i) e = some (s, p) → live p → ¬ live (l.task i) →
      ∀ j, ¬ live (l.task j)) :
    ∀ i j, live (l.task i) → live (l.task j) → i = j := by
  refine h.invariant (I := fun l => ∀ i j, live (l.task i) → live (l.task j) → i = j)
    (fun i _ hi => absurd hi (h₀ i)) ?_
  intro l i e s p hr hone hok hp
  exact atMostOne_update hone (enter hr hok hp)

/-- Run a schedule: a list of the tasks resumed, each with its event. -/
def Loop.run (resume : Resume σ π ε) (l : Loop σ π) : List (ℕ × ε) → Option (Loop σ π)
  | [] => some l
  | (i, e) :: rest => (l.step resume i e).bind fun l' => l'.run resume rest

/-- Every step of the schedule is one that `ok` admits. -/
def Admitted (resume : Resume σ π ε) (ok : Guard σ π ε) (l : Loop σ π) : List (ℕ × ε) → Prop
  | [] => True
  | (i, e) :: rest => ok l i e ∧ ∀ l', l.step resume i e = some l' → Admitted resume ok l' rest

theorem admitted_cons {i : ℕ} {e : ε} {es : List (ℕ × ε)} (hok : ok l i e)
    (hs : l.step resume i e = some l') (h : Admitted resume ok l' es) :
    Admitted resume ok l ((i, e) :: es) :=
  ⟨hok, fun _ hl => Option.some.inj (hs.symm.trans hl) ▸ h⟩

/-- A schedule of steps that are admitted in any state. -/
theorem admitted_of_forall {es : List (ℕ × ε)} (h : ∀ ie ∈ es, ∀ l, ok l ie.1 ie.2) :
    Admitted resume ok l es := by
  induction es generalizing l with
  | nil => trivial
  | cons ie rest ih =>
    exact ⟨h ie List.mem_cons_self l, fun _ _ => ih fun x hx => h x (.tail _ hx)⟩

/-- A schedule that runs, with every step admitted, is an interleaving. -/
theorem reach_of_run {es : List (ℕ × ε)} (ha : Admitted resume ok l es)
    (h : l.run resume es = some l') : Reach resume ok l l' := by
  induction es generalizing l with
  | nil =>
    cases h
    exact .refl
  | cons ie rest ih =>
    obtain ⟨i, e⟩ := ie
    obtain ⟨l₁, hs, h⟩ := Option.bind_eq_some_iff.mp h
    exact .head ha.1 hs (ih (ha.2 l₁ hs) h)

/-- Every run from `l` is bounded in length, and none can stop before `done` holds. -/
def Terminates (resume : Resume σ π ε) (ok : Guard σ π ε) (done : Loop σ π → Prop)
    (l : Loop σ π) : Prop :=
  ∃ n, ∀ es l', Admitted resume ok l es → l.run resume es = some l' →
    es.length ≤ n ∧ (done l' ∨ ∃ i e l'', ok l' i e ∧ l'.step resume i e = some l'')

/-- **Variants**: a number that every step lowers, in states from which a step is possible
until `done` holds. -/
theorem terminates_of_variant {I done : Loop σ π → Prop} (rank : Loop σ π → ℕ)
    (down : ∀ {l i e l'}, I l → ok l i e → l.step resume i e = some l' → I l' ∧ rank l' < rank l)
    (go : ∀ {l}, I l → done l ∨ ∃ i e l', ok l i e ∧ l.step resume i e = some l') (h : I l) :
    Terminates resume ok done l := by
  refine ⟨rank l, fun es => ?_⟩
  induction es generalizing l with
  | nil =>
    rintro _ - ⟨⟩
    exact ⟨Nat.zero_le _, go h⟩
  | cons ie rest ih =>
    obtain ⟨i, e⟩ := ie
    intro l' ha hrun
    obtain ⟨l₁, hs, hrun⟩ := Option.bind_eq_some_iff.mp hrun
    obtain ⟨h₁, hlt⟩ := down h ha.1 hs
    obtain ⟨hlen, hgo⟩ := ih h₁ l' (ha.2 l₁ hs) hrun
    exact ⟨Nat.le_trans (Nat.succ_le_succ hlen) hlt, hgo⟩

end Reach

end OpenframeAdapters.Python
