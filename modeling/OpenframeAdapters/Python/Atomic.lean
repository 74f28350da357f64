import Mathlib.Data.List.Permutation
import OpenframeAdapters.Python.History
import OpenframeAdapters.Python.Session

/-!
# Requests of many callers

An object answers requests by running coroutines, and many of them run at the same time. If each of
them has a single point, what it does among the others is what it does on its own at that point.

## The model

* `Quiet` — the answers that are no points: they could be given at any time, and change nothing.
* `Coro.HasPoint` — every run of a coroutine has one point.
* `Explained` — whatever the callers do at the same time, there is an order in which another object
  would answer their requests in the same way.

## What is proved

* `Coro.endsIn_of_point` — a run among others, and the same run on its own.
* `explained_of_refines` — requests that have a point can be explained by what they refine when they
  come one at a time.
* `exists_crowd` — callers can come at the same time.
-/

namespace OpenframeAdapters.Python

variable {D R : Driver} {ε σ X α β γ : Type}

/-- Answers that are no points could be given at any time, and change nothing. -/
structure Quiet (B : Backend D ε β) (point : Answer D ε → Bool) : Prop where
  keeps : ∀ {b a b'}, point a = false → B b a.call a.reply b' → b' = b
  anytime : ∀ {b a b'}, point a = false → B b a.call a.reply b' → ∀ b₁, B b₁ a.call a.reply b₁

namespace Coro

/-- Every run has one point. -/
def HasPoint (B : Backend D ε β) (point : Answer D ε → Bool) (p : Coro D ε σ X α) : Prop :=
  p.wpIn (World.points B point) (fun _ g => g.length = 1) (fun _ g => g.length = 1) []

variable {B : Backend D ε β} {point : Answer D ε → Bool} {p : Coro D ε σ X α} {t : List (Answer D ε)}
  {o : Except X α}

theorem HasPoint.exists_point (h : p.HasPoint B point) (hend : p.Ends t o)
    (hpossible : ∀ a ∈ t, ∃ b b', B b a.call a.reply b') : ∃ a, t.filter point = [a] := by
  have hpoints := (endsIn_points point hend hpossible []).of_wpIn h
  rw [List.nil_append] at hpoints
  cases o with
  | ok a => exact List.length_eq_one_iff.mp hpoints
  | error x => exact List.length_eq_one_iff.mp hpoints

/-- Without a point nothing happens. -/
theorem endsIn_of_quiet (hquiet : Quiet B point) (hend : p.Ends t o)
    (hpossible : ∀ a ∈ t, ∃ b b', B b a.call a.reply b') (hpoint : t.filter point = []) (b : β) :
    p.EndsIn B.shared b o b := by
  induction hend with
  | ret a => exact .ret a b
  | raise x => exact .raise x b
  | read s _ ih => exact .read (s := s) trivial (ih hpossible hpoint)
  | write _ ih => exact .write (ih hpossible hpoint)
  | @await q k t o r _ ih =>
    obtain ⟨b₁, b₂, hB⟩ := hpossible ⟨q, r⟩ (List.mem_cons_self ..)
    have hnone : point ⟨q, r⟩ = false := by
      rw [List.filter_eq_nil_iff] at hpoint
      simpa using hpoint ⟨q, r⟩ (List.mem_cons_self ..)
    rw [List.filter_cons_of_neg (by simp [hnone])] at hpoint
    exact .await (W := B.shared) (hquiet.anytime hnone hB b)
      (ih (fun a ha => hpossible a (List.mem_cons_of_mem _ ha)) hpoint)

/-- **A run among others** is one of its own, at its point. -/
theorem endsIn_of_point (hquiet : Quiet B point) (hend : p.Ends t o)
    (hpossible : ∀ a ∈ t, ∃ b b', B b a.call a.reply b') {a : Answer D ε}
    (hpoint : t.filter point = [a]) {b b' : β} (hB : B b a.call a.reply b') :
    p.EndsIn B.shared b o b' := by
  induction hend with
  | ret | raise => cases hpoint
  | read s _ ih => exact .read (s := s) trivial (ih hpossible hpoint)
  | write _ ih => exact .write (ih hpossible hpoint)
  | @await q k t o r hend ih =>
    have hpossible' : ∀ a ∈ t, ∃ b b', B b a.call a.reply b' :=
      fun a ha => hpossible a (List.mem_cons_of_mem _ ha)
    by_cases hp : point ⟨q, r⟩ = true
    · -- the point, and nothing after it
      rw [List.filter_cons_of_pos hp] at hpoint
      obtain ⟨rfl, hrest⟩ := List.cons_eq_cons.mp hpoint
      exact .await (W := B.shared) hB (endsIn_of_quiet hquiet hend hpossible' hrest b')
    · obtain ⟨b₁, b₂, hB₁⟩ := hpossible ⟨q, r⟩ (List.mem_cons_self ..)
      rw [List.filter_cons_of_neg hp] at hpoint
      exact .await (W := B.shared) (hquiet.anytime (Bool.not_eq_true _ ▸ hp) hB₁ b)
        (ih hpossible' hpoint)

end Coro

/-! ### Histories of requests -/

/-- Each call runs the coroutine of its request. -/
def running (code : (q : R.Call) → Coro D ε σ X (R.Reply q)) (request : ℕ → R.Call) (i : ℕ)
    (t : List (Answer D ε)) (a : Answer R X) : Prop :=
  a.call = request i ∧ (code a.call).Ends t a.reply

/-- Each call is answered. -/
def answering (S : Backend R X γ) (request : ℕ → R.Call) (i : ℕ) (s : γ) (a : Answer R X) (s' : γ) :
    Prop :=
  a.call = request i ∧ S s a.call a.reply s'

/-- The calls run at the same time, and take the other end from `b` to `b'`. -/
structure Crowd (code : (q : R.Call) → Coro D ε σ X (R.Reply q)) (B : Backend D ε β)
    (request : ℕ → R.Call) (b : β) (h : List (Event ℕ (Answer D ε) (Answer R X))) (b' : β) : Prop where
  /-- All calls have ended. -/
  complete : Complete (running code request) h
  /-- The other end answers all of them. -/
  along : Along (fun _ b a b' => B b a.call a.reply b') b h b'

/-- Whatever the callers do at the same time, there is an order in which `S` would answer their
requests in the same way. -/
def Explained (valid : R.Call → Prop) (code : (q : R.Call) → Coro D ε σ X (R.Reply q))
    (B : Backend D ε β) (S : Backend R X γ) (b : β) (s : γ) : Prop :=
  ∀ (request : ℕ → R.Call) h b', (∀ i, valid (request i)) → Crowd code B request b h b' →
    ∃ order s', Linearises (answering S request) h s s' order

section Complete

variable {ι M A : Type} [DecidableEq ι] {does : ι → List M → A → Prop} {h : List (Event ι M A)}

/-- A call that has left had been invoked. -/
theorem Complete.invoke_of_leave (hc : Complete does h) {i : ι} {a : A} (ha : .leave i a ∈ h) :
    .invoke i ∈ h := by
  obtain ⟨ms, last, -, hwhole⟩ := hc.whole_of_mem ha
  have hmem : (.invoke i : Event ι M A) ∈ ofCall i h := by
    rw [show ofCall i h = whole i ms last from hwhole]
    exact List.mem_cons_self ..
  exact (mem_ofCall.mp hmem).1

/-- A call leaves once. -/
theorem Complete.leave_inj (hc : Complete does h) {i : ι} {a a' : A} (ha : .leave i a ∈ h)
    (ha' : .leave i a' ∈ h) : a = a' := by
  obtain ⟨ms, last, -, hwhole⟩ := hc.whole_of_mem ha
  have hlast : ∀ {a}, .leave i a ∈ h → a = last := by
    intro a ha
    have hmem : (.leave i a : Event ι M A) ∈ ofCall i h := mem_ofCall.mpr ⟨ha, rfl⟩
    rw [show ofCall i h = whole i ms last from hwhole] at hmem
    simpa [whole] using hmem
  exact (hlast ha).trans (hlast ha').symm

end Complete

/-- **Refinement**, call by call. -/
theorem InTurn.refine {ι M A S S' : Type} {spec : ι → S → A → S → Prop}
    {spec' : ι → S' → A → S' → Prop} {Rel : S → S' → Prop} {h : List (Event ι M A)} {l : List ι}
    {s s₁ : S} {t : S'}
    (hstep : ∀ i s a s₁ t, Rel s t → spec i s a s₁ → ∃ t₁, spec' i t a t₁ ∧ Rel s₁ t₁)
    (hturn : InTurn spec h s l s₁) (hrel : Rel s t) : ∃ t₁, InTurn spec' h t l t₁ ∧ Rel s₁ t₁ := by
  induction hturn generalizing t with
  | nil s => exact ⟨t, .nil t, hrel⟩
  | cons ha hspec _ ih =>
    obtain ⟨t₁, hspec', hrel₁⟩ := hstep _ _ _ _ _ hrel hspec
    obtain ⟨t₂, hturn', hrel₂⟩ := ih hrel₁
    exact ⟨t₂, .cons ha hspec' hturn', hrel₂⟩

/-- **Many callers**: requests that have a point are answered as if they came one at a time. -/
theorem explained_of_refines {valid : R.Call → Prop}
    {code : (q : R.Call) → Coro D ε σ X (R.Reply q)} {B : Backend D ε β} {S : Backend R X γ}
    {Rel : β → γ → Prop} {point : Answer D ε → Bool} {b : β} {s : γ} (hquiet : Quiet B point)
    (hpoint : ∀ q, valid q → (code q).HasPoint B point) (h : Refines valid (served B code) S Rel)
    (hrel : Rel b s) : Explained valid code B S b s := by
  rintro request hist b' hvalid ⟨hc, hrun⟩
  have hlin : Linearises (answering (served B code) request) hist b b'
      (points (fun _ => point) hist) := by
    refine linearises_points (fun _ => point) hc hrun (fun _ _ _ _ hp hB => hquiet.keeps hp hB) ?_
    rintro i t a ⟨hcall, hend⟩ hpossible
    obtain ⟨m, hm⟩ := (hpoint a.call (hcall ▸ hvalid i)).exists_point hend hpossible
    exact ⟨m, hm, fun b b' hB => ⟨hcall, Coro.endsIn_of_point hquiet hend hpossible hm hB⟩⟩
  have hstep : ∀ i b a b₁ s, Rel b s → answering (served B code) request i b a b₁ →
      ∃ s₁, answering S request i s a s₁ ∧ Rel b₁ s₁ := by
    rintro i b a b₁ s hrel ⟨hcall, hend⟩
    obtain ⟨s₁, hS, hrel₁⟩ := h _ _ _ _ _ hrel (hcall ▸ hvalid i) hend
    exact ⟨s₁, ⟨hcall, hS⟩, hrel₁⟩
  obtain ⟨s', hturn, -⟩ := hlin.inTurn.refine hstep hrel
  exact ⟨_, s', hlin.calls, hlin.nodup, hlin.realTime, hturn⟩

/-! ### Two callers, and one after them -/

/-- Calls have left with these answers. -/
def Left {ι M A : Type} (h : List (Event ι M A)) (answers : List (ι × A)) : Prop :=
  ∀ p ∈ answers, .leave p.1 p.2 ∈ h

/-- In turn, the calls have left with the answers of the function. -/
theorem InTurn.left {D : Driver} {M ε S : Type} {f : (q : D.Call) → S → Except ε (D.Reply q) × S}
    {request : ℕ → D.Call} {spec : ℕ → S → Answer D ε → S → Prop}
    {h : List (Event ℕ M (Answer D ε))} {s s' : S} {order : List ℕ}
    (hspec : ∀ {i s a s'}, spec i s a s' → a.call = request i ∧ f a.call s = (a.reply, s'))
    (hturn : InTurn spec h s order s') : Left h (order.zip (replies f s (order.map request))) := by
  induction hturn with
  | nil s => exact nofun
  | @cons i a s s₁ order s' ha hone _ ih =>
    obtain ⟨q, r⟩ := a
    obtain ⟨rfl, hf⟩ := hspec hone
    rw [List.map_cons, replies, hf, List.zip_cons_cons]
    exact List.forall_mem_cons.mpr ⟨ha, ih⟩

/-- Two calls, and a call that begins after them, have one of two orders. -/
theorem Linearises.order_of_two {M A S : Type} {spec : ℕ → S → A → S → Prop}
    {h : List (Event ℕ M A)} {s s' : S} {order : List ℕ} (hlin : Linearises spec h s s' order)
    (hcalls : ∀ i, .invoke i ∈ h ↔ i ∈ [0, 1, 2])
    (hlater : ∀ i ∈ [0, 1], ∀ j ∈ [2], ∃ r, [.leave i r, .invoke j].Sublist h) :
    order = [0, 1, 2] ∨ order = [1, 0, 2] := by
  have hperm : order.Perm [0, 1, 2] := by
    refine (List.perm_ext_iff_of_nodup hlin.nodup (by decide)).mpr fun i => ?_
    exact (hlin.calls i).trans (hcalls i)
  obtain ⟨r, hr⟩ := hlater 0 (by decide) 2 (by decide)
  obtain ⟨r', hr'⟩ := hlater 1 (by decide) 2 (by decide)
  have hfirst := hlin.realTime 0 2 r hr
  have hsecond := hlin.realTime 1 2 r' hr'
  have hall : ∀ l ∈ [0, 1, 2].permutations', [0, 2].Sublist l → [1, 2].Sublist l →
      l = [0, 1, 2] ∨ l = [1, 0, 2] := by decide
  exact hall order (List.mem_permutations'.mpr hperm) hfirst hsecond

/-- **Callers at the same time**, and others after them. -/
theorem exists_crowd {code : (q : R.Call) → Coro D ε σ X (R.Reply q)} {B : Backend D ε β}
    (hserved : ∀ b q, ∃ r b', served B code b q r b') (request : ℕ → R.Call) {calls later : List ℕ}
    (hnodup : (calls ++ later).Nodup) (b : β) : ∃ h b', Crowd code B request b h b' ∧
      calls.map .invoke <+: h ∧ (∀ i, .invoke i ∈ h ↔ i ∈ calls ++ later) ∧
      ∀ i ∈ calls, ∀ j ∈ later, ∃ r, [.leave i r, .invoke j].Sublist h := by
  have hrun : ∀ (i : ℕ) (b : β), True → ∃ t a b', running code request i t a ∧
      Along (fun _ b a b' => B b a.call a.reply b') b
        (t.map (.step i) : List (Event ℕ (Answer D ε) (Answer R X))) b' ∧ True := by
    intro i b _
    obtain ⟨r, b', hend⟩ := hserved b (request i)
    obtain ⟨t, b₁, hends, halong, -⟩ : ∃ t b₁, (code (request i)).Ends t r ∧
        Along (fun _ b (a : Answer D ε) b' => B b a.call a.reply b') b
          (t.map (.step i) : List (Event ℕ (Answer D ε) (Answer R X))) b₁ ∧ b' = b₁ := by
      refine hend.exists_along i (fun b q r b' s hs hB => ⟨b', ?_, rfl⟩) (fun _ _ => rfl) rfl
      subst hs
      exact hB
    exact ⟨t, ⟨request i, r⟩, b₁, ⟨rfl, hends⟩, halong, trivial⟩
  obtain ⟨h, b', hheld, halong, hpre, hlater⟩ := exists_rounds hrun hnodup (s := b) trivial
  exact ⟨h, b', ⟨hheld.complete, halong⟩, hpre, fun i => hheld.invoke_mem_iff, hlater⟩

end OpenframeAdapters.Python
