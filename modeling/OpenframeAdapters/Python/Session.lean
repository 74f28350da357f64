import OpenframeAdapters.Python.World

/-!
# Sessions

An object with a state answers requests, one after the other. A `Backend` says how, whether it is a
server, or coroutines that talk to one.

## The model

* `Session` — requests with their answers, and the states before and after.
* `served` — the requests are answered by coroutines, which run to their ends.
* `Refines` — every answer of the one object could have been given by the other, as long as their
  states are related.
* `replies` — the answers of a function, one after the other.

## What is proved

* `Refines.session` — a session of the one object is one of the other.
* `Session.invariant` — what every answer keeps, a session keeps.
* `refines_of_wpIn` — one answer, by the rules for coroutines.
* `Session.left` — what remains of a session of two objects, if one of them cannot tell whether the
  other is there.
* `exists_session` — all requests are answered, if each is.
* `Session.eq_replies` — a session of an object that has no choice.
-/

namespace OpenframeAdapters.Python

variable {D R : Driver} {ε X σ β γ : Type}

/-- Requests with their answers, which take the object from the one state to the other. -/
inductive Session (B : Backend D ε β) : β → List (Answer D ε) → β → Prop
  /-- No requests. -/
  | nil (b : β) : Session B b [] b
  /-- One request, and then the others. -/
  | cons {b a b₁ l b'} : B b a.call a.reply b₁ → Session B b₁ l b' → Session B b (a :: l) b'

/-- Each request runs a coroutine to its end. -/
def served (B : Backend D ε β) (code : (q : R.Call) → Coro D ε σ X (R.Reply q)) :
    Backend R X β := fun b q r b' => (code q).EndsIn B.shared b r b'

/-- What the one object answers, the other could have answered. -/
def Refines (valid : D.Call → Prop) (B : Backend D ε β) (S : Backend D ε γ)
    (Rel : β → γ → Prop) : Prop :=
  ∀ b s q r b', Rel b s → valid q → B b q r b' → ∃ s', S s q r s' ∧ Rel b' s'

variable {valid : D.Call → Prop} {B : Backend D ε β} {S : Backend D ε γ} {Rel : β → γ → Prop}

/-- **Sessions**: what holds of one answer holds of all. -/
theorem Refines.session (h : Refines valid B S Rel) {b b' : β} {s : γ} {l : List (Answer D ε)}
    (hl : Session B b l b') (hvalid : ∀ a ∈ l, valid a.call) (hrel : Rel b s) :
    ∃ s', Session S s l s' ∧ Rel b' s' := by
  induction hl generalizing s with
  | nil b => exact ⟨s, .nil s, hrel⟩
  | cons hB _ ih =>
    obtain ⟨s₁, hS, hrel₁⟩ := h _ _ _ _ _ hrel (hvalid _ (List.mem_cons_self ..)) hB
    obtain ⟨s', hs', hrel'⟩ := ih (fun a ha => hvalid a (List.mem_cons_of_mem _ ha)) hrel₁
    exact ⟨s', .cons hS hs', hrel'⟩

/-- **Invariants**: what every answer keeps, a session keeps. -/
theorem Session.invariant {I : β → Prop} (hI : ∀ b q r b', I b → B b q r b' → I b') {b b' : β}
    {l : List (Answer D ε)} (hl : Session B b l b') (hb : I b) : I b' := by
  induction hl with
  | nil b => exact hb
  | cons hB _ ih => exact ih (hI _ _ _ _ hb hB)

/-- **Refinement** by the rules of `wpIn`: each coroutine ends as the other object could have
answered. -/
theorem refines_of_wpIn {B : Backend D ε β} {code : (q : R.Call) → Coro D ε σ X (R.Reply q)}
    {valid : R.Call → Prop} {S : Backend R X γ} (h : ∀ b s q, Rel b s → valid q →
      (code q).wpIn B.shared (fun r b' => ∃ s', S s q (.ok r) s' ∧ Rel b' s')
        (fun x b' => ∃ s', S s q (.error x) s' ∧ Rel b' s') b) :
    Refines valid (served B code) S Rel := by
  intro b s q r b' hrel hq hend
  have hpost := hend.of_wpIn (h b s q hrel hq)
  cases r with
  | ok r => exact hpost
  | error x => exact hpost

/-- A session, as far as `view` shows it, is one of another object: what is shown could have been
answered there, and what is not shown makes no difference. -/
theorem Session.filterMap {E : Driver} {S : Backend E ε γ} {view : Answer D ε → Option (Answer E ε)}
    (hview : ∀ b c a b₁, Rel b c → B b a.call a.reply b₁ →
      match view a with
      | some a' => ∃ c₁, S c a'.call a'.reply c₁ ∧ Rel b₁ c₁
      | none => Rel b₁ c) {b b' : β} {c : γ} {l : List (Answer D ε)} (h : Session B b l b')
    (hrel : Rel b c) : ∃ c', Session S c (l.filterMap view) c' ∧ Rel b' c' := by
  induction h generalizing c with
  | nil b => exact ⟨c, .nil c, hrel⟩
  | @cons b a b₁ l b' hB _ ih =>
    have hstep := hview _ _ _ _ hrel hB
    cases ha : view a with
    | some a' =>
      rw [ha] at hstep
      obtain ⟨c₁, hS, hrel₁⟩ := hstep
      obtain ⟨c', hc', hrel'⟩ := ih hrel₁
      exact ⟨c', by rw [List.filterMap_cons_some ha]; exact .cons hS hc', hrel'⟩
    | none =>
      rw [ha] at hstep
      obtain ⟨c', hc', hrel'⟩ := ih hstep
      exact ⟨c', by rw [List.filterMap_cons_none ha]; exact hc', hrel'⟩

/-! ### Two objects -/

/-- The requests to two objects. -/
abbrev Driver.sum (D E : Driver) : Driver where
  Call := D.Call ⊕ E.Call
  Reply
    | .inl q => D.Reply q
    | .inr q => E.Reply q

/-- Two objects that share their state. -/
def Backend.sum {E : Driver} (B : Backend D ε β) (B' : Backend E ε β) : Backend (D.sum E) ε β
  | b, .inl q, r, b' => B b q r b'
  | b, .inr q, r, b' => B' b q r b'

/-- An answer of the first object. -/
def Answer.left {E : Driver} : Answer (D.sum E) ε → Option (Answer D ε)
  | ⟨.inl q, r⟩ => some ⟨q, r⟩
  | ⟨.inr _, _⟩ => none

/-- What remains of a session without the second object. -/
theorem Session.left {E : Driver} {B' : Backend E ε β} {S : Backend D ε γ}
    (hleft : ∀ b c q r b₁, Rel b c → B b q r b₁ → ∃ c₁, S c q r c₁ ∧ Rel b₁ c₁)
    (hright : ∀ b c q r b₁, Rel b c → B' b q r b₁ → Rel b₁ c) {b b' : β} {c : γ}
    {l : List (Answer (D.sum E) ε)} (h : Session (B.sum B') b l b') (hrel : Rel b c) :
    ∃ c', Session S c (l.filterMap Answer.left) c' ∧ Rel b' c' := by
  refine h.filterMap (fun b c a b₁ hrel hB => ?_) hrel
  obtain ⟨q | q, r⟩ := a
  · exact hleft b c q r b₁ hrel hB
  · exact hright b c q r b₁ hrel hB

/-! ### Existence -/

/-- Any requests are answered, where each single one is. -/
theorem exists_session (hB : ∀ b q, ∃ r b', B b q r b') (qs : List D.Call) (b : β) :
    ∃ l b', Session B b l b' ∧ l.map Answer.call = qs := by
  induction qs generalizing b with
  | nil => exact ⟨[], b, .nil b, rfl⟩
  | cons q qs ih =>
    obtain ⟨r, b₁, hr⟩ := hB b q
    obtain ⟨l, b', hl, hcalls⟩ := ih b₁
    exact ⟨⟨q, r⟩ :: l, b', .cons hr hl, by rw [List.map_cons, hcalls]⟩

/-- The answers of a function, one after the other. -/
def replies (f : (q : D.Call) → β → Except ε (D.Reply q) × β) : β → List D.Call → List (Answer D ε)
  | _, [] => []
  | b, q :: qs => ⟨q, (f q b).1⟩ :: replies f (f q b).2 qs

/-- **No choice**: a session has the answers of the function. -/
theorem Session.eq_replies {f : (q : D.Call) → β → Except ε (D.Reply q) × β}
    (hB : ∀ {b q r b'}, B b q r b' → f q b = (r, b')) {b b' : β} {l : List (Answer D ε)}
    (h : Session B b l b') : l = replies f b (l.map Answer.call) := by
  induction h with
  | nil b => rfl
  | @cons b a b₁ l b' hstep _ ih =>
    have hanswer := hB hstep
    rw [List.map_cons, replies, hanswer, ← ih]

/-- Coroutines answer all requests, where their own calls are answered. -/
theorem exists_served [hσ : Nonempty σ] (hB : ∀ b q, ∃ r b', B b q r b')
    (code : (q : R.Call) → Coro D ε σ X (R.Reply q)) (b : β) (q : R.Call) :
    ∃ r b', served B code b q r b' :=
  Coro.exists_endsIn hB (fun _ => hσ.elim fun s => ⟨s, trivial⟩) (code q) b

end OpenframeAdapters.Python
