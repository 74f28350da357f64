import Mathlib.Data.List.Nodup
import OpenframeAdapters.Python.World

/-!
# Concurrent calls, one after the other

Calls that run at the same time share something with a state of its own, a table for instance, and
each of them takes several steps on it. They are *linearisable* if they could as well have run one
after the other, in an order that real time allows.

## The model

* `Event` — a call is invoked, takes a step, or leaves with its result.
* `Complete` — in a history, every call that occurs does what its program allows, from the
  invocation to the result. The events of different calls may be interleaved in any way. In a history
  that is `Underway`, calls need not have ended.
* `Along` — what the steps of a history do to the state.
* `Linearises` — an order of the calls explains a history: it keeps them apart that were apart in
  time, and in this order they give the same results and the same state.

## What is proved

* `linearises_points` — if every call has one step that does all of its work at once, then the order
  of these steps explains the history.
* `linearisable_of_points` — the same for coroutines, with the steps taken in a world that keeps
  nothing but these points.
* `exists_rounds` — calls can run at the same time, and others after them.
-/

namespace OpenframeAdapters.Python

/-- What happens to a call. -/
inductive Event (ι M R : Type) where
  /-- The call begins. -/
  | invoke (i : ι)
  /-- It takes a step. -/
  | step (i : ι) (m : M)
  /-- It ends. -/
  | leave (i : ι) (r : R)

variable {ι M R S : Type}

/-- The call. -/
def Event.call : Event ι M R → ι
  | .invoke i | .step i _ | .leave i _ => i

/-- The events of one call. -/
def ofCall [DecidableEq ι] (i : ι) (h : List (Event ι M R)) : List (Event ι M R) :=
  h.filter fun e => e.call = i

/-- The events of a call from its invocation to its result. -/
def whole (i : ι) (ms : List M) (r : R) : List (Event ι M R) :=
  .invoke i :: (ms.map (.step i) ++ [.leave i r])

/-- Every call that occurs has taken the steps of one of its runs. -/
def Complete [DecidableEq ι] (does : ι → List M → R → Prop) (h : List (Event ι M R)) : Prop :=
  ∀ i, ofCall i h = [] ∨ ∃ ms r, does i ms r ∧ ofCall i h = whole i ms r

/-- Every call that occurs has begun one of its runs. -/
def Underway [DecidableEq ι] (does : ι → List M → R → Prop) (h : List (Event ι M R)) : Prop :=
  ∀ i, ofCall i h = [] ∨ ∃ ms r, does i ms r ∧ ofCall i h <+: whole i ms r

/-- The steps of a history take the one state to the other. -/
inductive Along (effect : ι → S → M → S → Prop) : S → List (Event ι M R) → S → Prop
  /-- Nothing happens. -/
  | nil (s : S) : Along effect s [] s
  /-- A call begins. -/
  | invoke {i s h s'} : Along effect s h s' → Along effect s (.invoke i :: h) s'
  /-- A call takes a step. -/
  | step {i m s s₁ h s'} : effect i s m s₁ → Along effect s₁ h s' →
    Along effect s (.step i m :: h) s'
  /-- A call ends. -/
  | leave {i r s h s'} : Along effect s h s' → Along effect s (.leave i r :: h) s'

/-- The calls take effect one after the other, each with the result that it has in `h`. -/
inductive InTurn (spec : ι → S → R → S → Prop) (h : List (Event ι M R)) : S → List ι → S → Prop
  /-- No calls. -/
  | nil (s : S) : InTurn spec h s [] s
  /-- One call, and then the others. -/
  | cons {i r s s₁ l s'} : .leave i r ∈ h → spec i s r s₁ → InTurn spec h s₁ l s' →
    InTurn spec h s (i :: l) s'

/-- The order explains the history. -/
structure Linearises (spec : ι → S → R → S → Prop) (h : List (Event ι M R)) (s s' : S)
    (order : List ι) : Prop where
  /-- It has the calls of the history. -/
  calls : ∀ i, i ∈ order ↔ .invoke i ∈ h
  /-- It has each of them once. -/
  nodup : order.Nodup
  /-- A call that has ended before another begins comes before it. -/
  realTime : ∀ i j r, [.leave i r, .invoke j].Sublist h → [i, j].Sublist order
  /-- In this order the calls give the results and the state of the history. -/
  inTurn : InTurn spec h s order s'

/-! ### Calls that are underway -/

section Underway

variable [DecidableEq ι] {does : ι → List M → R → Prop} {h : List (Event ι M R)}

@[simp] theorem ofCall_cons (i : ι) (e : Event ι M R) (h : List (Event ι M R)) :
    ofCall i (e :: h) = if e.call = i then e :: ofCall i h else ofCall i h := by
  simp [ofCall, List.filter_cons]

theorem mem_ofCall {i : ι} {e : Event ι M R} : e ∈ ofCall i h ↔ e ∈ h ∧ e.call = i := by
  simp [ofCall]

/-- A call that has left has taken all its steps. -/
theorem Underway.whole_of_leave (hu : Underway does h) {i : ι} {r : R} (hi : .leave i r ∈ h) :
    ∃ ms, does i ms r ∧ ofCall i h = whole i ms r := by
  have hmem : (.leave i r : Event ι M R) ∈ ofCall i h := mem_ofCall.mpr ⟨hi, rfl⟩
  rcases hu i with hnil | ⟨ms, r', hdoes, hpre⟩
  · rw [hnil] at hmem
    cases hmem
  · rw [whole, ← List.cons_append, List.prefix_concat_iff] at hpre
    rcases hpre with hwhole | hpre
    · have hr : r = r' := by simpa [hwhole] using hmem
      subst hr
      exact ⟨ms, hdoes, hwhole⟩
    · -- the result comes last
      have hstep := hpre.subset hmem
      simp at hstep

/-- The step of the call, if the event is one. -/
def stepOf (i : ι) : Event ι M R → Option M
  | .step j m => if j = i then some m else none
  | .invoke _ | .leave _ _ => none

/-- The steps of one call. -/
def stepsOf (i : ι) (h : List (Event ι M R)) : List M := h.filterMap (stepOf i)

@[simp] theorem stepsOf_step (i j : ι) (m : M) (h : List (Event ι M R)) :
    stepsOf i (.step j m :: h) = if j = i then m :: stepsOf i h else stepsOf i h := by
  rw [stepsOf, List.filterMap_cons, stepOf]
  split_ifs <;> rfl

theorem mem_stepsOf {i : ι} {m : M} : m ∈ stepsOf i h ↔ .step i m ∈ h := by
  induction h with
  | nil => simp [stepsOf]
  | cons e h ih =>
    cases e with
    | invoke j => exact ih.trans (by simp)
    | leave j r => exact ih.trans (by simp)
    | step j n =>
      rw [stepsOf_step]
      split_ifs with hj
      · simp [ih, hj]
      · simp [ih, Ne.symm hj]

theorem stepsOf_ofCall (i : ι) (h : List (Event ι M R)) : stepsOf i (ofCall i h) = stepsOf i h := by
  rw [stepsOf, ofCall, List.filterMap_filter]
  refine List.filterMap_congr fun e _ => ?_
  cases e with
  | invoke j => exact ite_self _
  | leave j r => exact ite_self _
  | step j m =>
    by_cases hj : j = i
    · simp [Event.call, stepOf, hj]
    · simp [Event.call, stepOf, hj]

theorem stepsOf_whole (i : ι) (ms : List M) (r : R) : stepsOf i (whole i ms r) = ms := by
  have hlast : stepsOf i [(.leave i r : Event ι M R)] = [] := rfl
  have hmap : ∀ ms : List M, stepsOf i (ms.map (.step i) ++ [(.leave i r : Event ι M R)]) = ms := by
    intro ms
    induction ms with
    | nil => exact hlast
    | cons m ms ih => rw [List.map_cons, List.cons_append, stepsOf_step, if_pos rfl, ih]
  exact hmap ms

/-- The steps of a call are the beginning of one of its runs. -/
theorem Underway.begins (hu : Underway does h) (i : ι) :
    stepsOf i h = [] ∨ ∃ ms r, does i ms r ∧ stepsOf i h <+: ms := by
  rw [← stepsOf_ofCall]
  rcases hu i with hnil | ⟨ms, r, hdoes, hpre⟩
  · rw [hnil]
    exact .inl rfl
  · refine .inr ⟨ms, r, hdoes, ?_⟩
    have hsteps := hpre.filterMap (stepOf i)
    rwa [← stepsOf, ← stepsOf, stepsOf_whole] at hsteps

end Underway

/-! ### The order of the points -/

section Points

variable (point : ι → M → Bool)

/-- The call whose point an event is. -/
def pointOf : Event ι M R → Option ι
  | .step i m => if point i m then some i else none
  | .invoke _ | .leave _ _ => none

/-- The calls in the order of their points. -/
def points (h : List (Event ι M R)) : List ι := h.filterMap (pointOf point)

variable {point}

@[simp] theorem points_nil : points point ([] : List (Event ι M R)) = [] := rfl

@[simp] theorem points_invoke (i : ι) (h : List (Event ι M R)) :
    points point (.invoke i :: h) = points point h := rfl

@[simp] theorem points_leave (i : ι) (r : R) (h : List (Event ι M R)) :
    points point (.leave i r :: h) = points point h := rfl

@[simp] theorem points_step (i : ι) (m : M) (h : List (Event ι M R)) :
    points point (.step i m :: h) =
      if point i m = true then i :: points point h else points point h := by
  rw [points, List.filterMap_cons, pointOf]
  split_ifs <;> rfl

variable [DecidableEq ι] {does : ι → List M → R → Prop} {h : List (Event ι M R)}

omit [DecidableEq ι] in
theorem mem_whole_step {i : ι} {ms : List M} {r : R} {m : M} :
    (.step i m : Event ι M R) ∈ whole i ms r ↔ m ∈ ms := by
  simp [whole]

/-- What a call has done. -/
theorem Complete.whole_of_mem (hc : Complete does h) {e : Event ι M R} (he : e ∈ h) :
    ∃ ms r, does e.call ms r ∧ ofCall e.call h = whole e.call ms r := by
  refine (hc e.call).resolve_left fun hnil => ?_
  have hmem := mem_ofCall.mpr ⟨he, rfl⟩
  rw [hnil] at hmem
  cases hmem

/-- Every call has exactly one point. -/
def OnePoint (does : ι → List M → R → Prop) (point : ι → M → Bool) (h : List (Event ι M R)) : Prop :=
  ∀ i ms r, does i ms r → ofCall i h = whole i ms r → ∃ m, ms.filter (point i) = [m]

/-- The points of a call are steps of its own. -/
theorem filter_points (i : ι) :
    (points point h).filter (· = i) = points point (ofCall i h) := by
  induction h with
  | nil => rfl
  | cons e h ih =>
    rw [ofCall_cons]
    cases e with
    | invoke j => split_ifs <;> exact ih
    | leave j r => split_ifs <;> exact ih
    | step j m =>
      rw [points_step, Event.call]
      split_ifs with hp hj hj
      · rw [List.filter_cons_of_pos (by simpa using hj), ih, points_step, if_pos hp, hj]
      · rw [List.filter_cons_of_neg (by simpa using hj), ih]
      · rw [ih, points_step, if_neg hp]
      · exact ih

omit [DecidableEq ι] in
theorem points_whole (i : ι) (ms : List M) (r : R) :
    points point (whole i ms r) = (ms.filter (point i)).map fun _ => i := by
  rw [whole, points_invoke]
  induction ms with
  | nil => rfl
  | cons m ms ih =>
    rw [List.map_cons, List.cons_append, points_step, ih]
    split_ifs with hp
    · rw [List.filter_cons_of_pos hp, List.map_cons]
    · rw [List.filter_cons_of_neg hp]

/-- A call occurs once in the order. -/
theorem nodup_points (hc : Complete does h) (hone : OnePoint does point h) : (points point h).Nodup := by
  refine List.nodup_iff_count_le_one.mpr fun i => ?_
  have hcount : (points point h).count i = ((points point h).filter (· = i)).length := by
    rw [List.count_eq_countP, List.countP_eq_length_filter]
    rfl
  rw [hcount, filter_points]
  rcases hc i with hnil | ⟨ms, r, hdoes, hwhole⟩
  · rw [hnil]
    exact Nat.zero_le 1
  · obtain ⟨m, hm⟩ := hone i ms r hdoes hwhole
    rw [hwhole, points_whole, hm]
    exact Nat.le_refl 1

/-- The order has the calls that have been invoked. -/
theorem mem_points_iff (hc : Complete does h) (hone : OnePoint does point h) (i : ι) :
    i ∈ points point h ↔ .invoke i ∈ h := by
  have hfilter : i ∈ points point h ↔ i ∈ points point (ofCall i h) := by
    rw [← filter_points]
    simp
  rw [hfilter]
  rcases hc i with hnil | ⟨ms, r, hdoes, hwhole⟩
  · rw [hnil]
    refine iff_of_false (by simp [points]) fun hmem => ?_
    have h' := mem_ofCall.mpr ⟨hmem, rfl⟩
    rw [Event.call, hnil] at h'
    cases h'
  · obtain ⟨m, hm⟩ := hone i ms r hdoes hwhole
    rw [hwhole, points_whole, hm]
    refine iff_of_true (by simp) ?_
    have h' : (.invoke i : Event ι M R) ∈ ofCall i h := hwhole ▸ List.mem_cons_self ..
    exact (mem_ofCall.mp h').1

/-! ### Real time -/

theorem ofCall_append (i : ι) (h₁ h₂ : List (Event ι M R)) :
    ofCall i (h₁ ++ h₂) = ofCall i h₁ ++ ofCall i h₂ := List.filter_append ..

/-- After a call has left there is nothing of it. -/
theorem ofCall_after_leave {h₁ h₂ : List (Event ι M R)} (hc : Complete does (h₁ ++ h₂)) {i : ι}
    {r : R} (hi : .leave i r ∈ h₁) : ofCall i h₂ = [] := by
  obtain ⟨ms, r', -, hwhole⟩ := hc.whole_of_mem (List.mem_append_left h₂ hi)
  rw [Event.call, ofCall_append] at hwhole
  have hmem : (.leave i r : Event ι M R) ∈ ofCall i h₁ := mem_ofCall.mpr ⟨hi, rfl⟩
  rcases List.eq_nil_or_concat (ofCall i h₂) with hnil | ⟨es, e, he⟩
  · exact hnil
  · -- the result of the call would come twice
    have hsplit : ofCall i h₁ ++ es = .invoke i :: ms.map (.step i) := by
      rw [he, List.concat_eq_append, ← List.append_assoc] at hwhole
      have hlen : [e].length = [(.leave i r' : Event ι M R)].length := rfl
      exact (List.append_inj' hwhole hlen).1
    have hstep := hsplit ▸ List.mem_append_left es hmem
    simp at hstep

/-- Before a call is invoked there is nothing of it. -/
theorem ofCall_before_invoke {h₁ h₂ : List (Event ι M R)} (hc : Complete does (h₁ ++ h₂)) {i : ι}
    (hi : .invoke i ∈ h₂) : ofCall i h₁ = [] := by
  obtain ⟨ms, r, -, hwhole⟩ := hc.whole_of_mem (List.mem_append_right h₁ hi)
  rw [Event.call, ofCall_append] at hwhole
  have hmem : (.invoke i : Event ι M R) ∈ ofCall i h₂ := mem_ofCall.mpr ⟨hi, rfl⟩
  cases hfirst : ofCall i h₁ with
  | nil => rfl
  | cons e es =>
    -- the invocation of the call would come twice
    rw [hfirst, List.cons_append, whole, List.cons.injEq] at hwhole
    have hstep := hwhole.2 ▸ List.mem_append_right es hmem
    simp at hstep

/-- The order of the points keeps calls apart that were apart in time. -/
theorem sublist_points (hc : Complete does h) (hone : OnePoint does point h) {i j : ι} {r : R}
    (hij : [.leave i r, .invoke j].Sublist h) : [i, j].Sublist (points point h) := by
  obtain ⟨h₁, h₂, rfl, hi, hj⟩ := List.cons_sublist_iff.mp hij
  have hj : .invoke j ∈ h₂ := List.singleton_sublist.mp hj
  have hpoint : ∀ k, .invoke k ∈ h₁ ++ h₂ → k ∈ points point (ofCall k (h₁ ++ h₂)) := by
    intro k hk
    have h' := (mem_points_iff hc hone k).mpr hk
    rw [← filter_points]
    simpa using h'
  have hinvoked : .invoke i ∈ h₁ ++ h₂ := by
    obtain ⟨ms, r', -, hwhole⟩ := hc.whole_of_mem (List.mem_append_left h₂ hi)
    have h' : (.invoke i : Event ι M R) ∈ ofCall i (h₁ ++ h₂) := by
      rw [Event.call] at hwhole
      rw [hwhole]
      exact List.mem_cons_self ..
    exact (mem_ofCall.mp h').1
  have hmem₁ : i ∈ points point h₁ := by
    have h' := hpoint i hinvoked
    rw [ofCall_append, ofCall_after_leave hc hi, List.append_nil, ← filter_points] at h'
    exact (List.mem_filter.mp h').1
  have hmem₂ : j ∈ points point h₂ := by
    have h' := hpoint j (List.mem_append_right h₁ hj)
    rw [ofCall_append, ofCall_before_invoke hc hj, List.nil_append, ← filter_points] at h'
    exact (List.mem_filter.mp h').1
  rw [points, List.filterMap_append]
  exact (List.singleton_sublist.mpr hmem₁).append (List.singleton_sublist.mpr hmem₂)

/-! ### The calls in the order of their points -/

variable {effect : ι → S → M → S → Prop} {spec : ι → S → R → S → Prop}

omit [DecidableEq ι] in
/-- The points do what the calls do one after the other, and the other steps do nothing. -/
theorem inTurn_points {g : List (Event ι M R)} {s s' : S} (hrun : Along effect s g s')
    (hsilent : ∀ i m s s', point i m = false → effect i s m s' → s' = s)
    (hspec : ∀ i m, .step i m ∈ g → point i m = true →
      ∃ r, .leave i r ∈ h ∧ ∀ s s', effect i s m s' → spec i s r s') :
    InTurn spec h s (points point g) s' := by
  induction hrun with
  | nil s => exact .nil s
  | invoke _ ih => exact ih fun i m hm => hspec i m (List.mem_cons_of_mem _ hm)
  | leave _ ih => exact ih fun i m hm => hspec i m (List.mem_cons_of_mem _ hm)
  | @step i m s s₁ g s' he _ ih =>
    have ih := ih fun j n hn => hspec j n (List.mem_cons_of_mem _ hn)
    rw [points_step]
    split_ifs with hp
    · obtain ⟨r, hr, hs⟩ := hspec i m (List.mem_cons_self ..) hp
      exact .cons hr (hs _ _ he) ih
    · rw [← hsilent i m s s₁ (Bool.not_eq_true _ ▸ hp) he]
      exact ih

omit [DecidableEq ι] in
/-- A step of a run had its effect in some state. -/
theorem Along.effect_of_mem {g : List (Event ι M R)} {s s' : S} (hrun : Along effect s g s') {i : ι}
    {m : M} (hm : .step i m ∈ g) : ∃ s₁ s₂, effect i s₁ m s₂ := by
  induction hrun with
  | nil s => cases hm
  | invoke _ ih =>
    rcases List.mem_cons.mp hm with heq | hm
    · cases heq
    · exact ih hm
  | leave _ ih =>
    rcases List.mem_cons.mp hm with heq | hm
    · cases heq
    · exact ih hm
  | step he _ ih =>
    rcases List.mem_cons.mp hm with heq | hm
    · cases heq
      exact ⟨_, _, he⟩
    · exact ih hm

/-- **Points of linearisation**: every call has one step that does all of its work, and its other
steps do nothing. -/
theorem linearises_points (point : ι → M → Bool) {s s' : S} (hc : Complete does h) (hrun : Along effect s h s')
    (hsilent : ∀ i m s s', point i m = false → effect i s m s' → s' = s)
    (hpoint : ∀ i ms r, does i ms r → (∀ m ∈ ms, ∃ s₁ s₂, effect i s₁ m s₂) →
      ∃ m, ms.filter (point i) = [m] ∧ ∀ s s', effect i s m s' → spec i s r s') :
    Linearises spec h s s' (points point h) := by
  have hlocal : ∀ i ms r, does i ms r → ofCall i h = whole i ms r →
      ∃ m, ms.filter (point i) = [m] ∧ ∀ s s', effect i s m s' → spec i s r s' := by
    intro i ms r hdoes hwhole
    refine hpoint i ms r hdoes fun m hm => hrun.effect_of_mem ?_
    exact (mem_ofCall.mp (hwhole ▸ mem_whole_step.mpr hm)).1
  have hone : OnePoint does point h := by
    intro i ms r hdoes hwhole
    exact (hlocal i ms r hdoes hwhole).imp fun _ hm => hm.1
  refine ⟨mem_points_iff hc hone, nodup_points hc hone, fun i j r => sublist_points hc hone, ?_⟩
  refine inTurn_points hrun hsilent fun i m hm hp => ?_
  obtain ⟨ms, r, hdoes, hwhole⟩ := hc.whole_of_mem hm
  obtain ⟨m', hm', hs⟩ := hlocal i ms r hdoes hwhole
  have hmem : m ∈ ms.filter (point i) :=
    List.mem_filter.mpr ⟨mem_whole_step.mp (hwhole ▸ mem_ofCall.mpr ⟨hm, rfl⟩), hp⟩
  rw [hm', List.mem_singleton] at hmem
  subst hmem
  refine ⟨r, ?_, hs⟩
  have hleave : (.leave i r : Event ι M R) ∈ ofCall i h := by
    rw [Event.call] at hwhole
    rw [hwhole]
    simp [whole]
  exact (mem_ofCall.mp hleave).1

end Points

/-! ### Existence -/

section Existence

variable [DecidableEq ι] {does : ι → List M → R → Prop} {effect : ι → S → M → S → Prop} {I : S → Prop}
  {h h' : List (Event ι M R)} {calls later : List ι} {i : ι}

/-- These calls have run from their invocations to their results, and there is nothing of any other. -/
def Held (does : ι → List M → R → Prop) (calls : List ι) (h : List (Event ι M R)) : Prop :=
  ∀ i, (i ∈ calls → ∃ ms r, does i ms r ∧ ofCall i h = whole i ms r) ∧ (i ∉ calls → ofCall i h = [])

theorem Held.complete (hheld : Held does calls h) : Complete does h := by
  intro i
  by_cases hi : i ∈ calls
  · exact .inr ((hheld i).1 hi)
  · exact .inl ((hheld i).2 hi)

theorem Held.invoke_mem_iff (hheld : Held does calls h) : .invoke i ∈ h ↔ i ∈ calls := by
  have hcall : (.invoke i : Event ι M R) ∈ ofCall i h ↔ .invoke i ∈ h :=
    mem_ofCall.trans (and_iff_left rfl)
  rw [← hcall]
  by_cases hi : i ∈ calls
  · obtain ⟨ms, r, -, hwhole⟩ := (hheld i).1 hi
    rw [hwhole]
    exact iff_of_true (List.mem_cons_self ..) hi
  · rw [(hheld i).2 hi]
    exact iff_of_false List.not_mem_nil hi

theorem Held.exists_leave (hheld : Held does calls h) (hi : i ∈ calls) : ∃ r, .leave i r ∈ h := by
  obtain ⟨ms, r, -, hwhole⟩ := (hheld i).1 hi
  have hleave : .leave i r ∈ ofCall i h := by
    rw [hwhole]
    simp [whole]
  exact ⟨r, (mem_ofCall.mp hleave).1⟩

/-- Other calls come after them. -/
theorem Held.append (hheld : Held does calls h) (hheld' : Held does later h')
    (hdisjoint : calls.Disjoint later) : Held does (calls ++ later) (h ++ h') := by
  intro i
  rw [ofCall_append, List.mem_append]
  constructor
  · rintro (hi | hi)
    · rw [(hheld' i).2 (hdisjoint hi), List.append_nil]
      exact (hheld i).1 hi
    · rw [(hheld i).2 fun hi' => hdisjoint hi' hi, List.nil_append]
      exact (hheld' i).1 hi
  · intro hi
    rw [not_or] at hi
    rw [(hheld i).2 hi.1, (hheld' i).2 hi.2, List.append_nil]

omit [DecidableEq ι] in
theorem Along.append {s s₁ s' : S} (hrun : Along effect s h s₁) (hrun' : Along effect s₁ h' s') :
    Along effect s (h ++ h') s' := by
  induction hrun with
  | nil s => exact hrun'
  | invoke _ ih => exact .invoke (ih hrun')
  | step he _ ih => exact .step he (ih hrun')
  | leave _ ih => exact .leave (ih hrun')

omit [DecidableEq ι] in
/-- Invocations have no effect. -/
theorem along_invokes (calls : List ι) (s : S) :
    Along effect s (calls.map Event.invoke : List (Event ι M R)) s := by
  induction calls with
  | nil => exact .nil s
  | cons i calls ih => exact .invoke ih

theorem ofCall_invokes (hnodup : calls.Nodup) : ofCall i (calls.map Event.invoke : List (Event ι M R)) =
    if i ∈ calls then [.invoke i] else [] := by
  induction calls with
  | nil => rfl
  | cons j calls ih =>
    obtain ⟨hj, hnodup⟩ := List.nodup_cons.mp hnodup
    rw [List.map_cons, ofCall_cons, ih hnodup]
    by_cases hij : j = i
    · subst hij
      simp [Event.call, hj]
    · simp [Event.call, hij, Ne.symm hij]

/-- The steps of a call, and its result. -/
theorem ofCall_steps (i j : ι) (ms : List M) (r : R) :
    ofCall j (ms.map (Event.step i) ++ [.leave i r]) =
      if i = j then ms.map (Event.step i) ++ [.leave i r] else [] := by
  split_ifs with hij
  · refine List.filter_eq_self.mpr fun e he => ?_
    rcases List.mem_append.mp he with he | he
    · obtain ⟨m, -, rfl⟩ := List.mem_map.mp he
      exact decide_eq_true hij
    · rw [List.mem_singleton.mp he]
      exact decide_eq_true hij
  · refine List.filter_eq_nil_iff.mpr fun e he => ?_
    rcases List.mem_append.mp he with he | he
    · obtain ⟨m, -, rfl⟩ := List.mem_map.mp he
      exact decide_eq_true_iff.not.mpr hij
    · rw [List.mem_singleton.mp he]
      exact decide_eq_true_iff.not.mpr hij

/-- Calls that run one after the other. -/
theorem exists_runs (hrun : ∀ i s, I s →
      ∃ ms r s', does i ms r ∧ Along effect s (ms.map (.step i) : List (Event ι M R)) s' ∧ I s')
    (hnodup : calls.Nodup) {s : S} (hs : I s) : ∃ (h : List (Event ι M R)) (s' : S),
      Along effect s h s' ∧ I s' ∧ ∀ i,
        (i ∈ calls → ∃ ms r, does i ms r ∧ ofCall i h = ms.map (.step i) ++ [.leave i r]) ∧
        (i ∉ calls → ofCall i h = []) := by
  induction calls generalizing s with
  | nil => exact ⟨[], s, .nil s, hs, fun i => ⟨nofun, fun _ => rfl⟩⟩
  | cons j calls ih =>
    obtain ⟨hj, hnodup⟩ := List.nodup_cons.mp hnodup
    obtain ⟨ms, r, s₁, hdoes, hfirst, hs₁⟩ := hrun j s hs
    obtain ⟨h, s', hrest, hs', hcalls⟩ := ih hnodup hs₁
    refine ⟨ms.map (.step j) ++ [.leave j r] ++ h, s',
      (hfirst.append (.leave (.nil s₁))).append hrest, hs', fun i => ?_⟩
    rw [ofCall_append, ofCall_steps]
    by_cases hij : j = i
    · subst hij
      refine ⟨fun _ => ⟨ms, r, hdoes, ?_⟩, fun hi => absurd (List.mem_cons_self ..) hi⟩
      rw [if_pos rfl, (hcalls j).2 hj, List.append_nil]
    · rw [if_neg hij, List.nil_append, List.mem_cons, or_iff_right (Ne.symm hij)]
      exact hcalls i

/-- **Calls at the same time**: all of them are invoked before any of them has ended. -/
theorem exists_round (hrun : ∀ i s, I s →
      ∃ ms r s', does i ms r ∧ Along effect s (ms.map (.step i) : List (Event ι M R)) s' ∧ I s')
    (hnodup : calls.Nodup) {s : S} (hs : I s) : ∃ (h : List (Event ι M R)) (s' : S),
      Held does calls h ∧ Along effect s h s' ∧ I s' ∧ calls.map .invoke <+: h := by
  obtain ⟨h, s', hh, hs', hcalls⟩ := exists_runs hrun hnodup hs
  refine ⟨calls.map .invoke ++ h, s', fun i => ?_, (along_invokes calls s).append hh, hs',
    List.prefix_append ..⟩
  rw [ofCall_append, ofCall_invokes hnodup]
  constructor
  · intro hi
    obtain ⟨ms, r, hdoes, hsteps⟩ := (hcalls i).1 hi
    exact ⟨ms, r, hdoes, by rw [if_pos hi, hsteps]; rfl⟩
  · intro hi
    rw [if_neg hi, (hcalls i).2 hi, List.nil_append]

/-- **And calls after them**: they begin when the others have ended. -/
theorem exists_rounds (hrun : ∀ i s, I s →
      ∃ ms r s', does i ms r ∧ Along effect s (ms.map (.step i) : List (Event ι M R)) s' ∧ I s')
    (hnodup : (calls ++ later).Nodup) {s : S} (hs : I s) : ∃ (h : List (Event ι M R)) (s' : S),
      Held does (calls ++ later) h ∧ Along effect s h s' ∧ calls.map .invoke <+: h ∧
      ∀ i ∈ calls, ∀ j ∈ later, ∃ r, [.leave i r, .invoke j].Sublist h := by
  obtain ⟨hcalls, hlater, hdisjoint⟩ := List.nodup_append'.mp hnodup
  obtain ⟨h, s₁, hheld, hrun₁, hs₁, hpre⟩ := exists_round hrun hcalls hs
  obtain ⟨h', s', hheld', hrun₂, -, -⟩ := exists_round hrun hlater hs₁
  refine ⟨h ++ h', s', hheld.append hheld' hdisjoint, hrun₁.append hrun₂,
    hpre.trans (List.prefix_append ..), fun i hi j hj => ?_⟩
  obtain ⟨r, hr⟩ := hheld.exists_leave hi
  exact ⟨r, (List.singleton_sublist.mpr hr).append
    (List.singleton_sublist.mpr (hheld'.invoke_mem_iff.mpr hj))⟩

end Existence

/-! ### Coroutines -/

section Coroutines

variable {D : Driver} {ε σ X α β O : Type}

/-- The world as one call sees it: any answer that the other end can give at all, of which the
points are kept. -/
def World.points (B : Backend D ε β) (point : Answer D ε → Bool) :
    World D ε σ (List (Answer D ε)) where
  answers g q r g' := (∃ b b', B b q r b') ∧ g' = if point ⟨q, r⟩ = true then g ++ [⟨q, r⟩] else g
  reads _ _ := True
  writes _ g := g

theorem endsIn_points {B : Backend D ε β} (point : Answer D ε → Bool) {p : Coro D ε σ X α}
    {ms : List (Answer D ε)} {o : Except X α} (h : p.Ends ms o)
    (hms : ∀ a ∈ ms, ∃ b b', B b a.call a.reply b') (g : List (Answer D ε)) :
    p.EndsIn (World.points B point) g o (g ++ ms.filter point) := by
  induction h generalizing g with
  | ret a =>
    rw [List.filter_nil, List.append_nil]
    exact .ret a g
  | raise x =>
    rw [List.filter_nil, List.append_nil]
    exact .raise x g
  | read s _ ih => exact .read (s := s) trivial (ih hms g)
  | write _ ih => exact .write (ih hms g)
  | @await q k t o r _ ih =>
    have ih := ih fun a ha => hms a (List.mem_cons_of_mem _ ha)
    have hpossible := hms ⟨q, r⟩ (List.mem_cons_self ..)
    by_cases hp : point ⟨q, r⟩ = true
    · have h' := ih (g ++ [⟨q, r⟩])
      rw [List.append_assoc, List.singleton_append, ← List.filter_cons_of_pos hp] at h'
      exact .await (W := World.points B point) ⟨hpossible, (if_pos hp).symm⟩ h'
    · have h' := ih g
      rw [← List.filter_cons_of_neg hp] at h'
      exact .await (W := World.points B point) ⟨hpossible, (if_neg hp).symm⟩ h'

/-- Calls of the operations are linearisable, in every history in which each step meets the guard.
The calls are numbered, and `op` says what each of them is. -/
def Linearisable (valid : O → Prop) (code : O → Coro D ε σ X α) (B : Backend D ε β)
    (guard : O → β → Answer D ε → Prop) (spec : O → β → Except X α → β → Prop) : Prop :=
  ∀ (op : ℕ → O) (h : List (Event ℕ (Answer D ε) (Except X α))) (b b' : β), (∀ i, valid (op i)) →
    Complete (fun i => (code (op i)).Ends) h →
    Along (fun i b a b' => B b a.call a.reply b' ∧ guard (op i) b a) b h b' →
    ∃ order, Linearises (fun i => spec (op i)) h b b' order

/-- **Points of linearisation** of coroutines: every operation has one answer that settles it. -/
theorem linearisable_of_points {valid : O → Prop} {code : O → Coro D ε σ X α} {B : Backend D ε β}
    {guard : O → β → Answer D ε → Prop} {spec : O → β → Except X α → β → Prop}
    (point : O → Answer D ε → Bool)
    (hsilent : ∀ op b a b', point op a = false → B b a.call a.reply b' → b' = b)
    (hpoint : ∀ op, valid op → (code op).wpIn (World.points B (point op))
      (fun r g => ∃ a, g = [a] ∧
        ∀ b b', B b a.call a.reply b' → guard op b a → spec op b (.ok r) b')
      (fun x g => ∃ a, g = [a] ∧
        ∀ b b', B b a.call a.reply b' → guard op b a → spec op b (.error x) b') []) :
    Linearisable valid code B guard spec := by
  intro op h b b' hvalid hc hrun
  refine ⟨_, linearises_points (fun i => point (op i)) hc hrun
    (fun i a b b' hp hB => hsilent (op i) b a b' hp hB.1) fun i ms r hends hms => ?_⟩
  have hend := (endsIn_points (point (op i)) hends (fun a ha =>
    (hms a ha).imp fun b hb => hb.imp fun b' hB => hB.1) []).of_wpIn (hpoint (op i) (hvalid i))
  rw [List.nil_append] at hend
  cases r with
  | ok r => exact hend.imp fun a ha => ⟨ha.1, fun b b' hB => ha.2 b b' hB.1 hB.2⟩
  | error x => exact hend.imp fun a ha => ⟨ha.1, fun b b' hB => ha.2 b b' hB.1 hB.2⟩

/-- A run in a world is a run of its own, with the same steps. -/
theorem Coro.EndsIn.exists_along {γ ι R S : Type} {W : World D ε σ γ}
    {effect : ι → S → Answer D ε → S → Prop} {Rel : γ → S → Prop} {p : Coro D ε σ X α} {o : Except X α}
    {g g' : γ} {s : S} (h : p.EndsIn W g o g') (i : ι)
    (hanswers : ∀ g q r g' s, Rel g s → W.answers g q r g' → ∃ s', effect i s ⟨q, r⟩ s' ∧ Rel g' s')
    (hwrites : ∀ f g, W.writes f g = g) (hrel : Rel g s) :
    ∃ t s', p.Ends t o ∧ Along effect s (t.map (.step i) : List (Event ι (Answer D ε) R)) s' ∧
      Rel g' s' := by
  induction h generalizing s with
  | ret a g => exact ⟨[], s, .ret a, .nil s, hrel⟩
  | raise x g => exact ⟨[], s, .raise x, .nil s, hrel⟩
  | @await q k r g g₁ o g' hr _ ih =>
    obtain ⟨s₁, heffect, hrel₁⟩ := hanswers _ _ _ _ _ hrel hr
    obtain ⟨t, s', hend, hrun, hrel'⟩ := ih hrel₁
    exact ⟨⟨q, r⟩ :: t, s', .await r hend, .step heffect hrun, hrel'⟩
  | @read k v _ _ _ _ _ ih =>
    obtain ⟨t, s', hend, hrun⟩ := ih hrel
    exact ⟨t, s', .read v hend, hrun⟩
  | @write f _ g _ _ _ ih =>
    obtain ⟨t, s', hend, hrun⟩ := ih ((hwrites f g).symm ▸ hrel)
    exact ⟨t, s', .write hend, hrun⟩

end Coroutines

end OpenframeAdapters.Python
