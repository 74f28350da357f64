import OpenframeAdapters.Python.Atomic

/-!
# Calls with something of their own

Calls that run at the same time share something, and each of them has something of its own besides: a
transaction, and what it has locked. What a call does takes several steps, and it may be that none of
them does all of it.

## The model

* `Party` — what a step does to what is shared and to what is the call's own, and what the others leave
  as it is meanwhile.
* `Party.together` — a step of one of many calls.
* `Party.among` — a call among others: before each of its steps, they may have changed what is shared.
  The moments of its steps are kept.
* `Pointed` — one of the moments does something, and the others do nothing.

## What is proved

* `exists_moments` — a history, moment by moment.
* `Party.Answers.linearises` — if the moments of every run are `Pointed`, then many callers are answered
  as if they came one at a time.
* `Party.Answers.refines` — and so is one caller.
* `Party.exists_together` — callers can come at the same time.
-/

namespace OpenframeAdapters.Python

variable {ι M N R S L : Type}

/-- What a step does, and what the others leave as it is. -/
structure Party (S L M : Type) where
  /-- A step of a call. -/
  act : S → L → M → S → L → Prop
  /-- What the others may do to what is shared, given what is the call's own. -/
  rely : L → S → S → Prop
  rely_refl : ∀ l s, rely l s s
  rely_trans : ∀ {l s s₁ s₂}, rely l s s₁ → rely l s₁ s₂ → rely l s s₂

/-! ### Moments -/

/-- Nothing is done. -/
def Idle (xs : List (S × S)) : Prop := ∀ x ∈ xs, x.2 = x.1

/-- One of the moments does `P`, and the others do nothing. -/
def Pointed (P : S → S → Prop) (xs : List (S × S)) : Prop :=
  ∃ before s s' after, xs = before ++ (s, s') :: after ∧ Idle before ∧ Idle after ∧ P s s'

/-- The moments follow on each other. -/
inductive Linked : S → List (S × S) → S → Prop
  /-- No moments. -/
  | nil (s : S) : Linked s [] s
  /-- One moment, and then the others. -/
  | cons {s s₁ xs s'} : Linked s₁ xs s' → Linked s ((s, s₁) :: xs) s'

section Moments

variable {P Q : S → S → Prop} {xs ys : List (S × S)} {s s' : S}

theorem idle_nil : Idle ([] : List (S × S)) := nofun

theorem Idle.append (h : Idle xs) (h' : Idle ys) : Idle (xs ++ ys) := by
  intro x hx
  rcases List.mem_append.mp hx with hx | hx
  · exact h x hx
  · exact h' x hx

theorem idle_singleton (s : S) : Idle [(s, s)] := by
  intro x hx
  rw [List.mem_singleton.mp hx]

theorem Idle.snoc (h : Idle xs) (s : S) : Idle (xs ++ [(s, s)]) := h.append (idle_singleton s)

/-- The last moment does it. -/
theorem Idle.pointed (h : Idle xs) (hP : P s s') : Pointed P (xs ++ [(s, s')]) :=
  ⟨xs, s, s', [], rfl, h, idle_nil, hP⟩

/-- It has been done. -/
theorem Pointed.snoc (h : Pointed P xs) (s : S) : Pointed P (xs ++ [(s, s)]) := by
  obtain ⟨before, a, b, after, rfl, hbefore, hafter, hP⟩ := h
  refine ⟨before, a, b, after ++ [(s, s)], ?_, hbefore, hafter.snoc s, hP⟩
  rw [List.append_assoc, List.cons_append]

theorem Pointed.mono (h : Pointed P xs) (hPQ : ∀ s s', P s s' → Q s s') : Pointed Q xs := by
  obtain ⟨before, a, b, after, hxs, hbefore, hafter, hP⟩ := h
  exact ⟨before, a, b, after, hxs, hbefore, hafter, hPQ a b hP⟩

theorem Linked.eq_of_idle (h : Linked s xs s') (hxs : Idle xs) : s' = s := by
  induction h with
  | nil s => rfl
  | cons _ ih =>
    obtain ⟨hfirst, hxs⟩ := List.forall_mem_cons.mp hxs
    exact (ih hxs).trans hfirst

/-- What one moment does, all of them do. -/
theorem Pointed.of_linked (h : Pointed P xs) (hlinked : Linked s xs s') : P s s' := by
  obtain ⟨before, a, b, after, rfl, hbefore, hafter, hP⟩ := h
  revert hbefore
  induction before generalizing s with
  | nil =>
    intro _
    cases hlinked with
    | cons hrest => rwa [hrest.eq_of_idle hafter]
  | cons x before ih =>
    intro hbefore
    obtain ⟨hfirst, hidle⟩ := List.forall_mem_cons.mp hbefore
    cases hlinked with
    | @cons _ s₁ _ _ hrest =>
      obtain rfl : s₁ = s := hfirst
      exact ih hrest hidle

end Moments

namespace Party

variable (P : Party S L M)

/-- A step of one of many calls. -/
def together [DecidableEq ι] (i : ι) (x : S × (ι → L)) (m : M) (x' : S × (ι → L)) : Prop :=
  ∃ l, P.act x.1 (x.2 i) m x'.1 l ∧ x'.2 = Function.update x.2 i l ∧
    ∀ j ≠ i, P.rely (x.2 j) x.1 x'.1

/-- The moments of a call. -/
inductive Does : S → L → List M → List (S × S) → Prop
  /-- It does nothing. -/
  | nil (s : S) (l : L) : Does s l [] []
  /-- The others do something, then it takes a step, and so on. -/
  | cons {s l m s₁ s₂ l' ms xs} : P.rely l s s₁ → P.act s₁ l m s₂ l' → Does s₂ l' ms xs →
    Does s l (m :: ms) ((s₁, s₂) :: xs)

variable {P}

theorem Does.rely {s s₁ : S} {l : L} {ms : List M} {xs : List (S × S)} (h : P.Does s₁ l ms xs)
    (hrely : P.rely l s s₁) : P.Does s l ms xs := by
  cases h with
  | nil => exact .nil s l
  | cons hrely' hact h => exact .cons (P.rely_trans hrely hrely') hact h

end Party

/-! ### A history, moment by moment -/

/-- The same events, but for what the steps are. -/
inductive Same : Event ι M R → Event ι N R → Prop
  /-- A call begins. -/
  | invoke (i : ι) : Same (.invoke i) (.invoke i)
  /-- It takes a step. -/
  | step (i : ι) (m : M) (n : N) : Same (.step i m) (.step i n)
  /-- It ends. -/
  | leave (i : ι) (r : R) : Same (.leave i r) (.leave i r)

section Same

variable {h h' : List (Event ι M R)} {g : List (Event ι N R)}

theorem invoke_mem_of_same (hsame : List.Forall₂ Same h g) (i : ι) : .invoke i ∈ g ↔ .invoke i ∈ h := by
  induction hsame with
  | nil => simp
  | cons he _ ih => cases he <;> simp [ih]

theorem leave_mem_of_same (hsame : List.Forall₂ Same h g) (i : ι) (r : R) :
    .leave i r ∈ g ↔ .leave i r ∈ h := by
  induction hsame with
  | nil => simp
  | cons he _ ih => cases he <;> simp [ih]

/-- What comes after what. -/
theorem sublist_of_same (hsame : List.Forall₂ Same h g) {i j : ι} {r : R}
    (hij : [.leave i r, .invoke j].Sublist h) : [.leave i r, .invoke j].Sublist g := by
  obtain ⟨h₁, h₂, rfl, hi, hj⟩ := List.cons_sublist_iff.mp hij
  have hj : .invoke j ∈ h₂ := List.singleton_sublist.mp hj
  obtain ⟨g₁, g₂, hsame₁, hsame₂, rfl⟩ : ∃ g₁ g₂, List.Forall₂ Same h₁ g₁ ∧
      List.Forall₂ Same h₂ g₂ ∧ g = g₁ ++ g₂ := by
    have hflip := hsame.flip
    exact ⟨_, _, (List.forall₂_take_append g h₁ h₂ hflip).flip,
      (List.forall₂_drop_append g h₁ h₂ hflip).flip, (List.take_append_drop ..).symm⟩
  exact List.cons_sublist_iff.mpr ⟨g₁, g₂, rfl, (leave_mem_of_same hsame₁ i r).mpr hi,
    List.singleton_sublist.mpr ((invoke_mem_of_same hsame₂ j).mpr hj)⟩

variable [DecidableEq ι]

/-- A call that has ended has the same events. -/
theorem ofCall_of_same (hsame : List.Forall₂ Same h g) {i : ι} {ms : List M} {r : R}
    (hwhole : ofCall i h = whole i ms r) : ofCall i g = whole i (stepsOf i g) r := by
  have hsteps : ∀ {ms : List M} {es : List (Event ι N R)},
      List.Forall₂ Same (ms.map (.step i) ++ [.leave i r]) es →
      es = (stepsOf i es).map (.step i) ++ [.leave i r] := by
    intro ms
    induction ms with
    | nil =>
      rintro _ (_ | ⟨⟨⟩, ⟨⟩⟩)
      rfl
    | cons m ms ih =>
      rintro _ (_ | ⟨⟨⟩, hes⟩)
      rw [stepsOf_step, if_pos rfl, List.map_cons, List.cons_append, ← ih hes]
  have hcall : List.Forall₂ Same (ofCall i h) (ofCall i g) := by
    clear hwhole hsteps
    induction hsame with
    | nil => exact .nil
    | @cons e e' _ _ he _ ih =>
      rw [ofCall_cons, ofCall_cons]
      have hcalls : e'.call = e.call := by cases he <;> rfl
      rw [hcalls]
      split_ifs
      · exact .cons he ih
      · exact ih
  rw [hwhole] at hcall
  rw [← stepsOf_ofCall]
  revert hcall
  generalize ofCall i g = es
  rintro (_ | ⟨⟨⟩, hes⟩)
  have hes := hsteps hes
  rw [whole]
  exact congrArg _ hes

theorem ofCall_nil_of_same (hsame : List.Forall₂ Same h g) {i : ι} (hnil : ofCall i h = []) :
    ofCall i g = [] := by
  have hnone : ∀ e ∈ h, e.call ≠ i := by simpa [ofCall] using hnil
  rw [ofCall, List.filter_eq_nil_iff]
  clear hnil
  induction hsame with
  | nil => exact fun _ he => (List.not_mem_nil he).elim
  | @cons e e' _ _ he _ ih =>
    obtain ⟨hfirst, hnone⟩ := List.forall_mem_cons.mp hnone
    have hcalls : e'.call = e.call := by cases he <;> rfl
    refine List.forall_mem_cons.mpr ⟨?_, ih hnone⟩
    simpa [hcalls] using hfirst

end Same

section Moments

variable [DecidableEq ι] {P : Party S L M} {x x' : S × (ι → L)} {h : List (Event ι M R)}

/-- **A history, moment by moment**: when its steps were taken, and what was shared before and after. -/
theorem exists_moments (hrun : Along P.together x h x') (n : ℕ) :
    ∃ g : List (Event ι (ℕ × S × S) R), List.Forall₂ Same h g ∧
      Along (fun _ s m s' => m.2 = (s, s')) x.1 g x'.1 ∧ ∀ i,
        (∀ m ∈ stepsOf i g, n ≤ m.1) ∧ ((stepsOf i g).map Prod.fst).Nodup ∧
        P.Does x.1 (x.2 i) (stepsOf i h) ((stepsOf i g).map Prod.snd) := by
  induction hrun generalizing n with
  | nil x => exact ⟨[], .nil, .nil _, fun i => ⟨nofun, .nil, .nil ..⟩⟩
  | @invoke i _ _ _ _ ih =>
    obtain ⟨g, hsame, hg, hcalls⟩ := ih n
    exact ⟨.invoke i :: g, .cons (.invoke i) hsame, .invoke hg, hcalls⟩
  | @leave i r _ _ _ _ ih =>
    obtain ⟨g, hsame, hg, hcalls⟩ := ih n
    exact ⟨.leave i r :: g, .cons (.leave i r) hsame, .leave hg, hcalls⟩
  | @step i m x x₁ h x' hstep _ ih =>
    obtain ⟨g, hsame, hg, hcalls⟩ := ih (n + 1)
    obtain ⟨l, hact, hown, hothers⟩ := hstep
    refine ⟨.step i (n, x.1, x₁.1) :: g, .cons (.step i ..) hsame, .step rfl hg, fun j => ?_⟩
    obtain ⟨htimes, hnodup, hdoes⟩ := hcalls j
    rw [stepsOf_step, stepsOf_step]
    by_cases hj : j = i
    · subst hj
      rw [if_pos rfl, if_pos rfl]
      refine ⟨List.forall_mem_cons.mpr ⟨Nat.le_refl n, fun m hm => Nat.le_of_succ_le (htimes m hm)⟩, ?_, ?_⟩
      · refine List.nodup_cons.mpr ⟨fun hn => ?_, hnodup⟩
        obtain ⟨m, hm, hnm⟩ := List.mem_map.mp hn
        have hlate := htimes m hm
        dsimp only at hnm
        omega
      · rw [hown, Function.update_self] at hdoes
        exact .cons (P.rely_refl _ _) hact hdoes
    · rw [if_neg (Ne.symm hj), if_neg (Ne.symm hj)]
      refine ⟨fun m hm => Nat.le_of_succ_le (htimes m hm), hnodup, ?_⟩
      rw [hown, Function.update_of_ne hj] at hdoes
      exact hdoes.rely (hothers j hj)

omit [DecidableEq ι] in
/-- The steps of a history may do more than they must. -/
theorem Along.of_mem {effect effect' : ι → S → M → S → Prop} {s s' : S}
    (hrun : Along effect s h s')
    (himp : ∀ i m s s', .step i m ∈ h → effect i s m s' → effect' i s m s') : Along effect' s h s' := by
  induction hrun with
  | nil s => exact .nil s
  | invoke _ ih => exact .invoke (ih fun i m s s' hm => himp i m s s' (List.mem_cons_of_mem _ hm))
  | leave _ ih => exact .leave (ih fun i m s s' hm => himp i m s s' (List.mem_cons_of_mem _ hm))
  | step he _ ih =>
    exact .step (himp _ _ _ _ (List.mem_cons_self ..) he)
      (ih fun i m s s' hm => himp i m s s' (List.mem_cons_of_mem _ hm))

/-- The moment that does `P` is known by its number. -/
theorem Pointed.exists_time {Q : S → S → Prop} {ms : List (ℕ × S × S)}
    (hpointed : Pointed Q (ms.map Prod.snd)) (hnodup : (ms.map Prod.fst).Nodup) :
    ∃ t a b, ms.filter (fun m => m.1 = t) = [(t, a, b)] ∧ Q a b ∧
      ∀ m ∈ ms, m.1 ≠ t → m.2.2 = m.2.1 := by
  obtain ⟨before, a, b, after, hms, hbefore, hafter, hQ⟩ := hpointed
  obtain ⟨before, rest, rfl, rfl, hrest⟩ := List.map_eq_append_iff.mp hms
  obtain ⟨⟨t, m⟩, after, rfl, hm, rfl⟩ := List.map_eq_cons_iff.mp hrest
  obtain rfl : m = (a, b) := hm
  simp only [List.map_append, List.map_cons, List.nodup_append, List.nodup_cons] at hnodup
  obtain ⟨-, ⟨hlate, -⟩, hearly⟩ := hnodup
  refine ⟨t, a, b, ?_, hQ, fun m hm hne => ?_⟩
  · have hbefore : before.filter (fun m => m.1 = t) = [] := by
      refine List.filter_eq_nil_iff.mpr fun m hm => ?_
      simpa using hearly _ (List.mem_map_of_mem hm) t (List.mem_cons_self ..)
    have hafter : after.filter (fun m => m.1 = t) = [] := by
      refine List.filter_eq_nil_iff.mpr fun m hm => ?_
      have hne : m.1 ≠ t := fun heq => hlate (heq ▸ List.mem_map_of_mem hm)
      simpa using hne
    rw [List.filter_append, hbefore, List.filter_cons_of_pos (by simp), hafter, List.nil_append]
  · rcases List.mem_append.mp hm with hm | hm
    · exact hbefore _ (List.mem_map_of_mem hm)
    · rcases List.mem_cons.mp hm with rfl | hm
      · exact absurd rfl hne
      · exact hafter _ (List.mem_map_of_mem hm)

/-- **Many callers**, if the moments of every run are pointed. -/
theorem linearises_of_pointed {does : ι → List M → R → Prop} {spec : ι → S → R → S → Prop}
    {s s' : S} {l₀ : L} {ls : ι → L} (hc : Complete does h)
    (hrun : Along P.together (s, fun _ => l₀) h (s', ls))
    (hpoint : ∀ i ms r s xs, does i ms r → P.Does s l₀ ms xs →
      Pointed (fun a b => spec i a r b) xs) : ∃ order, Linearises spec h s s' order := by
  obtain ⟨g, hsame, hg, hcalls⟩ := exists_moments hrun 0
  -- the time at which each call does what it does
  have htime : ∀ i, ∃ t, ∀ ms r, does i ms r → ofCall i h = whole i ms r →
      ∃ a b, (stepsOf i g).filter (fun m => m.1 = t) = [(t, a, b)] ∧ spec i a r b ∧
        ∀ m ∈ stepsOf i g, m.1 ≠ t → m.2.2 = m.2.1 := by
    intro i
    rcases hc i with hnil | ⟨ms, r, hdoes, hwhole⟩
    · refine ⟨0, fun ms r _ hwhole => ?_⟩
      rw [hnil] at hwhole
      cases hwhole
    · obtain ⟨-, hnodup, hmoments⟩ := hcalls i
      rw [← stepsOf_ofCall, hwhole, stepsOf_whole] at hmoments
      obtain ⟨t, a, b, hfilter, hspec, hidle⟩ :=
        (hpoint i ms r _ _ hdoes hmoments).exists_time hnodup
      refine ⟨t, fun ms' r' hdoes' hwhole' => ⟨a, b, hfilter, ?_, hidle⟩⟩
      have hsame := hwhole.symm.trans hwhole'
      simp only [whole, List.cons.injEq, true_and] at hsame
      have hlast := (List.append_inj' hsame rfl).2
      obtain rfl : r = r' := by simpa using hlast
      exact hspec
  choose time htime using htime
  have hwhole : ∀ i m, .step i m ∈ g → ∃ ms r, does i ms r ∧ ofCall i h = whole i ms r := by
    intro i m hm
    refine (hc i).resolve_left fun hnil => ?_
    have hmem := mem_ofCall.mpr ⟨hm, rfl⟩
    rw [Event.call, ofCall_nil_of_same hsame hnil] at hmem
    cases hmem
  have hg' : Along (fun i s m s' => m.2 = (s, s') ∧ (m.1 ≠ time i → s' = s)) s g s' := by
    refine hg.of_mem fun i m a b hm heffect => ⟨heffect, fun hne => ?_⟩
    obtain ⟨ms, r, hdoes, hi⟩ := hwhole i m hm
    obtain ⟨-, -, -, -, hidle⟩ := htime i ms r hdoes hi
    have hsilent := hidle m (mem_stepsOf.mpr hm) hne
    rwa [heffect] at hsilent
  have hc' : Complete (fun i ns r => ns = stepsOf i g ∧
      ∃ ms, does i ms r ∧ ofCall i h = whole i ms r) g := by
    intro i
    rcases hc i with hnil | ⟨ms, r, hdoes, hi⟩
    · exact .inl (ofCall_nil_of_same hsame hnil)
    · exact .inr ⟨_, r, ⟨rfl, ms, hdoes, hi⟩, ofCall_of_same hsame hi⟩
  have hlin : Linearises spec g s s' _ := linearises_points (fun i m => decide (m.1 = time i)) hc' hg'
    (fun i m a b hne heffect => heffect.2 (of_decide_eq_false hne)) (by
      rintro i ns r ⟨rfl, ms, hdoes, hi⟩ -
      obtain ⟨a, b, hfilter, hspec, -⟩ := htime i ms r hdoes hi
      refine ⟨_, hfilter, fun a' b' heffect => ?_⟩
      obtain ⟨rfl, rfl⟩ := Prod.mk.inj heffect.1
      exact hspec)
  refine ⟨_, fun i => (hlin.calls i).trans (invoke_mem_of_same hsame i), hlin.nodup,
    fun i j r hij => hlin.realTime i j r (sublist_of_same hsame hij), ?_⟩
  have hleave : ∀ {s l s'}, InTurn spec g s l s' → InTurn spec h s l s' := by
    intro s l s' hturn
    induction hturn with
    | nil s => exact .nil s
    | cons hr hspec _ ih => exact .cons ((leave_mem_of_same hsame _ _).mp hr) hspec ih
  exact hleave hlin.inTurn

end Moments

/-! ### Coroutines -/

variable {D E : Driver} {ε σ X α : Type}

/-- What a call knows: what is shared, what it has of its own, and its moments so far. -/
structure Sight (S L : Type) where
  /-- What is shared. -/
  shared : S
  /-- What it has of its own. -/
  own : L
  /-- Its moments. -/
  moments : List (S × S)

namespace Party

variable (P : Party S L (Answer D ε))

/-- The world of a call among others. -/
def among : World D ε σ (Sight S L) where
  answers g q r g' := ∃ s, P.rely g.own g.shared s ∧ P.act s g.own ⟨q, r⟩ g'.shared g'.own ∧
    g'.moments = g.moments ++ [(s, g'.shared)]
  reads _ _ := True
  writes _ g := g

/-- The world of a call that is the only one. -/
def alone : World D ε σ (S × L) where
  answers g q r g' := P.act g.1 g.2 ⟨q, r⟩ g'.1 g'.2
  reads _ _ := True
  writes _ g := g

/-- The requests come one at a time. A call begins with nothing of its own. -/
def serve (l₀ : L) (code : (q : E.Call) → Coro D ε σ X (E.Reply q)) : Backend E X S :=
  fun s q r s' => ∃ l, (code q).EndsIn P.alone (s, l₀) r (s', l)

variable {P} {p : Coro D ε σ X α} {t : List (Answer D ε)} {o : Except X α} {s : S} {l : L}
  {xs : List (S × S)}

/-- **A run** among others. -/
theorem Does.endsIn (hdoes : P.Does s l t xs) (hend : p.Ends t o) (ms : List (S × S)) :
    ∃ s' l', p.EndsIn P.among ⟨s, l, ms⟩ o ⟨s', l', ms ++ xs⟩ := by
  induction hend generalizing s l xs ms with
  | ret a =>
    cases hdoes
    exact ⟨s, l, by simpa using .ret a _⟩
  | raise x =>
    cases hdoes
    exact ⟨s, l, by simpa using .raise x _⟩
  | read v _ ih =>
    obtain ⟨s', l', h⟩ := ih hdoes ms
    exact ⟨s', l', .read (s := v) trivial h⟩
  | write _ ih =>
    obtain ⟨s', l', h⟩ := ih hdoes ms
    exact ⟨s', l', .write h⟩
  | await r _ ih =>
    cases hdoes with
    | @cons _ _ _ s₁ s₂ l' _ xs hrely hact hrest =>
      obtain ⟨s', l'', h⟩ := ih hrest (ms ++ [(s₁, s₂)])
      rw [List.append_assoc] at h
      have hanswer : P.among.answers (σ := σ) ⟨s, l, ms⟩ _ r ⟨s₂, l', ms ++ [(s₁, s₂)]⟩ :=
        ⟨s₁, hrely, hact, rfl⟩
      exact ⟨s', l'', .await hanswer h⟩

/-- A run that is the only one is one among others that do nothing. -/
theorem endsIn_among {g g' : S × L} (hend : p.EndsIn P.alone g o g') (ms : List (S × S)) :
    ∃ xs, p.EndsIn P.among ⟨g.1, g.2, ms⟩ o ⟨g'.1, g'.2, ms ++ xs⟩ ∧ Linked g.1 xs g'.1 := by
  induction hend generalizing ms with
  | ret a g => exact ⟨[], by simpa using .ret a _, .nil _⟩
  | raise x g => exact ⟨[], by simpa using .raise x _, .nil _⟩
  | @read _ v _ _ _ _ _ ih =>
    obtain ⟨xs, h, hlinked⟩ := ih ms
    exact ⟨xs, .read (s := v) trivial h, hlinked⟩
  | write _ ih =>
    obtain ⟨xs, h, hlinked⟩ := ih ms
    exact ⟨xs, .write h, hlinked⟩
  | @await q k r g g₁ o g' hact _ ih =>
    obtain ⟨xs, h, hlinked⟩ := ih (ms ++ [(g.1, g₁.1)])
    rw [List.append_assoc] at h
    have hanswer : P.among.answers (σ := σ) ⟨g.1, g.2, ms⟩ q r ⟨g₁.1, g₁.2, ms ++ [(g.1, g₁.1)]⟩ :=
      ⟨g.1, P.rely_refl _ _, hact, rfl⟩
    exact ⟨(g.1, g₁.1) :: xs, .await hanswer h, .cons hlinked⟩

end Party

section Callers

variable {P : Party S L (Answer D ε)} {valid : E.Call → Prop}
  {code : (q : E.Call) → Coro D ε σ X (E.Reply q)} {T : Backend E X S} {l₀ : L}

/-- Each request, run among others, is answered at one of its moments. -/
def Party.Answers (P : Party S L (Answer D ε)) (l₀ : L) (valid : E.Call → Prop)
    (code : (q : E.Call) → Coro D ε σ X (E.Reply q)) (T : Backend E X S) : Prop :=
  ∀ q, valid q → ∀ s, (code q).wpIn P.among
    (fun a g => Pointed (fun s s' => T s q (.ok a) s') g.moments)
    (fun x g => Pointed (fun s s' => T s q (.error x) s') g.moments) ⟨s, l₀, []⟩

/-- **Many callers**. -/
theorem Party.Answers.linearises (h : P.Answers l₀ valid code T) {request : ℕ → E.Call}
    {hist : List (Event ℕ (Answer D ε) (Answer E X))} {s s' : S} {ls : ℕ → L}
    (hvalid : ∀ i, valid (request i)) (hc : Complete (running code request) hist)
    (hrun : Along P.together (s, fun _ => l₀) hist (s', ls)) :
    ∃ order, Linearises (answering T request) hist s s' order := by
  refine linearises_of_pointed hc hrun ?_
  rintro i t ⟨q, r⟩ s xs ⟨rfl, hend⟩ hdoes
  obtain ⟨s', l', hends⟩ := hdoes.endsIn hend []
  have hpost := hends.of_wpIn (h _ (hvalid i) s)
  cases r with
  | ok a => exact hpost.mono fun a b hT => ⟨rfl, hT⟩
  | error x => exact hpost.mono fun a b hT => ⟨rfl, hT⟩

/-- **One caller**. -/
theorem Party.Answers.refines (h : P.Answers l₀ valid code T) :
    Refines valid (P.serve l₀ code) T Eq := by
  rintro s _ q r s' rfl hq ⟨l, hend⟩
  obtain ⟨xs, hends, hlinked⟩ := Party.endsIn_among hend []
  have hpost := hends.of_wpIn (h q hq s)
  rw [List.nil_append] at hpost
  cases r with
  | ok a => exact ⟨s', hpost.of_linked hlinked, rfl⟩
  | error x => exact ⟨s', hpost.of_linked hlinked, rfl⟩

/-- **Callers at the same time**, and others after them, if each of them ends with nothing of its own. -/
theorem Party.exists_together (hserved : ∀ q s, ∃ r s', (code q).EndsIn P.alone (s, l₀) r (s', l₀))
    (hrely : ∀ s s', P.rely l₀ s s') (request : ℕ → E.Call) {calls later : List ℕ}
    (hnodup : (calls ++ later).Nodup) (s : S) : ∃ h x, Complete (running code request) h ∧
      Along P.together (s, fun _ => l₀) h x ∧ calls.map .invoke <+: h ∧
      (∀ i, .invoke i ∈ h ↔ i ∈ calls ++ later) ∧
      ∀ i ∈ calls, ∀ j ∈ later, ∃ r, [.leave i r, .invoke j].Sublist h := by
  have hrun : ∀ (i : ℕ) (x : S × (ℕ → L)), (x.2 = fun _ => l₀) → ∃ t a x', running code request i t a ∧
      Along P.together x (t.map (.step i) : List (Event ℕ (Answer D ε) (Answer E X))) x' ∧
      x'.2 = fun _ => l₀ := by
    rintro i ⟨s, _⟩ rfl
    obtain ⟨r, s', hend⟩ := hserved (request i) s
    -- the other callers have nothing of their own meanwhile
    have hstep : ∀ (g : S × L) q a (g' : S × L) (x : S × (ℕ → L)),
        x = (g.1, Function.update (fun _ => l₀) i g.2) → P.act g.1 g.2 ⟨q, a⟩ g'.1 g'.2 →
        ∃ x', P.together i x ⟨q, a⟩ x' ∧ x' = (g'.1, Function.update (fun _ => l₀) i g'.2) := by
      rintro ⟨s, l⟩ q a ⟨s', l'⟩ _ rfl hact
      refine ⟨_, ⟨l', ?_, (Function.update_idem ..).symm, fun j hj => ?_⟩, rfl⟩
      · dsimp only
        rw [Function.update_self]
        exact hact
      · dsimp only
        rw [Function.update_of_ne hj]
        exact hrely s s'
    have hupdate : (s, fun _ => l₀) = (s, Function.update (fun _ : ℕ => l₀) i l₀) := by
      rw [Function.update_eq_self]
    obtain ⟨t, _, hends, halong, rfl⟩ := hend.exists_along i hstep (fun _ _ => rfl) hupdate
    exact ⟨t, ⟨request i, r⟩, _, ⟨rfl, hends⟩, halong, Function.update_eq_self ..⟩
  obtain ⟨h, x, hheld, halong, hpre, hlater⟩ := exists_rounds hrun hnodup (s := (s, fun _ => l₀)) rfl
  exact ⟨h, x, hheld.complete, halong, hpre, fun i => hheld.invoke_mem_iff, hlater⟩

end Callers

end OpenframeAdapters.Python
