import OpenframeAdapters.Db.Server
import OpenframeAdapters.Python.History

/-!
# Concurrent writes

Four repositories look whether an entity is there before they update or delete it. The look and the
write are two round trips, and other calls may come between them.

## The model

* `Write` — a call of `create()`, `update()` or `delete()`.
* `Sequential` — what these calls do one at a time.
* `StillThere` — the write of an `update()` or a `delete()` finds the entity in its place.
* `settles` — the answer that decides a call: to its write, or to a look that finds nothing.

## What is proved

* `linearisable_of_agrees` — the calls are linearisable, if the answer that settles a call always
  agrees with what it does on its own.
* `Deletes.not_linearisable` — two deletions that both look before either writes are not.
-/

namespace OpenframeAdapters.Db

open Python OpenframeAdapters.Core

/-- A call that writes. -/
inductive Write (K T : Type) where
  /-- `create(entity)`. -/
  | create (entity : T)
  /-- `update(entity)`. -/
  | update (entity : T)
  /-- `delete(entity_id)`. -/
  | delete (id : K)

/-- What it returns. -/
inductive Written (T : Type) where
  /-- The entity that has been created. -/
  | created (entity : T)
  /-- The entity that has been updated, or `None`. -/
  | updated (entity : Option T)
  /-- Whether there was one to delete. -/
  | deleted (found : Bool)

/-- Run a call. -/
def perform {D : Driver} {σ K T : Type} (create : T → Operation D σ T)
    (update : T → Operation D σ (Option T)) (delete : K → Operation D σ Bool) :
    Write K T → Operation D σ (Written T)
  | .create entity => do return .created (← create entity)
  | .update entity => do return .updated (← update entity)
  | .delete id => do return .deleted (← delete id)

section Perform

variable {D : Driver} {σ γ K T : Type} {create : T → Operation D σ T}
  {update : T → Operation D σ (Option T)} {delete : K → Operation D σ Bool}
  {W : World D PyExc σ γ} {Q : Written T → γ → Prop} {E : Raised → γ → Prop} {g : γ}

theorem wpIn_create {entity : T} :
    (perform create update delete (.create entity)).wpIn W Q E g ↔
      (create entity).wpIn W (fun e g => Q (.created e) g) E g := Coro.wpIn_bind

theorem wpIn_update {entity : T} :
    (perform create update delete (.update entity)).wpIn W Q E g ↔
      (update entity).wpIn W (fun e g => Q (.updated e) g) E g := Coro.wpIn_bind

theorem wpIn_delete {id : K} :
    (perform create update delete (.delete id)).wpIn W Q E g ↔
      (delete id).wpIn W (fun found g => Q (.deleted found) g) E g := Coro.wpIn_bind

end Perform

/-- What the calls do one at a time, to a server with the state `β`. -/
structure Sequential (K T β : Type) where
  /-- The id of the call is there. -/
  found : Write K T → β → Bool
  /-- `create(entity)`. -/
  create : T → β → Except Raised T × β
  /-- `update(entity)`, of an entity that is there. -/
  change : T → β → Except Raised T × β
  /-- `delete(entity_id)`, of an entity that is there. -/
  remove : K → β → β

/-- `update()` returns `None`, and `delete()` returns `False`, exactly where the id is not there, and
then they change nothing. -/
def Sequential.run {K T β : Type} (S : Sequential K T β) (op : Write K T) (b : β) :
    Except Raised (Written T) × β :=
  match op with
  | .create entity => ((S.create entity b).1.map .created, (S.create entity b).2)
  | .update entity =>
    if S.found op b then ((S.change entity b).1.map (.updated ∘ some), (S.change entity b).2)
    else (.ok (.updated none), b)
  | .delete id => if S.found op b then (.ok (.deleted true), S.remove id b) else (.ok (.deleted false), b)

section Settles

variable {A K T β σ α : Type} {C : Driver} (writes : C.Call → Bool)

/-- If this is the write of an `update()` or a `delete()`, then the id is still there. -/
def StillThere (S : Sequential K T β) (op : Write K T) (b : β) (q : C.Call) : Prop :=
  match op with
  | .create _ => True
  | .update _ | .delete _ => writes q = true → S.found op b = true

/-- The same of an answer. -/
def Finds (S : Sequential K T β) (op : Write K T) (b : β) (a : Answer (connecting A C) PyExc) :
    Prop :=
  match a.call with
  | .inl _ => True
  | .inr q => StillThere writes S op b q

/-- The answer decides the call. `idle` says that a reply is the last that the call asks for without
a write. -/
def settles (idle : (q : C.Call) → C.Reply q → Bool) :
    Answer (connecting A C) PyExc → Bool
  | ⟨.inl _, _⟩ => false
  | ⟨.inr q, .ok r⟩ => writes q || idle q r
  | ⟨.inr q, .error _⟩ => writes q

variable {writes} {idle : (q : C.Call) → C.Reply q → Bool}
  {f : (q : C.Call) → β → Except PyExc (C.Reply q) × β}

/-- The other answers leave the server as it was. -/
theorem silent_of_not_settles (hf : ∀ q b, writes q = false → (f q b).2 = b)
    (a : Answer (connecting A C) PyExc) {b b' : β} (ha : settles writes idle a = false)
    (hB : connected (Backend.of f) b a.call a.reply b') : b' = b := by
  obtain ⟨q | q, r⟩ := a
  · exact hB.2
  · have hwrites : writes q = false := by
      cases r with
      | ok r => exact (Bool.or_eq_false_iff.mp ha).1
      | error exc => exact ha
    rw [← hf q b hwrites, show f q b = (r, b') from hB]

/-- What a call sees of the server, apart from what settles it. -/
theorem connects_points (B : Backend C PyExc β) : Connects (A := A) (σ := σ)
    (World.points (connected B) (settles writes idle)) where
  answers := by
    rintro g q r g' ⟨⟨b, b', hB⟩, hg⟩
    exact ⟨hB.1, hg⟩
  writes _ _ := rfl

variable {E : Raised → List (Answer (connecting A C) PyExc) → Prop}

/-- **Commands**: any state of the server may have been there to answer. -/
theorem wpIn_command_points {q : C.Call}
    {Q : C.Reply q → List (Answer (connecting A C) PyExc) → Prop}
    (h : ∀ b, Coro.Promised Q (fun exc g => E (.raw exc) g)
      (if settles (A := A) writes idle ⟨.inr q, (f q b).1⟩ = true then [⟨.inr q, (f q b).1⟩] else [])
      (f q b).1) :
    (command (A := A) (σ := σ) q).wpIn
      (World.points (connected (Backend.of f)) (settles writes idle)) Q E [] := by
  refine Coro.wpIn_call.mpr ⟨?_, ?_⟩
  · rintro r g' ⟨⟨b, b', hB⟩, rfl⟩
    have hr := h b
    rw [show f q b = (.ok r, b') from hB] at hr
    exact hr
  · rintro exc g' ⟨⟨b, b', hB⟩, rfl⟩
    have hr := h b
    rw [show f q b = (.error exc, b') from hB] at hr
    exact hr

variable (writes f) in
/-- The one answer that has settled the call agrees with what it does on its own. -/
def Agrees (S : Sequential K T β) (op : Write K T) (o : Except Raised (Written T))
    (g : List (Answer (connecting A C) PyExc)) : Prop :=
  ∃ a, g = [a] ∧ ∀ b b', connected (Backend.of f) b a.call a.reply b' → Finds writes S op b a →
    S.run op b = (o, b')

/-- It is enough to look at the states in which the server gives this answer. -/
theorem agrees_of_run {S : Sequential K T β} {op : Write K T} {o : Except Raised (Written T)}
    {q : C.Call} {r : Except PyExc (C.Reply q)}
    (h : ∀ b, (f q b).1 = r → StillThere writes S op b q → S.run op b = (o, (f q b).2)) :
    Agrees (A := A) writes f S op o [⟨.inr q, r⟩] := by
  refine ⟨_, rfl, fun b b' hB hthere => ?_⟩
  have hf : f q b = (r, b') := hB
  rw [h b (congrArg Prod.fst hf) hthere, hf]

/-- **Linearisability**: every call is settled by one answer that agrees with what it does on its
own. -/
theorem linearisable_of_agrees {valid : Write K T → Prop} {S : Sequential K T β}
    {code : Write K T → Operation (connecting A C) σ (Written T)}
    (idles : Write K T → (q : C.Call) → C.Reply q → Bool)
    (hf : ∀ q b, writes q = false → (f q b).2 = b)
    (hcode : ∀ op, valid op → (code op).wpIn
      (World.points (connected (Backend.of f)) (settles writes (idles op)))
      (fun r g => Agrees writes f S op (.ok r) g) (fun x g => Agrees writes f S op (.error x) g) []) :
    Linearisable valid code (connected (Backend.of f)) (Finds writes S)
      (fun op b o b' => S.run op b = (o, b')) :=
  linearisable_of_points (fun op => settles writes (idles op))
    (fun _ _ a _ ha hB => silent_of_not_settles hf a ha hB) hcode

/-! ### Two deletions -/

section Deletes

variable (code : Write K T → Operation (connecting A C) σ (Written T))
  (f : (q : C.Call) → β → Except PyExc (C.Reply q) × β) (S : Sequential K T β)

/-- How `delete()` of an entity that is there goes, and what it leaves behind. -/
structure Deletes (id : K) (look write miss : Answer (connecting A C) PyExc) (b b₁ : β) : Prop where
  /-- It looks, and then writes. -/
  finds : (code (.delete id)).Ends [look, write] (.ok (.deleted true))
  /-- It looks in vain. -/
  misses : (code (.delete id)).Ends [miss] (.ok (.deleted false))
  /-- The entity is seen. -/
  seen : connected (Backend.of f) b look.call look.reply b
  /-- The write removes it. -/
  erased : connected (Backend.of f) b write.call write.reply b₁
  /-- The write does no more where the entity is gone. -/
  again : connected (Backend.of f) b₁ write.call write.reply b₁
  /-- The entity is no longer seen. -/
  unseen : connected (Backend.of f) b₁ miss.call miss.reply b₁
  /-- One at a time, the first deletion finds the entity and removes it. -/
  first : S.run (.delete id) b = (.ok (.deleted true), b₁)
  /-- The second does not find it. -/
  second : S.run (.delete id) b₁ = (.ok (.deleted false), b₁)

variable {code f S} {id : K} {look write miss : Answer (connecting A C) PyExc} {b b₁ : β}

/-- Both deletions look before either of them writes. -/
def crossing (T : Type) (look write : Answer (connecting A C) PyExc) :
    List (Event ℕ (Answer (connecting A C) PyExc) (Except Raised (Written T))) :=
  [.invoke 0, .invoke 1, .step 0 look, .step 1 look, .step 0 write, .step 1 write,
    .leave 0 (.ok (.deleted true)), .leave 1 (.ok (.deleted true))]

/-- The second deletion looks after the first has written. -/
def following (T : Type) (look write miss : Answer (connecting A C) PyExc) :
    List (Event ℕ (Answer (connecting A C) PyExc) (Except Raised (Written T))) :=
  [.invoke 0, .invoke 1, .step 0 look, .step 0 write, .step 1 miss,
    .leave 1 (.ok (.deleted false)), .leave 0 (.ok (.deleted true))]

theorem Deletes.complete_crossing (h : Deletes code f S id look write miss b b₁) :
    Complete (fun _ => (code (.delete id)).Ends) (crossing T look write) := by
  intro i
  match i with
  | 0 | 1 => exact .inr ⟨_, _, h.finds, rfl⟩
  | i + 2 => exact .inl (by simp [crossing, Event.call, ofCall])

theorem Deletes.complete_following (h : Deletes code f S id look write miss b b₁) :
    Complete (fun _ => (code (.delete id)).Ends) (following T look write miss) := by
  intro i
  match i with
  | 0 => exact .inr ⟨_, _, h.finds, rfl⟩
  | 1 => exact .inr ⟨_, _, h.misses, rfl⟩
  | i + 2 => exact .inl (by simp [following, Event.call, ofCall])

/-- Both deletions succeed, and one at a time the second could not. -/
theorem Deletes.not_linearisable (h : Deletes code f S id look write miss b b₁)
    {valid : Write K T → Prop} (hvalid : valid (.delete id)) :
    ¬ Linearisable valid code (connected (Backend.of f)) (fun _ _ _ => True)
      fun op b o b' => S.run op b = (o, b') := by
  intro hlin
  have hrun : Along (fun _ b (a : Answer (connecting A C) PyExc) b' =>
      connected (Backend.of f) b a.call a.reply b' ∧ True) b (crossing T look write) b₁ :=
    .invoke (.invoke (.step ⟨h.seen, trivial⟩ (.step ⟨h.seen, trivial⟩ (.step ⟨h.erased, trivial⟩
      (.step ⟨h.again, trivial⟩ (.leave (.leave (.nil b₁))))))))
  obtain ⟨order, hcalls, -, -, hturn⟩ := hlin (fun _ => .delete id) _ b b₁ (fun _ => hvalid)
    h.complete_crossing hrun
  have hzero : 0 ∈ order := (hcalls 0).mpr (by simp [crossing])
  have hone : 1 ∈ order := (hcalls 1).mpr (by simp [crossing])
  have hresult : ∀ {i r}, .leave i r ∈ crossing T look write → r = .ok (.deleted true) := by
    intro i r hr
    simp only [crossing, List.mem_cons, reduceCtorEq, Event.leave.injEq, List.not_mem_nil, or_false,
      false_or] at hr
    exact hr.elim And.right And.right
  cases hturn with
  | nil => cases hzero
  | cons hr hs hturn =>
    cases hturn with
    | nil =>
      rw [List.mem_singleton] at hzero hone
      omega
    | cons hr' hs' _ =>
      rw [h.first, Prod.mk.injEq] at hs
      obtain ⟨-, rfl⟩ := hs
      rw [h.second, Prod.mk.injEq] at hs'
      cases hs'.1.trans (hresult hr')

/-- As long as the entity is there, every write finds it. -/
theorem finds_of_found {op : Write K T} (h : S.found op b = true)
    (a : Answer (connecting A C) PyExc) : Finds writes S op b a := by
  obtain ⟨q | q, r⟩ := a
  · trivial
  · cases op with
    | create entity => trivial
    | update entity => exact fun _ => h
    | delete id => exact fun _ => h

/-- If the second looks after the first has written, an order is found. -/
theorem Deletes.exists_order (h : Deletes code f S id look write miss b b₁)
    {valid : Write K T → Prop} (hvalid : valid (.delete id))
    (hlin : Linearisable valid code (connected (Backend.of f)) (Finds writes S)
      fun op b o b' => S.run op b = (o, b'))
    (hfound : S.found (.delete id) b = true) (hmiss : Finds writes S (.delete id) b₁ miss) :
    ∃ order, Linearises (fun _ b o b' => S.run (.delete id) b = (o, b'))
      (following T look write miss) b b₁ order :=
  hlin (fun _ => .delete id) _ b b₁ (fun _ => hvalid) h.complete_following
    (.invoke (.invoke (.step ⟨h.seen, finds_of_found hfound look⟩
      (.step ⟨h.erased, finds_of_found hfound write⟩ (.step ⟨h.unseen, hmiss⟩
        (.leave (.leave (.nil b₁))))))))

end Deletes

end Settles

end OpenframeAdapters.Db
