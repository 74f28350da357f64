import OpenframeAdapters.Db.Repository

/-!
# Escaping exceptions

An operation should raise nothing but an `AdapterError`. Whether it does is decided by what
the driver answers: an exception is translated if a clause around that call names it, and
otherwise leaves the operation; a reply may be one that the operation cannot use.

## The model

* `Policy` — for each call of an adapter, which classes are named around it, and which
  replies cannot be used.
* `Policy.escaping` — the exception that is on its way out after the driver has given certain
  answers. A later exception takes the place of an earlier one.
* `Exact` — an operation raises a raw exception exactly where one is on its way out, and it
  is that one.

## What is proved

* `Policy.escaping_eq_some_iff` — what is on its way out is the last failure that decides, if the classes
  around its own call do not name it, or what using a reply raises.
* `leaves_call`, `leaves_tryExcept`, `leaves_getClient` — the rules by which an operation is
  shown to be `Exact`, along its code.
-/

namespace OpenframeAdapters.Db

open Python OpenframeAdapters.Core

/-- The classes that some clause names. -/
def named {β : Type} (clauses : Clauses Cls β) : List Cls := clauses.flatMap Prod.fst

theorem isAny_named {β : Type} (clauses : Clauses Cls β) (exc : PyExc) :
    exc.isAny (named clauses) = (dispatch clauses exc).isSome :=
  Bool.eq_iff_iff.mpr dispatch_isSome_iff.symm

/-- The exception that leaves an operation, if it is not an `AdapterError`. -/
def rawPart {α : Type} : Except Raised α → Option PyExc
  | .error x => x.rawExc
  | .ok _ => none

/-- What an expression raises, if anything. -/
def errorOf {α : Type} : Except PyExc α → Option PyExc
  | .error exc => some exc
  | .ok _ => none

/-- What becomes of the answers of a driver. -/
structure Policy (D : Driver) where
  /-- The classes that are named around a call. -/
  names : D.Call → List Cls
  /-- What using a reply raises. -/
  unusable : (q : D.Call) → D.Reply q → Option PyExc

namespace Policy

variable {D : Driver} (P : Policy D)

/-- What an answer decides: `some exc` leaves, or, for `none`, nothing does. Most replies decide
nothing: the operation goes on, or goes on to raise what it was raising. -/
def decides : Answer D PyExc → Option (Option PyExc)
  | ⟨q, .ok a⟩ => (P.unusable q a).map some
  | ⟨q, .error exc⟩ => some (if exc.isAny (P.names q) then none else some exc)

/-- The exception that is on its way out after these answers: the last one that decides. -/
def escaping (t : List (Answer D PyExc)) : Option PyExc :=
  (t.reverse.findSome? P.decides).getD none

/-- The answer lets the exception out: it is raised by a call around which it is not named, or by using
the reply. -/
def LetsOut (exc : PyExc) : Answer D PyExc → Prop
  | ⟨q, .ok a⟩ => P.unusable q a = some exc
  | ⟨q, .error e⟩ => e = exc ∧ exc.isAny (P.names q) = false

theorem decides_eq_some_iff {a : Answer D PyExc} {exc : PyExc} :
    P.decides a = some (some exc) ↔ P.LetsOut exc a := by
  obtain ⟨q, e | a⟩ := a
  · change some (if e.isAny (P.names q) then none else some e) = some (some exc) ↔ _
    by_cases h : e.isAny (P.names q) = true
    · rw [if_pos h]
      refine ⟨nofun, ?_⟩
      rintro ⟨rfl, hnot⟩
      exact absurd h (Bool.eq_false_iff.mp hnot)
    · rw [if_neg h, Option.some.injEq, Option.some.injEq]
      refine ⟨?_, And.left⟩
      rintro rfl
      exact ⟨rfl, Bool.eq_false_iff.mpr h⟩
  · simp [decides, LetsOut]

/-- **What is on its way out**: the last failure, unless the classes around its own call name it, or
what using a reply raises. -/
theorem escaping_eq_some_iff {t : List (Answer D PyExc)} {exc : PyExc} :
    P.escaping t = some exc ↔ ∃ before a after, t = before ++ a :: after ∧ P.LetsOut exc a ∧
      ∀ b ∈ after, P.decides b = none := by
  have hfind : P.escaping t = some exc ↔ t.reverse.findSome? P.decides = some (some exc) := by
    unfold escaping
    cases t.reverse.findSome? P.decides <;> simp
  rw [hfind, List.findSome?_eq_some_iff]
  constructor
  · rintro ⟨after, a, before, heq, ha, hafter⟩
    refine ⟨before.reverse, a, after.reverse, ?_, P.decides_eq_some_iff.mp ha, fun b hb =>
      hafter b (List.mem_reverse.mp hb)⟩
    simpa using congrArg List.reverse heq
  · rintro ⟨before, a, after, rfl, ha, hafter⟩
    exact ⟨after.reverse, a, before.reverse, by simp, P.decides_eq_some_iff.mpr ha, fun b hb =>
      hafter b (List.mem_reverse.mp hb)⟩

/-- The exception that is on its way out after one more answer. -/
def observe (leaving : Option PyExc) (a : Answer D PyExc) : Option PyExc :=
  (P.decides a).getD leaving

theorem foldl_observe (leaving : Option PyExc) (t : List (Answer D PyExc)) :
    t.foldl P.observe leaving = (t.reverse.findSome? P.decides).getD leaving := by
  induction t generalizing leaving with
  | nil => rfl
  | cons a t ih =>
    rw [List.foldl_cons, ih, List.reverse_cons, List.findSome?_append]
    cases t.reverse.findSome? P.decides with
    | none => simp [observe]
    | some e => rfl

@[simp] theorem observe_ok {q : D.Call} {a : D.Reply q} (h : P.unusable q a = none)
    (leaving : Option PyExc) : P.observe leaving ⟨q, .ok a⟩ = leaving := by
  simp [observe, decides, h]

theorem observe_error (q : D.Call) (exc : PyExc) (leaving : Option PyExc) :
    P.observe leaving ⟨q, .error exc⟩ = if exc.isAny (P.names q) then none else some exc := rfl

end Policy

/-- An operation raises a raw exception exactly where one is on its way out, and that one. -/
def Exact {D : Driver} {σ α : Type} (P : Policy D) (p : Operation D σ α) : Prop :=
  ∀ t o, p.Ends t o → rawPart o = P.escaping t

/-! ### Rules -/

/-- Inside of these `except` clauses: where `p` raises, what the clauses let through is what is on
its way out. -/
def Leaves {D : Driver} {σ α : Type} (P : Policy D) (clauses : Clauses Cls AdapterError)
    (p : Operation D σ α) (Q : α → Option PyExc → Prop) (leaving : Option PyExc) : Prop :=
  p.wp P.observe Q (fun x leaving => leaving = (rethrow clauses x).rawExc) leaving

section Leaves

variable {D : Driver} {σ α β : Type} {P : Policy D} {clauses : Clauses Cls AdapterError}
  {Q : α → Option PyExc → Prop} {leaving : Option PyExc}

theorem translate_rawExc (exc : PyExc) :
    (translate clauses exc).rawExc = if exc.isAny (named clauses) then none else some exc := by
  rw [isAny_named]
  unfold Core.translate
  cases dispatch clauses exc <;> rfl

theorem rawExc_rethrow_nil (x : Raised) : (rethrow [] x).rawExc = x.rawExc := by
  cases x <;> rfl

theorem leaves_pure {a : α} (h : Q a leaving) :
    Leaves P clauses (pure a : Operation D σ α) Q leaving := h

theorem leaves_bind {p : Operation D σ β} {f : β → Operation D σ α}
    (h : Leaves P clauses p (fun b => Leaves P clauses (f b) Q) leaving) :
    Leaves P clauses (p >>= f) Q leaving := Coro.wp_bind.mpr h

/-- An `AdapterError` is raised where nothing else is on its way out. -/
theorem leaves_fail (err : AdapterError) :
    Leaves P clauses (fail err : Operation D σ α) Q none := rfl

/-- A call inside of the clauses that name its exceptions. -/
theorem leaves_call {q : D.Call} {Q : D.Reply q → Option PyExc → Prop}
    (hq : P.names q = named clauses) (h : ∀ a, Q a (P.observe leaving ⟨q, .ok a⟩)) :
    Leaves P clauses (call q : Operation D σ _) Q leaving := by
  refine Coro.wp_call.mpr ⟨h, fun exc => ?_⟩
  rw [P.observe_error, hq]
  exact (translate_rawExc exc).symm

/-- A reply is used outside of any clauses. -/
theorem leaves_eval {r : Except PyExc α} (h : ∀ a, r = .ok a → Q a none) :
    Leaves P [] (eval r : Operation D σ α) Q (errorOf r) := by
  cases r with
  | ok a => exact h a rfl
  | error exc => exact rfl

/-- A `finally` block: where it raises, that takes the place of what was on its way out. -/
theorem leaves_tryFinally {p : Operation D σ α} {fin : Operation D σ Unit}
    (h : Leaves P clauses p (fun a => Leaves P clauses fin fun _ => Q a) leaving)
    (hfin : ∀ x : Raised, Leaves P clauses fin (fun _ g => g = (rethrow clauses x).rawExc)
      (rethrow clauses x).rawExc) :
    Leaves P clauses (p.tryFinally fin) Q leaving := by
  refine Coro.wp_tryFinally.mpr (Coro.wp_mono (fun _ _ => id) (fun x g hg => ?_) h)
  rw [hg]
  exact hfin x

/-- A `try` whose clauses all raise. -/
theorem leaves_tryExcept {p : Operation D σ α} (h : Leaves P clauses p Q leaving) :
    Leaves P [] (tryExcept clauses p) Q leaving := by
  refine Coro.wp_tryCatch.mpr (Coro.wp_mono (fun _ _ => id) (fun x g hg => ?_) h)
  cases x with
  | raw exc =>
    rw [hg]
    exact (rawExc_rethrow_nil _).symm
  | adapter err => exact hg

/-- It is enough to follow the code. -/
theorem exact_of_leaves {p : Operation D σ α} (h : Leaves P [] p (fun _ g => g = none) none) :
    Exact P p := by
  intro t o ht
  have hp := ht.of_wp h
  rw [P.foldl_observe] at hp
  cases o with
  | ok a => exact hp.symm
  | error x => exact (rawExc_rethrow_nil x).symm.trans hp.symm

end Leaves

/-! ### The client -/

section Client

variable {S K A σ : Type} {C : Driver}

/-- The policy of an adapter: the clauses of its factory around the calls that concern the
client, and what is given of the commands. -/
def Factory.policy (f : Factory S K A) (names : C.Call → List Cls)
    (unusable : (q : C.Call) → C.Reply q → Option PyExc := fun _ _ => none) :
    Policy (connecting A C) where
  names
    | .inl (.construct _) => named f.initErrors
    | .inl (.connect _) | .inl (.probe _) => named f.connectErrors
    | .inl (.close _) => []
    | .inr q => names q
  unusable
    | .inl _, _ => none
    | .inr q, a => unusable q a

variable {f : Factory S K A} {names : C.Call → List Cls}
  {unusable : (q : C.Call) → C.Reply q → Option PyExc}

@[simp] theorem observe_connect_ok (q : ConnectCall A) (a : q.Reply) (leaving : Option PyExc) :
    (f.policy names unusable).observe leaving ⟨.inl q, .ok a⟩ = leaving := rfl

/-- A command inside of the clauses that name its exceptions. -/
theorem leaves_command {clauses : Clauses Cls AdapterError} {q : C.Call}
    {Q : C.Reply q → Option PyExc → Prop} (hq : names q = named clauses)
    (h : ∀ a, Q a (unusable q a)) :
    Leaves (f.policy names unusable) clauses (command q : Operation (connecting A C) σ _) Q
      none := by
  refine leaves_call hq fun a => ?_
  have hobs : (f.policy names unusable).observe none ⟨.inr q, .ok a⟩ = unusable q a := by
    change ((unusable q a).map some).getD none = _
    cases unusable q a <;> rfl
  exact hobs ▸ h a

/-- A client is closed, or not, before the exception of its first command goes on. -/
theorem leaves_giveUp {c : ℕ} {exc : PyExc} {Q : Unit → Option PyExc → Prop} :
    Leaves (f.policy names unusable) []
      (f.giveUp c (.raw exc) : Operation (connecting A C) σ Unit) Q
      (if exc.isAny (named f.connectErrors) then none else some exc) := by
  rw [← translate_rawExc]
  have hraise : Leaves (f.policy names unusable) []
      (.raise (translate f.connectErrors exc) : Operation (connecting A C) σ Unit) Q
      (translate f.connectErrors exc).rawExc := (rawExc_rethrow_nil _).symm
  change Leaves _ _ (if f.discards exc then _ else _) _ _
  split_ifs
  · exact leaves_bind (leaves_call rfl fun _ => hraise)
  · exact hraise

/-- A client is made. -/
theorem leaves_makeClient {settings : S} {Q : ℕ → Option PyExc → Prop} (h : ∀ c, Q c none) :
    Leaves (f.policy names unusable) [] (f.makeClient settings : Operation (connecting A C) σ ℕ) Q
      none := by
  have hconnect : Leaves (f.policy names unusable) [] (tryExcept f.connectErrors
      (call (D := connecting A C) (.inl (.connect (f.arguments settings)))) :
        Operation (connecting A C) σ ℕ) Q none :=
    leaves_tryExcept (leaves_call rfl fun c => h c)
  unfold Factory.makeClient
  cases f.making with
  | awaited => exact hconnect
  | executor => exact hconnect
  | probed closing =>
    refine leaves_bind (leaves_tryExcept (leaves_call rfl fun c => ?_))
    exact leaves_bind (Coro.wp_tryCatch.mpr (Coro.wp_call.mpr ⟨fun _ => h c,
      fun exc => leaves_giveUp⟩))

/-- `get_*` on behalf of an operation. -/
theorem leaves_getClient {settings : S} {cached : σ → Option ℕ} {store : ℕ → σ → σ}
    {Q : ℕ → Option PyExc → Prop} (h : ∀ c, Q c none) :
    Leaves (f.policy names unusable) []
      (f.getClient settings cached store : Operation (connecting A C) σ ℕ) Q none := by
  refine leaves_bind (Coro.wp_get.mpr fun s => ?_)
  cases cached s with
  | some c => exact h c
  | none =>
    cases f.refuses settings with
    | some err => exact leaves_fail err
    | none => exact leaves_bind (leaves_makeClient fun c => h c)

end Client

end OpenframeAdapters.Db
