import OpenframeAdapters.Db.Server
import OpenframeAdapters.Db.Single
import OpenframeAdapters.Sql.Table
import OpenframeAdapters.Store.Transactions

/-!
# Operations in transactions

An operation takes a connection out of the pool, does its work in a transaction on it, commits, and gives
the connection back. Other operations run at the same time, and any call may fail.

## The model

* `callers` — the callers of a table, through an adapter whose calls are deeds (`deed`).
* `lossy` — a request may raise although nothing is wrong with it; then it has been done, or not.
* `At` — a request is answered at one of the moments of a run.
* `Ready` — a request is answered by a commit, or has been answered.
* `executes` — what a text does to a table, and tells.
* `Transacted`, `Reliable` — what should hold of a repository whose operations are transactions.

## What is proved

* `wpIn_client`, `wpIn_onConnection`, `wpIn_onCursor`, `wpIn_first`, `wpIn_fetch`, `wpIn_written`,
  `wpIn_thenCommit` — the rules for the calls.
* `transacted_of_answers`, `reliable_of_transacted` — it holds, if each request is answered at one of its
  moments.
-/

namespace OpenframeAdapters.Db

open Python OpenframeAdapters.Core

open Store (Keyed Client Deed Outcome Proper effect transactions)

variable {A σ K S X Q I α β : Type} {C R : Driver}

/-- A request may raise for no reason. -/
def lossy (faults : Prop) (B : Backend R Raised β) : Backend R Raised β := fun b q r b' =>
  B b q r b' ∨ faults ∧ r.isOk = false ∧ (b' = b ∨ ∃ r', B b q r' b')

/-- What an answer is to a client. -/
def deedBy (deed : (q : C.Call) → Except PyExc (C.Reply q) → Deed PyExc Q I X) :
    Answer (connecting A C) PyExc → Deed PyExc Q I X
  | ⟨.inl _, r⟩ => .other r.isOk
  | ⟨.inr q, r⟩ => deed q r

section Rules

variable [DecidableEq K] (faults : Prop) (exec : Q → Keyed K S → Except PyExc (Outcome I X K S))
  (deed : (q : C.Call) → Except PyExc (C.Reply q) → Deed PyExc Q I X)

/-- The callers, as clients of a table. -/
def callers : Party (Keyed K S) (Client K S X) (Answer (connecting A C) PyExc) where
  act m l a := (transactions faults exec).act m l (deedBy deed a)
  rely := (transactions faults exec).rely
  rely_refl := (transactions faults exec).rely_refl
  rely_trans := (transactions faults exec).rely_trans

/-- The request is answered at one of the moments. -/
def At (B : Backend R Raised (Keyed K S)) (ask : R.Call) (r : Except Raised (R.Reply ask))
    (ms : List (Keyed K S × Keyed K S)) : Prop :=
  Pointed (fun m m' => lossy faults B m ask r m') ms

/-- What has been written is as it was. -/
def Keeps (g : Sight (Keyed K S) (Client K S X)) (m : Keyed K S) : Prop :=
  ∀ w ∈ g.own.work, m.lookup w.1 = g.shared.lookup w.1

variable {faults exec deed} {B : Backend R Raised (Keyed K S)} {ask : R.Call}
  {r : Except Raised (R.Reply ask)} {ms : List (Keyed K S × Keyed K S)} {m : Keyed K S}
  {g : Sight (Keyed K S) (Client K S X)} {x : Raised} {conn : Option ℕ} {cur : ℕ}

omit [DecidableEq K] in
theorem At.snoc (h : At faults B ask r ms) (m : Keyed K S) : At faults B ask r (ms ++ [(m, m)]) :=
  Pointed.snoc h m

omit [DecidableEq K] in
/-- What has been answered may be lost. -/
theorem At.lost (hf : faults) (h : At faults B ask r ms) (x : Raised) :
    At faults B ask (.error x) ms := by
  refine Pointed.mono h fun m m' hm => .inr ⟨hf, rfl, ?_⟩
  rcases hm with hm | ⟨-, -, hm⟩
  · exact .inr ⟨r, hm⟩
  · exact hm

omit [DecidableEq K] in
/-- Nothing has been done, and now something fails. -/
theorem at_of_idle (hf : faults) (h : Idle ms) (m : Keyed K S) (x : Raised) :
    At faults B ask (.error x) (ms ++ [(m, m)]) :=
  h.pointed (.inr ⟨hf, rfl, .inl rfl⟩)

theorem Keeps.trans {m' : Keyed K S} {ms : List (Keyed K S × Keyed K S)} (h : Keeps g m)
    (h' : Keeps ⟨m, g.own, ms⟩ m') : Keeps g m' := fun w hw => (h' w hw).trans (h w hw)

/-- It has failed. The client has still what it had. -/
def Failed (faults : Prop) (B : Backend R Raised (Keyed K S)) (ask : R.Call)
    (clauses : Clauses Cls AdapterError) (l : Client K S X) (x : Raised)
    (g : Sight (Keyed K S) (Client K S X)) : Prop :=
  g.own.conn = l.conn ∧ l.cursors ⊆ g.own.cursors ∧
    At faults B ask (.error (rethrow clauses x)) g.moments

/-- The request is answered when the client commits, or has been answered. -/
def Ready (faults : Prop) (B : Backend R Raised (Keyed K S)) (ask : R.Call)
    (r : Except Raised (R.Reply ask)) (g : Sight (Keyed K S) (Client K S X)) : Prop :=
  Idle g.moments ∧ (∀ m, Keeps g m → B m ask r (g.own.sees m)) ∨
    At faults B ask r g.moments ∧ g.own.work = []

theorem Ready.snoc (h : Ready faults B ask r g) (hm : Keeps g m) :
    Ready faults B ask r ⟨m, g.own, g.moments ++ [(m, m)]⟩ := by
  rcases h with ⟨hidle, hB⟩ | ⟨hat, hwork⟩
  · exact .inl ⟨hidle.snoc m, fun m' hm' => hB m' (hm.trans hm')⟩
  · exact .inr ⟨hat.snoc m, hwork⟩

/-- Whatever fails then. -/
theorem Ready.lost (h : Ready faults B ask r g) (hf : faults) (x : Raised) (m : Keyed K S) :
    At faults B ask (.error x) (g.moments ++ [(m, m)]) := by
  rcases h with ⟨hidle, -⟩ | ⟨hat, -⟩
  · exact at_of_idle hf hidle m x
  · exact (hat.snoc m).lost hf x

/-- It has been told by what a block returns. -/
def Told (faults : Prop) (B : Backend R Raised (Keyed K S)) (H : α → R.Reply ask → Prop) (b : α)
    (g : Sight (Keyed K S) (Client K S X)) : Prop :=
  ∃ a, H b a ∧ Ready faults B ask (.ok a) g

variable {H : α → R.Reply ask → Prop} {b : α}

theorem Told.ready (h : Told faults B H b g) : ∃ r, Ready faults B ask r g := by
  obtain ⟨a, -, hready⟩ := h
  exact ⟨.ok a, hready⟩

theorem Told.snoc (hm : Keeps g m) (h : Told faults B H b g) :
    Told faults B H b ⟨m, g.own, g.moments ++ [(m, m)]⟩ := by
  obtain ⟨a, ha, hready⟩ := h
  exact ⟨a, ha, hready.snoc hm⟩

theorem Ready.commit (h : Ready faults B ask r g) (hm : Keeps g m) :
    At faults B ask r (g.moments ++ [(m, g.own.sees m)]) := by
  rcases h with ⟨hidle, hB⟩ | ⟨hat, hwork⟩
  · exact hidle.pointed (.inl (hB m hm))
  · rw [Client.sees_of_work hwork]
    exact hat.snoc m

variable {clauses : Clauses Cls AdapterError} {q : C.Call}
  {E : Raised → Sight (Keyed K S) (Client K S X) → Prop}

/-- **Calls**: the others may have done something since the last one. -/
theorem wpIn_deed {Q' : C.Reply q → Sight (Keyed K S) (Client K S X) → Prop}
    (h : ∀ r m m' l, Keeps g m →
      (Proper g.own (deed q r) → effect faults exec m g.own (deed q r) m' l) →
      Coro.Promised Q' (fun e g => E (.raw e) g) ⟨m', l, g.moments ++ [(m, m')]⟩ r) :
    (command (A := A) (σ := σ) q).wpIn (callers faults exec deed).among Q' E g := by
  refine Coro.wpIn_call.mpr ⟨?_, ?_⟩
  · rintro a ⟨m', l, ms⟩ ⟨m, hm, hact, hms⟩
    obtain rfl : ms = g.moments ++ [(m, m')] := hms
    exact h (.ok a) m m' l hm hact
  · rintro e ⟨m', l, ms⟩ ⟨m, hm, hact, hms⟩
    obtain rfl : ms = g.moments ++ [(m, m')] := hms
    exact h (.error e) m m' l hm hact

/-- **Statements**. -/
theorem wpIn_statement {stmt : Q} {f : C.Reply q → I}
    {Q' : C.Reply q → Sight (Keyed K S) (Client K S X) → Prop}
    (hdeed : ∀ r, deed q r = .execute cur stmt (r.map f)) (hcur : cur ∈ g.own.cursors)
    (hidle : Idle g.moments)
    (herror : ∀ e m, Keeps g m → exec stmt (g.own.sees m) = .error e →
      B m ask (.error (rethrow clauses (.raw e))) m)
    (hok : ∀ a m done, Keeps g m → exec stmt (g.own.sees m) = .ok done → done.info = f a →
      Q' a ⟨m, g.own.executed cur done, g.moments ++ [(m, m)]⟩) :
    (command (A := A) (σ := σ) q).wpIn (callers faults exec deed).among Q'
      (Failed faults B ask clauses g.own) g := by
  refine wpIn_deed fun r m m' l hm heffect => ?_
  rw [hdeed] at heffect
  cases r with
  | ok a =>
    obtain ⟨rfl, done, hdone, hinfo, rfl⟩ := heffect hcur
    exact hok a _ done hm hdone hinfo
  | error e =>
    obtain ⟨rfl, h⟩ := heffect hcur
    rcases h with ⟨hexec, rfl⟩ | ⟨hf, h⟩
    · exact ⟨rfl, fun _ => id, hidle.pointed (.inl (herror e _ hm hexec))⟩
    · have hat : At faults B ask (.error (rethrow clauses (.raw e))) (g.moments ++ [(m', m')]) :=
        at_of_idle hf hidle m' _
      rcases h with rfl | ⟨done, -, rfl⟩
      · exact ⟨rfl, fun _ => id, hat⟩
      · exact ⟨rfl, fun _ => id, hat⟩

/-- **Fetching** gives out the first row. -/
theorem wpIn_fetch {f : C.Reply q → Option X}
    {Q' : C.Reply q → Sight (Keyed K S) (Client K S X) → Prop}
    (hdeed : ∀ r, deed q r = .fetchone cur (r.map f).toOption) (hcur : cur ∈ g.own.cursors)
    (hidle : Idle g.moments)
    (hok : ∀ a m, Keeps g m → f a = (g.own.fetched cur).head? →
      Q' a ⟨m, g.own.fetch cur (g.own.fetched cur).tail, g.moments ++ [(m, m)]⟩) :
    (command (A := A) (σ := σ) q).wpIn (callers faults exec deed).among Q'
      (Failed faults B ask clauses g.own) g := by
  refine wpIn_deed fun r m m' l hm heffect => ?_
  rw [hdeed] at heffect
  cases r with
  | ok a =>
    obtain ⟨rfl, hrow, rfl⟩ := heffect hcur
    exact hok a _ hm hrow
  | error e =>
    obtain ⟨hf, rfl, rfl⟩ := heffect hcur
    exact ⟨rfl, fun _ => id, at_of_idle hf hidle _ _⟩

/-- **Commits**. -/
theorem wpIn_commit {c : ℕ} {l : Client K S X}
    {Q' : C.Reply q → Sight (Keyed K S) (Client K S X) → Prop}
    (hdeed : ∀ r, deed q r = .commit c r.isOk) (hconn : g.own.conn = some c) (hl : l.conn = some c)
    (hcursors : l.cursors ⊆ g.own.cursors) (hready : Ready faults B ask r g)
    (hok : ∀ a m ms, At faults B ask r ms → Q' a ⟨m, g.own.committed, ms⟩) :
    (command (A := A) (σ := σ) q).wpIn (callers faults exec deed).among Q'
      (Failed faults B ask clauses l) g := by
  refine wpIn_deed fun r m m' l' hm heffect => ?_
  have hheld : g.own.conn = l.conn := hconn.trans hl.symm
  rw [hdeed] at heffect
  cases r with
  | ok a =>
    rcases heffect hconn with ⟨-, rfl, rfl⟩ | ⟨hno, -⟩
    · exact hok a _ _ (hready.commit hm)
    · cases hno
  | error e =>
    rcases heffect hconn with ⟨hok | hf, rfl, rfl⟩ | ⟨-, hf, rfl, rfl⟩
    · cases hok
    · exact ⟨hheld, hcursors, (hready.commit hm).lost hf _⟩
    · exact ⟨hheld, hcursors, hready.lost hf _ _⟩

/-- A cursor is closed. -/
theorem wpIn_close {Q' : Sight (Keyed K S) (Client K S X) → Prop}
    (hdeed : ∀ r, deed q r = .closeCursor cur r.isOk) (hcur : cur ∈ g.own.cursors)
    (hQ : ∀ m, Keeps g m → Q' ⟨m, g.own, g.moments ++ [(m, m)]⟩)
    (hE : faults → ∀ e m, Keeps g m → E (.raw e) ⟨m, g.own, g.moments ++ [(m, m)]⟩) :
    (command (A := A) (σ := σ) q).wpIn (callers faults exec deed).among (fun _ => Q') E g := by
  refine wpIn_deed fun r m m' l hm heffect => ?_
  rw [hdeed] at heffect
  obtain ⟨hok, rfl, rfl⟩ := heffect hcur
  cases r with
  | ok a => exact hQ _ hm
  | error e => exact hE (hok.resolve_left Bool.false_ne_true) e _ hm

/-- A connection is released. -/
theorem wpIn_release {c : ℕ} {Q' : Sight (Keyed K S) (Client K S X) → Prop}
    (hdeed : ∀ r, deed q r = .release c r.isOk) (hconn : g.own.conn = some c)
    (hQ : ∀ m l, Q' ⟨m, l, g.moments ++ [(m, m)]⟩)
    (hE : faults → ∀ e m l, E (.raw e) ⟨m, l, g.moments ++ [(m, m)]⟩) :
    (command (A := A) (σ := σ) q).wpIn (callers faults exec deed).among (fun _ => Q') E g := by
  refine wpIn_deed fun r m m' l hm heffect => ?_
  rw [hdeed] at heffect
  obtain ⟨rfl, h⟩ := heffect hconn
  cases r with
  | ok a => exact hQ _ _
  | error e =>
    rcases h with ⟨hok | hf, rfl⟩ | ⟨-, hf, rfl⟩
    · cases hok
    · exact hE hf e _ _
    · exact hE hf e _ _

/-- **Cursors**. What holds at the end of the block holds when the others have done something. -/
theorem wpIn_onCursor {c : ℕ} {f : C.Reply q → ℕ} {body : C.Reply q → Operation (connecting A C) σ α}
    {leave : C.Reply q → Operation (connecting A C) σ Unit}
    {P : α → Sight (Keyed K S) (Client K S X) → Prop} {ms : List (Keyed K S × Keyed K S)}
    (hdeed : ∀ r, deed q r = .cursor c (r.map f).toOption) (hidle : Idle ms)
    (hleave : ∀ a g (Q' : Sight (Keyed K S) (Client K S X) → Prop)
      (E : Raised → Sight (Keyed K S) (Client K S X) → Prop), f a ∈ g.own.cursors →
      (∀ m, Keeps g m → Q' ⟨m, g.own, g.moments ++ [(m, m)]⟩) →
      (faults → ∀ e m, Keeps g m → E (.raw e) ⟨m, g.own, g.moments ++ [(m, m)]⟩) →
      (leave a).wpIn (callers faults exec deed).among (fun _ => Q') E g)
    (hready : ∀ b g, P b g → ∃ r, Ready faults B ask r g)
    (hP : ∀ b g m, Keeps g m → P b g → P b ⟨m, g.own, g.moments ++ [(m, m)]⟩)
    (hbody : ∀ a m ms, Idle ms → (body a).wpIn (callers faults exec deed).among
      (fun b g => f a ∈ g.own.cursors ∧ g.own.conn = some c ∧ P b g)
      (Failed faults B ask clauses ((Client.holding c).cursor (f a)))
      ⟨m, (Client.holding c).cursor (f a), ms⟩) :
    (command (A := A) (σ := σ) q >>= fun a => Coro.tryFinally (body a) (leave a)).wpIn
      (callers faults exec deed).among (fun b g => g.own.conn = some c ∧ P b g)
      (Failed faults B ask clauses (.holding c)) ⟨m, .holding c, ms⟩ := by
  refine Coro.wpIn_bind.mpr (wpIn_deed fun r m m' l _ heffect => ?_)
  rw [hdeed] at heffect
  cases r with
  | error e =>
    obtain ⟨hf, rfl, rfl⟩ := heffect rfl
    exact ⟨rfl, List.nil_subset _, at_of_idle hf hidle _ _⟩
  | ok a =>
    obtain ⟨rfl, rfl⟩ := heffect rfl
    refine Coro.wpIn_tryFinally.mpr (Coro.wpIn_mono ?_ ?_ (hbody a _ _ (hidle.snoc _)))
    · rintro b g ⟨hcur, hconn, hb⟩
      obtain ⟨r, hready⟩ := hready b g hb
      exact hleave a g _ _ hcur (fun m hm => ⟨hconn, hP b g m hm hb⟩)
        fun hf e m _ => ⟨hconn, List.nil_subset _, hready.lost hf _ m⟩
    · rintro x g ⟨hconn, hcursors, hat⟩
      exact hleave a g _ _ (hcursors (List.mem_cons_self ..))
        (fun m _ => ⟨hconn, List.nil_subset _, hat.snoc m⟩)
        fun hf e m _ => ⟨hconn, List.nil_subset _, (hat.snoc m).lost hf _⟩

/-- **Transactions** end with a commit. -/
theorem wpIn_thenCommit {c : ℕ} {p : Operation (connecting A C) σ α}
    (hdeed : ∀ r, deed q r = .commit c r.isOk)
    (hp : p.wpIn (callers faults exec deed).among
      (fun b g => g.own.conn = some c ∧ Told faults B H b g)
      (Failed faults B ask clauses (.holding c)) g) :
    (p >>= fun b => command (A := A) (σ := σ) q >>= fun _ => pure b).wpIn
      (callers faults exec deed).among
      (fun b g => g.own.conn = some c ∧ ∃ a, H b a ∧ At faults B ask (.ok a) g.moments)
      (Failed faults B ask clauses (.holding c)) g := by
  refine Coro.wpIn_bind.mpr (Coro.wpIn_mono ?_ (fun _ _ h => h) hp)
  rintro b g ⟨hconn, a, ha, hready⟩
  refine Coro.wpIn_bind.mpr (wpIn_commit hdeed hconn rfl (List.nil_subset _) hready fun _ m ms hat => ?_)
  exact ⟨hconn, a, ha, hat⟩

/-- **Connections**. What the block returns tells the answer. -/
theorem wpIn_onConnection {f : C.Reply q → ℕ}
    {body : C.Reply q → Operation (connecting A C) σ α}
    {leave : C.Reply q → Operation (connecting A C) σ Unit}
    (hdeed : ∀ r, deed q r = .acquire (r.map f).toOption) (hown : g.own = .out)
    (hidle : Idle g.moments)
    (hleave : ∀ a g (Q' : Sight (Keyed K S) (Client K S X) → Prop)
      (E : Raised → Sight (Keyed K S) (Client K S X) → Prop), g.own.conn = some (f a) →
      (∀ m l, Q' ⟨m, l, g.moments ++ [(m, m)]⟩) →
      (faults → ∀ e m l, E (.raw e) ⟨m, l, g.moments ++ [(m, m)]⟩) →
      (leave a).wpIn (callers faults exec deed).among (fun _ => Q') E g)
    (hbody : ∀ a m ms, Idle ms → (body a).wpIn (callers faults exec deed).among
      (fun b g => g.own.conn = some (f a) ∧ ∃ a, H b a ∧ At faults B ask (.ok a) g.moments)
      (Failed faults B ask clauses (.holding (f a))) ⟨m, .holding (f a), ms⟩) :
    (tryExcept clauses (command (A := A) (σ := σ) q >>= fun a =>
      Coro.tryFinally (body a) (leave a))).wpIn (callers faults exec deed).among
      (fun b g => ∃ a, H b a ∧ At faults B ask (.ok a) g.moments)
      (fun x g => At faults B ask (.error x) g.moments) g := by
  refine wpIn_tryExcept.mpr (Coro.wpIn_bind.mpr (wpIn_deed fun r m m' l _ heffect => ?_))
  have hnone : g.own.conn = none := by rw [hown]; rfl
  rw [hdeed] at heffect
  cases r with
  | error e =>
    obtain ⟨hf, rfl, rfl⟩ := heffect hnone
    exact at_of_idle hf hidle _ _
  | ok a =>
    obtain ⟨rfl, rfl⟩ := heffect hnone
    refine Coro.wpIn_tryFinally.mpr (Coro.wpIn_mono ?_ ?_ (hbody a _ _ (hidle.snoc _)))
    · rintro b g' ⟨hconn, r, hr, hat⟩
      exact hleave a g' _ _ hconn (fun m _ => ⟨r, hr, hat.snoc m⟩)
        fun hf e m _ => (hat.snoc m).lost hf _
    · rintro x g' ⟨hconn, -, hat⟩
      exact hleave a g' _ _ hconn (fun m _ => hat.snoc m) fun hf e m _ => (hat.snoc m).lost hf _

/-- **Reading back** what has been written, before it is committed. -/
theorem wpIn_written {c : ℕ} {k : K} {s : S} {p : Operation (connecting A C) σ α} {f : Option S → α}
    {a : R.Reply ask}
    (hfound : ∀ Q' : α → Sight (Keyed K S) (Client K S X) → Prop, (∀ m m' fetched, Keeps g m →
      Keeps g m' → Q' (f ((g.own.sees m).lookup k))
        ⟨m', { g.own with fetched := fetched }, g.moments ++ [(m, m)] ++ [(m', m')]⟩) →
      p.wpIn (callers faults exec deed).among Q' E g)
    (hcur : cur ∈ g.own.cursors) (hconn : g.own.conn = some c) (hidle : Idle g.moments)
    (hwork : g.own.work = [(k, some s)]) (hH : H (f (some s)) a)
    (hB : ∀ m, m.lookup k = g.shared.lookup k → B m ask (.ok a) (m.insert k s)) :
    p.wpIn (callers faults exec deed).among (fun b g => cur ∈ g.own.cursors ∧ g.own.conn = some c ∧
      Told faults B H b g) E g := by
  have hsees : ∀ m, g.own.sees m = m.insert k s := by
    intro m
    rw [Client.sees, hwork]
    rfl
  have hmem : (k, some s) ∈ g.own.work := by
    rw [hwork]
    exact List.mem_cons_self ..
  refine hfound _ fun m m' fetched _ hm' => ⟨hcur, hconn, a, ?_, .inl
    ⟨(hidle.snoc m).snoc m', fun m₁ hm₁ => ?_⟩⟩
  · rw [hsees, Finmap.lookup_insert]
    exact hH
  · have hsame : m₁.lookup k = g.shared.lookup k := (hm₁ _ hmem).trans (hm' _ hmem)
    have hanswer := hB m₁ hsame
    rw [← hsees] at hanswer
    exact hanswer

/-- **Clients** of the driver: there may be none to be had. -/
theorem wpIn_client {V L : Type} {f : Factory V L A} {settings : V} {cached : σ → Option ℕ}
    {store : ℕ → σ → σ} {Q' : ℕ → Sight (Keyed K S) (Client K S X) → Prop}
    (hmaking : f.making = .awaited) (hrefuses : f.refuses settings = none) (hown : g.own = .out)
    (hidle : Idle g.moments) (hQ : ∀ c m ms, Idle ms → Q' c ⟨m, .out, ms⟩) :
    (f.getClient (C := C) settings cached store).wpIn (callers faults exec deed).among Q'
      (fun x g => At faults B ask (.error x) g.moments) g := by
  unfold Factory.getClient
  refine Coro.wpIn_bind.mpr (Coro.wpIn_get.mpr fun s _ => ?_)
  have hg : ∀ c, Q' c g := fun c => by
    obtain ⟨m, l, ms⟩ := g
    obtain rfl : l = .out := hown
    exact hQ c m ms hidle
  split
  · exact hg _
  · rw [hrefuses]
    unfold Factory.makeClient
    rw [hmaking]
    refine Coro.wpIn_bind.mpr (wpIn_tryExcept.mpr (Coro.wpIn_call.mpr ⟨?_, ?_⟩))
    · rintro c ⟨m', l, ms⟩ ⟨m, -, hact, hms⟩
      obtain rfl : ms = g.moments ++ [(m, m')] := hms
      obtain ⟨-, rfl, rfl⟩ : _ ∧ m' = m ∧ l = g.own := hact trivial
      change Q' c ⟨m', g.own, _⟩
      rw [hown]
      exact hQ c _ _ (hidle.snoc _)
    · rintro e ⟨m', l, ms⟩ ⟨m, -, hact, hms⟩
      obtain rfl : ms = g.moments ++ [(m, m')] := hms
      obtain ⟨hf, rfl, -⟩ : _ ∧ m' = m ∧ l = g.own := hact trivial
      exact at_of_idle (hf.resolve_left Bool.false_ne_true) hidle _ _

end Rules

/-! ### Statements -/

section Statements

variable [DecidableEq K] {P : Type} (style : Sql.Style) (table : Sql.Schema P K S)
  (error : Sql.Fault → PyExc) (outcome : Keyed K S → List (K × S) → Sql.Stmt P → Outcome I X K S)

/-- What a text does, where `outcome` is what a statement tells, returns and writes, and `error` is what
is raised. -/
def executes (stmt : String × List P) (m : Keyed K S) : Except PyExc (Outcome I X K S) :=
  match Sql.read style stmt.1 stmt.2 with
  | some s =>
    match (table.exec s m).1 with
    | .ok found => .ok (outcome m found s)
    | .error fault => .error (error fault)
  | none => .error (error .unfit)

variable {style table error outcome} {faults : Prop} {B : Backend R Raised (Keyed K S)} {ask : R.Call}
  {clauses : Clauses Cls AdapterError}
  {deed : (q : C.Call) → Except PyExc (C.Reply q) → Deed PyExc (String × List P) I X} {q : C.Call}
  {m : Keyed K S} {g : Sight (Keyed K S) (Client K S X)} {cur c : ℕ} {query : String} {args : List P}
  {stmt : Sql.Stmt P} {f : C.Reply q → I} {Q' : C.Reply q → Sight (Keyed K S) (Client K S X) → Prop}

/-- **Statements** that the server reads. -/
theorem wpIn_executes (hread : Sql.read style query args = some stmt)
    (hdeed : ∀ r, deed q r = .execute cur (query, args) (r.map f)) (hcur : cur ∈ g.own.cursors)
    (hidle : Idle g.moments)
    (h : ∀ m, Keeps g m → Coro.Promised
      (fun found _ => ∀ a, (outcome (g.own.sees m) found stmt).info = f a →
        Q' a ⟨m, g.own.executed cur (outcome (g.own.sees m) found stmt), g.moments ++ [(m, m)]⟩)
      (fun fault _ => B m ask (.error (rethrow clauses (.raw (error fault)))) m) ()
      (table.exec stmt (g.own.sees m)).1) :
    (command (A := A) (σ := σ) q).wpIn
      (callers faults (executes style table error outcome) deed).among Q'
      (Failed faults B ask clauses g.own) g := by
  have hexec : ∀ m, executes style table error outcome (query, args) m =
      match (table.exec stmt m).1 with
      | .ok found => .ok (outcome m found stmt)
      | .error fault => .error (error fault) := by
    intro m
    rw [executes, hread]
  refine wpIn_statement hdeed hcur hidle (fun e m hm he => ?_) fun a m done hm hdone hinfo => ?_
  · have hpromised := h m hm
    rw [hexec] at he
    cases hrun : (table.exec stmt (g.own.sees m)).1 with
    | ok found => rw [hrun] at he; cases he
    | error fault =>
      rw [hrun] at he hpromised
      obtain rfl := Except.error.inj he
      exact hpromised
  · have hpromised := h m hm
    rw [hexec] at hdone
    cases hrun : (table.exec stmt (g.own.sees m)).1 with
    | error fault => rw [hrun] at hdone; cases hdone
    | ok found =>
      rw [hrun] at hdone hpromised
      obtain rfl := Except.ok.inj hdone
      exact hpromised a hinfo

/-- **First statements**: what a client sees then is the table. -/
theorem wpIn_first {ms : List (Keyed K S × Keyed K S)}
    (hread : Sql.read style query args = some stmt)
    (hdeed : ∀ r, deed q r = .execute cur (query, args) (r.map f)) (hidle : Idle ms)
    (h : ∀ m, Coro.Promised
      (fun found _ => ∀ a, (outcome m found stmt).info = f a → Q' a
        ⟨m, ((Client.holding c).cursor cur).executed cur (outcome m found stmt), ms ++ [(m, m)]⟩)
      (fun fault _ => B m ask (.error (rethrow clauses (.raw (error fault)))) m) () (table.exec stmt m).1) :
    (command (A := A) (σ := σ) q).wpIn
      (callers faults (executes style table error outcome) deed).among Q'
      (Failed faults B ask clauses ((Client.holding c).cursor cur))
      ⟨m, (Client.holding c).cursor cur, ms⟩ :=
  wpIn_executes hread hdeed (List.mem_cons_self ..) hidle fun m _ => h m

end Statements

/-! ### Connections that are given back -/

section GivesBack

variable [DecidableEq K] (exec : Q → Keyed K S → Except PyExc (Outcome I X K S))
  (deed : (q : C.Call) → Except PyExc (C.Reply q) → Deed PyExc Q I X)

/-- The only caller, if nothing fails: who releases a connection has nothing after that. -/
def faultless : World (connecting A C) PyExc σ (Keyed K S × Client K S X) where
  answers g q r g' := (callers False exec deed).act g.1 g.2 ⟨q, r⟩ g'.1 g'.2 ∧
    ∀ c ok, deedBy deed ⟨q, r⟩ = .release c ok → g'.2 = .out
  reads _ _ := True
  writes _ g := g

/-- It ends with nothing, if it begins so. -/
def GivesBack (p : Operation (connecting A C) σ α) : Prop :=
  ∀ m, p.wpIn (faultless exec deed) (fun _ g => g.2 = .out) (fun _ g => g.2 = .out) (m, .out)

variable {exec deed}

theorem connects_faultless : Connects (A := A) (faultless exec deed) (σ := σ) where
  answers {g q r g'} h := by
    obtain ⟨hok, hm, hl⟩ := h.1 trivial
    exact ⟨hok.resolve_right id, Prod.ext hm hl⟩
  writes _ _ := rfl

variable {clauses : Clauses Cls AdapterError} {q : C.Call} {m : Keyed K S}
  {g : Keyed K S × Client K S X}

theorem wpIn_released (hdeed : ∀ r, ∃ c ok, deed q r = .release c ok) :
    (command (A := A) (σ := σ) q).wpIn (faultless exec deed) (fun _ g => g.2 = .out)
      (fun _ g => g.2 = .out) g := by
  refine Coro.wpIn_call.mpr ⟨fun a g' h => ?_, fun e g' h => ?_⟩
  · obtain ⟨c, ok, hrelease⟩ := hdeed (.ok a)
    exact h.2 c ok hrelease
  · obtain ⟨c, ok, hrelease⟩ := hdeed (.error e)
    exact h.2 c ok hrelease

/-- **Blocks** that release the connection, whatever is done in them. -/
theorem givesBack_onConnection {f : C.Reply q → ℕ} {body : C.Reply q → Operation (connecting A C) σ α}
    {leave : C.Reply q → Operation (connecting A C) σ Unit}
    (hdeed : ∀ r, deed q r = .acquire (r.map f).toOption)
    (hleave : ∀ a g, (leave a).wpIn (faultless exec deed) (fun _ g => g.2 = .out)
      (fun _ g => g.2 = .out) g) :
    GivesBack exec deed (tryExcept clauses (command (A := A) (σ := σ) q >>= fun a =>
      Coro.tryFinally (body a) (leave a))) := by
  intro m
  refine wpIn_tryExcept.mpr (Coro.wpIn_bind.mpr (Coro.wpIn_call.mpr ⟨fun a g _ => ?_, fun e g h => ?_⟩))
  · exact Coro.wpIn_tryFinally.mpr (Coro.wpIn_of_forall (fun _ g => hleave a g) fun _ g => hleave a g)
  · have heffect := h.1
    change Store.Proper _ (deed q _) → effect _ _ _ _ (deed q _) _ _ at heffect
    rw [hdeed] at heffect
    exact (heffect rfl).1.elim

theorem GivesBack.bind {β : Type} {p : Operation (connecting A C) σ α}
    {k : α → Operation (connecting A C) σ β} (h : GivesBack exec deed p)
    (hk : ∀ a, GivesBack exec deed (k a)) : GivesBack exec deed (p >>= k) := by
  intro m
  refine Coro.wpIn_bind.mpr (Coro.wpIn_mono ?_ (fun _ _ h => h) (h m))
  rintro a ⟨m', _⟩ rfl
  exact hk a m'

theorem givesBack_pure (a : α) : GivesBack (A := A) (σ := σ) exec deed (pure a) := fun _ => rfl

theorem givesBack_eval (r : Except PyExc α) : GivesBack (A := A) (σ := σ) exec deed (eval r) := by
  intro m
  cases r <;> rfl

theorem givesBack_getClient {V L : Type} {f : Factory V L A} {settings : V}
    {cached : σ → Option ℕ} {store : ℕ → σ → σ} (hrefuses : f.refuses settings = none) :
    GivesBack exec deed (f.getClient (C := C) settings cached store) :=
  fun _ => connects_faultless.wpIn_getClient hrefuses fun _ => rfl

end GivesBack

/-! ### Repositories -/

section Repositories

variable [DecidableEq K] (faults : Prop) (exec : Q → Keyed K S → Except PyExc (Outcome I X K S))
  (deed : (q : C.Call) → Except PyExc (C.Reply q) → Deed PyExc Q I X)

/-- A repository whose operations are transactions. -/
structure Transacted (valid : R.Call → Prop)
    (code : (q : R.Call) → Operation (connecting A C) σ (R.Reply q))
    (B : Backend R Raised (Keyed K S)) : Prop where
  /-- All requests are answered. -/
  answers : ∀ m q, ∃ r m', (callers faults exec deed).serve .out code m q r m'
  /-- Those that come one at a time are answered as they should be. -/
  refines : Refines valid ((callers faults exec deed).serve .out code) (lossy faults B) Eq
  /-- Those that come at the same time are answered as if they came one at a time. -/
  explained : ∀ (request : ℕ → R.Call) h m m' ls, (∀ i, valid (request i)) →
    Complete (running code request) h →
    Along (callers faults exec deed).together (m, fun _ => .out) h (m', ls) →
    ∃ order, Linearises (answering (lossy faults B) request) h m m' order

variable {faults exec deed} {valid : R.Call → Prop} {B : Backend R Raised (Keyed K S)}
  {code : (q : R.Call) → Operation (connecting A C) σ (R.Reply q)}

/-- **Operations in transactions**, if each of them is answered at one of its moments. -/
theorem transacted_of_answers [hσ : Nonempty σ]
    (hdeed : ∀ m l q, ∃ r m' l', effect faults exec m l (deed q r) m' l')
    (h : (callers (A := A) faults exec deed).Answers .out valid code (lossy faults B)) :
    Transacted (A := A) faults exec deed valid code B where
  answers m q := by
    have hcall : ∀ g q, ∃ r g', ((callers (A := A) faults exec deed).alone (σ := σ)).answers g q r g' := by
      rintro g (q | q)
      · exact ⟨.ok q.reply, g, fun _ => ⟨.inl rfl, rfl, rfl⟩⟩
      · obtain ⟨r, m', l', heffect⟩ := hdeed g.1 g.2 q
        exact ⟨r, (m', l'), fun _ => heffect⟩
    obtain ⟨r, ⟨m', l'⟩, hend⟩ := Coro.exists_endsIn hcall
      (fun _ => hσ.elim fun s => ⟨s, trivial⟩) (code q) (m, .out)
    exact ⟨r, m', l', hend⟩
  refines := h.refines
  explained request hist m m' ls hvalid hc hrun := h.linearises hvalid hc hrun

/-- **A race**, if nothing fails: two calls are under way at the same time, and the answers are those of
one order or of the other one. -/
theorem Transacted.exists_race {T : Type} {M : Merging K T S} {O : Enumeration K S}
    {valid : Single K T → Prop} {B : Backend (singles K T) Raised (Keyed K S)} [hσ : Nonempty σ]
    {code : (q : Single K T) → Operation (connecting A C) σ ((singles K T).Reply q)} {e e' : T} {id : K}
    (h : Transacted (A := A) (R := singles K T) False exec deed valid code B)
    (heffect : ∀ m l q, ∃ r m' l', effect False exec m l (deed q r) m' l' ∧
      ∀ c ok, deed q r = .release c ok → l' = .out)
    (hback : ∀ q, GivesBack exec deed (code q)) (hvalid : ∀ i, valid (race e e' id i))
    (hB : ∀ {i m r m'}, B m (race e e' id i) r m' → M.answer O (race e e' id i).request m = (r, m')) :
    ∃ hist x, Complete (running (R := singles K T) code (race e e' id)) hist ∧
      Along (callers False exec deed).together (∅, fun _ => .out) hist x ∧
      [.invoke 0, .invoke 1] <+: hist ∧
      (Left hist ([0, 1, 2].zip (M.oneByOne O [.create e, .create e', .get id])) ∨
        Left hist ([1, 0, 2].zip (M.oneByOne O [.create e', .create e, .get id]))) := by
  have hcall : ∀ g q, ∃ r g', (faultless (A := A) (σ := σ) exec deed).answers g q r g' := by
    rintro g (q | q)
    · exact ⟨.ok q.reply, g, fun _ => ⟨.inl rfl, rfl, rfl⟩, nofun⟩
    · obtain ⟨r, m', l', hact, hout⟩ := heffect g.1 g.2 q
      exact ⟨r, (m', l'), fun _ => hact, hout⟩
  have hserved : ∀ q m, ∃ r m', (code q).EndsIn (callers (A := A) False exec deed).alone (m, .out) r
      (m', .out) := by
    intro q m
    obtain ⟨r, ⟨m', l'⟩, hend⟩ := Coro.exists_endsIn hcall (fun _ => hσ.elim fun s => ⟨s, trivial⟩)
      (code q) (m, .out)
    obtain rfl : l' = .out := hend.always (I := fun g => g.2 = .out) (hback q m)
    exact ⟨r, m', hend.mono (fun _ _ _ _ h => h.1) (fun _ _ _ => trivial) rfl⟩
  have hnodup : ([0, 1] ++ [2] : List ℕ).Nodup := by decide
  obtain ⟨hist, x, hc, hrun, hpre, hcalls, hlater⟩ := Party.exists_together (E := singles K T) hserved
    (fun s s' w hw => (List.not_mem_nil hw).elim) (race e e' id) hnodup ∅
  obtain ⟨order, hlin⟩ := h.explained (race e e' id) hist ∅ x.1 x.2 hvalid hc hrun
  refine ⟨hist, x, hc, hrun, hpre, Merging.left_of_race (fun hone => ?_) hlin hcalls hlater⟩
  exact hB (hone.resolve_right fun hfault => hfault.1)

variable {T : Type} {M : Merging K T S} {B : Backend (singles K T) Raised (Keyed K S)}

/-- It makes no difference that requests may raise. -/
theorem Merging.Kept.lossy (h : M.Kept B) : M.Kept (lossy faults B) where
  others := by
    rintro m q r m' id (hB | ⟨-, -, rfl | ⟨r', hB⟩⟩) hother
    · exact h.others hB hother
    · rfl
    · exact h.others hB hother
  stays := by
    rintro m q r m' id (hB | ⟨-, -, rfl | ⟨r', hB⟩⟩) hdelete hid
    · exact h.stays hB hdelete hid
    · exact hid
    · exact h.stays hB hdelete hid
  fresh := by
    rintro m entity r m' htaken (hB | ⟨-, hno, -⟩)
    · exact h.fresh htaken hB
    · cases hno
  created := by
    rintro m entity r m' (hB | ⟨-, hno, -⟩)
    · exact h.created hB
    · cases hno

variable (faults exec deed) in
/-- What the callers of a repository can count on. -/
structure Reliable (M : Merging K T S) (valid : Single K T → Prop)
    (code : (q : Single K T) → Operation (connecting A C) σ ((singles K T).Reply q)) : Prop where
  /-- If an id that is taken is refused, then of those that create an entity, while nobody deletes it,
  one can have succeeded. -/
  oneCreator : M.taken ≠ none → ∀ (request : ℕ → Single K T) h m m' ls, (∀ i, valid (request i)) →
    Complete (running (R := singles K T) code request) h →
    Along (callers faults exec deed).together (m, fun _ => .out) h (m', ls) →
    ∀ i j e e' r r', M.idOf e = M.idOf e' → (∀ k r, .leave k ⟨.delete (M.idOf e), r⟩ ∉ h) →
      .leave i ⟨.create e, .ok r⟩ ∈ h → .leave j ⟨.create e', .ok r'⟩ ∈ h → i = j
  /-- Who gets an entity after it has been created, while nobody else changes it, gets what has been
  stored. -/
  visible : ∀ (request : ℕ → Single K T) h m m' ls, (∀ i, valid (request i)) →
    Complete (running (R := singles K T) code request) h →
    Along (callers faults exec deed).together (m, fun _ => .out) h (m', ls) → ∀ i j e r found,
    [.leave i ⟨.create e, .ok r⟩, .invoke j].Sublist h →
    (∀ k ≠ i, ∀ a, .leave k a ∈ h → M.changes a.call ≠ some (M.idOf e)) →
    .leave j ⟨.get (M.idOf e), .ok found⟩ ∈ h → found = some (M.shown (M.idOf e) (M.make e))

/-- **What the callers can count on**, if `get()` returns what is stored. -/
theorem reliable_of_transacted {valid : Single K T → Prop}
    {code : (q : Single K T) → Operation (connecting A C) σ ((singles K T).Reply q)}
    (h : Transacted (A := A) (R := singles K T) faults exec deed valid code B) (hB : M.Kept B)
    (hgot : ∀ {m id r m'}, B m (.get id) r m' → r = .ok ((m.lookup id).map (M.shown id))) :
    Reliable (A := A) faults exec deed M valid code where
  oneCreator htaken request hist m m' ls hvalid hc hrun i j e e' r r' hid hdelete hcreated hcreated' := by
    obtain ⟨order, hlin⟩ := h.explained request hist m m' ls hvalid hc hrun
    have hmem : ∀ {k a}, .leave k a ∈ hist → k ∈ order := fun hk =>
      (hlin.calls _).mpr (hc.invoke_of_leave hk)
    exact Merging.one_creator hB.lossy htaken (fun i a a' => hc.leave_inj) hdelete hlin.inTurn
      (hmem hcreated) (hmem hcreated') rfl hid.symm hcreated hcreated'
  visible request hist m m' ls hvalid hc hrun i j e r found hij hothers hget := by
    obtain ⟨order, hlin⟩ := h.explained request hist m m' ls hvalid hc hrun
    have hcreated : .leave i ⟨.create e, .ok r⟩ ∈ hist := hij.subset (List.mem_cons_self ..)
    refine Merging.get_created (P := fun r a => ∀ b, r = .ok b → b = a) hB.lossy ?_
      (fun i a a' => hc.leave_inj) hlin.inTurn hlin.nodup (hlin.realTime i j _ hij) rfl hcreated
      hothers hget found rfl
    rintro m r m' (hone | ⟨-, hno, -⟩) b rfl
    · exact Except.ok.inj (hgot hone)
    · cases hno

end Repositories

end OpenframeAdapters.Db
