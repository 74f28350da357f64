import OpenframeAdapters.Db.Agreement
import OpenframeAdapters.Db.Operations
import OpenframeAdapters.Store.Pool

/-!
# Writes are all or nothing

The MySQL, MariaDB and Oracle repositories take a connection out of a pool, write in a transaction on
it, and commit.

## The model

* `stepOf` of an adapter — which step on the pool a call of the driver is, given its reply.
* `Transactional` — in every history of calls, of any number of repositories on the same server, each
  call is all or nothing. Every call of the driver may raise, and the events of different calls may
  be interleaved in any way.

## What is proved

* `wp_connection`, `wp_cursor`, `wp_execute`, `Executed.wp_commit` — the rules, with the `Phase` of the call as
  the ghost state.
* `transactional` — the three repositories are transactional.
-/

namespace OpenframeAdapters.Db

open Python OpenframeAdapters.Core

open Postgres (Table Param)

open Store (Pool Phase Hold AllOrNothing advance)

/-! ### Calls as steps -/

section Transactional

variable {A σ Q O : Type} {C : Driver}

/-- The step that an answer is. -/
def stepBy (step : (q : C.Call) → Except PyExc (C.Reply q) → Store.Step Q) :
    Answer (connecting A C) PyExc → Store.Step Q
  | ⟨.inl _, _⟩ => .other
  | ⟨.inr q, r⟩ => step q r

/-- In every history, every call is all or nothing. -/
def Transactional {α : O → Type} (step : (q : C.Call) → Except PyExc (C.Reply q) → Store.Step Q)
    (code : (o : O) → Operation (connecting A C) σ (α o)) (writes : O → Option Q) : Prop :=
  ∀ (op : ℕ → O) (h : List (Event ℕ (Store.Step Q) Bool)) (s : Pool ℕ Q),
    Underway (fun i ms returned => ∃ answers o, (code (op i)).Ends answers o ∧
      ms = answers.map (stepBy step) ∧ returned = o.isOk) h →
    Along Pool.effect .empty h s → ∀ i, AllOrNothing i (writes (op i)) h s

/-! ### The rules -/

variable (step : (q : C.Call) → Except PyExc (C.Reply q) → Store.Step Q)

/-- The call goes on. -/
def goOn (g : Option (Phase Q)) (a : Answer (connecting A C) PyExc) : Option (Phase Q) :=
  g.bind fun p => advance p (stepBy step a)

/-- It holds no connection, and has not used what is not its own. -/
def Over (g : Option (Phase Q)) : Prop := ∃ p, g = some p ∧ p.Ended

/-- It has released its connection, and committed `q?`. -/
def Done (q? : Option Q) (g : Option (Phase Q)) : Prop :=
  ∃ w, g = some (.after w) ∧ ∀ q ∈ q?, q ∈ w.done

/-- It holds the connection. -/
def Held (c : ℕ) (g : Option (Phase Q)) : Prop := ∃ w, g = some (.holding w) ∧ w.conn = c

/-- It holds the connection, and has executed `q?`. -/
def Executed (c : ℕ) (q? : Option Q) (g : Option (Phase Q)) : Prop :=
  ∃ w, g = some (.holding w) ∧ w.conn = c ∧ ∀ q ∈ q?, q ∈ w.executed

/-- It holds the connection, and has committed `q?`. -/
def Committed (c : ℕ) (q? : Option Q) (g : Option (Phase Q)) : Prop :=
  ∃ w, g = some (.holding w) ∧ w.conn = c ∧ ∀ q ∈ q?, q ∈ w.done

variable {step}

theorem Done.over {q? : Option Q} {g : Option (Phase Q)} (h : Done q? g) : Over g := by
  obtain ⟨w, rfl, -⟩ := h
  exact ⟨.after w, rfl, trivial⟩

theorem Executed.held {c : ℕ} {q? : Option Q} {g : Option (Phase Q)} (h : Executed c q? g) :
    Held c g := h.imp fun _ hw => ⟨hw.1, hw.2.1⟩

theorem Committed.held {c : ℕ} {q? : Option Q} {g : Option (Phase Q)} (h : Committed c q? g) :
    Held c g := h.imp fun _ hw => ⟨hw.1, hw.2.1⟩

theorem goOn_other {a : Answer (connecting A C) PyExc} (ha : stepBy step a = .other)
    (g : Option (Phase Q)) : goOn step g a = g := by
  cases g with
  | none => rfl
  | some p =>
    rw [goOn, ha, Option.bind_some]
    cases p <;> rfl

/-- What holds of the phase when a call has ended, its history being what it is. -/
theorem foldl_goOn (answers : List (Answer (connecting A C) PyExc)) (p : Phase Q) :
    answers.foldl (goOn step) (some p) = (answers.map (stepBy step)).foldlM advance p := by
  have hnone : ∀ answers : List (Answer (connecting A C) PyExc),
      answers.foldl (goOn step) none = none := by
    intro answers
    induction answers with
    | nil => rfl
    | cons a answers ih => exact ih
  induction answers generalizing p with
  | nil => rfl
  | cons a answers ih =>
    rw [List.foldl_cons, List.map_cons, List.foldlM_cons, goOn, Option.bind_some]
    cases advance p (stepBy step a) with
    | none => exact hnone answers
    | some p' => exact ih p'

/-- **Transactions**, by the rules of `wp`. -/
theorem transactional_of_wp {α : O → Type} {code : (o : O) → Operation (connecting A C) σ (α o)}
    {writes : O → Option Q} (h : ∀ o, (code o).wp (goOn step) (fun _ => Done (writes o))
      (fun _ => Over) (some .before)) : Transactional step code writes := by
  intro op h' s hu hrun
  refine Store.allOrNothing_of_advance (fun i => writes (op i)) (fun i ms r hdoes => ?_)
    hu hrun
  obtain ⟨answers, o, hends, rfl, rfl⟩ := hdoes
  have hpromised := hends.of_wp (h (op i))
  rw [foldl_goOn] at hpromised
  cases o with
  | ok a =>
    obtain ⟨w, hw, hdone⟩ := hpromised
    exact ⟨.after w, hw, trivial, fun _ => hdone⟩
  | error x =>
    obtain ⟨p, hp, hended⟩ := hpromised
    exact ⟨p, hp, hended, nofun⟩

variable {α : Type}

/-- A call that does nothing to the pool. -/
theorem wp_other {q : C.Call} (hq : ∀ r, step q r = .other) {Q' : C.Reply q → Option (Phase Q) → Prop}
    {E : Raised → Option (Phase Q) → Prop} {g : Option (Phase Q)} (hQ : ∀ a, Q' a g)
    (hE : ∀ x, E x g) : (command (A := A) (σ := σ) q).wp (goOn step) Q' E g := by
  have hg : ∀ r, goOn step g (⟨.inr q, r⟩ : Answer (connecting A C) PyExc) = g := fun r =>
    goOn_other (a := ⟨.inr q, r⟩) (hq r) g
  exact Coro.wp_call.mpr ⟨fun a => (hg (.ok a)).symm ▸ hQ a, fun e => (hg (.error e)).symm ▸ hE _⟩

/-- **Statements**. -/
theorem wp_execute {q : C.Call} {w : Hold Q} {cur : ℕ} {stmt : Q}
    (hq : ∀ r, step q r = .execute cur stmt r.isOk) (hcur : cur ∈ w.cursors)
    {Q' : C.Reply q → Option (Phase Q) → Prop} {E : Raised → Option (Phase Q) → Prop}
    (hQ : ∀ a, Q' a (some (.holding { w with executed := stmt :: w.executed })))
    (hE : ∀ x, E x (some (.holding w))) :
    (command (A := A) (σ := σ) q).wp (goOn step) Q' E (some (.holding w)) := by
  have hg : ∀ r, goOn step (some (.holding w)) (⟨.inr q, r⟩ : Answer (connecting A C) PyExc) =
      some (.holding (if r.isOk then { w with executed := stmt :: w.executed } else w)) := by
    intro r
    rw [goOn, stepBy, hq r]
    exact if_pos hcur
  exact Coro.wp_call.mpr ⟨fun a => (hg (.ok a)).symm ▸ hQ a, fun e => (hg (.error e)).symm ▸ hE _⟩

/-- **Commits**. -/
theorem Executed.wp_commit {c : ℕ} {q? : Option Q} {g : Option (Phase Q)} (h : Executed c q? g)
    {q : C.Call} (hq : ∀ r, step q r = .commit c r.isOk) :
    (command (A := A) (σ := σ) q).wp (goOn step) (fun _ => Committed c q?) (fun _ => Held c) g := by
  obtain ⟨w, rfl, rfl, hexecuted⟩ := h
  have hg : ∀ r, goOn step (some (.holding w)) (⟨.inr q, r⟩ : Answer (connecting A C) PyExc) =
      some (.holding { w with issued := true, done := if r.isOk then w.executed else w.done }) := by
    intro r
    rw [goOn, stepBy, hq r]
    exact if_pos rfl
  exact Coro.wp_call.mpr ⟨fun a => (hg (.ok a)).symm ▸ ⟨_, rfl, rfl, hexecuted⟩,
    fun e => (hg (.error e)).symm ▸ ⟨_, rfl, rfl⟩⟩

/-- A release. -/
theorem wp_release {q : C.Call} {w : Hold Q} {c : ℕ} (hc : w.conn = c)
    (hq : ∀ r, step q r = .release c r.isOk) {Q' : C.Reply q → Option (Phase Q) → Prop}
    {E : Raised → Option (Phase Q) → Prop} (hQ : ∀ a, Q' a (some (.after w)))
    (hE : ∀ x, E x (some (.after w))) :
    (command (A := A) (σ := σ) q).wp (goOn step) Q' E (some (.holding w)) := by
  have hg : ∀ r, goOn step (some (.holding w)) (⟨.inr q, r⟩ : Answer (connecting A C) PyExc) =
      some (.after w) := by
    intro r
    rw [goOn, stepBy, hq r]
    exact if_pos hc.symm
  exact Coro.wp_call.mpr ⟨fun a => (hg (.ok a)).symm ▸ hQ a, fun e => (hg (.error e)).symm ▸ hE _⟩

/-- **Connections**: what a block does with one. -/
theorem wp_connection {q : C.Call} (conn : C.Reply q → ℕ)
    {body : C.Reply q → Operation (connecting A C) σ α}
    {close : C.Reply q → Operation (connecting A C) σ Unit} {q? : Option Q}
    (hok : ∀ a, step q (.ok a) = .acquire (some (conn a)))
    (herror : ∀ e, step q (.error e) = .acquire none)
    (hclose : ∀ a w Q' E, w.conn = conn a → Q' () (some (.after w)) → (∀ x, E x (some (.after w))) →
      (close a).wp (goOn step) Q' E (some (.holding w)))
    (hbody : ∀ a, (body a).wp (goOn step) (fun _ => Committed (conn a) q?)
      (fun _ => Held (conn a)) (some (.holding ⟨conn a, [], [], [], false⟩))) :
    (command (A := A) (σ := σ) q >>= fun a => Coro.tryFinally (body a) (close a)).wp (goOn step)
      (fun _ => Done q?) (fun _ => Over) (some .before) := by
  refine Coro.wp_bind.mpr (Coro.wp_call.mpr ⟨fun a => ?_, fun e => ?_⟩)
  · have hg : goOn step (some .before) (⟨.inr q, .ok a⟩ : Answer (connecting A C) PyExc) =
        some (.holding ⟨conn a, [], [], [], false⟩) := by
      rw [goOn, stepBy, hok]
      rfl
    rw [hg]
    refine Coro.wp_tryFinally.mpr (Coro.wp_mono ?_ ?_ (hbody a))
    · rintro r g ⟨w, rfl, hw, hdone⟩
      exact hclose a w _ _ hw ⟨w, rfl, hdone⟩ fun _ => ⟨.after w, rfl, trivial⟩
    · rintro x g ⟨w, rfl, hw⟩
      exact hclose a w _ _ hw ⟨.after w, rfl, trivial⟩ fun _ => ⟨.after w, rfl, trivial⟩
  · have hg : goOn step (some .before) (⟨.inr q, .error e⟩ : Answer (connecting A C) PyExc) =
        some .before := by
      rw [goOn, stepBy, herror]
      rfl
    rw [hg]
    exact ⟨.before, rfl, trivial⟩

/-- **Cursors**: what a block does with one. -/
theorem wp_cursor {q : C.Call} (cur : C.Reply q → ℕ) {w : Hold Q}
    {body : C.Reply q → Operation (connecting A C) σ α}
    {close : C.Reply q → Operation (connecting A C) σ Unit} {Q' : α → Option (Phase Q) → Prop}
    (hok : ∀ a, step q (.ok a) = .cursor w.conn (some (cur a)))
    (herror : ∀ e, step q (.error e) = .cursor w.conn none)
    (hclose : ∀ a g Q' E, Q' () g → (∀ x, E x g) → (close a).wp (goOn step) Q' E g)
    (hQ : ∀ a g, Q' a g → Held w.conn g)
    (hbody : ∀ a, (body a).wp (goOn step) Q' (fun _ => Held w.conn)
      (some (.holding { w with cursors := cur a :: w.cursors }))) :
    (command (A := A) (σ := σ) q >>= fun a => Coro.tryFinally (body a) (close a)).wp (goOn step)
      Q' (fun _ => Held w.conn) (some (.holding w)) := by
  refine Coro.wp_bind.mpr (Coro.wp_call.mpr ⟨fun a => ?_, fun e => ?_⟩)
  · have hg : goOn step (some (.holding w)) (⟨.inr q, .ok a⟩ : Answer (connecting A C) PyExc) =
        some (.holding { w with cursors := cur a :: w.cursors }) := by
      rw [goOn, stepBy, hok]
      exact if_pos rfl
    rw [hg]
    exact Coro.wp_tryFinally.mpr (Coro.wp_mono
      (fun r g h => hclose a g _ _ h fun _ => hQ r g h) (fun x g h => hclose a g _ _ h fun _ => h)
      (hbody a))
  · have hg : goOn step (some (.holding w)) (⟨.inr q, .error e⟩ : Answer (connecting A C) PyExc) =
        some (.holding w) := by
      rw [goOn, stepBy, herror]
      exact if_pos rfl
    rw [hg]
    exact ⟨w, rfl, rfl⟩

end Transactional

/-! ### Jobs -/

/-- A request to a repository. -/
structure Job (S M T : Type) where
  /-- The settings. -/
  settings : S
  /-- How entities are mapped. -/
  mapping : M
  /-- The table. -/
  table : Table
  /-- The request. -/
  request : Request String T

namespace Mysql

variable {F R V T : Type}

/-- What a call of `aiomysql` does to the pool. -/
def stepOf : (q : Command V) → Except PyExc ((commands R V).Reply q) →
    Store.Step (String × List (Param V))
  | .acquire _, r => .acquire r.toOption
  | .release conn, r => .release conn r.isOk
  | .cursor conn, r => .cursor conn r.toOption
  | .execute cur query args, r => .execute cur (query, args) r.isOk
  | .commit conn, r => .commit conn r.isOk
  | .closeCursor _, _ | .fetchone _, _ | .fetchall _, _ => .other

/-- What a request writes. -/
def writeOf (j : Job (MySQLSettings F) (Mapping R V T) T) : Option (String × List (Param V)) :=
  match j.request with
  | .get _ | .list .. => none
  | .create entity =>
    let rowDict := j.mapping.entityToRow entity
    some (insertQuery j.table (columns rowDict), values rowDict)
  | .update entity =>
    let rowDict := j.mapping.entityToRow entity
    some (updateQuery j.table ((updateCols j.table rowDict).map Prod.fst),
      updateValues j.table rowDict)
  | .delete id => some (deleteQuery j.table, [.str id])

/-- What a request runs. -/
def run (j : Job (MySQLSettings F) (Mapping R V T) T) :
    Operation (driver F R V) (Option ℕ) ((operations String T).Reply j.request) :=
  (repository j.settings j.mapping j.table).serve j.request

section Rules

variable {α : Type} {settings : MySQLSettings F} {mapping : Mapping R V T} {t : Table}
  {q? : Option (String × List (Param V))}

theorem wp_getPool {p : ℕ → Operation (driver F R V) (Option ℕ) α}
    (hp : ∀ pool, (p pool).wp (goOn stepOf) (fun _ => Done q?) (fun _ => Over) (some .before)) :
    (getPool settings >>= p).wp (goOn stepOf) (fun _ => Done q?) (fun _ => Over) (some .before) :=
  Coro.wp_bind.mpr (wp_getClient (fun q r => goOn_other (a := ⟨.inl q, r⟩) rfl _) hp
    fun _ => ⟨.before, rfl, trivial⟩)

theorem wp_onConnection {pool : ℕ} {operation : String}
    {body : ℕ → Operation (driver F R V) (Option ℕ) α}
    (hbody : ∀ conn, (body conn).wp (goOn stepOf) (fun _ => Committed conn q?)
      (fun _ => Held conn) (some (.holding ⟨conn, [], [], [], false⟩))) :
    (tryExcept (commandErrors operation) (withConnection pool body)).wp (goOn stepOf)
      (fun _ => Done q?) (fun _ => Over) (some .before) :=
  wp_tryExcept.mpr (wp_connection (C := commands R V) (q := .acquire pool) id
    (fun _ => rfl) (fun _ => rfl)
    (fun _ _ _ _ hw hQ hE => wp_release hw (fun _ => rfl) (fun _ => hQ) hE) hbody)

theorem wp_onCursor {conn : ℕ} {body : ℕ → Operation (driver F R V) (Option ℕ) α}
    {Q : α → Option (Phase (String × List (Param V))) → Prop} (hQ : ∀ a g, Q a g → Held conn g)
    (hbody : ∀ cur, (body cur).wp (goOn stepOf) Q (fun _ => Held conn)
      (some (.holding ⟨conn, [cur], [], [], false⟩))) :
    (withCursor conn body).wp (goOn stepOf) Q (fun _ => Held conn)
      (some (.holding ⟨conn, [], [], [], false⟩)) :=
  wp_cursor (C := commands R V) (w := ⟨conn, [], [], [], false⟩) (q := .cursor conn) id
    (fun _ => rfl) (fun _ => rfl)
    (fun _ _ _ _ hQ hE => wp_other (fun _ => rfl) (fun _ => hQ) hE) hQ hbody

/-- A statement on the cursor. -/
theorem wp_statement {cur conn : ℕ} {query : String} {args : List (Param V)}
    {executed done : List (String × List (Param V))} {issued : Bool}
    {p : Cursor → Operation (driver F R V) (Option ℕ) α}
    {Q : α → Option (Phase (String × List (Param V))) → Prop}
    (hp : ∀ done', (p done').wp (goOn stepOf) Q (fun _ => Held conn)
      (some (.holding ⟨conn, [cur], (query, args) :: executed, done, issued⟩))) :
    (send (.execute cur query args) >>= p).wp (goOn stepOf) Q (fun _ => Held conn)
      (some (.holding ⟨conn, [cur], executed, done, issued⟩)) :=
  Coro.wp_bind.mpr (wp_execute (fun _ => rfl) (List.mem_singleton_self cur) hp
    fun _ => ⟨_, rfl, rfl⟩)

/-- A block, and then the commit. -/
theorem wp_thenCommit {conn : ℕ} {block : Operation (driver F R V) (Option ℕ) α}
    {g : Option (Phase (String × List (Param V)))}
    (h : block.wp (goOn stepOf) (fun _ => Executed conn q?) (fun _ => Held conn) g) :
    (block >>= fun a => send (.commit conn) >>= fun _ => pure a).wp (goOn stepOf)
      (fun _ => Committed conn q?) (fun _ => Held conn) g :=
  Coro.wp_bind.mpr (Coro.wp_mono (fun _ _ hg => Coro.wp_bind.mpr (hg.wp_commit fun _ => rfl))
    (fun _ _ h => h) h)

/-- What is left of an operation when the pool has its connection back. -/
theorem wp_rest {g : Option (Phase (String × List (Param V)))} {row : Except PyExc α}
    (hg : Done q? g) : (eval row : Operation (driver F R V) (Option ℕ) α).wp
      (goOn stepOf) (fun _ => Done q?) (fun _ => Over) g := by
  cases row with
  | ok a => exact hg
  | error e => exact hg.over

variable (settings mapping t)

theorem wp_get_done (id : String) : (get settings mapping t id).wp (goOn stepOf)
    (fun _ => Done none) (fun _ => Over) (some .before) := by
  refine wp_getPool fun pool => Coro.wp_bind.mpr (Coro.wp_mono (fun row g (hg : Done none g) => ?_)
    (fun _ _ h => h) (wp_onConnection fun conn => wp_onCursor (fun _ _ h => h.held) fun cur =>
      wp_statement fun _ => ?_))
  · cases row with
    | none => exact hg
    | some row => exact Coro.wp_bind.mpr (wp_rest hg)
  · exact wp_other (fun _ => rfl) (fun _ => ⟨_, rfl, rfl, nofun⟩) fun _ => ⟨_, rfl, rfl⟩

theorem wp_list_done (limit offset : ℤ) : (list settings mapping t limit offset).wp (goOn stepOf)
    (fun _ => Done none) (fun _ => Over) (some .before) := by
  refine wp_getPool fun pool => Coro.wp_bind.mpr (Coro.wp_mono (fun page g (hg : Done none g) => ?_)
    (fun _ _ h => h) (wp_onConnection fun conn => wp_onCursor (fun _ _ h => h.held) fun cur =>
      wp_statement fun _ => Coro.wp_bind.mpr (wp_other (fun _ => rfl) (fun rows =>
        wp_statement fun _ => Coro.wp_bind.mpr (wp_other (fun _ => rfl) (fun countRow => ?_)
          fun _ => ⟨_, rfl, rfl⟩)) fun _ => ⟨_, rfl, rfl⟩)))
  · exact Coro.wp_bind.mpr (wp_rest hg)
  · exact ⟨_, rfl, rfl, nofun⟩

theorem wp_create_done (entity : T) : (create settings mapping t entity).wp (goOn stepOf)
    (fun _ => Done (writeOf ⟨settings, mapping, t, .create entity⟩)) (fun _ => Over)
    (some .before) := by
  refine wp_getPool fun pool => Coro.wp_bind.mpr (Coro.wp_mono (fun row g hg => wp_rest hg)
    (fun _ _ h => h) (wp_onConnection fun conn => wp_thenCommit (wp_onCursor
      (fun _ _ h => h.held) fun cur => wp_statement fun _ => wp_statement fun _ => ?_)))
  refine wp_other (fun _ => rfl) (fun row => ⟨_, rfl, rfl, fun q hq => ?_⟩) fun _ => ⟨_, rfl, rfl⟩
  obtain rfl := Option.some.inj hq
  exact List.mem_cons_of_mem _ (List.mem_cons_self ..)

theorem wp_update_done (entity : T) : (update settings mapping t entity).wp (goOn stepOf)
    (fun _ => Done (writeOf ⟨settings, mapping, t, .update entity⟩)) (fun _ => Over)
    (some .before) := by
  have hwritten : ∀ {q q' : String × List (Param V)} {l : List (String × List (Param V))},
      q' ∈ some q → q' ∈ q :: l := fun hq => Option.some.inj hq ▸ List.mem_cons_self ..
  refine wp_getPool fun pool => ?_
  dsimp only
  split_ifs
  · exact ⟨.before, rfl, trivial⟩
  · refine Coro.wp_bind.mpr (Coro.wp_mono
      (fun row g (hg : Done (writeOf ⟨settings, mapping, t, .update entity⟩) g) => ?_)
      (fun _ _ h => h) (wp_onConnection fun conn => wp_thenCommit (wp_onCursor
        (fun _ _ h => h.held) fun cur => wp_statement fun done => ?_)))
    · cases row with
      | none => exact hg
      | some row => exact Coro.wp_bind.mpr (wp_rest hg)
    · split_ifs
      · exact wp_statement fun _ => wp_other (fun _ => rfl)
          (fun row => ⟨_, rfl, rfl, fun q hq => List.mem_cons_of_mem _ (hwritten hq)⟩)
          fun _ => ⟨_, rfl, rfl⟩
      · exact ⟨_, rfl, rfl, fun q hq => hwritten hq⟩

theorem wp_delete_done (id : String) : (delete (R := R) settings t id).wp (goOn stepOf)
    (fun _ => Done (writeOf ⟨settings, mapping, t, .delete id⟩)) (fun _ => Over)
    (some .before) := by
  refine wp_getPool fun pool => Coro.wp_bind.mpr (Coro.wp_mono (fun row g hg => hg)
    (fun _ _ h => h) (wp_onConnection fun conn => wp_thenCommit (wp_onCursor
      (fun _ _ h => h.held) fun cur => wp_statement fun _ => ⟨_, rfl, rfl, fun q hq => ?_⟩)))
  obtain rfl := Option.some.inj hq
  exact List.mem_cons_self ..

end Rules

theorem wp_run (j : Job (MySQLSettings F) (Mapping R V T) T) :
    (run j).wp (goOn stepOf) (fun _ => Done (writeOf j)) (fun _ => Over) (some .before) := by
  obtain ⟨settings, mapping, t, request⟩ := j
  cases request with
  | get id => exact wp_get_done settings mapping t id
  | list limit offset => exact wp_list_done settings mapping t limit offset
  | create entity => exact wp_create_done settings mapping t entity
  | update entity => exact wp_update_done settings mapping t entity
  | delete id => exact wp_delete_done settings mapping t id

end Mysql

namespace Oracle

variable {V T : Type}

/-- What a call of `oracledb` does to the pool. -/
def stepOf : (q : Command V) → Except PyExc ((commands V).Reply q) →
    Store.Step (String × List (Param V))
  | .acquire _, r => .acquire r.toOption
  | .release conn, r => .release conn r.isOk
  | .cursor conn, r => .cursor conn r.toOption
  | .execute cur query args, r => .execute cur (query, args) r.isOk
  | .commit conn, r => .commit conn r.isOk
  | .closeCursor _, _ | .fetchone _, _ | .fetchall _, _ => .other

/-- What a request writes. -/
def writeOf (j : Job OracleSettings (Mapping V T) T) : Option (String × List (Param V)) :=
  match j.request with
  | .get _ | .list .. => none
  | .create entity =>
    let rowDict := j.mapping.entityToRow entity
    some (insertQuery j.table (columns rowDict), values rowDict)
  | .update entity =>
    let rowDict := j.mapping.entityToRow entity
    some (updateQuery j.table ((updateCols j.table rowDict).map Prod.fst),
      updateValues j.table rowDict)
  | .delete id => some (deleteQuery j.table, [.str id])

/-- What a request runs. -/
def run (j : Job OracleSettings (Mapping V T) T) :
    Operation (driver V) (Option ℕ) ((operations String T).Reply j.request) :=
  (repository j.settings j.mapping j.table).serve j.request

section Rules

variable {α : Type} {settings : OracleSettings} {mapping : Mapping V T} {t : Table}
  {q? : Option (String × List (Param V))}

theorem wp_getPool {p : ℕ → Operation (driver V) (Option ℕ) α}
    (hp : ∀ pool, (p pool).wp (goOn stepOf) (fun _ => Done q?) (fun _ => Over) (some .before)) :
    (getPool settings >>= p).wp (goOn stepOf) (fun _ => Done q?) (fun _ => Over) (some .before) :=
  Coro.wp_bind.mpr (wp_getClient (fun q r => goOn_other (a := ⟨.inl q, r⟩) rfl _) hp
    fun _ => ⟨.before, rfl, trivial⟩)

theorem wp_onConnection {pool : ℕ} {operation : String}
    {body : ℕ → Operation (driver V) (Option ℕ) α}
    (hbody : ∀ conn, (body conn).wp (goOn stepOf) (fun _ => Committed conn q?)
      (fun _ => Held conn) (some (.holding ⟨conn, [], [], [], false⟩))) :
    (tryExcept (commandErrors operation) (withConnection pool body)).wp (goOn stepOf)
      (fun _ => Done q?) (fun _ => Over) (some .before) :=
  wp_tryExcept.mpr (wp_connection (C := commands V) (q := .acquire pool) id
    (fun _ => rfl) (fun _ => rfl)
    (fun _ _ _ _ hw hQ hE => wp_release hw (fun _ => rfl) (fun _ => hQ) hE) hbody)

theorem wp_onCursor {conn : ℕ} {body : ℕ → Operation (driver V) (Option ℕ) α}
    {Q : α → Option (Phase (String × List (Param V))) → Prop} (hQ : ∀ a g, Q a g → Held conn g)
    (hbody : ∀ cur, (body cur).wp (goOn stepOf) Q (fun _ => Held conn)
      (some (.holding ⟨conn, [cur], [], [], false⟩))) :
    (withCursor conn body).wp (goOn stepOf) Q (fun _ => Held conn)
      (some (.holding ⟨conn, [], [], [], false⟩)) :=
  wp_cursor (C := commands V) (w := ⟨conn, [], [], [], false⟩) (q := .cursor conn) id
    (fun _ => rfl) (fun _ => rfl)
    (fun _ _ _ _ hQ hE => wp_other (fun _ => rfl) (fun _ => hQ) hE) hQ hbody

/-- A statement on the cursor. -/
theorem wp_statement {cur conn : ℕ} {query : String} {args : List (Param V)}
    {executed done : List (String × List (Param V))} {issued : Bool}
    {p : Cursor → Operation (driver V) (Option ℕ) α}
    {Q : α → Option (Phase (String × List (Param V))) → Prop}
    (hp : ∀ done', (p done').wp (goOn stepOf) Q (fun _ => Held conn)
      (some (.holding ⟨conn, [cur], (query, args) :: executed, done, issued⟩))) :
    (send (.execute cur query args) >>= p).wp (goOn stepOf) Q (fun _ => Held conn)
      (some (.holding ⟨conn, [cur], executed, done, issued⟩)) :=
  Coro.wp_bind.mpr (wp_execute (fun _ => rfl) (List.mem_singleton_self cur) hp
    fun _ => ⟨_, rfl, rfl⟩)

/-- A block, and then the commit. -/
theorem wp_thenCommit {conn : ℕ} {block : Operation (driver V) (Option ℕ) α}
    {g : Option (Phase (String × List (Param V)))}
    (h : block.wp (goOn stepOf) (fun _ => Executed conn q?) (fun _ => Held conn) g) :
    (block >>= fun a => send (.commit conn) >>= fun _ => pure a).wp (goOn stepOf)
      (fun _ => Committed conn q?) (fun _ => Held conn) g :=
  Coro.wp_bind.mpr (Coro.wp_mono (fun _ _ hg => Coro.wp_bind.mpr (hg.wp_commit fun _ => rfl))
    (fun _ _ h => h) h)

variable (settings mapping t)

theorem wp_get_done (id : String) : (get settings mapping t id).wp (goOn stepOf)
    (fun _ => Done none) (fun _ => Over) (some .before) := by
  refine wp_getPool fun pool => Coro.wp_bind.mpr (Coro.wp_mono (fun row g (hg : Done none g) => hg)
    (fun _ _ h => h) (wp_onConnection fun conn => wp_onCursor (fun _ _ h => h.held) fun cur =>
      wp_statement fun _ => ?_))
  exact Coro.wp_bind.mpr (wp_other (fun _ => rfl) (fun _ => ⟨_, rfl, rfl, nofun⟩)
    fun _ => ⟨_, rfl, rfl⟩)

theorem wp_list_done (limit offset : ℤ) : (list settings mapping t limit offset).wp (goOn stepOf)
    (fun _ => Done none) (fun _ => Over) (some .before) := by
  refine wp_getPool fun pool => wp_onConnection fun conn => wp_onCursor (fun _ _ h => h.held)
    fun cur => wp_statement fun _ => Coro.wp_bind.mpr (wp_other (fun _ => rfl) (fun rows =>
      wp_statement fun _ => Coro.wp_bind.mpr (wp_other (fun _ => rfl) (fun countRow => ?_)
        fun _ => ⟨_, rfl, rfl⟩)) fun _ => ⟨_, rfl, rfl⟩)
  cases countRow with
  | none => exact ⟨_, rfl, rfl, nofun⟩
  | some countRow =>
    refine Coro.wp_bind.mpr ?_
    cases mapping.countOf countRow with
    | ok count => exact ⟨_, rfl, rfl, nofun⟩
    | error exc => exact ⟨_, rfl, rfl⟩

theorem wp_create_done (entity : T) : (create settings mapping t entity).wp (goOn stepOf)
    (fun _ => Done (writeOf ⟨settings, mapping, t, .create entity⟩)) (fun _ => Over)
    (some .before) := by
  refine wp_getPool fun pool => Coro.wp_bind.mpr (Coro.wp_mono (fun stored g hg => hg)
    (fun _ _ h => h) (wp_onConnection fun conn => wp_thenCommit (wp_onCursor
      (fun _ _ h => h.held) fun cur => wp_statement fun _ => wp_statement fun _ => ?_)))
  refine Coro.wp_bind.mpr (wp_other (fun _ => rfl) (fun row => ⟨_, rfl, rfl, fun q hq => ?_⟩)
    fun _ => ⟨_, rfl, rfl⟩)
  obtain rfl := Option.some.inj hq
  exact List.mem_cons_of_mem _ (List.mem_cons_self ..)

/-- Where no row matches, the block on the cursor commits. -/
theorem wp_update_done (entity : T) : (update settings mapping t entity).wp (goOn stepOf)
    (fun _ => Done (writeOf ⟨settings, mapping, t, .update entity⟩)) (fun _ => Over)
    (some .before) := by
  have hwritten : ∀ {q q' : String × List (Param V)} {l : List (String × List (Param V))},
      q' ∈ some q → q' ∈ q :: l := fun hq => Option.some.inj hq ▸ List.mem_cons_self ..
  refine wp_getPool fun pool => ?_
  dsimp only
  split_ifs
  · exact ⟨.before, rfl, trivial⟩
  · refine Coro.wp_bind.mpr (Coro.wp_mono
      (fun stored g (hg : Done (writeOf ⟨settings, mapping, t, .update entity⟩) g) => hg)
      (fun _ _ h => h) (wp_onConnection fun conn => Coro.wp_bind.mpr (Coro.wp_mono
        (fun found g hg => ?_) (fun _ _ h => h) (wp_onCursor
          (Q := fun found => if found.isSome
            then Executed conn (writeOf ⟨settings, mapping, t, .update entity⟩)
            else Committed conn (writeOf ⟨settings, mapping, t, .update entity⟩))
          (fun found g hg => ?_) fun cur => wp_statement fun done => ?_))))
    · cases found with
      | none => exact hg
      | some stored => exact Coro.wp_bind.mpr (Executed.wp_commit hg fun _ => rfl)
    · cases found with
      | none => exact Committed.held hg
      | some stored => exact Executed.held hg
    · split_ifs
      · have hexecuted : Executed conn (writeOf ⟨settings, mapping, t, .update entity⟩)
            (some (.holding ⟨conn, [cur], [(updateQuery t ((updateCols t
              (mapping.entityToRow entity)).map Prod.fst), updateValues t
                (mapping.entityToRow entity))], [], false⟩)) := ⟨_, rfl, rfl, fun q hq => hwritten hq⟩
        exact Coro.wp_bind.mpr (hexecuted.wp_commit fun _ => rfl)
      · exact wp_statement fun _ => Coro.wp_bind.mpr (wp_other (fun _ => rfl)
          (fun row => ⟨_, rfl, rfl, fun q hq => List.mem_cons_of_mem _ (hwritten hq)⟩)
          fun _ => ⟨_, rfl, rfl⟩)

theorem wp_delete_done (id : String) : (delete settings t id).wp (goOn stepOf)
    (fun _ => Done (writeOf ⟨settings, mapping, t, .delete id⟩)) (fun _ => Over)
    (some .before) := by
  refine wp_getPool fun pool => wp_onConnection fun conn => wp_thenCommit (wp_onCursor
    (fun _ _ h => h.held) fun cur => wp_statement fun _ => ⟨_, rfl, rfl, fun q hq => ?_⟩)
  obtain rfl := Option.some.inj hq
  exact List.mem_cons_self ..

end Rules

theorem wp_run (j : Job OracleSettings (Mapping V T) T) :
    (run j).wp (goOn stepOf) (fun _ => Done (writeOf j)) (fun _ => Over) (some .before) := by
  obtain ⟨settings, mapping, t, request⟩ := j
  cases request with
  | get id => exact wp_get_done settings mapping t id
  | list limit offset => exact wp_list_done settings mapping t limit offset
  | create entity => exact wp_create_done settings mapping t entity
  | update entity => exact wp_update_done settings mapping t entity
  | delete id => exact wp_delete_done settings mapping t id

end Oracle

/-! ### The three repositories -/

/-- What a request to a `MariadbRepository` runs. -/
def Mysql.runMariadb {F R V T : Type} (j : Job (MySQLSettings F) (Mysql.Mapping R V T) T) :
    Operation (Mysql.driver F R V) (Option ℕ) ((operations String T).Reply j.request) :=
  (Mysql.mariadbRepository j.settings j.mapping j.table).serve j.request

/-- **All or nothing**: whatever raises, and however the calls are interleaved, a call of a MySQL, a
MariaDB or an Oracle repository that raises before it has issued a commit leaves nothing that another
call could see, what it writes is committed when it returns, and its connection is released once. -/
theorem transactional (F R V T : Type) :
    Transactional Mysql.stepOf (Mysql.run (F := F) (R := R) (V := V) (T := T)) Mysql.writeOf ∧
      Transactional Mysql.stepOf (Mysql.runMariadb (F := F) (R := R) (V := V) (T := T))
        Mysql.writeOf ∧
      Transactional Oracle.stepOf (Oracle.run (V := V) (T := T)) Oracle.writeOf :=
  ⟨transactional_of_wp Mysql.wp_run, transactional_of_wp Mysql.wp_run,
    transactional_of_wp Oracle.wp_run⟩

end OpenframeAdapters.Db
