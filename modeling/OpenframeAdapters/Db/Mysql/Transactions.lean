import OpenframeAdapters.Db.Mysql.Server
import OpenframeAdapters.Db.Postgres.Server
import OpenframeAdapters.Db.Single
import OpenframeAdapters.Db.Transactions

/-!
# Callers of a MySQL table at the same time

The operations of a `MySQLRepository` or a `MariadbRepository` that address one row, while others run at
the same time, and any call may fail. Each of them works in a transaction.

## The model

* `exec` — what a statement does in a transaction. An `UPDATE` writes the rows that change, and these
  are the affected rows.
* `deed` — what the calls of `aiomysql` are to the table.
* `records` — the rows as records, and `one` — what they answer: `update()` returns `None` where
  nothing changes.

## What is proved

* `answered_get`, `answered_create`, `answered_update`, `answered_delete` — each operation is answered at
  one of its moments: a statement that changes nothing, or the commit.
* `mysql_transacted` — so callers at the same time are answered as if they came one at a time, and
  what has been created is found.
-/

namespace OpenframeAdapters.Db.Mysql

open Python OpenframeAdapters.Core

open Store (Keyed Client Deed Outcome effect)

open Postgres (Table Param)

open Sql (Stmt Fault)

variable {F V K S T α : Type}

/-! ### The table -/

/-- What is raised where a statement fails. -/
def fault : Fault → PyExc
  | .taken => integrityError
  | .unfit => programmingError

section Table

variable [LinearOrder K] [DecidableEq S]

/-- What a statement that is about these rows tells, returns and writes. -/
def outcome (m : Keyed K S) (found : List (K × S)) : Stmt (Param V) → Outcome Cursor (K × S) K S
  | .select .. => ⟨⟨found.length, 0⟩, found, []⟩
  | .insert .. => ⟨⟨found.length, 0⟩, [], found.map fun row => (row.1, some row.2)⟩
  | .update .. =>
    let changed := found.filter fun row => m.lookup row.1 ≠ some row.2
    ⟨⟨changed.length, 0⟩, [], changed.map fun row => (row.1, some row.2)⟩
  | .delete .. => ⟨⟨found.length, 0⟩, [], found.map fun row => (row.1, none)⟩

section Outcomes

variable {m : Keyed K S} {k : K} {s : S} {table : String} {sets : List (String × Param V)}
  {key : String × Param V}

/-- An `UPDATE` that leaves the row as it is. -/
theorem outcome_same (h : m.lookup k = some s) :
    outcome m [(k, s)] (.update table sets key) = ⟨⟨0, 0⟩, [], []⟩ := by
  simp [outcome, h]

/-- An `UPDATE` that changes the row. -/
theorem outcome_changed (h : m.lookup k ≠ some s) :
    outcome m [(k, s)] (.update table sets key) = ⟨⟨1, 0⟩, [], [(k, some s)]⟩ := by
  simp [outcome, h]

end Outcomes

/-- What a text does. The client gives the ids. -/
def exec (server : Postgres.Server V K S) :
    String × List (Param V) → Keyed K S → Except PyExc (Outcome Cursor (K × S) K S) :=
  executes .percent server.toSchema fault outcome

/-- What the calls are to the table. -/
def deed : (q : Command V) → Except PyExc ((commands (K × S) V).Reply q) →
    Deed PyExc (String × List (Param V)) Cursor (K × S)
  | .acquire _, r => .acquire (r.map id).toOption
  | .release conn, r => .release conn r.isOk
  | .cursor conn, r => .cursor conn (r.map id).toOption
  | .closeCursor cur, r => .closeCursor cur r.isOk
  | .execute cur query args, r => .execute cur (query, args) (r.map id)
  | .fetchone cur, r => .fetchone cur (r.map id).toOption
  | .fetchall cur, r => .fetchall cur r.toOption
  | .commit conn, r => .commit conn r.isOk

end Table

/-! ### The records -/

/-- A mapping that takes any row. -/
structure Total (mapping : Mapping (K × S) V T) where
  /-- The entity of a row. -/
  toEntity : K × S → T
  rowToEntity_some : ∀ row, mapping.rowToEntity (some row) = .ok (toEntity row)

section Records

variable [LinearOrder K] [Inhabited K] (settings : MySQLSettings F) (server : Postgres.Server V K S)
  {mapping : Mapping (K × S) V T} (total : Total mapping)

/-- The rows as records. `update()` sets columns of a row. -/
def records : Merging K T S where
  idOf entity := (server.idOf (Postgres.columnsOf (mapping.entityToRow entity))).getD default
  make entity := server.make (Postgres.columnsOf (mapping.entityToRow entity))
  merge entity := server.assign (Postgres.setsOf server.table (mapping.entityToRow entity))
  shown id row := total.toEntity (id, row)
  returned _ id row := total.toEntity (id, row)
  taken := some ⟨.query, "create", some integrityError⟩

/-- What the table answers. `update()` returns `None` where nothing changes. -/
def one : Backend (singles K T) Raised (Keyed K S)
  | m, .update entity, r, m' => ∃ r', (records server total).one .sorted m (.update entity) r' m' ∧
      (m' = m → r = .ok none) ∧ (m' ≠ m → r = r')
  | m, q, r, m' => (records server total).one .sorted m q r m'

/-- What a request runs. -/
def asked (mapping : Mapping (K × S) V T) :
    (q : Single K T) → Operation (driver F (K × S) V) (Option ℕ) ((singles K T).Reply q)
  | .get id => get settings mapping server.table (server.text id)
  | .create entity => create settings mapping server.table entity
  | .update entity => update settings mapping server.table entity
  | .delete id => delete settings server.table (server.text id)

/-- An entity is a row, and an update sets something. -/
def ValidAsked (mapping : Mapping (K × S) V T) : Single K T → Prop
  | .get _ | .delete _ => True
  | .create entity => Postgres.IsStored (mapping.entityToRow entity) server
  | .update entity => Postgres.IsStored (mapping.entityToRow entity) server ∧
      server.fits (Postgres.setsOf server.table (mapping.entityToRow entity)) = true ∧
      updateCols server.table (mapping.entityToRow entity) ≠ []

end Records

/-! ### The calls -/

section Rules

variable [LinearOrder K] [DecidableEq S] {faults : Prop} {server : Postgres.Server V K S} {R : Driver}
  {B : Backend R Raised (Keyed K S)} {ask : R.Call} {clauses : Clauses Cls AdapterError}
  {m : Keyed K S} {g : Sight (Keyed K S) (Client K S (K × S))} {cur conn : ℕ}

/-- **Looking for a row** by its id. -/
theorem wpIn_found {v : Param V} {k : K}
    {Q : Option (K × S) → Sight (Keyed K S) (Client K S (K × S)) → Prop}
    (hkey : server.key v = some k) (hcur : cur ∈ g.own.cursors) (hidle : Idle g.moments)
    (hQ : ∀ m m' fetched, Keeps g m → Keeps g m' → Q (((g.own.sees m).lookup k).map fun s => (k, s))
      ⟨m', { g.own with fetched := fetched }, g.moments ++ [(m, m)] ++ [(m', m')]⟩) :
    (do
      let _ ← send (F := F) (.execute cur (getQuery server.table) [v])
      send (F := F) (.fetchone cur)).wpIn (callers faults (exec server) deed).among Q
      (Failed faults B ask clauses g.own) g := by
  have hread : Sql.read .percent (getQuery server.table) [v] =
      some (.select server.name (server.idColumn, v) (some 1)) := by
    have hclear : Sql.Clear " LIMIT 1".toList := rfl
    rw [getQuery_mysql]
    exact Sql.read_selectText server.table_word server.column_word hclear v (by decide)
  refine Coro.wpIn_bind.mpr (wpIn_executes (f := id) hread (fun _ => rfl) hcur hidle fun m hm => ?_)
  rw [Sql.Schema.exec_select hkey]
  intro a _
  refine wpIn_fetch (f := id) (fun _ => rfl) hcur (hidle.snoc m) fun a m' hm' hrow => ?_
  obtain rfl : a = ((g.own.sees m).lookup k).map fun s => (k, s) := by
    refine Eq.trans hrow ?_
    rw [Client.fetched_executed]
    cases (g.own.sees m).lookup k <;> rfl
  exact hQ m m' _ hm fun w hw => (hm' w hw).trans (hm w hw)

variable {H : α → R.Reply ask → Prop}

/-- **Connections**. -/
theorem wpIn_inConnection {pool : ℕ} {body : ℕ → Operation (driver F (K × S) V) (Option ℕ) α}
    (hown : g.own = .out) (hidle : Idle g.moments)
    (hbody : ∀ conn m ms, Idle ms → (body conn).wpIn (callers faults (exec server) deed).among
      (fun b g => g.own.conn = some conn ∧ ∃ a, H b a ∧ At faults B ask (.ok a) g.moments)
      (Failed faults B ask clauses (.holding conn)) ⟨m, .holding conn, ms⟩) :
    (tryExcept clauses (withConnection pool body)).wpIn (callers faults (exec server) deed).among
      (fun b g => ∃ a, H b a ∧ At faults B ask (.ok a) g.moments)
      (fun x g => At faults B ask (.error x) g.moments) g := by
  refine wpIn_onConnection (C := commands (K × S) V) (q := .acquire pool) (f := id) (fun _ => rfl)
    hown hidle ?_ hbody
  intro conn g Q E hconn hQ hE
  exact wpIn_release (fun _ => rfl) hconn hQ hE

/-- **Cursors**. -/
theorem wpIn_inCursor {body : ℕ → Operation (driver F (K × S) V) (Option ℕ) α}
    {P : α → Sight (Keyed K S) (Client K S (K × S)) → Prop} {ms : List (Keyed K S × Keyed K S)}
    (hidle : Idle ms) (hready : ∀ b g, P b g → ∃ r, Ready faults B ask r g)
    (hP : ∀ b g m, Keeps g m → P b g → P b ⟨m, g.own, g.moments ++ [(m, m)]⟩)
    (hbody : ∀ cur m ms, Idle ms → (body cur).wpIn (callers faults (exec server) deed).among
      (fun b g => cur ∈ g.own.cursors ∧ g.own.conn = some conn ∧ P b g)
      (Failed faults B ask clauses ((Client.holding conn).cursor cur))
      ⟨m, (Client.holding conn).cursor cur, ms⟩) :
    (withCursor conn body).wpIn (callers faults (exec server) deed).among
      (fun b g => g.own.conn = some conn ∧ P b g) (Failed faults B ask clauses (.holding conn))
      ⟨m, .holding conn, ms⟩ := by
  refine wpIn_onCursor (C := commands (K × S) V) (q := .cursor conn) (f := id) (fun _ => rfl) hidle
    ?_ hready hP hbody
  intro cur g Q E hcur hQ hE
  exact wpIn_close (fun _ => rfl) hcur hQ hE

/-- **Transactions**: a cursor, and then a commit. -/
theorem wpIn_transaction {body : ℕ → Operation (driver F (K × S) V) (Option ℕ) α}
    {ms : List (Keyed K S × Keyed K S)} (hidle : Idle ms)
    (hbody : ∀ cur m ms, Idle ms → (body cur).wpIn (callers faults (exec server) deed).among
      (fun b g => cur ∈ g.own.cursors ∧ g.own.conn = some conn ∧ Told faults B H b g)
      (Failed faults B ask clauses ((Client.holding conn).cursor cur))
      ⟨m, (Client.holding conn).cursor cur, ms⟩) :
    (do
      let b ← withCursor conn body
      send (F := F) (.commit conn)
      return b).wpIn (callers faults (exec server) deed).among
      (fun b g => g.own.conn = some conn ∧ ∃ a, H b a ∧ At faults B ask (.ok a) g.moments)
      (Failed faults B ask clauses (.holding conn)) ⟨m, .holding conn, ms⟩ := by
  refine wpIn_thenCommit (fun _ => rfl) (wpIn_inCursor (P := Told faults B H) hidle ?_ ?_ hbody)
  · exact fun b g => Told.ready
  · exact fun b g m hm => Told.snoc hm

end Rules

/-! ### The operations -/

section Operations

variable [LinearOrder K] [Inhabited K] [DecidableEq S] {faults : Prop}
  {settings : MySQLSettings F} {server : Postgres.Server V K S} {mapping : Mapping (K × S) V T}
  {total : Total mapping} {m : Keyed K S}

omit [Inhabited K] in
/-- **A client** of the pool. -/
theorem wpIn_pool {R : Driver} {B : Backend R Raised (Keyed K S)} {ask : R.Call}
    {body : ℕ → Operation (driver F (K × S) V) (Option ℕ) α}
    {Q : α → Sight (Keyed K S) (Client K S (K × S)) → Prop}
    (h : ∀ pool m ms, Idle ms → (body pool).wpIn (callers faults (exec server) deed).among Q
      (fun x g => At faults B ask (.error x) g.moments) ⟨m, .out, ms⟩) :
    (getPool settings >>= body).wpIn (callers faults (exec server) deed).among Q
      (fun x g => At faults B ask (.error x) g.moments) ⟨m, .out, []⟩ :=
  Coro.wpIn_bind.mpr (wpIn_client rfl rfl rfl idle_nil h)

/-- `get()` is answered when it looks for the row. -/
theorem answered_get (id : K) : (get settings mapping server.table (server.text id)).wpIn
    (callers faults (exec server) deed).among
    (fun a g => At faults (one server total) (.get id) (.ok a) g.moments)
    (fun x g => At faults (one server total) (.get id) (.error x) g.moments) ⟨m, .out, []⟩ := by
  unfold get
  refine wpIn_pool fun pool m ms hidle => Coro.wpIn_bind.mpr (Coro.wpIn_mono ?_ (fun _ _ h => h)
    (wpIn_inConnection (H := fun row a => a = row.map total.toEntity) rfl hidle ?_))
  · rintro (_ | row) g ⟨_, rfl, hat⟩
    · exact hat
    · refine Coro.wpIn_bind.mpr ?_
      rw [total.rowToEntity_some]
      exact hat
  · intro conn m ms hidle
    refine Coro.wpIn_mono ?_ (fun _ _ h => h) (wpIn_inCursor (P := fun row g => At faults
      (one server total) (.get id) (.ok (row.map total.toEntity)) g.moments ∧ g.own.work = [])
      hidle ?_ ?_ fun cur m ms hidle => ?_)
    · rintro row g ⟨hconn, hat, -⟩
      exact ⟨hconn, _, rfl, hat⟩
    · rintro row g ⟨hat, hwork⟩
      exact ⟨_, .inr ⟨hat, hwork⟩⟩
    · rintro row g m - ⟨hat, hwork⟩
      exact ⟨hat.snoc m, hwork⟩
    · refine wpIn_found (server.key_text id) (List.mem_cons_self ..) hidle fun m₁ m₂ fetched _ _ => ?_
      refine ⟨List.mem_cons_self .., rfl, At.snoc (hidle.pointed (.inl ?_)) m₂, rfl⟩
      change (records server total).answer .sorted (.get id) m₁ = _
      rw [Option.map_map]
      rfl

theorem deleteQuery_mysql (t : Table) :
    deleteQuery t = Sql.deleteText .percent t.name t.idColumn := by
  have hlast : " = %s" = " = " ++ Sql.Style.percent.placeholder 0 := rfl
  unfold deleteQuery Sql.deleteText
  simp only [Sql.toString_self, String.append_assoc, hlast]

/-- `delete()` is answered when it does not find the row, or when it commits. -/
theorem answered_delete (id : K) : (delete settings server.table (server.text id)).wpIn
    (callers faults (exec server) deed).among
    (fun a g => At faults (one server total) (.delete id) (.ok a) g.moments)
    (fun x g => At faults (one server total) (.delete id) (.error x) g.moments) ⟨m, .out, []⟩ := by
  have hread : Sql.read .percent (deleteQuery server.table) [Param.str (V := V) (server.text id)] =
      some (.delete server.name (server.idColumn, .str (server.text id))) := by
    rw [deleteQuery_mysql]
    exact Sql.read_deleteText server.table_word server.column_word _
  unfold delete
  refine wpIn_pool fun pool m ms hidle => Coro.wpIn_bind.mpr (Coro.wpIn_mono ?_ (fun _ _ h => h)
    (wpIn_inConnection (H := fun (n : ℤ) a => a = decide (n = 1)) rfl hidle ?_))
  · rintro n g ⟨_, rfl, hat⟩
    exact hat
  · intro conn m ms hidle
    refine wpIn_transaction hidle fun cur m ms hidle => Coro.wpIn_bind.mpr ?_
    refine wpIn_first (f := fun done => done) hread (fun _ => rfl) hidle fun m => ?_
    cases hm : m.lookup id with
    | none =>
      rw [Sql.Schema.exec_delete_none (server.key_text id) hm]
      rintro _ rfl
      refine ⟨List.mem_cons_self .., rfl, _, rfl, .inr ⟨hidle.pointed (.inl ?_), rfl⟩⟩
      exact Merging.delete_none hm
    | some s =>
      rw [Sql.Schema.exec_delete_some (server.key_text id) hm]
      rintro _ rfl
      refine ⟨List.mem_cons_self .., rfl, _, rfl, .inl ⟨hidle.snoc m, fun m' hm' => ?_⟩⟩
      have hsame : m'.lookup id = m.lookup id := hm' (id, none) (List.mem_cons_self ..)
      exact Merging.delete_some (hsame.trans hm)

omit [LinearOrder K] [Inhabited K] [DecidableEq S] in
/-- The id of a row that has been inserted. -/
theorem key_lastrowid {rowDict : Dict String V} {k : K}
    (h : server.idOf (Postgres.columnsOf rowDict) = some k) (n : ℤ) :
    server.key (((rowDict.get? server.table.idColumn).map .value).getD (.int n)) = some k := by
  obtain ⟨p, hp, hk⟩ := Option.bind_eq_some_iff.mp h
  rw [Postgres.columnsOf, lookup_map_snd] at hp
  have hid : ((rowDict.get? server.table.idColumn).map Param.value).getD (.int n) = p := by
    change ((rowDict.items.lookup server.idColumn).map Param.value).getD (.int n) = p
    rw [hp, Option.getD_some]
  rwa [hid]

/-- `create()` is answered when its statement fails, or when it commits. -/
theorem answered_create {entity : T} (h : Postgres.IsStored (mapping.entityToRow entity) server) :
    (create settings mapping server.table entity).wpIn (callers faults (exec server) deed).among
    (fun a g => At faults (one server total) (.create entity) (.ok a) g.moments)
    (fun x g => At faults (one server total) (.create entity) (.error x) g.moments)
    ⟨m, .out, []⟩ := by
  obtain ⟨hrow, hfits, k, hk⟩ := h
  have hid : (records server total).idOf entity = k := by simp [records, hk]
  have hread : Sql.read .percent _ _ = _ := read_insert hrow "" (by decide)
  rw [← insertQuery_mysql] at hread
  unfold create
  refine wpIn_pool fun pool m ms hidle => Coro.wpIn_bind.mpr (Coro.wpIn_mono ?_ (fun _ _ h => h)
    (wpIn_inConnection (H := fun row a => ∃ r, row = some r ∧ a = total.toEntity r) rfl hidle ?_))
  · rintro _ g ⟨_, ⟨row, rfl, rfl⟩, hat⟩
    rw [total.rowToEntity_some]
    exact hat
  · intro conn m ms hidle
    refine wpIn_transaction hidle fun cur m ms hidle => Coro.wpIn_bind.mpr ?_
    refine wpIn_first (f := fun done => done) hread (fun _ => rfl) hidle fun m => ?_
    have hstmt : insertOf server.table (mapping.entityToRow entity) =
      .insert server.name (Postgres.columnsOf (mapping.entityToRow entity)) := rfl
    rw [hstmt]
    cases hm : m.lookup k with
    | some s =>
      rw [Sql.Schema.exec_insert_taken hfits hk hm]
      exact Merging.create_taken (hid ▸ hm) rfl
    | none =>
      rw [Sql.Schema.exec_insert_new hfits hk hm]
      intro done _
      refine wpIn_written (fun Q => wpIn_found (key_lastrowid hk _) (List.mem_cons_self ..)
        (hidle.snoc m)) (List.mem_cons_self ..) rfl (hidle.snoc m) rfl ⟨_, rfl, rfl⟩ fun m' hm' => ?_
      have hanswer := Merging.create_new (M := records server total) (hid ▸ hm'.trans hm)
      rw [hid] at hanswer
      exact hanswer

/-- `update()` is answered when it does not find the row, when it changes nothing, or when it commits. -/
theorem answered_update {entity : T} (h : Postgres.IsStored (mapping.entityToRow entity) server)
    (hfits : server.fits (Postgres.setsOf server.table (mapping.entityToRow entity)) = true)
    (hcols : updateCols server.table (mapping.entityToRow entity) ≠ []) :
    (update settings mapping server.table entity).wpIn (callers faults (exec server) deed).among
    (fun a g => At faults (one server total) (.update entity) (.ok a) g.moments)
    (fun x g => At faults (one server total) (.update entity) (.error x) g.moments)
    ⟨m, .out, []⟩ := by
  obtain ⟨hrow, -, k, hk⟩ := h
  have hid : (records server total).idOf entity = k := by simp [records, hk]
  have hclear : Sql.Clear "".toList := rfl
  have hread : Sql.read .percent _ _ = _ := read_update hrow hcols hclear (by decide)
  rw [← updateQuery_mysql] at hread
  have hcolumn : server.idColumn ∉ (Postgres.setsOf server.table
      (mapping.entityToRow entity)).map Prod.fst := by
    simp [Postgres.setsOf, updateCols, Postgres.Server.table]
  have hkey := Postgres.key_entityId hk
  unfold update
  refine wpIn_pool fun pool m ms hidle => ?_
  dsimp only
  split_ifs with hempty
  · exact absurd (List.isEmpty_iff.mp hempty) hcols
  refine Coro.wpIn_bind.mpr (Coro.wpIn_mono ?_ (fun _ _ h => h)
    (wpIn_inConnection (H := fun row a => a = row.map total.toEntity) rfl hidle ?_))
  · rintro (_ | row) g ⟨_, rfl, hat⟩
    · exact hat
    · refine Coro.wpIn_bind.mpr ?_
      rw [total.rowToEntity_some]
      exact hat
  · intro conn m ms hidle
    refine wpIn_transaction hidle fun cur m ms hidle => Coro.wpIn_bind.mpr ?_
    refine wpIn_first (f := fun done => done) hread (fun _ => rfl) hidle fun m => ?_
    have hstmt : updateOf server.table (mapping.entityToRow entity) =
      .update server.name (Postgres.setsOf server.table (mapping.entityToRow entity))
        (server.idColumn, entityId server.table (mapping.entityToRow entity)) := rfl
    rw [hstmt]
    cases hm : m.lookup k with
    | none =>
      rw [Sql.Schema.exec_update_none hfits hcolumn hkey hm]
      rintro _ rfl
      have hanswer := Merging.update_none (M := records server total) (O := .sorted) (hid ▸ hm)
      refine ⟨List.mem_cons_self .., rfl, _, rfl, .inr ⟨hidle.pointed (.inl ?_), rfl⟩⟩
      exact ⟨.ok none, hanswer, fun _ => rfl, fun _ => rfl⟩
    | some s =>
      rw [Sql.Schema.exec_update_some hfits hcolumn hkey hm]
      have hanswer : ∀ m' : Keyed K S, m'.lookup k = some s →
          (records server total).answer .sorted (.update entity) m' = _ := fun m' hm' =>
        Merging.update_some (hid ▸ hm')
      rw [hid] at hanswer
      rintro _ rfl
      by_cases hs : server.assign (Postgres.setsOf server.table (mapping.entityToRow entity)) s = s
      · rw [hs, outcome_same hm, if_neg (not_not_intro rfl)]
        refine ⟨List.mem_cons_self .., rfl, _, rfl, .inr ⟨hidle.pointed (.inl ?_), rfl⟩⟩
        have hupdate := hanswer m hm
        rw [show (records server total).merge entity s = s from hs, Keyed.insert_of_lookup hm] at hupdate
        exact ⟨_, hupdate, fun _ => rfl, fun hne => absurd rfl hne⟩
      · rw [outcome_changed (by rw [hm]; simpa using Ne.symm hs), if_pos one_ne_zero]
        refine wpIn_written (fun Q => wpIn_found hkey (List.mem_cons_self ..) (hidle.snoc m))
          (List.mem_cons_self ..) rfl (hidle.snoc m) rfl rfl fun m' hm' => ?_
        refine ⟨_, hanswer m' (hm'.trans hm), fun heq => ?_, fun _ => rfl⟩
        have hlookup := congrArg (Finmap.lookup k) heq
        rw [Finmap.lookup_insert, hm'.trans hm] at hlookup
        exact absurd (Option.some.inj hlookup) hs

omit [Inhabited K] in
variable (faults) in
/-- Every call can be answered, and a connection that is released is given back. -/
theorem exists_effect (server : Postgres.Server V K S) (m : Keyed K S) (l : Client K S (K × S))
    (q : Command V) : ∃ r m' l', effect faults (exec server) m l (deed q r) m' l' ∧
      ∀ c ok, deed (K := K) (S := S) q r = .release c ok → l' = .out := by
  cases q with
  | acquire | cursor => exact ⟨.ok (0 : ℕ), _, _, ⟨rfl, rfl⟩, nofun⟩
  | release => exact ⟨.ok (), _, _, ⟨rfl, .inl ⟨.inl rfl, rfl⟩⟩, fun _ _ _ => rfl⟩
  | closeCursor => exact ⟨.ok (), _, _, ⟨.inl rfl, rfl, rfl⟩, nofun⟩
  | commit => exact ⟨.ok (), _, _, .inl ⟨.inl rfl, rfl, rfl⟩, nofun⟩
  | fetchone | fetchall => exact ⟨.ok _, _, _, ⟨rfl, rfl, rfl⟩, nofun⟩
  | execute cur query args =>
    cases hexec : exec server (query, args) (l.sees m) with
    | ok done => exact ⟨.ok done.info, _, _, ⟨rfl, done, hexec, rfl, rfl⟩, nofun⟩
    | error e => exact ⟨.error e, _, _, ⟨rfl, .inl ⟨hexec, rfl⟩⟩, nofun⟩

omit [Inhabited K] in
theorem givesBack_withConnection {clauses : Clauses Cls AdapterError}
    {body : ℕ → Operation (driver F (K × S) V) (Option ℕ) α} (pool : ℕ) :
    GivesBack (exec server) deed (tryExcept clauses (withConnection pool body)) :=
  givesBack_onConnection (fun _ => rfl) fun _ _ => wpIn_released fun _ => ⟨_, _, rfl⟩

omit [Inhabited K] in
/-- Every operation gives back what it takes. -/
theorem givesBack_asked (q : Single K T) :
    GivesBack (exec server) deed (asked settings server mapping q) := by
  cases q with
  | get id =>
    refine (givesBack_getClient rfl).bind fun pool => (givesBack_withConnection pool).bind fun row => ?_
    cases row with
    | none => exact givesBack_pure _
    | some row => exact (givesBack_eval _).bind fun _ => givesBack_pure _
  | create entity =>
    refine (givesBack_getClient rfl).bind fun pool => (givesBack_withConnection pool).bind fun row => ?_
    exact givesBack_eval _
  | update entity =>
    refine (givesBack_getClient rfl).bind fun pool => ?_
    dsimp only
    split_ifs
    · exact fun _ => rfl
    · refine (givesBack_withConnection pool).bind fun row => ?_
      cases row with
      | none => exact givesBack_pure _
      | some row => exact (givesBack_eval _).bind fun _ => givesBack_pure _
  | delete id =>
    refine (givesBack_getClient rfl).bind fun pool => (givesBack_withConnection pool).bind fun row => ?_
    exact givesBack_pure _

omit [DecidableEq S] in
theorem kept_one : (records server total).Kept (one server total) where
  others := by
    intro m q r m' id hone hother
    cases q with
    | update entity =>
      obtain ⟨r', hone, -⟩ := hone
      exact Merging.lookup_one hone hother
    | get | create | delete => exact Merging.lookup_one hone hother
  stays := by
    intro m q r m' id hone hdelete hid
    cases q with
    | update entity =>
      obtain ⟨r', hone, -⟩ := hone
      exact Merging.isSome_one hone hdelete hid
    | get | create | delete => exact Merging.isSome_one hone hdelete hid
  fresh htaken hone := Merging.lookup_of_created htaken hone
  created hone := Merging.stored_of_created hone

/-- **Callers at the same time**: they are answered as if they came one at a time, a call that may fail
leaves nothing half done, and what has been created is found. -/
theorem mysql_transacted (faults : Prop) (settings : MySQLSettings F) (server : Postgres.Server V K S)
    {mapping : Mapping (K × S) V T} (total : Total mapping) :
    Transacted (A := ℤ × ℤ × F × F × String) faults (exec server) deed (ValidAsked server mapping)
      (asked settings server mapping) (one server total) ∧
    Reliable (A := ℤ × ℤ × F × F × String) faults (exec server) deed (records server total)
      (ValidAsked server mapping) (asked settings server mapping) := by
  suffices h : Transacted (A := ℤ × ℤ × F × F × String) faults (exec server) deed
      (ValidAsked server mapping) (asked settings server mapping) (one server total) from
    ⟨h, reliable_of_transacted h kept_one fun hone => (Prod.mk.inj hone).1.symm⟩
  refine transacted_of_answers (fun m l q => ?_) ?_
  · obtain ⟨r, m', l', heffect, -⟩ := exists_effect faults server m l q
    exact ⟨r, m', l', heffect⟩
  · rintro q hq m
    cases q with
    | get id => exact answered_get id
    | create entity => exact answered_create hq
    | update entity => exact answered_update hq.1 hq.2.1 hq.2.2
    | delete id => exact answered_delete id

end Operations

/-! ### Names -/

/-- A row is an id with a name. -/
def nameRows : Mapping (String × List (String × Param String)) String (String × String) where
  rowToEntity
    | some row => .ok (row.1, Postgres.nameOf row.2)
    | none => .error typeError
  entityToRow := Postgres.nameRow
  countOf _ := 0

/-- Any row has an id and a name. -/
def totalNames : Total nameRows where
  toEntity row := (row.1, Postgres.nameOf row.2)
  rowToEntity_some _ := rfl

/-- Two callers create a row with the same id at the same time. Whichever of them is the first, the other
one is refused, and `get()` finds what the first one has stored. -/
theorem mysql_transacted_names : ∃ h x,
    Complete (running (R := singles String (String × String)) (asked mysqlLocal Postgres.textTable nameRows)
      (race ("1", "Ada") ("1", "Eve") "1")) h ∧
    Along (callers False (exec Postgres.textTable) deed).together (∅, fun _ => .out) h x ∧
    [.invoke 0, .invoke 1] <+: h ∧
    (Raced h 0 1 ("1", "Ada") ("1", "Eve")
        (.error (.adapter ⟨.query, "create", some integrityError⟩)) "1" ("1", "Ada") ∨
      Raced h 1 0 ("1", "Eve") ("1", "Ada")
        (.error (.adapter ⟨.query, "create", some integrityError⟩)) "1" ("1", "Eve")) := by
  refine (mysql_transacted False mysqlLocal Postgres.textTable totalNames).1.exists_race
    (M := records Postgres.textTable totalNames) (O := .sorted) (exists_effect _ _) givesBack_asked ?_ ?_
  · rintro (_ | _ | i)
    · exact Postgres.isStored_nameRow _
    · exact Postgres.isStored_nameRow _
    · trivial
  · rintro (_ | _ | i) m r m' hone
    · exact hone
    · exact hone
    · exact hone

end OpenframeAdapters.Db.Mysql
