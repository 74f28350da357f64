import OpenframeAdapters.Db.Oracle.Server
import OpenframeAdapters.Db.Postgres.Server
import OpenframeAdapters.Db.Single
import OpenframeAdapters.Db.Transactions

/-!
# Callers of an Oracle table at the same time

The operations of an `OracleRepository` that address one row, while others run at the same time, and any
call may fail. Each of them works in a transaction.

## The model

* `Rows` — a table, and how its rows are fetched.
* `exec` — what a statement does in a transaction. An `UPDATE` writes the rows that it finds.
* `deed` — what the calls of `oracledb` are to the table.
* `records` — the rows as records.

## What is proved

* `answered_get`, `answered_create`, `answered_update`, `answered_delete` — each operation is answered at
  one of its moments: a statement that changes nothing, or the commit.
* `oracle_transacted` — so callers at the same time are answered as if they came one at a time, and
  what has been created is found.
-/

namespace OpenframeAdapters.Db.Oracle

open Python OpenframeAdapters.Core

open Store (Keyed Client Deed Outcome effect)

open Postgres (Table Param)

open Sql (Stmt)

variable {V K S T α : Type}

/-! ### The table -/

/-- A table, and how its rows are fetched. -/
structure Rows (V K S : Type) extends Postgres.Server V K S where
  /-- The names of the columns, as the server writes them. -/
  columns : List String
  /-- A row, as it is fetched. -/
  tuple : K × S → List V

/-- The `dict` of a row, as it is fetched. -/
def Rows.dict (rows : Rows V K S) (row : K × S) : Dict String V :=
  .ofPairs (rows.columns.zip (rows.tuple row))

/-- What a statement that is about these rows tells, returns and writes. -/
def outcome (rows : Rows V K S) (found : List (K × S)) : Stmt (Param V) → Outcome Cursor (List V) K S
  | .select .. => ⟨⟨found.length, rows.columns⟩, found.map rows.tuple, []⟩
  | .insert .. | .update .. =>
    ⟨⟨found.length, []⟩, [], found.map fun row => (row.1, some row.2)⟩
  | .delete .. => ⟨⟨found.length, []⟩, [], found.map fun row => (row.1, none)⟩

/-- What a text does. -/
def exec [DecidableEq K] (rows : Rows V K S) :
    String × List (Param V) → Keyed K S → Except PyExc (Outcome Cursor (List V) K S) :=
  executes .colon rows.toSchema (fun _ => databaseError) fun _ => outcome rows

/-- What the calls are to the table. -/
def deed : (q : Command V) → Except PyExc ((commands V).Reply q) →
    Deed PyExc (String × List (Param V)) Cursor (List V)
  | .acquire _, r => .acquire (r.map id).toOption
  | .release conn, r => .release conn r.isOk
  | .cursor conn, r => .cursor conn (r.map id).toOption
  | .closeCursor cur, r => .closeCursor cur r.isOk
  | .execute cur query args, r => .execute cur (query, args) (r.map id)
  | .fetchone cur, r => .fetchone cur (r.map id).toOption
  | .fetchall cur, r => .fetchall cur r.toOption
  | .commit conn, r => .commit conn r.isOk

/-! ### The records -/

section Records

variable [LinearOrder K] (settings : OracleSettings) (rows : Rows V K S) (mapping : Mapping V T)

/-- The rows as records. `update()` sets columns of a row. -/
def records [Inhabited K] : Merging K T S where
  idOf entity := (rows.idOf (Postgres.columnsOf (mapping.entityToRow entity))).getD default
  make entity := rows.make (Postgres.columnsOf (mapping.entityToRow entity))
  merge entity := rows.assign (Postgres.setsOf rows.table (mapping.entityToRow entity))
  shown id row := mapping.rowToEntity (rows.dict (id, row))
  returned _ id row := mapping.rowToEntity (rows.dict (id, row))
  taken := some ⟨.query, "create", some databaseError⟩

/-- What a request runs. -/
def asked : (q : Single K T) → Operation (driver V) (Option ℕ) ((singles K T).Reply q)
  | .get id => get settings mapping rows.table (rows.text id)
  | .create entity => create settings mapping rows.table entity
  | .update entity => update settings mapping rows.table entity
  | .delete id => delete settings rows.table (rows.text id)

/-- An entity is a row, and an update sets something. -/
def ValidAsked : Single K T → Prop
  | .get _ | .delete _ => True
  | .create entity => Postgres.IsStored (mapping.entityToRow entity) rows.toServer
  | .update entity => Postgres.IsStored (mapping.entityToRow entity) rows.toServer ∧
      rows.fits (Postgres.setsOf rows.table (mapping.entityToRow entity)) = true ∧
      updateCols rows.table (mapping.entityToRow entity) ≠ []

end Records

/-! ### The calls -/

section Rules

variable [LinearOrder K] {faults : Prop} {rows : Rows V K S} {R : Driver}
  {B : Backend R Raised (Keyed K S)} {ask : R.Call} {clauses : Clauses Cls AdapterError}
  {m : Keyed K S} {g : Sight (Keyed K S) (Client K S (List V))} {cur conn : ℕ}

/-- **Looking for a row** by its id. -/
theorem wpIn_found {v : Param V} {k : K} {h : Option (Dict String V) → α}
    {Q : α → Sight (Keyed K S) (Client K S (List V)) → Prop}
    (hkey : rows.key v = some k) (hcur : cur ∈ g.own.cursors) (hidle : Idle g.moments)
    (hQ : ∀ m m' fetched, Keeps g m → Keeps g m' →
      Q (h (((g.own.sees m).lookup k).map fun s => rows.dict (k, s)))
        ⟨m', { g.own with fetched := fetched }, g.moments ++ [(m, m)] ++ [(m', m')]⟩) :
    (do
      let done : Cursor ← send (.execute cur (getQuery rows.table) [v])
      let row : Option (List V) ← send (.fetchone cur)
      return h (row.map (cursorRowToDict done))).wpIn (callers faults (exec rows) deed).among Q
      (Failed faults B ask clauses g.own) g := by
  have hread : Sql.read .colon (getQuery rows.table) [v] =
      some (.select rows.name (rows.idColumn, v) none) := by
    have hclear : Sql.Clear "".toList := rfl
    rw [getQuery_oracle]
    exact Sql.read_selectText rows.table_word rows.column_word hclear v (by decide)
  refine Coro.wpIn_bind.mpr (wpIn_executes (f := id) hread (fun _ => rfl) hcur hidle fun m hm => ?_)
  have hselect : (rows.exec (.select rows.name (rows.idColumn, v) none) (g.own.sees m)).1 = _ :=
    congrArg Prod.fst (Sql.Schema.exec_select hkey)
  rw [hselect]
  intro done hdone
  have hdescription : done.description = rows.columns := congrArg Cursor.description hdone.symm
  refine Coro.wpIn_bind.mpr (wpIn_fetch (f := id) (fun _ => rfl) hcur (hidle.snoc m)
    fun row m' hm' hrow => ?_)
  have htuple : row = ((g.own.sees m).lookup k).map fun s => rows.tuple (k, s) := by
    refine Eq.trans hrow ?_
    rw [Client.fetched_executed]
    cases (g.own.sees m).lookup k <;> rfl
  have hdict : row.map (cursorRowToDict done) =
      ((g.own.sees m).lookup k).map fun s => rows.dict (k, s) := by
    rw [htuple, Option.map_map]
    unfold cursorRowToDict
    rw [hdescription]
    rfl
  change Q (h (row.map (cursorRowToDict done))) _
  rw [hdict]
  exact hQ m m' _ hm fun w hw => (hm' w hw).trans (hm w hw)

variable {H : α → R.Reply ask → Prop}

/-- **Connections**. -/
theorem wpIn_inConnection {pool : ℕ} {body : ℕ → Operation (driver V) (Option ℕ) α}
    (hown : g.own = .out) (hidle : Idle g.moments)
    (hbody : ∀ conn m ms, Idle ms → (body conn).wpIn (callers faults (exec rows) deed).among
      (fun b g => g.own.conn = some conn ∧ ∃ a, H b a ∧ At faults B ask (.ok a) g.moments)
      (Failed faults B ask clauses (.holding conn)) ⟨m, .holding conn, ms⟩) :
    (tryExcept clauses (withConnection pool body)).wpIn (callers faults (exec rows) deed).among
      (fun b g => ∃ a, H b a ∧ At faults B ask (.ok a) g.moments)
      (fun x g => At faults B ask (.error x) g.moments) g := by
  refine wpIn_onConnection (C := commands V) (q := .acquire pool) (f := id) (fun _ => rfl) hown hidle
    ?_ hbody
  intro conn g Q E hconn hQ hE
  exact wpIn_release (fun _ => rfl) hconn hQ hE

/-- **Cursors**. -/
theorem wpIn_inCursor {body : ℕ → Operation (driver V) (Option ℕ) α}
    {P : α → Sight (Keyed K S) (Client K S (List V)) → Prop} {ms : List (Keyed K S × Keyed K S)}
    (hidle : Idle ms) (hready : ∀ b g, P b g → ∃ r, Ready faults B ask r g)
    (hP : ∀ b g m, Keeps g m → P b g → P b ⟨m, g.own, g.moments ++ [(m, m)]⟩)
    (hbody : ∀ cur m ms, Idle ms → (body cur).wpIn (callers faults (exec rows) deed).among
      (fun b g => cur ∈ g.own.cursors ∧ g.own.conn = some conn ∧ P b g)
      (Failed faults B ask clauses ((Client.holding conn).cursor cur))
      ⟨m, (Client.holding conn).cursor cur, ms⟩) :
    (withCursor conn body).wpIn (callers faults (exec rows) deed).among
      (fun b g => g.own.conn = some conn ∧ P b g) (Failed faults B ask clauses (.holding conn))
      ⟨m, .holding conn, ms⟩ := by
  refine wpIn_onCursor (C := commands V) (q := .cursor conn) (f := id) (fun _ => rfl) hidle ?_ hready
    hP hbody
  intro cur g Q E hcur hQ hE
  exact wpIn_close (fun _ => rfl) hcur hQ hE

/-- **Transactions**: a cursor, and then a commit. -/
theorem wpIn_transaction {body : ℕ → Operation (driver V) (Option ℕ) α}
    {ms : List (Keyed K S × Keyed K S)} (hidle : Idle ms)
    (hbody : ∀ cur m ms, Idle ms → (body cur).wpIn (callers faults (exec rows) deed).among
      (fun b g => cur ∈ g.own.cursors ∧ g.own.conn = some conn ∧ Told faults B H b g)
      (Failed faults B ask clauses ((Client.holding conn).cursor cur))
      ⟨m, (Client.holding conn).cursor cur, ms⟩) :
    (do
      let b ← withCursor conn body
      send (.commit conn)
      return b).wpIn (callers faults (exec rows) deed).among
      (fun b g => g.own.conn = some conn ∧ ∃ a, H b a ∧ At faults B ask (.ok a) g.moments)
      (Failed faults B ask clauses (.holding conn)) ⟨m, .holding conn, ms⟩ := by
  refine wpIn_thenCommit (fun _ => rfl) (wpIn_inCursor (P := Told faults B H) hidle ?_ ?_ hbody)
  · exact fun b g => Told.ready
  · exact fun b g m hm => Told.snoc hm

end Rules

/-! ### The operations -/

section Operations

variable [LinearOrder K] {faults : Prop} {settings : OracleSettings} {rows : Rows V K S}
  {mapping : Mapping V T} {m : Keyed K S}

/-- **A client** of the pool. -/
theorem wpIn_pool {R : Driver} {B : Backend R Raised (Keyed K S)} {ask : R.Call}
    {body : ℕ → Operation (driver V) (Option ℕ) α}
    {Q : α → Sight (Keyed K S) (Client K S (List V)) → Prop}
    (h : ∀ pool m ms, Idle ms → (body pool).wpIn (callers faults (exec rows) deed).among Q
      (fun x g => At faults B ask (.error x) g.moments) ⟨m, .out, ms⟩) :
    (getPool settings >>= body).wpIn (callers faults (exec rows) deed).among Q
      (fun x g => At faults B ask (.error x) g.moments) ⟨m, .out, []⟩ :=
  Coro.wpIn_bind.mpr (wpIn_client rfl rfl rfl idle_nil h)

variable [Inhabited K]

/-- `get()` is answered when it looks for the row. -/
theorem answered_get (id : K) : (get settings mapping rows.table (rows.text id)).wpIn
    (callers faults (exec rows) deed).among
    (fun a g => At faults ((records rows mapping).one .sorted) (.get id) (.ok a) g.moments)
    (fun x g => At faults ((records rows mapping).one .sorted) (.get id) (.error x) g.moments)
    ⟨m, .out, []⟩ := by
  unfold get
  refine wpIn_pool fun pool m ms hidle => Coro.wpIn_bind.mpr (Coro.wpIn_mono ?_ (fun _ _ h => h)
    (wpIn_inConnection (H := fun row a => a = row.map mapping.rowToEntity) rfl hidle ?_))
  · rintro row g ⟨_, rfl, hat⟩
    exact hat
  · intro conn m ms hidle
    refine Coro.wpIn_mono ?_ (fun _ _ h => h) (wpIn_inCursor (P := fun row g => At faults
      ((records rows mapping).one .sorted) (.get id) (.ok (row.map mapping.rowToEntity)) g.moments ∧
        g.own.work = []) hidle ?_ ?_ fun cur m ms hidle => ?_)
    · rintro row g ⟨hconn, hat, -⟩
      exact ⟨hconn, _, rfl, hat⟩
    · rintro row g ⟨hat, hwork⟩
      exact ⟨_, .inr ⟨hat, hwork⟩⟩
    · rintro row g m - ⟨hat, hwork⟩
      exact ⟨hat.snoc m, hwork⟩
    · refine wpIn_found (h := fun row => row) (rows.key_text id) (List.mem_cons_self ..) hidle
        fun m₁ m₂ fetched _ _ => ?_
      refine ⟨List.mem_cons_self .., rfl, At.snoc (hidle.pointed (.inl ?_)) m₂, rfl⟩
      change (records rows mapping).answer .sorted (.get id) m₁ = _
      rw [Option.map_map]
      rfl

theorem deleteQuery_oracle (t : Table) :
    deleteQuery t = Sql.deleteText .colon t.name t.idColumn := by
  have hlast : " = :1" = " = " ++ Sql.Style.colon.placeholder 0 := rfl
  unfold deleteQuery Sql.deleteText
  simp only [Sql.toString_self, String.append_assoc, hlast]

/-- `delete()` is answered when it does not find the row, or when it commits. -/
theorem answered_delete (id : K) : (delete settings rows.table (rows.text id)).wpIn
    (callers faults (exec rows) deed).among
    (fun a g => At faults ((records rows mapping).one .sorted) (.delete id) (.ok a) g.moments)
    (fun x g => At faults ((records rows mapping).one .sorted) (.delete id) (.error x) g.moments)
    ⟨m, .out, []⟩ := by
  have hread : Sql.read .colon (deleteQuery rows.table) [Param.str (V := V) (rows.text id)] =
      some (.delete rows.name (rows.idColumn, .str (rows.text id))) := by
    rw [deleteQuery_oracle]
    exact Sql.read_deleteText rows.table_word rows.column_word _
  unfold delete
  refine wpIn_pool fun pool m ms hidle => Coro.wpIn_mono ?_ (fun _ _ h => h)
    (wpIn_inConnection (H := fun (b : Bool) a => a = b) rfl hidle ?_)
  · rintro b g ⟨_, rfl, hat⟩
    exact hat
  · intro conn m ms hidle
    refine wpIn_transaction hidle fun cur m ms hidle => Coro.wpIn_bind.mpr ?_
    refine wpIn_first (f := fun done => done) hread (fun _ => rfl) hidle fun m => ?_
    cases hm : m.lookup id with
    | none =>
      rw [Sql.Schema.exec_delete_none (rows.key_text id) hm]
      rintro _ rfl
      refine ⟨List.mem_cons_self .., rfl, _, rfl, .inr ⟨hidle.pointed (.inl ?_), rfl⟩⟩
      exact Merging.delete_none hm
    | some s =>
      rw [Sql.Schema.exec_delete_some (rows.key_text id) hm]
      rintro _ rfl
      refine ⟨List.mem_cons_self .., rfl, _, rfl, .inl ⟨hidle.snoc m, fun m' hm' => ?_⟩⟩
      have hsame : m'.lookup id = m.lookup id := hm' (id, none) (List.mem_cons_self ..)
      exact Merging.delete_some (hsame.trans hm)

/-- `create()` is answered when its statement fails, or when it commits. -/
theorem answered_create {entity : T}
    (h : Postgres.IsStored (mapping.entityToRow entity) rows.toServer) :
    (create settings mapping rows.table entity).wpIn (callers faults (exec rows) deed).among
    (fun a g => At faults ((records rows mapping).one .sorted) (.create entity) (.ok a) g.moments)
    (fun x g => At faults ((records rows mapping).one .sorted) (.create entity) (.error x) g.moments)
    ⟨m, .out, []⟩ := by
  obtain ⟨hrow, hfits, k, hk⟩ := h
  have hid : (records rows mapping).idOf entity = k := by simp [records, hk]
  have hread : Sql.read .colon _ _ = _ := read_insert hrow "" (by decide)
  rw [← insertQuery_oracle] at hread
  unfold create
  refine wpIn_pool fun pool m ms hidle => Coro.wpIn_bind.mpr (Coro.wpIn_mono ?_ (fun _ _ h => h)
    (wpIn_inConnection (H := fun row a => a = mapping.rowToEntity row) rfl hidle ?_))
  · rintro row g ⟨_, rfl, hat⟩
    exact hat
  · intro conn m ms hidle
    refine wpIn_transaction hidle fun cur m ms hidle => Coro.wpIn_bind.mpr ?_
    refine wpIn_first (f := fun done => done) hread (fun _ => rfl) hidle fun m => ?_
    have hstmt : insertOf rows.table (mapping.entityToRow entity) =
      .insert rows.name (Postgres.columnsOf (mapping.entityToRow entity)) := rfl
    rw [hstmt]
    cases hm : m.lookup k with
    | some s =>
      rw [Sql.Schema.exec_insert_taken hfits hk hm]
      exact Merging.create_taken (hid ▸ hm) rfl
    | none =>
      rw [Sql.Schema.exec_insert_new hfits hk hm]
      intro done _
      refine wpIn_written
        (f := fun row => (row.map fun s => rows.dict (k, s)).getD (mapping.entityToRow entity))
        (fun Q => wpIn_found (h := fun row => row.getD (mapping.entityToRow entity))
          (Postgres.key_entityId hk) (List.mem_cons_self ..) (hidle.snoc m))
        (List.mem_cons_self ..) rfl (hidle.snoc m) rfl rfl fun m' hm' => ?_
      have hanswer := Merging.create_new (M := records rows mapping) (hid ▸ hm'.trans hm)
      rw [hid] at hanswer
      exact hanswer

/-- `update()` is answered when it does not find the row, or when it commits. -/
theorem answered_update {entity : T}
    (h : Postgres.IsStored (mapping.entityToRow entity) rows.toServer)
    (hfits : rows.fits (Postgres.setsOf rows.table (mapping.entityToRow entity)) = true)
    (hcols : updateCols rows.table (mapping.entityToRow entity) ≠ []) :
    (update settings mapping rows.table entity).wpIn (callers faults (exec rows) deed).among
    (fun a g => At faults ((records rows mapping).one .sorted) (.update entity) (.ok a) g.moments)
    (fun x g => At faults ((records rows mapping).one .sorted) (.update entity) (.error x) g.moments)
    ⟨m, .out, []⟩ := by
  obtain ⟨hrow, -, k, hk⟩ := h
  have hid : (records rows mapping).idOf entity = k := by simp [records, hk]
  have hclear : Sql.Clear "".toList := rfl
  have hread : Sql.read .colon _ _ = _ := read_update hrow hcols hclear (by decide)
  rw [← updateQuery_oracle] at hread
  have hcolumn : rows.idColumn ∉ (Postgres.setsOf rows.table
      (mapping.entityToRow entity)).map Prod.fst := by
    simp [Postgres.setsOf, updateCols, Postgres.Server.table]
  have hkey := Postgres.key_entityId hk
  unfold update
  refine wpIn_pool fun pool m ms hidle => ?_
  dsimp only
  split_ifs with hempty
  · exact absurd (List.isEmpty_iff.mp hempty) hcols
  refine Coro.wpIn_bind.mpr (Coro.wpIn_mono ?_ (fun _ _ h => h)
    (wpIn_inConnection (H := fun row a => a = row.map mapping.rowToEntity) rfl hidle ?_))
  · rintro row g ⟨_, rfl, hat⟩
    exact hat
  · intro conn m ms hidle
    -- the cursor's block has committed where it returns `none`
    refine Coro.wpIn_bind.mpr (Coro.wpIn_mono ?_ (fun _ _ h => h) (wpIn_inCursor
      (P := fun found g => ∃ a, a = (found.getD none).map mapping.rowToEntity ∧
        Ready faults ((records rows mapping).one .sorted) (.update entity) (.ok a) g ∧
        (found = none → At faults ((records rows mapping).one .sorted) (.update entity) (.ok a)
          g.moments)) hidle ?_ ?_ fun cur m ms hidle => Coro.wpIn_bind.mpr ?_))
    · rintro (_ | stored) g ⟨hconn, a, ha, hready, hdone⟩
      · exact ⟨hconn, a, ha, hdone rfl⟩
      · refine Coro.wpIn_bind.mpr (wpIn_commit (fun _ => rfl) hconn rfl (List.nil_subset _) hready
          fun _ m ms hat => ?_)
        exact ⟨hconn, a, ha, hat⟩
    · rintro found g ⟨a, -, hready, -⟩
      exact ⟨_, hready⟩
    · rintro found g m hm ⟨a, ha, hready, hdone⟩
      exact ⟨a, ha, hready.snoc hm, fun hnone => (hdone hnone).snoc m⟩
    · refine wpIn_first (f := fun done => done) hread (fun _ => rfl) hidle fun m => ?_
      have hstmt : updateOf rows.table (mapping.entityToRow entity) =
        .update rows.name (Postgres.setsOf rows.table (mapping.entityToRow entity))
          (rows.idColumn, entityId rows.table (mapping.entityToRow entity)) := rfl
      rw [hstmt]
      cases hm : m.lookup k with
      | none =>
        rw [Sql.Schema.exec_update_none hfits hcolumn hkey hm]
        intro done hdone
        rw [if_pos (show done.rowcount = 0 from congrArg Cursor.rowcount hdone.symm)]
        have hat : At faults ((records rows mapping).one .sorted) (.update entity) (.ok none)
            (ms ++ [(m, m)]) := hidle.pointed (.inl (Merging.update_none (hid ▸ hm)))
        refine Coro.wpIn_bind.mpr (wpIn_commit (fun _ => rfl) rfl rfl (fun _ => id)
          (.inr ⟨hat, rfl⟩) fun _ m' ms' hat' => ?_)
        exact ⟨List.mem_cons_self .., rfl, none, rfl, .inr ⟨hat', rfl⟩, fun _ => hat'⟩
      | some s =>
        rw [Sql.Schema.exec_update_some hfits hcolumn hkey hm]
        intro done hdone
        have hone : done.rowcount = 1 := congrArg Cursor.rowcount hdone.symm
        rw [if_neg (by rw [hone]; exact one_ne_zero)]
        refine Coro.wpIn_mono ?_ (fun _ _ h => h) (wpIn_written (B := (records rows mapping).one .sorted)
          (H := fun b (a : (singles K T).Reply (.update entity)) => b ≠ none ∧
            a = (b.getD none).map mapping.rowToEntity)
          (f := fun row => some (row.map fun s => rows.dict (k, s)))
          (fun Q => wpIn_found (h := some) hkey (List.mem_cons_self ..) (hidle.snoc m))
          (List.mem_cons_self ..) rfl (hidle.snoc m) rfl ⟨Option.some_ne_none _, rfl⟩
          fun m' hm' => ?_)
        · rintro b g ⟨hcur, hconn, a, ⟨hb, ha⟩, hready⟩
          exact ⟨hcur, hconn, a, ha, hready, fun hnone => absurd hnone hb⟩
        · have hanswer := Merging.update_some (M := records rows mapping) (O := .sorted)
            (hid ▸ hm'.trans hm)
          rw [hid] at hanswer
          exact hanswer

omit [Inhabited K] in
variable (faults) in
/-- Every call can be answered, and a connection that is released is given back. -/
theorem exists_effect (rows : Rows V K S) (m : Keyed K S) (l : Client K S (List V)) (q : Command V) :
    ∃ r m' l', effect faults (exec rows) m l (deed q r) m' l' ∧
      ∀ c ok, deed q r = .release c ok → l' = .out := by
  cases q with
  | acquire | cursor => exact ⟨.ok (0 : ℕ), _, _, ⟨rfl, rfl⟩, nofun⟩
  | release => exact ⟨.ok (), _, _, ⟨rfl, .inl ⟨.inl rfl, rfl⟩⟩, fun _ _ _ => rfl⟩
  | closeCursor => exact ⟨.ok (), _, _, ⟨.inl rfl, rfl, rfl⟩, nofun⟩
  | commit => exact ⟨.ok (), _, _, .inl ⟨.inl rfl, rfl, rfl⟩, nofun⟩
  | fetchone | fetchall => exact ⟨.ok _, _, _, ⟨rfl, rfl, rfl⟩, nofun⟩
  | execute cur query args =>
    cases hexec : exec rows (query, args) (l.sees m) with
    | ok done => exact ⟨.ok done.info, _, _, ⟨rfl, done, hexec, rfl, rfl⟩, nofun⟩
    | error e => exact ⟨.error e, _, _, ⟨rfl, .inl ⟨hexec, rfl⟩⟩, nofun⟩

omit [Inhabited K] in
theorem givesBack_withConnection {β : Type} {clauses : Clauses Cls AdapterError}
    {body : ℕ → Operation (driver V) (Option ℕ) β} (pool : ℕ) :
    GivesBack (exec rows) deed (tryExcept clauses (withConnection pool body)) :=
  givesBack_onConnection (fun _ => rfl) fun _ _ => wpIn_released fun _ => ⟨_, _, rfl⟩

omit [Inhabited K] in
/-- Every operation gives back what it takes. -/
theorem givesBack_asked (q : Single K T) : GivesBack (exec rows) deed (asked settings rows mapping q) := by
  cases q with
  | get | create =>
    refine (givesBack_getClient rfl).bind fun pool => (givesBack_withConnection pool).bind fun row => ?_
    exact givesBack_pure _
  | update entity =>
    refine (givesBack_getClient rfl).bind fun pool => ?_
    dsimp only
    split_ifs
    · exact fun _ => rfl
    · exact (givesBack_withConnection pool).bind fun row => givesBack_pure _
  | delete id => exact (givesBack_getClient rfl).bind givesBack_withConnection

/-- **Callers at the same time**: they are answered as if they came one at a time, a call that may fail
leaves nothing half done, and what has been created is found. -/
theorem oracle_transacted (faults : Prop) (settings : OracleSettings) (rows : Rows V K S)
    (mapping : Mapping V T) :
    Transacted (A := String × ℤ × ℤ × ℤ × ℤ) faults (exec rows) deed (ValidAsked rows mapping)
      (asked settings rows mapping) ((records rows mapping).one .sorted) ∧
    Reliable (A := String × ℤ × ℤ × ℤ × ℤ) faults (exec rows) deed (records rows mapping)
      (ValidAsked rows mapping) (asked settings rows mapping) := by
  suffices h : Transacted (A := String × ℤ × ℤ × ℤ × ℤ) faults (exec rows) deed
      (ValidAsked rows mapping) (asked settings rows mapping) ((records rows mapping).one .sorted) from
    ⟨h, reliable_of_transacted h Merging.kept_one fun hone => (Prod.mk.inj hone).1.symm⟩
  refine transacted_of_answers (fun m l q => ?_) ?_
  · obtain ⟨r, m', l', heffect, -⟩ := exists_effect faults rows m l q
    exact ⟨r, m', l', heffect⟩
  · rintro q hq m
    cases q with
    | get id => exact answered_get id
    | create entity => exact answered_create hq
    | update entity => exact answered_update hq.1 hq.2.1 hq.2.2
    | delete id => exact answered_delete id

end Operations

/-! ### Names -/

/-- The rows of a table, with an id and a name. -/
def textRows : Rows String String (List (String × Param String)) where
  toServer := Postgres.textTable
  columns := ["ID", "NAME"]
  tuple row := [row.1, Postgres.nameOf row.2]

/-- A row is an id with a name. -/
def nameRows : Mapping String (String × String) where
  rowToEntity row := ((row.get? "ID").getD "", (row.get? "NAME").getD "")
  entityToRow := Postgres.nameRow
  countOf _ := .error typeError

/-- Two callers create a row with the same id at the same time. Whichever of them is the first, the other
one is refused, and `get()` finds what the first one has stored. -/
theorem oracle_transacted_names : ∃ h x,
    Complete (running (R := singles String (String × String)) (asked oracleLocal textRows nameRows)
      (race ("1", "Ada") ("1", "Eve") "1")) h ∧
    Along (callers False (exec textRows) deed).together (∅, fun _ => .out) h x ∧
    [.invoke 0, .invoke 1] <+: h ∧
    (Raced h 0 1 ("1", "Ada") ("1", "Eve")
        (.error (.adapter ⟨.query, "create", some databaseError⟩)) "1" ("1", "Ada") ∨
      Raced h 1 0 ("1", "Eve") ("1", "Ada")
        (.error (.adapter ⟨.query, "create", some databaseError⟩)) "1" ("1", "Eve")) := by
  refine (oracle_transacted False oracleLocal textRows nameRows).1.exists_race
    (M := records textRows nameRows) (O := .sorted) (exists_effect _ _) givesBack_asked ?_ fun hone => hone
  rintro (_ | _ | i)
  · exact Postgres.isStored_nameRow _
  · exact Postgres.isStored_nameRow _
  · trivial

end OpenframeAdapters.Db.Oracle
