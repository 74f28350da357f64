import Mathlib.Data.List.Basic
import Mathlib.Logic.Function.Basic
import OpenframeAdapters.Db.Agreement

/-!
# A MySQL table

The table behind a `MySQLRepository` or a `MariadbRepository`, as far as the statements that address
one row go, and the session that a connection is.

## The model

* `Server` — what the server decides by itself: how it reads a text, which ids a bound value is equal
  to, what a column makes of it, which statements it refuses, and what it adds to a row. A value may
  be equal to several ids: a number is compared with strings as numbers.
* `Rows` — the rows, in the order in which the server comes to them. Of several rows with an id that
  is looked for, `LIMIT 1` gives the one that it comes to first.
* `Server.run` — what a statement does. The affected rows of an `UPDATE` are those that have changed:
  the pools of the adapters are made without the flag `CLIENT_FOUND_ROWS`.
* `Session`, `answer` — the table, with what the cursors have still to give out.

## What is proved

* `reads_percent` — a server whose names are words reads the texts of the repository.
* `row_updated` — the row of an id after an `UPDATE`.
* `wpIn_withConnection`, `wpIn_withCursor`, `wpIn_execute`, `wpIn_fetchone` — the rules for the calls.
-/

namespace OpenframeAdapters.Db.Mysql

open Python OpenframeAdapters.Core

open Postgres (Table Param)

open Sql (Stmt)

/-- `pymysql.err.ProgrammingError`, which the adapter does not name. -/
def programmingError : PyExc := .of [.mysqlError, .exception] (by decide)

/-- `pymysql.err.IntegrityError`, which it does not name either. -/
def integrityError : PyExc := .of [.mysqlError, .exception] (by decide)

/-! ### The table -/

/-- The columns of a row, apart from the id column. A column may be `NULL`. -/
abbrev Columns (K : Type) := Dict String (Option K)

/-- A row, as it is fetched. -/
structure Row (K : Type) where
  /-- The value of the id column. -/
  id : K
  /-- The other columns. -/
  columns : Columns K

/-- The rows of a table, in the order in which the server comes to them. -/
abbrev Rows (K : Type) := List (Row K)

/-- What an `INSERT` has added. -/
structure Inserted (K : Type) where
  /-- The row, with what the server has assigned. -/
  row : Row K
  /-- How many rows the server comes to before it. -/
  place : ℕ
  /-- The id that the server reports. -/
  lastrowid : ℤ

/-- What the server decides by itself. -/
structure Server (V K : Type) where
  /-- What a text with its values means. -/
  read : String → List (Param V) → Option (Stmt (Param V))
  /-- The value is equal to the id. `NULL` is equal to none. -/
  equals : Param V → K → Bool
  /-- What a column holds after a value has been assigned to it. -/
  stored : String → Param V → Option K
  /-- What is set besides in a row that an `UPDATE` changes. -/
  touch : Columns K → Columns K
  /-- A constraint is violated, a column is unknown, … -/
  refuses : Rows K → Stmt (Param V) → Option PyExc
  /-- What an `INSERT` adds. -/
  inserted : Rows K → List (String × Param V) → Inserted K

section Statements

variable {V : Type} (t : Table) (rowDict : Dict String V)

/-- The columns that `update()` sets. -/
def setsOf : List (String × Param V) :=
  (updateCols t rowDict).map fun item => (item.1, .value item.2)

/-- The columns that `create()` inserts. -/
def columnsOf : List (String × Param V) := rowDict.items.map fun item => (item.1, .value item.2)

end Statements

namespace Server

variable {V K : Type} [DecidableEq K] (server : Server V K)

/-- The rows that have an id. -/
def found (rows : Rows K) (id : Param V) : Rows K := rows.filter fun row => server.equals id row.id

/-- The first row that has an id. -/
def row (rows : Rows K) (id : Param V) : Option (Row K) :=
  rows.find? fun row => server.equals id row.id

/-- Some column is set to another value than it has. -/
def changes (sets : List (String × Param V)) (columns : Columns K) : Bool :=
  sets.any fun c => decide (columns.get? c.1 ≠ some (server.stored c.1 c.2))

/-- The columns of a row after an `UPDATE`. A row that does not change stays as it is. -/
def assign (sets : List (String × Param V)) (columns : Columns K) : Columns K :=
  if server.changes sets columns then
    server.touch (columns.update (.ofPairs (sets.map fun c => (c.1, server.stored c.1 c.2))))
  else columns

/-- The rows after an `UPDATE`. -/
def updated (rows : Rows K) (sets : List (String × Param V)) (id : Param V) : Rows K :=
  rows.map fun row =>
    if server.equals id row.id then ⟨row.id, server.assign sets row.columns⟩ else row

/-- The rows after an `INSERT`. -/
def added (rows : Rows K) (columns : List (String × Param V)) : Rows K :=
  rows.take (server.inserted rows columns).place ++
    (server.inserted rows columns).row :: rows.drop (server.inserted rows columns).place

/-- The rows after a `DELETE`. -/
def removed (rows : Rows K) (id : Param V) : Rows K :=
  rows.filter fun row => !server.equals id row.id

/-- `cur.rowcount` of an `UPDATE`. -/
def affected (rows : Rows K) (sets : List (String × Param V)) (id : Param V) : ℤ :=
  (server.found rows id).countP fun row => server.changes sets row.columns

variable (t : Table)

/-- What a statement does to the table, what the cursor tells about it, and the rows it returns. -/
def run (rows : Rows K) (stmt : Stmt (Param V)) :
    Except PyExc (Cursor × List (Row K)) × Rows K :=
  match stmt with
  | .select table key limit =>
    if table = t.name ∧ key.1 = t.idColumn then
      let found := server.found rows key.2
      let found := limit.elim found found.take
      (.ok (⟨found.length, 0⟩, found), rows)
    else (.error programmingError, rows)
  | .insert table columns =>
    if table = t.name then
      match server.refuses rows stmt with
      | some exc => (.error exc, rows)
      | none => (.ok (⟨1, (server.inserted rows columns).lastrowid⟩, []), server.added rows columns)
    else (.error programmingError, rows)
  | .update table sets key =>
    if table = t.name ∧ key.1 = t.idColumn then
      match server.refuses rows stmt with
      | some exc => (.error exc, rows)
      | none => (.ok (⟨server.affected rows sets key.2, 0⟩, []), server.updated rows sets key.2)
    else (.error programmingError, rows)
  | .delete table key =>
    if table = t.name ∧ key.1 = t.idColumn then
      match server.refuses rows stmt with
      | some exc => (.error exc, rows)
      | none =>
        (.ok (⟨(server.found rows key.2).length, 0⟩, []), server.removed rows key.2)
    else (.error programmingError, rows)

/-- The server reads the statements of the repository as what they say. -/
structure Reads (rowDict : Dict String V) : Prop where
  /-- The statement that looks for a row. -/
  select : ∀ id, server.read (getQuery t) [id] = some (.select t.name (t.idColumn, id) (some 1))
  /-- The statement of `create()`. -/
  insert : server.read (insertQuery t (columns rowDict)) (values rowDict) =
    some (insertOf t rowDict)
  /-- The statement of `update()`. -/
  update : updateCols t rowDict ≠ [] →
    server.read (updateQuery t ((updateCols t rowDict).map Prod.fst)) (updateValues t rowDict) =
      some (updateOf t rowDict)

variable {server t} {rows : Rows K} {sets : List (String × Param V)} {id : Param V}

/-- The row of an id after an `UPDATE` of this id. -/
theorem row_updated : server.row (server.updated rows sets id) id =
    (server.row rows id).map fun row => ⟨row.id, server.assign sets row.columns⟩ := by
  unfold row updated
  induction rows with
  | nil => rfl
  | cons row rest ih =>
    rw [List.map_cons, List.find?_cons, List.find?_cons]
    cases hid : server.equals id row.id with
    | true => simp [hid]
    | false => simpa [hid] using ih

theorem affected_ne_zero : server.affected rows sets id ≠ 0 ↔
    ∃ row ∈ rows, server.equals id row.id = true ∧ server.changes sets row.columns = true := by
  unfold affected found
  rw [Int.natCast_ne_zero, ← Nat.pos_iff_ne_zero, List.countP_pos_iff]
  simp only [List.mem_filter, and_assoc]

omit [DecidableEq K] in
/-- No row has the id. -/
theorem row_eq_none_iff : server.row rows id = none ↔
    ∀ row ∈ rows, server.equals id row.id = false := by
  simp only [row, List.find?_eq_none, Bool.not_eq_true]

omit [DecidableEq K] in
/-- The new row is found where the server does not come to another one first. -/
theorem row_added_iff {columns : List (String × Param V)} :
    server.row (server.added rows columns) id = some (server.inserted rows columns).row ↔
      server.equals id (server.inserted rows columns).row.id = true ∧
        ∀ row, server.row (rows.take (server.inserted rows columns).place) id = some row →
          row = (server.inserted rows columns).row := by
  have hfind : server.row (server.added rows columns) id =
      (server.row (rows.take (server.inserted rows columns).place) id).or
        (server.row ((server.inserted rows columns).row ::
          rows.drop (server.inserted rows columns).place) id) := List.find?_append
  rw [hfind]
  constructor
  · intro h
    have hid : server.equals id (server.inserted rows columns).row.id = true := by
      have hmem := hfind.trans h
      exact List.find?_some (p := fun row : Row K => server.equals id row.id) hmem
    refine ⟨hid, fun row hrow => ?_⟩
    rw [hrow, Option.some_or] at h
    exact Option.some.inj h
  · rintro ⟨hid, hfirst⟩
    cases hbefore : server.row (rows.take (server.inserted rows columns).place) id with
    | none =>
      rw [Option.none_or]
      exact List.find?_cons_of_pos hid
    | some row => rw [Option.some_or, hfirst row hbefore]

/-- An `UPDATE` that is not refused. -/
theorem run_update {rowDict : Dict String V}
    (h : server.refuses rows (updateOf t rowDict) = none) :
    server.run t rows (updateOf t rowDict) =
      (.ok (⟨server.affected rows (setsOf t rowDict) (entityId t rowDict), 0⟩, []),
        server.updated rows (setsOf t rowDict) (entityId t rowDict)) := by
  unfold updateOf at h ⊢
  rw [run, if_pos ⟨rfl, rfl⟩, h]
  rfl

/-- An `INSERT` that is not refused. -/
theorem run_insert {rowDict : Dict String V}
    (h : server.refuses rows (insertOf t rowDict) = none) :
    server.run t rows (insertOf t rowDict) =
      (.ok (⟨1, (server.inserted rows (columnsOf rowDict)).lastrowid⟩, []),
        server.added rows (columnsOf rowDict)) := by
  unfold insertOf at h ⊢
  rw [run, if_pos rfl, h]
  rfl

omit [DecidableEq K] in
/-- A server whose names are words. -/
theorem reads_percent {rowDict : Dict String V} (hread : server.read = Sql.read .percent)
    (ht : Sql.IsWord t.name) (hid : Sql.IsWord t.idColumn)
    (hnames : ∀ c ∈ columns rowDict, Sql.IsWord c) (hne : columns rowDict ≠ []) :
    server.Reads t rowDict := by
  refine ⟨fun id => ?_, ?_, fun hcols => ?_⟩
  · have hclear : Sql.Clear " LIMIT 1".toList := rfl
    rw [hread, getQuery_mysql]
    exact Sql.read_selectText ht hid hclear id (by decide)
  · rw [hread, insertQuery_mysql, Sql.read_insertText ht hnames hne (by decide)
      (by simp [values, columns])]
    simp [insertOf, columns, values, List.zip_map']
  · have hcolumns : ∀ c ∈ (updateCols t rowDict).map Prod.fst, Sql.IsWord c := by
      intro c hc
      obtain ⟨item, hitem, rfl⟩ := List.mem_map.mp hc
      exact hnames _ (List.mem_map_of_mem (List.mem_of_mem_filter hitem))
    have hclear : Sql.Clear "".toList := rfl
    rw [hread, updateQuery_mysql, updateValues, Sql.read_updateText ht hcolumns hid
      (by simpa using hcols) hclear (by decide) (by simp)]
    simp [updateOf, List.zip_map']

end Server

/-! ### A session -/

/-- The table, and the rows that the cursors have still to give out. -/
structure Session (K : Type) where
  /-- The table. -/
  rows : Rows K
  /-- The rows of the last statement of a cursor. -/
  fetched : ℕ → List (Row K)

section Session

variable {F V K T α : Type} [DecidableEq K] (server : Server V K) (t : Table)

/-- The server. -/
def answer : (q : (commands (Row K) V).Call) → Session K →
    Except PyExc ((commands (Row K) V).Reply q) × Session K
  | .acquire _, s | .cursor _, s => (.ok (0 : ℕ), s)
  | .release _, s | .closeCursor _, s | .commit _, s => (.ok (), s)
  | .execute cur query args, s =>
    match server.read query args with
    | none => (.error programmingError, s)
    | some stmt =>
      match server.run t s.rows stmt with
      | (.ok (done, found), rows) => (.ok done, ⟨rows, Function.update s.fetched cur found⟩)
      | (.error exc, rows) => (.error exc, ⟨rows, s.fetched⟩)
  | .fetchone cur, s =>
    (.ok (s.fetched cur).head?, ⟨s.rows, Function.update s.fetched cur (s.fetched cur).tail⟩)
  | .fetchall cur, s => (.ok (s.fetched cur), ⟨s.rows, Function.update s.fetched cur []⟩)

/-- The server, as an operation sees it. -/
abbrev session : World (driver F (Row K) V) PyExc (Option ℕ) (Session K) :=
  (connected (Backend.of (answer server t))).shared

variable {server t} {s : Session K} {Q : α → Session K → Prop} {E : Raised → Session K → Prop}

/-- **Connections** change nothing. -/
theorem wpIn_withConnection {pool : ℕ} {body : ℕ → Operation (driver F (Row K) V) (Option ℕ) α}
    (h : ∀ conn, (body conn).wpIn (session server t) Q E s) :
    (withConnection pool body).wpIn (session server t) Q E s := by
  refine wpIn_block (fun P hP => ?_) (fun conn s P H hs => ?_) h
  · exact wpIn_command_of.mpr (hP 0)
  · exact wpIn_command_of.mpr hs

/-- **Cursors** change nothing. -/
theorem wpIn_withCursor {conn : ℕ} {body : ℕ → Operation (driver F (Row K) V) (Option ℕ) α}
    (h : ∀ cur, (body cur).wpIn (session server t) Q E s) :
    (withCursor conn body).wpIn (session server t) Q E s := by
  refine wpIn_block (fun P hP => ?_) (fun cur s P H hs => ?_) h
  · exact wpIn_command_of.mpr (hP 0)
  · exact wpIn_command_of.mpr hs

/-- **Statements** that the server reads. -/
theorem wpIn_execute {cur : ℕ} {query : String} {args : List (Param V)} {stmt : Stmt (Param V)}
    {Q : Cursor → Session K → Prop} (hread : server.read query args = some stmt)
    (h : Coro.Promised (fun r s' => Q r.1 ⟨s', Function.update s.fetched cur r.2⟩)
      (fun exc s' => E (.raw exc) ⟨s', s.fetched⟩) (server.run t s.rows stmt).2
      (server.run t s.rows stmt).1) :
    (send (F := F) (.execute cur query args)).wpIn (session server t) Q E s := by
  refine wpIn_command_of.mpr ?_
  have hanswer : answer server t (.execute cur query args) s =
      match server.run t s.rows stmt with
      | (.ok (done, found), rows) => (.ok done, ⟨rows, Function.update s.fetched cur found⟩)
      | (.error exc, rows) => (.error exc, ⟨rows, s.fetched⟩) := by
    change (match server.read query args with | none => _ | some stmt => _) = _
    rw [hread]
  rw [hanswer]
  generalize server.run t s.rows stmt = r at h
  obtain ⟨r | r, rows⟩ := r
  · exact h
  · exact h

/-- **Fetching** gives out the first row. -/
theorem wpIn_fetchone {cur : ℕ} {Q : Option (Row K) → Session K → Prop}
    (h : Q (s.fetched cur).head? ⟨s.rows, Function.update s.fetched cur (s.fetched cur).tail⟩) :
    (send (F := F) (.fetchone cur)).wpIn (session server t) Q E s :=
  wpIn_command_of.mpr h

/-- **Looking for a row** by its id. -/
theorem wpIn_reread {cur : ℕ} {id : Param V} {Q : Option (Row K) → Session K → Prop}
    (hread : server.read (getQuery t) [id] = some (.select t.name (t.idColumn, id) (some 1)))
    (h : ∀ fetched, Q (server.row s.rows id) ⟨s.rows, fetched⟩) :
    (do
      let _ ← send (F := F) (.execute cur (getQuery t) [id])
      send (F := F) (.fetchone cur)).wpIn (session server t) Q E s := by
  refine Coro.wpIn_bind.mpr (wpIn_execute hread ?_)
  rw [Server.run, if_pos ⟨rfl, rfl⟩]
  refine wpIn_fetchone ?_
  have hhead : ((server.found s.rows id).take 1).head? = server.row s.rows id := by
    rw [Server.found, List.head?_take, if_neg Nat.one_ne_zero, List.head?_filter]
    rfl
  simp only [Function.update_self, Option.elim_some, hhead]
  exact h _

end Session

end OpenframeAdapters.Db.Mysql
