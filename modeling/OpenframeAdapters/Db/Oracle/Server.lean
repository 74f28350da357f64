import OpenframeAdapters.Db.Agreement

/-!
# An Oracle table

The table behind an `OracleRepository`, whose columns have unquoted names.

## The model

* `Server` — what the server decides by itself: how it writes unquoted names, how it reads a text,
  what a bound value is equal to, what a column makes of it, and what it refuses.
* `Server.run` — what a statement does. `cursor.description` has the names of the columns as the
  server writes them, in upper case, and a name in a statement is the name of a column if the server
  writes it the same way.
* `Session`, `answer` — the table, with what the cursors have still to give out.

## What is proved

* `id_notMem_description` — `id` is not among the names that a cursor reports.
* `reads_colon` — a server whose names are words reads the texts of the repository.
* `wpIn_withConnection`, `wpIn_withCursor`, `wpIn_execute`, `wpIn_fetchone`, `wpIn_reread` — the rules
  for the calls.
-/

namespace OpenframeAdapters.Db.Oracle

open Python OpenframeAdapters.Core

open Postgres (Table Param)

open Sql (Stmt)

/-- `oracledb.DatabaseError`. -/
def databaseError : PyExc := .of [.oracleDatabaseError, .oracleError, .exception] (by decide)

/-! ### The table -/

/-- A row: the values of the columns, by the names that the server gives them. A column may be
`NULL`. -/
abbrev Row (K : Type) := String → Option K

/-- A statement of the repository. -/
inductive Statement (V : Type) where
  /-- A statement that addresses rows by a column, or adds one. -/
  | sql (stmt : Stmt (Param V))
  /-- The rows of a page. -/
  | page (offset limit : ℤ)
  /-- The number of rows. -/
  | count

/-- What the server decides by itself. -/
structure Server (V K : Type) where
  /-- How an unquoted name is written: in upper case. -/
  upper : String → String
  /-- The id column of a table that is called `id`. -/
  upper_id : upper "id" = "ID"
  /-- The names of the columns. -/
  columns : List String
  /-- They are unquoted. -/
  upper_columns : ∀ c ∈ columns, upper c = c
  /-- What a text with its values means. -/
  read : String → List (Param V) → Option (Statement V)
  /-- The id that a value is equal to. -/
  key : Param V → Option K
  /-- `NULL` is equal to none. -/
  key_null : key .null = none
  /-- What a column holds after a value has been assigned to it. -/
  stored : String → Param V → Option K
  /-- What is fetched of a column. -/
  fetched : Option K → V
  /-- What is fetched of a number. -/
  number : ℕ → V
  /-- The rows in the order of the id column. -/
  sorted : List (Row K) → List (Row K)
  /-- A constraint is violated, a column is unknown, … -/
  refuses : List (Row K) → Stmt (Param V) → Option PyExc
  /-- What an `INSERT` adds. -/
  inserted : List (Row K) → List (String × Param V) → Row K

namespace Server

variable {V K : Type} [DecidableEq K] (server : Server V K) (t : Table)

/-- The row has the id that a value is equal to. -/
def hasId (id : Param V) (row : Row K) : Bool :=
  (server.key id).isSome && row (server.upper t.idColumn) = server.key id

/-- The rows with an id. -/
def found (rows : List (Row K)) (id : Param V) : List (Row K) := rows.filter (server.hasId t id)

/-- A row, as it is fetched. -/
def tuple (row : Row K) : List V := server.columns.map fun c => server.fetched (row c)

/-- The `dict` of a row, as it is fetched. -/
def dict (row : Row K) : Dict String V := .ofPairs (server.columns.zip (server.tuple row))

/-- A row after columns have been set. -/
def assign (sets : List (String × Param V)) (row : Row K) : Row K := fun c =>
  match sets.find? fun set => server.upper set.1 = c with
  | some set => server.stored c set.2
  | none => row c

/-- The rows after an `UPDATE`. -/
def updated (rows : List (Row K)) (sets : List (String × Param V)) (id : Param V) : List (Row K) :=
  rows.map fun row => if server.hasId t id row then server.assign sets row else row

/-- Two unquoted names are the same. -/
def same (a b : String) : Bool := server.upper a = server.upper b

/-- What a statement does to the rows, what the cursor tells about it, and what it returns. -/
def run (rows : List (Row K)) :
    Statement V → Except PyExc (Cursor × List (List V)) × List (Row K)
  | .sql (.select table key _) =>
    if server.same table t.name ∧ server.same key.1 t.idColumn then
      let found := server.found t rows key.2
      (.ok (⟨found.length, server.columns⟩, found.map server.tuple), rows)
    else (.error databaseError, rows)
  | .sql (.insert table columns) =>
    if server.same table t.name then
      match server.refuses rows (.insert table columns) with
      | some exc => (.error exc, rows)
      | none => (.ok (⟨1, []⟩, []), rows ++ [server.inserted rows columns])
    else (.error databaseError, rows)
  | .sql (.update table sets key) =>
    if server.same table t.name ∧ server.same key.1 t.idColumn then
      match server.refuses rows (.update table sets key) with
      | some exc => (.error exc, rows)
      | none =>
        (.ok (⟨(server.found t rows key.2).length, []⟩, []), server.updated t rows sets key.2)
    else (.error databaseError, rows)
  | .sql (.delete table key) =>
    if server.same table t.name ∧ server.same key.1 t.idColumn then
      match server.refuses rows (.delete table key) with
      | some exc => (.error exc, rows)
      | none =>
        (.ok (⟨(server.found t rows key.2).length, []⟩, []),
          rows.filter fun row => !server.hasId t key.2 row)
    else (.error databaseError, rows)
  | .page offset limit =>
    let page := ((server.sorted rows).drop offset.toNat).take limit.toNat
    (.ok (⟨page.length, server.columns⟩, page.map server.tuple), rows)
  | .count => (.ok (⟨1, ["COUNT(*)"]⟩, [[server.number rows.length]]), rows)

/-- The server reads the statements of the repository as what they say. -/
structure Reads (rowDict : Dict String V) : Prop where
  /-- The statement that looks for a row. -/
  select : ∀ id, server.read (getQuery t) [id] = some (.sql (.select t.name (t.idColumn, id) none))
  /-- The statement of `update()`. -/
  update : updateCols t rowDict ≠ [] →
    server.read (updateQuery t ((updateCols t rowDict).map Prod.fst)) (updateValues t rowDict) =
      some (.sql (updateOf t rowDict))

variable {server t} {rows : List (Row K)} {id : Param V}

omit [DecidableEq K] in
theorem id_notMem_columns (server : Server V K) : "id" ∉ server.columns := by
  intro h
  have hupper := (server.upper_columns "id" h).symm.trans server.upper_id
  exact absurd hupper (by decide)

/-- **Names** come in upper case. -/
theorem id_notMem_description {stmt : Statement V} {done : Cursor} {found : List (List V)}
    (h : (server.run t rows stmt).1 = .ok (done, found)) : "id" ∉ done.description := by
  have hcount : "id" ∉ ["COUNT(*)"] := by decide
  cases stmt with
  | sql stmt =>
    cases stmt with
    | select table key limit =>
      rw [run] at h
      split_ifs at h
      cases h
      exact server.id_notMem_columns
    | insert table columns =>
      rw [run] at h
      split_ifs at h
      cases hr : server.refuses rows (.insert table columns) <;> rw [hr] at h <;> cases h
      exact List.not_mem_nil
    | update table sets key =>
      rw [run] at h
      split_ifs at h
      cases hr : server.refuses rows (.update table sets key) <;> rw [hr] at h <;> cases h
      exact List.not_mem_nil
    | delete table key =>
      rw [run] at h
      split_ifs at h
      cases hr : server.refuses rows (.delete table key) <;> rw [hr] at h <;> cases h
      exact List.not_mem_nil
  | page offset limit =>
    cases h
    exact server.id_notMem_columns
  | count =>
    cases h
    exact hcount

omit [DecidableEq K] in
theorem same_self (a : String) : server.same a a = true := decide_eq_true rfl

/-- The rows of an id. -/
theorem run_select (limit : Option ℕ) :
    server.run t rows (.sql (.select t.name (t.idColumn, id) limit)) =
      (.ok (⟨(server.found t rows id).length, server.columns⟩,
        (server.found t rows id).map server.tuple), rows) := by
  rw [run, if_pos ⟨server.same_self _, server.same_self _⟩]

/-- An `UPDATE` of the rows of an id. -/
theorem run_update (sets : List (String × Param V)) :
    server.run t rows (.sql (.update t.name sets (t.idColumn, id))) =
      match server.refuses rows (.update t.name sets (t.idColumn, id)) with
      | some exc => (.error exc, rows)
      | none => (.ok (⟨(server.found t rows id).length, []⟩, []), server.updated t rows sets id) := by
  rw [run, if_pos ⟨server.same_self _, server.same_self _⟩]

omit [DecidableEq K] in
/-- A server whose names are words. -/
theorem reads_colon {rowDict : Dict String V}
    (hread : ∀ {text args stmt}, Sql.read .colon text args = some stmt →
      server.read text args = some (.sql stmt))
    (ht : Sql.IsWord t.name) (hid : Sql.IsWord t.idColumn)
    (hnames : ∀ c ∈ Db.columns rowDict, Sql.IsWord c) : server.Reads t rowDict := by
  have hclear : Sql.Clear "".toList := rfl
  refine ⟨fun id => hread ?_, fun hcols => hread ?_⟩
  · rw [getQuery_oracle]
    exact Sql.read_selectText ht hid hclear id (by decide)
  · have hcolumns : ∀ c ∈ (updateCols t rowDict).map Prod.fst, Sql.IsWord c := by
      intro c hc
      obtain ⟨item, hitem, rfl⟩ := List.mem_map.mp hc
      exact hnames _ (List.mem_map_of_mem (List.mem_of_mem_filter hitem))
    rw [updateQuery_oracle, updateValues, Sql.read_updateText ht hcolumns hid
      (by simpa using hcols) hclear (by decide) (by simp)]
    simp [updateOf, List.zip_map']

/-- `NULL` finds nothing. -/
theorem found_null : server.found t rows .null = [] := by
  apply List.filter_eq_nil_iff.mpr
  intro row _
  rw [hasId, server.key_null]
  exact Bool.false_ne_true

/-- An `UPDATE` that finds no row changes none. -/
theorem updated_of_found {sets : List (String × Param V)} (h : server.found t rows id = []) :
    server.updated t rows sets id = rows := by
  have hnone := List.filter_eq_nil_iff.mp h
  calc server.updated t rows sets id = rows.map fun row => row :=
        List.map_congr_left fun row hrow => if_neg (hnone row hrow)
    _ = rows := List.map_id' rows

end Server

/-! ### A session -/

/-- The table, and what the cursors have still to give out. -/
structure Session (V K : Type) where
  /-- The table. -/
  rows : List (Row K)
  /-- The rows of the last statement of a cursor. -/
  fetched : ℕ → List (List V)

section Session

variable {V K α : Type} [DecidableEq K] (server : Server V K) (t : Table)

/-- The server. -/
def answer : (q : (commands V).Call) → Session V K →
    Except PyExc ((commands V).Reply q) × Session V K
  | .acquire _, s | .cursor _, s => (.ok (0 : ℕ), s)
  | .release _, s | .closeCursor _, s | .commit _, s => (.ok (), s)
  | .execute cur query args, s =>
    match server.read query args with
    | none => (.error databaseError, s)
    | some stmt =>
      match server.run t s.rows stmt with
      | (.ok (done, found), rows) => (.ok done, ⟨rows, Function.update s.fetched cur found⟩)
      | (.error exc, rows) => (.error exc, ⟨rows, s.fetched⟩)
  | .fetchone cur, s =>
    (.ok (s.fetched cur).head?, ⟨s.rows, Function.update s.fetched cur (s.fetched cur).tail⟩)
  | .fetchall cur, s => (.ok (s.fetched cur), ⟨s.rows, Function.update s.fetched cur []⟩)

/-- The server, as an operation sees it. -/
abbrev session : World (driver V) PyExc (Option ℕ) (Session V K) :=
  (connected (Backend.of (answer server t))).shared

variable {server t} {s : Session V K} {Q : α → Session V K → Prop} {E : Raised → Session V K → Prop}

/-- **Connections** change nothing. -/
theorem wpIn_withConnection {pool : ℕ} {body : ℕ → Operation (driver V) (Option ℕ) α}
    (h : ∀ conn, (body conn).wpIn (session server t) Q E s) :
    (withConnection pool body).wpIn (session server t) Q E s := by
  refine wpIn_block (fun P hP => ?_) (fun conn s P H hs => ?_) h
  · exact wpIn_command_of.mpr (hP 0)
  · exact wpIn_command_of.mpr hs

/-- **Cursors** change nothing. -/
theorem wpIn_withCursor {conn : ℕ} {body : ℕ → Operation (driver V) (Option ℕ) α}
    (h : ∀ cur, (body cur).wpIn (session server t) Q E s) :
    (withCursor conn body).wpIn (session server t) Q E s := by
  refine wpIn_block (fun P hP => ?_) (fun cur s P H hs => ?_) h
  · exact wpIn_command_of.mpr (hP 0)
  · exact wpIn_command_of.mpr hs

/-- **Statements** that the server reads. -/
theorem wpIn_execute {cur : ℕ} {query : String} {args : List (Param V)} {stmt : Statement V}
    {Q : Cursor → Session V K → Prop} (hread : server.read query args = some stmt)
    (h : Coro.Promised (fun r s' => Q r.1 ⟨s', Function.update s.fetched cur r.2⟩)
      (fun exc s' => E (.raw exc) ⟨s', s.fetched⟩) (server.run t s.rows stmt).2
      (server.run t s.rows stmt).1) :
    (send (.execute cur query args)).wpIn (session server t) Q E s := by
  refine wpIn_command_of.mpr ?_
  have hanswer : answer server t (.execute cur query args) s =
      match server.run t s.rows stmt with
      | (.ok (done, found), rows) => (.ok done, ⟨rows, Function.update s.fetched cur found⟩)
      | (.error exc, rows) => (.error exc, ⟨rows, s.fetched⟩) := by
    change (match server.read query args with | none => _ | some stmt => _) = _
    rw [hread]
  rw [hanswer]
  generalize server.run t s.rows stmt = r at h
  obtain ⟨r | r, rows⟩ := r
  · exact h
  · exact h

/-- **Statements** whose effect does not matter. -/
theorem wpIn_execute_any {cur : ℕ} {query : String} {args : List (Param V)}
    {Q : Cursor → Session V K → Prop} (hE : ∀ exc s', E (.raw exc) s')
    (h : ∀ done s', "id" ∉ done.description → Q done s') :
    (send (.execute cur query args)).wpIn (session server t) Q E s := by
  cases hread : server.read query args with
  | none =>
    refine wpIn_command_of.mpr ?_
    have hanswer : answer server t (.execute cur query args) s = (.error databaseError, s) := by
      change (match server.read query args with | none => _ | some stmt => _) = _
      rw [hread]
    rw [hanswer]
    exact hE databaseError s
  | some stmt =>
    refine wpIn_execute hread ?_
    cases hrun : (server.run t s.rows stmt).1 with
    | error exc => exact hE exc _
    | ok r => exact h r.1 _ (Server.id_notMem_description hrun)

/-- **Fetching** gives out the first row. -/
theorem wpIn_fetchone {cur : ℕ} {Q : Option (List V) → Session V K → Prop}
    (h : Q (s.fetched cur).head? ⟨s.rows, Function.update s.fetched cur (s.fetched cur).tail⟩) :
    (send (.fetchone cur)).wpIn (session server t) Q E s :=
  wpIn_command_of.mpr h

/-- **Looking for a row** by its id. -/
theorem wpIn_reread {cur : ℕ} {id : Param V}
    {k : Cursor → Option (List V) → Operation (driver V) (Option ℕ) α}
    (hread : server.read (getQuery t) [id] = some (.sql (.select t.name (t.idColumn, id) none)))
    (h : ∀ fetched, (k ⟨(server.found t s.rows id).length, server.columns⟩
      ((server.found t s.rows id).head?.map server.tuple)).wpIn (session server t) Q E
        ⟨s.rows, fetched⟩) :
    (do
      let done : Cursor ← send (.execute cur (getQuery t) [id])
      let row : Option (List V) ← send (.fetchone cur)
      k done row).wpIn (session server t) Q E s := by
  refine Coro.wpIn_bind.mpr (wpIn_execute hread ?_)
  rw [Server.run_select]
  refine Coro.wpIn_bind.mpr (wpIn_fetchone ?_)
  simp only [Function.update_self, List.head?_map]
  exact h _

end Session

end OpenframeAdapters.Db.Oracle
