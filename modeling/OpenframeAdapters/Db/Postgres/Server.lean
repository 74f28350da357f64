import OpenframeAdapters.Db.Agreement
import OpenframeAdapters.Db.Merging
import OpenframeAdapters.Sql.Table
import Mathlib.Data.String.Basic

/-!
# A Postgres table

The table behind a `PostgresRepository` or a `CockroachdbRepository`. The server reads the texts of the
statements, and does what they say.

## The model

* `Server` — a table whose ids can be given as strings. What it makes of the values is left open.
* `answer` — the calls of `asyncpg`. A statement returns rows where its text says so, and `execute()`
  tells how many rows it was about.
* `rows` — the records of the table: `update()` sets columns of a row, and what is returned is the row
  as it is stored.

## What is proved

* `refines_rows` — the repository answers as the records would.
* `postgres_recorded` — so what is read at any time follows from what was answered before.
-/

namespace OpenframeAdapters.Db.Postgres

open Python OpenframeAdapters.Core

open Store (Keyed)

open Sql (Query Schema Fault)

variable {F V K S T : Type}

/-- A table whose ids can be given as strings. -/
structure Server (V K S : Type) extends Schema (Param V) K S where
  /-- An id as a string. -/
  text : K → String
  key_text : ∀ k, key (.str (text k)) = some k
  number_int : ∀ n : ℕ, number (.int n) = some n
  /-- The table, which may be qualified. -/
  table_word : Sql.IsWord name
  /-- Its id column. -/
  column_word : Sql.IsWord idColumn

/-- A table that keeps texts as they are. -/
def textTable : Server String String (List (String × Param String)) where
  name := "app.users"
  idColumn := "id"
  key
    | .str s | .value s => some s
    | .int _ | .null => none
  number
    | .int n => some n.toNat
    | _ => none
  fits _ := true
  make columns := columns
  assign sets columns := sets ++ columns
  text := id
  key_text _ := rfl
  number_int _ := rfl
  table_word := by decide
  column_word := by decide

/-- The table of the repository. -/
def Server.table (server : Server V K S) : Table := ⟨server.name, server.idColumn⟩

/-- `asyncpg.PostgresError`. -/
def postgresError : PyExc := .of [.postgresError, .exception] (by decide)

/-- What `execute()` returns of a statement that was about `n` rows. -/
def tag {P : Type} (n : ℕ) : Sql.Stmt P → String
  | .insert .. => s!"INSERT 0 {n}"
  | .update .. => s!"UPDATE {n}"
  | .delete .. => s!"DELETE {n}"
  | .select .. => s!"SELECT {n}"

/-- What `delete()` looks for is not what it gets where no row was deleted. -/
theorem tag_zero {P : Type} (table : String) (key : String × P) :
    tag 0 (.delete table key) ≠ "DELETE 1" := by
  change ("DELETE 0" : String) ≠ "DELETE 1"
  decide

/-- A statement returns the rows that it is about. -/
def shows {P : Type} (query : String) : Sql.Stmt P → Bool
  | .select .. => true
  | _ => Sql.returns query

section Answer

variable [LinearOrder K] (server : Server V K S)

/-- What a text does to the table: what `execute()` says, and the rows that are returned. -/
def Server.done (query : String) (args : List (Param V)) (m : Keyed K S) :
    Except PyExc (String × List (K × S)) × Keyed K S :=
  match Sql.readQuery .dollar query args with
  | some (.stmt s) =>
    match server.exec s m with
    | (.ok rows, m') => (.ok (tag rows.length s, if shows query s then rows else []), m')
    | (.error _, m') => (.error postgresError, m')
  | _ => (.error postgresError, m)

/-- The rows that a text returns. -/
def Server.fetched (query : String) (args : List (Param V)) (m : Keyed K S) :
    Except PyExc (List (K × S)) × Keyed K S :=
  match Sql.readQuery .dollar query args with
  | some (.page table column limit offset) =>
    match server.number limit, server.number offset with
    | some limit, some offset =>
      if table = server.name ∧ column = server.idColumn then (.ok (Sql.pageOf limit offset m), m)
      else (.error postgresError, m)
    | _, _ => (.error postgresError, m)
  | _ => ((server.done query args m).1.map Prod.snd, (server.done query args m).2)

/-- What the server answers. -/
def answer : (q : (commands (K × S) V).Call) → Keyed K S →
    Except PyExc ((commands (K × S) V).Reply q) × Keyed K S
  | .fetchrow _ query args, m =>
    ((server.fetched query args m).1.map List.head?, (server.fetched query args m).2)
  | .acquire _, m => (.ok (0 : ℕ), m)
  | .fetch _ query args, m => server.fetched query args m
  | .fetchval _ query, m =>
    match Sql.readQuery .dollar query ([] : List (Param V)) with
    | some (.count table) =>
      if table = server.name then (.ok (m.keys.card : ℤ), m) else (.error postgresError, m)
    | _ => (.error postgresError, m)
  | .release _, m => (.ok (), m)
  | .execute _ query args, m =>
    ((server.done query args m).1.map Prod.fst, (server.done query args m).2)

end Answer

section Queries

variable (t : Table)

theorem getQuery_postgres : getQuery t = Sql.selectText .dollar t.name t.idColumn " LIMIT 1" := by
  have hlast : " = $1 LIMIT 1" = " = " ++ Sql.Style.dollar.placeholder 0 ++ " LIMIT 1" := rfl
  unfold getQuery Sql.selectText
  simp only [Sql.toString_self, String.append_assoc, hlast]

theorem deleteQuery_postgres : deleteQuery t = Sql.deleteText .dollar t.name t.idColumn := by
  have hlast : " = $1" = " = " ++ Sql.Style.dollar.placeholder 0 := rfl
  unfold deleteQuery Sql.deleteText
  simp only [Sql.toString_self, String.append_assoc, hlast]

theorem rowsQuery_postgres : rowsQuery t = Sql.pageText .dollar t.name t.idColumn := by
  have hlast : " LIMIT $1 OFFSET $2" = " LIMIT " ++ Sql.Style.dollar.placeholder 0 ++ " OFFSET " ++
      Sql.Style.dollar.placeholder 1 := rfl
  unfold rowsQuery Sql.pageText
  simp only [Sql.toString_self, String.append_assoc, hlast]

theorem countQuery_postgres : countQuery t = Sql.countText t.name := rfl

end Queries

/-! ### The records -/

section Records

variable (t : Table) (rowDict : Dict String V)

/-- The columns that `create()` inserts. -/
def columnsOf : List (String × Param V) := rowDict.items.map fun item => (item.1, .value item.2)

/-- The columns that `update()` sets. -/
def setsOf : List (String × Param V) :=
  (updateCols t rowDict).map fun item => (item.1, .value item.2)

/-- A row that the table can hold. -/
structure IsStored (server : Server V K S) : Prop where
  /-- The id column is one of the columns, and all names are words. -/
  row : IsRow server.table rowDict
  /-- The table takes the row. -/
  fits : server.fits (columnsOf rowDict) = true
  /-- Its id is one. -/
  key : ∃ k, server.idOf (columnsOf rowDict) = some k

end Records

/-- The rows are the records. `update()` sets columns of a row. -/
def rows [DecidableEq K] [Inhabited K] (server : Server V K S) (mapping : Mapping (K × S) V T) :
    Merging K T S where
  idOf entity := (server.idOf (columnsOf (mapping.entityToRow entity))).getD default
  make entity := server.make (columnsOf (mapping.entityToRow entity))
  merge entity := server.assign (setsOf server.table (mapping.entityToRow entity))
  shown id row := mapping.rowToEntity (id, row)
  returned _ id row := mapping.rowToEntity (id, row)
  taken := some ⟨.query, "create", some postgresError⟩

/-- What a request runs. -/
def asked (settings : PostgresSettings F) (server : Server V K S) (mapping : Mapping (K × S) V T) :
    (q : Request K T) → Operation (driver F (K × S) V) (Option ℕ) ((operations K T).Reply q)
  | .get id => get settings mapping server.table (server.text id)
  | .list limit offset => list settings mapping server.table limit offset
  | .create entity => create settings mapping server.table entity
  | .update entity => update settings mapping server.table entity
  | .delete id => delete settings server.table (server.text id)

/-- A page is one that the server gives, an entity is a row, and an update sets something. -/
def ValidAsked (server : Server V K S) (mapping : Mapping (K × S) V T) : Request K T → Prop
  | .get _ | .delete _ => True
  | .list limit offset => 0 ≤ limit ∧ 0 ≤ offset
  | .create entity => IsStored (mapping.entityToRow entity) server
  | .update entity => IsStored (mapping.entityToRow entity) server ∧
      server.fits (setsOf server.table (mapping.entityToRow entity)) = true ∧
      updateCols server.table (mapping.entityToRow entity) ≠ []

section Refinement

variable [LinearOrder K] {server : Server V K S} {m m' : Keyed K S} {query : String}
  {args : List (Param V)} {stmt : Sql.Stmt (Param V)} {found : List (K × S)}
  {E : Raised → Keyed K S → Prop}

theorem fetched_ok (hread : Sql.read .dollar query args = some stmt)
    (hexec : server.exec stmt m = (.ok found, m')) (hshows : shows query stmt = true) :
    server.fetched query args m = (.ok found, m') := by
  simp [Server.fetched, Server.done, Sql.readQuery_stmt hread, hexec, hshows, Except.map]

theorem fetched_error (hread : Sql.read .dollar query args = some stmt) {fault : Fault}
    (hexec : server.exec stmt m = (.error fault, m')) :
    server.fetched query args m = (.error postgresError, m') := by
  simp [Server.fetched, Server.done, Sql.readQuery_stmt hread, hexec, Except.map]

/-- **Rows** that a statement returns. -/
theorem wpIn_fetchrow {pool : ℕ} {Q : Option (K × S) → Keyed K S → Prop}
    (hread : Sql.read .dollar query args = some stmt)
    (hexec : server.exec stmt m = (.ok found, m')) (hshows : shows query stmt = true)
    (hQ : Q found.head? m') : (send (F := F) (.fetchrow pool query args)).wpIn
      (connected (Backend.of (answer server))).shared Q E m := by
  refine wpIn_command_of.mpr ?_
  dsimp only [answer]
  rw [fetched_ok hread hexec hshows]
  exact hQ

/-- **Statements** that fail. -/
theorem wpIn_fetchrow_error {pool : ℕ} {Q : Option (K × S) → Keyed K S → Prop}
    (hread : Sql.read .dollar query args = some stmt) {fault : Fault}
    (hexec : server.exec stmt m = (.error fault, m')) (hE : E (.raw postgresError) m') :
    (send (F := F) (.fetchrow pool query args)).wpIn
      (connected (Backend.of (answer server))).shared Q E m := by
  refine wpIn_command_of.mpr ?_
  dsimp only [answer]
  rw [fetched_error hread hexec]
  exact hE

/-- **The number of rows** that a statement was about. -/
theorem answer_execute {pool : ℕ} (hread : Sql.read .dollar query args = some stmt)
    (hexec : server.exec stmt m = (.ok found, m')) :
    answer server (.execute pool query args) m = (.ok (tag found.length stmt), m') := by
  simp [answer, Server.done, Sql.readQuery_stmt hread, hexec, Except.map]

variable {settings : PostgresSettings F} {mapping : Mapping (K × S) V T}

theorem wpIn_get_row (id : K) {Q : Option T → Keyed K S → Prop}
    (hQ : Q ((m.lookup id).map fun row => mapping.rowToEntity (id, row)) m) :
    (get settings mapping server.table (server.text id)).wpIn
      (connected (Backend.of (answer server))).shared Q E m := by
  have hread : Sql.read .dollar (getQuery server.table) [Param.str (V := V) (server.text id)] =
      some (.select server.name (server.idColumn, .str (server.text id)) (some 1)) := by
    have hclear : Sql.Clear " LIMIT 1".toList := rfl
    rw [getQuery_postgres]
    exact Sql.read_selectText server.table_word server.column_word hclear _ (by decide)
  unfold get
  refine Coro.wpIn_bind.mpr ((connects_connected _).wpIn_getClient rfl fun pool => ?_)
  refine Coro.wpIn_bind.mpr (wpIn_tryExcept.mpr ?_)
  refine wpIn_fetchrow hread (Schema.exec_select (server.key_text id)) rfl ?_
  cases hm : m.lookup id with
  | none => rwa [hm] at hQ
  | some row => rwa [hm] at hQ

theorem wpIn_list_rows {limit offset : ℕ} {Q : List T × ℤ → Keyed K S → Prop}
    (hQ : Q ((Sql.pageOf limit offset m).map mapping.rowToEntity, (m.keys.card : ℤ)) m) :
    (list settings mapping server.table limit offset).wpIn
      (connected (Backend.of (answer server))).shared Q E m := by
  have hpage : server.fetched (rowsQuery server.table) [.int limit, .int offset] m =
      (.ok (Sql.pageOf limit offset m), m) := by
    have hread : Sql.readQuery .dollar (rowsQuery server.table) [Param.int (V := V) limit, .int offset] =
        some (.page server.name server.idColumn (.int limit) (.int offset)) := by
      rw [rowsQuery_postgres]
      exact Sql.readQuery_pageText server.table_word server.column_word _ _
    simp [Server.fetched, hread, server.number_int]
  have hcount : ∀ conn, answer server (.fetchval conn (countQuery server.table)) m =
      (.ok (m.keys.card : ℤ), m) := by
    intro conn
    have hread : Sql.readQuery .dollar (countQuery server.table) ([] : List (Param V)) =
        some (.count server.name) := by
      rw [countQuery_postgres]
      exact Sql.readQuery_countText server.table_word
    simp [answer, hread]
  unfold list
  refine Coro.wpIn_bind.mpr ((connects_connected _).wpIn_getClient rfl fun pool => ?_)
  refine Coro.wpIn_bind.mpr (wpIn_tryExcept.mpr (wpIn_block (fun P hP => ?_) (fun conn m P H hm => ?_)
    fun conn => ?_))
  · exact wpIn_command_of.mpr (hP 0)
  · exact wpIn_command_of.mpr hm
  · refine Coro.wpIn_bind.mpr (wpIn_command_of.mpr ?_)
    dsimp only [answer]
    rw [hpage]
    refine Coro.wpIn_bind.mpr (wpIn_command_of.mpr ?_)
    rw [hcount]
    exact hQ

omit [LinearOrder K] in
/-- The id of a row, as `update()` takes it. -/
theorem key_entityId {rowDict : Dict String V} {k : K} (h : server.idOf (columnsOf rowDict) = some k) :
    server.key (entityId server.table rowDict) = some k := by
  obtain ⟨p, hp, hk⟩ := Option.bind_eq_some_iff.mp h
  rw [columnsOf, lookup_map_snd] at hp
  have hid : entityId server.table rowDict = p := by
    change ((rowDict.items.lookup server.idColumn).map Param.value).getD .null = p
    rw [hp, Option.getD_some]
  rwa [hid]

/-- **The rows are the records.** -/
theorem refines_rows [Inhabited K] : Refines (ValidAsked server mapping)
    (served (connected (Backend.of (answer server))) (asked settings server mapping))
    (Backend.of (D := operations K T) ((rows server mapping).answer .sorted)) Eq := by
  refine refines_of_wpIn ?_
  rintro m _ q rfl hq
  cases q with
  | get id => exact wpIn_get_row id ⟨m, rfl, rfl⟩
  | list limit offset =>
    obtain ⟨limit, rfl⟩ := Int.eq_ofNat_of_zero_le hq.1
    obtain ⟨offset, rfl⟩ := Int.eq_ofNat_of_zero_le hq.2
    refine wpIn_list_rows ⟨m, ?_, rfl⟩
    have hshow : (Sql.pageOf limit offset m).map mapping.rowToEntity = (rows server mapping).show m
        ((m.sortedKeys.drop offset).take limit) := by
      simp [Sql.pageOf, Merging.show, List.map_filterMap, rows]
      rfl
    rw [hshow]
    rfl
  | create entity =>
    obtain ⟨hrow, hfits, k, hk⟩ := hq
    have hidOf : (rows server mapping).idOf entity = k := by simp [rows, hk]
    have hread : Sql.read .dollar _ _ = _ := read_insert hrow " RETURNING *" (by decide)
    rw [← insertQuery_postgres] at hread
    have hshows : shows (insertQuery server.table (columns (mapping.entityToRow entity)))
        (insertOf server.table (mapping.entityToRow entity)) = true := by
      rw [insertQuery_postgres]
      exact Sql.returns_insertText _
    refine Coro.wpIn_bind.mpr ((connects_connected _).wpIn_getClient rfl fun pool => ?_)
    refine Coro.wpIn_bind.mpr (wpIn_tryExcept.mpr ?_)
    cases hm : m.lookup k with
    | none =>
      have hanswer : (rows server mapping).create entity m = _ := Merging.create_new (hidOf ▸ hm)
      rw [hidOf] at hanswer
      exact wpIn_fetchrow hread (Schema.exec_insert_new hfits hk hm) hshows ⟨_, hanswer, rfl⟩
    | some row =>
      have hanswer : (rows server mapping).create entity m = _ :=
        Merging.create_taken (hidOf ▸ hm) rfl
      exact wpIn_fetchrow_error hread (Schema.exec_insert_taken hfits hk hm) ⟨m, hanswer, rfl⟩
  | update entity =>
    obtain ⟨⟨hrow, -, k, hk⟩, hfits, hcols⟩ := hq
    have hidOf : (rows server mapping).idOf entity = k := by simp [rows, hk]
    have hclear : Sql.Clear " RETURNING *".toList := rfl
    have hread : Sql.read .dollar _ _ = _ := read_update hrow hcols hclear (by decide)
    rw [← updateQuery_postgres] at hread
    have hshows : shows (updateQuery server.table ((updateCols server.table
        (mapping.entityToRow entity)).map Prod.fst)) (updateOf server.table
          (mapping.entityToRow entity)) = true := by
      rw [updateQuery_postgres]
      exact Sql.returns_updateText _
    have hid : server.idColumn ∉ (setsOf server.table (mapping.entityToRow entity)).map Prod.fst := by
      simp [setsOf, updateCols, Server.table]
    change (update settings mapping server.table entity).wpIn _ _ _ m
    unfold update
    refine Coro.wpIn_bind.mpr ((connects_connected _).wpIn_getClient rfl fun pool => ?_)
    dsimp only
    split_ifs with hempty
    · exact absurd (List.isEmpty_iff.mp hempty) hcols
    refine Coro.wpIn_bind.mpr (wpIn_tryExcept.mpr ?_)
    cases hm : m.lookup k with
    | none =>
      refine wpIn_fetchrow hread (Schema.exec_update_none hfits hid (key_entityId hk) hm) hshows ?_
      exact ⟨m, Merging.update_none (hidOf ▸ hm), rfl⟩
    | some row =>
      have hanswer := Merging.update_some (M := rows server mapping) (O := .sorted) (hidOf ▸ hm)
      rw [hidOf] at hanswer
      refine wpIn_fetchrow hread (Schema.exec_update_some hfits hid (key_entityId hk) hm) hshows ?_
      exact ⟨_, hanswer, rfl⟩
  | delete id =>
    have hread : Sql.read .dollar (deleteQuery server.table) [Param.str (V := V) (server.text id)] =
        some (.delete server.name (server.idColumn, .str (server.text id))) := by
      rw [deleteQuery_postgres]
      exact Sql.read_deleteText server.table_word server.column_word _
    refine Coro.wpIn_bind.mpr ((connects_connected _).wpIn_getClient rfl fun pool => ?_)
    refine Coro.wpIn_bind.mpr (wpIn_tryExcept.mpr (wpIn_command_of.mpr ?_))
    cases hm : m.lookup id with
    | none =>
      rw [answer_execute hread (Schema.exec_delete_none (server.key_text id) hm)]
      refine ⟨m, ?_, rfl⟩
      rw [List.length_nil, decide_eq_false (tag_zero _ _)]
      exact Merging.delete_none hm
    | some row =>
      rw [answer_execute hread (Schema.exec_delete_some (server.key_text id) hm)]
      have hdeleted : decide (tag 1 (.delete server.name (server.idColumn,
          Param.str (V := V) (server.text id))) = "DELETE 1") = true := rfl
      refine ⟨_, ?_, rfl⟩
      rw [List.length_singleton, hdeleted]
      exact Merging.delete_some hm

/-- **The table**: requests in any order are answered as a map of rows would answer them. `create()` and
`update()` return the row as it is stored, and an id that is taken is refused. -/
theorem postgres_recorded [Inhabited K] (settings : PostgresSettings F) (server : Server V K S)
    (mapping : Mapping (K × S) V T) : Recorded (rows server mapping) .sorted
      (ValidAsked server mapping)
      (served (connected (Backend.of (answer server))) (asked settings server mapping)) ∅ :=
  recorded_of_refines refines_rows rfl fun b q =>
    Coro.exists_endsIn (exists_connected fun _ _ => ⟨_, _, rfl⟩) (fun _ => ⟨none, trivial⟩)
      (asked settings server mapping q) b

end Refinement

/-! ### Names -/

/-- The column with the name. -/
def nameOf (columns : List (String × Param String)) : String :=
  match columns.lookup "name" with
  | some (.value name) => name
  | _ => ""

/-- An entity is an id with a name. -/
def nameRow (entity : String × String) : Dict String String :=
  (Dict.empty.set "id" entity.1).set "name" entity.2

/-- A row is an id with a name. -/
def nameRows : Mapping (String × List (String × Param String)) String (String × String) where
  rowToEntity row := (row.1, nameOf row.2)
  entityToRow := nameRow

theorem isStored_nameRow (entity : String × String) : IsStored (nameRow entity) textTable where
  row := by
    have hcolumns : columns (nameRow entity) = ["id", "name"] := rfl
    refine ⟨by decide, ?_, ?_⟩
    · rw [hcolumns]
      decide
    · rw [hcolumns]
      decide
  fits := rfl
  key := ⟨entity.1, rfl⟩

theorem validAsked_nameRows {q : Request String (String × String)}
    (h : ∀ limit offset, q = .list limit offset → 0 ≤ limit ∧ 0 ≤ offset) :
    ValidAsked textTable nameRows q := by
  cases q with
  | get | delete => trivial
  | list limit offset => exact h limit offset rfl
  | create entity => exact isStored_nameRow entity
  | update entity => exact ⟨isStored_nameRow entity, rfl, nofun⟩

/-- A row is created, and asked for in all ways. -/
def nameRequests : List (Request String (String × String)) :=
  [.create ("1", "Ada"), .create ("1", "Eve"), .update ("1", "Grace"), .update ("2", "Eve"), .get "1",
    .list 0 0, .delete "1", .get "1"]

/-- A row is created once, `update()` and `get()` return what is stored, a row that is not there is not
updated, and after `delete()` nothing is found. -/
theorem postgres_recorded_names : ∃ m, Session (D := operations String (String × String))
    (served (connected (Backend.of (answer textTable))) (asked postgresLocal textTable nameRows)) ∅
    [⟨.create ("1", "Ada"), .ok ("1", "Ada")⟩,
      ⟨.create ("1", "Eve"), .error (.adapter ⟨.query, "create", some postgresError⟩)⟩,
      ⟨.update ("1", "Grace"), .ok (some ("1", "Grace"))⟩,
      ⟨.update ("2", "Eve"), .ok none⟩,
      ⟨.get "1", .ok (some ("1", "Grace"))⟩,
      ⟨.list 0 0, .ok ([], 1)⟩,
      ⟨.delete "1", .ok true⟩,
      ⟨.get "1", .ok none⟩] m := by
  have hvalid : ∀ q ∈ nameRequests, ValidAsked textTable nameRows q := by
    refine fun q hq => validAsked_nameRows fun limit offset hlist => ?_
    subst hlist
    simp only [nameRequests, List.mem_cons, List.not_mem_nil, reduceCtorEq, false_or, or_false,
      Request.list.injEq] at hq
    omega
  exact (postgres_recorded postgresLocal textTable nameRows).exists_run hvalid

end OpenframeAdapters.Db.Postgres
