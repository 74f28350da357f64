import OpenframeAdapters.Db.Mysql.Server

/-!
# What `create()` and `update()` of MySQL return

Both write a row, and then read it again. `update()` reads only if the statement has changed a row,
and `create()` looks for the id of the entity, or for `lastrowid` where the entity has no id column.

## The model

* `FindsRow` — `update()` returns the row of the entity as it is after the statement, and `None` only
  where there is no such row.
* `StoresRow` — `create()` returns the row that has been inserted.
* `AssignsIds` — how a new row gets its id.
* `HasId` — what has to hold of the entity and the table so that `create()` finds the new row.

## What is proved

* `update_ends`, `create_ends` — what the operations return.
* `findsRow_iff`, `storesRow_iff` — when it is what they should return.
-/

namespace OpenframeAdapters.Db.Mysql

open Python OpenframeAdapters.Core

open Postgres (Table Param)

section Reread

variable {F V K T : Type} [DecidableEq K] (server : Server V K) (settings : MySQLSettings F)
  (mapping : Mapping (Row K) V T) (t : Table)

/-- `self._row_to_entity(row)` as the end of an operation. -/
def entityOf (rowToEntity : Option (Row K) → Except PyExc T) (row : Option (Row K)) :
    Except Raised T :=
  (rowToEntity row).mapError .raw

/-! ### `update()` -/

/-- An `update(entity)` that the server does not refuse finds the row of the entity. -/
structure FindsRow (update : Operation (driver F (Row K) V) (Option ℕ) (Option T)) (s : Session K)
    (rowDict : Dict String V) : Prop where
  /-- It returns `None` where no row has the id, and nowhere else. -/
  none_iff : ∀ {o s'}, update.EndsIn (session server t) s o s' →
    server.refuses s.rows (updateOf t rowDict) = none →
      (o = .ok none ↔ server.row s.rows (entityId t rowDict) = none)
  /-- It returns the row as it is then. -/
  returns : ∀ {o s'}, update.EndsIn (session server t) s o s' →
    server.refuses s.rows (updateOf t rowDict) = none →
      ∀ row, server.row s'.rows (entityId t rowDict) = some row →
        o = (entityOf mapping.rowToEntity (some row)).map some

variable {server settings mapping t} {s s' : Session K} {entity : T} {rowDict : Dict String V}

/-- What `update()` returns, given the row that it has read. -/
def updateEnd (mapping : Mapping (Row K) V T) : Option (Row K) → Except Raised (Option T)
  | none => .ok none
  | some row => (entityOf mapping.rowToEntity (some row)).map some

/-- **What `update(entity)` does**: it reads the row only if the statement has changed it. -/
theorem update_ends {o : Except Raised (Option T)}
    (h : (update settings mapping t entity).EndsIn (session server t) s o s')
    (he : mapping.entityToRow entity = rowDict) (hreads : server.Reads t rowDict)
    (hcols : updateCols t rowDict ≠ [])
    (haccepts : server.refuses s.rows (updateOf t rowDict) = none) :
    o = updateEnd mapping
        (if server.affected s.rows (setsOf t rowDict) (entityId t rowDict) ≠ 0 then
          server.row s'.rows (entityId t rowDict) else none) ∧
      s'.rows = server.updated s.rows (setsOf t rowDict) (entityId t rowDict) := by
  suffices hend : o = updateEnd mapping
      (if server.affected s.rows (setsOf t rowDict) (entityId t rowDict) ≠ 0 then
        server.row (server.updated s.rows (setsOf t rowDict) (entityId t rowDict))
          (entityId t rowDict) else none) ∧
      s'.rows = server.updated s.rows (setsOf t rowDict) (entityId t rowDict) by
    obtain ⟨ho, hrows⟩ := hend
    rw [hrows]
    exact ⟨ho, rfl⟩
  refine h.eq_of_wpIn (I := fun s' => s'.rows = _) ?_
  unfold update
  refine Coro.wpIn_bind.mpr ((connects_connected _).wpIn_getClient rfl fun pool => ?_)
  dsimp only
  rw [he, if_neg (by simpa using hcols)]
  refine Coro.wpIn_bind.mpr (wpIn_tryExcept.mpr (wpIn_withConnection fun conn => ?_))
  refine Coro.wpIn_bind.mpr (wpIn_withCursor fun cur => ?_)
  refine Coro.wpIn_bind.mpr (wpIn_execute (hreads.update hcols) ?_)
  rw [Server.run_update haccepts]
  dsimp only [Coro.Promised]
  split_ifs with hchanged
  · refine wpIn_reread (hreads.select _) fun fetched => ?_
    refine Coro.wpIn_bind.mpr (wpIn_command_of.mpr ?_)
    generalize server.row _ _ = row
    cases row with
    | none => exact ⟨rfl, rfl⟩
    | some row =>
      refine Coro.wpIn_bind.mpr ?_
      rw [updateEnd, entityOf]
      cases mapping.rowToEntity (some row) with
      | ok a => exact ⟨rfl, rfl⟩
      | error exc => exact ⟨rfl, rfl⟩
  · exact Coro.wpIn_bind.mpr (wpIn_command_of.mpr ⟨rfl, rfl⟩)

theorem changes_setsOf {columns : Columns K} :
    server.changes (setsOf t rowDict) columns = true ↔ ∃ item ∈ updateCols t rowDict,
      columns.get? item.1 ≠ some (server.stored item.1 (.value item.2)) := by
  simp [Server.changes, setsOf]

/-- The row of an entity is found exactly where the statement changes it, or another row with the
id. -/
theorem findsRow_iff_changes (he : mapping.entityToRow entity = rowDict)
    (hreads : server.Reads t rowDict) (hcols : updateCols t rowDict ≠ []) :
    FindsRow server mapping t (update settings mapping t entity) s rowDict ↔
      (server.refuses s.rows (updateOf t rowDict) = none → ∀ row,
        server.row s.rows (entityId t rowDict) = some row →
          ∃ row' ∈ s.rows, server.equals (entityId t rowDict) row'.id = true ∧
            ∃ item ∈ updateCols t rowDict,
              row'.columns.get? item.1 ≠ some (server.stored item.1 (.value item.2))) := by
  constructor
  · intro h haccepts row hrow
    by_contra hsame
    simp only [← changes_setsOf] at hsame
    have hzero : ¬ server.affected s.rows (setsOf t rowDict) (entityId t rowDict) ≠ 0 :=
      fun hne => hsame (Server.affected_ne_zero.mp hne)
    obtain ⟨o, s', hend⟩ := exists_end (answer server t) (update settings mapping t entity) s
    obtain ⟨rfl, -⟩ := update_ends hend he hreads hcols haccepts
    rw [if_neg hzero] at hend
    have hnone := (h.none_iff hend haccepts).mp rfl
    rw [hrow] at hnone
    cases hnone
  · intro h
    have hread : ∀ row, server.refuses s.rows (updateOf t rowDict) = none →
        server.row s.rows (entityId t rowDict) = some row →
        server.affected s.rows (setsOf t rowDict) (entityId t rowDict) ≠ 0 :=
      fun row haccepts hrow => by
        obtain ⟨row', hmem, hid, hchanges⟩ := h haccepts row hrow
        exact Server.affected_ne_zero.mpr ⟨row', hmem, hid, changes_setsOf.mpr hchanges⟩
    constructor
    · intro o s' hend haccepts
      obtain ⟨rfl, hrows⟩ := update_ends hend he hreads hcols haccepts
      rw [hrows, Server.row_updated]
      cases hrow : server.row s.rows (entityId t rowDict) with
      | none =>
        rw [Option.map_none, ite_self]
        exact iff_of_true rfl rfl
      | some row =>
        rw [if_pos (hread row haccepts hrow), Option.map_some, updateEnd]
        refine iff_of_false (fun hnone => ?_) (Option.some_ne_none row)
        cases hentity : entityOf mapping.rowToEntity _ with
        | ok a => rw [hentity] at hnone; cases hnone
        | error x => rw [hentity] at hnone; cases hnone
    · intro o s' hend haccepts row' hrow'
      obtain ⟨rfl, hrows⟩ := update_ends hend he hreads hcols haccepts
      have hfound := hrow'
      rw [hrows, Server.row_updated] at hfound
      obtain ⟨row, hrow, -⟩ := Option.map_eq_some_iff.mp hfound
      rw [if_pos (hread row haccepts hrow), hrow']
      rfl

/-! ### `create()` -/

variable (server t) in
/-- How the id column of a new row gets its value. `generates` says of which given values the server
makes an id of its own, as it does of `0` where the column is `AUTO_INCREMENT`. -/
structure AssignsIds (autoIncrement : Bool) (generates : Param V → Prop) : Prop where
  /-- Any other value that is not `NULL` is kept. -/
  given : ∀ {rows columns v}, server.refuses rows (.insert t.name columns) = none →
    columns.lookup t.idColumn = some v → (∃ k, server.equals v k = true) →
      (server.equals v (server.inserted rows columns).row.id = true ↔ ¬ generates v)
  /-- Without an id, or with `NULL`, one is generated and reported that no row has yet. -/
  generated : autoIncrement = true → ∀ {rows columns},
    server.refuses rows (.insert t.name columns) = none →
      (∀ v, columns.lookup t.idColumn = some v → ∀ k, server.equals v k = false) →
        server.equals (.int (server.inserted rows columns).lastrowid)
            (server.inserted rows columns).row.id = true ∧
          server.row rows (.int (server.inserted rows columns).lastrowid) = none
  /-- Nothing is reported where nothing has been generated. -/
  unreported : autoIncrement = false → ∀ {rows columns},
    server.refuses rows (.insert t.name columns) = none → columns.lookup t.idColumn = none →
      (server.inserted rows columns).lastrowid = 0

variable (server t) in
/-- A `create(entity)` that the server does not refuse hands the inserted row to
`_row_to_entity()`, whatever that makes of it. -/
def StoresRow (create : (Option (Row K) → Except PyExc T) →
    Operation (driver F (Row K) V) (Option ℕ) T) (s : Session K) (rowDict : Dict String V) : Prop :=
  ∀ rowToEntity {o s'}, (create rowToEntity).EndsIn (session server t) s o s' →
    server.refuses s.rows (insertOf t rowDict) = none →
      o = entityOf rowToEntity (some (server.inserted s.rows (columnsOf rowDict)).row)

variable (server) in
/-- Among the rows with an id, the server comes to no other row before the new one. -/
def ComesFirst (rows : Rows K) (columns : List (String × Param V)) (id : Param V) : Prop :=
  ∀ row, server.row (rows.take (server.inserted rows columns).place) id = some row →
    row = (server.inserted rows columns).row

variable (server t) in
/-- The id that the entity has is the one that the row gets, and the server comes to no other row with
such an id first. An entity may be without the id column if the server generates the id, or if the row
is given an id that is equal to `0`, and is the first one with such an id. -/
def HasId (autoIncrement : Bool) (generates : Param V → Prop) (rows : Rows K)
    (rowDict : Dict String V) : Prop :=
  match rowDict.get? t.idColumn with
  | some v => ((∃ k, server.equals (.value v) k = true) ∧ ¬ generates (.value v)) ∧
    ComesFirst server rows (columnsOf rowDict) (.value v)
  | none => autoIncrement = true ∨
    server.equals (.int 0) (server.inserted rows (columnsOf rowDict)).row.id = true ∧
      ComesFirst server rows (columnsOf rowDict) (.int 0)

variable (server t) in
/-- The id that `create()` looks for. -/
def sought (rows : Rows K) (rowDict : Dict String V) : Param V :=
  ((rowDict.get? t.idColumn).map .value).getD
    (.int (server.inserted rows (columnsOf rowDict)).lastrowid)

/-- **What `create(entity)` does**: it returns what it finds. -/
theorem create_ends {o : Except Raised T}
    (h : (create settings mapping t entity).EndsIn (session server t) s o s')
    (he : mapping.entityToRow entity = rowDict) (hreads : server.Reads t rowDict)
    (haccepts : server.refuses s.rows (insertOf t rowDict) = none) :
    o = entityOf mapping.rowToEntity (server.row (server.added s.rows (columnsOf rowDict))
      (sought server t s.rows rowDict)) ∧ s'.rows = server.added s.rows (columnsOf rowDict) := by
  refine h.eq_of_wpIn (I := fun s' => s'.rows = _) ?_
  unfold create
  refine Coro.wpIn_bind.mpr ((connects_connected _).wpIn_getClient rfl fun pool => ?_)
  dsimp only
  rw [he]
  refine Coro.wpIn_bind.mpr (wpIn_tryExcept.mpr (wpIn_withConnection fun conn => ?_))
  refine Coro.wpIn_bind.mpr (wpIn_withCursor fun cur => ?_)
  refine Coro.wpIn_bind.mpr (wpIn_execute hreads.insert ?_)
  rw [Server.run_insert haccepts]
  refine wpIn_reread (hreads.select _) fun fetched => ?_
  refine Coro.wpIn_bind.mpr (wpIn_command_of.mpr ?_)
  change Coro.wpIn _ (eval (mapping.rowToEntity (server.row _ (sought server t s.rows rowDict))))
    _ _ _
  rw [entityOf]
  cases mapping.rowToEntity (server.row _ (sought server t s.rows rowDict)) with
  | ok a => exact ⟨rfl, rfl⟩
  | error exc => exact ⟨rfl, rfl⟩

omit [DecidableEq K] in
/-- A row that none of all the rows comes before. -/
theorem comesFirst_of_row_eq_none {rows : Rows K} {columns : List (String × Param V)} {id : Param V}
    (h : server.row rows id = none) : ComesFirst server rows columns id := by
  intro row hrow
  have hmem : row ∈ rows := List.mem_of_mem_take (List.mem_of_find?_eq_some hrow)
  have hid : server.equals id row.id = true :=
    List.find?_some (p := fun row : Row K => server.equals id row.id) hrow
  rw [Server.row_eq_none_iff.mp h row hmem] at hid
  cases hid

omit [DecidableEq K] in
/-- What is found is the new row. -/
theorem row_sought_iff {autoIncrement : Bool} {generates : Param V → Prop}
    (hids : AssignsIds server t autoIncrement generates)
    (haccepts : server.refuses s.rows (insertOf t rowDict) = none) :
    server.row (server.added s.rows (columnsOf rowDict)) (sought server t s.rows rowDict) =
        some (server.inserted s.rows (columnsOf rowDict)).row ↔
      HasId server t autoIncrement generates s.rows rowDict := by
  have hlookup : (columnsOf rowDict).lookup t.idColumn = (rowDict.get? t.idColumn).map .value :=
    lookup_map_snd _ _ _
  have haccepted : server.refuses s.rows (.insert t.name (columnsOf rowDict)) = none := haccepts
  rw [Server.row_added_iff]
  unfold sought HasId
  cases hid : rowDict.get? t.idColumn with
  | none =>
    rw [hid, Option.map_none] at hlookup
    dsimp only [Option.map_none, Option.getD_none]
    cases autoIncrement with
    | true =>
      obtain ⟨hnew, hfresh⟩ := hids.generated rfl haccepted fun v hv => by
        rw [hlookup] at hv
        cases hv
      exact iff_of_true ⟨hnew, comesFirst_of_row_eq_none hfresh⟩ (.inl rfl)
    | false =>
      rw [hids.unreported rfl haccepted hlookup]
      exact (or_iff_right Bool.false_ne_true).symm
  | some v =>
    rw [hid, Option.map_some] at hlookup
    dsimp only [Option.map_some, Option.getD_some]
    refine and_congr_left fun _ => ⟨fun hnew => ?_, fun hkept => ?_⟩
    · exact ⟨⟨_, hnew⟩, (hids.given haccepted hlookup ⟨_, hnew⟩).mp hnew⟩
    · exact (hids.given haccepted hlookup hkept.1).mpr hkept.2

/-- What distinguishes a row from what else may be found. -/
def tells [DecidableEq (Row K)] (new : Row K) (row : Option (Row K)) : Except PyExc T :=
  if row = some new then .error typeError else .error timeoutError

omit [DecidableEq K] in
theorem eq_of_entityOf_tells [DecidableEq (Row K)] {new : Row K} {row : Option (Row K)}
    (h : entityOf (T := T) (tells new) row = entityOf (tells new) (some new)) : row = some new := by
  by_contra hne
  have hnew : entityOf (T := T) (tells new) (some new) = .error (.raw typeError) := by
    rw [entityOf, tells, if_pos rfl]
    rfl
  rw [hnew, entityOf, tells, if_neg hne] at h
  have hexc : timeoutError = typeError := Raised.raw.inj (Except.error.inj h)
  have hisa : timeoutError.isa .typeError = typeError.isa .typeError := by rw [hexc]
  exact absurd hisa (by decide)

/-- The new row is returned exactly where its id is known. -/
theorem storesRow_iff_hasId {autoIncrement : Bool} {generates : Param V → Prop}
    (he : mapping.entityToRow entity = rowDict) (hreads : server.Reads t rowDict)
    (hids : AssignsIds server t autoIncrement generates) :
    StoresRow server t (fun f => create settings { mapping with rowToEntity := f } t entity) s
      rowDict ↔ (server.refuses s.rows (insertOf t rowDict) = none →
        HasId server t autoIncrement generates s.rows rowDict) := by
  classical
  constructor
  · intro h haccepts
    obtain ⟨o, s', hend⟩ := exists_end (answer server t) (create settings { mapping with
      rowToEntity := tells (server.inserted s.rows (columnsOf rowDict)).row } t entity) s
    have hnew := h _ hend haccepts
    obtain ⟨hfound, -⟩ := create_ends hend he hreads haccepts
    rw [← row_sought_iff hids haccepts]
    exact eq_of_entityOf_tells (hfound.symm.trans hnew)
  · intro h f o s' hend haccepts
    obtain ⟨hfound, -⟩ := create_ends hend he hreads haccepts
    rw [hfound, (row_sought_iff hids haccepts).mpr (h haccepts)]

end Reread

/-! ### Users -/

/-- A value as it is sent. -/
def valueText : Param (Option String) → Option String
  | .str text => some text
  | .value text => text
  | .int n => some (toString n)
  | .null => none

/-- The id of a new row: the one that is given, or else the next one. -/
def newId (next : ℤ) (columns : List (String × Param (Option String))) : String :=
  ((columns.lookup "id").bind valueText).getD (toString next)

/-- A table whose ids are counted, and where a given id is kept. No id occurs twice. -/
def counting (next : ℤ) : Server (Option String) String where
  read := Sql.read .percent
  equals v k := valueText v = some k
  stored _ := valueText
  touch columns := columns
  refuses
    | rows, .insert _ columns =>
      if ∃ row ∈ rows, row.id = newId next columns then some integrityError else none
    | _, _ => none
  inserted rows columns :=
    { row :=
        { id := newId next columns
          columns := .ofPairs ((columns.filter (·.1 ≠ "id")).map fun c => (c.1, valueText c.2)) }
      place := rows.length
      lastrowid := next }

/-- A row is a user, and no user can be made of `None`. -/
def userMapping : Mapping (Row String) (Option String) (Dict String (Option String)) where
  rowToEntity
    | some row => .ok (row.columns.set "id" (some row.id))
    | none => .error typeError
  entityToRow user := user
  countOf _ := 0

/-- A user with a name. -/
def user (id : Option String) (name : String) : Dict String (Option String) :=
  ⟨[("id", id), ("name", some name)], by simp⟩

/-- There is one user. -/
def oneUser : Session String where
  rows := [⟨"7", .ofPairs [("name", some "Ada")]⟩]
  fetched _ := []

theorem reads_user (next : ℤ) (id : Option String) (name : String) :
    (counting next).Reads users (user id name) := by
  have hnames : ∀ c ∈ ["id", "name"], Sql.IsWord c := by decide
  exact Server.reads_percent rfl (by decide) (by decide) hnames (List.cons_ne_nil _ _)

/-- The ids of that table are generated if they are not given. -/
theorem assignsIds_counting (next : ℤ) :
    AssignsIds (counting next) users true (fun _ => False) where
  given {rows columns v} _ hlookup hv := by
    obtain ⟨k, hk⟩ := hv
    have hgiven : valueText v = some k := of_decide_eq_true hk
    refine iff_of_true (decide_eq_true ?_) not_false
    change valueText v = some (((columns.lookup users.idColumn).bind valueText).getD _)
    rw [hlookup, Option.bind_some, hgiven, Option.getD_some]
  generated _ {rows columns} haccepts hnull := by
    have hnext : newId next columns = toString next := by
      unfold newId
      cases hlookup : columns.lookup "id" with
      | none => rfl
      | some v =>
        have hv : valueText v = none := Option.eq_none_iff_forall_ne_some.mpr fun k hk =>
          of_decide_eq_false (hnull v hlookup k) hk
        rw [Option.bind_some, hv, Option.getD_none]
    refine ⟨decide_eq_true (congrArg some hnext.symm), ?_⟩
    refine Server.row_eq_none_iff.mpr fun row hrow => decide_eq_false fun hid => ?_
    have htaken : row.id = newId next columns := hnext ▸ (Option.some.inj hid).symm
    exact Option.some_ne_none _ (ite_eq_right_iff.mp haccepts ⟨row, hrow, htaken⟩)
  unreported h := Bool.noConfusion h

/-! ### Both repositories -/

section Repositories

variable {F V K T : Type} [DecidableEq K]

/-- **`update()` finds the row** of the entity exactly where it has another value in some column, or
where another row with the id has. -/
theorem findsRow_iff (server : Server V K) (settings : MySQLSettings F)
    (mapping : Mapping (Row K) V T) (t : Table) (entity : T) (s : Session K)
    (hreads : server.Reads t (mapping.entityToRow entity))
    (hcols : updateCols t (mapping.entityToRow entity) ≠ []) :
    (FindsRow server mapping t ((repository settings mapping t).update entity) s
      (mapping.entityToRow entity) ↔
        (server.refuses s.rows (updateOf t (mapping.entityToRow entity)) = none → ∀ row,
          server.row s.rows (entityId t (mapping.entityToRow entity)) = some row →
            ∃ row' ∈ s.rows,
              server.equals (entityId t (mapping.entityToRow entity)) row'.id = true ∧
              ∃ item ∈ updateCols t (mapping.entityToRow entity),
                row'.columns.get? item.1 ≠ some (server.stored item.1 (.value item.2)))) ∧
    (FindsRow server mapping t ((mariadbRepository settings mapping t).update entity) s
      (mapping.entityToRow entity) ↔
        (server.refuses s.rows (updateOf t (mapping.entityToRow entity)) = none → ∀ row,
          server.row s.rows (entityId t (mapping.entityToRow entity)) = some row →
            ∃ row' ∈ s.rows,
              server.equals (entityId t (mapping.entityToRow entity)) row'.id = true ∧
              ∃ item ∈ updateCols t (mapping.entityToRow entity),
                row'.columns.get? item.1 ≠ some (server.stored item.1 (.value item.2)))) :=
  ⟨findsRow_iff_changes rfl hreads hcols, findsRow_iff_changes rfl hreads hcols⟩

/-- `update()` with the name `Grace` returns the row of the user `7` if and only if, unless the server
refuses it, some column of that row changes. -/
theorem findsRow_iff_grace :
    (FindsRow (counting 8) userMapping users ((repository mysqlLocal userMapping users).update
        (user (some "7") "Grace")) oneUser (user (some "7") "Grace") ↔
      ((counting 8).refuses oneUser.rows (updateOf users (user (some "7") "Grace")) = none →
        ∀ row, (counting 8).row oneUser.rows (entityId users (user (some "7") "Grace")) = some row →
          ∃ row' ∈ oneUser.rows,
            (counting 8).equals (entityId users (user (some "7") "Grace")) row'.id = true ∧
            ∃ item ∈ updateCols users (user (some "7") "Grace"),
              row'.columns.get? item.1 ≠ some ((counting 8).stored item.1 (.value item.2)))) ∧
    (FindsRow (counting 8) userMapping users ((mariadbRepository mysqlLocal userMapping
        users).update (user (some "7") "Grace")) oneUser (user (some "7") "Grace") ↔
      ((counting 8).refuses oneUser.rows (updateOf users (user (some "7") "Grace")) = none →
        ∀ row, (counting 8).row oneUser.rows (entityId users (user (some "7") "Grace")) = some row →
          ∃ row' ∈ oneUser.rows,
            (counting 8).equals (entityId users (user (some "7") "Grace")) row'.id = true ∧
            ∃ item ∈ updateCols users (user (some "7") "Grace"),
              row'.columns.get? item.1 ≠ some ((counting 8).stored item.1 (.value item.2)))) :=
  findsRow_iff (counting 8) mysqlLocal userMapping users (user (some "7") "Grace") oneUser
    (reads_user 8 (some "7") "Grace") (by decide)

/-- An `update()` with the name that the user has returns `None`. -/
theorem not_findsRow :
    ¬ FindsRow (counting 8) userMapping users ((repository mysqlLocal userMapping users).update
      (user (some "7") "Ada")) oneUser (user (some "7") "Ada") := by
  intro h
  have hcols : updateCols users (user (some "7") "Ada") ≠ [] := by decide
  have hiff := (findsRow_iff_changes rfl (reads_user 8 (some "7") "Ada") hcols).mp h
  obtain ⟨row', hrow', -, item, hitem, hne⟩ := hiff rfl ⟨"7", .ofPairs [("name", some "Ada")]⟩ rfl
  obtain rfl : row' = ⟨"7", .ofPairs [("name", some "Ada")]⟩ := List.mem_singleton.mp hrow'
  obtain rfl : item = ("name", some "Ada") := List.mem_singleton.mp hitem
  exact hne rfl

end Repositories

end OpenframeAdapters.Db.Mysql
