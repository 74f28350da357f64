import OpenframeAdapters.Db.Oracle.Server

/-!
# Reading, changing and writing an Oracle row

An `OracleRepository` with the base mapping gives out a row as a `dict`, whose keys are the names in
`cursor.description`, and takes a `dict` to update the row. The id is looked up under `id`.

## The model

* `Obtained` — a `dict` that `get()`, `list()` or `create()` has returned.
* `changed` — the same `dict`, with other values for the columns that are not the id column.
* `Updates` — `update()` gives one row the values of the `dict`, and returns it.

## What is proved

The names are reported in upper case, so the `dict` has a key `ID` and no key `id`. Then the
statement of `update()` looks for the rows whose id is `NULL`, and finds none (`found_of_obtained`,
`wpIn_update`). `create()` returns its argument if the new row is not found by its id, and then
`update()` does not find it by this id either. So no `dict` that has been read can be written back
(`not_updates`).
-/

namespace OpenframeAdapters.Db.Oracle

open Python OpenframeAdapters.Core

open Postgres (Table Param)

/-- The base mapping: an entity is the `dict` itself. `countOf` is `int(count_row[0])`. -/
def baseMapping {V : Type} (countOf : List V → Except PyExc ℤ) : Mapping V (Dict String V) where
  rowToEntity row := row
  entityToRow entity := entity
  countOf := countOf

/-- A table with the default id column. -/
def defaultTable (name : String) : Table := ⟨name, "id"⟩

section Rows

variable {V K : Type} [DecidableEq K] (server : Server V K) (settings : OracleSettings)
  (countOf : List V → Except PyExc ℤ) (name : String)

/-- A `dict` that the repository has returned for a row, and the session after it has. -/
inductive Obtained : Dict String V → Session V K → Prop
  /-- `get(id)`. -/
  | get {id s d s'} : (get settings (baseMapping countOf) (defaultTable name) id).EndsIn
      (session server (defaultTable name)) s (.ok (some d)) s' → Obtained d s'
  /-- `list(limit, offset)`. -/
  | list {limit offset s ds count d s'} :
      (list settings (baseMapping countOf) (defaultTable name) limit offset).EndsIn
        (session server (defaultTable name)) s (.ok (ds, count)) s' → d ∈ ds → Obtained d s'
  /-- `create(entity)`. -/
  | create {entity s d s'} : (create settings (baseMapping countOf) (defaultTable name) entity).EndsIn
      (session server (defaultTable name)) s (.ok d) s' → Obtained d s'

omit [DecidableEq K] in
/-- The values of the other columns are changed. -/
def changed (change : String → V → V) (d : Dict String V) : Dict String V where
  items := d.items.map fun item =>
    (item.1, if server.same item.1 "id" then item.2 else change item.1 item.2)
  nodup := by
    have hkeys : ((d.items.map fun item => (item.1, if server.same item.1 "id" then item.2
        else change item.1 item.2)).map Prod.fst) = d.items.map Prod.fst := by
      rw [List.map_map]
      rfl
    rw [hkeys]
    exact d.nodup

/-- The columns of a `dict` that are not the id column. -/
def setsOf (rowDict : Dict String V) : List (String × Param V) :=
  (rowDict.items.filter fun item => !server.same item.1 "id").map fun item =>
    (item.1, .value item.2)

/-- `update(row_dict)` gives the row the values, and nothing else to any row, and returns it. -/
structure Updates (s : Session V K) (row : Row K) (rowDict : Dict String V) : Prop where
  /-- The row has the values. -/
  stores : ∃ before after, s.rows = before ++ row :: after ∧ ∀ {o s'},
    (update settings (baseMapping countOf) (defaultTable name) rowDict).EndsIn
      (session server (defaultTable name)) s o s' →
        s'.rows = before ++ server.assign (setsOf server rowDict) row :: after
  /-- The row is returned. -/
  returns : ∀ {o s'}, (update settings (baseMapping countOf) (defaultTable name) rowDict).EndsIn
    (session server (defaultTable name)) s o s' →
      o = .ok (some (server.dict (server.assign (setsOf server rowDict) row)))

/-! ### The names of the columns -/

variable {server settings countOf name} {s s' : Session V K} {d : Dict String V}

/-- A row of a cursor has no key that is not in `cursor.description`. -/
theorem get?_cursorRowToDict {done : Cursor} {key : String} (h : key ∉ done.description)
    (row : List V) : (cursorRowToDict done row).get? key = none := by
  unfold cursorRowToDict
  rw [Dict.get?_ofPairs, List.lookup_eq_none_iff]
  intro p hp
  rw [bne_iff_ne]
  rintro rfl
  exact h (List.of_mem_zip (List.mem_reverse.mp hp)).1

/-- Without the key, the id is `NULL`. -/
theorem found_of_get? (h : d.get? "id" = none) :
    server.found (defaultTable name) s.rows (entityId (defaultTable name) d) = [] := by
  have hnull : entityId (defaultTable name) d = .null := by
    unfold entityId defaultTable
    rw [h]
    rfl
  rw [hnull]
  exact Server.found_null

/-- What `get()` returns has no key `id`. -/
theorem wpIn_get (id : String) :
    (Oracle.get settings (baseMapping countOf) (defaultTable name) id).wpIn
      (session server (defaultTable name)) (fun o _ => ∀ d ∈ o, d.get? "id" = none)
      (fun _ _ => True) s := by
  unfold Oracle.get
  refine Coro.wpIn_bind.mpr ((connects_connected _).wpIn_getClient rfl fun pool => ?_)
  refine Coro.wpIn_bind.mpr (wpIn_tryExcept.mpr ?_)
  refine wpIn_withConnection fun conn => wpIn_withCursor fun cur => ?_
  refine Coro.wpIn_bind.mpr (wpIn_execute_any (fun _ _ => trivial) fun done s' hdone => ?_)
  refine Coro.wpIn_bind.mpr (wpIn_fetchone ?_)
  intro d hd
  simp only [Option.map_map, Option.mem_def, Option.map_eq_some_iff] at hd
  obtain ⟨row, -, rfl⟩ := hd
  exact get?_cursorRowToDict hdone row

/-- What `list()` returns has no key `id`. -/
theorem wpIn_list (limit offset : ℤ) :
    (Oracle.list settings (baseMapping countOf) (defaultTable name) limit offset).wpIn
      (session server (defaultTable name)) (fun o _ => ∀ d ∈ o.1, d.get? "id" = none)
      (fun _ _ => True) s := by
  unfold Oracle.list
  refine Coro.wpIn_bind.mpr ((connects_connected _).wpIn_getClient rfl fun pool => ?_)
  refine wpIn_tryExcept.mpr (wpIn_withConnection fun conn => wpIn_withCursor fun cur => ?_)
  refine Coro.wpIn_bind.mpr (wpIn_execute_any (fun _ _ => trivial) fun done s' hdone => ?_)
  refine Coro.wpIn_bind.mpr (wpIn_command_of.mpr ?_)
  refine Coro.wpIn_bind.mpr (wpIn_execute_any (fun _ _ => trivial) fun _ s'' _ => ?_)
  refine Coro.wpIn_bind.mpr (wpIn_fetchone ?_)
  have hentities : ∀ d ∈ (s'.fetched cur).map fun row => cursorRowToDict done row,
      d.get? "id" = none := by
    intro d hd
    obtain ⟨row, -, rfl⟩ := List.mem_map.mp hd
    exact get?_cursorRowToDict hdone row
  cases (s''.fetched cur).head? with
  | none => exact hentities
  | some countRow =>
    refine Coro.wpIn_bind.mpr ?_
    change Coro.wpIn _ (eval (countOf countRow)) _ _ _
    cases countOf countRow with
    | ok n => exact hentities
    | error exc => trivial

/-- What `create()` returns does not lead to a row: it has no key `id`, or it is the argument, by
whose id no row has been found. -/
theorem wpIn_create {entity : Dict String V}
    (hselect : ∀ id, server.read (getQuery (defaultTable name)) [id] =
      some (.sql (.select (defaultTable name).name ((defaultTable name).idColumn, id) none))) :
    (Oracle.create settings (baseMapping countOf) (defaultTable name) entity).wpIn
      (session server (defaultTable name)) (fun d s' =>
        server.found (defaultTable name) s'.rows (entityId (defaultTable name) d) = [])
      (fun _ _ => True) s := by
  unfold Oracle.create
  refine Coro.wpIn_bind.mpr ((connects_connected _).wpIn_getClient rfl fun pool => ?_)
  refine Coro.wpIn_bind.mpr (wpIn_tryExcept.mpr (wpIn_withConnection fun conn => ?_))
  refine Coro.wpIn_bind.mpr (wpIn_withCursor fun cur => ?_)
  refine Coro.wpIn_bind.mpr (wpIn_execute_any (fun _ _ => trivial) fun _ s' _ => ?_)
  refine wpIn_reread (hselect _) fun fetched => ?_
  refine Coro.wpIn_pure _ |>.mpr (Coro.wpIn_bind.mpr (wpIn_command_of.mpr ?_))
  change server.found (defaultTable name) s'.rows (entityId (defaultTable name)
    (((server.found (defaultTable name) s'.rows (entityId (defaultTable name) entity)).head?.map
      server.tuple).map (cursorRowToDict _) |>.getD entity)) = []
  cases hfound : server.found (defaultTable name) s'.rows (entityId (defaultTable name) entity) with
  | nil => exact hfound
  | cons row rest =>
    exact found_of_get? (get?_cursorRowToDict server.id_notMem_columns (server.tuple row))

/-- **No row is found** by the id of a `dict` that has been read. -/
theorem found_of_obtained (hselect : ∀ id, server.read (getQuery (defaultTable name)) [id] =
      some (.sql (.select (defaultTable name).name ((defaultTable name).idColumn, id) none)))
    (h : Obtained server settings countOf name d s) :
    server.found (defaultTable name) s.rows (entityId (defaultTable name) d) = [] := by
  cases h with
  | get hend => exact found_of_get? (hend.of_wpIn (wpIn_get _) d rfl)
  | list hend hd => exact found_of_get? (hend.of_wpIn (wpIn_list _ _) d hd)
  | create hend => exact hend.of_wpIn (wpIn_create hselect)

/-- **What `get(id)` does**: it returns the row that has the id. -/
theorem wpIn_get_row (id : String) (hselect : ∀ id, server.read (getQuery (defaultTable name)) [id] =
      some (.sql (.select (defaultTable name).name ((defaultTable name).idColumn, id) none))) :
    (Oracle.get settings (baseMapping countOf) (defaultTable name) id).wpIn
      (session server (defaultTable name)) (fun o s' =>
        o = (server.found (defaultTable name) s.rows (.str id)).head?.map server.dict ∧
          s'.rows = s.rows) (fun _ _ => False) s := by
  unfold Oracle.get
  refine Coro.wpIn_bind.mpr ((connects_connected _).wpIn_getClient rfl fun pool => ?_)
  refine Coro.wpIn_bind.mpr (wpIn_tryExcept.mpr ?_)
  refine wpIn_withConnection fun conn => wpIn_withCursor fun cur => ?_
  refine wpIn_reread (hselect _) fun fetched => ?_
  refine Coro.wpIn_pure _ |>.mpr ⟨?_, rfl⟩
  cases (server.found (defaultTable name) s.rows (.str id)).head? with
  | none => rfl
  | some row => rfl

/-- A row that is found can be read. -/
theorem exists_obtained {id : String} {row : Row K}
    (hselect : ∀ id, server.read (getQuery (defaultTable name)) [id] =
      some (.sql (.select (defaultTable name).name ((defaultTable name).idColumn, id) none)))
    (hrow : (server.found (defaultTable name) s.rows (.str id)).head? = some row) :
    ∃ s', s'.rows = s.rows ∧ Obtained server settings countOf name (server.dict row) s' := by
  obtain ⟨o, s', hend⟩ := exists_end (answer server (defaultTable name))
    (Oracle.get settings (baseMapping countOf) (defaultTable name) id) s
  have hgot := hend.of_wpIn (wpIn_get_row id hselect)
  cases o with
  | error x => exact hgot.elim
  | ok o =>
    obtain ⟨ho, hrows⟩ := hgot
    rw [hrow] at ho
    subst ho
    exact ⟨s', hrows, .get hend⟩

/-! ### Writing it back -/

omit [DecidableEq K] in
/-- The id is not changed. -/
theorem entityId_changed (change : String → V → V) (d : Dict String V) :
    entityId (defaultTable name) (changed server change d) = entityId (defaultTable name) d := by
  have hlookup : ∀ items : List (String × V), (items.map fun item =>
      (item.1, if server.same item.1 "id" then item.2 else change item.1 item.2)).lookup "id" =
      items.lookup "id" := by
    intro items
    induction items with
    | nil => rfl
    | cons item rest ih =>
      rw [List.map_cons, lookup_cons, lookup_cons, ih]
      split_ifs with hid hsame
      · rfl
      · exact absurd (decide_eq_true (congrArg server.upper hid.symm)) hsame
      · rfl
  unfold entityId changed Dict.get?
  rw [show (defaultTable name).idColumn = "id" from rfl, hlookup]

/-- `update()` without a row changes none, and returns `None`. -/
theorem wpIn_update {rowDict : Dict String V} (hreads : server.Reads (defaultTable name) rowDict)
    (hfound : server.found (defaultTable name) s.rows (entityId (defaultTable name) rowDict) = []) :
    (Oracle.update settings (baseMapping countOf) (defaultTable name) rowDict).wpIn
      (session server (defaultTable name)) (fun o s' => o = none ∧ s'.rows = s.rows)
      (fun _ s' => s'.rows = s.rows) s := by
  unfold Oracle.update
  refine Coro.wpIn_bind.mpr ((connects_connected _).wpIn_getClient rfl fun pool => ?_)
  dsimp only
  by_cases hcols : updateCols (defaultTable name) rowDict = []
  · rw [if_pos (by simpa [baseMapping] using hcols)]
    exact Coro.wpIn_bind.mpr rfl
  rw [if_neg (by simpa [baseMapping] using hcols)]
  refine Coro.wpIn_bind.mpr (wpIn_tryExcept.mpr (wpIn_withConnection fun conn => ?_))
  refine Coro.wpIn_bind.mpr (wpIn_withCursor fun cur => ?_)
  refine Coro.wpIn_bind.mpr (wpIn_execute (hreads.update hcols) ?_)
  rw [updateOf, Server.run_update]
  cases server.refuses s.rows _ with
  | some exc => exact rfl
  | none =>
    dsimp only [Coro.Promised]
    rw [hfound]
    exact Coro.wpIn_bind.mpr (wpIn_command_of.mpr ⟨rfl, Server.updated_of_found hfound⟩)

theorem not_updates_of_found {row : Row K} {rowDict : Dict String V}
    (hreads : server.Reads (defaultTable name) rowDict)
    (hfound : server.found (defaultTable name) s.rows (entityId (defaultTable name) rowDict) = []) :
    ¬ Updates server settings countOf name s row rowDict := by
  intro h
  obtain ⟨o, s', hend⟩ := exists_end (answer server (defaultTable name))
    (Oracle.update settings (baseMapping countOf) (defaultTable name) rowDict) s
  have ho := h.returns hend
  subst ho
  exact absurd (hend.of_wpIn (wpIn_update hreads hfound)).1 (Option.some_ne_none _)

end Rows

/-- **Reading, changing and writing** a row never updates it. -/
theorem not_updates {V K : Type} [DecidableEq K] (server : Server V K) (settings : OracleSettings)
    (countOf : List V → Except PyExc ℤ) (name : String) (d : Dict String V) (s : Session V K)
    (change : String → V → V)
    (hreads : server.Reads (defaultTable name) (changed server change d))
    (h : Obtained server settings countOf name d s) (row : Row K) :
    ¬ Updates server settings countOf name s row (changed server change d) := by
  apply not_updates_of_found hreads
  rw [entityId_changed]
  exact found_of_obtained hreads.select h

/-! ### People -/

/-- A value as it is sent. -/
def valueText : Param (Option String) → Option String
  | .str text => some text
  | .value text => text
  | .int n => some (toString n)
  | .null => none

/-- A table `people` with the columns `id` and `name`, without constraints. -/
def people : Server (Option String) String where
  upper name := String.ofList (name.toList.map Char.toUpper)
  upper_id := by decide
  columns := ["ID", "NAME"]
  upper_columns := by decide
  read text args :=
    match Sql.read .colon text args, args with
    | some stmt, _ => some (.sql stmt)
    | none, [.int offset, .int limit] =>
      if text = rowsQuery (defaultTable "people") then some (.page offset limit) else none
    | none, _ => if text = countQuery (defaultTable "people") then some .count else none
  key := valueText
  key_null := rfl
  stored _ := valueText
  fetched value := value
  number n := some (toString n)
  sorted rows := rows
  refuses _ _ := none
  inserted _ columns column :=
    ((columns.find? fun c => String.ofList (c.1.toList.map Char.toUpper) = column).map
      Prod.snd).bind valueText

/-- One of them. -/
def ada : Row String := fun column =>
  if column = "ID" then some "7" else if column = "NAME" then some "Ada" else none

/-- Nobody else. -/
def onePerson : Session (Option String) String := ⟨[ada], fun _ => []⟩

/-- `int(count_row[0])`, which is not needed. -/
def noCount (_ : List (Option String)) : Except PyExc ℤ := .ok 0

/-- Her name is changed. -/
def renamed : Dict String (Option String) := changed people (fun _ _ => some "Grace") (people.dict ada)

theorem reads_people (rowDict : Dict String (Option String))
    (hnames : ∀ c ∈ Db.columns rowDict, Sql.IsWord c) :
    people.Reads (defaultTable "people") rowDict := by
  refine Server.reads_colon (fun hread => ?_) (by decide) (by decide) hnames
  unfold people
  dsimp only
  rw [hread]

theorem reads_renamed : people.Reads (defaultTable "people") renamed :=
  reads_people renamed (by decide)

theorem exists_ada : ∃ s, s.rows = [ada] ∧
    Obtained people oracleLocal noCount "people" (people.dict ada) s := by
  have hfound : (people.found (defaultTable "people") onePerson.rows (.str "7")).head? = some ada :=
    rfl
  exact exists_obtained reads_renamed.select hfound

/-- What `get("7")` has returned cannot be written back with another name. -/
theorem not_updates_ada : ∃ s, s.rows = [ada] ∧
    ¬ Updates people oracleLocal noCount "people" s ada renamed := by
  obtain ⟨s, hrows, h⟩ := exists_ada
  exact ⟨s, hrows, not_updates people oracleLocal noCount "people" (people.dict ada) s
    (fun _ _ => some "Grace") reads_renamed h ada⟩

/-- **The property** fails for that table. -/
theorem not_readModifyWrite : ¬ ∀ d s, Obtained people oracleLocal noCount "people" d s →
    ∀ change, people.Reads (defaultTable "people") (changed people change d) →
      ∃ row, Updates people oracleLocal noCount "people" s row (changed people change d) := by
  intro h
  obtain ⟨s, -, hobtained⟩ := exists_ada
  obtain ⟨row, hupdates⟩ := h _ s hobtained (fun _ _ => some "Grace") reads_renamed
  refine not_updates_of_found reads_renamed ?_ hupdates
  rw [renamed, entityId_changed]
  exact found_of_obtained reads_renamed.select hobtained

end OpenframeAdapters.Db.Oracle
